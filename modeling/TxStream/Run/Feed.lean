import Mathlib.Data.List.Infix

/-!
# Live feeds

A live feed is a log that others attach to, one after another. An attachment
sees what is selected of the log from where it begins, and may break off at any
time; what is logged until the next one begins is seen by nobody.

Main results:

* `LiveFeed.grow` — the log goes on whether or not somebody is attached.
* `LiveFeed.account` — everything selected was seen, in order and once, or it was
  logged before the first attachment, or behind the end of another.
* `LiveFeed.isInfix` — nothing is missing inside what one attachment saw.
-/

namespace Run

variable {α : Type} {select : α → Bool}

/-- A log and what each attachment has seen of it. The log falls into what came
before the first attachment and a window for each; an attachment has seen the
beginning of what is selected of its window. -/
inductive LiveFeed (select : α → Bool) : List α → List (List α) → Prop where
  | start (log : List α) : LiveFeed select log []
  | attach {before window seen : List α} {attachments : List (List α)} :
      LiveFeed select before attachments → seen <+: window.filter select →
      LiveFeed select (before ++ window) (attachments ++ [seen])

namespace LiveFeed

variable {log : List α} {attachments : List (List α)}

/-- Whatever is logged belongs to the window of the last attachment. -/
theorem grow (h : LiveFeed select log attachments) (more : List α) :
    LiveFeed select (log ++ more) attachments := by
  cases h with
  | start => exact .start _
  | @attach before window seen attachments h hSeen =>
    rw [List.append_assoc]
    refine h.attach ?_
    rw [List.filter_append]
    exact hSeen.trans (List.prefix_append _ _)

/-- **The account of a live feed.** What is selected of the log is what came
before the first attachment and then, attachment by attachment, what it saw and
what was lost behind it. -/
theorem account (h : LiveFeed select log attachments) :
    ∃ (skipped : List α) (lost : List (List α)), lost.length = attachments.length ∧
      log.filter select = skipped ++ (List.zipWith (· ++ ·) attachments lost).flatten := by
  induction h with
  | start log => exact ⟨log.filter select, [], rfl, (List.append_nil _).symm⟩
  | @attach before window seen attachments _ hSeen ih =>
    obtain ⟨skipped, lost, hLength, hBefore⟩ := ih
    -- the window is what was seen of it and what was not
    obtain ⟨behind, hBehind⟩ := hSeen
    refine ⟨skipped, lost ++ [behind], ?_, ?_⟩
    · rw [List.length_append, List.length_append, hLength]
      rfl
    · rw [List.filter_append, hBefore, ← hBehind, List.zipWith_append hLength.symm,
        List.flatten_append, List.append_assoc]
      simp

/-- One attachment saw all that was selected between any two things it saw. -/
theorem isInfix {seen : List α} (h : LiveFeed select log attachments)
    (hMem : seen ∈ attachments) : seen <:+: log.filter select := by
  induction h with
  | start log => exact nomatch hMem
  | @attach before window last attachments _ hLast ih =>
    rw [List.filter_append]
    rcases List.mem_append.mp hMem with hMem | hMem
    · exact (ih hMem).trans (List.prefix_append _ _).isInfix
    · obtain rfl := List.mem_singleton.mp hMem
      exact hLast.isInfix.trans (List.suffix_append _ _).isInfix

end LiveFeed

end Run
