import Mathlib.Data.List.Basic
import Mathlib.Data.List.Chain
import Mathlib.Data.List.Forall2

/-!
# Runs of a validator

A validator reads inputs one at a time and accepts or rejects each; it goes on
after a rejection. `results` are its answers and `final` is the state behind
them.

A validator is a `Sequencer` when a rejection leaves its state alone and its
state remembers just enough of the last accepted output to decide whether the
next one may follow it. What such a validator accepts over a whole run is then
a statement about lists alone.

Main results:

* `Sequencer.result_ok_iff` — which inputs of a run are accepted.
* `Sequencer.isChain_accepted` — the accepted outputs follow one another.
* `Sequencer.accepts_iff` — when every input of a run is accepted.
* `results_select` — deleting rejected inputs changes no other result.
-/

namespace Run

variable {σ ι ε α : Type}

/-- One step of a validator. -/
abbrev Step (σ ι ε α : Type) := ι → EStateM ε σ α

/-- What the caller gets of a step. -/
def outcome : EStateM.Result ε σ α → Except ε α
  | .ok a _ => .ok a
  | .error e _ => .error e

/-- What the validator is after it, on either path. -/
def state : EStateM.Result ε σ α → σ
  | .ok _ s => s
  | .error _ s => s

/-- The answers to the inputs, one after another. -/
def results (step : Step σ ι ε α) : σ → List ι → List (Except ε α)
  | _, [] => []
  | s, x :: xs => outcome (step x s) :: results step (state (step x s)) xs

/-- The state after the inputs. -/
def final (step : Step σ ι ε α) (s : σ) (xs : List ι) : σ :=
  xs.foldl (fun s x => state (step x s)) s

/-- The outputs among the answers. -/
def accepted (rs : List (Except ε α)) : List α := rs.filterMap Except.toOption

/-- Every input is accepted. -/
def Accepts (step : Step σ ι ε α) (s : σ) (xs : List ι) : Prop :=
  ∀ r ∈ results step s xs, ∃ a, r = .ok a

/-- The entries that a mask keeps. -/
def select {β : Type} : List Bool → List β → List β
  | true :: mask, b :: bs => b :: select mask bs
  | false :: mask, _ :: bs => select mask bs
  | _, _ => []

/-- The answers up to the first rejection and including it. -/
def throughError : List (Except ε α) → List (Except ε α)
  | [] => []
  | .ok a :: rs => .ok a :: throughError rs
  | .error e :: _ => [.error e]

section Lists

variable (step : Step σ ι ε α) (s : σ)

/-- Every input is answered. -/
@[simp] theorem length_results (xs : List ι) : (results step s xs).length = xs.length := by
  induction xs generalizing s with
  | nil => rfl
  | cons x xs ih => rw [results, List.length_cons, ih, List.length_cons]

/-- The answers to the first inputs do not depend on the others. -/
theorem take_results (xs : List ι) (n : Nat) :
    (results step s xs).take n = results step s (xs.take n) := by
  induction xs generalizing s n with
  | nil => rw [results, List.take_nil, List.take_nil, results]
  | cons x xs ih =>
    cases n with
    | zero => rfl
    | succ n => rw [results, List.take_succ_cons, List.take_succ_cons, results, ih]

/-- A run may be cut anywhere, and goes on from the state there. -/
theorem results_append (xs ys : List ι) :
    results step s (xs ++ ys) = results step s xs ++ results step (final step s xs) ys := by
  induction xs generalizing s with
  | nil => rfl
  | cons x xs ih => rw [List.cons_append, results, ih, results, List.cons_append]; rfl

/-- The state behind a run, from its first input on. -/
theorem final_cons (x : ι) (xs : List ι) :
    final step s (x :: xs) = final step (state (step x s)) xs := rfl

/-- A run leads where its second part leads from the state behind the first. -/
theorem final_append (xs ys : List ι) :
    final step s (xs ++ ys) = final step (final step s xs) ys := List.foldl_append

/-- An answer is the step's answer in the state that the earlier inputs lead to. -/
theorem getElem?_results (xs : List ι) (i : Nat) :
    (results step s xs)[i]? =
      xs[i]?.map fun x => outcome (step x (final step s (xs.take i))) := by
  induction xs generalizing s i with
  | nil => simp [results]
  | cons x xs ih =>
    cases i with
    | zero => rfl
    | succ i =>
      rw [results, List.getElem?_cons_succ, List.getElem?_cons_succ, ih, List.take_succ_cons]
      rfl

variable {step s}

/-- The step behind an answer that accepts. -/
theorem step_of_result {xs : List ι} {i : Nat} {a : α}
    (h : (results step s xs)[i]? = some (.ok a)) :
    ∃ x, xs[i]? = some x ∧ ∃ s', step x (final step s (xs.take i)) = .ok a s' := by
  rw [getElem?_results, Option.map_eq_some_iff] at h
  obtain ⟨x, hx, hOutcome⟩ := h
  refine ⟨x, hx, ?_⟩
  cases hResult : step x (final step s (xs.take i)) with
  | ok a' s' =>
    rw [hResult] at hOutcome
    obtain rfl := Except.ok.inj hOutcome
    exact ⟨s', rfl⟩
  | error e s' =>
    rw [hResult] at hOutcome
    exact nomatch hOutcome

/-- Nothing to reject. -/
theorem accepts_nil : Accepts step s [] := fun _ h => nomatch h

/-- Acceptance goes input by input. -/
theorem accepts_cons {x : ι} {xs : List ι} :
    Accepts step s (x :: xs) ↔ ∃ a s', step x s = .ok a s' ∧ Accepts step s' xs := by
  rw [Accepts, results, List.forall_mem_cons]
  cases h : step x s with
  | ok a s' =>
    constructor
    · rintro ⟨-, hRest⟩
      exact ⟨a, s', rfl, hRest⟩
    · rintro ⟨a', s'', hEq, hRest⟩
      obtain ⟨rfl, rfl⟩ := EStateM.Result.ok.inj hEq
      exact ⟨⟨a, rfl⟩, hRest⟩
  | error e s' =>
    refine iff_of_false ?_ ?_
    · rintro ⟨⟨a, hEq⟩, -⟩
      exact nomatch hEq
    · rintro ⟨a, s'', hEq, -⟩
      exact nomatch hEq

/-- A run is accepted iff both of its parts are, each from its own state. -/
theorem accepts_append {xs ys : List ι} :
    Accepts step s (xs ++ ys) ↔ Accepts step s xs ∧ Accepts step (final step s xs) ys := by
  rw [Accepts, results_append, List.forall_mem_append]
  rfl

@[simp] theorem accepted_ok (a : α) (rs : List (Except ε α)) :
    accepted (.ok a :: rs) = a :: accepted rs := rfl

@[simp] theorem accepted_error (e : ε) (rs : List (Except ε α)) :
    accepted (.error e :: rs) = accepted rs := rfl

@[simp] theorem accepted_map_ok (as : List α) :
    accepted (as.map .ok : List (Except ε α)) = as := by
  induction as with
  | nil => rfl
  | cons a as ih => rw [List.map_cons, accepted_ok, ih]

/-- Not every input is accepted when one of them is rejected. -/
theorem exists_error {xs : List ι} (h : ¬ Accepts step s xs) :
    ∃ (i : Nat) (e : ε), (results step s xs)[i]? = some (.error e) := by
  simp only [Accepts, not_forall] at h
  obtain ⟨r, hMem, hError⟩ := h
  obtain ⟨i, hi⟩ := List.getElem?_of_mem hMem
  cases r with
  | ok a => exact absurd ⟨a, rfl⟩ hError
  | error e => exact ⟨i, e, hi⟩

end Lists

-- ---------------------------------------------------------------------------
-- Rejections that leave no trace
-- ---------------------------------------------------------------------------

/-- A rejection leaves the state as it was. -/
def Conservative (step : Step σ ι ε α) : Prop :=
  ∀ x s e s', step x s = .error e s' → s' = s

section Conservative

variable {step : Step σ ι ε α} (hStep : Conservative step)
include hStep

/-- The state behind a step whose answer is an error. -/
theorem state_of_error {x : ι} {s : σ} {e : ε} (h : outcome (step x s) = .error e) :
    state (step x s) = s := by
  cases hResult : step x s with
  | ok a s' =>
    rw [hResult] at h
    exact nomatch h
  | error e' s' => exact hStep x s e' s' hResult

/-- **Deleting rejected inputs changes no other result.** -/
theorem results_select {s : σ} {mask : List Bool} {xs : List ι} (hLen : mask.length = xs.length)
    (hMask : ∀ i : Nat, mask[i]? = some false →
      ∃ e, (results step s xs)[i]? = some (Except.error e)) :
    results step s (select mask xs) = select mask (results step s xs) := by
  induction mask generalizing s xs with
  | nil => rfl
  | cons keep mask ih =>
    cases xs with
    | nil => exact nomatch hLen
    | cons x xs =>
      have hRest : ∀ i : Nat, mask[i]? = some false →
          ∃ e, (results step (state (step x s)) xs)[i]? = some (Except.error e) :=
        fun i hi => hMask (i + 1) hi
      have hLength : mask.length = xs.length := Nat.succ.inj hLen
      cases keep with
      | true => rw [select, results, results, select, ih hLength hRest]
      | false =>
        obtain ⟨e, hError⟩ := hMask 0 rfl
        -- the deleted input was rejected, so the others are read in the same states
        have hState := state_of_error hStep (Option.some.inj hError)
        rw [hState] at hRest
        rw [select, results, select, hState, ih hLength hRest]

end Conservative

-- ---------------------------------------------------------------------------
-- Validators that look at the last accepted output
-- ---------------------------------------------------------------------------

/-- `Rel` says which last output a state remembers, `Eligible` what an input can
be read as, and `R` what may follow what. -/
structure Sequencer (step : Step σ ι ε α) (Rel : σ → Option α → Prop) (Eligible : ι → α → Prop)
    (R : α → α → Prop) : Prop where
  of_ok : ∀ {s last x a s'}, Rel s last → step x s = .ok a s' →
    Eligible x a ∧ (∀ b ∈ last, R b a) ∧ Rel s' (some a)
  ok : ∀ {s last x a}, Rel s last → Eligible x a → (∀ b ∈ last, R b a) →
    ∃ s', step x s = .ok a s'
  of_error : Conservative step

namespace Sequencer

variable {step : Step σ ι ε α} {Rel : σ → Option α → Prop} {Eligible : ι → α → Prop}
  {R : α → α → Prop} (h : Sequencer step Rel Eligible R)
include h

/-- What the state remembers after a step. -/
theorem rel_step {s : σ} {last : Option α} (hRel : Rel s last) (x : ι) :
    Rel (state (step x s)) ((accepted [outcome (step x s)]).getLast?.or last) := by
  cases hResult : step x s with
  | ok a s' => exact (h.of_ok hRel hResult).2.2
  | error e s' =>
    -- a rejection leaves the state alone, so it remembers what it did
    obtain rfl := h.of_error x s e s' hResult
    exact hRel

/-- What the state remembers after a run: the last accepted output. -/
theorem rel_final {s : σ} {last : Option α} (hRel : Rel s last) (xs : List ι) :
    Rel (final step s xs) ((accepted (results step s xs)).getLast?.or last) := by
  induction xs generalizing s last with
  | nil => exact hRel
  | cons x xs ih =>
    have hRest := ih (h.rel_step hRel x)
    rw [final_cons, results]
    cases hResult : step x s with
    | ok a s' =>
      rw [hResult] at hRest
      have hLast : (accepted (results step s' xs)).getLast?.or (some a) =
          (a :: accepted (results step s' xs)).getLast?.or last := by
        rw [List.getLast?_cons]
        cases (accepted (results step s' xs)).getLast? <;> rfl
      rw [outcome, accepted_ok, state, ← hLast]
      exact hRest
    | error e s' =>
      rw [hResult] at hRest
      exact hRest

/-- **Which inputs of a run are accepted.** An input is accepted, and read as
`a`, iff it can be read as `a` and `a` may follow the last accepted output. -/
theorem result_ok_iff {s : σ} (hRel : Rel s none) {xs : List ι} {i : Nat} {a : α} :
    (results step s xs)[i]? = some (.ok a) ↔
      ∃ x, xs[i]? = some x ∧ Eligible x a ∧
        ∀ b ∈ (accepted ((results step s xs).take i)).getLast?, R b a := by
  -- the state in front of the input remembers the last output accepted by then
  have hFinal := h.rel_final hRel (xs.take i)
  rw [Option.or_none, ← take_results] at hFinal
  constructor
  · intro hResult
    obtain ⟨x, hx, s', hStep⟩ := step_of_result hResult
    obtain ⟨hEligible, hLast, -⟩ := h.of_ok hFinal hStep
    exact ⟨x, hx, hEligible, hLast⟩
  · rintro ⟨x, hx, hEligible, hLast⟩
    obtain ⟨s', hStep⟩ := h.ok hFinal hEligible hLast
    rw [getElem?_results, hx]
    show some (outcome _) = _
    rw [hStep]
    rfl

/-- The accepted outputs of a run follow one another. -/
theorem isChain_accepted {s : σ} {last : Option α} (hRel : Rel s last) (xs : List ι) :
    (last.toList ++ accepted (results step s xs)).IsChain R := by
  -- the last accepted output stands in front of those to come
  induction xs generalizing s last with
  | nil => cases last <;> simp [results, accepted]
  | cons x xs ih =>
    have hRest := ih (h.rel_step hRel x)
    rw [results]
    cases hResult : step x s with
    | ok a s' =>
      rw [hResult] at hRest
      obtain ⟨-, hLast, -⟩ := h.of_ok hRel hResult
      cases last with
      | none => exact hRest
      | some b => exact List.isChain_cons_cons.mpr ⟨hLast b rfl, hRest⟩
    | error e s' =>
      rw [hResult] at hRest
      exact hRest

/-- The answers to inputs that are eligible and follow one another. -/
theorem results_of_isChain {s : σ} {last : Option α} (hRel : Rel s last) {xs : List ι}
    {as : List α} (hAll : List.Forall₂ Eligible xs as) (hChain : (last.toList ++ as).IsChain R) :
    results step s xs = as.map .ok := by
  induction hAll generalizing s last with
  | nil => rfl
  | @cons x a xs as hEligible _ ih =>
    have hLast : ∀ b ∈ last, R b a := by
      rintro b rfl
      exact (List.isChain_cons_cons.mp hChain).1
    obtain ⟨s', hResult⟩ := h.ok hRel hEligible hLast
    have hRest : (a :: as).IsChain R := by
      cases last with
      | none => exact hChain
      | some b => exact (List.isChain_cons_cons.mp hChain).2
    rw [results, hResult, outcome, state, ih (h.of_ok hRel hResult).2.2 hRest, List.map_cons]

/-- **When every input of a run is accepted.** -/
theorem accepts_iff {s : σ} {last : Option α} (hRel : Rel s last) {xs : List ι} :
    Accepts step s xs ↔
      ∃ as, List.Forall₂ Eligible xs as ∧ (last.toList ++ as).IsChain R := by
  constructor
  · intro hAccepts
    -- the outputs read the inputs one by one, since none was rejected
    refine ⟨accepted (results step s xs), ?_, h.isChain_accepted hRel xs⟩
    induction xs generalizing s last with
    | nil => exact .nil
    | cons x xs ih =>
      obtain ⟨a, s', hResult, hRest⟩ := accepts_cons.mp hAccepts
      obtain ⟨hEligible, -, hRel'⟩ := h.of_ok hRel hResult
      rw [results, hResult]
      exact .cons hEligible (ih hRel' hRest)
  · rintro ⟨as, hAll, hChain⟩ r hr
    rw [h.results_of_isChain hRel hAll hChain] at hr
    obtain ⟨a, -, rfl⟩ := List.mem_map.mp hr
    exact ⟨a, rfl⟩

end Sequencer

-- ---------------------------------------------------------------------------
-- Interleavings
-- ---------------------------------------------------------------------------

/-- A list is an interleaving of two lists when it merges them and keeps the
order of each. -/
inductive Interleaving {β : Type} : List β → List β → List β → Prop
  | nil : Interleaving [] [] []
  | left {b : β} {bs cs ds : List β} : Interleaving bs cs ds →
      Interleaving (b :: bs) cs (b :: ds)
  | right {c : β} {bs cs ds : List β} : Interleaving bs cs ds →
      Interleaving bs (c :: cs) (c :: ds)

namespace Interleaving

variable {β γ : Type} {bs cs ds : List β}

/-- Nothing is added or lost. -/
theorem mem_iff (h : Interleaving bs cs ds) {b : β} : b ∈ ds ↔ b ∈ bs ∨ b ∈ cs := by
  induction h with
  | nil => simp
  | left _ ih => simp only [List.mem_cons, ih, or_assoc]
  | right _ ih => simp only [List.mem_cons, ih, or_left_comm]

/-- What is picked from an interleaving is an interleaving of what is picked. -/
theorem filterMap (h : Interleaving bs cs ds) (f : β → Option γ) :
    Interleaving (bs.filterMap f) (cs.filterMap f) (ds.filterMap f) := by
  induction h with
  | nil => exact .nil
  | @left b _ _ _ _ ih =>
    cases hb : f b with
    | none => simpa only [List.filterMap_cons_none hb] using ih
    | some c => simpa only [List.filterMap_cons_some hb] using ih.left
  | @right c _ _ _ _ ih =>
    cases hc : f c with
    | none => simpa only [List.filterMap_cons_none hc] using ih
    | some b => simpa only [List.filterMap_cons_some hc] using ih.right

/-- With nothing on the right, an interleaving is the left list. -/
theorem eq_left (h : Interleaving bs [] ds) : ds = bs := by
  induction bs generalizing ds with
  | nil => cases h; rfl
  | cons b bs ih =>
    cases h with
    | left h => rw [ih h]

/-- With nothing on the left, it is the right list. -/
theorem eq_right (h : Interleaving [] cs ds) : ds = cs := by
  induction cs generalizing ds with
  | nil => cases h; rfl
  | cons c cs ih =>
    cases h with
    | right h => rw [ih h]

end Interleaving

end Run
