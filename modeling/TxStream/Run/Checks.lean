import Mathlib.Data.List.Basic

/-!
# Checks in order

Code that checks its input rule by rule stops at the first rule that is broken
and reports it. A list of rules, each with the error that reports it, says what
such code answers; `Diagnoses` connects the two.

* `Diagnoses.check` — rules are read off the code one by one.
* `Diagnoses.error_iff`, `Diagnoses.ok_iff` — the answers, in both directions.
* `Avoids` — errors that code does not report.
-/

namespace Run

variable {ε δ α β : Type}

/-- A rule, and the error that reports it broken. -/
structure Rule (ε : Type) where
  holds : Prop
  error : ε

/-- The same rule, reported by the mapped error. -/
def Rule.map (f : ε → δ) (rule : Rule ε) : Rule δ := ⟨rule.holds, f rule.error⟩

/-- The error that reports the first broken rule. The rules in front of it are kept,
which is what makes the error unique. -/
inductive FirstBroken : List (Rule ε) → ε → Prop
  | here {rule : Rule ε} {rules : List (Rule ε)} (broken : ¬ rule.holds) :
      FirstBroken (rule :: rules) rule.error
  | later {rule : Rule ε} {rules : List (Rule ε)} {e : ε} (kept : rule.holds)
      (rest : FirstBroken rules e) : FirstBroken (rule :: rules) e

/-- All rules are kept. -/
def Kept (rules : List (Rule ε)) : Prop := ∀ rule ∈ rules, rule.holds

section Rules

variable {rules rules' : List (Rule ε)} {rule : Rule ε} {e : ε}

/-- No rules, nothing to break. -/
theorem kept_nil : Kept ([] : List (Rule ε)) := fun _ h => nomatch h

/-- All rules are kept when the first is and the others are. -/
theorem kept_cons : Kept (rule :: rules) ↔ rule.holds ∧ Kept rules := List.forall_mem_cons

/-- Lists of rules are kept one by one. -/
theorem kept_append : Kept (rules ++ rules') ↔ Kept rules ∧ Kept rules' :=
  List.forall_mem_append

/-- Renaming the errors does not change what is asked for. -/
theorem kept_map {f : ε → δ} : Kept (rules.map (Rule.map f)) ↔ Kept rules := List.forall_mem_map

/-- At most one error reports the first broken rule, since only one rule is both broken
and preceded by kept ones. -/
theorem FirstBroken.unique {e' : ε} (h : FirstBroken rules e) (h' : FirstBroken rules e') :
    e = e' := by
  induction h with
  | here broken =>
    cases h' with
    | here => rfl
    | later kept => exact absurd kept broken
  | later kept _ ih =>
    cases h' with
    | here broken => exact absurd kept broken
    | later _ rest => exact ih rest

/-- A broken rule is a member of the list. -/
theorem FirstBroken.not_kept (h : FirstBroken rules e) : ¬ Kept rules := by
  induction h with
  | here broken => exact fun hKept => broken (kept_cons.mp hKept).1
  | later _ _ ih => exact fun hKept => ih (kept_cons.mp hKept).2

/-- The error is one of those in the list. -/
theorem FirstBroken.error_mem (h : FirstBroken rules e) : e ∈ rules.map Rule.error := by
  induction h with
  | here _ => exact List.mem_cons_self ..
  | later _ _ ih => exact List.mem_cons_of_mem _ ih

/-- Without rules there is no broken one. -/
theorem not_firstBroken_nil : ¬ FirstBroken [] e := nofun

/-- Either the first rule is broken, or it is kept and a later one is. -/
theorem firstBroken_cons :
    FirstBroken (rule :: rules) e ↔
      (¬ rule.holds ∧ e = rule.error) ∨ (rule.holds ∧ FirstBroken rules e) := by
  constructor
  · intro h
    cases h with
    | here broken => exact Or.inl ⟨broken, rfl⟩
    | later kept rest => exact Or.inr ⟨kept, rest⟩
  · rintro (⟨hBroken, rfl⟩ | ⟨hKept, hRest⟩)
    · exact .here hBroken
    · exact .later hKept hRest

/-- A rule of the second list is reported only if the first list is kept. -/
theorem firstBroken_append :
    FirstBroken (rules ++ rules') e ↔
      FirstBroken rules e ∨ (Kept rules ∧ FirstBroken rules' e) := by
  induction rules with
  | nil => exact ⟨fun h => Or.inr ⟨kept_nil, h⟩, fun h => h.elim (nomatch ·) (·.2)⟩
  | cons rule rules ih =>
    rw [List.cons_append, firstBroken_cons, ih, firstBroken_cons, kept_cons, and_or_left,
      or_assoc, and_assoc]

/-- Renaming the errors renames the one reported. -/
theorem FirstBroken.map (f : ε → δ) (h : FirstBroken rules e) :
    FirstBroken (rules.map (Rule.map f)) (f e) := by
  induction h with
  | @here rule rules broken => exact @FirstBroken.here _ (rule.map f) _ broken
  | @later rule rules e kept _ ih => exact @FirstBroken.later _ (rule.map f) _ _ kept ih

/-- And every renamed report comes from one. -/
theorem firstBroken_map {f : ε → δ} {d : δ} :
    FirstBroken (rules.map (Rule.map f)) d ↔ ∃ e, FirstBroken rules e ∧ f e = d := by
  constructor
  · intro h
    induction rules with
    | nil => exact nomatch h
    | cons rule rules ih =>
      rw [List.map_cons, firstBroken_cons] at h
      rcases h with ⟨hBroken, rfl⟩ | ⟨hKept, hRest⟩
      · exact ⟨rule.error, .here hBroken, rfl⟩
      · obtain ⟨e, hFirst, rfl⟩ := ih hRest
        exact ⟨e, .later hKept hFirst, rfl⟩
  · rintro ⟨e, h, rfl⟩
    exact h.map f

end Rules

/-- The answer of code that checks these rules in this order and does nothing else that
can fail: a value if all are kept, else the error of the first broken one. The list is
read off the code, one lemma per shape of statement, and what follows from it is stated
about rules alone. -/
def Diagnoses (rules : List (Rule ε)) (answer : Except ε α) : Prop :=
  (Kept rules ∧ ∃ a, answer = .ok a) ∨ ∃ e, FirstBroken rules e ∧ answer = .error e

namespace Diagnoses

variable {rules rules' : List (Rule ε)} {answer : Except ε α} {e : ε}

/-- Code without checks answers. -/
theorem ok (a : α) : Diagnoses ([] : List (Rule ε)) (.ok a) := Or.inl ⟨kept_nil, a, rfl⟩

/-- The answer is an error exactly when this error reports the first broken rule. -/
theorem error_iff (h : Diagnoses rules answer) : answer = .error e ↔ FirstBroken rules e := by
  rcases h with ⟨hKept, a, rfl⟩ | ⟨e', hBroken, rfl⟩
  · exact iff_of_false nofun fun hBroken => hBroken.not_kept hKept
  · constructor
    · rintro ⟨⟩
      exact hBroken
    · exact fun hOther => by rw [hBroken.unique hOther]

/-- There is an answer exactly when all rules are kept. -/
theorem ok_iff (h : Diagnoses rules answer) : (∃ a, answer = .ok a) ↔ Kept rules := by
  rcases h with ⟨hKept, a, rfl⟩ | ⟨e', hBroken, rfl⟩
  · exact iff_of_true ⟨a, rfl⟩ hKept
  · exact iff_of_false nofun hBroken.not_kept

/-- A rule that is known to be kept need not be checked. -/
theorem cons {rule : Rule ε} (hKept : rule.holds) (h : Diagnoses rules answer) :
    Diagnoses (rule :: rules) answer := by
  rcases h with ⟨hRules, hAnswer⟩ | ⟨e, hBroken, hAnswer⟩
  · exact Or.inl ⟨kept_cons.mpr ⟨hKept, hRules⟩, hAnswer⟩
  · exact Or.inr ⟨e, .later hKept hBroken, hAnswer⟩

/-- `if !rule { return Err(error) }` in front of more checks. The rest is only reached,
and only has to be read, when the rule holds. -/
theorem check {rule : Rule ε} {p : Prop} [Decidable p] (hRule : p ↔ ¬ rule.holds)
    (hRest : rule.holds → Diagnoses rules answer) :
    Diagnoses (rule :: rules) (if p then .error rule.error else answer) := by
  by_cases hHolds : rule.holds
  · rw [if_neg (fun hp => hRule.mp hp hHolds)]
    exact (hRest hHolds).cons hHolds
  · rw [if_pos (hRule.mpr hHolds)]
    exact Or.inr ⟨_, .here hHolds, rfl⟩

/-- Rules that are known to be kept need not be checked. -/
theorem prepend (hKept : Kept rules') (h : Diagnoses rules answer) :
    Diagnoses (rules' ++ rules) answer := by
  induction rules' with
  | nil => exact h
  | cons rule rules' ih =>
    obtain ⟨hRule, hRules⟩ := kept_cons.mp hKept
    exact (ih hRules).cons hRule

/-- Checks that depend on what earlier ones returned. -/
theorem bind {f : α → Except ε β} (h : Diagnoses rules answer)
    (hf : ∀ a, answer = .ok a → Diagnoses rules' (f a)) :
    Diagnoses (rules ++ rules') (answer >>= f) := by
  rcases h with ⟨hKept, a, rfl⟩ | ⟨e, hBroken, rfl⟩
  · exact (hf a rfl).prepend hKept
  · exact Or.inr ⟨e, firstBroken_append.mpr (Or.inl hBroken), rfl⟩

/-- A value computed from the answer is no check. -/
theorem map (h : Diagnoses rules answer) (f : α → β) : Diagnoses rules (answer.map f) := by
  rcases h with ⟨hKept, a, rfl⟩ | ⟨e, hBroken, rfl⟩
  · exact Or.inl ⟨hKept, f a, rfl⟩
  · exact Or.inr ⟨e, hBroken, rfl⟩

/-- `map_err`. -/
theorem mapError (h : Diagnoses rules answer) (f : ε → δ) :
    Diagnoses (rules.map (Rule.map f)) (answer.mapError f) := by
  rcases h with ⟨hKept, a, rfl⟩ | ⟨e, hBroken, rfl⟩
  · exact Or.inl ⟨kept_map.mpr hKept, a, rfl⟩
  · exact Or.inr ⟨f e, hBroken.map f, rfl⟩

end Diagnoses

-- ---------------------------------------------------------------------------
-- Errors that are not reported
-- ---------------------------------------------------------------------------

/-- No error of this kind is the answer. It is how a part of a program is kept out of a
diagnosis: an error it does not report is not its error. -/
def Avoids (kind : ε → Prop) (answer : Except ε α) : Prop := ∀ e, answer = .error e → ¬ kind e

namespace Avoids

variable {kind : ε → Prop} {answer answer' : Except ε α}

/-- A value is no error. -/
theorem ok (a : α) : Avoids kind (.ok a : Except ε α) := nofun

/-- An error of another kind. -/
theorem error {e : ε} (h : ¬ kind e) : Avoids kind (.error e : Except ε α) := by
  rintro e' ⟨⟩
  exact h

/-- A sequence avoids what its steps avoid. -/
theorem bind {f : α → Except ε β} (hAnswer : Avoids kind answer)
    (hf : ∀ a, Avoids kind (f a)) : Avoids kind (answer >>= f) := by
  cases answer with
  | ok a => exact hf a
  | error e => exact error (hAnswer e rfl)

/-- So does a branching. -/
theorem ite {c : Prop} [Decidable c] (h : Avoids kind answer) (h' : Avoids kind answer') :
    Avoids kind (if c then answer else answer') := by
  split
  · exact h
  · exact h'

/-- `map_err`. -/
theorem mapError {kind' : δ → Prop} {f : ε → δ} (h : Avoids kind answer)
    (hKind : ∀ e, kind' (f e) → kind e) : Avoids kind' (answer.mapError f) := by
  cases answer with
  | ok a => exact ok a
  | error e => exact error fun hBad => h e rfl (hKind e hBad)

end Avoids

end Run
