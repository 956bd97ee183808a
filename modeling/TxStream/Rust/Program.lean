import Mathlib.Data.Nat.Find
import TxStream.Rust.Machine

/-!
# Programs that print

A `main` that prints lines and ends: by returning, with an error, or in a panic.
Three things make such a program panic, and none of them is a value of its own
types: a value that is not there (`unwrap`, `expect`, an index), arithmetic that
leaves its type (overflow checks are on), and `println!`, which panics when a line
cannot be written.

Whether stdout takes a line is up to the environment: `takes n` is whether it takes
the one that comes behind `n` others. A closed pipe takes none from some line on.
Since a program ends with the first line that is refused, a function of the number is
any stdout there is. Of a refused line a part may be out; only whole lines are kept
here.

Main results:

* `printAll_of_takes`, `printAll_of_refuses` — what is printed on a stdout that takes
  all the lines, and on one that does not.
* `Prints.of_printAll` — a program that prints its lines in front of anything else is
  described by the lines.
* `Exits.bind`, `Exits.foldlM` — how a program can end, from how its parts can.
-/

namespace Rust

/-- Why a program panics. -/
inductive Panic where
  /-- `unwrap`, `expect` or an index found nothing. -/
  | missing
  /-- A sum that its type cannot hold. -/
  | overflow
  /-- `println!` could not write its line. -/
  | stdout
deriving DecidableEq, Repr

/-- How a program ends. -/
inductive Exit (ε : Type) where
  | ok
  | err (error : ε)
  | panic (reason : Panic)
deriving DecidableEq, Repr

/-- A program, or a part of one: it prints lines, and then goes on with a value or
ends the program. The lines printed so far are its state, so that an exit leaves
them behind. -/
abbrev Program (ε β : Type) := EStateM (Exit ε) (List β)

variable {ε β α σ : Type}

/-- `println!`. -/
def println (takes : Nat → Bool) (line : β) : Program ε β Unit := fun printed =>
  if takes printed.length then .ok () (printed ++ [line]) else .error (.panic .stdout) printed

/-- The value of an operation that panics where it has none. -/
def orPanic (reason : Panic) : Option α → Program ε β α
  | none => throw (.panic reason)
  | some a => pure a

@[simp] theorem orPanic_some (reason : Panic) (a : α) :
    (orPanic reason (some a) : Program ε β α) = pure a := rfl

/-- A line that stdout takes is out. -/
theorem println_of_takes {takes : Nat → Bool} (line : β) {printed : List β}
    (h : takes printed.length = true) :
    (println takes line : Program ε β Unit) printed = .ok () (printed ++ [line]) := if_pos h

/-- One that it refuses ends the program. -/
theorem println_of_refuses {takes : Nat → Bool} (line : β) {printed : List β}
    (h : takes printed.length = false) :
    (println takes line : Program ε β Unit) printed = .error (.panic .stdout) printed :=
  if_neg (by rw [h]; exact Bool.false_ne_true)

-- ---------------------------------------------------------------------------
-- Printed lines
-- ---------------------------------------------------------------------------

/-- `for line in lines { println!(..) }`. -/
def printAll (takes : Nat → Bool) (lines : List β) : Program ε β Unit :=
  forM lines (println takes)

@[simp] theorem printAll_nil (takes : Nat → Bool) :
    (printAll takes [] : Program ε β Unit) = pure () := rfl

@[simp] theorem printAll_singleton (takes : Nat → Bool) (line : β) :
    (printAll takes [line] : Program ε β Unit) = println takes line := by
  rw [printAll, List.forM_cons]
  exact bind_pure _

/-- One list of lines behind another. -/
theorem printAll_append (takes : Nat → Bool) (lines lines' : List β) :
    (printAll takes (lines ++ lines') : Program ε β Unit) =
      (printAll takes lines >>= fun _ => printAll takes lines') :=
  List.forM_append

/-- The first line comes first. -/
theorem printAll_cons (takes : Nat → Bool) (line : β) (lines : List β) :
    (printAll takes (line :: lines) : Program ε β Unit) =
      (println takes line >>= fun _ => printAll takes lines) :=
  List.forM_cons

/-- All the lines are printed where stdout takes each of them. -/
theorem printAll_of_takes {takes : Nat → Bool} {lines printed : List β}
    (h : ∀ i < lines.length, takes (printed.length + i) = true) :
    (printAll takes lines : Program ε β Unit) printed = .ok () (printed ++ lines) := by
  induction lines generalizing printed with
  | nil => exact congrArg (EStateM.Result.ok ()) (List.append_nil _).symm
  | cons line lines ih =>
    have hFirst : (println takes line : Program ε β Unit) printed = .ok () (printed ++ [line]) :=
      println_of_takes line (h 0 (Nat.succ_pos _))
    have hRest : (printAll takes lines : Program ε β Unit) (printed ++ [line]) =
        .ok () (printed ++ [line] ++ lines) := by
      refine ih fun i hi => ?_
      rw [List.length_append, List.length_singleton, Nat.add_assoc, Nat.add_comm 1 i]
      exact h (i + 1) (Nat.succ_lt_succ hi)
    rw [printAll_cons, bind_of_ok hFirst, hRest, List.append_assoc, List.singleton_append]

/-- The first line that stdout refuses ends the program; those in front of it are
out. -/
theorem printAll_of_refuses {takes : Nat → Bool} {lines printed : List β} {k : Nat}
    (hk : k < lines.length) (hTakes : ∀ i < k, takes (printed.length + i) = true)
    (hRefuses : takes (printed.length + k) = false) :
    (printAll takes lines : Program ε β Unit) printed =
      .error (.panic .stdout) (printed ++ lines.take k) := by
  have hLength : (lines.take k).length = k := List.length_take_of_le (Nat.le_of_lt hk)
  have hBefore : (printAll takes (lines.take k) : Program ε β Unit) printed =
      .ok () (printed ++ lines.take k) :=
    printAll_of_takes (by rwa [hLength])
  have hLine : (println takes lines[k] : Program ε β Unit) (printed ++ lines.take k) =
      .error (.panic .stdout) (printed ++ lines.take k) :=
    println_of_refuses _ (by rw [List.length_append, hLength, hRefuses])
  -- the lines that are out, the refused one, and those that are not tried
  have hSplit : lines = lines.take k ++ lines[k] :: lines.drop (k + 1) := by
    rw [← List.drop_eq_getElem_cons hk, List.take_append_drop]
  calc (printAll takes lines : Program ε β Unit) printed
      = (printAll takes (lines.take k) >>= fun _ =>
          printAll takes (lines[k] :: lines.drop (k + 1))) printed := by
        rw [← printAll_append, ← hSplit]
    _ = printAll takes (lines[k] :: lines.drop (k + 1)) (printed ++ lines.take k) :=
        bind_of_ok hBefore
    _ = .error (.panic .stdout) (printed ++ lines.take k) := by
        rw [printAll_cons, bind_of_error hLine]

/-- What becomes of a program that prints these lines and comes to `result`, on this
stdout. -/
inductive Prints (takes : Nat → Bool) (lines : List β)
    (result : List β → EStateM.Result (Exit ε) (List β) α) :
    EStateM.Result (Exit ε) (List β) α → Prop where
  | all (h : ∀ i < lines.length, takes i = true) : Prints takes lines result (result lines)
  | refused (k : Nat) (hk : k < lines.length) (hTakes : ∀ i < k, takes i = true)
      (hRefuses : takes k = false) :
      Prints takes lines result (.error (.panic .stdout) (lines.take k))

/-- A program that prints its lines in front of anything else. -/
theorem Prints.of_printAll (takes : Nat → Bool) (lines : List β) (behind : Program ε β α) :
    Prints takes lines behind ((printAll takes lines >>= fun _ => behind) []) := by
  by_cases h : ∃ i, i < lines.length ∧ takes i = false
  · -- the first line that is refused
    obtain ⟨hk, hRefuses⟩ := Nat.find_spec h
    have hTakes : ∀ i < Nat.find h, takes i = true := by
      intro i hi
      have hNot := Nat.find_min h hi
      rw [not_and, Bool.not_eq_false] at hNot
      exact hNot (Nat.lt_trans hi hk)
    have hStops : (printAll takes lines : Program ε β Unit) [] =
        .error (.panic .stdout) (lines.take (Nat.find h)) := by
      refine printAll_of_refuses hk (fun i hi => ?_) ?_
      · rw [List.length_nil, Nat.zero_add, hTakes i hi]
      · rw [List.length_nil, Nat.zero_add, hRefuses]
    rw [bind_of_error hStops]
    exact .refused _ hk hTakes hRefuses
  · -- no line is refused
    have hTakes : ∀ i < lines.length, takes i = true := by
      simpa only [not_exists, not_and, Bool.not_eq_false] using h
    have hAll : (printAll takes lines : Program ε β Unit) [] = .ok () lines := by
      refine printAll_of_takes fun i hi => ?_
      rw [List.length_nil, Nat.zero_add, hTakes i hi]
    rw [bind_of_ok hAll]
    exact .all hTakes

-- ---------------------------------------------------------------------------
-- Exits
-- ---------------------------------------------------------------------------

/-- Every exit of the program is an allowed one. -/
def Exits (allowed : Exit ε → Prop) (program : Program ε β α) : Prop :=
  ∀ printed exit printed', program printed = .error exit printed' → allowed exit

namespace Exits

variable {allowed : Exit ε → Prop}

/-- A value is no exit. -/
theorem pure (a : α) : Exits allowed (pure a : Program ε β α) := nofun

/-- An exit is itself. -/
theorem throw {exit : Exit ε} (h : allowed exit) :
    Exits allowed (throw exit : Program ε β α) := by
  rintro printed _ _ ⟨⟩
  exact h

/-- One part behind another: an exit of the first ends both. -/
theorem bind {program : Program ε β α} {behind : α → Program ε β σ}
    (hProgram : Exits allowed program) (hBehind : ∀ a, Exits allowed (behind a)) :
    Exits allowed (program >>= behind) := by
  intro printed exit printed' hExit
  cases hResult : program printed with
  | ok a middle =>
    rw [bind_of_ok hResult] at hExit
    exact hBehind a middle exit printed' hExit
  | error exit' middle =>
    rw [bind_of_error hResult] at hExit
    obtain ⟨rfl, -⟩ := EStateM.Result.error.inj hExit
    exact hProgram printed exit' middle hResult

/-- A line can end the program in one way only. -/
theorem println (h : allowed (.panic .stdout)) (takes : Nat → Bool) (line : β) :
    Exits allowed (println takes line) := by
  intro printed exit printed' hExit
  rw [Rust.println] at hExit
  split at hExit
  · cases hExit
  · obtain ⟨rfl, -⟩ := EStateM.Result.error.inj hExit
    exact h

/-- A value that may be missing can end the program in one way only. -/
theorem orPanic {reason : Panic} (h : allowed (.panic reason)) (o : Option α) :
    Exits allowed (orPanic reason o : Program ε β α) := by
  cases o with
  | none => exact throw h
  | some a => exact pure a

/-- A loop exits as its body does. -/
theorem foldlM {body : σ → α → Program ε β σ} {items : List α}
    (h : ∀ s, ∀ a ∈ items, Exits allowed (body s a)) (s : σ) :
    Exits allowed (items.foldlM body s) := by
  induction items generalizing s with
  | nil => exact pure s
  | cons a items ih =>
    rw [List.foldlM_cons]
    exact (h s a List.mem_cons_self).bind fun s' =>
      ih (fun s a hMem => h s a (List.mem_cons_of_mem _ hMem)) s'

/-- Lines exit as one line does. -/
theorem printAll (h : allowed (.panic .stdout)) (takes : Nat → Bool) (lines : List β) :
    Exits allowed (printAll takes lines) := by
  induction lines with
  | nil => exact pure ()
  | cons line lines ih =>
    rw [printAll_cons]
    exact (println h takes line).bind fun _ => ih

end Exits

end Rust
