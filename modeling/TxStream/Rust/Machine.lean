import Mathlib.Algebra.Group.Nat.Defs
import Mathlib.Data.List.Basic

/-!
# Rust machine primitives

The parts of the language and its standard library that the translated code
leans on where a plain Lean function would lose behaviour: checked and
saturating machine arithmetic, slices that can be out of range, and calls
that end in a panic.

* `usize` values are natural numbers below `usizeSize`; the checked operations
  are where the code looks at that bound.
* `Except (Fault ε) α` is a call that returns `Ok`, returns `Err`, or panics.
* A method on `&mut self` that returns a `Result` is an `EStateM` program: its
  error case carries the state it leaves behind.
-/

namespace Rust

/-- One past the largest `usize` of a 64-bit target. -/
def usizeSize : Nat := 2 ^ 64

/-- `usize::checked_add`. -/
def checkedAdd (a b : Nat) : Option Nat :=
  if a + b < usizeSize then some (a + b) else none

/-- `usize::checked_mul`. -/
def checkedMul (a b : Nat) : Option Nat :=
  if a * b < usizeSize then some (a * b) else none

/-- `u16::checked_add`. -/
def u16CheckedAdd (a b : UInt16) : Option UInt16 :=
  if a.toNat + b.toNat < 2 ^ 16 then some (a + b) else none

/-- `u16::saturating_add`. -/
def u16SaturatingAdd (a b : UInt16) : UInt16 :=
  if a.toNat + b.toNat < 2 ^ 16 then a + b else 0xffff

/-- `u64::checked_add`. Where a build checks for overflow it is also what `+` and `+=`
do, with `none` as their panic. -/
def u64CheckedAdd (a b : UInt64) : Option UInt64 :=
  if a.toNat + b.toNat < 2 ^ 64 then some (a + b) else none

/-- `slice.get(start..stop)`. -/
def getRange {α : Type} (xs : List α) (start stop : Nat) : Option (List α) :=
  if start ≤ stop ∧ stop ≤ xs.length then some (xs.extract start stop) else none

/-- `slice[start..stop].copy_from_slice(source)`. -/
def copyFromSlice {α : Type} (xs : List α) (start stop : Nat) (source : List α) :
    Option (List α) :=
  if start ≤ stop ∧ stop ≤ xs.length ∧ source.length = stop - start then
    some (xs.take start ++ source ++ xs.drop stop)
  else none

/-- `uN::try_from(value)` for an unsigned type of the given size. -/
def tryFrom (size value : Nat) : Option Nat := if value < size then some value else none

/-- How a call fails: with a value of its error type, or by panicking. -/
inductive Fault (ε : Type) where
  | panic
  | err (error : ε)
deriving DecidableEq, Repr

variable {ε α β : Type}

/-- A call that cannot panic, made from code that can. -/
def lift (r : Except ε α) : Except (Fault ε) α := r.mapError .err

/-- `option.ok_or(error)`. -/
def okOr (error : ε) : Option α → Except ε α
  | none => .error error
  | some a => .ok a

/-- `unwrap` and `expect`, and the index and slice operators. -/
def expect : Option α → Except (Fault ε) α
  | none => .error .panic
  | some a => .ok a

/-- `Err(error)` from code that can also panic. -/
def fail (error : ε) : Except (Fault ε) α := .error (.err error)

/-- `&bytes[start..stop]`. -/
def slice (xs : List α) (start stop : Nat) : Except (Fault ε) (List α) :=
  expect (getRange xs start stop)

/-- `xs[i]`. -/
def index (xs : List α) (i : Nat) : Except (Fault ε) α := expect xs[i]?

/-- A panic stays one; an error is mapped. -/
def Fault.map {δ : Type} (f : ε → δ) : Fault ε → Fault δ
  | .panic => .panic
  | .err e => .err (f e)

/-- `result.map_err(f)`. -/
def mapErr {δ : Type} (f : ε → δ) (r : Except (Fault ε) α) : Except (Fault δ) α :=
  r.mapError (Fault.map f)

/-- A call that cannot touch the state, made from a method that can. -/
def run {σ : Type} (call : Except ε α) : EStateM ε σ α :=
  match call with
  | .ok a => pure a
  | .error e => throw e

-- ---------------------------------------------------------------------------
-- Arithmetic below the bound
-- ---------------------------------------------------------------------------

/-- A sum below the bound is there. -/
theorem checkedAdd_of_lt {a b : Nat} (h : a + b < usizeSize) : checkedAdd a b = some (a + b) :=
  if_pos h

/-- A product below the bound is there. -/
theorem checkedMul_of_lt {a b : Nat} (h : a * b < usizeSize) : checkedMul a b = some (a * b) :=
  if_pos h

/-- A checked sum is the sum. -/
theorem checkedAdd_eq_some {a b c : Nat} (h : checkedAdd a b = some c) : c = a + b := by
  unfold checkedAdd at h
  split at h
  · exact (Option.some.inj h).symm
  · simp at h

/-- A checked product is the product. -/
theorem checkedMul_eq_some {a b c : Nat} (h : checkedMul a b = some c) : c = a * b := by
  unfold checkedMul at h
  split at h
  · exact (Option.some.inj h).symm
  · simp at h

/-- A counter below its maximum goes up by one, as a machine integer and as a number. -/
theorem u64CheckedAdd_one {a : UInt64} (h : a.toNat + 1 < 2 ^ 64) :
    u64CheckedAdd a 1 = some (a + 1) ∧ (a + 1).toNat = a.toNat + 1 := by
  refine ⟨if_pos h, ?_⟩
  rw [UInt64.toNat_add]
  exact Nat.mod_eq_of_lt h

/-- A range is there exactly when its bounds are in order and inside the list, and then
it is the extract between them. -/
@[simp] theorem getRange_eq_some {xs ys : List α} {start stop : Nat} :
    getRange xs start stop = some ys ↔
      (start ≤ stop ∧ stop ≤ xs.length) ∧ xs.extract start stop = ys := by
  unfold getRange
  split
  · rename_i h
    simp [h]
  · rename_i h
    simp only [reduceCtorEq, h, false_and]

/-- A value that fits is converted. -/
theorem tryFrom_of_lt {size value : Nat} (h : value < size) : tryFrom size value = some value :=
  if_pos h

/-- Slicing inside the list does not panic. -/
theorem slice_of_le {xs : List α} {start stop : Nat} (hStart : start ≤ stop)
    (hStop : stop ≤ xs.length) :
    (slice xs start stop : Except (Fault ε) (List α)) = .ok (xs.extract start stop) := by
  have hRange : getRange xs start stop = some (xs.extract start stop) :=
    getRange_eq_some.mpr ⟨⟨hStart, hStop⟩, rfl⟩
  rw [slice, hRange]
  rfl

/-- The range behind `xs` that is as long as `ys`. -/
theorem getRange_of_append {s xs ys zs : List α} {start stop : Nat} (hEq : s = xs ++ ys ++ zs)
    (hStart : start = xs.length) (hStop : stop = start + ys.length) :
    getRange s start stop = some ys := by
  subst hEq hStop hStart
  rw [getRange_eq_some, List.extract_eq_take_drop, List.append_assoc, List.drop_left,
    Nat.add_sub_cancel_left, List.take_left]
  refine ⟨⟨by omega, ?_⟩, rfl⟩
  simp only [List.length_append]
  omega

/-- The first `xs.length` elements of `xs ++ ys` are `xs`. -/
theorem getRange_prefix (xs ys : List α) : getRange (xs ++ ys) 0 xs.length = some xs :=
  getRange_of_append (show xs ++ ys = [] ++ xs ++ ys from rfl) rfl (Nat.zero_add _).symm

/-- A copy of the right length replaces what stood there and nothing else. -/
theorem copyFromSlice_append {xs ys source old : List α} (h : source.length = old.length) :
    copyFromSlice (xs ++ old ++ ys) xs.length (xs.length + source.length) source =
      some (xs ++ source ++ ys) := by
  have hFits : xs.length + source.length ≤ (xs ++ old ++ ys).length := by
    simp only [List.length_append]
    omega
  rw [copyFromSlice, if_pos ⟨by omega, hFits, by omega⟩, List.append_assoc xs old ys,
    List.take_left, h, ← List.drop_drop, List.drop_left, List.drop_left]

-- ---------------------------------------------------------------------------
-- Calls
-- ---------------------------------------------------------------------------

/-- **Inversion of a step.** If a sequence of two calls succeeded, then so did the
first, and the second on its result. Proofs about translated code peel it off step by
step. -/
theorem bind_eq_ok {x : Except ε α} {f : α → Except ε β} {b : β}
    (h : x >>= f = .ok b) : ∃ a, x = .ok a ∧ f a = .ok b := by
  cases x with
  | error e => exact absurd h (by simp [bind, Except.bind])
  | ok a => exact ⟨a, rfl, h⟩

/-- A slice that did not panic was in range. -/
theorem slice_eq_ok {xs ys : List α} {start stop : Nat}
    (h : (slice xs start stop : Except (Fault ε) (List α)) = .ok ys) :
    (start ≤ stop ∧ stop ≤ xs.length) ∧ xs.extract start stop = ys := by
  rw [← getRange_eq_some]
  unfold slice expect at h
  split at h
  · cases h
  · rename_i hRange
    rw [hRange, Except.ok.inj h]

/-- Changing the error type does not change a success. -/
theorem mapError_eq_ok {ε' : Type} {r : Except ε α} {g : ε → ε'} {a : α}
    (h : r.mapError g = .ok a) : r = .ok a := by
  cases r with
  | error e => cases h
  | ok b => exact congrArg _ (Except.ok.inj h)

/-- A check that let the call go on did not hold. -/
theorem guard_eq_ok {c : Prop} [Decidable c] {e : ε} {x : Except ε α} {a : α}
    (h : (if c then .error e else x) = .ok a) : ¬c ∧ x = .ok a := by
  by_cases hc : c
  · rw [if_pos hc] at h
    cases h
  · rw [if_neg hc] at h
    exact ⟨hc, h⟩

/-- `ok_or` succeeds on `Some` only. -/
theorem okOr_eq_ok {e : ε} {o : Option α} {a : α} (h : okOr e o = .ok a) : o = some a := by
  cases o with
  | none => cases h
  | some b => rw [Except.ok.inj h]

/-- Code that cannot panic succeeds with the same value where panics are possible. -/
theorem lift_eq_ok {r : Except ε α} {a : α} (h : lift r = .ok a) : r = .ok a := by
  cases r with
  | error e => cases h
  | ok b => exact congrArg _ (Except.ok.inj h)

@[simp] theorem ok_bind (a : α) (f : α → Except ε β) : (Except.ok a >>= f) = f a := rfl

@[simp] theorem error_bind (e : ε) (f : α → Except ε β) :
    (Except.error e >>= f) = .error e := rfl

@[simp] theorem okOr_some (e : ε) (a : α) : okOr e (some a) = .ok a := rfl

@[simp] theorem okOr_none (e : ε) : okOr e (none : Option α) = .error e := rfl

@[simp] theorem expect_some (a : α) : (expect (some a) : Except (Fault ε) α) = .ok a := rfl

@[simp] theorem lift_ok (a : α) : lift (.ok a : Except ε α) = .ok a := rfl

@[simp] theorem lift_error (e : ε) : lift (.error e : Except ε α) = .error (.err e) := rfl

@[simp] theorem mapErr_ok {δ : Type} (f : ε → δ) (a : α) :
    mapErr f (.ok a : Except (Fault ε) α) = .ok a := rfl

-- ---------------------------------------------------------------------------
-- Methods
-- ---------------------------------------------------------------------------

section Method

variable {σ : Type}

/-- A call that cannot touch the state leaves it as it was when it fails. -/
theorem run_bind (call : Except ε α) (k : α → EStateM ε σ β) (s : σ) :
    (run call >>= k) s = match call with
      | .ok a => k a s
      | .error e => .error e s := by
  cases call <;> rfl

/-- Reading the state goes on with it. -/
theorem get_bind (k : σ → EStateM ε σ β) (s : σ) : (get >>= k) s = k s s := rfl

/-- A method that succeeded hands its value and its state to the next. -/
theorem bind_of_ok {x : EStateM ε σ α} {k : α → EStateM ε σ β} {s s' : σ} {a : α}
    (h : x s = .ok a s') : (x >>= k) s = k a s' := by
  show EStateM.bind x k s = _
  rw [EStateM.bind, h]

/-- A method that failed ends the sequence, and the state is the one it left. -/
theorem bind_of_error {x : EStateM ε σ α} {k : α → EStateM ε σ β} {s s' : σ} {e : ε}
    (h : x s = .error e s') : (x >>= k) s = .error e s' := by
  show EStateM.bind x k s = _
  rw [EStateM.bind, h]

end Method

-- ---------------------------------------------------------------------------
-- Calls that succeed alike
-- ---------------------------------------------------------------------------

/-- The two calls succeed with the same values. Their errors may differ: a check made
earlier or later changes the error that is reported, and not what is accepted. -/
def SameOk (x y : Except ε α) : Prop := ∀ a, x = .ok a ↔ y = .ok a

namespace SameOk

/-- A call succeeds as itself. -/
theorem refl (x : Except ε α) : SameOk x x := fun _ => Iff.rfl

/-- The first call may succeed where the second fails, as long as what comes
behind it fails then. -/
theorem bind_of_fails {x y : Except ε α} {f g : α → Except ε β}
    (hSub : ∀ a, y = .ok a → x = .ok a)
    (hFails : ∀ a, x = .ok a → y = .ok a ∨ ∀ b, f a ≠ .ok b)
    (hfg : ∀ a, y = .ok a → SameOk (f a) (g a)) : SameOk (x >>= f) (y >>= g) := by
  intro b
  constructor
  · intro h
    obtain ⟨a, hx, hf⟩ := bind_eq_ok h
    rcases hFails a hx with hy | hNever
    · rw [hy]
      exact (hfg a hy b).mp hf
    · exact absurd hf (hNever b)
  · intro h
    obtain ⟨a, hy, hg⟩ := bind_eq_ok h
    rw [hSub a hy]
    exact (hfg a hy b).mpr hg

/-- Steps that succeed alike, one by one, make sequences that do. -/
theorem bind {x y : Except ε α} {f g : α → Except ε β} (h : SameOk x y)
    (hfg : ∀ a, y = .ok a → SameOk (f a) (g a)) : SameOk (x >>= f) (y >>= g) :=
  bind_of_fails (fun a => (h a).mpr) (fun a hx => Or.inl ((h a).mp hx)) hfg

/-- Two branches are compared under their condition. -/
theorem ite {c : Prop} [Decidable c] {x x' y y' : Except ε α} (hx : c → SameOk x x')
    (hy : ¬c → SameOk y y') : SameOk (if c then x else y) (if c then x' else y') := by
  by_cases hc : c
  · rw [if_pos hc, if_pos hc]
    exact hx hc
  · rw [if_neg hc, if_neg hc]
    exact hy hc

end SameOk

-- ---------------------------------------------------------------------------
-- Calls that do not panic
-- ---------------------------------------------------------------------------

/-- The call returns: with a value or with an error of its own, and without a panic. -/
def NoPanic (call : Except (Fault ε) α) : Prop := call ≠ .error .panic

namespace NoPanic

theorem ok (a : α) : NoPanic (.ok a : Except (Fault ε) α) := nofun

theorem fail (e : ε) : NoPanic (Rust.fail e : Except (Fault ε) α) := nofun

theorem lift (r : Except ε α) : NoPanic (Rust.lift r) := by
  cases r <;> exact nofun

theorem bind {x : Except (Fault ε) α} {f : α → Except (Fault ε) β} (hx : NoPanic x)
    (hf : ∀ a, x = .ok a → NoPanic (f a)) : NoPanic (x >>= f) := by
  cases x with
  | error e => exact fun h => hx (by rw [← Except.error.inj h])
  | ok a => exact hf a rfl

theorem ite {c : Prop} [Decidable c] {x y : Except (Fault ε) α} (hx : c → NoPanic x)
    (hy : ¬c → NoPanic y) : NoPanic (if c then x else y) := by
  by_cases hc : c
  · rw [if_pos hc]
    exact hx hc
  · rw [if_neg hc]
    exact hy hc

theorem mapErr {δ : Type} (f : ε → δ) {r : Except (Fault ε) α} (h : NoPanic r) :
    NoPanic (Rust.mapErr f r) := by
  cases r with
  | ok a => exact .ok a
  | error e =>
    cases e with
    | panic => exact absurd rfl h
    | err e => exact nofun

end NoPanic

end Rust
