import Mathlib.Data.List.Basic
import Mathlib.Logic.Function.Iterate

/-!
# Exact-size iterators

An iterator is a state with a `next` function; an exact-size iterator also has
a `len`. `Yields s as` says that from the state `s` on the iterator returns the
items `as` one after another, that it reports before each of them how many are
left, and that it stays exhausted afterwards.

Main results:

* `Yields.next_advance`, `Yields.len_advance` — item and length after any number
  of steps.
* `Yields.congr` — another `next` function that returns the same items.
* `Yields.collect` — draining the iterator returns the list.
-/

namespace Rust

variable {σ α : Type} {next : σ → Option α × σ} {len : σ → Nat}

/-- The state after `steps` calls of `next`. -/
def advance (next : σ → Option α × σ) (steps : Nat) (s : σ) : σ := (fun s => (next s).2)^[steps] s

/-- The items up to the first `None`, at most `fuel` of them. -/
def collect (next : σ → Option α × σ) : Nat → σ → List α
  | 0, _ => []
  | fuel + 1, s =>
    match next s with
    | (none, _) => []
    | (some a, s') => a :: collect next fuel s'

/-- The iterator returns exactly these items from here on. -/
inductive Yields (next : σ → Option α × σ) (len : σ → Nat) : σ → List α → Prop
  | done {s : σ} : next s = (none, s) → len s = 0 → Yields next len s []
  | item {s s' : σ} {a : α} {as : List α} : next s = (some a, s') → len s = as.length + 1 →
      Yields next len s' as → Yields next len s (a :: as)

namespace Yields

variable {s : σ} {as : List α}

/-- The next call returns the first of the items. -/
theorem next_eq (h : Yields next len s as) : (next s).1 = as.head? := by
  cases h with
  | done hNext _ => rw [hNext]; rfl
  | item hNext _ _ => rw [hNext]; rfl

/-- The reported length is the number of items. -/
theorem len_eq (h : Yields next len s as) : len s = as.length := by
  cases h with
  | done _ hLen => exact hLen
  | item _ hLen _ => exact hLen

/-- One call drops one item; an exhausted iterator stays exhausted. -/
theorem step (h : Yields next len s as) : Yields next len (next s).2 as.tail := by
  cases h with
  | done hNext hLen =>
    rw [hNext]
    exact .done hNext hLen
  | item hNext _ hRest =>
    rw [hNext]
    exact hRest

/-- After some calls the items left are those behind as many. -/
theorem advance (h : Yields next len s as) (steps : Nat) :
    Yields next len (advance next steps s) (as.drop steps) := by
  induction steps generalizing s as with
  | zero => exact h
  | succ steps ih =>
    have hStep := ih h.step
    rw [← List.drop_one, List.drop_drop, Nat.add_comm] at hStep
    exact hStep

/-- The call after `steps` calls returns the item of that index. -/
theorem next_advance (h : Yields next len s as) (steps : Nat) :
    (next (Rust.advance next steps s)).1 = as[steps]? := by
  rw [(h.advance steps).next_eq, List.head?_drop]

/-- After `steps` calls the length is what is left. -/
theorem len_advance (h : Yields next len s as) (steps : Nat) :
    len (Rust.advance next steps s) = as.length - steps := by
  rw [(h.advance steps).len_eq, List.length_drop]

/-- An iterator that does the same wherever there is an item, and wherever there
is none left, returns the same items and passes through the same states. -/
theorem congr {next' : σ → Option α × σ} (h : Yields next len s as) (inv : σ → Prop)
    (hInv : inv s) (hKeep : ∀ s, inv s → inv (next s).2)
    (hItem : ∀ s a s', inv s → next s = (some a, s') → next' s = (some a, s'))
    (hDone : ∀ s, len s = 0 → next' s = (none, s)) (steps : Nat) :
    next' (Rust.advance next' steps s) = next (Rust.advance next steps s) := by
  -- at each state the two functions agree: either there is an item, or the length is zero
  have hSame : ∀ {s as}, Yields next len s as → inv s → next' s = next s := by
    intro s as h hInv
    cases h with
    | done hNext hLen => rw [hNext, hDone s hLen]
    | item hNext _ _ => rw [hNext, hItem s _ _ hInv hNext]
  induction steps generalizing s as with
  | zero => exact hSame h hInv
  | succ steps ih =>
    unfold Rust.advance
    rw [Function.iterate_succ_apply, Function.iterate_succ_apply, hSame h hInv]
    exact ih h.step (hKeep s hInv)

/-- Draining the iterator returns all items, given enough calls. -/
theorem collect (h : Yields next len s as) {fuel : Nat} (hFuel : as.length < fuel) :
    collect next fuel s = as := by
  -- each item takes one call, and the last call finds the end
  induction h generalizing fuel with
  | done hNext _ =>
    obtain ⟨fuel, rfl⟩ := Nat.exists_eq_add_of_lt hFuel
    rw [Rust.collect, hNext]
  | item hNext _ _ ih =>
    cases fuel with
    | zero => exact absurd hFuel (Nat.not_lt_zero _)
    | succ fuel =>
      rw [Rust.collect, hNext]
      simp only [ih (Nat.lt_of_succ_lt_succ hFuel)]

end Yields

end Rust
