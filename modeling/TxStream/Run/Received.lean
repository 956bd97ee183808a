import Mathlib.Data.List.Chain
import Mathlib.Data.List.Sort

/-!
# Received lists

Entries are numbered, and everything received was sent. What the numbers of a
received list say about how it lies in the sent one:

* `sublist_iff` — increasing numbers: the received list is a sublist.
* `isInfix_iff` — consecutive numbers: it is an infix, with nothing missing inside.
-/

namespace Run

variable {α : Type} {number : α → Nat} {sent received : List α}

/-- The numbers increase. -/
def Increasing (number : α → Nat) (xs : List α) : Prop :=
  xs.Pairwise fun a b => number a < number b

/-- Each number is the successor of the one before. -/
def Consecutive (number : α → Nat) (xs : List α) : Prop :=
  xs.IsChain fun a b => number b = number a + 1

/-- It is enough that each number is larger than the one before. -/
theorem increasing_of_isChain (h : sent.IsChain fun a b => number a < number b) :
    Increasing number sent := by
  have : Trans (fun a b : α => number a < number b) (fun a b => number a < number b)
      (fun a b => number a < number b) := ⟨Nat.lt_trans⟩
  exact List.isChain_iff_pairwise.mp h

/-- Consecutive numbers increase. -/
theorem Consecutive.increasing (h : Consecutive number sent) : Increasing number sent :=
  increasing_of_isChain (List.IsChain.imp (fun a b hNext => by omega) h)

/-- No number comes twice. -/
theorem Increasing.nodup (h : Increasing number sent) : (sent.map number).Nodup :=
  List.pairwise_map.mpr (List.Pairwise.imp (fun hLt => Nat.ne_of_lt hLt) h)

/-- An entry is determined by its number. -/
theorem Increasing.eq_of_number (h : Increasing number sent) {a b : α} (ha : a ∈ sent)
    (hb : b ∈ sent) (hNumber : number a = number b) : a = b :=
  List.inj_on_of_nodup_map h.nodup ha hb hNumber

/-- **Increasing numbers.** -/
theorem sublist_iff (hSent : Increasing number sent) (hMem : ∀ x ∈ received, x ∈ sent) :
    Increasing number received ↔ received.Sublist sent := by
  constructor
  · intro hReceived
    have : Std.Antisymm fun a b : α => number a < number b :=
      ⟨fun _ _ hab hba => absurd hba (Nat.lt_asymm hab)⟩
    exact List.sublist_of_subperm_of_pairwise
      (List.subperm_of_subset hReceived.nodup.of_map hMem) hReceived hSent
  · exact fun hSub => List.Pairwise.sublist hSub hSent

/-- What comes right before an entry is its predecessor in number. -/
theorem Consecutive.before {front back : List α} {x y : α}
    (h : Consecutive number (front ++ y :: back)) (hx : x ∈ front ++ y :: back)
    (hNumber : number y = number x + 1) : ∃ earlier, front = earlier ++ [x] := by
  have hIncreasing := h.increasing
  -- the entry itself and everything behind it have larger numbers
  have hxFront : x ∈ front := by
    rcases List.mem_append.mp hx with hFront | hBack
    · exact hFront
    · have hLater := (List.pairwise_append.mp hIncreasing).2.1
      rcases List.mem_cons.mp hBack with rfl | hBack
      · omega
      · have := (List.pairwise_cons.mp hLater).1 x hBack
        omega
  rcases List.eq_nil_or_concat front with rfl | ⟨earlier, last, rfl⟩
  · exact nomatch hxFront
  · rw [List.concat_eq_append] at h hIncreasing hx ⊢
    have hLast : number y = number last + 1 :=
      (List.isChain_append.mp h).2.2 last (by simp) y rfl
    have hSame := hIncreasing.eq_of_number hx (a := x) (b := last) (by simp) (by omega)
    exact ⟨earlier, by rw [hSame]⟩

/-- **Consecutive numbers.** -/
theorem isInfix_iff (hSent : Consecutive number sent) (hMem : ∀ x ∈ received, x ∈ sent) :
    Consecutive number received ↔ received <:+: sent := by
  constructor
  · intro hReceived
    induction received with
    | nil => exact List.nil_infix
    | cons x received ih =>
      obtain ⟨hx, hRest⟩ := List.forall_mem_cons.mp hMem
      cases received with
      | nil =>
        obtain ⟨front, back, rfl⟩ := List.append_of_mem hx
        exact ⟨front, back, by simp⟩
      | cons y received =>
        obtain ⟨hNumber, hChain⟩ := List.isChain_cons_cons.mp hReceived
        -- the rest is an infix by induction, and the first entry lies right before it
        obtain ⟨front, back, rfl⟩ := ih hRest hChain
        rw [List.append_assoc] at hSent hx ⊢
        obtain ⟨earlier, rfl⟩ := hSent.before hx hNumber
        exact ⟨earlier, back, by simp⟩
  · exact fun hInfix => List.IsChain.infix hSent hInfix

end Run
