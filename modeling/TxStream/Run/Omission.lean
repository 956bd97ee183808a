import Mathlib.Data.List.Sort

/-!
# Omissions and repetitions

What can be said about a list and a list made from it, when the entries of the
first come in a strict order:

* `eq_of_mem_iff` — repeating or reordering entries loses the order.
* `exists_firstOmission` — a sublist that omits an entry between two retained
  ones has a first retained entry behind an omission.
-/

namespace Run

variable {α : Type}

/-- An entry between two retained ones is omitted. -/
def OmitsBetween (kept all : List α) : Prop :=
  ∃ a x b, [a, x, b].Sublist all ∧ a ∈ kept ∧ x ∉ kept ∧ b ∈ kept

/-- The first omission between retained entries, and the entry behind it. -/
structure FirstOmission (kept all : List α) where
  /-- Omitted too, but in front of everything retained. -/
  skipped : List α
  /-- Retained without an omission. -/
  front : List α
  /-- Omitted. -/
  gap : List α
  /-- Retained. -/
  next : α
  rest : List α
  back : List α
  all_eq : all = skipped ++ front ++ gap ++ next :: back
  kept_eq : kept = front ++ next :: rest
  front_ne_nil : front ≠ []
  gap_ne_nil : gap ≠ []
  rest_sublist : rest.Sublist back

/-- The first retained entry, and what lies in front of it and behind it. -/
theorem first_retained {next : α} {rest all : List α} (h : (next :: rest).Sublist all) :
    ∃ skipped back, all = skipped ++ next :: back ∧ rest.Sublist back := by
  obtain ⟨front, behind, rfl, hNext, hRest⟩ := List.cons_sublist_iff.mp h
  obtain ⟨skipped, between, rfl⟩ := List.append_of_mem hNext
  refine ⟨skipped, between ++ behind, by rw [List.append_assoc, List.cons_append], ?_⟩
  exact List.sublist_append_of_sublist_right hRest

/-- A sublist is a prefix, or omits something in front of a retained entry. -/
theorem prefix_or_gap {kept all : List α} (h : kept.Sublist all) :
    kept <+: all ∨ ∃ front gap next rest back, all = front ++ gap ++ next :: back ∧
      kept = front ++ next :: rest ∧ gap ≠ [] ∧ rest.Sublist back := by
  induction h with
  | slnil => exact Or.inl (List.prefix_refl _)
  | @cons kept all x h _ =>
    -- the head is omitted: whatever is retained comes behind a gap
    cases kept with
    | nil => exact Or.inl List.nil_prefix
    | cons next rest =>
      obtain ⟨skipped, back, rfl, hRest⟩ := first_retained h
      exact Or.inr ⟨[], x :: skipped, next, rest, back, rfl, rfl, List.cons_ne_nil _ _, hRest⟩
  | @cons_cons kept all x _ ih =>
    rcases ih with ⟨tail, rfl⟩ | ⟨front, gap, next, rest, back, rfl, rfl, hGap, hRest⟩
    · exact Or.inl ⟨tail, rfl⟩
    · exact Or.inr ⟨x :: front, gap, next, rest, back, rfl, rfl, hGap, hRest⟩

section Ordered

variable {R : α → α → Prop} (hAsymm : ∀ a b, R a b → ¬ R b a)
include hAsymm

/-- A list in strict order is determined by its entries. -/
theorem eq_of_mem_iff {xs ys : List α} (hxs : xs.Pairwise R) (hys : ys.Pairwise R)
    (hMem : ∀ x, x ∈ xs ↔ x ∈ ys) : xs = ys := by
  have hIrrefl : ∀ a b, R a b → a ≠ b := by
    rintro a _ hR rfl
    exact hAsymm a a hR hR
  -- without repetitions, equal entries make a permutation, and there is one in order
  have hPerm : xs.Perm ys := (List.perm_ext_iff_of_nodup
    (hxs.imp (hIrrefl _ _)) (hys.imp (hIrrefl _ _))).mpr hMem
  exact hPerm.eq_of_pairwise (fun a b _ _ hab hba => absurd hba (hAsymm a b hab)) hxs hys

/-- An omission between retained entries has a first one. -/
theorem exists_firstOmission {kept all : List α} (hAll : all.Pairwise R)
    (hSub : kept.Sublist all) (hOmits : OmitsBetween kept all) :
    Nonempty (FirstOmission kept all) := by
  obtain ⟨a, x, b, hBetween, ha, hx, hb⟩ := hOmits
  cases kept with
  | nil => exact nomatch ha
  | cons first kept =>
    obtain ⟨skipped, behind, rfl, hBehind⟩ := first_retained hSub
    rcases prefix_or_gap hBehind with ⟨tail, rfl⟩ | ⟨front, gap, next, rest, back, rfl, rfl, hGap,
      hRest⟩
    · -- everything from the first retained entry to the last one is retained
      have hOrder := hAll.sublist hBetween
      simp only [List.pairwise_cons, List.mem_cons, forall_eq_or_imp] at hOrder
      obtain ⟨⟨hax, -⟩, ⟨hxb, -⟩, -⟩ := hOrder
      rw [← List.cons_append, List.pairwise_append, List.pairwise_append] at hAll
      obtain ⟨-, ⟨-, -, hTail⟩, hFront⟩ := hAll
      have hMem : x ∈ skipped ++ (first :: kept ++ tail) :=
        hBetween.subset (List.mem_cons_of_mem _ (List.mem_cons_self ..))
      rcases List.mem_append.mp hMem with hSkipped | hMem
      · exact absurd hax (hAsymm x a (hFront x hSkipped a (List.mem_append_left _ ha)))
      · rcases List.mem_append.mp hMem with hKept | hLast
        · exact absurd hKept hx
        · exact absurd hxb (hAsymm b x (hTail b hb x hLast))
    · exact ⟨{
        skipped, front := first :: front, gap, next, rest, back
        all_eq := by simp
        kept_eq := rfl
        front_ne_nil := List.cons_ne_nil _ _
        gap_ne_nil := hGap
        rest_sublist := hRest }⟩

end Ordered

end Run
