import TxStream.Wire.Format

/-!
# Prefix-free words

A set of words is *prefix free* if none of them is a proper prefix of another.
A stream of such words needs no separators: where one word ends is decided by
the word itself.

A reader that takes one item off the front of a string and returns the rest
makes the encodings of its items prefix free, and reading again and again cuts a
concatenation into its items.

Main results:

* `ReadsFront.prefixFree`, `Format.prefixFree` — the words of a reader, and of a
  wire format.
* `ReadsFront.splitAll_flatMap` — repeated reading finds the items again.
-/

namespace Wire

variable {α β : Type}

-- ---------------------------------------------------------------------------
-- Words
-- ---------------------------------------------------------------------------

/-- No word is a proper prefix of another. -/
def PrefixFree (Word : List α → Prop) : Prop :=
  ∀ w s, Word w → Word (w ++ s) → s = []

/-- The encodings of a wire format. -/
theorem Format.prefixFree (f : Format β) : PrefixFree fun w => ∃ b, f.Valid b ∧ f.encode b = w := by
  rintro w s ⟨b, hb, rfl⟩ ⟨b', hb', hEq⟩
  have hSame : f.encode b' ++ [] = f.encode b ++ s := (List.append_nil _).trans hEq
  exact (f.encode_prefix_free hb' hb hSame).2.symm

-- ---------------------------------------------------------------------------
-- Reading one item after another
-- ---------------------------------------------------------------------------

/-- The reader finds an item at the front of a string, whatever follows it. -/
structure ReadsFront (read : List α → Option (β × List α)) (encode : β → List α)
    (Item : β → Prop) : Prop where
  nonempty : ∀ b, Item b → encode b ≠ []
  read_append : ∀ b, Item b → ∀ rest, read (encode b ++ rest) = some (b, rest)

/-- Read items off the front until nothing is left. A reader that takes nothing
off gets no further. -/
def splitAll (read : List α → Option (β × List α)) (input : List α) : Option (List β) :=
  if input.isEmpty then some [] else
  match read input with
  | none => none
  | some (b, rest) =>
    if rest.length < input.length then (splitAll read rest).map (b :: ·) else none
termination_by input.length

namespace ReadsFront

variable {read : List α → Option (β × List α)} {encode : β → List α} {Item : β → Prop}

/-- The words of a reader are prefix free. -/
theorem prefixFree (h : ReadsFront read encode Item) :
    PrefixFree fun w => ∃ b, Item b ∧ encode b = w := by
  rintro w s ⟨b, hb, rfl⟩ ⟨b', hb', hEq⟩
  have hFront := h.read_append b hb s
  rw [← hEq, ← List.append_nil (encode b'), h.read_append b' hb' []] at hFront
  exact (Prod.mk.inj (Option.some.inj hFront)).2.symm

/-- **Repeated reading** cuts a concatenation of items into the items. -/
theorem splitAll_flatMap (h : ReadsFront read encode Item) {items : List β}
    (hItems : ∀ b ∈ items, Item b) : splitAll read (items.flatMap encode) = some items := by
  induction items with
  | nil =>
    unfold splitAll
    rfl
  | cons b items ih =>
    have hItem := hItems b (List.mem_cons_self ..)
    have hRest := ih fun b' hb' => hItems b' (List.mem_cons_of_mem b hb')
    have hNonempty : (encode b ++ items.flatMap encode).isEmpty = false := by
      rw [List.isEmpty_eq_false_iff]
      exact List.append_ne_nil_of_left_ne_nil (h.nonempty b hItem) _
    have hShorter : (items.flatMap encode).length < (encode b ++ items.flatMap encode).length := by
      have := List.length_pos_iff.mpr (h.nonempty b hItem)
      rw [List.length_append]
      omega
    unfold splitAll
    rw [List.flatMap_cons, hNonempty, h.read_append b hItem]
    simp only [Bool.false_eq_true, if_false, hShorter, if_true, hRest, Option.map_some]

end ReadsFront

end Wire
