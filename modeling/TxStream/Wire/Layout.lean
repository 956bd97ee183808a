import TxStream.Wire.Format

/-!
# Fixed layouts

A record with fixed offsets is cut at those offsets: `slicesAt offsets bs` is
the list of slices between consecutive offsets. The slices are the fields of a
record exactly when the record's bytes are the fields one after another, which
turns a list of reads at constant offsets into one equation about the string.

Main results:

* `flatten_slicesAt` — the slices of increasing offsets join to one slice.
* `slicesAt_eq_iff` — the slices are given fields iff the string is their
  concatenation.
-/

namespace Wire

/-- The slices between consecutive offsets. -/
def slicesAt : List Nat → Bytes → List Bytes
  | start :: stop :: offsets, bs => bs.extract start stop :: slicesAt (stop :: offsets) bs
  | _, _ => []

/-- Slices that meet join to one. -/
theorem extract_append_extract (bs : Bytes) {a b c : Nat} (hab : a ≤ b) (hbc : b ≤ c) :
    bs.extract a b ++ bs.extract b c = bs.extract a c := by
  rw [List.extract_eq_take_drop, List.extract_eq_take_drop, List.extract_eq_take_drop,
    show c - a = (b - a) + (c - b) by omega, List.take_add, List.drop_drop,
    show a + (b - a) = b by omega]

/-- A slice that is there is as long as its range. -/
theorem length_extract {bs : Bytes} {a b : Nat} (hab : a ≤ b) (hb : b ≤ bs.length) :
    (bs.extract a b).length = b - a := by
  rw [List.extract_eq_take_drop, List.length_take, List.length_drop]
  omega

/-- The whole string is a slice of itself. -/
theorem extract_length (bs : Bytes) : bs.extract 0 bs.length = bs := by
  rw [List.extract_eq_take_drop, List.drop_zero, Nat.sub_zero, List.take_length]

/-- A slice of a slice. -/
theorem extract_extract (bs : Bytes) {a b c d : Nat} (hd : a + d ≤ b) :
    (bs.extract a b).extract c d = bs.extract (a + c) (a + d) := by
  rw [List.extract_eq_take_drop, List.extract_eq_take_drop, List.extract_eq_take_drop,
    List.drop_take, List.take_take, List.drop_drop, show min (d - c) (b - a - c) = d - c by omega,
    show a + d - (a + c) = d - c by omega]

/-- A slice of the front of a string does not depend on what follows it. -/
theorem extract_append_of_le {bs rest : Bytes} {a b : Nat} (hb : b ≤ bs.length) :
    (bs ++ rest).extract a b = bs.extract a b := by
  rw [List.extract_eq_take_drop, List.extract_eq_take_drop, ← List.drop_take, ← List.drop_take,
    List.take_append_of_le_length hb]

/-- The slice behind `front` that is as long as `mid`. -/
theorem extract_of_append {bs front mid rest : Bytes} {a b : Nat} (hEq : bs = front ++ mid ++ rest)
    (hStart : a = front.length) (hStop : b = a + mid.length) : bs.extract a b = mid := by
  subst hEq hStop hStart
  rw [List.extract_eq_take_drop, List.append_assoc, List.drop_left, Nat.add_sub_cancel_left,
    List.take_left]

/-- Slices at increasing offsets join to the slice from the first to the last. -/
theorem flatten_slicesAt (bs : Bytes) (start : Nat) (offsets : List Nat)
    (hSorted : (start :: offsets).Pairwise (· ≤ ·)) :
    (slicesAt (start :: offsets) bs).flatten = bs.extract start (offsets.getLastD start) := by
  induction offsets generalizing start with
  | nil => simp [slicesAt, List.extract_eq_take_drop]
  | cons stop offsets ih =>
    rw [List.pairwise_cons] at hSorted
    obtain ⟨hFirst, hRest⟩ := hSorted
    -- the joined rest ends at the last offset, which is not in front of the next one
    have hLast : stop ≤ offsets.getLastD stop := by
      rcases List.mem_cons.mp (@List.getLastD_mem_cons _ offsets stop) with hEq | hMem
      · exact hEq.ge
      · exact (List.pairwise_cons.mp hRest).1 _ hMem
    rw [slicesAt, List.flatten_cons, ih stop hRest, List.getLastD_cons,
      extract_append_extract bs (hFirst stop (List.mem_cons_self ..)) hLast]

/-- The lengths of the slices are the differences of the offsets. -/
theorem length_slicesAt {bs : Bytes} (start : Nat) (offsets : List Nat)
    (hBound : ∀ offset ∈ offsets, offset ≤ bs.length) :
    (slicesAt (start :: offsets) bs).map List.length =
      List.zipWith (fun stop start => stop - start) offsets (start :: offsets) := by
  induction offsets generalizing start with
  | nil => rfl
  | cons stop offsets ih =>
    have hStop := hBound stop (List.mem_cons_self ..)
    rw [slicesAt, List.map_cons, ih stop fun o ho => hBound o (List.mem_cons_of_mem _ ho),
      List.zipWith_cons_cons, List.extract_eq_take_drop, List.length_take, List.length_drop,
      Nat.min_eq_left (by omega)]

/-- **Reading a record.** The slices are the given fields exactly when the
string holds the fields one after another. -/
theorem slicesAt_eq_iff {bs : Bytes} {start : Nat} {offsets : List Nat} {fields : List Bytes}
    (hSorted : (start :: offsets).Pairwise (· ≤ ·))
    (hBound : ∀ offset ∈ offsets, offset ≤ bs.length)
    (hLengths : fields.map List.length =
      List.zipWith (fun stop start => stop - start) offsets (start :: offsets)) :
    slicesAt (start :: offsets) bs = fields ↔
      bs.extract start (offsets.getLastD start) = fields.flatten := by
  rw [List.eq_iff_flatten_eq, flatten_slicesAt bs start offsets hSorted,
    length_slicesAt start offsets hBound, hLengths]
  exact and_iff_left rfl

end Wire
