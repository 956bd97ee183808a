import TxStream.Wire.Format

/-!
# Readers at an offset

A `Reader` is the other common shape of a decoder: it holds on to the whole
byte string and moves an offset. `Reads` says that a reader follows a format:
at every offset it succeeds exactly when the bytes from there on start with an
encoding, and it moves the offset past that encoding.

Offsets are machine integers, so a reader only follows its format on strings
shorter than some `bound`.

Main results:

* `Reader.Reads.of_encode` — a reader standing in front of an encoding returns
  the encoded value and stands behind it.
* `Reader.Reads.decode` — what a reader returns is what the format decodes.
-/

namespace Wire

/-- A reader returns a value and the offset it leaves; when it fails, the
offset stays where it was. -/
abbrev Reader (α : Type) := Bytes → Nat → Option (α × Nat)

/-- `rest` is what is left of `bytes` from `offset` on. -/
structure At (bytes : Bytes) (offset : Nat) (rest : Bytes) : Prop where
  le : offset ≤ bytes.length
  drop : bytes.drop offset = rest

namespace At

variable {bytes rest : Bytes} {offset : Nat}

/-- At the start nothing has been read. -/
theorem start (bytes : Bytes) : At bytes 0 bytes := ⟨Nat.zero_le _, rfl⟩

/-- The offset and what is left make up the string. -/
theorem length (h : At bytes offset rest) : offset + rest.length = bytes.length := by
  have := h.le
  rw [← h.drop, List.length_drop]
  omega

/-- An element of what is left is an element of the string. -/
theorem getElem? (h : At bytes offset rest) (i : Nat) : bytes[offset + i]? = rest[i]? := by
  rw [← h.drop, List.getElem?_drop]

/-- Moving past the front of what is left. -/
theorem append {front : Bytes} (h : At bytes offset (front ++ rest)) :
    At bytes (offset + front.length) rest := by
  have := h.length
  rw [List.length_append] at this
  refine ⟨by omega, ?_⟩
  rw [← List.drop_drop, h.drop, List.drop_left]

/-- The front of what is left, as a slice. -/
theorem extract {front : Bytes} (h : At bytes offset (front ++ rest)) :
    bytes.extract offset (offset + front.length) = front := by
  rw [List.extract_eq_take_drop, h.drop, Nat.add_sub_cancel_left, List.take_left]

end At

namespace Reader

variable {α : Type} {bound : Nat}

/-- The reader `r` follows the format `f` on strings shorter than `bound`. -/
def Reads (bound : Nat) (r : Reader α) (f : Format α) : Prop :=
  ∀ bytes offset rest, bytes.length < bound → At bytes offset rest →
    r bytes offset = (f.decode rest).map fun p => (p.1, offset + (f.encode p.1).length)

/-- In front of an encoding a reader returns the encoded value, and stands
behind the encoding afterwards. -/
theorem Reads.of_encode {r : Reader α} {f : Format α} (hr : Reads bound r f)
    {bytes rest : Bytes} {offset : Nat} {a : α} (hBound : bytes.length < bound)
    (hValid : f.Valid a) (hAt : At bytes offset (f.encode a ++ rest)) :
    r bytes offset = some (a, offset + (f.encode a).length) ∧
      At bytes (offset + (f.encode a).length) rest := by
  refine ⟨?_, hAt.append⟩
  rw [hr bytes offset _ hBound hAt, f.decode_encode hValid rest]
  rfl

/-- A reader succeeds as its format decodes: either both fail, or both return the value
and what is left behind it. This is the case split of every proof about a sequence of
reads. -/
theorem Reads.decode {r : Reader α} {f : Format α} (hr : Reads bound r f)
    {bytes rest : Bytes} {offset : Nat} (hBound : bytes.length < bound)
    (hAt : At bytes offset rest) :
    (f.decode rest = none ∧ r bytes offset = none) ∨
      ∃ a rest', f.decode rest = some (a, rest') ∧ f.Valid a ∧
        r bytes offset = some (a, offset + (f.encode a).length) ∧
        At bytes (offset + (f.encode a).length) rest' := by
  cases hDec : f.decode rest with
  | none =>
    left
    rw [hr bytes offset rest hBound hAt, hDec]
    exact ⟨rfl, rfl⟩
  | some p =>
    right
    obtain ⟨hValid, rfl⟩ := f.encode_decode hDec
    exact ⟨p.1, p.2, rfl, hValid, hr.of_encode hBound hValid hAt⟩

end Reader

end Wire
