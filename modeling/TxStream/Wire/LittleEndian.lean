import TxStream.Wire.Format
import Mathlib.Tactic.Ring

/-!
# Little-endian integers

`leBytes w n` writes the low `w` base-256 digits of `n`, least significant
first; `leNat` reads such a digit list back. They invert each other on
`w`-byte strings and on numbers below `256 ^ w`, which gives the formats of
the fixed-width machine integers.

Main results:

* `leNat_leBytes`, `leBytes_leNat` — the two round trips.
* `Format.le` — `w`-byte little-endian naturals.
* `Format.u16le`, `Format.u32le`, `Format.u64le` — the machine integers.
-/

namespace Wire

/-- The `w` least significant base-256 digits of a number, lowest first. -/
def leBytes : Nat → Nat → Bytes
  | 0, _ => []
  | w + 1, n => UInt8.ofNat n :: leBytes w (n / 256)

/-- The number a base-256 digit list stands for, lowest digit first. -/
def leNat : Bytes → Nat
  | [] => 0
  | b :: bs => b.toNat + 256 * leNat bs

/-- A number is always written in `w` bytes, whatever its size. -/
@[simp] theorem length_leBytes (w n : Nat) : (leBytes w n).length = w := by
  induction w generalizing n with
  | zero => rfl
  | succ w ih => simp [leBytes, ih]

/-- A string of `w` bytes stands for a number below `256 ^ w`. -/
theorem leNat_lt (bs : Bytes) : leNat bs < 256 ^ bs.length := by
  induction bs with
  | nil => simp [leNat]
  | cons b bs ih =>
    have hb : b.toNat < 256 := b.toNat_lt
    rw [leNat, List.length_cons, Nat.pow_succ]
    omega

/-- Writing a number and reading it back gives the number, where `w` bytes have room for
it. -/
theorem leNat_leBytes {w n : Nat} (h : n < 256 ^ w) : leNat (leBytes w n) = n := by
  induction w generalizing n with
  | zero =>
    rw [Nat.pow_zero] at h
    simp [leBytes, leNat]
    omega
  | succ w ih =>
    rw [Nat.pow_succ] at h
    -- the lowest digit is the remainder, the rest stands for the quotient
    rw [leBytes, leNat, ih (by omega), UInt8.toNat_ofNat']
    omega

/-- Reading a string and writing the number in as many bytes gives the string: there is
one representation per width. -/
theorem leBytes_leNat (bs : Bytes) : leBytes bs.length (leNat bs) = bs := by
  induction bs with
  | nil => rfl
  | cons b bs ih =>
    have hb : b.toNat < 256 := b.toNat_lt
    -- the head of the string is the remainder of its number and the tail the quotient
    have hLow : UInt8.ofNat (b.toNat + 256 * leNat bs) = b := by
      apply UInt8.toNat_inj.mp
      rw [UInt8.toNat_ofNat']
      omega
    have hHigh : (b.toNat + 256 * leNat bs) / 256 = leNat bs := by omega
    rw [List.length_cons, leBytes, leNat, hLow, hHigh, ih]

/-- A `w`-byte string is determined by the number it stands for. -/
theorem leBytes_leNat_of_length {w : Nat} {bs : Bytes} (h : bs.length = w) :
    leBytes w (leNat bs) = bs := by
  rw [← h, leBytes_leNat]

namespace Format

/-- A natural number in `w` little-endian bytes. The decoder takes the bytes whatever
they are: every string of that length stands for a number. -/
def le (w : Nat) : Format Nat where
  Valid n := n < 256 ^ w
  encode := leBytes w
  decode bs := if w ≤ bs.length then some (leNat (bs.take w), bs.drop w) else none
  decode_encode := by
    intro n h rest
    have hLen := length_leBytes w n
    rw [List.take_left' hLen, List.drop_left' hLen, leNat_leBytes h, if_pos (by simp)]
  encode_decode := by
    intro bs n rest h
    split at h
    · rename_i hLen
      simp only [Option.some.injEq, Prod.mk.injEq] at h
      obtain ⟨rfl, rfl⟩ := h
      have hTake : (bs.take w).length = w := by simp [hLen]
      have hLt := leNat_lt (bs.take w)
      rw [hTake] at hLt
      exact ⟨hLt, by rw [leBytes_leNat_of_length hTake, List.take_append_drop]⟩
    · simp at h

/-- No byte, no number. -/
@[simp] theorem le_one_decode_nil : (le 1).decode [] = none := rfl

/-- One byte is the number it stands for. -/
@[simp] theorem le_one_decode_cons (b : UInt8) (rest : Bytes) :
    (le 1).decode (b :: rest) = some (b.toNat, rest) := by
  simp [le, leNat]

/-- A little-endian number is a raw string with its digits put together. -/
theorem le_decode (w : Nat) (bs : Bytes) :
    (le w).decode bs = ((string w).decode bs).map fun p => (leNat p.1, p.2) := by
  simp only [le, string]
  split <;> rfl

/-- The same for a machine integer made from the number. -/
theorem iso_le_decode {α : Type} (w : Nat) (fwd : Nat → α) (bwd : α → Nat)
    (hFwd : ∀ b, fwd (bwd b) = b) (hBwd : ∀ n, (le w).Valid n → bwd (fwd n) = n)
    (bs : Bytes) :
    ((le w).iso fwd bwd hFwd hBwd).decode bs =
      ((string w).decode bs).map fun p => (fwd (leNat p.1), p.2) := by
  show Option.map _ ((le w).decode bs) = _
  rw [le_decode, Option.map_map]
  rfl

/-- A little-endian `u16`. -/
def u16le : Format UInt16 :=
  (le 2).iso UInt16.ofNat UInt16.toNat (fun _ => UInt16.ofNat_toNat)
    (fun n (h : n < 256 ^ 2) => by
      rw [UInt16.toNat_ofNat']
      omega)

/-- A little-endian `u32`. -/
def u32le : Format UInt32 :=
  (le 4).iso UInt32.ofNat UInt32.toNat (fun _ => UInt32.ofNat_toNat)
    (fun n (h : n < 256 ^ 4) => by
      rw [UInt32.toNat_ofNat']
      omega)

/-- A little-endian `u64`. -/
def u64le : Format UInt64 :=
  (le 8).iso UInt64.ofNat UInt64.toNat (fun _ => UInt64.ofNat_toNat)
    (fun n (h : n < 256 ^ 8) => by
      rw [UInt64.toNat_ofNat']
      omega)

/-- Two raw bytes, put together. -/
theorem u16le_decode (bs : Bytes) :
    u16le.decode bs = ((string 2).decode bs).map fun p => (UInt16.ofNat (leNat p.1), p.2) :=
  iso_le_decode ..

/-- Four raw bytes, put together. -/
theorem u32le_decode (bs : Bytes) :
    u32le.decode bs = ((string 4).decode bs).map fun p => (UInt32.ofNat (leNat p.1), p.2) :=
  iso_le_decode ..

/-- Eight raw bytes, put together. -/
theorem u64le_decode (bs : Bytes) :
    u64le.decode bs = ((string 8).decode bs).map fun p => (UInt64.ofNat (leNat p.1), p.2) :=
  iso_le_decode ..

end Format

end Wire
