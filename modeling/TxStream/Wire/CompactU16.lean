import TxStream.Wire.Format
import Mathlib.Tactic.Ring

/-!
# Compact-u16

The variable-length encoding of 16-bit lengths: seven value bits per byte,
least significant first, with the high bit set on every byte but the last.
Only the shortest encoding of a number is admitted, so values below `128`
take one byte, values below `16384` two and the rest three.

Main result:

* `compactU16` — the encoding as a wire format (both round trips).
-/

namespace Wire

/-- The shortest base-128 encoding of a 16-bit number. -/
def encodeCompactU16 (n : Nat) : Bytes :=
  if n < 128 then [UInt8.ofNat n]
  else if n < 16384 then [UInt8.ofNat (n % 128 + 128), UInt8.ofNat (n / 128)]
  else [UInt8.ofNat (n % 128 + 128), UInt8.ofNat (n / 128 % 128 + 128), UInt8.ofNat (n / 16384)]

/-- Read one to three bytes, refusing a final zero byte (a longer encoding than
needed) and anything above 16 bits. -/
def decodeCompactU16 : Bytes → Option (Nat × Bytes)
  | [] => none
  | b₀ :: rest =>
    if b₀.toNat < 128 then some (b₀.toNat, rest)
    else match rest with
      | [] => none
      | b₁ :: rest =>
        if b₁.toNat = 0 then none
        else if b₁.toNat < 128 then some (b₀.toNat % 128 + 128 * b₁.toNat, rest)
        else match rest with
          | [] => none
          | b₂ :: rest =>
            if b₂.toNat = 0 ∨ 4 ≤ b₂.toNat then none
            else some (b₀.toNat % 128 + 128 * (b₁.toNat % 128) + 16384 * b₂.toNat, rest)

/-- Reading back what was written, for every 16-bit number: one case for each length of
the encoding. -/
theorem decodeCompactU16_encode {n : Nat} (h : n < 65536) (rest : Bytes) :
    decodeCompactU16 (encodeCompactU16 n ++ rest) = some (n, rest) := by
  have hByte : ∀ m, m < 256 → (UInt8.ofNat m).toNat = m := fun m hm => by
    rw [UInt8.toNat_ofNat']
    exact Nat.mod_eq_of_lt hm
  unfold encodeCompactU16
  -- the first test of the decoder that fails tells the two lengths apart
  split_ifs with h₁ h₂
  · simp only [List.cons_append, List.nil_append, decodeCompactU16.eq_def]
    rw [hByte n (by omega), if_pos h₁]
  · simp only [List.cons_append, List.nil_append, decodeCompactU16]
    rw [hByte (n % 128 + 128) (by omega), hByte (n / 128) (by omega), if_neg (by omega),
      if_neg (by omega), if_pos (by omega)]
    congr 2
    omega
  · simp only [List.cons_append, List.nil_append, decodeCompactU16]
    rw [hByte (n % 128 + 128) (by omega), hByte (n / 128 % 128 + 128) (by omega),
      hByte (n / 16384) (by omega), if_neg (by omega), if_neg (by omega), if_neg (by omega),
      if_neg (by omega)]
    congr 2
    omega

/-- What is read is the shortest encoding of its value. The zero check on the last byte
is what excludes the longer ones, and the bound on a third byte what keeps the value in
16 bits. -/
theorem encodeCompactU16_decode {bs : Bytes} {n : Nat} {rest : Bytes}
    (h : decodeCompactU16 bs = some (n, rest)) :
    n < 65536 ∧ encodeCompactU16 n ++ rest = bs := by
  have hByte : ∀ (b : UInt8) (m : Nat), m = b.toNat → UInt8.ofNat m = b := fun b m hm => by
    rw [hm, UInt8.ofNat_toNat]
  rcases bs with _ | ⟨b₀, bs⟩
  · simp [decodeCompactU16] at h
  have h₀ : b₀.toNat < 256 := b₀.toNat_lt
  simp only [decodeCompactU16.eq_def] at h
  split_ifs at h with hOne
  · -- one byte
    simp only [Option.some.injEq, Prod.mk.injEq] at h
    obtain ⟨rfl, rfl⟩ := h
    rw [encodeCompactU16, if_pos hOne, hByte b₀ _ rfl]
    exact ⟨by omega, rfl⟩
  rcases bs with _ | ⟨b₁, bs⟩
  · simp at h
  have h₁ : b₁.toNat < 256 := b₁.toNat_lt
  simp only at h
  split_ifs at h with hZero hTwo
  · -- two bytes
    simp only [Option.some.injEq, Prod.mk.injEq] at h
    obtain ⟨rfl, rfl⟩ := h
    rw [encodeCompactU16, if_neg (by omega), if_pos (by omega), hByte b₀ _ (by omega),
      hByte b₁ _ (by omega)]
    exact ⟨by omega, rfl⟩
  rcases bs with _ | ⟨b₂, bs⟩
  · simp at h
  simp only at h
  split_ifs at h with hThree
  -- three bytes
  simp only [Option.some.injEq, Prod.mk.injEq] at h
  obtain ⟨rfl, rfl⟩ := h
  rw [encodeCompactU16, if_neg (by omega), if_neg (by omega), hByte b₀ _ (by omega),
    hByte b₁ _ (by omega), hByte b₂ _ (by omega)]
  exact ⟨by omega, rfl⟩

namespace Format

/-- 16-bit numbers in their shortest base-128 encoding. -/
def compactU16 : Format Nat where
  Valid n := n < 65536
  encode := encodeCompactU16
  decode := decodeCompactU16
  decode_encode := fun h rest => decodeCompactU16_encode h rest
  encode_decode := fun h => encodeCompactU16_decode h

/-- Every number takes a byte at least. -/
theorem length_encodeCompactU16_pos (n : Nat) : 1 ≤ (encodeCompactU16 n).length := by
  unfold encodeCompactU16
  split_ifs <;> simp

end Format

end Wire
