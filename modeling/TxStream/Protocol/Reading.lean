import TxStream.Protocol.Transaction
import TxStream.Wire.CompactU16

/-!
# What the readers of `transaction.rs` read

Each offset reader follows a wire format, and a cursor call is that format's
decoder on the unread bytes with failure reported as `Parse`. Everything later
goes through these facts; no other module opens a reader.

The two-byte compact-u16 reader follows the full encoding cut off at `16384`.
-/

namespace TxStream

open Wire Rust

-- ---------------------------------------------------------------------------
-- Bits of a byte
-- ---------------------------------------------------------------------------

/-- The continuation bit of a compact-u16 byte is clear exactly below `128`. -/
theorem and_0x80_eq_zero (b : UInt8) : b &&& 0x80 = 0 ↔ b.toNat < 128 := by
  have h : ∀ n < 256, (UInt8.ofNat n &&& 0x80 = 0 ↔ n < 128) := by decide +kernel
  simpa using h b.toNat b.toNat_lt

/-- The seven payload bits of a compact-u16 byte are its remainder by `128`. -/
theorem toNat_and_0x7f (b : UInt8) : (b &&& 0x7f).toNat = b.toNat % 128 := by
  rw [UInt8.toNat_and]
  exact Nat.and_two_pow_sub_one_eq_mod b.toNat 7

/-- Seven low bits and seven high bits make a 14-bit number: the shifted half has its
low seven bits clear, so the `|` of the source is a sum and nothing is lost in the
`u16`. -/
theorem toNat_compact (low high : UInt8) :
    ((low &&& 0x7f).toUInt16 ||| ((high &&& 0x7f).toUInt16 <<< 7)).toNat =
      low.toNat % 128 + 128 * (high.toNat % 128) := by
  have hShift : ((high &&& 0x7f).toUInt16 <<< 7).toNat = (high.toNat % 128) <<< 7 := by
    rw [UInt16.toNat_shiftLeft, UInt8.toNat_toUInt16, toNat_and_0x7f]
    have : (high.toNat % 128) <<< 7 < 2 ^ 16 := by
      rw [Nat.shiftLeft_eq]
      omega
    simpa using Nat.mod_eq_of_lt this
  -- the two halves share no bit, which makes the disjunction an addition
  rw [UInt16.toNat_or, hShift, UInt8.toNat_toUInt16, toNat_and_0x7f, Nat.or_comm,
    ← Nat.shiftLeft_add_eq_or_of_lt (by omega), Nat.shiftLeft_eq]
  omega

-- ---------------------------------------------------------------------------
-- Readers and formats
-- ---------------------------------------------------------------------------

/-- Compact-u16 values of at most two bytes. The reader of the source stops after the
second byte, and `16384` is the first value that needs a third. -/
def shortCount : Format Nat := Format.compactU16.filter (· < 16384)

/-- The same, as the `u16` the reader returns. -/
def shortU16 : Format UInt16 :=
  shortCount.iso UInt16.ofNat UInt16.toNat (fun _ => UInt16.ofNat_toNat)
    (fun n h => by
      have : n < 16384 := h.2
      rw [UInt16.toNat_ofNat']
      omega)

/-- `read_byte_at` follows the one-byte format. The checked addition cannot overflow
where a byte was there to read. -/
theorem readByteAt_reads : Reader.Reads usizeSize readByteAt Format.byte := by
  intro bytes offset rest hBound hAt
  have hGet : bytes[offset]? = rest[0]? := hAt.getElem? 0
  have hLen := hAt.length
  -- the reader fails for want of a byte exactly where nothing is left to decode
  cases rest with
  | nil =>
    rw [List.getElem?_nil] at hGet
    simp [readByteAt, hGet]
  | cons b rest =>
    rw [List.getElem?_cons_zero] at hGet
    have hNext : checkedAdd offset 1 = some (offset + 1) :=
      checkedAdd_of_lt (by rw [List.length_cons] at hLen; omega)
    simp [readByteAt, hGet, hNext, Format.byte]

/-- `read_bytes_at` follows the format of `len` raw bytes. Where too few bytes are left
it fails either way: the end of the range overflows, or it lies behind the buffer. -/
theorem readBytesAt_reads (len : Nat) :
    Reader.Reads usizeSize (readBytesAt len) (Format.string len) := by
  intro bytes offset rest hBound hAt
  have hLen := hAt.length
  by_cases hFits : len ≤ rest.length
  · have hStop : checkedAdd offset len = some (offset + len) := checkedAdd_of_lt (by omega)
    have hRange : getRange bytes offset (offset + len) = some (rest.take len) := by
      rw [getRange_eq_some, List.extract_eq_take_drop, hAt.drop, Nat.add_sub_cancel_left]
      exact ⟨⟨by omega, by omega⟩, rfl⟩
    simp [readBytesAt, hStop, hRange, Format.string, hFits]
  · have hNone : readBytesAt len bytes offset = none := by
      unfold readBytesAt
      -- `len` is any number here, so the end of the range may not even be a `usize`
      cases hStop : checkedAdd offset len with
      | none => rfl
      | some stop =>
        have := checkedAdd_eq_some hStop
        have hRange : getRange bytes offset stop = none := if_neg (by omega)
        simp [hRange]
    simp [hNone, Format.string, hFits]

/-- `read_u16_le_at` follows the little-endian `u16`: it is the two-byte read with its
bytes put together. -/
theorem readU16LeAt_reads : Reader.Reads usizeSize readU16LeAt Format.u16le := by
  intro bytes offset rest hBound hAt
  have hRead := readBytesAt_reads 2 bytes offset rest hBound hAt
  rw [Format.u16le_decode]
  cases hString : (Format.string 2).decode rest with
  | none =>
    rw [hString] at hRead
    simp [readU16LeAt, hRead]
  | some p =>
    have hTwo : ((Format.string 2).encode p.1).length = 2 :=
      ((Format.string 2).encode_decode hString).1
    rw [hString] at hRead
    have hLe : (Format.u16le.encode (UInt16.ofNat (leNat p.1))).length = 2 := length_leBytes ..
    simp only [readU16LeAt, hRead, hTwo, hLe, Option.map_some, Option.bind_eq_bind, Option.bind_some]
    rfl

/-- A first byte below `128` is the whole number. -/
theorem shortCount_decode_one {b₀ : UInt8} (h : b₀.toNat < 128) (rest : Bytes) :
    shortCount.decode (b₀ :: rest) = some (b₀.toNat, rest) := by
  have hDec : Format.compactU16.decode (b₀ :: rest) = some (b₀.toNat, rest) := by
    simp [Format.compactU16, decodeCompactU16.eq_def, h]
  have : b₀.toNat < 16384 := by omega
  rw [shortCount, Format.filter_decode, hDec]
  simp [this]

/-- Two bytes, the first with its continuation bit set: the second must end the number
and must not be zero, which would make the encoding longer than need be. Those are the
two checks of `read_compact_u16_at` on its second byte. -/
theorem shortCount_decode_two {b₀ b₁ : UInt8} (h : 128 ≤ b₀.toNat) (rest : Bytes) :
    shortCount.decode (b₀ :: b₁ :: rest) =
      if b₁.toNat = 0 ∨ 128 ≤ b₁.toNat then none
      else some (b₀.toNat % 128 + 128 * (b₁.toNat % 128), rest) := by
  rw [shortCount, Format.filter_decode]
  have h₀ : ¬ b₀.toNat < 128 := by omega
  -- the second byte is zero, ends the number, or asks for a third one
  by_cases hZero : b₁.toNat = 0
  · have hDec : Format.compactU16.decode (b₀ :: b₁ :: rest) = none := by
      simp [Format.compactU16, decodeCompactU16.eq_def, h₀, hZero]
    simp [hDec, hZero]
  by_cases hTwo : b₁.toNat < 128
  · have hDec : Format.compactU16.decode (b₀ :: b₁ :: rest) =
        some (b₀.toNat % 128 + 128 * b₁.toNat, rest) := by
      simp [Format.compactU16, decodeCompactU16.eq_def, h₀, hZero, hTwo]
    have hLt : b₀.toNat % 128 + 128 * b₁.toNat < 16384 := by omega
    rw [hDec, if_neg (by omega), Nat.mod_eq_of_lt hTwo]
    simp [hLt]
  · -- a third byte makes the value too large for two
    rw [if_pos (by omega), Option.filter_eq_none_iff]
    rintro ⟨n, tail⟩ hDec
    obtain ⟨-, hEq⟩ := Format.compactU16.encode_decode hDec
    have hLarge : ¬ n < 16384 := by
      intro hLt
      have hShow : encodeCompactU16 n ++ tail = b₀ :: b₁ :: rest := hEq
      unfold encodeCompactU16 at hShow
      split_ifs at hShow with hOne
      · have := congrArg UInt8.toNat (List.cons.inj hShow).1
        rw [UInt8.toNat_ofNat'] at this
        omega
      · have := congrArg UInt8.toNat (List.cons.inj (List.cons.inj hShow).2).1
        rw [UInt8.toNat_ofNat'] at this
        omega
    simpa using hLarge

/-- A value takes as many bytes as its compact-u16 encoding has. -/
theorem length_shortU16_encode (n : UInt16) :
    (shortU16.encode n).length = (encodeCompactU16 n.toNat).length := rfl

/-- `read_compact_u16_at` follows compact-u16 values of at most two bytes: the same
strings are accepted, with the same value, and the reader stops where the encoding of
that value ends. -/
theorem readCompactU16At_reads : Reader.Reads usizeSize readCompactU16At shortU16 := by
  intro bytes offset rest hBound hAt
  have hGet₀ : bytes[offset]? = rest[0]? := hAt.getElem? 0
  have hGet₁ : bytes[offset + 1]? = rest[1]? := hAt.getElem? 1
  have hLen := hAt.length
  have hDecode : ∀ bs, shortU16.decode bs =
      (shortCount.decode bs).map fun p => (UInt16.ofNat p.1, p.2) := fun _ => rfl
  rw [hDecode]
  -- split along the reads of the source: no byte, one that ends the number, one that asks for
  -- a second
  rcases rest with _ | ⟨b₀, rest⟩
  · rw [List.getElem?_nil] at hGet₀
    simp [readCompactU16At, hGet₀, shortCount, Format.filter, Format.compactU16,
      decodeCompactU16]
  rw [List.getElem?_cons_zero] at hGet₀
  rw [List.length_cons] at hLen
  have hNext : checkedAdd offset 1 = some (offset + 1) := checkedAdd_of_lt (by omega)
  by_cases hOne : b₀.toNat < 128
  · have hZero : b₀ &&& 0x80 = 0 := (and_0x80_eq_zero b₀).mpr hOne
    have hU16 : UInt16.ofNat b₀.toNat = b₀.toUInt16 := by simp
    rw [shortCount_decode_one hOne]
    simp [readCompactU16At, hGet₀, hZero, hNext, length_shortU16_encode, encodeCompactU16, hOne]
  have hHigh : ¬ b₀ &&& 0x80 = 0 := fun h => hOne ((and_0x80_eq_zero b₀).mp h)
  -- the number goes on, and the second byte may be missing
  rcases rest with _ | ⟨b₁, rest⟩
  · rw [List.getElem?_cons_succ, List.getElem?_nil] at hGet₁
    simp [readCompactU16At, hGet₀, hHigh, hNext, hGet₁, shortCount, Format.filter,
      Format.compactU16, decodeCompactU16, hOne]
  rw [List.getElem?_cons_succ, List.getElem?_cons_zero] at hGet₁
  rw [List.length_cons] at hLen
  have hLast : checkedAdd offset 2 = some (offset + 2) := checkedAdd_of_lt (by omega)
  have hCond : (b₁ = 0 ∨ b₁ &&& 0x80 ≠ 0) ↔ (b₁.toNat = 0 ∨ 128 ≤ b₁.toNat) := by
    rw [Ne, and_0x80_eq_zero, not_lt, ← UInt8.toNat_inj]
    rfl
  rw [shortCount_decode_two (by omega)]
  by_cases hBad : b₁.toNat = 0 ∨ 128 ≤ b₁.toNat
  · simp only [readCompactU16At, hGet₀, hHigh, hNext, hGet₁, hCond, hBad, Option.bind_eq_bind,
      Option.bind_some, if_true, if_false, Option.map_none]
  · -- accepted: the bit operations give the decoded number, and it takes two bytes
    have hValue : (b₀ &&& 0x7f).toUInt16 ||| ((b₁ &&& 0x7f).toUInt16 <<< 7) =
        UInt16.ofNat (b₀.toNat % 128 + 128 * (b₁.toNat % 128)) := by
      apply UInt16.toNat_inj.mp
      rw [toNat_compact, UInt16.toNat_ofNat']
      omega
    have hTwoBytes : (shortU16.encode
        (UInt16.ofNat (b₀.toNat % 128 + 128 * (b₁.toNat % 128)))).length = 2 := by
      rw [length_shortU16_encode, UInt16.toNat_ofNat', encodeCompactU16, if_neg (by omega),
        if_pos (by omega)]
      rfl
    simp only [readCompactU16At, hGet₀, hHigh, hNext, hGet₁, hCond, hBad, hLast, hValue,
      hTwoBytes, Option.bind_eq_bind, Option.bind_some, if_false, Option.map_some]
    rfl

-- ---------------------------------------------------------------------------
-- Cursor calls
-- ---------------------------------------------------------------------------

namespace Cursor

variable {bytes rest : Bytes} {offset : Nat}

/-- A cursor call either fails with `Parse` where the format decodes nothing,
or returns the decoded value and stands behind it. -/
theorem read_cases {α : Type} {r : Reader α} {f : Format α}
    (hr : Reader.Reads usizeSize r f) (hBound : bytes.length < usizeSize)
    (hAt : At bytes offset rest) :
    (f.decode rest = none ∧ read ⟨bytes, offset⟩ r = .error .parse) ∨
      ∃ a offset' rest', f.decode rest = some (a, rest') ∧ f.Valid a ∧
        offset' = offset + (f.encode a).length ∧
        read ⟨bytes, offset⟩ r = .ok (a, ⟨bytes, offset'⟩) ∧ At bytes offset' rest' := by
  rcases hr.decode hBound hAt with ⟨hDec, hRead⟩ | ⟨a, rest', hDec, hValid, hRead, hAt'⟩
  · exact Or.inl ⟨hDec, by simp [read, hRead]⟩
  · exact Or.inr ⟨a, _, rest', hDec, hValid, rfl, by simp [read, hRead, pure, Except.pure], hAt'⟩

/-- The cursor call `read_byte`: a byte and the cursor one further, or `Parse` at the
end. -/
theorem readByte_cases (hBound : bytes.length < usizeSize) (hAt : At bytes offset rest) :
    (Format.byte.decode rest = none ∧ readByte ⟨bytes, offset⟩ = .error .parse) ∨
      ∃ b rest', Format.byte.decode rest = some (b, rest') ∧
        readByte ⟨bytes, offset⟩ = .ok (b, ⟨bytes, offset + 1⟩) ∧ At bytes (offset + 1) rest' := by
  rcases read_cases readByteAt_reads hBound hAt with
    h | ⟨b, _, rest', hDec, -, rfl, hRead, hAt'⟩
  · exact Or.inl h
  · exact Or.inr ⟨b, rest', hDec, hRead, hAt'⟩

/-- The cursor call `read_bytes`: the next `len` bytes and the cursor behind them, or
`Parse` where fewer are left. The cursor is not returned on failure, so a failed call
ends the parse. -/
theorem readBytes_cases (len : Nat) (hBound : bytes.length < usizeSize)
    (hAt : At bytes offset rest) :
    ((Format.string len).decode rest = none ∧ readBytes ⟨bytes, offset⟩ len = .error .parse) ∨
      ∃ front rest', (Format.string len).decode rest = some (front, rest') ∧ front.length = len ∧
        readBytes ⟨bytes, offset⟩ len = .ok (front, ⟨bytes, offset + len⟩) ∧
        At bytes (offset + len) rest' := by
  rcases read_cases (readBytesAt_reads len) hBound hAt with
    h | ⟨front, _, rest', hDec, hLen, rfl, hRead, hAt'⟩
  · exact Or.inl h
  · have hLen : front.length = len := hLen
    -- a string is its own encoding, so the cursor moves by `len`
    rw [Format.string_encode, hLen] at hRead hAt'
    exact Or.inr ⟨front, rest', hDec, hLen, hRead, hAt'⟩

/-- The cursor call `skip` checks the same range as `read_bytes` and drops the bytes: it
moves past a section whose content is read later, from the view. -/
theorem skip_cases (len : Nat) (hBound : bytes.length < usizeSize) (hAt : At bytes offset rest) :
    ((Format.string len).decode rest = none ∧ skip ⟨bytes, offset⟩ len = .error .parse) ∨
      ∃ front rest', (Format.string len).decode rest = some (front, rest') ∧ front.length = len ∧
        skip ⟨bytes, offset⟩ len = .ok ⟨bytes, offset + len⟩ ∧
        At bytes (offset + len) rest' := by
  rcases readBytes_cases len hBound hAt with
    ⟨hDec, hRead⟩ | ⟨front, rest', hDec, hLen, hRead, hAt'⟩
  · exact Or.inl ⟨hDec, by simp [skip, hRead]⟩
  · exact Or.inr ⟨front, rest', hDec, hLen, by simp [skip, hRead, pure, Except.pure], hAt'⟩

end Cursor

end TxStream
