import TxStream.Protocol.V1Format

/-!
# `try_new` on v1 bytes

The v1 constructor and the decoder of `v1Format` take the same steps. The one
place where their shapes differ is the instruction list: the decoder reads all
headers and then all payloads, the constructor checks the room for the headers
and then walks headers and payloads with one offset each.

Main results:

* `maskKnown_iff` — the mask check of the constructor is the mask rule.
* `instructionLoopV1_cases` — the two offsets stay in step over every header
  list.
* `v1Rejected_iff` — the checks behind the last byte are the sanitize rules.
* `tryNewV1_cases` — the constructor is the decoder followed by the checks.
-/

namespace TxStream

open Wire Rust Format

variable {bytes rest : Bytes} {offset : Nat}

-- ---------------------------------------------------------------------------
-- The config mask
-- ---------------------------------------------------------------------------

/-- A mask without unknown bits is a number below 32. In one direction a bit at five or
above would survive the `&`, in the other there are 32 masks to look at. -/
theorem and_not_known_eq_zero (mask : UInt32) :
    mask &&& ~~~v1ConfigKnownBits = 0 ↔ mask.toNat < 32 := by
  constructor
  · intro h
    have hAnd : mask.toNat &&& (~~~v1ConfigKnownBits).toNat = 0 := by
      rw [← UInt32.toNat_and, h]
      rfl
    -- no bit from the fifth on: either the complement has it, or a `u32` does not
    refine Nat.lt_pow_two_of_testBit (n := 5) _ fun i hi => ?_
    by_cases hHigh : i < 32
    · have hBit : (~~~v1ConfigKnownBits).toNat.testBit i = true := by
        have hAll : ∀ i < 32, 5 ≤ i → (~~~v1ConfigKnownBits).toNat.testBit i = true := by decide
        exact hAll i hHigh hi
      have hZero := congrArg (Nat.testBit · i) hAnd
      simpa only [Nat.testBit_and, hBit, Bool.and_true, Nat.zero_testBit] using hZero
    · exact Nat.testBit_lt_two_pow
        (Nat.lt_of_lt_of_le mask.toNat_lt (Nat.pow_le_pow_right (by decide) (not_lt.mp hHigh)))
  · intro h
    have hAll : ∀ n < 32, UInt32.ofNat n &&& ~~~v1ConfigKnownBits = 0 := by decide
    simpa using hAll mask.toNat h

/-- The constructor lets through exactly the known masks: its two tests for a fee with
one bit are the one condition that the two bits agree. -/
theorem maskKnown_iff (mask : UInt32) :
    (mask &&& ~~~v1ConfigKnownBits ≠ 0
      ∨ mask &&& v1ConfigPriorityFee = 1 ∨ mask &&& v1ConfigPriorityFee = 2) ↔
      ¬ MaskKnown mask := by
  have hFee : mask.toNat < 32 →
      ((mask &&& v1ConfigPriorityFee = 1 ∨ mask &&& v1ConfigPriorityFee = 2) ↔
        mask.toNat.testBit 0 ≠ mask.toNat.testBit 1) := by
    intro h
    have hAll : ∀ n < 32,
        ((UInt32.ofNat n &&& v1ConfigPriorityFee = 1 ∨ UInt32.ofNat n &&& v1ConfigPriorityFee = 2) ↔
          n.testBit 0 ≠ n.testBit 1) := by decide
    simpa using hAll mask.toNat h
  rw [Ne, and_not_known_eq_zero, MaskKnown, not_and_or]
  by_cases h : mask.toNat < 32
  · rw [hFee h]
  · simp [h]

section Bits

variable {mask : UInt32} (h : MaskKnown mask)

include h

/-- A known mask has both fee bits exactly when it has the first. -/
theorem and_priorityFee_eq :
    mask &&& v1ConfigPriorityFee = v1ConfigPriorityFee ↔ mask.toNat.testBit 0 = true := by
  have hAll : ∀ n < 32, n.testBit 0 = n.testBit 1 →
      (UInt32.ofNat n &&& v1ConfigPriorityFee = v1ConfigPriorityFee ↔ n.testBit 0 = true) := by
    decide
  simpa using hAll mask.toNat h.1 h.2

/-- The bit of the compute unit limit, tested the way the source does. -/
theorem and_computeUnitLimit_ne :
    mask &&& v1ConfigComputeUnitLimit ≠ 0 ↔ mask.toNat.testBit 2 = true := by
  have hAll : ∀ n < 32,
      (UInt32.ofNat n &&& v1ConfigComputeUnitLimit ≠ 0 ↔ n.testBit 2 = true) := by decide
  simpa using hAll mask.toNat h.1

/-- The bit of the limit on loaded data. -/
theorem and_loadedAccountsDataSize_ne :
    mask &&& v1ConfigLoadedAccountsDataSize ≠ 0 ↔ mask.toNat.testBit 3 = true := by
  have hAll : ∀ n < 32,
      (UInt32.ofNat n &&& v1ConfigLoadedAccountsDataSize ≠ 0 ↔ n.testBit 3 = true) := by decide
  simpa using hAll mask.toNat h.1

/-- The bit of the heap size. -/
theorem and_heapSize_ne : mask &&& v1ConfigHeapSize ≠ 0 ↔ mask.toNat.testBit 4 = true := by
  have hAll : ∀ n < 32, (UInt32.ofNat n &&& v1ConfigHeapSize ≠ 0 ↔ n.testBit 4 = true) := by
    decide
  simpa using hAll mask.toNat h.1

end Bits

-- ---------------------------------------------------------------------------
-- Cursor calls
-- ---------------------------------------------------------------------------

/-- The cursor call `read_u32_le`: the next four bytes as a number, or `Parse` where
there are fewer. -/
theorem readU32Le_cases (hBound : bytes.length < usizeSize) (hAt : At bytes offset rest) :
    (u32le.decode rest = none ∧ Cursor.readU32Le ⟨bytes, offset⟩ = .error .parse) ∨
      ∃ value rest', u32le.decode rest = some (value, rest') ∧
        Cursor.readU32Le ⟨bytes, offset⟩ = .ok (value, ⟨bytes, offset + 4⟩) ∧
        At bytes (offset + 4) rest' := by
  rw [u32le_decode]
  rcases Cursor.readBytes_cases 4 hBound hAt with
    ⟨hDec, hRead⟩ | ⟨front, rest', hDec, -, hRead, hAt'⟩
  · exact Or.inl ⟨by rw [hDec, Option.map_none], by simp [Cursor.readU32Le, hRead]⟩
  · exact Or.inr ⟨_, rest', by rw [hDec, Option.map_some], by
      simp [Cursor.readU32Le, hRead, Pure.pure, Except.pure], hAt'⟩

/-- Skipping an announced value is decoding it, for values of `w` bytes that
any `w` bytes stand for. -/
theorem skipIf_cases {α : Type} {f : Format α} {w : Nat} (fwd : Bytes → α)
    (hf : ∀ bs, f.decode bs = ((string w).decode bs).map fun p => (fwd p.1, p.2))
    {condition : Prop} [Decidable condition] {present : Bool} (hPresent : condition ↔ present = true)
    (hBound : bytes.length < usizeSize) (hAt : At bytes offset rest) :
    ((option present f).decode rest = none ∧
      Cursor.skipIf ⟨bytes, offset⟩ condition w = .error .parse) ∨
      ∃ value offset' rest', (option present f).decode rest = some (value, rest') ∧
        offset' = offset + ((option present f).encode value).length ∧
        Cursor.skipIf ⟨bytes, offset⟩ condition w = .ok ⟨bytes, offset'⟩ ∧
        At bytes offset' rest' := by
  rw [option_decode, Cursor.skipIf]
  -- the value is announced and its bytes must be there, or nothing is read
  by_cases hCondition : condition
  · rw [if_pos hCondition, if_pos (hPresent.mp hCondition)]
    rcases Cursor.skip_cases w hBound hAt with
      ⟨hDec, hSkip⟩ | ⟨front, rest', hDec, hLen, hSkip, hAt'⟩
    · exact Or.inl ⟨by rw [hf, hDec]; rfl, hSkip⟩
    · have hSome : f.decode rest = some (fwd front, rest') := by rw [hf, hDec]; rfl
      have hWidth : (f.encode (fwd front)).length = w := by
        have h₁ := f.length_of_decode hSome
        have h₂ := (string w).length_of_decode hDec
        rw [string_encode] at h₂
        omega
      refine Or.inr ⟨some (fwd front), _, rest', by rw [hSome]; rfl, rfl, ?_, ?_⟩
      · rw [option_encode, Option.elim_some, hWidth, hSkip]
      · rw [option_encode, Option.elim_some, hWidth]
        exact hAt'
  · have hAbsent : present ≠ true := fun h => hCondition (hPresent.mpr h)
    rw [if_neg hCondition, if_neg hAbsent]
    exact Or.inr ⟨none, offset, rest, rfl, rfl, rfl, hAt⟩

/-- Reading an announced value is decoding it. -/
theorem readU32LeIf_cases {condition : Prop} [Decidable condition] {present : Bool}
    (hPresent : condition ↔ present = true) (hBound : bytes.length < usizeSize)
    (hAt : At bytes offset rest) :
    ((option present u32le).decode rest = none ∧
      Cursor.readU32LeIf ⟨bytes, offset⟩ condition = .error .parse) ∨
      ∃ value offset' rest', (option present u32le).decode rest = some (value, rest') ∧
        offset' = offset + ((option present u32le).encode value).length ∧
        Cursor.readU32LeIf ⟨bytes, offset⟩ condition = .ok (value, ⟨bytes, offset'⟩) ∧
        At bytes offset' rest' := by
  rw [option_decode, Cursor.readU32LeIf]
  by_cases hCondition : condition
  · rw [if_pos hCondition, if_pos (hPresent.mp hCondition)]
    rcases readU32Le_cases hBound hAt with ⟨hDec, hRead⟩ | ⟨value, rest', hDec, hRead, hAt'⟩
    · exact Or.inl ⟨by rw [hDec]; rfl, by rw [hRead]; rfl⟩
    · exact Or.inr ⟨some value, offset + 4, rest', by rw [hDec]; rfl, rfl, by rw [hRead]; rfl, hAt'⟩
  · have hAbsent : present ≠ true := fun h => hCondition (hPresent.mpr h)
    rw [if_neg hCondition, if_neg hAbsent]
    exact Or.inr ⟨none, offset, rest, rfl, rfl, rfl, hAt⟩

-- ---------------------------------------------------------------------------
-- The instruction loop
-- ---------------------------------------------------------------------------

/-- Whether an instruction sets the deferred sanitize error. -/
def instructionRejectedV1 (numKeys : UInt8) (i : SanitizedInstructionView) : Bool :=
  decide (i.programIdIndex = 0 ∨ i.programIdIndex ≥ numKeys)
    || i.accounts.any fun index => decide (index ≥ numKeys)

/-- Setting a flag in a loop is asking whether some element sets it. -/
theorem foldl_or_any {α : Type} (p : α → Bool) (xs : List α) (start : Bool) :
    xs.foldl (fun found x => found || p x) start = (start || xs.any p) := by
  induction xs generalizing start with
  | nil => simp
  | cons x xs ih => rw [List.foldl_cons, ih, List.any_cons, Bool.or_assoc]

/-- In front of the headers of a list, the loop decodes the payloads that they announce.
The headers are known to be there, so the loop can only fail at a payload. The induction
is on the header list: the header offset moves by four bytes a round, and the payload
offset by what the header says. -/
theorem instructionLoopV1_cases (hBound : bytes.length < usizeSize) (numKeys : UInt8)
    {tail : Bytes} (headers : List InstructionHeader) :
    ∀ {headerOffset payloadOffset : Nat} {rest : Bytes},
    At bytes headerOffset (headers.flatMap headerFormat.encode ++ tail) →
    At bytes payloadOffset rest → ∀ sanitizeError : Bool,
    ((each payloadFormat headers).decode rest = none ∧
      instructionLoopV1 bytes numKeys headers.length headerOffset payloadOffset sanitizeError
        = .error .parse) ∨
      ∃ payloads offset' rest', (each payloadFormat headers).decode rest = some (payloads, rest') ∧
        offset' = payloadOffset + ((each payloadFormat headers).encode payloads).length ∧
        instructionLoopV1 bytes numKeys headers.length headerOffset payloadOffset sanitizeError
          = .ok (offset', sanitizeError
            || (List.zipWith instructionOf headers payloads).any (instructionRejectedV1 numKeys)) ∧
        At bytes offset' rest' := by
  induction headers with
  | nil =>
    intro headerOffset payloadOffset rest _ hAt sanitizeError
    exact Or.inr ⟨[], payloadOffset, rest, rfl, rfl, by simp [instructionLoopV1], hAt⟩
  | cons header headers ih =>
    intro headerOffset payloadOffset rest hHeaders hAt sanitizeError
    -- the header that the loop reads next
    have hShape : (header :: headers).flatMap headerFormat.encode ++ tail =
        byte.encode header.1 ++ (byte.encode header.2.1 ++ (u16le.encode header.2.2
          ++ (headers.flatMap headerFormat.encode ++ tail))) := by
      rw [List.flatMap_cons]
      simp [headerFormat]
    rw [hShape] at hHeaders
    obtain ⟨hProgram, hHeaders₁⟩ := readByteAt_reads.of_encode hBound trivial hHeaders
    obtain ⟨hAccounts, hHeaders₂⟩ := readByteAt_reads.of_encode hBound trivial hHeaders₁
    obtain ⟨hData, hHeaders₃⟩ := readU16LeAt_reads.of_encode hBound
      (show header.2.2.toNat < 256 ^ 2 from header.2.2.toNat_lt) hHeaders₂
    rw [List.length_cons, instructionLoopV1, each_decode_cons, payloadFormat, seq_decode]
    simp only [hProgram, hAccounts, hData, okOr_some, ok_bind]
    -- its accounts
    rcases (readBytesAt_reads header.2.1.toNat).decode hBound hAt with
      ⟨hDec, hRead⟩ | ⟨accounts, rest₁, hDec, -, hRead, hAt₁⟩
    · exact Or.inl ⟨by simp only [hDec], by simp [hRead]⟩
    simp only [hDec, hRead, okOr_some, ok_bind]
    -- its data
    rcases (readBytesAt_reads header.2.2.toNat).decode hBound hAt₁ with
      ⟨hDec, hRead⟩ | ⟨data, rest₂, hDec, -, hRead, hAt₂⟩
    · exact Or.inl ⟨by simp only [hDec, Option.map_none], by
        simp only [hRead, okOr_none, error_bind]⟩
    have hFlag : (sanitizeError || decide (header.1 = 0 ∨ header.1 ≥ numKeys)
          || accounts.any fun index => decide (index ≥ numKeys)) =
        (sanitizeError || instructionRejectedV1 numKeys (instructionOf header (accounts, data))) :=
      Bool.or_assoc ..
    simp only [hDec, hRead, okOr_some, ok_bind, Option.map_some, foldl_or_any, hFlag]
    rcases ih hHeaders₃ hAt₂ (sanitizeError
        || instructionRejectedV1 numKeys (instructionOf header (accounts, data))) with
      ⟨hDec, hLoop⟩ | ⟨payloads, offset', rest', hDec, hOff, hLoop, hAt'⟩
    · left
      rw [hDec, Option.map_none]
      exact ⟨rfl, hLoop⟩
    · right
      rw [hDec, Option.map_some]
      refine ⟨(accounts, data) :: payloads, offset', rest', rfl, ?_, ?_, hAt'⟩
      · have hEncode : (each payloadFormat (header :: headers)).encode ((accounts, data) :: payloads)
            = (accounts ++ data) ++ (each payloadFormat headers).encode payloads := rfl
        rw [hEncode, List.length_append, List.length_append, hOff]
        simp only [string_encode]
        omega
      · rw [List.zipWith_cons_cons, List.any_cons, ← Bool.or_assoc]
        exact hLoop

/-- A header takes four bytes. -/
theorem length_headerFormat_encode (header : InstructionHeader) :
    (headerFormat.encode header).length = 4 := by
  show ([header.1] ++ ([header.2.1] ++ leBytes 2 header.2.2.toNat)).length = 4
  simp

/-- And any four bytes are one. -/
theorem headerFormat_decode_isSome (bs : Bytes) (h : 4 ≤ bs.length) :
    (headerFormat.decode bs).isSome := by
  rcases bs with _ | ⟨a, _ | ⟨b, _ | ⟨c, _ | ⟨d, bs⟩⟩⟩⟩
  · simp at h
  · simp at h
  · simp at h
  · simp at h
  · simp [headerFormat, seq_decode, u16le_decode, string]

/-- Checking the room for the headers and running the loop is decoding the instruction
list. Since any four bytes are a header, the headers decode exactly when there is room
for them, which is all that the constructor checks before the loop. -/
theorem instructionSectionV1_cases (hBound : bytes.length < usizeSize) (hAt : At bytes offset rest)
    (numKeys : UInt8) (count : Nat) :
    ((instructionsV1Format count).decode rest = none ∧
      (Cursor.skip ⟨bytes, offset⟩ (count * 4) = .error .parse ∨
        Cursor.skip ⟨bytes, offset⟩ (count * 4) = .ok ⟨bytes, offset + count * 4⟩ ∧
        ∀ sanitizeError, instructionLoopV1 bytes numKeys count offset (offset + count * 4)
          sanitizeError = .error .parse)) ∨
      ∃ is offset' rest', (instructionsV1Format count).decode rest = some (is, rest') ∧
        offset' = offset + count * 4 +
          (is.flatMap SanitizedInstructionView.serializePayload).length ∧
        Cursor.skip ⟨bytes, offset⟩ (count * 4) = .ok ⟨bytes, offset + count * 4⟩ ∧
        (∀ sanitizeError, instructionLoopV1 bytes numKeys count offset (offset + count * 4)
          sanitizeError = .ok (offset', sanitizeError || is.any (instructionRejectedV1 numKeys))) ∧
        At bytes offset' rest' := by
  have hRoom := repeated_decode_isSome length_headerFormat_encode headerFormat_decode_isSome
    count rest
  rw [instructionsV1Format, iso_decode, map_seq_decode]
  -- no room for the headers: the skip fails as well
  cases hHeaders : (headerFormat.repeated count).decode rest with
  | none =>
    rw [hHeaders, Option.isSome_none, Bool.false_eq_true, false_iff] at hRoom
    rcases Cursor.skip_cases (count * 4) hBound hAt with
      ⟨-, hSkip⟩ | ⟨front, rest', hDec, -⟩
    · exact Or.inl ⟨rfl, Or.inl hSkip⟩
    · simp [string, hRoom] at hDec
  | some p =>
    obtain ⟨headers, rest₁⟩ := p
    obtain ⟨⟨hCount, -⟩, hRest⟩ := (headerFormat.repeated count).encode_decode hHeaders
    have hWidth : (headers.flatMap headerFormat.encode).length = count * 4 := by
      rw [List.length_flatMap, List.map_congr_left fun header _ =>
        length_headerFormat_encode header, List.map_const', List.sum_replicate, hCount,
        Nat.nsmul_eq_mul]
    rw [repeated_encode] at hRest
    rw [← hRest] at hAt
    have hAt₁ := hAt.append
    rw [hWidth] at hAt₁
    have hSkip : Cursor.skip ⟨bytes, offset⟩ (count * 4) = .ok ⟨bytes, offset + count * 4⟩ := by
      rcases Cursor.skip_cases (count * 4) hBound hAt with
        ⟨hDec, -⟩ | ⟨front, rest', -, -, hSkip, -⟩
      · rw [← hWidth] at hDec
        simp [string] at hDec
      · exact hSkip
    have hLoop := fun sanitizeError =>
      instructionLoopV1_cases hBound numKeys headers hAt hAt₁ sanitizeError
    rw [Option.bind_some]
    simp only
    -- the headers are there; what remains is the loop over the payloads
    cases hPayloads : (each payloadFormat headers).decode rest₁ with
    | none =>
      refine Or.inl ⟨rfl, Or.inr ⟨hSkip, fun sanitizeError => ?_⟩⟩
      rcases hLoop sanitizeError with ⟨-, hErr⟩ | ⟨payloads, o, r, hSome, -⟩
      · rw [hCount] at hErr
        exact hErr
      · exact absurd (hPayloads.symm.trans hSome) (by simp)
    | some q =>
      obtain ⟨payloads, rest₂⟩ := q
      have hEncode : (each payloadFormat headers).encode payloads =
          (List.zipWith instructionOf headers payloads).flatMap
            SanitizedInstructionView.serializePayload := by
        show (List.zipWith _ headers payloads).flatten = _
        rw [List.flatMap_def, List.map_zipWith]
        rfl
      refine Or.inr ⟨List.zipWith instructionOf headers payloads, _, rest₂, rfl, rfl, hSkip,
        fun sanitizeError => ?_, ?_⟩
      · rcases hLoop sanitizeError with ⟨hNone, -⟩ | ⟨payloads', o, r, hSome, rfl, hEq, -⟩
        · exact absurd (hPayloads.symm.trans hNone) (by simp)
        · obtain ⟨rfl, rfl⟩ : payloads = payloads' ∧ rest₂ = r := by
            simpa using hPayloads.symm.trans hSome
          rw [hCount, hEncode] at hEq
          exact hEq
      · rcases hLoop false with ⟨hNone, -⟩ | ⟨payloads', o, r, hSome, rfl, -, hAt'⟩
        · exact absurd (hPayloads.symm.trans hNone) (by simp)
        · obtain ⟨rfl, rfl⟩ : payloads = payloads' ∧ rest₂ = r := by
            simpa using hPayloads.symm.trans hSome
          rw [hEncode] at hAt'
          exact hAt'

/-- Reading a count byte and skipping that many blocks is decoding a counted list of
blocks. Unlike for a packet, no count is refused at this point. -/
theorem readCounted_cases (w : Nat) (hBound : bytes.length < usizeSize)
    (hAt : At bytes offset rest) :
    ((counted (le 1) (raw w)).decode rest = none ∧
      (Cursor.readByte ⟨bytes, offset⟩ = .error .parse ∨
        ∃ n cursor, Cursor.readByte ⟨bytes, offset⟩ = .ok (n, cursor) ∧
          cursor.skip (n.toNat * w) = .error .parse)) ∨
      ∃ xs n offset' rest', (counted (le 1) (raw w)).decode rest = some (xs, rest') ∧
        n = UInt8.ofNat xs.length ∧ xs.length < 256 ∧ offset' = offset + 1 + xs.length * w ∧
        Cursor.readByte ⟨bytes, offset⟩ = .ok (n, ⟨bytes, offset + 1⟩) ∧
        Cursor.skip ⟨bytes, offset + 1⟩ (n.toNat * w) = .ok ⟨bytes, offset'⟩ ∧
        At bytes offset' rest' := by
  rw [counted_decode]
  rcases Cursor.readByte_cases hBound hAt with ⟨hDec, hRead⟩ | ⟨n, rest₁, hDec, hRead, hAt₁⟩
  · cases rest with
    | nil => exact Or.inl ⟨by simp, Or.inl hRead⟩
    | cons b rest => simp at hDec
  obtain rfl : rest = n :: rest₁ := ((decode_eq_some_iff _).mp hDec).2.symm
  simp only [le_one_decode_cons, repeated_raw_decode]
  rcases Cursor.skip_cases (n.toNat * w) hBound hAt₁ with
    ⟨hDec', hSkip⟩ | ⟨front, rest₂, hDec', hLen, hSkip, hAt₂⟩
  · exact Or.inl ⟨by rw [hDec', Option.map_none], Or.inr ⟨n, _, hRead, hSkip⟩⟩
  · refine Or.inr ⟨chunks w n.toNat front, n, _, rest₂, by rw [hDec', Option.map_some], ?_, ?_, ?_,
      hRead, hSkip, hAt₂⟩
    · rw [length_chunks, UInt8.ofNat_toNat]
    · rw [length_chunks]
      exact n.toNat_lt
    · rw [length_chunks]

-- ---------------------------------------------------------------------------
-- The sanitize rules
-- ---------------------------------------------------------------------------

/-- The three flags about the header, the signatures and the keys, in `u8` arithmetic,
against six rules over natural numbers. -/
theorem headerRejectedV1_iff {keys : Nat} (required readonlySigned readonlyUnsigned : UInt8)
    (hKeys : keys < 256) :
    (decide (required = 0 ∨ readonlySigned ≥ required
        ∨ readonlyUnsigned > UInt8.ofNat keys - required)
      || decide (required > maxSignaturesPerPacket ∨ UInt8.ofNat keys < required)
      || decide (UInt8.ofNat keys = 0 ∨ UInt8.ofNat keys > maxV1StaticAccounts)) = true ↔
    ¬ (1 ≤ required.toNat ∧ required.toNat ≤ 12 ∧ readonlySigned.toNat < required.toNat ∧
      required.toNat ≤ keys ∧ keys ≤ 64 ∧ readonlyUnsigned.toNat ≤ keys - required.toNat) := by
  have hZero : ∀ b : UInt8, b = 0 ↔ b.toNat = 0 := fun b => by
    rw [← UInt8.toNat_inj]
    rfl
  have hKey8 : (UInt8.ofNat keys).toNat = keys := by
    rw [UInt8.toNat_ofNat']
    omega
  have hTwelve : maxSignaturesPerPacket.toNat = 12 := rfl
  have hSixtyFour : maxV1StaticAccounts.toNat = 64 := rfl
  have hReq := required.toNat_lt
  simp only [Bool.or_eq_true, decide_eq_true_eq, hZero, ge_iff_le, gt_iff_lt,
    UInt8.le_iff_toNat_le, UInt8.lt_iff_toNat_lt, hKey8, UInt8.toNat_sub, hTwelve, hSixtyFour]
  -- the wrapped difference only shows when the key count is already too small
  by_cases hLe : required.toNat ≤ keys
  · have : (2 ^ 8 - required.toNat + keys) % 2 ^ 8 = keys - required.toNat := by omega
    rw [this]
    omega
  · omega

/-- The flag about a requested heap: outside of its bounds, or no multiple of 1024. -/
theorem heapSizeRejected_iff (heapSize : Option UInt32) :
    (heapSize.any fun heapSize =>
      decide (¬(minV1HeapSize ≤ heapSize ∧ heapSize ≤ maxV1HeapSize) ∨ heapSize % 1024 ≠ 0)) = true ↔
    ¬ ∀ size ∈ heapSize, 32 * 1024 ≤ size.toNat ∧ size.toNat ≤ 256 * 1024 ∧ 1024 ∣ size.toNat := by
  cases heapSize with
  | none => simp
  | some size =>
    have hMod : size % 1024 = 0 ↔ 1024 ∣ size.toNat := by
      rw [← UInt32.toNat_inj, UInt32.toNat_mod]
      exact Nat.dvd_iff_mod_eq_zero.symm
    have hMin : minV1HeapSize ≤ size ↔ 32 * 1024 ≤ size.toNat := UInt32.le_iff_toNat_le
    have hMax : size ≤ maxV1HeapSize ↔ size.toNat ≤ 256 * 1024 := UInt32.le_iff_toNat_le
    simp only [Option.any_some, decide_eq_true_eq, hMin, hMax, ne_eq, hMod, Option.mem_def,
      Option.some.injEq, forall_eq']
    tauto

/-- The deferred error of the instruction loop, with the check on the number of
instructions made before it, against the three rules about instructions. -/
theorem instructionsRejectedV1_iff {keys : Nat} (is : List SanitizedInstructionView)
    (hKeys : keys < 256) (hMany : is.length < 256) :
    (decide ((UInt8.ofNat is.length).toUInt16 > maxInstructions)
      || is.any (instructionRejectedV1 (UInt8.ofNat keys))) = true ↔
    ¬ (is.length ≤ 64 ∧
      (∀ i ∈ is, 1 ≤ i.programIdIndex.toNat ∧ i.programIdIndex.toNat ≤ keys - 1) ∧
      ∀ i ∈ is, ∀ index ∈ i.accounts, index.toNat < keys) := by
  have hKey8 : (UInt8.ofNat keys).toNat = keys := by
    rw [UInt8.toNat_ofNat']
    omega
  have hLen16 : (UInt8.ofNat is.length).toUInt16.toNat = is.length := by
    rw [UInt8.toNat_toUInt16, UInt8.toNat_ofNat']
    omega
  have hLimit : (UInt8.ofNat is.length).toUInt16 > maxInstructions ↔ ¬ is.length ≤ 64 := by
    rw [gt_iff_lt, UInt16.lt_iff_toNat_lt, hLen16, not_le]
    rfl
  have hItem : ∀ i : SanitizedInstructionView,
      instructionRejectedV1 (UInt8.ofNat keys) i = true ↔
        ¬ ((1 ≤ i.programIdIndex.toNat ∧ i.programIdIndex.toNat ≤ keys - 1)
          ∧ ∀ index ∈ i.accounts, index.toNat < keys) := by
    intro i
    have hZero : i.programIdIndex = 0 ↔ i.programIdIndex.toNat = 0 := by
      rw [← UInt8.toNat_inj]
      rfl
    have hProgram : (i.programIdIndex.toNat = 0 ∨ keys ≤ i.programIdIndex.toNat) ↔
        ¬ (1 ≤ i.programIdIndex.toNat ∧ i.programIdIndex.toNat ≤ keys - 1) := by omega
    simp only [instructionRejectedV1, Bool.or_eq_true, decide_eq_true_eq, hZero, ge_iff_le,
      UInt8.le_iff_toNat_le, hKey8, hProgram, List.any_eq_true, not_and_or (b := ∀ _, _),
      not_forall, not_lt, exists_prop]
  rw [← forall₂_and, Bool.or_eq_true, decide_eq_true_eq, hLimit, List.any_eq_true, not_and_or]
  simp only [hItem, not_forall, exists_prop]

/-- The checks behind the last byte are the sanitize rules: the flags of the constructor
are set exactly when one of the rules is broken. -/
theorem v1Rejected_iff (tx : V1Transaction) (hKeys : tx.accountKeys.length < 256)
    (hMany : tx.instructions.length < 256) :
    (decide (tx.numRequiredSignatures = 0 ∨ tx.numReadonlySigned ≥ tx.numRequiredSignatures
        ∨ tx.numReadonlyUnsigned > UInt8.ofNat tx.accountKeys.length - tx.numRequiredSignatures)
      || decide (tx.numRequiredSignatures > maxSignaturesPerPacket
        ∨ UInt8.ofNat tx.accountKeys.length < tx.numRequiredSignatures)
      || decide (UInt8.ofNat tx.accountKeys.length = 0
        ∨ UInt8.ofNat tx.accountKeys.length > maxV1StaticAccounts)
      || (tx.heapSize.any fun heapSize =>
        decide (¬(minV1HeapSize ≤ heapSize ∧ heapSize ≤ maxV1HeapSize) ∨ heapSize % 1024 ≠ 0))
      || (decide ((UInt8.ofNat tx.instructions.length).toUInt16 > maxInstructions)
        || tx.instructions.any (instructionRejectedV1 (UInt8.ofNat tx.accountKeys.length)))) = true
      ↔ ¬ tx.Sanitary := by
  rw [Bool.or_eq_true, Bool.or_eq_true, heapSizeRejected_iff,
    instructionsRejectedV1_iff _ hKeys hMany, headerRejectedV1_iff _ _ _ hKeys,
    V1Transaction.sanitary_iff]
  tauto

/-- The view of a v1 transaction: its counts, and the offsets at which its
parts stand in the serialization. -/
def V1Transaction.view (tx : V1Transaction) : SanitizedTransactionView :=
  let transactionConfigValuesOffset := 42 + tx.accountKeys.length * 32
  let instructionsOffset := transactionConfigValuesOffset + tx.configValues.length
  let instructionPayloadsOffset := instructionsOffset + tx.instructions.length * 4
  { bytes := tx.serialize
    messageVersion := .v1
    numSignatures := tx.numRequiredSignatures
    signaturesOffset := instructionPayloadsOffset
      + (tx.instructions.flatMap SanitizedInstructionView.serializePayload).length
    numRequiredSignatures := tx.numRequiredSignatures
    numReadonlySignedStaticAccounts := tx.numReadonlySigned
    numReadonlyUnsignedStaticAccounts := tx.numReadonlyUnsigned
    numStaticAccountKeys := UInt8.ofNat tx.accountKeys.length
    staticAccountKeysOffset := 42
    recentBlockhashOffset := 8
    numInstructions := UInt16.ofNat tx.instructions.length
    instructionsOffset
    instructionPayloadsOffset
    instructionLayout := .v1
    numAddressTableLookups := 0
    addressTableLookupsOffset := 0
    totalWritableLookupAccounts := 0
    totalReadonlyLookupAccounts := 0
    transactionConfigMask := tx.configMask
    transactionConfigValuesOffset }

-- ---------------------------------------------------------------------------
-- The phases of the constructor
-- ---------------------------------------------------------------------------

/-- What the constructor has read when it comes to the configuration values, with what
it has checked by then. -/
structure V1Head where
  required : UInt8
  readonlySigned : UInt8
  readonlyUnsigned : UInt8
  mask : UInt32
  hash : FixedBytes 32
  count : UInt8
  keys : List (FixedBytes 32)
  mask_known : MaskKnown mask
  keys_lt : keys.length < 256

/-- The configuration values, each there or not. -/
structure V1Config where
  fee : Option UInt64
  limit : Option UInt32
  loaded : Option UInt32
  heap : Option UInt32

namespace V1Head

/-- The transaction that the head starts, given what stands behind it. -/
def transaction (head : V1Head) (config : V1Config) (instructions : List SanitizedInstructionView)
    (signatures : List (FixedBytes 64)) : V1Transaction where
  numRequiredSignatures := head.required
  numReadonlySigned := head.readonlySigned
  numReadonlyUnsigned := head.readonlyUnsigned
  configMask := head.mask
  recentBlockhash := head.hash
  accountKeys := head.keys
  priorityFee := config.fee
  computeUnitLimit := config.limit
  loadedAccountsDataSize := config.loaded
  heapSize := config.heap
  instructions
  signatures

/-- How much room the mask gives to the values. -/
def configLength (head : V1Head) (config : V1Config) : Nat :=
  ((option (head.mask.toNat.testBit 0) u64le).encode config.fee).length
    + ((option (head.mask.toNat.testBit 2) u32le).encode config.limit).length
    + ((option (head.mask.toNat.testBit 3) u32le).encode config.loaded).length
    + ((option (head.mask.toNat.testBit 4) u32le).encode config.heap).length

/-- The decoder from the signatures on. -/
def decodeSignatures (head : V1Head) (config : V1Config)
    (instructions : List SanitizedInstructionView) (rest : Bytes) :
    Option (V1Transaction × Bytes) :=
  (((raw 64).repeated head.required.toNat).decode rest).map fun signatures =>
    (head.transaction config instructions signatures.1, signatures.2)

/-- The decoder from the instructions on. -/
def decodeInstructions (head : V1Head) (config : V1Config) (rest : Bytes) :
    Option (V1Transaction × Bytes) :=
  ((instructionsV1Format head.count.toNat).decode rest).bind fun is =>
    head.decodeSignatures config is.1 is.2

/-- The decoder from the configuration values on. -/
def decodeConfig (head : V1Head) (rest : Bytes) : Option (V1Transaction × Bytes) :=
  ((option (head.mask.toNat.testBit 0) u64le).decode rest).bind fun fee =>
  ((option (head.mask.toNat.testBit 2) u32le).decode fee.2).bind fun limit =>
  ((option (head.mask.toNat.testBit 3) u32le).decode limit.2).bind fun loaded =>
  ((option (head.mask.toNat.testBit 4) u32le).decode loaded.2).bind fun heap =>
    head.decodeInstructions ⟨fee.1, limit.1, loaded.1, heap.1⟩ heap.2

/-- The constructor from the signatures on. -/
def finish (head : V1Head) (bytes : Bytes) (transactionConfigValuesOffset : Nat)
    (heapSize : Option UInt32) (instructionsOffset instructionPayloadsOffset : Nat)
    (instructionSanitizeError : Bool) (cursor : Cursor) :
    Except TransactionViewError SanitizedTransactionView := do
  let numStaticAccountKeys := UInt8.ofNat head.keys.length
  let signaturesOffset := cursor.offset
  let cursor ← cursor.skip (head.required.toNat * 64)
  if cursor.offset ≠ bytes.length then throw .parse else
  let headerIsInvalid : Bool := head.required = 0
    ∨ head.readonlySigned ≥ head.required
    ∨ head.readonlyUnsigned > numStaticAccountKeys - head.required
  let signaturesAreInvalid : Bool := head.required > maxSignaturesPerPacket
    ∨ numStaticAccountKeys < head.required
  let addressesAreInvalid : Bool := numStaticAccountKeys = 0
    ∨ numStaticAccountKeys > maxV1StaticAccounts
  let heapSizeIsInvalid : Bool := heapSize.any fun heapSize =>
    ¬(minV1HeapSize ≤ heapSize ∧ heapSize ≤ maxV1HeapSize) ∨ heapSize % 1024 ≠ 0
  if headerIsInvalid || signaturesAreInvalid || addressesAreInvalid
      || heapSizeIsInvalid || instructionSanitizeError then
    throw .sanitize
  else
  return {
    bytes
    messageVersion := .v1
    numSignatures := head.required
    signaturesOffset
    numRequiredSignatures := head.required
    numReadonlySignedStaticAccounts := head.readonlySigned
    numReadonlyUnsignedStaticAccounts := head.readonlyUnsigned
    numStaticAccountKeys
    staticAccountKeysOffset := 42
    recentBlockhashOffset := 8
    numInstructions := head.count.toUInt16
    instructionsOffset
    instructionPayloadsOffset
    instructionLayout := .v1
    numAddressTableLookups := 0
    addressTableLookupsOffset := 0
    totalWritableLookupAccounts := 0
    totalReadonlyLookupAccounts := 0
    transactionConfigMask := head.mask
    transactionConfigValuesOffset }

/-- The constructor from the instructions on. -/
def readInstructions (head : V1Head) (bytes : Bytes) (transactionConfigValuesOffset : Nat)
    (heapSize : Option UInt32) (cursor : Cursor) :
    Except TransactionViewError SanitizedTransactionView := do
  let numInstructions := head.count.toUInt16
  let instructionsOffset := cursor.offset
  let instructionHeadersLen ← okOr .parse (checkedMul numInstructions.toNat 4)
  let cursor ← cursor.skip instructionHeadersLen
  let instructionPayloadsOffset := cursor.offset
  let (payloadOffset, instructionSanitizeError) ←
    instructionLoopV1 bytes (UInt8.ofNat head.keys.length) numInstructions.toNat
      instructionsOffset instructionPayloadsOffset (numInstructions > maxInstructions)
  head.finish bytes transactionConfigValuesOffset heapSize instructionsOffset
    instructionPayloadsOffset instructionSanitizeError { cursor with offset := payloadOffset }

/-- The constructor from the configuration values on. -/
def readConfig (head : V1Head) (bytes : Bytes) (cursor : Cursor) :
    Except TransactionViewError SanitizedTransactionView := do
  let transactionConfigValuesOffset := cursor.offset
  let cursor ← cursor.skipIf (head.mask &&& v1ConfigPriorityFee = v1ConfigPriorityFee) 8
  let cursor ← cursor.skipIf (head.mask &&& v1ConfigComputeUnitLimit ≠ 0) 4
  let cursor ← cursor.skipIf (head.mask &&& v1ConfigLoadedAccountsDataSize ≠ 0) 4
  let (heapSize, cursor) ← cursor.readU32LeIf (head.mask &&& v1ConfigHeapSize ≠ 0)
  head.readInstructions bytes transactionConfigValuesOffset heapSize cursor

end V1Head

/-- Where the format and the reader both fail, the phase ends in a parse error. -/
theorem rejected {α β γ δ : Type} {decoded : Option α} {front : Option β}
    {back : β → Option α} {call : Except TransactionViewError γ}
    {reader : Except TransactionViewError δ} {rest : δ → Except TransactionViewError γ}
    (hDecode : decoded = front.bind back) (hNew : call = reader >>= rest) (hDec : front = none)
    (hFail : reader = .error .parse) : decoded = none ∧ call = .error .parse := by
  rw [hDec] at hDecode
  rw [hFail] at hNew
  exact ⟨hDecode, hNew⟩

/-- **Header and keys.** Both sides read the same counts, mask and keys, or fail. -/
theorem headV1_cases (hShort : bytes.length ≤ 4096) (hFirst : bytes.head? = some v1Prefix) :
    (v1Format.decode bytes = none ∧ tryNewV1 bytes = .error .parse) ∨
    ∃ (head : V1Head) (rest : Bytes), At bytes (42 + head.keys.length * 32) rest ∧
      v1Format.decode bytes = head.decodeConfig rest ∧
      tryNewV1 bytes = head.readConfig bytes ⟨bytes, 42 + head.keys.length * 32⟩ := by
  have hBound : bytes.length < usizeSize := Nat.lt_of_le_of_lt hShort (by decide)
  obtain ⟨rest, rfl⟩ := List.head?_eq_some_iff.mp hFirst
  -- from here on only the first byte of the string is known
  generalize hBytes : v1Prefix :: rest = bytes at hShort hBound ⊢
  have hLimit : ¬ bytes.length > maxV1TransactionBytes := not_lt.mpr hShort
  -- the version byte
  have hDec₁ : (const [0x81]).decode bytes = some ((), rest) := by rw [← hBytes]; rfl
  have hRead : (Cursor.new bytes).readByte = .ok (v1Prefix, ⟨bytes, 1⟩) := by
    rw [← hBytes]
    rfl
  have hAt₁ : At bytes 1 rest := by
    rw [← hBytes]
    exact ⟨by simp, rfl⟩
  have hDecode := v1Format_decode bytes
  have hNew : tryNewV1 bytes = tryNewV1 bytes := rfl
  conv_rhs at hNew => unfold tryNewV1
  rw [hDec₁, Option.bind_some] at hDecode
  rw [if_neg hLimit, hRead, ok_bind] at hNew
  simp only at hNew
  rw [if_neg (not_not.mpr rfl)] at hNew
  -- the three counts of the header
  rcases Cursor.readByte_cases hBound hAt₁ with
    ⟨hDec, hFail⟩ | ⟨required, rest₂, hDec₂, hRead, hAt₂⟩
  · exact Or.inl (rejected hDecode hNew hDec hFail)
  rw [hDec₂, Option.bind_some] at hDecode
  rw [hRead, ok_bind] at hNew
  rcases Cursor.readByte_cases hBound hAt₂ with
    ⟨hDec, hFail⟩ | ⟨readonlySigned, rest₃, hDec₃, hRead, hAt₃⟩
  · exact Or.inl (rejected hDecode hNew hDec hFail)
  rw [hDec₃, Option.bind_some] at hDecode
  rw [hRead, ok_bind] at hNew
  rcases Cursor.readByte_cases hBound hAt₃ with
    ⟨hDec, hFail⟩ | ⟨readonlyUnsigned, rest₄, hDec₄, hRead, hAt₄⟩
  · exact Or.inl (rejected hDecode hNew hDec hFail)
  rw [hDec₄, Option.bind_some] at hDecode
  rw [hRead, ok_bind] at hNew
  -- the mask, which the format filters and the constructor checks
  rcases readU32Le_cases hBound hAt₄ with
    ⟨hDec, hFail⟩ | ⟨mask, rest₅, hDec, hRead, hAt₅⟩
  · have hNone : (u32le.filter MaskKnown).decode rest₄ = none := by
      rw [filter_decode, hDec]
      rfl
    exact Or.inl (rejected hDecode hNew hNone hFail)
  rw [hRead, ok_bind] at hNew
  by_cases hMask : MaskKnown mask
  swap
  · rw [if_pos ((maskKnown_iff mask).mpr hMask)] at hNew
    have hNone : (u32le.filter MaskKnown).decode rest₄ = none := by
      simp [filter_decode, hDec, hMask]
    rw [hNone] at hDecode
    exact Or.inl ⟨hDecode, hNew⟩
  have hDec₅ : (u32le.filter MaskKnown).decode rest₄ = some (mask, rest₅) := by
    simp [filter_decode, hDec, hMask]
  rw [hDec₅, Option.bind_some, raw_decode] at hDecode
  rw [if_neg ((maskKnown_iff mask).not.mpr (not_not.mpr hMask))] at hNew
  simp only [blockhashBytes, pubkeyBytes, signatureBytes, v1InstructionHeaderBytes] at hNew
  -- the blockhash and the number of instructions
  rcases Cursor.skip_cases 32 hBound hAt₅ with
    ⟨hDec, hFail⟩ | ⟨hash, rest₆, hDec₆, hHash, hSkip, hAt₆⟩
  · exact Or.inl (rejected hDecode hNew (Option.map_eq_none_iff.mpr hDec) hFail)
  rw [hDec₆, Option.map_some, Option.bind_some] at hDecode
  rw [hSkip, ok_bind] at hNew
  rcases Cursor.readByte_cases hBound hAt₆ with
    ⟨hDec, hFail⟩ | ⟨count, rest₇, hDec, hRead, hAt₇⟩
  · cases rest₆ with
    | nil => exact Or.inl (rejected hDecode hNew rfl hFail)
    | cons b rest₆ => simp at hDec
  obtain rfl : rest₆ = count :: rest₇ := ((decode_eq_some_iff _).mp hDec).2.symm
  rw [le_one_decode_cons, Option.bind_some] at hDecode
  rw [hRead, ok_bind] at hNew
  -- the account keys
  rcases readCounted_cases 32 hBound hAt₇ with
    ⟨hDec, hFail⟩ | ⟨keys, numKeys, _, rest₈, hDec₈, rfl, hKeys, rfl, hRead, hSkip, hAt₈⟩
  · rcases hFail with hFail | ⟨n, cursor, hOk, hFail⟩
    · exact Or.inl (rejected hDecode hNew hDec hFail)
    · rw [hOk, ok_bind] at hNew
      exact Or.inl (rejected hDecode hNew hDec hFail)
  rw [hDec₈, Option.bind_some] at hDecode
  rw [hRead, ok_bind, hSkip, ok_bind] at hNew
  exact Or.inr ⟨⟨required, readonlySigned, readonlyUnsigned, mask, FixedBytes.pad 32 hash, count,
    keys, hMask, hKeys⟩, rest₈, hAt₈, hDecode, hNew⟩

namespace V1Head

variable {head : V1Head} {config : V1Config} {valuesOffset : Nat} {heapSize : Option UInt32}

/-- **The configuration.** Each value stands there if and only if its bit does. -/
theorem readConfig_cases (hBound : bytes.length < usizeSize) (hAt : At bytes offset rest) :
    (head.decodeConfig rest = none ∧ head.readConfig bytes ⟨bytes, offset⟩ = .error .parse) ∨
    ∃ (config : V1Config) (rest' : Bytes), At bytes (offset + head.configLength config) rest' ∧
      head.decodeConfig rest = head.decodeInstructions config rest' ∧
      head.readConfig bytes ⟨bytes, offset⟩ =
        head.readInstructions bytes offset config.heap
          ⟨bytes, offset + head.configLength config⟩ := by
  have hDecode : head.decodeConfig rest = head.decodeConfig rest := rfl
  conv_rhs at hDecode => unfold decodeConfig
  have hNew : head.readConfig bytes ⟨bytes, offset⟩ = head.readConfig bytes ⟨bytes, offset⟩ := rfl
  conv_rhs at hNew => unfold readConfig
  rcases skipIf_cases (fun bs => UInt64.ofNat (leNat bs)) u64le_decode
      (and_priorityFee_eq head.mask_known) hBound hAt with
    ⟨hDec, hFail⟩ | ⟨fee, _, rest₁, hDec₁, rfl, hSkip, hAt₁⟩
  · exact Or.inl (rejected hDecode hNew hDec hFail)
  rw [hDec₁, Option.bind_some] at hDecode
  rw [hSkip, ok_bind] at hNew
  rcases skipIf_cases (fun bs => UInt32.ofNat (leNat bs)) u32le_decode
      (and_computeUnitLimit_ne head.mask_known) hBound hAt₁ with
    ⟨hDec, hFail⟩ | ⟨limit, _, rest₂, hDec₂, rfl, hSkip, hAt₂⟩
  · exact Or.inl (rejected hDecode hNew hDec hFail)
  rw [hDec₂, Option.bind_some] at hDecode
  rw [hSkip, ok_bind] at hNew
  rcases skipIf_cases (fun bs => UInt32.ofNat (leNat bs)) u32le_decode
      (and_loadedAccountsDataSize_ne head.mask_known) hBound hAt₂ with
    ⟨hDec, hFail⟩ | ⟨loaded, _, rest₃, hDec₃, rfl, hSkip, hAt₃⟩
  · exact Or.inl (rejected hDecode hNew hDec hFail)
  rw [hDec₃, Option.bind_some] at hDecode
  rw [hSkip, ok_bind] at hNew
  -- the heap size is the one value that the constructor looks at
  rcases readU32LeIf_cases (and_heapSize_ne head.mask_known) hBound hAt₃ with
    ⟨hDec, hFail⟩ | ⟨heap, _, rest₄, hDec₄, rfl, hRead, hAt₄⟩
  · exact Or.inl (rejected hDecode hNew hDec hFail)
  rw [hDec₄, Option.bind_some] at hDecode
  rw [hRead, ok_bind] at hNew
  simp only [Nat.add_assoc] at hAt₄ hNew
  refine Or.inr ⟨⟨fee, limit, loaded, heap⟩, rest₄, ?_, hDecode, ?_⟩
  · simp only [configLength, Nat.add_assoc]
    exact hAt₄
  · simp only [configLength, Nat.add_assoc]
    exact hNew

/-- **The instructions.** The constructor keeps apart what makes an instruction
unsanitary, and reports it behind the last byte. -/
theorem readInstructions_cases (hBound : bytes.length < usizeSize) (hAt : At bytes offset rest) :
    (head.decodeInstructions config rest = none ∧
      head.readInstructions bytes valuesOffset heapSize ⟨bytes, offset⟩ = .error .parse) ∨
    ∃ (instructions : List SanitizedInstructionView) (offset' : Nat) (rest' : Bytes),
      instructions.length = head.count.toNat ∧
      offset' = offset + instructions.length * 4
        + (instructions.flatMap SanitizedInstructionView.serializePayload).length ∧
      At bytes offset' rest' ∧
      head.decodeInstructions config rest = head.decodeSignatures config instructions rest' ∧
      head.readInstructions bytes valuesOffset heapSize ⟨bytes, offset⟩ =
        head.finish bytes valuesOffset heapSize offset (offset + instructions.length * 4)
          (decide (head.count.toUInt16 > maxInstructions)
            || instructions.any (instructionRejectedV1 (UInt8.ofNat head.keys.length)))
          ⟨bytes, offset'⟩ := by
  have hMul : checkedMul head.count.toUInt16.toNat 4 = some (head.count.toNat * 4) :=
    checkedMul_of_lt (Nat.lt_of_lt_of_le
      (Nat.mul_lt_mul_of_pos_right head.count.toNat_lt (by decide)) (by decide))
  unfold decodeInstructions readInstructions
  simp only [hMul, okOr_some, ok_bind]
  rcases instructionSectionV1_cases hBound hAt (UInt8.ofNat head.keys.length) head.count.toNat with
    ⟨hDec, hFail⟩ | ⟨instructions, offset', rest', hDec, rfl, hSkip, hLoop, hAt'⟩
  · left
    rw [hDec]
    refine ⟨rfl, ?_⟩
    rcases hFail with hFail | ⟨hOk, hFail⟩
    · rw [hFail]
      rfl
    · rw [hOk, ok_bind, UInt8.toNat_toUInt16, hFail]
      rfl
  · have hCount : instructions.length = head.count.toNat := by
      -- the decoded list has the length that the count byte announced
      have hValid := ((instructionsV1Format head.count.toNat).encode_decode hDec).1
      exact ((instructionsV1Format_valid_iff _ _).mp hValid).1
    refine Or.inr ⟨instructions, _, rest', hCount, ?_, hAt', ?_, ?_⟩
    · rw [hCount]
    · rw [hDec]
      rfl
    · rw [hSkip, ok_bind, UInt8.toNat_toUInt16, hLoop, ok_bind, hCount]

/-- **The end of the input.** Behind the signatures there is nothing left, and then the
sanitize rules decide. -/
theorem finish_cases {instructions : List SanitizedInstructionView}
    {instructionsOffset payloadsOffset : Nat} (hBound : bytes.length < usizeSize)
    (hAt : At bytes offset rest) (hCount : instructions.length = head.count.toNat)
    (hValues : valuesOffset = 42 + head.keys.length * 32)
    (hInstructions : instructionsOffset = valuesOffset + head.configLength config)
    (hPayloads : payloadsOffset = instructionsOffset + instructions.length * 4)
    (hOffset : offset = payloadsOffset
      + (instructions.flatMap SanitizedInstructionView.serializePayload).length) :
    ((∀ tx, head.decodeSignatures config instructions rest ≠ some (tx, [])) ∧
      head.finish bytes valuesOffset config.heap instructionsOffset payloadsOffset
        (decide (head.count.toUInt16 > maxInstructions)
          || instructions.any (instructionRejectedV1 (UInt8.ofNat head.keys.length)))
        ⟨bytes, offset⟩ = .error .parse) ∨
    ∃ tx, head.decodeSignatures config instructions rest = some (tx, []) ∧
      head.finish bytes valuesOffset config.heap instructionsOffset payloadsOffset
        (decide (head.count.toUInt16 > maxInstructions)
          || instructions.any (instructionRejectedV1 (UInt8.ofNat head.keys.length)))
        ⟨bytes, offset⟩ =
          if tx.Sanitary then .ok { tx.view with bytes } else .error .sanitize := by
  unfold decodeSignatures finish
  rw [repeated_raw_decode]
  rcases Cursor.skip_cases (head.required.toNat * 64) hBound hAt with
    ⟨hDec, hFail⟩ | ⟨front, rest', hDec, hFront, hSkip, hAt'⟩
  · left
    rw [hDec, hFail]
    exact ⟨nofun, rfl⟩
  rw [hDec, hSkip, ok_bind, Option.map_some, Option.map_some]
  have hLen := hAt'.length
  by_cases hEnd : rest' = []
  swap
  · -- bytes behind the last signature
    have hPos := List.length_pos_iff.mpr hEnd
    rw [if_pos (by simp only; omega)]
    refine Or.inl ⟨fun tx hSome => ?_, rfl⟩
    exact hEnd (Prod.mk.inj (Option.some.inj hSome)).2
  subst hEnd
  rw [if_neg (by simpa using hLen)]
  refine Or.inr ⟨_, rfl, ?_⟩
  have hMany : instructions.length < 256 := hCount ▸ head.count.toNat_lt
  have hCount8 : head.count = UInt8.ofNat instructions.length := by rw [hCount, UInt8.ofNat_toNat]
  have hCount16 : (UInt8.ofNat instructions.length).toUInt16 = UInt16.ofNat instructions.length := by
    rw [← hCount8, hCount]
    exact (UInt16.ofNat_uInt8ToNat head.count).symm
  -- the flags together are the negated sanitize rules
  have hRejected := v1Rejected_iff (head.transaction config instructions
    (chunks 64 head.required.toNat front)) head.keys_lt hMany
  simp only [hCount8]
  refine (if_congr hRejected rfl ?_).trans (ite_not _ _ _)
  -- the offsets are those of the view
  have hConfig : (head.transaction config instructions
      (chunks 64 head.required.toNat front)).configValues.length = head.configLength config := by
    rw [V1Transaction.configValues, List.length_append, List.length_append, List.length_append]
    rfl
  subst hValues hInstructions hPayloads hOffset
  rw [V1Transaction.view, hConfig, hCount16]
  rfl

end V1Head

/-- **The constructor is the decoder followed by checks.** On a string of at most 4096
bytes that starts with the v1 prefix it either fails with `Parse`, and then the string
is no serialization, or it has read a transaction, and then the sanitize rules decide
between its view and `Sanitize`. -/
theorem tryNewV1_cases (hShort : bytes.length ≤ 4096) (hFirst : bytes.head? = some v1Prefix) :
    ((∀ tx, v1Format.decode bytes ≠ some (tx, [])) ∧ tryNewV1 bytes = .error .parse) ∨
    ∃ tx, v1Format.decode bytes = some (tx, []) ∧
      tryNewV1 bytes = if tx.Sanitary then .ok tx.view else .error .sanitize := by
  have hBound : bytes.length < usizeSize := Nat.lt_of_le_of_lt hShort (by decide)
  have hParse : ∀ {decoded : Option (V1Transaction × Bytes)}, decoded = none →
      ∀ tx, decoded ≠ some (tx, []) := by
    rintro _ rfl
    exact nofun
  rcases headV1_cases hShort hFirst with
    ⟨hDec, hFail⟩ | ⟨head, rest₁, hAt₁, hDec₁, hNew₁⟩
  · exact Or.inl ⟨hParse hDec, hFail⟩
  rw [hDec₁, hNew₁]
  rcases head.readConfig_cases hBound hAt₁ with
    ⟨hDec, hFail⟩ | ⟨config, rest₂, hAt₂, hDec₂, hNew₂⟩
  · exact Or.inl ⟨hParse hDec, hFail⟩
  rw [hDec₂, hNew₂]
  rcases head.readInstructions_cases hBound hAt₂ with
    ⟨hDec, hFail⟩ | ⟨instructions, offset', rest₃, hCount, hOffset, hAt₃, hDec₃, hNew₃⟩
  · exact Or.inl ⟨hParse hDec, hFail⟩
  rw [hDec₃, hNew₃]
  rcases head.finish_cases hBound hAt₃ hCount rfl rfl rfl hOffset with
    hFails | ⟨tx, hDec₄, hNew₄⟩
  · exact Or.inl hFails
  -- what was decoded is what stands there
  have hSome : v1Format.decode bytes = some (tx, []) := by rw [hDec₁, hDec₂, hDec₃, hDec₄]
  obtain ⟨hValid, hTotal⟩ := v1Format.encode_decode hSome
  have hSerialize : bytes = tx.serialize := by
    rw [← hTotal, List.append_nil, v1Format_encode tx ((v1Format_valid_iff tx).mp hValid)]
  refine Or.inr ⟨tx, hDec₄, ?_⟩
  rw [hNew₄, hSerialize]
  rfl

end TxStream
