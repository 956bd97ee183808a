import TxStream.Protocol.Frame
import TxStream.Wire.Layout

/-!
# The header codec

`FrameHeaderV1::encode` writes its fields into a zeroed array at constant
offsets, `decode` reads them back from any 256 bytes. Both are the one list
`fields`: encoding is its concatenation behind eight zero bytes, and a string
decodes exactly when its bytes from offset 8 on are that concatenation and the
header passes `validate`.

Main results:

* `encode_eq` — the encoded header.
* `decode_of_flatten`, `decode_eq_ok` — what decodes, and to which header.
* `bodyLayout_of_validate` — the equations between the lengths of a valid header.
-/

namespace TxStream

open Wire Rust

-- ---------------------------------------------------------------------------
-- Writing the fields
-- ---------------------------------------------------------------------------

/-- A run of zero bytes, as the array has where nothing was written. -/
def zeros (n : Nat) : Bytes := List.replicate n 0

/-- As long as asked for. -/
@[simp] theorem length_zeros (n : Nat) : (zeros n).length = n := List.length_replicate

/-- A run of zeros can be cut anywhere. -/
theorem zeros_add (m n : Nat) : zeros (m + n) = zeros m ++ zeros n := List.replicate_add ..

/-- The array after the given fields have been written, one behind the other: they fill
it up to `offset`, and behind that it is still zero. -/
structure Written (offset : Nat) (fields : List Bytes) (bytes : Bytes) : Prop where
  eq : bytes = fields.flatten ++ zeros (frameHeaderBytes - offset)
  length : fields.flatten.length = offset

namespace Written

variable {offset : Nat} {fields : List Bytes} {bytes : Bytes}

/-- The zeroed array: nothing written yet. -/
theorem start : Written 0 [] (List.replicate frameHeaderBytes 0) := ⟨rfl, rfl⟩

/-- Bytes that are never written stay zero. -/
theorem skip (h : Written offset fields bytes) (n : Nat) (hFits : offset + n ≤ frameHeaderBytes) :
    Written (offset + n) (fields ++ [zeros n]) bytes := by
  refine ⟨?_, ?_⟩
  · rw [List.flatten_append, List.flatten_singleton, List.append_assoc, ← zeros_add, h.eq]
    congr 2
    omega
  · rw [List.flatten_append, List.flatten_singleton, List.length_append, h.length, length_zeros]

/-- A field written at the offset reached so far is one more field. It overwrites zeros only,
so the fields in front of it stay. -/
theorem write (h : Written offset fields bytes) (value : Bytes) (n : Nat)
    (hLen : value.length = n) (hFits : offset + n ≤ frameHeaderBytes) :
    Written (offset + n) (fields ++ [value]) (writeAt bytes offset value) := by
  have hRest : frameHeaderBytes - offset = n + (frameHeaderBytes - (offset + n)) := by omega
  refine ⟨?_, ?_⟩
  · -- cut the array at the offset: what is in front is kept, what is behind loses `n` zeros
    rw [List.flatten_append, List.flatten_singleton, writeAt, h.eq, ← h.length, List.take_left,
      ← List.drop_drop, List.drop_left, h.length, hRest, zeros_add, hLen,
      List.drop_left' (length_zeros n)]
  · rw [List.flatten_append, List.flatten_singleton, List.length_append, h.length, hLen]

end Written

namespace FrameHeaderV1

/-- The fields of an encoded header from offset 8 on, reserved bytes included. -/
def fields (h : FrameHeaderV1) : List Bytes :=
  [zeros 56, frameMagicV1, leBytes 2 frameSchemaVersionV1.toNat, leBytes 2 layoutVersionV1.toNat,
    leBytes 2 frameHeaderBytes, [h.messageVersion.toUInt8], [h.earliestSource],
    leBytes 4 h.flags.bits.toNat, leBytes 4 h.bodyLength.toNat, leBytes 4 h.atomicWordCount.toNat,
    zeros 4,
    leBytes 8 h.producerEpoch.toNat, leBytes 8 h.canonicalSequence.toNat,
    leBytes 8 h.slot.toNat, leBytes 8 h.prefixGeneration.toNat,
    leBytes 8 h.contributingSourceMask.toNat,
    leBytes 4 h.firstDataShredIndex.toNat, leBytes 4 h.lastDataShredIndex.toNat,
    leBytes 4 h.dataSetStartingShredIndex.toNat,
    leBytes 4 h.completedDataSetEndingShredIndexExclusive.toNat,
    leBytes 4 h.entryOrdinal.toNat, leBytes 4 h.transactionOrdinal.toNat,
    leBytes 4 h.transactionOffset.toNat, leBytes 4 h.transactionLength.toNat,
    leBytes 4 h.loadedWritableOffset.toNat, leBytes 4 h.loadedWritableLength.toNat,
    leBytes 4 h.loadedReadonlyOffset.toNat, leBytes 4 h.loadedReadonlyLength.toNat,
    leBytes 2 h.loadedWritableCount.toNat, leBytes 2 h.loadedReadonlyCount.toNat,
    [h.finalPaddingBytes], zeros 3,
    leBytes 8 h.firstShredReceiveNs.toNat, leBytes 8 h.transactionCompleteNs.toNat,
    leBytes 8 h.lutResolutionCompleteNs.toNat, leBytes 8 h.publicationStartNs.toNat,
    zeros 32]

/-- The offsets between which the fields stand. -/
def fieldOffsets : List Nat :=
  [64, 72, 74, 76, 78, 79, 80, 84, 88, 92, 96, 104, 112, 120, 128, 136, 140, 144, 148, 152, 156,
    160, 164, 168, 172, 176, 180, 184, 186, 188, 189, 192, 200, 208, 216, 224, 256]

/-- The fields stand between consecutive offsets, whatever their values. -/
theorem length_fields (h : FrameHeaderV1) :
    h.fields.map List.length =
      List.zipWith (fun stop start => stop - start) fieldOffsets (8 :: fieldOffsets) := by
  simp [fields, frameMagicV1, fieldOffsets]

/-- The encoded header is its fields behind eight zero bytes. The array is followed
through the writes of `encode` in their order, and the bytes they leave out are skipped
as zeros. -/
theorem encode_eq (h : FrameHeaderV1) : h.encode = zeros 8 ++ h.fields.flatten := by
  -- one step per write of the source; a `skip` is a reserved region
  have hWritten := Written.start
    |>.skip 64 (by decide)
    |>.write frameMagicV1 8 rfl (by decide)
    |>.write (leBytes 2 frameSchemaVersionV1.toNat) 2 rfl (by decide)
    |>.write (leBytes 2 layoutVersionV1.toNat) 2 rfl (by decide)
    |>.write (leBytes 2 (UInt16.ofNat frameHeaderBytes).toNat) 2 rfl (by decide)
    |>.write [h.messageVersion.toUInt8] 1 rfl (by decide)
    |>.write [h.earliestSource] 1 rfl (by decide)
    |>.write (leBytes 4 h.flags.bits.toNat) 4 (length_leBytes ..) (by decide)
    |>.write (leBytes 4 h.bodyLength.toNat) 4 (length_leBytes ..) (by decide)
    |>.write (leBytes 4 h.atomicWordCount.toNat) 4 (length_leBytes ..) (by decide)
    |>.skip 4 (by decide)
    |>.write (leBytes 8 h.producerEpoch.toNat) 8 (length_leBytes ..) (by decide)
    |>.write (leBytes 8 h.canonicalSequence.toNat) 8 (length_leBytes ..) (by decide)
    |>.write (leBytes 8 h.slot.toNat) 8 (length_leBytes ..) (by decide)
    |>.write (leBytes 8 h.prefixGeneration.toNat) 8 (length_leBytes ..) (by decide)
    |>.write (leBytes 8 h.contributingSourceMask.toNat) 8 (length_leBytes ..) (by decide)
    |>.write (leBytes 4 h.firstDataShredIndex.toNat) 4 (length_leBytes ..) (by decide)
    |>.write (leBytes 4 h.lastDataShredIndex.toNat) 4 (length_leBytes ..) (by decide)
    |>.write (leBytes 4 h.dataSetStartingShredIndex.toNat) 4 (length_leBytes ..) (by decide)
    |>.write (leBytes 4 h.completedDataSetEndingShredIndexExclusive.toNat) 4 (length_leBytes ..)
      (by decide)
    |>.write (leBytes 4 h.entryOrdinal.toNat) 4 (length_leBytes ..) (by decide)
    |>.write (leBytes 4 h.transactionOrdinal.toNat) 4 (length_leBytes ..) (by decide)
    |>.write (leBytes 4 h.transactionOffset.toNat) 4 (length_leBytes ..) (by decide)
    |>.write (leBytes 4 h.transactionLength.toNat) 4 (length_leBytes ..) (by decide)
    |>.write (leBytes 4 h.loadedWritableOffset.toNat) 4 (length_leBytes ..) (by decide)
    |>.write (leBytes 4 h.loadedWritableLength.toNat) 4 (length_leBytes ..) (by decide)
    |>.write (leBytes 4 h.loadedReadonlyOffset.toNat) 4 (length_leBytes ..) (by decide)
    |>.write (leBytes 4 h.loadedReadonlyLength.toNat) 4 (length_leBytes ..) (by decide)
    |>.write (leBytes 2 h.loadedWritableCount.toNat) 2 (length_leBytes ..) (by decide)
    |>.write (leBytes 2 h.loadedReadonlyCount.toNat) 2 (length_leBytes ..) (by decide)
    |>.write [h.finalPaddingBytes] 1 rfl (by decide)
    |>.skip 3 (by decide)
    |>.write (leBytes 8 h.firstShredReceiveNs.toNat) 8 (length_leBytes ..) (by decide)
    |>.write (leBytes 8 h.transactionCompleteNs.toNat) 8 (length_leBytes ..) (by decide)
    |>.write (leBytes 8 h.lutResolutionCompleteNs.toNat) 8 (length_leBytes ..) (by decide)
    |>.write (leBytes 8 h.publicationStartNs.toNat) 8 (length_leBytes ..) (by decide)
    |>.skip 32 (by decide)
  -- the reserved region at the start covers the eight bytes that no field describes
  have hStart : zeros 64 = zeros 8 ++ zeros 56 := rfl
  have hEncode := hWritten.eq
  simp only [List.nil_append, List.cons_append, List.flatten_cons, List.flatten_nil, hStart,
    List.append_assoc] at hEncode
  simp only [fields, List.flatten_cons, List.flatten_nil]
  exact hEncode

-- ---------------------------------------------------------------------------
-- Reading the fields
-- ---------------------------------------------------------------------------

section Read

variable {ε α : Type} {bs : Bytes}

/-- A slice inside the header array does not panic: it goes on with the bytes. -/
theorem slice_bind (hLength : bs.length = 256) {a b : Nat} (h : a ≤ b ∧ b ≤ 256)
    (k : Bytes → Except (Fault ε) α) :
    slice bs a b >>= k = k (bs.extract a b) := by
  rw [slice_of_le h.1 (h.2.trans_eq hLength.symm), ok_bind]

/-- Nor does the read of a `u16` at an offset inside the array. -/
theorem readU16_bind (hLength : bs.length = 256) {a : Nat} (h : a + 2 ≤ 256)
    (k : UInt16 → Except (Fault ε) α) :
    readU16 bs a >>= k = k (UInt16.ofNat (leNat (bs.extract a (a + 2)))) := by
  rw [readU16, slice_of_le (Nat.le_add_right ..) (h.trans_eq hLength.symm)]
  rfl

/-- The same for a `u32`. -/
theorem readU32_bind (hLength : bs.length = 256) {a : Nat} (h : a + 4 ≤ 256)
    (k : UInt32 → Except (Fault ε) α) :
    readU32 bs a >>= k = k (UInt32.ofNat (leNat (bs.extract a (a + 4)))) := by
  rw [readU32, slice_of_le (Nat.le_add_right ..) (h.trans_eq hLength.symm)]
  rfl

/-- The same for a `u64`. -/
theorem readU64_bind (hLength : bs.length = 256) {a : Nat} (h : a + 8 ≤ 256)
    (k : UInt64 → Except (Fault ε) α) :
    readU64 bs a >>= k = k (UInt64.ofNat (leNat (bs.extract a (a + 8)))) := by
  rw [readU64, slice_of_le (Nat.le_add_right ..) (h.trans_eq hLength.symm)]
  rfl

/-- A byte at an offset inside the array is there. -/
theorem index_bind (hLength : bs.length = 256) {a : Nat} (h : a < 256)
    (k : UInt8 → Except (Fault ε) α) :
    index bs a >>= k = k (bs.getD a 0) := by
  rw [index, List.getD_eq_getElem?_getD, List.getElem?_eq_getElem (h.trans_eq hLength.symm)]
  rfl

/-- A slice of length one is the byte at its start. -/
theorem extract_one {a : Nat} (h : a < bs.length) : bs.extract a (a + 1) = [bs.getD a 0] := by
  rw [List.extract_eq_take_drop, Nat.add_sub_cancel_left, List.drop_eq_getElem_cons h,
    List.getD_eq_getElem?_getD, List.getElem?_eq_getElem h]
  rfl

/-- Reading a `u16` and writing it again gives the bytes read: the two bytes stand for a
number that fits. -/
theorem leBytes_u16 {a b : Nat} (hWidth : b = a + 2) (hb : b ≤ bs.length) :
    leBytes 2 (UInt16.ofNat (leNat (bs.extract a b))).toNat = bs.extract a b := by
  have hLen : (bs.extract a b).length = 2 := by
    rw [length_extract (by omega) hb]
    omega
  have hLt : leNat (bs.extract a b) < 2 ^ 16 := by
    have h := leNat_lt (bs.extract a b)
    rwa [hLen] at h
  rw [UInt16.toNat_ofNat', Nat.mod_eq_of_lt hLt, leBytes_leNat_of_length hLen]

/-- The same for a `u32`. -/
theorem leBytes_u32 {a b : Nat} (hWidth : b = a + 4) (hb : b ≤ bs.length) :
    leBytes 4 (UInt32.ofNat (leNat (bs.extract a b))).toNat = bs.extract a b := by
  have hLen : (bs.extract a b).length = 4 := by
    rw [length_extract (by omega) hb]
    omega
  have hLt : leNat (bs.extract a b) < 2 ^ 32 := by
    have h := leNat_lt (bs.extract a b)
    rwa [hLen] at h
  rw [UInt32.toNat_ofNat', Nat.mod_eq_of_lt hLt, leBytes_leNat_of_length hLen]

/-- The same for a `u64`. -/
theorem leBytes_u64 {a b : Nat} (hWidth : b = a + 8) (hb : b ≤ bs.length) :
    leBytes 8 (UInt64.ofNat (leNat (bs.extract a b))).toNat = bs.extract a b := by
  have hLen : (bs.extract a b).length = 8 := by
    rw [length_extract (by omega) hb]
    omega
  have hLt : leNat (bs.extract a b) < 2 ^ 64 := by
    have h := leNat_lt (bs.extract a b)
    rwa [hLen] at h
  rw [UInt64.toNat_ofNat', Nat.mod_eq_of_lt hLt, leBytes_leNat_of_length hLen]

/-- Writing a `u16` and reading it again gives the number. -/
theorem ofNat_leBytes_u16 (x : UInt16) : UInt16.ofNat (leNat (leBytes 2 x.toNat)) = x := by
  rw [leNat_leBytes x.toNat_lt, UInt16.ofNat_toNat]

/-- The same for a `u32`. -/
theorem ofNat_leBytes_u32 (x : UInt32) : UInt32.ofNat (leNat (leBytes 4 x.toNat)) = x := by
  rw [leNat_leBytes x.toNat_lt, UInt32.ofNat_toNat]

/-- The same for a `u64`. -/
theorem ofNat_leBytes_u64 (x : UInt64) : UInt64.ofNat (leNat (leBytes 8 x.toNat)) = x := by
  rw [leNat_leBytes x.toNat_lt, UInt64.ofNat_toNat]

/-- A region passes the reserved check exactly when it is zero. -/
theorem anyNonzero_eq_false : anyNonzero bs = false ↔ bs = zeros bs.length := by
  rw [anyNonzero, List.any_eq_false, zeros, List.eq_replicate_iff]
  simp

/-- What the encoder leaves unwritten passes the reserved check. -/
theorem anyNonzero_zeros (n : Nat) : anyNonzero (zeros n) = false :=
  anyNonzero_eq_false.mpr (by rw [length_zeros])

end Read

/-- The version byte written is read as that version. -/
theorem decode_toUInt8 (version : MessageVersion) :
    MessageVersion.decode version.toUInt8 = .ok version := by
  cases version <;> rfl

/-- The version read is written as the byte it was read from. -/
theorem toUInt8_of_decode {value : UInt8} {version : MessageVersion}
    (h : MessageVersion.decode value = .ok version) : version.toUInt8 = value := by
  unfold MessageVersion.decode at h
  split_ifs at h with h₀ h₁ h₂
  · rw [← Except.ok.inj h, h₀]; rfl
  · rw [← Except.ok.inj h, h₁]; rfl
  · rw [← Except.ok.inj h, h₂]; rfl

/-- The flags written are read as those flags, since they have no unknown bit. -/
theorem fromBits_bits (flags : FrameFlags) : FrameFlags.fromBits flags.bits = .ok flags :=
  dif_pos flags.known

/-- The flags read are written as the bits they were read from. -/
theorem bits_of_fromBits {bits : UInt32} {flags : FrameFlags}
    (h : FrameFlags.fromBits bits = .ok flags) : flags.bits = bits := by
  unfold FrameFlags.fromBits at h
  split_ifs at h
  rw [← Except.ok.inj h]

/-- The header whose numbers stand at the offsets that `decode` reads. -/
def readHeader (bs : Bytes) (messageVersion : MessageVersion) (flags : FrameFlags) :
    FrameHeaderV1 where
  messageVersion := messageVersion
  earliestSource := bs.getD 79 0
  flags := flags
  bodyLength := UInt32.ofNat (leNat (bs.extract 84 88))
  atomicWordCount := UInt32.ofNat (leNat (bs.extract 88 92))
  producerEpoch := UInt64.ofNat (leNat (bs.extract 96 104))
  canonicalSequence := UInt64.ofNat (leNat (bs.extract 104 112))
  slot := UInt64.ofNat (leNat (bs.extract 112 120))
  prefixGeneration := UInt64.ofNat (leNat (bs.extract 120 128))
  contributingSourceMask := UInt64.ofNat (leNat (bs.extract 128 136))
  firstDataShredIndex := UInt32.ofNat (leNat (bs.extract 136 140))
  lastDataShredIndex := UInt32.ofNat (leNat (bs.extract 140 144))
  dataSetStartingShredIndex := UInt32.ofNat (leNat (bs.extract 144 148))
  completedDataSetEndingShredIndexExclusive := UInt32.ofNat (leNat (bs.extract 148 152))
  entryOrdinal := UInt32.ofNat (leNat (bs.extract 152 156))
  transactionOrdinal := UInt32.ofNat (leNat (bs.extract 156 160))
  transactionOffset := UInt32.ofNat (leNat (bs.extract 160 164))
  transactionLength := UInt32.ofNat (leNat (bs.extract 164 168))
  loadedWritableOffset := UInt32.ofNat (leNat (bs.extract 168 172))
  loadedWritableLength := UInt32.ofNat (leNat (bs.extract 172 176))
  loadedReadonlyOffset := UInt32.ofNat (leNat (bs.extract 176 180))
  loadedReadonlyLength := UInt32.ofNat (leNat (bs.extract 180 184))
  loadedWritableCount := UInt16.ofNat (leNat (bs.extract 184 186))
  loadedReadonlyCount := UInt16.ofNat (leNat (bs.extract 186 188))
  finalPaddingBytes := bs.getD 188 0
  firstShredReceiveNs := UInt64.ofNat (leNat (bs.extract 192 200))
  transactionCompleteNs := UInt64.ofNat (leNat (bs.extract 200 208))
  lutResolutionCompleteNs := UInt64.ofNat (leNat (bs.extract 208 216))
  publicationStartNs := UInt64.ofNat (leNat (bs.extract 216 224))

/-- The checks of `decode` with their reads done. Once the first 256 bytes are there,
every slice, index and read at a constant offset is in range, so what remains is a chain
of conditions on bytes and none of the panics of the source. -/
theorem decode_eq {bytes bs : Bytes} (hLen : frameHeaderBytes ≤ bytes.length)
    (hBs : bytes.extract 0 frameHeaderBytes = bs) :
    decode bytes =
      if bs.extract 64 72 ≠ frameMagicV1 then fail .invalidMagic else
      let schema := UInt16.ofNat (leNat (bs.extract 72 74))
      if schema ≠ frameSchemaVersionV1 then fail (.unsupportedSchema schema) else
      let layout := UInt16.ofNat (leNat (bs.extract 74 76))
      if layout ≠ layoutVersionV1 then fail (.unsupportedLayout layout) else
      let headerLength := UInt16.ofNat (leNat (bs.extract 76 78))
      if headerLength.toNat ≠ frameHeaderBytes then fail (.invalidHeaderLength headerLength) else
      if anyNonzero (bs.extract 8 64) || anyNonzero (bs.extract 92 96)
          || anyNonzero (bs.extract 189 192) || anyNonzero (bs.extract 224 256) then
        fail .nonzeroReserved
      else do
        let messageVersion ← lift (MessageVersion.decode (bs.getD 78 0))
        let flags ← lift (FrameFlags.fromBits (UInt32.ofNat (leNat (bs.extract 80 84))))
        lift (readHeader bs messageVersion flags).validate
        return readHeader bs messageVersion flags := by
  have hRange : getRange bytes 0 frameHeaderBytes = some bs :=
    getRange_eq_some.mpr ⟨⟨Nat.zero_le _, hLen⟩, hBs⟩
  have hLength : bs.length = 256 := by
    rw [← hBs]
    exact length_extract (Nat.zero_le _) hLen
  rw [decode, hRange]
  -- the arrows rewrite a read before its continuation is visited
  simp (disch := decide) only [okOr_some, lift_ok, hLength, ↓ok_bind, ↓slice_bind hLength,
    ↓readU16_bind hLength, ↓readU32_bind hLength, ↓readU64_bind hLength, ↓index_bind hLength]
  rfl

/-- A string of at least 256 bytes whose fields are those of a header decodes to
that header, if the header is valid. -/
theorem decode_of_fields {bytes : Bytes} {h : FrameHeaderV1}
    (hLen : frameHeaderBytes ≤ bytes.length)
    (hFields : slicesAt (8 :: fieldOffsets) (bytes.extract 0 frameHeaderBytes) = h.fields) :
    decode bytes = (lift h.validate).map fun _ => h := by
  have hBs : (bytes.extract 0 frameHeaderBytes).length = 256 := length_extract (Nat.zero_le _) hLen
  rw [decode_eq hLen rfl]
  -- the rest is about the 256 bytes alone
  generalize bytes.extract 0 frameHeaderBytes = bs at hFields hBs
  simp (disch := omega) only [slicesAt, fieldOffsets, fields, List.cons.injEq, and_true,
    extract_one] at hFields
  -- each read is now the read of a field that was written
  simp only [hFields, readHeader, ofNat_leBytes_u16, ofNat_leBytes_u32, ofNat_leBytes_u64,
    anyNonzero_zeros, Bool.or_false, decode_toUInt8, fromBits_bits, lift_ok, ↓ok_bind,
    ↓reduceIte, Bool.false_eq_true, ne_eq, not_true_eq_false]
  rw [if_neg (by decide)]
  cases h.validate <;> rfl

/-- The fields of the header that `decode` returns are the bytes it read: the constants
and reserved regions because they were checked, the others because reading a field and
writing it again gives the bytes. -/
theorem fields_of_decode {bytes : Bytes} {h : FrameHeaderV1} (hDecode : decode bytes = .ok h) :
    frameHeaderBytes ≤ bytes.length
      ∧ slicesAt (8 :: fieldOffsets) (bytes.extract 0 frameHeaderBytes) = h.fields
      ∧ h.validate = .ok () := by
  have hLen : frameHeaderBytes ≤ bytes.length := by
    obtain ⟨bs, hRange, -⟩ := bind_eq_ok hDecode
    -- too short an input fails at the first check
    by_contra hShort
    rw [getRange, if_neg (fun h => hShort h.2)] at hRange
    cases hRange
  have hBs : (bytes.extract 0 frameHeaderBytes).length = 256 := length_extract (Nat.zero_le _) hLen
  rw [decode_eq hLen rfl] at hDecode
  generalize bytes.extract 0 frameHeaderBytes = bs at hDecode hBs
  -- a decoded header has passed each check in turn
  obtain ⟨hMagic, hDecode⟩ := guard_eq_ok hDecode
  obtain ⟨hSchema, hDecode⟩ := guard_eq_ok hDecode
  obtain ⟨hLayout, hDecode⟩ := guard_eq_ok hDecode
  obtain ⟨hHeaderLength, hDecode⟩ := guard_eq_ok hDecode
  obtain ⟨hReserved, hDecode⟩ := guard_eq_ok hDecode
  obtain ⟨version, hVersion, hDecode⟩ := bind_eq_ok hDecode
  obtain ⟨flags, hFlags, hDecode⟩ := bind_eq_ok hDecode
  obtain ⟨⟨⟩, hValidate, hDecode⟩ := bind_eq_ok hDecode
  obtain rfl := Except.ok.inj hDecode
  refine ⟨hLen, ?_, lift_eq_ok hValidate⟩
  simp only [Bool.or_eq_true, not_or, Bool.not_eq_true, anyNonzero_eq_false] at hReserved
  obtain ⟨⟨⟨hReserved₀, hReserved₁⟩, hReserved₂⟩, hReserved₃⟩ := hReserved
  rw [length_extract (by omega) (by omega)] at hReserved₀ hReserved₁ hReserved₂ hReserved₃
  -- the checked constants, as the bytes they stand in
  have hSchema' := @leBytes_u16 bs 72 74 rfl (by omega)
  have hLayout' := @leBytes_u16 bs 74 76 rfl (by omega)
  have hHeaderLength' := @leBytes_u16 bs 76 78 rfl (by omega)
  rw [not_not.mp hSchema] at hSchema'
  rw [not_not.mp hLayout] at hLayout'
  rw [not_not.mp hHeaderLength] at hHeaderLength'
  simp (disch := omega) only [slicesAt, fieldOffsets, fields, readHeader, extract_one,
    leBytes_u16, leBytes_u32, leBytes_u64, hReserved₀, hReserved₁, hReserved₂, hReserved₃,
    not_not.mp hMagic, hSchema', hLayout', hHeaderLength', Nat.reduceSub,
    toUInt8_of_decode (lift_eq_ok hVersion), bits_of_fromBits (lift_eq_ok hFlags)]

/-- The slices are the fields iff the bytes from offset 8 on are their concatenation. -/
theorem slices_eq_fields {bytes : Bytes} (h : FrameHeaderV1)
    (hLen : frameHeaderBytes ≤ bytes.length) :
    slicesAt (8 :: fieldOffsets) (bytes.extract 0 frameHeaderBytes) = h.fields ↔
      bytes.extract 8 frameHeaderBytes = h.fields.flatten := by
  have hBs : (bytes.extract 0 frameHeaderBytes).length = 256 := length_extract (Nat.zero_le _) hLen
  -- cutting at the offsets loses nothing, since they all lie inside the header
  have hBound : ∀ offset ∈ fieldOffsets, offset ≤ (bytes.extract 0 frameHeaderBytes).length := by
    rw [hBs]
    decide
  have hSlice : (bytes.extract 0 frameHeaderBytes).extract 8 256 =
      bytes.extract 8 frameHeaderBytes := by
    rw [List.extract_eq_take_drop, List.extract_eq_take_drop, List.extract_eq_take_drop,
      List.drop_zero, List.drop_take, List.take_take]
    rfl
  rw [slicesAt_eq_iff (by decide) hBound h.length_fields, ← hSlice]
  rfl

/-- The same with the fields joined: bytes from offset 8 on that are the fields of a
header decode to it, if it is valid. The first eight bytes do not matter. -/
theorem decode_of_flatten {bytes : Bytes} {h : FrameHeaderV1}
    (hLen : frameHeaderBytes ≤ bytes.length)
    (hFields : bytes.extract 8 frameHeaderBytes = h.fields.flatten) :
    decode bytes = (lift h.validate).map fun _ => h :=
  decode_of_fields hLen ((slices_eq_fields h hLen).mpr hFields)

/-- A string decodes to a header iff its bytes from offset 8 on are the header's
fields and the header is valid. -/
theorem decode_eq_ok {bytes : Bytes} {h : FrameHeaderV1} :
    decode bytes = .ok h ↔ frameHeaderBytes ≤ bytes.length
      ∧ bytes.extract 8 frameHeaderBytes = h.fields.flatten ∧ h.validate = .ok () := by
  constructor
  · intro hDecode
    obtain ⟨hLen, hFields, hValidate⟩ := fields_of_decode hDecode
    exact ⟨hLen, (slices_eq_fields h hLen).mp hFields, hValidate⟩
  · rintro ⟨hLen, hFields, hValidate⟩
    rw [decode_of_flatten hLen hFields, hValidate]
    rfl

-- ---------------------------------------------------------------------------
-- What a header says about its frame
-- ---------------------------------------------------------------------------

/-- The equations that `validate` checks between the lengths, offsets and counts
of a header. The body is the transaction, then the writable keys, then the
readonly keys, with nothing between them. -/
structure BodyLayout (h : FrameHeaderV1) : Prop where
  capacity : h.bodyLength.toNat ≤ frameBodyCapacity
  words : h.atomicWordCount.toNat = (frameHeaderBytes + h.bodyLength.toNat + 7) / 8
  padding : h.finalPaddingBytes.toNat = (8 - (frameHeaderBytes + h.bodyLength.toNat) % 8) % 8
  nonempty : h.transactionLength.toNat ≠ 0
  transactionOffset : h.transactionOffset.toNat = 0
  writableOffset : h.loadedWritableOffset.toNat = h.transactionLength.toNat
  readonlyOffset : h.loadedReadonlyOffset.toNat =
    h.transactionLength.toNat + h.loadedWritableLength.toNat
  bodyLength : h.bodyLength.toNat =
    h.transactionLength.toNat + h.loadedWritableLength.toNat + h.loadedReadonlyLength.toNat
  writableLength : h.loadedWritableLength.toNat = h.loadedWritableCount.toNat * keyBytes
  readonlyLength : h.loadedReadonlyLength.toNat = h.loadedReadonlyCount.toNat * keyBytes

/-- A valid header satisfies the equations. The checked additions and multiplications
are inverted to sums and products, and the equations follow from the guards by
arithmetic. -/
theorem bodyLayout_of_validate {h : FrameHeaderV1} (hValidate : h.validate = .ok ()) :
    h.BodyLayout := by
  unfold validate at hValidate
  -- readiness, identity and the shred boundaries say nothing about lengths
  obtain ⟨-, hValidate⟩ := guard_eq_ok hValidate
  obtain ⟨-, hValidate⟩ := guard_eq_ok hValidate
  obtain ⟨-, hValidate⟩ := guard_eq_ok hValidate
  obtain ⟨hCapacity, hValidate⟩ := guard_eq_ok hValidate
  obtain ⟨frameLength, hFrame, hValidate⟩ := bind_eq_ok hValidate
  obtain ⟨paddedLength, hPadded, hValidate⟩ := bind_eq_ok hValidate
  obtain ⟨hWords, hValidate⟩ := guard_eq_ok hValidate
  obtain ⟨hPadding, hValidate⟩ := guard_eq_ok hValidate
  obtain ⟨transactionEnd, hTransaction, hValidate⟩ := bind_eq_ok hValidate
  obtain ⟨writableEnd, hWritable, hValidate⟩ := bind_eq_ok hValidate
  obtain ⟨readonlyEnd, hReadonly, hValidate⟩ := bind_eq_ok hValidate
  obtain ⟨hRegions, hValidate⟩ := guard_eq_ok hValidate
  obtain ⟨expectedWritable, hWritableKeys, hValidate⟩ := bind_eq_ok hValidate
  obtain ⟨expectedReadonly, hReadonlyKeys, hValidate⟩ := bind_eq_ok hValidate
  obtain ⟨hKeys, -⟩ := guard_eq_ok hValidate
  -- no sum or product has overflowed
  have hFrame := checkedAdd_eq_some (okOr_eq_ok hFrame)
  have hPadded := checkedAdd_eq_some (okOr_eq_ok hPadded)
  have hTransaction := checkedAdd_eq_some (okOr_eq_ok hTransaction)
  have hWritable := checkedAdd_eq_some (okOr_eq_ok hWritable)
  have hReadonly := checkedAdd_eq_some (okOr_eq_ok hReadonly)
  have hWritableKeys := checkedMul_eq_some (okOr_eq_ok hWritableKeys)
  have hReadonlyKeys := checkedMul_eq_some (okOr_eq_ok hReadonlyKeys)
  simp only [not_or, not_not] at hCapacity hWords hPadding hRegions hKeys
  constructor <;> omega

end FrameHeaderV1

end TxStream
