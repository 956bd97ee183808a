import TxStream.Protocol.FrameEncode

/-!
# The frame codec round trip

Decoding an encoded frame gives back what was encoded, and encoding a decoded
frame gives back its bytes, the first eight apart.

Main results:

* `parse_encodeInto` — decode undoes encode, for every buffer and whatever
  follows the frame.
* `encodeInto_parse` — encode undoes decode, and two frames are equal iff their
  bytes agree behind the first eight.
-/

namespace TxStream

open Wire Rust

/-- The metadata that a header carries. -/
def FrameHeaderV1.metadata (h : FrameHeaderV1) : FrameMetadataV1 where
  messageVersion := h.messageVersion
  earliestSource := h.earliestSource
  flags := h.flags
  producerEpoch := h.producerEpoch
  canonicalSequence := h.canonicalSequence
  slot := h.slot
  prefixGeneration := h.prefixGeneration
  contributingSourceMask := h.contributingSourceMask
  firstDataShredIndex := h.firstDataShredIndex
  lastDataShredIndex := h.lastDataShredIndex
  dataSetStartingShredIndex := h.dataSetStartingShredIndex
  completedDataSetEndingShredIndexExclusive := h.completedDataSetEndingShredIndexExclusive
  entryOrdinal := h.entryOrdinal
  transactionOrdinal := h.transactionOrdinal
  firstShredReceiveNs := h.firstShredReceiveNs
  transactionCompleteNs := h.transactionCompleteNs
  lutResolutionCompleteNs := h.lutResolutionCompleteNs
  publicationStartNs := h.publicationStartNs

/-- A loaded region cut into keys. -/
def keysOf (region : Bytes) : List (FixedBytes 32) := chunks 32 (region.length / 32) region

/-- The parts that a parsed frame was made of. -/
def ValidatedFrame.parts (f : ValidatedFrame) : FrameParts where
  transaction := f.transactionBytes
  loadedWritable := keysOf f.loadedWritableBytes
  loadedReadonly := keysOf f.loadedReadonlyBytes

-- ---------------------------------------------------------------------------
-- A sample frame
-- ---------------------------------------------------------------------------

/-- A v0 transaction that loads one writable and one readonly key. -/
def sampleV0 : PacketTransaction :=
  { sampleLegacy with
    messageVersion := .v0
    lookups := [⟨FixedBytes.pad 32 [9], [0], [1]⟩] }

/-- The sample transaction is accepted. -/
theorem tryNew_sampleV0 : tryNew sampleV0.serialize = .ok sampleV0.view := by
  have hValid : sampleV0.WellFormed := by constructor <;> decide
  rw [tryNew_of_packet hValid (by decide) (by decide +kernel), if_pos (by decide +kernel)]

/-- Metadata for the sample transaction. -/
def sampleMetadata : FrameMetadataV1 where
  messageVersion := .v0
  earliestSource := 1
  flags := ((FrameFlags.naturalReady.or .transactionSanitized).or .lutResolved).or
    .dataSetStartValid
  producerEpoch := 7
  canonicalSequence := 41
  slot := 1000
  prefixGeneration := 3
  contributingSourceMask := 1
  firstDataShredIndex := 5
  lastDataShredIndex := 6
  dataSetStartingShredIndex := 4
  completedDataSetEndingShredIndexExclusive := 0
  entryOrdinal := 2
  transactionOrdinal := 1
  firstShredReceiveNs := 10
  transactionCompleteNs := 20
  lutResolutionCompleteNs := 20
  publicationStartNs := 30

/-- The transaction with the two keys that its lookup loads. -/
def sampleParts : FrameParts where
  transaction := sampleV0.serialize
  loadedWritable := [FixedBytes.pad 32 [1, 2]]
  loadedReadonly := [FixedBytes.pad 32 [3]]

/-- The sample parts can be encoded. -/
theorem sampleParts_encodable : sampleParts.Encodable sampleMetadata sampleV0.view :=
  ⟨tryNew_sampleV0, rfl, by decide, by decide, by decide +kernel⟩

-- ---------------------------------------------------------------------------
-- Decoding what was encoded
-- ---------------------------------------------------------------------------

/-- **Decode undoes encode.** After a successful call the buffer holds a frame at its
front: it parses, with or without the rest of the buffer or anything else behind it, to
the metadata, the transaction and the keys that were encoded, it has the length that was
returned, and it is padded with zeros. -/
theorem parse_encodeInto {metadata : FrameMetadataV1} {parts : FrameParts} {output output' : Bytes}
    {n : Nat} (hEncode : FrameEncoder.encodeInto metadata parts output = .ok n output') :
    output'.length = output.length ∧ ∃ frame : ValidatedFrame,
      (∀ m, n ≤ m → m ≤ output.length → ValidatedFrame.parse (output'.take m) = .ok frame) ∧
      (∀ rest, ValidatedFrame.parse (output'.take n ++ rest) = .ok frame) ∧
      frame.bytes = output'.take n ∧
      n = 8 * frame.header.atomicWordCount.toNat ∧
      frame.header.metadata = metadata ∧
      frame.transactionBytes = parts.transaction ∧
      frame.loadedWritableBytes = parts.loadedWritable.flatMap FixedBytes.toList ∧
      frame.loadedReadonlyBytes = parts.loadedReadonly.flatMap FixedBytes.toList ∧
      ∀ i, frameHeaderBytes + frame.header.bodyLength.toNat ≤ i → i < n → output'[i]? = some 0 := by
  rcases FrameEncoder.encodeInto_cases metadata parts output with
    ⟨view, hEncodable, hFits, hOk⟩ | ⟨e, hError⟩
  · obtain ⟨hn, ho⟩ : n = parts.frameLength
        ∧ output' = parts.frame metadata ++ output.drop parts.frameLength :=
      EStateM.Result.ok.inj (hEncode.symm.trans hOk)
    rw [hn, ho]
    have hLength := FrameParts.length_frame metadata hEncodable
    have hBody := FrameParts.bodyLength_le hEncodable.accepted hEncodable.writableCount
      hEncodable.readonlyCount
    obtain ⟨hBodyLength, -, -, -, hWords, -⟩ := FrameParts.header_toNat metadata hBody
    have hTake : (parts.frame metadata ++ output.drop parts.frameLength).take parts.frameLength =
        parts.frame metadata := List.take_left' hLength
    have hParse := fun rest => parse_of_canonical hEncodable.canonical rest
    refine ⟨?_, parts.validated metadata view, ?_, ?_, hTake.symm, ?_, rfl,
      tryNew_data hEncodable.accepted, rfl, rfl, ?_⟩
    · rw [List.length_append, List.length_drop]
      omega
    · intro m hLow hHigh
      rw [List.take_append, List.take_of_length_le (by omega)]
      exact hParse _
    · intro rest
      rw [hTake]
      exact hParse rest
    · rw [Nat.mul_comm]
      exact hWords.symm
    · intro i hLow hHigh
      have hLow : frameHeaderBytes + (parts.header metadata).bodyLength.toNat ≤ i := hLow
      rw [hBodyLength] at hLow
      -- behind header and body there is the padding
      have hFront : ((parts.header metadata).encode
          ++ (parts.transaction ++ parts.writableBytes ++ parts.readonlyBytes)).length =
            frameHeaderBytes + parts.bodyLength := by
        rw [List.length_append, List.length_append, List.length_append, FrameParts.length_header,
          FrameParts.length_writableBytes, FrameParts.length_readonlyBytes]
        rfl
      rw [List.getElem?_append_left (by omega), FrameParts.frame,
        List.getElem?_append_right (by omega), hFront, zeros, List.getElem?_replicate,
        if_pos (by omega)]
  · rw [hError] at hEncode
    cases hEncode

/-- The sample encodes into a buffer of a whole slot and decodes from it. -/
theorem parse_encodeInto_sample :
    ∃ output' frame, FrameEncoder.encodeInto sampleMetadata sampleParts
        (List.replicate 12288 0xff) = .ok 536 output' ∧
      ValidatedFrame.parse (output'.take 12288) = .ok frame ∧
      frame.header.metadata = sampleMetadata ∧
      frame.transactionBytes = sampleV0.serialize := by
  have hEncode := FrameEncoder.encodeInto_eq (List.replicate 12288 0xff)
    sampleParts_encodable.accepted sampleParts_encodable.version
    sampleParts_encodable.writableCount sampleParts_encodable.readonlyCount
  have hLength : sampleParts.frameLength = 536 := by decide +kernel
  rw [hLength, List.length_replicate, if_neg (by decide), sampleParts_encodable.header_valid]
    at hEncode
  obtain ⟨-, frame, hParse, -, -, -, hMetadata, hTransaction, -⟩ := parse_encodeInto hEncode
  exact ⟨_, frame, hEncode, hParse 12288 (by decide) (by rw [List.length_replicate]), hMetadata,
    hTransaction⟩

-- ---------------------------------------------------------------------------
-- Encoding what was decoded
-- ---------------------------------------------------------------------------

/-- A region of whole keys is cut into these keys. -/
theorem keysOf_region {region : Bytes} {count : Nat} (h : region.length = count * keyBytes) :
    (keysOf region).length = count ∧ (keysOf region).flatMap FixedBytes.toList = region := by
  have hCount : region.length / 32 = count := by
    rw [h]
    exact Nat.mul_div_cancel _ (by decide)
  rw [keysOf, hCount]
  exact ⟨length_chunks .., flatMap_chunks h⟩

namespace ValidatedFrame.Canonical

variable {f g : ValidatedFrame}

/-- The header of the parts of a frame, computed from their lengths, is the
header of the frame: `validate` leaves no length, offset or count open. -/
theorem parts_header (h : f.Canonical) : f.parts.header f.header.metadata = f.header := by
  -- the lengths of the parts are the numbers of the header, and the equations fix the others
  have hLayout := FrameHeaderV1.bodyLayout_of_validate h.header_valid
  obtain ⟨hWritableCount, -⟩ := keysOf_region (h.writableLength.trans hLayout.writableLength)
  obtain ⟨hReadonlyCount, -⟩ := keysOf_region (h.readonlyLength.trans hLayout.readonlyLength)
  have hWords := hLayout.words
  have hPadding := hLayout.padding
  have hTransaction : f.parts.transaction.length = f.header.transactionLength.toNat :=
    h.transactionLength
  have hWritable : f.parts.loadedWritable.length = f.header.loadedWritableCount.toNat :=
    hWritableCount
  have hReadonly : f.parts.loadedReadonly.length = f.header.loadedReadonlyCount.toNat :=
    hReadonlyCount
  have hBody : f.parts.bodyLength = f.header.bodyLength.toNat := by
    rw [FrameParts.bodyLength, hTransaction, hWritable, hReadonly, ← hLayout.writableLength,
      ← hLayout.readonlyLength, hLayout.bodyLength]
  have hWordCount : f.parts.frameLength / 8 = f.header.atomicWordCount.toNat := by
    rw [FrameParts.frameLength, hBody, hWords]
    omega
  have hPaddingBytes : f.parts.frameLength - (frameHeaderBytes + f.header.bodyLength.toNat) =
      f.header.finalPaddingBytes.toNat := by
    rw [FrameParts.frameLength, hBody, hPadding]
    omega
  have hZero : (0 : UInt32) = f.header.transactionOffset :=
    UInt32.toNat_inj.mp hLayout.transactionOffset.symm
  have hReadonlyOffset : f.header.transactionLength.toNat + f.header.loadedWritableLength.toNat =
      f.header.loadedReadonlyOffset.toNat := hLayout.readonlyOffset.symm
  rw [FrameParts.header, hBody, hWordCount, hPaddingBytes, hTransaction, hWritable, hReadonly,
    ← hLayout.writableLength, ← hLayout.readonlyLength, hReadonlyOffset, hZero]
  simp only [UInt32.ofNat_toNat, UInt16.ofNat_toNat, UInt8.ofNat_toNat]
  exact congrArg (fun offset => { f.header with loadedWritableOffset := offset })
    (UInt32.toNat_inj.mp hLayout.writableOffset).symm

/-- The parts and the metadata of a frame can be encoded again. -/
theorem encodable (h : f.Canonical) :
    f.parts.Encodable f.header.metadata f.transactionView := by
  have hLayout := FrameHeaderV1.bodyLayout_of_validate h.header_valid
  obtain ⟨hWritable, -⟩ := keysOf_region (h.writableLength.trans hLayout.writableLength)
  obtain ⟨hReadonly, -⟩ := keysOf_region (h.readonlyLength.trans hLayout.readonlyLength)
  refine ⟨h.view, h.version, ?_, ?_, ?_⟩
  · rw [h.writableCount]
    exact hWritable.symm
  · rw [h.readonlyCount]
    exact hReadonly.symm
  · rw [h.parts_header]
    exact h.header_valid

/-- The bytes of a frame behind the first eight. -/
theorem drop_bytes (h : f.Canonical) : f.bytes.drop 8 = f.header.fields.flatten
    ++ (f.transactionBytes ++ f.loadedWritable ++ f.loadedReadonly)
    ++ zeros f.header.finalPaddingBytes.toNat := by
  obtain ⟨front, hFront, hFrame⟩ := h.bytes
  rw [ValidatedFrame.bytes, hFrame, List.append_assoc, List.append_assoc,
    List.drop_left' hFront, ← List.append_assoc]

/-- Only the first eight bytes of a frame are free: with the bytes of another frame that
agrees with it from there on, it is still canonical. -/
theorem of_drop_bytes (h : f.Canonical) (hg : g.Canonical)
    (hDrop : f.bytes.drop 8 = g.bytes.drop 8) :
    ({ f with frame := g.frame } : ValidatedFrame).Canonical := by
  obtain ⟨front, hFront, hFrame⟩ := hg.bytes
  refine ⟨h.header_valid, h.view, h.version, h.writableCount, h.readonlyCount,
    h.transactionLength, h.writableLength, h.readonlyLength, front, hFront, ?_⟩
  rw [h.drop_bytes, hg.drop_bytes] at hDrop
  show g.frame = front ++ f.header.fields.flatten
    ++ (f.transactionBytes ++ f.loadedWritable ++ f.loadedReadonly)
    ++ zeros f.header.finalPaddingBytes.toNat
  rw [List.append_assoc, List.append_assoc front, ← List.append_assoc f.header.fields.flatten,
    hDrop, hFrame]
  simp only [List.append_assoc]

/-- The frame of the parts is the frame itself with its first eight bytes zeroed. -/
theorem parts_frame (h : f.Canonical) :
    f.parts.frame f.header.metadata = zeros 8 ++ f.bytes.drop 8 := by
  have hLayout := FrameHeaderV1.bodyLayout_of_validate h.header_valid
  obtain ⟨-, hWritable⟩ := keysOf_region (h.writableLength.trans hLayout.writableLength)
  obtain ⟨-, hReadonly⟩ := keysOf_region (h.readonlyLength.trans hLayout.readonlyLength)
  have hBody := FrameParts.bodyLength_le h.encodable.accepted h.encodable.writableCount
    h.encodable.readonlyCount
  obtain ⟨-, -, -, -, -, hPadding⟩ := FrameParts.header_toNat f.header.metadata hBody
  rw [h.parts_header] at hPadding
  rw [FrameParts.frame, h.parts_header, ← hPadding, FrameHeaderV1.encode_eq, h.drop_bytes,
    FrameParts.writableBytes, FrameParts.readonlyBytes,
    show f.parts.loadedWritable.flatMap FixedBytes.toList = f.loadedWritable from hWritable,
    show f.parts.loadedReadonly.flatMap FixedBytes.toList = f.loadedReadonly from hReadonly,
    show f.parts.transaction = f.transactionBytes from rfl]
  simp only [List.append_assoc]

/-- Frames are equal exactly when their bytes agree behind the first eight. Equal fields
make equal bytes; and bytes determine the fields, since both frames parse. -/
theorem eq_iff (h : f.Canonical) (hg : g.Canonical) :
    f.eq g = true ↔ f.bytes.drop 8 = g.bytes.drop 8 := by
  constructor
  · intro hEq
    simp only [ValidatedFrame.eq, Bool.and_eq_true, decide_eq_true_eq] at hEq
    obtain ⟨⟨⟨hHeader, hData⟩, hWritable⟩, hReadonly⟩ := hEq
    rw [h.drop_bytes, hg.drop_bytes, hHeader, hWritable, hReadonly, ValidatedFrame.transactionBytes,
      ValidatedFrame.transactionBytes, hData]
  · intro hDrop
    have hSame : ({ f with frame := g.frame } : ValidatedFrame) = g := by
      -- one string parses to both, so they are the same up to the bytes kept
      have hLeft := parse_of_canonical (h.of_drop_bytes hg hDrop) []
      have hRight := parse_of_canonical hg []
      exact Except.ok.inj (hLeft.symm.trans hRight)
    rw [← hSame]
    simp [ValidatedFrame.eq]

end ValidatedFrame.Canonical

/-- **Encode undoes decode.** Encoding what was parsed writes the frame again,
except that its first eight bytes become zero; and two parsed frames are equal
exactly when their bytes agree behind those eight. -/
theorem encodeInto_parse :
    (∀ (bytes : Bytes) (f : ValidatedFrame), ValidatedFrame.parse bytes = .ok f →
      ∀ output : Bytes, f.bytes.length ≤ output.length →
        FrameEncoder.encodeInto f.header.metadata f.parts output =
          .ok f.bytes.length (zeros 8 ++ f.bytes.drop 8 ++ output.drop f.bytes.length)) ∧
    ∀ (bytes bytes' : Bytes) (f f' : ValidatedFrame), ValidatedFrame.parse bytes = .ok f →
      ValidatedFrame.parse bytes' = .ok f' →
        (f.eq f' = true ↔ f.bytes.drop 8 = f'.bytes.drop 8) := by
  refine ⟨?_, ?_⟩
  · intro bytes f hParse output hFits
    obtain ⟨h, -⟩ := parse_eq_ok.mp hParse
    have hLength := FrameParts.length_frame f.header.metadata h.encodable
    rw [h.parts_frame, List.length_append, List.length_drop, length_zeros] at hLength
    have hLong : 8 ≤ f.bytes.length := by
      obtain ⟨front, hFront, hFrame⟩ := h.bytes
      rw [ValidatedFrame.bytes, hFrame]
      simp only [List.length_append]
      omega
    -- a parsed frame passes every check of the encoder
    have hEncode := FrameEncoder.encodeInto_eq output h.encodable.accepted h.encodable.version
      h.encodable.writableCount h.encodable.readonlyCount
    rw [if_neg (by omega), h.encodable.header_valid, h.parts_frame, ← hLength,
      Nat.add_sub_of_le hLong] at hEncode
    exact hEncode
  · intro bytes bytes' f f' hParse hParse'
    exact (parse_eq_ok.mp hParse).1.eq_iff (parse_eq_ok.mp hParse').1

/-- The frame of the sample encodes again. -/
theorem encodeInto_parse_sample :
    ∃ f, ValidatedFrame.parse (sampleParts.frame sampleMetadata) = .ok f ∧
      FrameEncoder.encodeInto f.header.metadata f.parts f.bytes =
        .ok f.bytes.length (zeros 8 ++ f.bytes.drop 8 ++ f.bytes.drop f.bytes.length) ∧
      f.eq f = true := by
  have hParse := parse_of_canonical sampleParts_encodable.canonical []
  rw [List.append_nil] at hParse
  exact ⟨_, hParse, encodeInto_parse.1 _ _ hParse _ le_rfl,
    (encodeInto_parse.2 _ _ _ _ hParse hParse).mpr rfl⟩

end TxStream
