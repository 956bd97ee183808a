import TxStream.Protocol.EncoderVerdict
import TxStream.Protocol.HeaderCodec
import TxStream.Protocol.SelfDelimiting

/-!
# Which headers go with a body

A header repeats much of what the body says: its version, its lengths, its counts
and its padding, besides the constants of the format. `validate` compares these
with each other and `parse` with the transaction, and since no transaction is a
prefix of another one, the bytes behind the header leave nothing of it open but
the metadata.

Main results:

* `FrameHeaderV1.decode_of_sameStructure` — a header whose structural bytes are
  those of a decoded one.
* `ValidatedFrame.Canonical.header_eq` — two frames of one body differ in their
  metadata alone.
* `header_integrity` — which changes of a header are accepted.
-/

namespace TxStream

open Wire Rust

namespace FrameHeaderV1

/-- The offsets of a header at which there is no metadata, or its version, which the
transaction repeats. -/
def IsStructural (offset : Nat) : Prop :=
  (8 ≤ offset ∧ offset < 79) ∨ (84 ≤ offset ∧ offset < 96) ∨ (160 ≤ offset ∧ offset < 192)
    ∨ (224 ≤ offset ∧ offset < 256)

/-- The two strings have the same structural bytes. -/
def SameStructure (bytes bytes' : Bytes) : Prop :=
  ∀ offset, IsStructural offset → bytes'[offset]? = bytes[offset]?

/-- The header with other metadata, of the same version. -/
def withMetadata (h : FrameHeaderV1) (metadata : FrameMetadataV1) : FrameHeaderV1 :=
  { h with
    earliestSource := metadata.earliestSource
    flags := metadata.flags
    producerEpoch := metadata.producerEpoch
    canonicalSequence := metadata.canonicalSequence
    slot := metadata.slot
    prefixGeneration := metadata.prefixGeneration
    contributingSourceMask := metadata.contributingSourceMask
    firstDataShredIndex := metadata.firstDataShredIndex
    lastDataShredIndex := metadata.lastDataShredIndex
    dataSetStartingShredIndex := metadata.dataSetStartingShredIndex
    completedDataSetEndingShredIndexExclusive :=
      metadata.completedDataSetEndingShredIndexExclusive
    entryOrdinal := metadata.entryOrdinal
    transactionOrdinal := metadata.transactionOrdinal
    firstShredReceiveNs := metadata.firstShredReceiveNs
    transactionCompleteNs := metadata.transactionCompleteNs
    lutResolutionCompleteNs := metadata.lutResolutionCompleteNs
    publicationStartNs := metadata.publicationStartNs }

/-- The metadata in the first 256 bytes of a string, for the given version and flags. -/
def readMetadata (bytes : Bytes) (messageVersion : MessageVersion) (flags : FrameFlags) :
    FrameMetadataV1 :=
  (readHeader (bytes.extract 0 frameHeaderBytes) messageVersion flags).metadata

/-- The bits at the offset of the flags. -/
def readFlags (bytes : Bytes) : Except FrameValidationError FrameFlags :=
  FrameFlags.fromBits (UInt32.ofNat (leNat ((bytes.extract 0 frameHeaderBytes).extract 80 84)))

variable {h : FrameHeaderV1} {bytes bytes' : Bytes}

/-- The equations between lengths do not mention the metadata. -/
theorem BodyLayout.withMetadata (hLayout : h.BodyLayout) (metadata : FrameMetadataV1) :
    (h.withMetadata metadata).BodyLayout where
  capacity := hLayout.capacity
  words := hLayout.words
  padding := hLayout.padding
  nonempty := hLayout.nonempty
  transactionOffset := hLayout.transactionOffset
  writableOffset := hLayout.writableOffset
  readonlyOffset := hLayout.readonlyOffset
  bodyLength := hLayout.bodyLength
  writableLength := hLayout.writableLength
  readonlyLength := hLayout.readonlyLength

-- ---------------------------------------------------------------------------
-- Headers with the same structural bytes
-- ---------------------------------------------------------------------------

/-- The structural bytes are bytes of the header. -/
theorem IsStructural.lt {i : Nat} (h : IsStructural i) : i < frameHeaderBytes := by
  rw [show frameHeaderBytes = 256 from rfl]
  unfold IsStructural at h
  omega

/-- A structural byte is the same in both headers, which are the first 256 bytes. -/
theorem SameStructure.getElem?_eq (h : SameStructure bytes bytes') {i : Nat}
    (hStructural : IsStructural i) :
    (bytes'.extract 0 frameHeaderBytes)[i]? = (bytes.extract 0 frameHeaderBytes)[i]? := by
  have hLeft := @getElem?_extract bytes' 0 frameHeaderBytes i (Nat.zero_le _) hStructural.lt
  have hRight := @getElem?_extract bytes 0 frameHeaderBytes i (Nat.zero_le _) hStructural.lt
  rw [Nat.sub_zero] at hLeft hRight
  rw [hLeft, hRight, h i hStructural]

/-- The same for the bytes that `decode` reads one at a time. -/
theorem SameStructure.getD_eq (h : SameStructure bytes bytes') {i : Nat}
    (hStructural : IsStructural i) : (bytes'.extract 0 frameHeaderBytes).getD i 0 =
      (bytes.extract 0 frameHeaderBytes).getD i 0 := by
  rw [List.getD_eq_getElem?_getD, List.getD_eq_getElem?_getD, h.getElem?_eq hStructural]

/-- Slices without metadata are the same. -/
theorem SameStructure.extract_eq (h : SameStructure bytes bytes') {start stop : Nat}
    (hRange : (8 ≤ start ∧ stop ≤ 79) ∨ (84 ≤ start ∧ stop ≤ 96) ∨ (160 ≤ start ∧ stop ≤ 192)
      ∨ (224 ≤ start ∧ stop ≤ 256)) :
    (bytes'.extract 0 frameHeaderBytes).extract start stop =
      (bytes.extract 0 frameHeaderBytes).extract start stop := by
  refine extract_congr fun i hLow hHigh => h.getElem?_eq ?_
  unfold IsStructural
  omega

/-- Conversely four slices are all that is structural. -/
theorem sameStructure_of_extract
    (hSlices : ∀ range ∈ [(8, 79), (84, 96), (160, 192), (224, 256)],
      (bytes'.extract 0 frameHeaderBytes).extract range.1 range.2 =
        (bytes.extract 0 frameHeaderBytes).extract range.1 range.2) :
    SameStructure bytes bytes' := by
  intro i hStructural
  have hIn : ∀ start stop, (start, stop) ∈ [(8, 79), (84, 96), (160, 192), (224, 256)] →
      start ≤ i → i < stop → bytes'[i]? = bytes[i]? := by
    intro start stop hMem hLow hHigh
    have hSlice := congrArg (·[i - start]?) (hSlices (start, stop) hMem)
    dsimp only at hSlice
    rw [getElem?_extract hLow hHigh, getElem?_extract hLow hHigh] at hSlice
    have hLeft := @getElem?_extract bytes' 0 frameHeaderBytes i (Nat.zero_le _) hStructural.lt
    have hRight := @getElem?_extract bytes 0 frameHeaderBytes i (Nat.zero_le _) hStructural.lt
    exact hLeft.symm.trans (hSlice.trans hRight)
  rcases hStructural with h | h | h | h
  · exact hIn 8 79 (by decide) h.1 h.2
  · exact hIn 84 96 (by decide) h.1 h.2
  · exact hIn 160 192 (by decide) h.1 h.2
  · exact hIn 224 256 (by decide) h.1 h.2

/-- Headers that differ in their metadata alone have the same structural bytes. -/
theorem sameStructure_of_decode {metadata : FrameMetadataV1} (hDecode : decode bytes = .ok h)
    (hDecode' : decode bytes' = .ok (h.withMetadata metadata)) : SameStructure bytes bytes' := by
  obtain ⟨-, hFields, -⟩ := fields_of_decode hDecode
  obtain ⟨-, hFields', -⟩ := fields_of_decode hDecode'
  -- the slice from one field to another is made of the fields between them
  have hBlocks : ∀ (bytes : Bytes) (header : FrameHeaderV1),
      slicesAt (8 :: fieldOffsets) (bytes.extract 0 frameHeaderBytes) = header.fields →
      (bytes.extract 0 frameHeaderBytes).extract 8 79 = (header.fields.take 6).flatten ∧
      (bytes.extract 0 frameHeaderBytes).extract 84 96 = ((header.fields.drop 8).take 3).flatten ∧
      (bytes.extract 0 frameHeaderBytes).extract 160 192 =
        ((header.fields.drop 22).take 10).flatten ∧
      (bytes.extract 0 frameHeaderBytes).extract 224 256 = (header.fields.drop 36).flatten := by
    intro bytes header hFields
    generalize bytes.extract 0 frameHeaderBytes = bs at hFields
    rw [← hFields]
    exact ⟨(flatten_slicesAt bs 8 [64, 72, 74, 76, 78, 79] (by decide)).symm,
      (flatten_slicesAt bs 84 [88, 92, 96] (by decide)).symm,
      (flatten_slicesAt bs 160 [164, 168, 172, 176, 180, 184, 186, 188, 189, 192]
        (by decide)).symm,
      (flatten_slicesAt bs 224 [256] (by decide)).symm⟩
  obtain ⟨hFirst, hSecond, hThird, hFourth⟩ := hBlocks bytes h hFields
  obtain ⟨hFirst', hSecond', hThird', hFourth'⟩ := hBlocks bytes' _ hFields'
  refine sameStructure_of_extract ?_
  simp only [List.forall_mem_cons]
  exact ⟨hFirst'.trans hFirst.symm, hSecond'.trans hSecond.symm, hThird'.trans hThird.symm,
    hFourth'.trans hFourth.symm, nofun⟩

/-- **A header whose structural bytes are those of a decoded one** decodes to that
one with the metadata that it reads, if the flags are known, and as far as
`validate` goes. -/
theorem decode_of_sameStructure (hDecode : decode bytes = .ok h)
    (hLen : frameHeaderBytes ≤ bytes'.length) (hSame : SameStructure bytes bytes')
    {flags : FrameFlags} (hFlags : readFlags bytes' = .ok flags) :
    decode bytes' = (lift (h.withMetadata
      (readMetadata bytes' h.messageVersion flags)).validate).map fun _ =>
        h.withMetadata (readMetadata bytes' h.messageVersion flags) := by
  have hLen₀ := (fields_of_decode hDecode).1
  rw [decode_eq hLen₀ rfl] at hDecode
  rw [decode_eq hLen rfl]
  unfold readFlags at hFlags
  unfold readMetadata
  have hSlice : ∀ start stop, ((8 ≤ start ∧ stop ≤ 79) ∨ (84 ≤ start ∧ stop ≤ 96)
      ∨ (160 ≤ start ∧ stop ≤ 192) ∨ (224 ≤ start ∧ stop ≤ 256)) →
      (bytes'.extract 0 frameHeaderBytes).extract start stop =
        (bytes.extract 0 frameHeaderBytes).extract start stop :=
    fun _ _ hRange => hSame.extract_eq hRange
  -- `decode` reads two bytes on their own: the message version and the final padding
  have hVersionByte := hSame.getD_eq (show IsStructural 78 from Or.inl (by decide))
  have hPaddingByte := hSame.getD_eq
    (show IsStructural 188 from Or.inr (Or.inr (Or.inl (by decide))))
  clear hSame
  generalize bytes'.extract 0 frameHeaderBytes = bs' at *
  generalize bytes.extract 0 frameHeaderBytes = bs at *
  obtain ⟨hMagic, hDecode⟩ := guard_eq_ok hDecode
  obtain ⟨hSchema, hDecode⟩ := guard_eq_ok hDecode
  obtain ⟨hLayout, hDecode⟩ := guard_eq_ok hDecode
  obtain ⟨hHeaderLength, hDecode⟩ := guard_eq_ok hDecode
  obtain ⟨hReserved, hDecode⟩ := guard_eq_ok hDecode
  obtain ⟨version, hVersion, hDecode⟩ := bind_eq_ok hDecode
  obtain ⟨flags₀, -, hDecode⟩ := bind_eq_ok hDecode
  obtain ⟨⟨⟩, -, hDecode⟩ := bind_eq_ok hDecode
  obtain rfl := Except.ok.inj hDecode
  have hHeader : readHeader bs' version flags =
      (readHeader bs version flags₀).withMetadata (readHeader bs' version flags).metadata := by
    simp (disch := decide) only [readHeader, withMetadata, metadata, hSlice, hPaddingByte]
  dsimp only
  rw [hSlice 64 72 (by decide), hSlice 72 74 (by decide), hSlice 74 76 (by decide),
    hSlice 76 78 (by decide), hSlice 8 64 (by decide), hSlice 92 96 (by decide),
    hSlice 189 192 (by decide), hSlice 224 256 (by decide), if_neg hMagic, if_neg hSchema,
    if_neg hLayout, if_neg hHeaderLength, if_neg hReserved, hVersionByte, hVersion, hFlags]
  show (do
    lift (readHeader bs' version flags).validate
    return readHeader bs' version flags) = (lift ((readHeader bs version flags₀).withMetadata
      (readHeader bs' version flags).metadata).validate).map fun _ =>
        (readHeader bs version flags₀).withMetadata (readHeader bs' version flags).metadata
  rw [← hHeader]
  cases (readHeader bs' version flags).validate <;> rfl

/-- What was decoded is what stands there. -/
theorem read_of_decode (hDecode : decode bytes = .ok h) :
    readFlags bytes = .ok h.flags ∧ readMetadata bytes h.messageVersion h.flags = h.metadata := by
  have hLen := (fields_of_decode hDecode).1
  rw [decode_eq hLen rfl] at hDecode
  unfold readFlags readMetadata
  obtain ⟨-, hDecode⟩ := guard_eq_ok hDecode
  obtain ⟨-, hDecode⟩ := guard_eq_ok hDecode
  obtain ⟨-, hDecode⟩ := guard_eq_ok hDecode
  obtain ⟨-, hDecode⟩ := guard_eq_ok hDecode
  obtain ⟨-, hDecode⟩ := guard_eq_ok hDecode
  obtain ⟨version, -, hDecode⟩ := bind_eq_ok hDecode
  obtain ⟨flags, hFlags, hDecode⟩ := bind_eq_ok hDecode
  obtain ⟨⟨⟩, -, hDecode⟩ := bind_eq_ok hDecode
  obtain rfl := Except.ok.inj hDecode
  exact ⟨lift_eq_ok hFlags, rfl⟩

end FrameHeaderV1

-- ---------------------------------------------------------------------------
-- Frames with the same body
-- ---------------------------------------------------------------------------

/-- Of two accepted transactions at the front of one string neither is longer. -/
theorem eq_of_tryNew {tx tx' rest rest' : Bytes} {view view' : SanitizedTransactionView}
    (h : tryNew tx = .ok view) (h' : tryNew tx' = .ok view') (hEq : tx ++ rest = tx' ++ rest') :
    tx = tx' := by
  -- a transaction with more bytes behind it is refused
  have hWhole : ∀ {tx tx' : Bytes} {view view' : SanitizedTransactionView},
      tryNew tx = .ok view → tryNew tx' = .ok view' → ∀ more, tx' = tx ++ more → tx = tx' := by
    rintro tx _ view view' h h' more rfl
    cases more with
    | nil => exact (List.append_nil _).symm
    | cons b more =>
      rw [tryNew_of_extension h (List.cons_ne_nil _ _)] at h'
      cases h'
  rcases List.append_eq_append_iff.mp hEq with ⟨more, hMore, -⟩ | ⟨more, hMore, -⟩
  · exact hWhole h h' more hMore
  · exact (hWhole h' h more hMore).symm

namespace ValidatedFrame.Canonical

variable {f g : ValidatedFrame}

/-- The bytes behind the header. -/
theorem drop_header (h : f.Canonical) (rest : Bytes) :
    (f.frame ++ rest).drop frameHeaderBytes = f.transactionBytes ++
      (f.loadedWritable ++ f.loadedReadonly ++ zeros f.header.finalPaddingBytes.toNat ++ rest) := by
  obtain ⟨front, hFront, hFrame⟩ := h.bytes
  have hHeader : (front ++ f.header.fields.flatten).length = frameHeaderBytes := by
    rw [List.length_append, hFront, FrameHeaderV1.length_flatten_fields]
    rfl
  rw [hFrame]
  simp only [List.append_assoc] at hHeader ⊢
  rw [← List.append_assoc front, List.drop_left' hHeader]

/-- **Two frames of one body** have the same parts. -/
theorem parts_eq (h : f.Canonical) (hg : g.Canonical) {rest rest' : Bytes}
    (hBody : (g.frame ++ rest').drop frameHeaderBytes =
      (f.frame ++ rest).drop frameHeaderBytes) :
    g.transactionView = f.transactionView ∧ g.loadedWritable = f.loadedWritable ∧
      g.loadedReadonly = f.loadedReadonly := by
  rw [h.drop_header, hg.drop_header] at hBody
  -- both bodies start with their transaction, and neither can be longer
  have hTransaction := eq_of_tryNew hg.view h.view hBody
  rw [hTransaction] at hBody
  have hView : g.transactionView = f.transactionView := by
    have hSame := hg.view
    rw [hTransaction, h.view] at hSame
    exact (Except.ok.inj hSame).symm
  -- the lengths of the regions are the totals of the transaction
  have hLayout := FrameHeaderV1.bodyLayout_of_validate h.header_valid
  have hLayout' := FrameHeaderV1.bodyLayout_of_validate hg.header_valid
  have hWritable : g.loadedWritable.length = f.loadedWritable.length := by
    rw [hg.writableLength, h.writableLength, hLayout.writableLength, hLayout'.writableLength,
      ← h.writableCount, ← hg.writableCount, hView]
  have hReadonly : g.loadedReadonly.length = f.loadedReadonly.length := by
    rw [hg.readonlyLength, h.readonlyLength, hLayout.readonlyLength, hLayout'.readonlyLength,
      ← h.readonlyCount, ← hg.readonlyCount, hView]
  have hRegions := List.append_cancel_left hBody
  simp only [List.append_assoc] at hRegions
  obtain ⟨hWritable, hRegions⟩ := List.append_inj hRegions hWritable
  exact ⟨hView, hWritable, (List.append_inj hRegions hReadonly).1⟩

/-- They differ in their metadata alone. -/
theorem header_eq (h : f.Canonical) (hg : g.Canonical) {rest rest' : Bytes}
    (hBody : (g.frame ++ rest').drop frameHeaderBytes =
      (f.frame ++ rest).drop frameHeaderBytes) :
    g.header = f.header.withMetadata g.header.metadata := by
  obtain ⟨hView, hWritable, hReadonly⟩ := h.parts_eq hg hBody
  have hVersion : g.header.messageVersion = f.header.messageVersion := by
    rw [← h.version, ← hg.version, hView]
  have hParts : g.parts = f.parts := by
    rw [ValidatedFrame.parts, ValidatedFrame.parts, ValidatedFrame.transactionBytes,
      ValidatedFrame.transactionBytes, ValidatedFrame.loadedWritableBytes,
      ValidatedFrame.loadedWritableBytes, ValidatedFrame.loadedReadonlyBytes,
      ValidatedFrame.loadedReadonlyBytes, hView, hWritable, hReadonly]
  -- a header is computed from the parts and the metadata
  have hHeader := hg.parts_header
  rw [hParts] at hHeader
  have hMetadata : f.parts.header g.header.metadata =
      (f.parts.header f.header.metadata).withMetadata g.header.metadata := by
    show f.parts.header g.header.metadata =
      { f.parts.header g.header.metadata with messageVersion := f.header.messageVersion }
    rw [← hVersion]
    rfl
  rw [h.parts_header] at hMetadata
  exact hHeader.symm.trans hMetadata

/-- Other metadata of the same body is valid if it keeps its own rules. -/
theorem validate_withMetadata (h : f.Canonical) (metadata : FrameMetadataV1) :
    (f.header.withMetadata metadata).validate = .ok () ↔
      (f.header.withMetadata metadata).metadata.Valid := by
  have hLayout := FrameHeaderV1.bodyLayout_of_validate h.header_valid
  have hKeys : f.header.messageVersion ≠ .v0 →
      f.header.loadedWritableCount = 0 ∧ f.header.loadedReadonlyCount = 0 := by
    intro hVersion
    rw [← h.version] at hVersion
    rw [← h.writableCount, ← h.readonlyCount]
    exact (tryNew_eq_ok.mp h.view).totals_eq_zero hVersion
  rcases FrameHeaderV1.validate_of_layout (hLayout.withMetadata metadata) hKeys with
    ⟨hValid, hOk⟩ | ⟨e, hInvalid, -, hError⟩
  · exact iff_of_true hOk hValid
  · refine iff_of_false ?_ hInvalid
    rw [hError]
    exact nofun

/-- A string with this body that decodes to such a header parses. -/
theorem parse_withMetadata (h : f.Canonical) {metadata : FrameMetadataV1} {bytes rest : Bytes}
    (hBody : bytes.drop frameHeaderBytes = (f.frame ++ rest).drop frameHeaderBytes)
    (hDecode : FrameHeaderV1.decode bytes = .ok (f.header.withMetadata metadata)) :
    ∃ f', ValidatedFrame.parse bytes = .ok f' := by
  obtain ⟨hLen, hFields, hValidate⟩ := FrameHeaderV1.decode_eq_ok.mp hDecode
  have hSplit : bytes = bytes.take 8 ++ (f.header.withMetadata metadata).fields.flatten ++
      bytes.drop frameHeaderBytes := by
    rw [← hFields, List.extract_eq_take_drop, List.append_assoc]
    have hDrop : bytes.drop frameHeaderBytes = (bytes.drop 8).drop (frameHeaderBytes - 8) := by
      rw [List.drop_drop]
      rfl
    rw [hDrop, List.take_append_drop, List.take_append_drop]
  have hEight : (bytes.take 8).length = 8 :=
    List.length_take_of_le (Nat.le_trans (show 8 ≤ frameHeaderBytes by decide) hLen)
  rw [hBody, h.drop_header] at hSplit
  -- the frame with the other header in front of the same body
  refine ⟨{ f with
    header := f.header.withMetadata metadata
    frame := bytes.take 8 ++ (f.header.withMetadata metadata).fields.flatten
      ++ (f.transactionBytes ++ f.loadedWritable ++ f.loadedReadonly)
      ++ zeros f.header.finalPaddingBytes.toNat }, parse_eq_ok.mpr ⟨?_, rest, ?_⟩⟩
  · exact ⟨hValidate, h.view, h.version, h.writableCount, h.readonlyCount, h.transactionLength,
      h.writableLength, h.readonlyLength, _, hEight, rfl⟩
  · refine hSplit.trans ?_
    simp only [List.append_assoc]

end ValidatedFrame.Canonical

/-- **Which changes of a header are accepted.** Of the 256 bytes in front of a body,
eight are free and 101 are metadata. A string with the body of an accepted one is
accepted exactly if all other bytes are as they were and the metadata that it holds
keeps its own rules; and then nothing else has changed about the frame. -/
theorem header_integrity {bytes bytes' : Bytes} {f : ValidatedFrame}
    (hParse : ValidatedFrame.parse bytes = .ok f)
    (hBody : bytes'.drop frameHeaderBytes = bytes.drop frameHeaderBytes) :
    ((∃ f', ValidatedFrame.parse bytes' = .ok f') ↔
      FrameHeaderV1.SameStructure bytes bytes' ∧
        ∃ flags, FrameHeaderV1.readFlags bytes' = .ok flags ∧
          (FrameHeaderV1.readMetadata bytes' f.header.messageVersion flags).Valid) ∧
    ∀ f', ValidatedFrame.parse bytes' = .ok f' →
      f'.transactionView = f.transactionView ∧ f'.loadedWritable = f.loadedWritable ∧
        f'.loadedReadonly = f.loadedReadonly ∧
        f'.header = f.header.withMetadata f'.header.metadata := by
  obtain ⟨h, rest, rfl⟩ := parse_eq_ok.mp hParse
  -- what does not change, for either direction
  have hSame : ∀ f', ValidatedFrame.parse bytes' = .ok f' → f'.Canonical ∧
      f'.transactionView = f.transactionView ∧ f'.loadedWritable = f.loadedWritable ∧
        f'.loadedReadonly = f.loadedReadonly ∧
        f'.header = f.header.withMetadata f'.header.metadata := by
    intro f' hParse'
    obtain ⟨h', rest', rfl⟩ := parse_eq_ok.mp hParse'
    obtain ⟨hView, hWritable, hReadonly⟩ := h.parts_eq h' hBody
    exact ⟨h', hView, hWritable, hReadonly, h.header_eq h' hBody⟩
  refine ⟨⟨?_, ?_⟩, fun f' hParse' => (hSame f' hParse').2⟩
  · rintro ⟨f', hParse'⟩
    obtain ⟨h', -, -, -, hHeader⟩ := hSame f' hParse'
    obtain ⟨-, rest', rfl⟩ := parse_eq_ok.mp hParse'
    obtain ⟨hFlags, hMetadata⟩ := FrameHeaderV1.read_of_decode (h'.decode rest')
    have hVersion : f'.header.messageVersion = f.header.messageVersion := by rw [hHeader]; rfl
    have hDecode := h'.decode rest'
    rw [hHeader] at hDecode
    refine ⟨FrameHeaderV1.sameStructure_of_decode (h.decode rest) hDecode, _, hFlags, ?_⟩
    rw [← hVersion, hMetadata, hHeader]
    refine (h.validate_withMetadata _).mp ?_
    rw [← hHeader]
    exact h'.header_valid
  · rintro ⟨hStructure, flags, hFlags, hValid⟩
    -- the body is not empty, so the header in front of it is there
    have hLen : frameHeaderBytes ≤ bytes'.length := by
      have hShort := congrArg List.length hBody
      have hNonempty := List.length_pos_iff.mpr (tryNew_eq_ok.mp h.view).nonempty
      rw [h.drop_header, List.length_drop, List.length_append] at hShort
      omega
    have hDecode := FrameHeaderV1.decode_of_sameStructure (h.decode rest) hLen hStructure hFlags
    have hValidate : (f.header.withMetadata (FrameHeaderV1.readMetadata bytes'
        f.header.messageVersion flags)).validate = .ok () :=
      (h.validate_withMetadata _).mpr hValid
    rw [hValidate] at hDecode
    exact h.parse_withMetadata hBody hDecode

/-- The sample frame in another slot is accepted, with another count of words it is not. -/
theorem header_integrity_sample :
    (∃ f', ValidatedFrame.parse ((sampleParts.frame sampleMetadata).set 112 7) = .ok f') ∧
    ¬ ∃ f', ValidatedFrame.parse ((sampleParts.frame sampleMetadata).set 88 0) = .ok f' := by
  have hParse := parse_of_canonical sampleParts_encodable.canonical []
  rw [List.append_nil] at hParse
  change ValidatedFrame.parse (sampleParts.frame sampleMetadata) = _ at hParse
  obtain ⟨hSlot, -⟩ := header_integrity hParse
    (List.drop_set_of_lt (show 112 < frameHeaderBytes by decide))
  obtain ⟨hWords, -⟩ := header_integrity hParse
    (List.drop_set_of_lt (show 88 < frameHeaderBytes by decide))
  refine ⟨hSlot.mpr ⟨?_, sampleMetadata.flags, by decide +kernel, ?_⟩, ?_⟩
  · intro i hStructural
    rw [List.getElem?_set_ne]
    rintro rfl
    unfold FrameHeaderV1.IsStructural at hStructural
    omega
  · have hMetadata : FrameHeaderV1.readMetadata ((sampleParts.frame sampleMetadata).set 112 7)
        .v0 sampleMetadata.flags = { sampleMetadata with slot := 775 } := by decide +kernel
    have hVersion : (sampleParts.validated sampleMetadata sampleV0.view).header.messageVersion =
        .v0 := rfl
    rw [hVersion, hMetadata]
    constructor <;> decide
  · intro hAccepted
    obtain ⟨hStructure, -⟩ := hWords.mp hAccepted
    have hByte := hStructure 88 (Or.inr (Or.inl (by decide)))
    revert hByte
    decide +kernel

end TxStream
