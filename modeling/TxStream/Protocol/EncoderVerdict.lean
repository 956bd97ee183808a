import TxStream.Protocol.FrameCodec

/-!
# The verdict of `encode_into`

`encode_into` overwrites its buffer before its last check. The check parses the
frame that has just been written, and it cannot fail: what is left to go wrong
once the transaction agrees with the metadata and the keys is the buffer, which
is looked at before anything is written, and the metadata itself.

Main results:

* `FrameHeaderV1.validate_of_layout` — what `validate` still asks of a header
  with consistent lengths.
* `FrameEncoder.encodeInto_atomic` — when `encode_into` succeeds, and that it is
  all or nothing.
-/

namespace TxStream

open Wire Rust

-- ---------------------------------------------------------------------------
-- The rules of the metadata
-- ---------------------------------------------------------------------------

/-- The rules of `validate` that are about the metadata alone: how the frame
became ready, its identity, its data-set boundaries and its timestamps. -/
structure FrameMetadataV1.Valid (metadata : FrameMetadataV1) : Prop where
  readiness :
    metadata.flags.contains .naturalReady ≠ metadata.flags.contains .fecRecovered
  identity : metadata.producerEpoch ≠ 0 ∧ metadata.canonicalSequence ≠ 0
    ∧ metadata.prefixGeneration ≠ 0 ∧ metadata.contributingSourceMask ≠ 0
  start_zero : ¬ metadata.flags.contains .dataSetStartValid →
    metadata.dataSetStartingShredIndex = 0
  end_zero : ¬ metadata.flags.contains .dataSetEndValid →
    metadata.completedDataSetEndingShredIndexExclusive = 0
  start_of_end : metadata.flags.contains .dataSetEndValid →
    metadata.flags.contains .dataSetStartValid
  start_le : metadata.flags.contains .dataSetStartValid →
    metadata.dataSetStartingShredIndex ≤ metadata.firstDataShredIndex
  first_le_last : metadata.firstDataShredIndex ≤ metadata.lastDataShredIndex
  last_lt_end : metadata.flags.contains .dataSetEndValid →
    metadata.lastDataShredIndex < metadata.completedDataSetEndingShredIndexExclusive
  first_shred_ne : metadata.firstShredReceiveNs ≠ 0
  complete_ge : metadata.firstShredReceiveNs ≤ metadata.transactionCompleteNs
  resolution_ge : metadata.transactionCompleteNs ≤ metadata.lutResolutionCompleteNs
  publication_ge : metadata.lutResolutionCompleteNs ≤ metadata.publicationStartNs

/-- The errors that `validate` has for these rules. -/
def FrameValidationError.OfMetadata (e : FrameValidationError) : Prop :=
  e = .invalidReadiness ∨ e = .invalidIdentity ∨ e = .invalidBoundaryValidity
    ∨ e = .invalidTimestamps

namespace FrameHeaderV1

variable {h : FrameHeaderV1}

/-- The boundary rules, as `validate` tests them. -/
theorem boundaries_iff : ¬ ((¬ h.flags.contains .dataSetStartValid ∧ h.dataSetStartingShredIndex ≠ 0)
      ∨ (¬ h.flags.contains .dataSetEndValid ∧ h.completedDataSetEndingShredIndexExclusive ≠ 0)
      ∨ (h.flags.contains .dataSetEndValid ∧ ¬ h.flags.contains .dataSetStartValid)
      ∨ (h.flags.contains .dataSetStartValid ∧
        h.dataSetStartingShredIndex > h.firstDataShredIndex)
      ∨ h.firstDataShredIndex > h.lastDataShredIndex
      ∨ (h.flags.contains .dataSetEndValid ∧
        h.lastDataShredIndex ≥ h.completedDataSetEndingShredIndexExclusive)) ↔
    (¬ h.flags.contains .dataSetStartValid → h.dataSetStartingShredIndex = 0)
      ∧ (¬ h.flags.contains .dataSetEndValid → h.completedDataSetEndingShredIndexExclusive = 0)
      ∧ (h.flags.contains .dataSetEndValid → h.flags.contains .dataSetStartValid)
      ∧ (h.flags.contains .dataSetStartValid →
        h.dataSetStartingShredIndex ≤ h.firstDataShredIndex)
      ∧ h.firstDataShredIndex ≤ h.lastDataShredIndex
      ∧ (h.flags.contains .dataSetEndValid →
        h.lastDataShredIndex < h.completedDataSetEndingShredIndexExclusive) := by
  simp only [not_or, not_and, not_not, ne_eq, gt_iff_lt, ge_iff_le, UInt32.not_lt, UInt32.not_le]

/-- The timestamp rules, as `validate` tests them. -/
theorem timestamps_iff : ¬ (h.firstShredReceiveNs = 0
      ∨ h.firstShredReceiveNs > h.transactionCompleteNs
      ∨ h.transactionCompleteNs > h.lutResolutionCompleteNs
      ∨ h.lutResolutionCompleteNs > h.publicationStartNs) ↔
    h.firstShredReceiveNs ≠ 0 ∧ h.firstShredReceiveNs ≤ h.transactionCompleteNs
      ∧ h.transactionCompleteNs ≤ h.lutResolutionCompleteNs
      ∧ h.lutResolutionCompleteNs ≤ h.publicationStartNs := by
  simp only [not_or, ne_eq, gt_iff_lt, UInt64.not_lt]

/-- **What is left of `validate`.** A header whose lengths are consistent, and
that loads keys for v0 alone, is valid if its metadata is, and otherwise refused
for its metadata. -/
theorem validate_of_layout (hLayout : h.BodyLayout)
    (hKeys : h.messageVersion ≠ .v0 → h.loadedWritableCount = 0 ∧ h.loadedReadonlyCount = 0) :
    (h.metadata.Valid ∧ h.validate = .ok ()) ∨
      ∃ e : FrameValidationError, ¬ h.metadata.Valid ∧ e.OfMetadata ∧ h.validate = .error e := by
  have hCapacity := hLayout.capacity
  have hWords := hLayout.words
  have hPadding := hLayout.padding
  have hNonempty := hLayout.nonempty
  have hTransactionOffset := hLayout.transactionOffset
  have hWritableOffset := hLayout.writableOffset
  have hReadonlyOffset := hLayout.readonlyOffset
  have hBody := hLayout.bodyLength
  have hWritable := hLayout.writableLength
  have hReadonly := hLayout.readonlyLength
  have hSizes : frameHeaderBytes = 256 ∧ frameBodyCapacity = 12032 ∧ keyBytes = 32
      ∧ usizeSize = 2 ^ 64 := ⟨rfl, rfl, rfl, rfl⟩
  have hFits : h.bodyLength.toNat < 2 ^ 32 := h.bodyLength.toNat_lt
  unfold validate
  dsimp only
  -- the checks of the metadata that come first
  by_cases hReadiness : h.flags.contains .naturalReady = h.flags.contains .fecRecovered
  · rw [if_pos hReadiness]
    exact Or.inr ⟨_, fun hValid => hValid.readiness hReadiness, Or.inl rfl, rfl⟩
  rw [if_neg hReadiness]
  by_cases hIdentity : h.producerEpoch = 0 ∨ h.canonicalSequence = 0 ∨ h.prefixGeneration = 0
      ∨ h.contributingSourceMask = 0
  · rw [if_pos hIdentity]
    refine Or.inr ⟨_, fun hValid => ?_, Or.inr (Or.inl rfl), rfl⟩
    obtain ⟨hEpoch, hSequence, hGeneration, hMask⟩ := hValid.identity
    rcases hIdentity with hZero | hZero | hZero | hZero
    · exact hEpoch hZero
    · exact hSequence hZero
    · exact hGeneration hZero
    · exact hMask hZero
  rw [if_neg hIdentity]
  by_cases hBoundaries : (¬ h.flags.contains .dataSetStartValid ∧ h.dataSetStartingShredIndex ≠ 0)
      ∨ (¬ h.flags.contains .dataSetEndValid ∧ h.completedDataSetEndingShredIndexExclusive ≠ 0)
      ∨ (h.flags.contains .dataSetEndValid ∧ ¬ h.flags.contains .dataSetStartValid)
      ∨ (h.flags.contains .dataSetStartValid ∧
        h.dataSetStartingShredIndex > h.firstDataShredIndex)
      ∨ h.firstDataShredIndex > h.lastDataShredIndex
      ∨ (h.flags.contains .dataSetEndValid ∧
        h.lastDataShredIndex ≥ h.completedDataSetEndingShredIndexExclusive)
  · rw [if_pos hBoundaries]
    refine Or.inr ⟨_, fun hValid => ?_, Or.inr (Or.inr (Or.inl rfl)), rfl⟩
    exact boundaries_iff.mpr ⟨hValid.start_zero, hValid.end_zero, hValid.start_of_end,
      hValid.start_le, hValid.first_le_last, hValid.last_lt_end⟩ hBoundaries
  rw [if_neg hBoundaries]
  -- the checks of the lengths, which cannot fail
  have hKeys' : ¬ ((h.messageVersion = .legacy ∨ h.messageVersion = .v1)
      ∧ (h.loadedWritableCount ≠ 0 ∨ h.loadedReadonlyCount ≠ 0)) := by
    rintro ⟨hVersion, hCounts⟩
    have hNotV0 : h.messageVersion ≠ .v0 := by
      rcases hVersion with hVersion | hVersion <;> rw [hVersion] <;> decide
    rcases hCounts with hCount | hCount
    · exact hCount (hKeys hNotV0).1
    · exact hCount (hKeys hNotV0).2
  have hWritableSize : h.loadedWritableCount.toNat * keyBytes < usizeSize := by
    have := h.loadedWritableLength.toNat_lt
    omega
  have hReadonlySize : h.loadedReadonlyCount.toNat * keyBytes < usizeSize := by
    have := h.loadedReadonlyLength.toNat_lt
    omega
  rw [if_neg (by omega), checkedAdd_of_lt (by omega), okOr_some, ok_bind,
    checkedAdd_of_lt (by omega), okOr_some, ok_bind, if_neg (by omega), if_neg (by omega),
    checkedAdd_of_lt (by omega), okOr_some, ok_bind, checkedAdd_of_lt (by omega), okOr_some,
    ok_bind, checkedAdd_of_lt (by omega), okOr_some, ok_bind, if_neg (by omega),
    checkedMul_of_lt hWritableSize, okOr_some, ok_bind, checkedMul_of_lt hReadonlySize, okOr_some,
    ok_bind, if_neg (by omega), if_neg hKeys']
  -- the timestamps come last
  by_cases hTimestamps : h.firstShredReceiveNs = 0
      ∨ h.firstShredReceiveNs > h.transactionCompleteNs
      ∨ h.transactionCompleteNs > h.lutResolutionCompleteNs
      ∨ h.lutResolutionCompleteNs > h.publicationStartNs
  · rw [if_pos hTimestamps]
    refine Or.inr ⟨_, fun hValid => ?_, Or.inr (Or.inr (Or.inr rfl)), rfl⟩
    exact timestamps_iff.mpr ⟨hValid.first_shred_ne, hValid.complete_ge, hValid.resolution_ge,
      hValid.publication_ge⟩ hTimestamps
  · rw [if_neg hTimestamps]
    obtain ⟨hStartZero, hEndZero, hStartOfEnd, hStartLe, hFirstLe, hLastLt⟩ :=
      boundaries_iff.mp hBoundaries
    obtain ⟨hShred, hComplete, hResolution, hPublication⟩ := timestamps_iff.mp hTimestamps
    simp only [not_or] at hIdentity
    exact Or.inl ⟨⟨hReadiness, hIdentity, hStartZero, hEndZero, hStartOfEnd, hStartLe, hFirstLe,
      hLastLt, hShred, hComplete, hResolution, hPublication⟩, rfl⟩

end FrameHeaderV1

-- ---------------------------------------------------------------------------
-- The header of given parts
-- ---------------------------------------------------------------------------

/-- Only a v0 transaction loads keys. -/
theorem Accepted.totals_eq_zero {bytes : Bytes} {view : SanitizedTransactionView}
    (h : Accepted bytes view) (hVersion : view.messageVersion ≠ .v0) :
    view.totalWritableLookupAccounts = 0 ∧ view.totalReadonlyLookupAccounts = 0 := by
  cases h with
  | packet tx hValid _ _ _ _ =>
    have hLegacy : tx.messageVersion = .legacy := by
      have hNotV1 := hValid.version_ne
      have hNotV0 : tx.messageVersion ≠ .v0 := hVersion
      cases hCase : tx.messageVersion with
      | legacy => rfl
      | v0 => exact absurd hCase hNotV0
      | v1 => exact absurd hCase hNotV1
    have hNone := hValid.lookups_legacy hLegacy
    show UInt16.ofNat (writableSum tx.lookups) = 0 ∧ UInt16.ofNat (readonlySum tx.lookups) = 0
    rw [hNone]
    exact ⟨rfl, rfl⟩
  | v1 tx _ _ _ _ => exact ⟨rfl, rfl⟩

/-- The empty string is no transaction. -/
theorem Accepted.nonempty {bytes : Bytes} {view : SanitizedTransactionView}
    (h : Accepted bytes view) : bytes ≠ [] := by
  rintro rfl
  have hParse := tryNew_eq_ok.mpr h
  rw [tryNew_nil] at hParse
  cases hParse

namespace FrameParts

variable {parts : FrameParts} {metadata : FrameMetadataV1} {view : SanitizedTransactionView}

/-- The lengths of the header of accepted parts are consistent. -/
theorem header_layout (metadata : FrameMetadataV1) (hView : tryNew parts.transaction = .ok view)
    (hWritable : view.totalWritableLookupAccounts.toNat = parts.loadedWritable.length)
    (hReadonly : view.totalReadonlyLookupAccounts.toNat = parts.loadedReadonly.length) :
    (parts.header metadata).BodyLayout := by
  -- the parts are small, so the header says what they are; its equations are then arithmetic
  have hBody := bodyLength_le hView hWritable hReadonly
  obtain ⟨hBodyLength, hTransaction, hWritableLength, hReadonlyLength, hWords, hPadding⟩ :=
    header_toNat metadata hBody
  have hSum : parts.bodyLength = parts.transaction.length
      + parts.loadedWritable.length * keyBytes + parts.loadedReadonly.length * keyBytes := rfl
  have hLength : parts.frameLength = (frameHeaderBytes + parts.bodyLength + 7) / 8 * 8 := rfl
  have hSizes : frameHeaderBytes = 256 ∧ frameBodyCapacity = 12032 := ⟨rfl, rfl⟩
  have hCounts : parts.loadedWritable.length ≤ 9392 ∧ parts.loadedReadonly.length ≤ 9392 := by
    rw [show keyBytes = 32 from rfl] at hSum
    omega
  rw [length_writableBytes] at hWritableLength
  rw [length_readonlyBytes] at hReadonlyLength
  have hWritableOffset : (parts.header metadata).loadedWritableOffset.toNat =
      parts.transaction.length := hTransaction
  have hReadonlyOffset : (parts.header metadata).loadedReadonlyOffset.toNat =
      parts.transaction.length + parts.loadedWritable.length * keyBytes :=
    UInt32.toNat_ofNat_of_lt' (by unfold UInt32.size; omega)
  have hWritableCount : (parts.header metadata).loadedWritableCount.toNat =
      parts.loadedWritable.length :=
    UInt16.toNat_ofNat_of_lt' (by unfold UInt16.size; omega)
  have hReadonlyCount : (parts.header metadata).loadedReadonlyCount.toNat =
      parts.loadedReadonly.length :=
    UInt16.toNat_ofNat_of_lt' (by unfold UInt16.size; omega)
  have hNonempty := List.length_pos_iff.mpr (tryNew_eq_ok.mp hView).nonempty
  constructor
  · omega
  · omega
  · omega
  · omega
  · rfl
  · rw [hWritableOffset, hTransaction]
  · rw [hReadonlyOffset, hTransaction, hWritableLength]
  · rw [hBodyLength, hTransaction, hWritableLength, hReadonlyLength, hSum]
  · rw [hWritableLength, hWritableCount]
  · rw [hReadonlyLength, hReadonlyCount]

/-- The header of accepted parts is valid if the metadata is, and otherwise
refused for the metadata. -/
theorem validate_header (hView : tryNew parts.transaction = .ok view)
    (hVersion : view.messageVersion = metadata.messageVersion)
    (hWritable : view.totalWritableLookupAccounts.toNat = parts.loadedWritable.length)
    (hReadonly : view.totalReadonlyLookupAccounts.toNat = parts.loadedReadonly.length) :
    (metadata.Valid ∧ (parts.header metadata).validate = .ok ()) ∨
      ∃ e : FrameValidationError, ¬ metadata.Valid ∧ e.OfMetadata ∧
        (parts.header metadata).validate = .error e := by
  refine FrameHeaderV1.validate_of_layout (header_layout metadata hView hWritable hReadonly) ?_
  intro hNotV0
  -- without lookups no keys are loaded, and the parts have none
  obtain ⟨hNoWritable, hNoReadonly⟩ := (tryNew_eq_ok.mp hView).totals_eq_zero
    (fun hV0 => hNotV0 (hVersion.symm.trans hV0))
  rw [hNoWritable] at hWritable
  rw [hNoReadonly] at hReadonly
  show UInt16.ofNat parts.loadedWritable.length = 0 ∧ UInt16.ofNat parts.loadedReadonly.length = 0
  rw [← hWritable, ← hReadonly]
  exact ⟨rfl, rfl⟩

end FrameParts

-- ---------------------------------------------------------------------------
-- The verdict
-- ---------------------------------------------------------------------------

namespace FrameEncoder

/-- **All or nothing.** A failed call of `encode_into` leaves every byte of its
output as it was, a successful one every byte behind the frame. The parse at its
end never fails: it succeeds exactly when the transaction is accepted, agrees
with the version of the metadata and with the numbers of loaded keys, the output
holds the padded frame, and the metadata keeps its own rules. -/
theorem encodeInto_atomic (metadata : FrameMetadataV1) (parts : FrameParts) (output : Bytes) :
    (∀ fault output', encodeInto metadata parts output = .error fault output' →
      output' = output ∧ fault ≠ .panic) ∧
    (∀ n output', encodeInto metadata parts output = .ok n output' →
      n = parts.frameLength ∧ n ≤ output.length ∧ output'.length = output.length ∧
        output'.drop n = output.drop n) ∧
    (∀ view, parts.Encodable metadata view → parts.frameLength ≤ output.length →
      ∃ output' frame, encodeInto metadata parts output = .ok parts.frameLength output' ∧
        ValidatedFrame.parse (output'.take parts.frameLength) = .ok frame) ∧
    ((∃ n output', encodeInto metadata parts output = .ok n output') ↔
      ∃ view, tryNew parts.transaction = .ok view ∧
        view.messageVersion = metadata.messageVersion ∧
        view.totalWritableLookupAccounts.toNat = parts.loadedWritable.length ∧
        view.totalReadonlyLookupAccounts.toNat = parts.loadedReadonly.length ∧
        parts.frameLength ≤ output.length ∧ metadata.Valid) := by
  -- what is written once nothing is left to fail
  have hWrites : ∀ view, parts.Encodable metadata view → parts.frameLength ≤ output.length →
      encodeInto metadata parts output =
        .ok parts.frameLength (parts.frame metadata ++ output.drop parts.frameLength) := by
    intro view h hFits
    rw [encodeInto_eq output h.accepted h.version h.writableCount h.readonlyCount,
      if_neg (not_lt.mpr hFits), h.header_valid]
  refine ⟨?_, ?_, ?_, ?_⟩
  · intro fault output' hError
    rcases encodeInto_cases metadata parts output with ⟨view, -, -, hOk⟩ | ⟨e, hCase⟩
    · rw [hOk] at hError
      cases hError
    · rw [hCase] at hError
      obtain ⟨rfl, rfl⟩ := EStateM.Result.error.inj hError
      exact ⟨rfl, fun hPanic => nomatch hPanic⟩
  · intro n output' hOk'
    rcases encodeInto_cases metadata parts output with ⟨view, hEncodable, hFits, hOk⟩ | ⟨e, hCase⟩
    · rw [hOk] at hOk'
      obtain ⟨rfl, rfl⟩ := EStateM.Result.ok.inj hOk'
      have hLength := FrameParts.length_frame metadata hEncodable
      refine ⟨rfl, hFits, ?_, List.drop_left' hLength⟩
      rw [List.length_append, List.length_drop, hLength]
      omega
    · rw [hCase] at hOk'
      cases hOk'
  · intro view hEncodable hFits
    have hLength := FrameParts.length_frame metadata hEncodable
    refine ⟨_, parts.validated metadata view, hWrites view hEncodable hFits, ?_⟩
    rw [List.take_left' hLength, ← List.append_nil (parts.frame metadata)]
    exact parse_of_canonical hEncodable.canonical []
  · constructor
    · rintro ⟨n, output', hOk'⟩
      rcases encodeInto_cases metadata parts output with ⟨view, hEncodable, hFits, -⟩ | ⟨e, hCase⟩
      · refine ⟨view, hEncodable.accepted, hEncodable.version, hEncodable.writableCount,
          hEncodable.readonlyCount, hFits, ?_⟩
        -- a valid header has valid metadata, since the rest of it always holds
        rcases FrameParts.validate_header hEncodable.accepted hEncodable.version
            hEncodable.writableCount hEncodable.readonlyCount with ⟨hValid, -⟩ | ⟨e, -, -, hError⟩
        · exact hValid
        · rw [hEncodable.header_valid] at hError
          cases hError
      · rw [hCase] at hOk'
        cases hOk'
    · rintro ⟨view, hView, hVersion, hWritable, hReadonly, hFits, hValid⟩
      rcases FrameParts.validate_header hView hVersion hWritable hReadonly with
        ⟨-, hHeader⟩ | ⟨e, hInvalid, -, -⟩
      · exact ⟨_, _, hWrites view ⟨hView, hVersion, hWritable, hReadonly, hHeader⟩ hFits⟩
      · exact absurd hValid hInvalid

/-- The sample fits a slot and not a buffer of 535 bytes. -/
theorem encodeInto_atomic_sample :
    (∃ n output', encodeInto sampleMetadata sampleParts (List.replicate 12288 0xff) =
        .ok n output' ∧ n = sampleParts.frameLength ∧
      output'.drop n = (List.replicate 12288 0xff).drop n) ∧
    ¬ ∃ n output', encodeInto sampleMetadata sampleParts (List.replicate 535 0xff) =
      .ok n output' := by
  have hLength : sampleParts.frameLength = 536 := by decide +kernel
  obtain ⟨-, hOk, -, hIff⟩ := encodeInto_atomic sampleMetadata sampleParts (List.replicate 12288 0xff)
  obtain ⟨-, -, -, hIff'⟩ := encodeInto_atomic sampleMetadata sampleParts (List.replicate 535 0xff)
  refine ⟨?_, ?_⟩
  · obtain ⟨n, output', hEncode⟩ := hIff.mpr ⟨_, sampleParts_encodable.accepted,
      sampleParts_encodable.version, sampleParts_encodable.writableCount,
      sampleParts_encodable.readonlyCount, by rw [hLength, List.length_replicate]; decide,
      by constructor <;> decide⟩
    exact ⟨n, output', hEncode, (hOk n output' hEncode).1, (hOk n output' hEncode).2.2.2⟩
  · intro hEncode
    obtain ⟨view, -, -, -, -, hFits, -⟩ := hIff'.mp hEncode
    rw [hLength, List.length_replicate] at hFits
    exact absurd hFits (by decide)

end FrameEncoder

end TxStream
