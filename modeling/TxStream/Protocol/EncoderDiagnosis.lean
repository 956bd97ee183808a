import TxStream.Protocol.EncoderVerdict
import TxStream.Run.Checks
import TxStream.Run.Validation

/-!
# What `encode_into` reports

`encode_into` has some twenty error paths: it converts every length, validates
the header it has just made up and parses the frame it has just written. Eight of
its errors can be reported, in a fixed order of precedence, and no other.

Main results:

* `FrameHeaderV1.validate_diagnoses` — the rules that `validate` still checks of a
  header with consistent lengths.
* `FrameEncoder.encodeInto_diagnosis` — the answer of `encode_into`.
-/

namespace TxStream

open Wire Rust Run

/-- The rules of `validate` about the metadata, in the order in which they are
checked. -/
def FrameMetadataV1.rules (metadata : FrameMetadataV1) : List (Rule FrameValidationError) := [
  ⟨metadata.flags.contains .naturalReady ≠ metadata.flags.contains .fecRecovered,
    .invalidReadiness⟩,
  ⟨metadata.producerEpoch ≠ 0 ∧ metadata.canonicalSequence ≠ 0 ∧ metadata.prefixGeneration ≠ 0
    ∧ metadata.contributingSourceMask ≠ 0, .invalidIdentity⟩,
  ⟨(¬ metadata.flags.contains .dataSetStartValid → metadata.dataSetStartingShredIndex = 0)
    ∧ (¬ metadata.flags.contains .dataSetEndValid →
      metadata.completedDataSetEndingShredIndexExclusive = 0)
    ∧ (metadata.flags.contains .dataSetEndValid → metadata.flags.contains .dataSetStartValid)
    ∧ (metadata.flags.contains .dataSetStartValid →
      metadata.dataSetStartingShredIndex ≤ metadata.firstDataShredIndex)
    ∧ metadata.firstDataShredIndex ≤ metadata.lastDataShredIndex
    ∧ (metadata.flags.contains .dataSetEndValid →
      metadata.lastDataShredIndex < metadata.completedDataSetEndingShredIndexExclusive),
    .invalidBoundaryValidity⟩,
  ⟨metadata.firstShredReceiveNs ≠ 0 ∧ metadata.firstShredReceiveNs ≤ metadata.transactionCompleteNs
    ∧ metadata.transactionCompleteNs ≤ metadata.lutResolutionCompleteNs
    ∧ metadata.lutResolutionCompleteNs ≤ metadata.publicationStartNs, .invalidTimestamps⟩]

/-- The rules of `encode_into` about what is to be encoded. -/
def FrameParts.agreement (parts : FrameParts) (metadata : FrameMetadataV1) :
    List (Rule FrameValidationError) := [
  ⟨∃ view, tryNew parts.transaction = .ok view, .transactionParse⟩,
  ⟨∀ view, tryNew parts.transaction = .ok view →
    view.messageVersion = metadata.messageVersion, .messageVersionMismatch⟩,
  ⟨∀ view, tryNew parts.transaction = .ok view →
    view.totalWritableLookupAccounts.toNat = parts.loadedWritable.length
      ∧ view.totalReadonlyLookupAccounts.toNat = parts.loadedReadonly.length,
    .loadedAddressCountMismatch⟩]

/-- The rules of `encode_into`, in the order of precedence of their errors. -/
def FrameParts.rules (parts : FrameParts) (metadata : FrameMetadataV1) (capacity : Nat) :
    List (Rule FrameValidationError) :=
  parts.agreement metadata ++ ⟨parts.frameLength ≤ capacity, .outputTooSmall⟩ :: metadata.rules

-- ---------------------------------------------------------------------------
-- The header
-- ---------------------------------------------------------------------------

namespace FrameHeaderV1

variable {h : FrameHeaderV1}

/-- The identity rule, as `validate` tests it. -/
theorem identity_iff : (h.producerEpoch = 0 ∨ h.canonicalSequence = 0 ∨ h.prefixGeneration = 0
      ∨ h.contributingSourceMask = 0) ↔
    ¬ (h.producerEpoch ≠ 0 ∧ h.canonicalSequence ≠ 0 ∧ h.prefixGeneration ≠ 0
      ∧ h.contributingSourceMask ≠ 0) := by
  simp only [not_and_or, not_not, ne_eq]

/-- **The rules that are left.** The checks of the lengths, in the middle of `validate`,
cannot fail when the header is consistent, so what it can report is about the metadata,
in the order of the source. -/
theorem validate_diagnoses (hLayout : h.BodyLayout)
    (hKeys : h.messageVersion ≠ .v0 → h.loadedWritableCount = 0 ∧ h.loadedReadonlyCount = 0) :
    Diagnoses h.metadata.rules h.validate := by
  have hCapacity := hLayout.capacity
  have hWords := hLayout.words
  have hPadding := hLayout.padding
  have hNonempty := hLayout.nonempty
  have hTransactionOffset := hLayout.transactionOffset
  have hWritableOffset := hLayout.writableOffset
  have hReadonlyOffset := hLayout.readonlyOffset
  have hBody := hLayout.bodyLength
  have hWritable := hLayout.writableLength
  have hReadonly := hLayout.readonlyLength
  have hSizes : frameHeaderBytes = 256 ∧ frameBodyCapacity = 12032 ∧ keyBytes = 32
      ∧ usizeSize = 2 ^ 64 := ⟨rfl, rfl, rfl, rfl⟩
  have hFits : h.bodyLength.toNat < 2 ^ 32 := h.bodyLength.toNat_lt
  have hWritableSize : h.loadedWritableCount.toNat * keyBytes < usizeSize := by
    have := h.loadedWritableLength.toNat_lt
    omega
  have hReadonlySize : h.loadedReadonlyCount.toNat * keyBytes < usizeSize := by
    have := h.loadedReadonlyLength.toNat_lt
    omega
  have hKeys' : ¬ ((h.messageVersion = .legacy ∨ h.messageVersion = .v1)
      ∧ (h.loadedWritableCount ≠ 0 ∨ h.loadedReadonlyCount ≠ 0)) := by
    rintro ⟨hVersion, hCounts⟩
    have hNotV0 : h.messageVersion ≠ .v0 := by
      rcases hVersion with hVersion | hVersion <;> rw [hVersion] <;> decide
    rcases hCounts with hCount | hCount
    · exact hCount (hKeys hNotV0).1
    · exact hCount (hKeys hNotV0).2
  unfold validate
  dsimp only
  -- readiness, identity and boundaries come before the lengths
  refine Diagnoses.check not_not.symm fun _ => ?_
  refine Diagnoses.check identity_iff fun _ => ?_
  refine Diagnoses.check (not_iff_comm.mp boundaries_iff).symm fun _ => ?_
  -- the lengths are consistent, so none of their checks stops the call
  rw [if_neg (by omega), checkedAdd_of_lt (by omega), okOr_some, ok_bind,
    checkedAdd_of_lt (by omega), okOr_some, ok_bind, if_neg (by omega), if_neg (by omega),
    checkedAdd_of_lt (by omega), okOr_some, ok_bind, checkedAdd_of_lt (by omega), okOr_some,
    ok_bind, checkedAdd_of_lt (by omega), okOr_some, ok_bind, if_neg (by omega),
    checkedMul_of_lt hWritableSize, okOr_some, ok_bind, checkedMul_of_lt hReadonlySize, okOr_some,
    ok_bind, if_neg (by omega), if_neg hKeys']
  exact Diagnoses.check (not_iff_comm.mp timestamps_iff).symm fun _ => Diagnoses.ok ()

end FrameHeaderV1

-- ---------------------------------------------------------------------------
-- The call
-- ---------------------------------------------------------------------------

namespace FrameEncoder

variable {metadata : FrameMetadataV1} {parts : FrameParts} {view : SanitizedTransactionView}

/-- What is checked once the transaction agrees with the metadata and the keys. -/
theorem encodeInto_diagnoses_of_view (output : Bytes) (hView : tryNew parts.transaction = .ok view)
    (hVersion : view.messageVersion = metadata.messageVersion)
    (hWritable : view.totalWritableLookupAccounts.toNat = parts.loadedWritable.length)
    (hReadonly : view.totalReadonlyLookupAccounts.toNat = parts.loadedReadonly.length) :
    Diagnoses (((⟨parts.frameLength ≤ output.length, .outputTooSmall⟩ : Rule FrameValidationError)
        :: metadata.rules).map (Rule.map Fault.err))
      (outcome (encodeInto metadata parts output)) := by
  have hHeader : Diagnoses metadata.rules (parts.header metadata).validate := by
    refine FrameHeaderV1.validate_diagnoses
      (FrameParts.header_layout metadata hView hWritable hReadonly) fun hNotV0 => ?_
    obtain ⟨hNoWritable, hNoReadonly⟩ := (tryNew_eq_ok.mp hView).totals_eq_zero
      (fun hV0 => hNotV0 (hVersion.symm.trans hV0))
    rw [hNoWritable] at hWritable
    rw [hNoReadonly] at hReadonly
    show UInt16.ofNat parts.loadedWritable.length = 0
      ∧ UInt16.ofNat parts.loadedReadonly.length = 0
    rw [← hWritable, ← hReadonly]
    exact ⟨rfl, rfl⟩
  -- two checks are left, the buffer and the header
  have hCall : outcome (encodeInto metadata parts output) =
      if output.length < parts.frameLength then .error (.err .outputTooSmall) else
        (lift (parts.header metadata).validate).map fun _ => parts.frameLength := by
    rw [encodeInto_eq output hView hVersion hWritable hReadonly, apply_ite outcome]
    cases (parts.header metadata).validate <;> rfl
  rw [hCall, List.map_cons]
  refine Diagnoses.check Nat.not_le.symm fun _ => ?_
  exact Diagnoses.map (hHeader.mapError Fault.err) fun _ => parts.frameLength

/-- `encode_into` checks its rules one by one: whether there is a transaction, whether
the metadata and the keys agree with it, and then what remains of a call with such
parts. -/
theorem encodeInto_diagnoses (metadata : FrameMetadataV1) (parts : FrameParts) (output : Bytes) :
    Diagnoses ((parts.rules metadata output.length).map (Rule.map Fault.err))
      (outcome (encodeInto metadata parts output)) := by
  have hStop : ∀ {e : FrameValidationError}, FirstBroken (parts.rules metadata output.length) e →
      outcome (encodeInto metadata parts output) = .error (.err e) →
      Diagnoses ((parts.rules metadata output.length).map (Rule.map Fault.err))
        (outcome (encodeInto metadata parts output)) :=
    fun hBroken hAnswer => Or.inr ⟨_, hBroken.map Fault.err, hAnswer⟩
  cases hView : tryNew parts.transaction with
  | error e =>
    refine hStop (.here ?_) ?_
    · rintro ⟨view, hOk⟩
      exact nomatch hOk.symm.trans hView
    · rw [encodeInto, run_bind, hView]
      rfl
  | ok view =>
    -- the rules speak of every accepted view, and there is one
    have hOnly : ∀ other, tryNew parts.transaction = .ok other → other = view := fun other hOther =>
      Except.ok.inj (hOther.symm.trans hView)
    by_cases hVersion : view.messageVersion = metadata.messageVersion
    · by_cases hCounts : view.totalWritableLookupAccounts.toNat = parts.loadedWritable.length
          ∧ view.totalReadonlyLookupAccounts.toNat = parts.loadedReadonly.length
      · rw [FrameParts.rules, List.map_append]
        refine Diagnoses.prepend (kept_map.mpr ?_)
          (encodeInto_diagnoses_of_view output hView hVersion hCounts.1 hCounts.2)
        refine kept_cons.mpr ⟨⟨view, hView⟩, kept_cons.mpr ⟨?_, kept_cons.mpr ⟨?_, kept_nil⟩⟩⟩
        · intro other hOther
          exact hOnly other hOther ▸ hVersion
        · intro other hOther
          exact hOnly other hOther ▸ hCounts
      · refine hStop (.later ⟨view, hView⟩ (.later ?_ (.here fun hKept => hCounts (hKept view hView))))
          ?_
        · intro other hOther
          exact hOnly other hOther ▸ hVersion
        · rw [encodeInto, run_bind, hView]
          simp only [Except.mapError, lift_ok]
          rw [if_neg (not_not.mpr hVersion), if_pos (not_and_or.mp hCounts)]
          rfl
    · refine hStop (.later ⟨view, hView⟩ (.here fun hKept => hVersion (hKept view hView))) ?_
      rw [encodeInto, run_bind, hView]
      simp only [Except.mapError, lift_ok]
      rw [if_pos hVersion]
      rfl

/-- A buffer that was long enough can be longer. -/
theorem firstBroken_of_le {e : FrameValidationError} {capacity capacity' : Nat}
    (hLe : capacity ≤ capacity') (hNe : e ≠ .outputTooSmall)
    (h : FirstBroken (parts.rules metadata capacity) e) :
    FirstBroken (parts.rules metadata capacity') e := by
  rw [FrameParts.rules, firstBroken_append, firstBroken_cons] at h ⊢
  rcases h with hAgreement | ⟨hAgreement, ⟨-, hSmall⟩ | ⟨hFits, hRest⟩⟩
  · exact Or.inl hAgreement
  · exact absurd hSmall hNe
  · exact Or.inr ⟨hAgreement, Or.inr ⟨le_trans hFits hLe, hRest⟩⟩

/-- The rules that held with a buffer hold with a longer one. -/
theorem kept_of_le {capacity capacity' : Nat} (hLe : capacity ≤ capacity')
    (h : Kept (parts.rules metadata capacity)) : Kept (parts.rules metadata capacity') := by
  rw [FrameParts.rules, kept_append, kept_cons] at h ⊢
  exact ⟨h.1, le_trans h.2.1 hLe, h.2.2⟩

/-- The frame of a transaction that agrees with its keys fits a slot. -/
theorem frameLength_le_slot (h : Kept (parts.agreement metadata)) :
    parts.frameLength ≤ slotStrideBytes := by
  obtain ⟨⟨view, hView⟩, hRest⟩ := kept_cons.mp h
  obtain ⟨hWritable, hReadonly⟩ := (kept_cons.mp (kept_cons.mp hRest).2).1 view hView
  have hBody := FrameParts.bodyLength_le hView hWritable hReadonly
  have hLength : parts.frameLength = (frameHeaderBytes + parts.bodyLength + 7) / 8 * 8 := rfl
  have hSizes : frameHeaderBytes = 256 ∧ slotStrideBytes = 12288 := ⟨rfl, rfl⟩
  omega

/-- The errors of the first three rules. -/
theorem agreement_error {e : FrameValidationError} (h : FirstBroken (parts.agreement metadata) e) :
    e ∈ [FrameValidationError.transactionParse, .messageVersionMismatch,
      .loadedAddressCountMismatch] :=
  h.error_mem

/-- The errors of the metadata. -/
theorem metadata_error {e : FrameValidationError} (h : FirstBroken metadata.rules e) :
    e ∈ [FrameValidationError.invalidReadiness, .invalidIdentity, .invalidBoundaryValidity,
      .invalidTimestamps] :=
  h.error_mem

/-- What `encode_into` returns if it succeeds. -/
theorem outcome_ok {output : Bytes} {n : Nat}
    (h : outcome (encodeInto metadata parts output) = .ok n) : n = parts.frameLength := by
  cases hCall : encodeInto metadata parts output with
  | ok m output' =>
    rw [hCall] at h
    obtain rfl := Except.ok.inj h
    exact (eq_of_encodeInto_ok hCall).1
  | error fault output' =>
    rw [hCall] at h
    cases h

/-- The errors of a call are the reports of the first broken rule. -/
theorem outcome_error_iff {output : Bytes} (fault : Fault FrameValidationError) :
    outcome (encodeInto metadata parts output) = .error fault ↔
      ∃ e, fault = .err e ∧ FirstBroken (parts.rules metadata output.length) e := by
  rw [(encodeInto_diagnoses metadata parts output).error_iff, firstBroken_map]
  exact exists_congr fun e => and_comm.trans (and_congr_left' eq_comm)

/-- A call succeeds when all rules are kept, with the length of the frame. -/
theorem outcome_ok_iff {output : Bytes} (n : Nat) :
    outcome (encodeInto metadata parts output) = .ok n ↔
      n = parts.frameLength ∧ Kept (parts.rules metadata output.length) := by
  have hKept := (encodeInto_diagnoses metadata parts output).ok_iff
  rw [kept_map] at hKept
  constructor
  · exact fun h => ⟨outcome_ok h, hKept.mp ⟨n, h⟩⟩
  · rintro ⟨rfl, hRules⟩
    obtain ⟨n, h⟩ := hKept.mpr hRules
    rw [h, outcome_ok h]

/-- **What `encode_into` reports.** It fails with the first of its rules that is
broken, and only then, whatever the buffer contains. So it never reports that the
frame is too large for a slot, or anything about the lengths of the header that it
makes up; a buffer of the size of a slot is never too small; and a longer buffer
changes no other answer than that the buffer is too small. -/
theorem encodeInto_diagnosis (metadata : FrameMetadataV1) (parts : FrameParts) (output : Bytes) :
    (∀ fault, outcome (encodeInto metadata parts output) = .error fault ↔
      ∃ e, fault = .err e ∧ FirstBroken (parts.rules metadata output.length) e) ∧
    (∀ n, outcome (encodeInto metadata parts output) = .ok n ↔
      n = parts.frameLength ∧ Kept (parts.rules metadata output.length)) ∧
    (∀ e, outcome (encodeInto metadata parts output) = .error (.err e) →
      e ∈ [FrameValidationError.transactionParse, .messageVersionMismatch,
        .loadedAddressCountMismatch, .outputTooSmall, .invalidReadiness, .invalidIdentity,
        .invalidBoundaryValidity, .invalidTimestamps]) ∧
    (slotStrideBytes ≤ output.length →
      outcome (encodeInto metadata parts output) ≠ .error (.err .outputTooSmall)) ∧
    ∀ longer : Bytes, output.length ≤ longer.length →
      outcome (encodeInto metadata parts output) ≠ .error (.err .outputTooSmall) →
      outcome (encodeInto metadata parts longer) = outcome (encodeInto metadata parts output) := by
  refine ⟨outcome_error_iff, outcome_ok_iff, ?_, ?_, ?_⟩
  · intro e hReported
    obtain ⟨e', hEq, hBroken⟩ := (outcome_error_iff _).mp hReported
    obtain rfl := Fault.err.inj hEq
    exact hBroken.error_mem
  · intro hSlot hSmall
    obtain ⟨e, hEq, hBroken⟩ := (outcome_error_iff _).mp hSmall
    obtain rfl := Fault.err.inj hEq
    rw [FrameParts.rules, firstBroken_append, firstBroken_cons] at hBroken
    rcases hBroken with hFirst | ⟨hAgreement, ⟨hLong, -⟩ | ⟨-, hMetadata⟩⟩
    · exact absurd (agreement_error hFirst) (by decide)
    · exact hLong (le_trans (frameLength_le_slot hAgreement) hSlot)
    · exact absurd (metadata_error hMetadata) (by decide)
  · intro longer hLe hFits
    cases hAnswer : outcome (encodeInto metadata parts output) with
    | ok n =>
      obtain ⟨hLength, hKept⟩ := (outcome_ok_iff n).mp hAnswer
      exact (outcome_ok_iff n).mpr ⟨hLength, kept_of_le hLe hKept⟩
    | error fault =>
      obtain ⟨e, rfl, hBroken⟩ := (outcome_error_iff fault).mp hAnswer
      have hNe : e ≠ .outputTooSmall := by
        rintro rfl
        exact hFits hAnswer
      exact (outcome_error_iff _).mpr ⟨e, rfl, firstBroken_of_le hLe hNe hBroken⟩

/-- Without its loaded keys the sample does not agree with its transaction. That
is reported, and not the missing readiness or the empty buffer. -/
theorem encodeInto_diagnosis_sample :
    outcome (encodeInto { sampleMetadata with flags := .lutResolved }
      { sampleParts with loadedWritable := [] } []) = .error (.err .loadedAddressCountMismatch) := by
  obtain ⟨hError, -⟩ := encodeInto_diagnosis { sampleMetadata with flags := .lutResolved }
    { sampleParts with loadedWritable := [] } []
  refine (hError _).mpr ⟨_, rfl, .later ⟨_, sampleParts_encodable.accepted⟩ (.later ?_ (.here ?_))⟩
  · intro view hView
    obtain rfl := Except.ok.inj (sampleParts_encodable.accepted.symm.trans hView)
    exact sampleParts_encodable.version
  · intro hKept
    exact absurd (hKept _ sampleParts_encodable.accepted).1 (by decide)

end FrameEncoder

end TxStream
