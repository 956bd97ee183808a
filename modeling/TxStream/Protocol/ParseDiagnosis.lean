import TxStream.Protocol.EncoderDiagnosis
import TxStream.Protocol.Truncation

/-!
# What `parse` reports

`parse` has some thirty error paths. They are the breaches of 23 rules, in a fixed
order of precedence: of the format of a header, of the numbers in it, and of the
bytes behind it. The other paths are dead.

Main results:

* `FrameHeaderV1.validate_diagnoses_rules`, `FrameHeaderV1.decode_diagnoses` — the
  rules of a header.
* `parse_diagnosis` — the answer of `parse`.
-/

namespace TxStream

open Wire Rust Run

-- ---------------------------------------------------------------------------
-- Rules
-- ---------------------------------------------------------------------------

namespace FrameHeaderV1

/-- The rules of `decode` about the format of a header, in the order in which they
are checked. -/
def formatRules (bs : Bytes) : List (Rule FrameValidationError) := [
  ⟨bs.extract 64 72 = frameMagicV1, .invalidMagic⟩,
  ⟨UInt16.ofNat (leNat (bs.extract 72 74)) = frameSchemaVersionV1,
    .unsupportedSchema (UInt16.ofNat (leNat (bs.extract 72 74)))⟩,
  ⟨UInt16.ofNat (leNat (bs.extract 74 76)) = layoutVersionV1,
    .unsupportedLayout (UInt16.ofNat (leNat (bs.extract 74 76)))⟩,
  ⟨(UInt16.ofNat (leNat (bs.extract 76 78))).toNat = frameHeaderBytes,
    .invalidHeaderLength (UInt16.ofNat (leNat (bs.extract 76 78)))⟩,
  ⟨∀ byte ∈ bs.extract 8 64 ++ bs.extract 92 96 ++ bs.extract 189 192 ++ bs.extract 224 256,
    byte = 0, .nonzeroReserved⟩,
  ⟨bs.getD 78 0 = 0 ∨ bs.getD 78 0 = 1 ∨ bs.getD 78 0 = 2,
    .unsupportedMessageVersion (bs.getD 78 0)⟩,
  ⟨UInt32.ofNat (leNat (bs.extract 80 84)) &&& ~~~allFlagBits = 0,
    .unknownFlags (UInt32.ofNat (leNat (bs.extract 80 84)))⟩]

/-- The rules of `validate` about the lengths, offsets and counts. -/
def lengthRules (h : FrameHeaderV1) : List (Rule FrameValidationError) := [
  ⟨0 < h.bodyLength.toNat ∧ h.bodyLength.toNat ≤ frameBodyCapacity, .frameTooLarge⟩,
  ⟨h.atomicWordCount.toNat = (frameHeaderBytes + h.bodyLength.toNat + 7) / 8,
    .invalidAtomicWordCount⟩,
  ⟨frameHeaderBytes + h.bodyLength.toNat + h.finalPaddingBytes.toNat =
    8 * h.atomicWordCount.toNat, .invalidPadding⟩,
  ⟨0 < h.transactionLength.toNat ∧ h.transactionOffset.toNat = 0
    ∧ h.loadedWritableOffset.toNat = h.transactionLength.toNat
    ∧ h.loadedReadonlyOffset.toNat = h.loadedWritableOffset.toNat + h.loadedWritableLength.toNat
    ∧ h.bodyLength.toNat = h.loadedReadonlyOffset.toNat + h.loadedReadonlyLength.toNat,
    .invalidBodyRegions⟩,
  ⟨h.loadedWritableLength.toNat = h.loadedWritableCount.toNat * keyBytes
    ∧ h.loadedReadonlyLength.toNat = h.loadedReadonlyCount.toNat * keyBytes,
    .invalidLoadedKeyLength⟩,
  ⟨h.messageVersion ≠ .v0 → h.loadedWritableCount = 0 ∧ h.loadedReadonlyCount = 0,
    .invalidLoadedKeysForVersion⟩]

/-- The rules of `validate`. The lengths come in front of the timestamps. -/
def rules (h : FrameHeaderV1) : List (Rule FrameValidationError) :=
  h.metadata.rules.take 3 ++ (h.lengthRules ++ h.metadata.rules.drop 3)

/-- The source refuses the keys of a legacy or v1 message; as a rule, only v0 messages
have keys. -/
theorem keysForVersion_iff {h : FrameHeaderV1} :
    ((h.messageVersion = .legacy ∨ h.messageVersion = .v1)
      ∧ (h.loadedWritableCount ≠ 0 ∨ h.loadedReadonlyCount ≠ 0)) ↔
    ¬ (h.messageVersion ≠ .v0 → h.loadedWritableCount = 0 ∧ h.loadedReadonlyCount = 0) := by
  rw [Classical.not_imp, not_and_or]
  refine and_congr_left' ?_
  cases h.messageVersion <;> decide

/-- **The rules of `validate`**, for any header. No sum or product overflows. -/
theorem validate_diagnoses_rules (h : FrameHeaderV1) : Diagnoses h.rules h.validate := by
  have hSizes : frameHeaderBytes = 256 ∧ frameBodyCapacity = 12032 ∧ keyBytes = 32
      ∧ usizeSize = 2 ^ 64 := ⟨rfl, rfl, rfl, rfl⟩
  have hBody := h.bodyLength.toNat_lt
  have hTransactionOffset := h.transactionOffset.toNat_lt
  have hTransactionLength := h.transactionLength.toNat_lt
  have hWritableOffset := h.loadedWritableOffset.toNat_lt
  have hWritableLength := h.loadedWritableLength.toNat_lt
  have hReadonlyOffset := h.loadedReadonlyOffset.toNat_lt
  have hReadonlyLength := h.loadedReadonlyLength.toNat_lt
  have hWritableKeys : h.loadedWritableCount.toNat * keyBytes < usizeSize := by
    have := h.loadedWritableCount.toNat_lt
    unfold keyBytes
    omega
  have hReadonlyKeys : h.loadedReadonlyCount.toNat * keyBytes < usizeSize := by
    have := h.loadedReadonlyCount.toNat_lt
    unfold keyBytes
    omega
  unfold validate
  dsimp only
  -- the fields have at most 32 bits, so no `checked_` operation fails
  rw [checkedAdd_of_lt (by omega), okOr_some, ok_bind, checkedAdd_of_lt (by omega), okOr_some,
    ok_bind, checkedAdd_of_lt (by omega), okOr_some, ok_bind, checkedAdd_of_lt (by omega),
    okOr_some, ok_bind, checkedAdd_of_lt (by omega), okOr_some, ok_bind,
    checkedMul_of_lt hWritableKeys, okOr_some, ok_bind, checkedMul_of_lt hReadonlyKeys, okOr_some,
    ok_bind]
  refine Diagnoses.check not_not.symm fun _ => ?_
  refine Diagnoses.check identity_iff fun _ => ?_
  refine Diagnoses.check (not_iff_comm.mp boundaries_iff).symm fun _ => ?_
  -- the lengths
  refine Diagnoses.check ?_ fun _ => ?_
  · show _ ↔ ¬ (_ ∧ _)
    omega
  refine Diagnoses.check (Iff.refl _) fun hRule => ?_
  have hWords : h.atomicWordCount.toNat = (frameHeaderBytes + h.bodyLength.toNat + 7) / 8 := hRule
  refine Diagnoses.check ?_ fun _ => ?_
  · show _ ↔ ¬ (_ = _)
    omega
  refine Diagnoses.check ?_ fun _ => ?_
  · show _ ↔ ¬ (_ ∧ _ ∧ _ ∧ _ ∧ _)
    omega
  refine Diagnoses.check ?_ fun _ => ?_
  · show _ ↔ ¬ (_ ∧ _)
    omega
  refine Diagnoses.check keysForVersion_iff fun _ => ?_
  exact Diagnoses.check (not_iff_comm.mp timestamps_iff).symm fun _ => Diagnoses.ok ()

-- ---------------------------------------------------------------------------
-- `decode`
-- ---------------------------------------------------------------------------

/-- The version byte has one rule: it is 0, 1 or 2. -/
theorem version_diagnoses (value : UInt8) :
    Diagnoses [⟨value = 0 ∨ value = 1 ∨ value = 2, .unsupportedMessageVersion value⟩]
      (MessageVersion.decode value) := by
  unfold MessageVersion.decode
  by_cases h₀ : value = 0
  · rw [if_pos h₀]
    exact (Diagnoses.ok _).cons (Or.inl h₀)
  rw [if_neg h₀]
  by_cases h₁ : value = 1
  · rw [if_pos h₁]
    exact (Diagnoses.ok _).cons (Or.inr (Or.inl h₁))
  rw [if_neg h₁]
  by_cases h₂ : value = 2
  · rw [if_pos h₂]
    exact (Diagnoses.ok _).cons (Or.inr (Or.inr h₂))
  rw [if_neg h₂]
  exact Or.inr ⟨_, .here (not_or.mpr ⟨h₀, not_or.mpr ⟨h₁, h₂⟩⟩), rfl⟩

/-- The flags have one rule: no bit outside of the known ones. -/
theorem flags_diagnoses (bits : UInt32) :
    Diagnoses [⟨bits &&& ~~~allFlagBits = 0, .unknownFlags bits⟩] (FrameFlags.fromBits bits) := by
  unfold FrameFlags.fromBits
  by_cases h : bits &&& ~~~allFlagBits = 0
  · rw [dif_pos h]
    exact (Diagnoses.ok _).cons h
  · rw [dif_neg h]
    exact Or.inr ⟨_, .here h, rfl⟩

/-- The header that stands at the offsets that `decode` reads, whether `decode`
accepts it or not. What cannot be read as a version or as flags is left at a default. -/
def asRead (bs : Bytes) : FrameHeaderV1 :=
  readHeader bs ((MessageVersion.decode (bs.getD 78 0)).toOption.getD .legacy)
    ((FrameFlags.fromBits (UInt32.ofNat (leNat (bs.extract 80 84)))).toOption.getD ⟨0, rfl⟩)

/-- The four reserved ranges are one rule, since they have one error. -/
theorem reserved_iff (bs : Bytes) :
    (anyNonzero (bs.extract 8 64) || anyNonzero (bs.extract 92 96)
        || anyNonzero (bs.extract 189 192) || anyNonzero (bs.extract 224 256)) = true ↔
      ¬ ∀ byte ∈ bs.extract 8 64 ++ bs.extract 92 96 ++ bs.extract 189 192 ++ bs.extract 224 256,
        byte = 0 := by
  simp only [anyNonzero, ← List.any_append, List.any_eq_true, decide_eq_true_eq, ne_eq, not_forall,
    exists_prop]

/-- **The rules of `decode`** on a string of at least 256 bytes. -/
theorem decode_diagnoses {bytes bs : Bytes} (hLen : frameHeaderBytes ≤ bytes.length)
    (hBs : bytes.extract 0 frameHeaderBytes = bs) :
    Diagnoses ((formatRules bs ++ (asRead bs).rules).map (Rule.map Fault.err)) (decode bytes) := by
  -- with a version and flags that can be read, the header is the one of the rules
  have hHeader : ∀ messageVersion flags, asRead bs = readHeader bs messageVersion flags →
      Diagnoses ((asRead bs).rules.map (Rule.map Fault.err)) (do
        lift (readHeader bs messageVersion flags).validate
        return readHeader bs messageVersion flags) := by
    intro messageVersion flags hRead
    rw [← hRead]
    have h := ((asRead bs).validate_diagnoses_rules.mapError Fault.err).map fun _ => asRead bs
    revert h
    cases (asRead bs).validate <;> exact id
  have hBits : Diagnoses (_ ++ (_ ++ (asRead bs).rules.map (Rule.map Fault.err))) _ :=
    Diagnoses.bind ((version_diagnoses (bs.getD 78 0)).mapError Fault.err)
      fun messageVersion hVersion => Diagnoses.bind ((flags_diagnoses
        (UInt32.ofNat (leNat (bs.extract 80 84)))).mapError Fault.err) fun flags hFlags =>
          hHeader messageVersion flags (by
            rw [asRead, lift_eq_ok hVersion, lift_eq_ok hFlags]
            rfl)
  rw [decode_eq hLen hBs, List.map_append]
  refine Diagnoses.check (Iff.refl _) fun _ => ?_
  refine Diagnoses.check (Iff.refl _) fun _ => ?_
  refine Diagnoses.check (Iff.refl _) fun _ => ?_
  refine Diagnoses.check (Iff.refl _) fun _ => ?_
  exact Diagnoses.check (reserved_iff bs) fun _ => hBits

/-- What `decode` returns is the header as it stands. -/
theorem eq_asRead_of_decode {bytes : Bytes} {h : FrameHeaderV1} (hDecode : decode bytes = .ok h) :
    h = asRead (bytes.extract 0 frameHeaderBytes) := by
  obtain ⟨hLen, -, -⟩ := decode_eq_ok.mp hDecode
  rw [decode_eq hLen rfl] at hDecode
  generalize bytes.extract 0 frameHeaderBytes = bs at *
  -- five checks of the format, then the two fields that need decoding
  obtain ⟨-, hDecode⟩ := guard_eq_ok hDecode
  obtain ⟨-, hDecode⟩ := guard_eq_ok hDecode
  obtain ⟨-, hDecode⟩ := guard_eq_ok hDecode
  obtain ⟨-, hDecode⟩ := guard_eq_ok hDecode
  obtain ⟨-, hDecode⟩ := guard_eq_ok hDecode
  obtain ⟨version, hVersion, hDecode⟩ := bind_eq_ok hDecode
  obtain ⟨flags, hFlags, hDecode⟩ := bind_eq_ok hDecode
  obtain ⟨⟨⟩, -, hDecode⟩ := bind_eq_ok hDecode
  obtain rfl := Except.ok.inj hDecode
  rw [asRead, lift_eq_ok hVersion, lift_eq_ok hFlags]
  rfl

/-- The bytes of the transaction, in front of the loaded keys. -/
def transactionIn (h : FrameHeaderV1) (bytes : Bytes) : Bytes :=
  bytes.extract frameHeaderBytes (frameHeaderBytes + h.transactionLength.toNat)

/-- The rules of `parse` about what stands behind a header. -/
def bodyRules (h : FrameHeaderV1) (bytes : Bytes) : List (Rule FrameValidationError) := [
  ⟨8 * h.atomicWordCount.toNat ≤ bytes.length, .truncatedFrame⟩,
  ⟨∀ byte ∈ bytes.extract (frameHeaderBytes + h.bodyLength.toNat) (8 * h.atomicWordCount.toNat),
    byte = 0, .nonzeroFinalPadding⟩,
  ⟨∃ view, tryNew (h.transactionIn bytes) = .ok view, .transactionParse⟩,
  ⟨∀ view, tryNew (h.transactionIn bytes) = .ok view → view.messageVersion = h.messageVersion,
    .messageVersionMismatch⟩,
  ⟨∀ view, tryNew (h.transactionIn bytes) = .ok view →
    view.totalWritableLookupAccounts = h.loadedWritableCount
      ∧ view.totalReadonlyLookupAccounts = h.loadedReadonlyCount, .loadedAddressCountMismatch⟩]

end FrameHeaderV1

/-- The rules of `parse`, in the order of precedence of their errors. -/
def parseRules (bytes : Bytes) : List (Rule FrameValidationError) :=
  let bs := bytes.extract 0 frameHeaderBytes
  ⟨frameHeaderBytes ≤ bytes.length, .truncatedHeader⟩ ::
    ((FrameHeaderV1.formatRules bs ++ (FrameHeaderV1.asRead bs).rules) ++
      (FrameHeaderV1.asRead bs).bodyRules bytes)

-- ---------------------------------------------------------------------------
-- `parse`
-- ---------------------------------------------------------------------------

section Frame

variable {header : FrameHeaderV1} {bytes frame body padding transaction writable readonly : Bytes}

/-- Where the reads behind a valid header are in the input. -/
theorem FrameReads.slices (h : FrameReads header bytes frame body padding transaction writable
    readonly) (hLayout : header.BodyLayout) :
    padding = bytes.extract (frameHeaderBytes + header.bodyLength.toNat)
        (8 * header.atomicWordCount.toNat) ∧
      transaction = header.transactionIn bytes := by
  have hWords := hLayout.words
  have hLengths := hLayout.bodyLength
  have hSize : frameHeaderBytes = 256 := rfl
  obtain ⟨⟨-, hLong⟩, rfl⟩ := getRange_eq_some.mp h.frame_eq
  obtain ⟨⟨-, hFits⟩, rfl⟩ := getRange_eq_some.mp h.body_eq
  obtain ⟨-, rfl⟩ := getRange_eq_some.mp h.padding_eq
  obtain ⟨-, rfl⟩ := bodyRegion_eq_ok h.regions.transaction_eq
  rw [length_extract (Nat.zero_le _) hLong]
  constructor
  · rw [extract_extract bytes (by omega), Nat.zero_add, Nat.zero_add, Nat.sub_zero]
  · rw [hLayout.transactionOffset, Nat.zero_add, extract_extract _ (by omega),
      extract_extract _ (by omega)]
    simp only [Nat.zero_add, Nat.add_zero]
    rfl

/-- The rule behind the source's `any(|byte| *byte != 0)`. -/
theorem anyNonzero_iff (bs : Bytes) :
    FrameHeaderV1.anyNonzero bs = true ↔ ¬ ∀ byte ∈ bs, byte = 0 := by
  simp only [FrameHeaderV1.anyNonzero, List.any_eq_true, decide_eq_true_eq, ne_eq, not_forall,
    exists_prop]

/-- The rules that are left once every read has been made. -/
theorem parseRegions_diagnoses (h : FrameReads header bytes frame body padding transaction writable
    readonly) (hLayout : header.BodyLayout) :
    Diagnoses ((header.bodyRules bytes).map (Rule.map Fault.err))
      (parseRegions header frame padding transaction writable readonly) := by
  obtain ⟨hPadding, hTransaction⟩ := h.slices hLayout
  obtain ⟨⟨-, hLong⟩, -⟩ := getRange_eq_some.mp h.frame_eq
  rw [parseRegions, hPadding, hTransaction]
  refine Diagnoses.cons hLong (Diagnoses.check (anyNonzero_iff _) fun _ => ?_)
  cases tryNew (header.transactionIn bytes) with
  | error e =>
    refine Or.inr ⟨_, .here ?_, rfl⟩
    rintro ⟨view, hOk⟩
    cases hOk
  | ok view =>
    -- the rules speak of whatever view there is, and there is one
    have hOnly : ∀ p : SanitizedTransactionView → Prop,
        (∀ other, (.ok view : Except TransactionViewError _) = .ok other → p other) ↔ p view := by
      intro p
      simp only [Except.ok.injEq, forall_eq']
    refine Diagnoses.cons ⟨view, rfl⟩ ?_
    refine Diagnoses.check (not_congr (hOnly fun view =>
      view.messageVersion = header.messageVersion)).symm fun _ => ?_
    refine Diagnoses.check ?_ fun _ => Diagnoses.ok _
    exact not_and_or.symm.trans (not_congr (hOnly fun view =>
      view.totalWritableLookupAccounts = header.loadedWritableCount
        ∧ view.totalReadonlyLookupAccounts = header.loadedReadonlyCount)).symm

/-- `parse` checks its rules one by one. -/
theorem parse_diagnoses (bytes : Bytes) :
    Diagnoses ((parseRules bytes).map (Rule.map Fault.err)) (ValidatedFrame.parse bytes) := by
  by_cases hLen : frameHeaderBytes ≤ bytes.length
  · refine Diagnoses.cons hLen ?_
    have hHeader := FrameHeaderV1.decode_diagnoses hLen rfl
    rw [List.map_append]
    cases hDecode : FrameHeaderV1.decode bytes with
    | error fault =>
      rw [parse_of_decode_error hDecode]
      exact Or.inr ⟨fault, firstBroken_append.mpr (Or.inl (hHeader.error_iff.mp hDecode)), rfl⟩
    | ok header =>
      refine Diagnoses.prepend (hHeader.ok_iff.mp ⟨header, hDecode⟩) ?_
      rw [← FrameHeaderV1.eq_asRead_of_decode hDecode]
      obtain ⟨-, -, hValid⟩ := FrameHeaderV1.decode_eq_ok.mp hDecode
      by_cases hLong : 8 * header.atomicWordCount.toNat ≤ bytes.length
      · obtain ⟨frame, body, padding, transaction, writable, readonly, hReads⟩ :=
          exists_frameReads hValid hLong
        rw [parse_of_reads hDecode hReads]
        exact parseRegions_diagnoses hReads (FrameHeaderV1.bodyLayout_of_validate hValid)
      · rw [parse_of_short hDecode (not_le.mp hLong)]
        exact Or.inr ⟨_, .here hLong, rfl⟩
  · rw [parse_of_decode_error (FrameHeaderV1.decode_of_short (not_le.mp hLen))]
    exact Or.inr ⟨_, .here hLen, rfl⟩

end Frame

/-- `parse` has no buffer that could be too small. -/
theorem outputTooSmall_notMem (bytes : Bytes) :
    .outputTooSmall ∉ (parseRules bytes).map Rule.error := by
  simp [parseRules, FrameHeaderV1.formatRules, FrameHeaderV1.rules, FrameHeaderV1.lengthRules,
    FrameHeaderV1.bodyRules, FrameMetadataV1.rules]

/-- **What `parse` reports.** On every input:

* it fails with the first of its rules that is broken, and only then;
* the header that it returns is the one that stands at the offsets of a header;
* a header that breaks a rule decides alone: whatever follows it, the answer is the
  same;
* it never reports that a buffer is too small. -/
theorem parse_diagnosis (bytes : Bytes) :
    (∀ fault, ValidatedFrame.parse bytes = .error fault ↔
      ∃ e, fault = .err e ∧ FirstBroken (parseRules bytes) e) ∧
    ((∃ f, ValidatedFrame.parse bytes = .ok f) ↔ Kept (parseRules bytes)) ∧
    (∀ f, ValidatedFrame.parse bytes = .ok f →
      f.header = FrameHeaderV1.asRead (bytes.extract 0 frameHeaderBytes)) ∧
    (∀ bs e, bs.length = frameHeaderBytes →
      FirstBroken (FrameHeaderV1.formatRules bs ++ (FrameHeaderV1.asRead bs).rules) e →
      ∀ rest, ValidatedFrame.parse (bs ++ rest) = .error (.err e)) ∧
    ValidatedFrame.parse bytes ≠ .error (.err .outputTooSmall) := by
  have hError : ∀ (input : Bytes) fault, ValidatedFrame.parse input = .error fault ↔
      ∃ e, fault = .err e ∧ FirstBroken (parseRules input) e := by
    intro input fault
    rw [(parse_diagnoses input).error_iff, firstBroken_map]
    exact exists_congr fun e => and_comm.trans (and_congr_left' eq_comm)
  refine ⟨hError bytes, (parse_diagnoses bytes).ok_iff.trans kept_map, ?_, ?_, ?_⟩
  · intro f hParse
    obtain ⟨h, rest, rfl⟩ := parse_eq_ok.mp hParse
    exact FrameHeaderV1.eq_asRead_of_decode (h.decode rest)
  · intro bs e hLength hBroken rest
    have hBs : (bs ++ rest).extract 0 frameHeaderBytes = bs := by
      rw [extract_append_of_le hLength.ge, ← hLength, extract_length]
    refine (hError _ _).mpr ⟨e, rfl, .later ?_ ?_⟩
    · rw [List.length_append]
      exact hLength.ge.trans (Nat.le_add_right ..)
    · rw [hBs]
      exact firstBroken_append.mpr (Or.inl hBroken)
  · intro hParse
    obtain ⟨e, hEq, hBroken⟩ := (hError bytes _).mp hParse
    obtain rfl := Fault.err.inj hEq
    exact outputTooSmall_notMem bytes hBroken.error_mem

/-- A header of zeros is refused for its magic, whatever follows it. -/
theorem parse_diagnosis_sample : ∀ rest : Bytes,
    ValidatedFrame.parse (zeros frameHeaderBytes ++ rest) = .error (.err .invalidMagic) := by
  obtain ⟨-, -, -, hHeader, -⟩ := parse_diagnosis []
  have hMagic : (zeros frameHeaderBytes).extract 64 72 ≠ frameMagicV1 := by decide +kernel
  exact hHeader _ _ (length_zeros _) (.here hMagic)

end TxStream
