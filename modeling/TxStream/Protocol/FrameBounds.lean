import TxStream.Protocol.FrameCodec
import TxStream.Protocol.HeaderCodec

/-!
# Parsing stays inside its input

The numbers of a header come from the wire. Once `decode` has returned, the
equations that `validate` checks are all that relates them, and they are enough
for every read of `parse` behind the header, the length of the input apart.

Main results:

* `exists_frameReads` — in an input of at least the declared words every read
  behind the header is in range.
* `parse_of_reads` — what is left of `parse` then.
* `parse_bounds` — `parse` returns on every input, and how it can fail.
-/

namespace TxStream

open Wire Rust

-- ---------------------------------------------------------------------------
-- The reads behind the header
-- ---------------------------------------------------------------------------

/-- The three regions of a body, and that nothing of the body is left over. -/
structure BodyRegions (header : FrameHeaderV1) (body transaction writable readonly : Bytes) :
    Prop where
  transaction_eq :
    bodyRegion body header.transactionOffset header.transactionLength = .ok transaction
  writable_eq :
    bodyRegion body header.loadedWritableOffset header.loadedWritableLength = .ok writable
  readonly_eq :
    bodyRegion body header.loadedReadonlyOffset header.loadedReadonlyLength = .ok readonly
  whole : transaction ++ writable ++ readonly = body

/-- Every read that `parse` makes behind the header succeeds, with these results. -/
structure FrameReads (header : FrameHeaderV1)
    (bytes frame body padding transaction writable readonly : Bytes) : Prop where
  words_eq : checkedMul header.atomicWordCount.toNat 8 = some (8 * header.atomicWordCount.toNat)
  frame_eq : getRange bytes 0 (8 * header.atomicWordCount.toNat) = some frame
  bodyEnd_eq : checkedAdd frameHeaderBytes header.bodyLength.toNat =
    some (frameHeaderBytes + header.bodyLength.toNat)
  body_eq : getRange frame frameHeaderBytes (frameHeaderBytes + header.bodyLength.toNat) = some body
  padding_eq :
    getRange frame (frameHeaderBytes + header.bodyLength.toNat) frame.length = some padding
  regions : BodyRegions header body transaction writable readonly

/-- The number of bytes in the declared words is a `usize`. -/
theorem checkedMul_words (words : UInt32) : checkedMul words.toNat 8 = some (8 * words.toNat) := by
  have := words.toNat_lt
  rw [Nat.mul_comm 8]
  refine checkedMul_of_lt ?_
  unfold usizeSize
  omega

/-- A region inside the body can be read. -/
theorem bodyRegion_of_le {body : Bytes} {offset length : UInt32}
    (hFits : offset.toNat + length.toNat ≤ body.length) :
    bodyRegion body offset length =
      .ok (body.extract offset.toNat (offset.toNat + length.toNat)) := by
  have hSum : offset.toNat + length.toNat < usizeSize := by
    have := offset.toNat_lt
    have := length.toNat_lt
    unfold usizeSize
    omega
  unfold bodyRegion region
  rw [checkedAdd_of_lt hSum]
  simp only [okOr_some, ok_bind, Pure.pure, Except.pure]
  rw [getRange_eq_some.mpr ⟨⟨Nat.le_add_right .., hFits⟩, rfl⟩, okOr_some]

/-- The regions of a valid header cover a body of the declared length: they follow each
other from its start to its end, so each lies inside it. -/
theorem bodyRegions_of_layout {header : FrameHeaderV1} {body : Bytes} (hLayout : header.BodyLayout)
    (hBody : body.length = header.bodyLength.toNat) :
    ∃ transaction writable readonly, BodyRegions header body transaction writable readonly := by
  have hTransactionOffset := hLayout.transactionOffset
  have hWritableOffset := hLayout.writableOffset
  have hReadonlyOffset := hLayout.readonlyOffset
  have hLengths := hLayout.bodyLength
  refine ⟨_, _, _, bodyRegion_of_le (by omega), bodyRegion_of_le (by omega),
    bodyRegion_of_le (by omega), ?_⟩
  -- joined, the three slices are the whole body
  rw [hTransactionOffset, hWritableOffset, hReadonlyOffset, Nat.zero_add,
    extract_append_extract body (Nat.zero_le _) (by omega),
    extract_append_extract body (Nat.zero_le _) (by omega), ← hLengths, ← hBody, extract_length]

/-- **In range.** In an input of at least the declared words every read behind a
valid header succeeds. -/
theorem exists_frameReads {header : FrameHeaderV1} {bytes : Bytes}
    (hValid : header.validate = .ok ())
    (hLong : 8 * header.atomicWordCount.toNat ≤ bytes.length) :
    ∃ frame body padding transaction writable readonly,
      FrameReads header bytes frame body padding transaction writable readonly := by
  have hLayout := FrameHeaderV1.bodyLayout_of_validate hValid
  have hWords := hLayout.words
  have hHeaderBytes : frameHeaderBytes = 256 := rfl
  have hFrame : getRange bytes 0 (8 * header.atomicWordCount.toNat) =
      some (bytes.extract 0 (8 * header.atomicWordCount.toNat)) :=
    getRange_eq_some.mpr ⟨⟨Nat.zero_le _, hLong⟩, rfl⟩
  have hLength := @length_extract bytes 0 (8 * header.atomicWordCount.toNat) (Nat.zero_le _) hLong
  generalize bytes.extract 0 (8 * header.atomicWordCount.toNat) = frame at hFrame hLength
  -- the words were counted from the body length, so the body ends inside the frame
  have hFits : frameHeaderBytes + header.bodyLength.toNat ≤ frame.length := by omega
  have hBody := @length_extract frame frameHeaderBytes
    (frameHeaderBytes + header.bodyLength.toNat) (Nat.le_add_right ..) hFits
  obtain ⟨transaction, writable, readonly, hRegions⟩ :=
    bodyRegions_of_layout hLayout (hBody.trans (Nat.add_sub_cancel_left ..))
  refine ⟨frame, _, _, transaction, writable, readonly, checkedMul_words _, hFrame, ?_,
    getRange_eq_some.mpr ⟨⟨Nat.le_add_right .., hFits⟩, rfl⟩,
    getRange_eq_some.mpr ⟨⟨hFits, le_rfl⟩, rfl⟩, hRegions⟩
  refine checkedAdd_of_lt ?_
  have := hLayout.capacity
  have hCapacity : frameBodyCapacity = 12032 := rfl
  unfold usizeSize
  omega

-- ---------------------------------------------------------------------------
-- What is left of `parse`
-- ---------------------------------------------------------------------------

/-- The checks of `parse` once every read has been made. -/
def parseRegions (header : FrameHeaderV1) (frame padding transaction writable readonly : Bytes) :
    Except (Fault FrameValidationError) ValidatedFrame :=
  if FrameHeaderV1.anyNonzero padding then fail .nonzeroFinalPadding else
  match tryNew transaction with
  | .error _ => fail .transactionParse
  | .ok view =>
    if view.messageVersion ≠ header.messageVersion then fail .messageVersionMismatch else
    if view.totalWritableLookupAccounts ≠ header.loadedWritableCount
        ∨ view.totalReadonlyLookupAccounts ≠ header.loadedReadonlyCount then
      fail .loadedAddressCountMismatch
    else
      .ok ⟨header, frame, view, writable, readonly⟩

/-- With its reads done, `parse` is the checks. What remains looks at values, and no
longer at positions in the input. -/
theorem parse_of_reads {header : FrameHeaderV1}
    {bytes frame body padding transaction writable readonly : Bytes}
    (hDecode : FrameHeaderV1.decode bytes = .ok header)
    (h : FrameReads header bytes frame body padding transaction writable readonly) :
    ValidatedFrame.parse bytes =
      parseRegions header frame padding transaction writable readonly := by
  have hPadding : (slice frame (frameHeaderBytes + header.bodyLength.toNat) frame.length :
      Except (Fault FrameValidationError) Bytes) = .ok padding := by
    unfold slice
    rw [h.padding_eq, expect_some]
  unfold ValidatedFrame.parse parseRegions
  simp only [hDecode, h.words_eq, h.frame_eq, h.bodyEnd_eq, h.body_eq, hPadding,
    h.regions.transaction_eq, h.regions.writable_eq, h.regions.readonly_eq, ok_bind, okOr_some,
    lift_ok]
  cases tryNew transaction <;> rfl

/-- An input shorter than the declared words is cut off. -/
theorem parse_of_short {bytes : Bytes} {header : FrameHeaderV1}
    (hDecode : FrameHeaderV1.decode bytes = .ok header)
    (hShort : bytes.length < 8 * header.atomicWordCount.toNat) :
    ValidatedFrame.parse bytes = .error (.err .truncatedFrame) := by
  have hRange : getRange bytes 0 (8 * header.atomicWordCount.toNat) = none :=
    if_neg fun h => absurd h.2 (not_le.mpr hShort)
  unfold ValidatedFrame.parse
  rw [hDecode, ok_bind, checkedMul_words, okOr_some, lift_ok, ok_bind, hRange]
  rfl

/-- None of the remaining checks answers with an error about bounds. -/
theorem parseRegions_error {header : FrameHeaderV1}
    {frame padding transaction writable readonly : Bytes} {e : FrameValidationError}
    (h : parseRegions header frame padding transaction writable readonly = .error (.err e)) :
    e ≠ .truncatedFrame ∧ e ≠ .frameTooLarge ∧ e ≠ .invalidBodyRegions := by
  unfold parseRegions at h
  -- the padding, the transaction, its version and its counts
  split_ifs at h with hPadding
  · obtain rfl := Fault.err.inj (Except.error.inj h)
    decide
  · split at h
    · obtain rfl := Fault.err.inj (Except.error.inj h)
      decide
    · split_ifs at h with hVersion hCounts
      · obtain rfl := Fault.err.inj (Except.error.inj h)
        decide
      · obtain rfl := Fault.err.inj (Except.error.inj h)
        decide

-- ---------------------------------------------------------------------------
-- Every input
-- ---------------------------------------------------------------------------

/-- An accepted frame fits a slot, is padded to a word, has a transaction and
nothing between and behind its regions. -/
theorem ValidatedFrame.Canonical.geometry {f : ValidatedFrame} (h : f.Canonical) :
    f.header.atomicWordCount.toNat ≤ slotStrideBytes / 8 ∧
      f.header.finalPaddingBytes.toNat < 8 ∧ f.transactionBytes ≠ [] ∧
      f.transactionBytes ++ f.loadedWritableBytes ++ f.loadedReadonlyBytes =
        f.bytes.extract frameHeaderBytes (frameHeaderBytes + f.header.bodyLength.toNat) := by
  obtain ⟨front, hFront, hFrame⟩ := h.bytes
  have hLayout := FrameHeaderV1.bodyLayout_of_validate h.header_valid
  have hWords := hLayout.words
  have hPadding := hLayout.padding
  have hCapacity := hLayout.capacity
  have hNonempty := hLayout.nonempty
  have hLengths := hLayout.bodyLength
  have hFields := f.header.length_flatten_fields
  have hSizes : frameHeaderBytes = 256 ∧ frameBodyCapacity = 12032 ∧ slotStrideBytes = 12288 :=
    ⟨rfl, rfl, rfl⟩
  refine ⟨by omega, by omega, ?_, ?_⟩
  · intro hEmpty
    have hLength := h.transactionLength
    rw [hEmpty, List.length_nil] at hLength
    exact hNonempty hLength.symm
  · refine (extract_of_append hFrame ?_ ?_).symm
    · rw [List.length_append, hFront, hFields]
      rfl
    · rw [List.length_append, List.length_append, h.transactionLength, h.writableLength,
        h.readonlyLength, hLengths]

/-- **Parsing never escapes its input.** On every byte string `parse` returns.
Once the header is decoded it answers `TruncatedFrame` exactly for an input
shorter than the declared words; in a longer one every read is in range, and no
error about bounds is left. An accepted frame has at most as many words as a
slot, fewer than eight padding bytes and a nonempty transaction, and its regions
are its whole body. -/
theorem parse_bounds (bytes : Bytes) :
    NoPanic (FrameHeaderV1.decode bytes) ∧ NoPanic (ValidatedFrame.parse bytes) ∧
    (∀ header, FrameHeaderV1.decode bytes = .ok header →
      (ValidatedFrame.parse bytes = .error (.err .truncatedFrame) ↔
        bytes.length < 8 * header.atomicWordCount.toNat) ∧
      ValidatedFrame.parse bytes ≠ .error (.err .frameTooLarge) ∧
      ValidatedFrame.parse bytes ≠ .error (.err .invalidBodyRegions) ∧
      (8 * header.atomicWordCount.toNat ≤ bytes.length →
        ∃ frame body padding transaction writable readonly,
          FrameReads header bytes frame body padding transaction writable readonly)) ∧
    ∀ f, ValidatedFrame.parse bytes = .ok f →
      f.header.atomicWordCount.toNat ≤ slotStrideBytes / 8 ∧
      f.header.finalPaddingBytes.toNat < 8 ∧ f.transactionBytes ≠ [] ∧
      f.transactionBytes ++ f.loadedWritableBytes ++ f.loadedReadonlyBytes =
        f.bytes.extract frameHeaderBytes (frameHeaderBytes + f.header.bodyLength.toNat) := by
  refine ⟨FrameHeaderV1.decode_noPanic bytes, parse_noPanic bytes, ?_, ?_⟩
  · intro header hDecode
    obtain ⟨-, -, hValid⟩ := FrameHeaderV1.decode_eq_ok.mp hDecode
    -- the input is shorter than the words its header declares, or every read is in range
    by_cases hShort : bytes.length < 8 * header.atomicWordCount.toNat
    · have hParse := parse_of_short hDecode hShort
      refine ⟨iff_of_true hParse hShort, ?_, ?_, fun hLong => absurd hShort (not_lt.mpr hLong)⟩
      · rw [hParse]
        decide
      · rw [hParse]
        decide
    · obtain ⟨frame, body, padding, transaction, writable, readonly, hReads⟩ :=
        exists_frameReads hValid (not_lt.mp hShort)
      have hParse := parse_of_reads hDecode hReads
      refine ⟨iff_of_false ?_ hShort, ?_, ?_,
        fun _ => ⟨frame, body, padding, transaction, writable, readonly, hReads⟩⟩
      · intro hError
        exact (parseRegions_error (hParse.symm.trans hError)).1 rfl
      · intro hError
        exact (parseRegions_error (hParse.symm.trans hError)).2.1 rfl
      · intro hError
        exact (parseRegions_error (hParse.symm.trans hError)).2.2 rfl
  · intro f hParse
    exact (parse_inv hParse).1.geometry

/-- A header alone is a truncated frame; the sample frame is accepted and full. -/
theorem parse_bounds_sample :
    ValidatedFrame.parse FrameHeaderV1.sampleHeader.encode = .error (.err .truncatedFrame) ∧
    ∃ f, ValidatedFrame.parse (sampleParts.frame sampleMetadata) = .ok f ∧
      f.header.finalPaddingBytes.toNat < 8 ∧ f.transactionBytes ≠ [] := by
  have hDecode : FrameHeaderV1.decode FrameHeaderV1.sampleHeader.encode =
      .ok FrameHeaderV1.sampleHeader := by
    rw [FrameHeaderV1.decode_encode]
    rfl
  have hShort : FrameHeaderV1.sampleHeader.encode.length < 8 * 57 := by
    rw [FrameHeaderV1.length_encode]
    decide
  obtain ⟨-, -, hTruncated, -⟩ := parse_bounds FrameHeaderV1.sampleHeader.encode
  obtain ⟨-, -, -, hAccepted⟩ := parse_bounds (sampleParts.frame sampleMetadata)
  have hParse : ValidatedFrame.parse (sampleParts.frame sampleMetadata) =
      .ok (sampleParts.validated sampleMetadata sampleV0.view) := by
    have h := parse_of_canonical sampleParts_encodable.canonical []
    rwa [List.append_nil] at h
  obtain ⟨-, hPadding, hNonempty, -⟩ := hAccepted _ hParse
  exact ⟨(hTruncated _ hDecode).1.mpr hShort, _, hParse, hPadding, hNonempty⟩

end TxStream
