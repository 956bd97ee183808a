import TxStream.Protocol.FrameHeader
import TxStream.Protocol.Verdict

/-!
# What `ValidatedFrame::parse` accepts

A parsed frame is `Canonical`: its header is valid, its transaction is accepted
by `try_new` and agrees with the header, and its bytes are the header, the three
regions and the padding, with nothing left open but the first eight bytes.

Main results:

* `parse_eq_ok` — a string parses to `f` iff `f` is canonical and the string
  starts with the bytes of `f`.
* `ValidatedFrame.Canonical.length` — a frame is as long as its header says.
* `parse_noPanic` — `parse` returns on every input.
-/

namespace TxStream

open Wire Rust

-- ---------------------------------------------------------------------------
-- Accepted transactions
-- ---------------------------------------------------------------------------

/-- An accepted view holds the bytes it was made from. -/
theorem Accepted.data {bytes : Bytes} {view : SanitizedTransactionView}
    (h : Accepted bytes view) : view.data = bytes := by
  cases h with
  | packet tx _ _ _ hEq _ => exact hEq
  | v1 tx _ _ hEq _ => exact hEq

/-- The same for the call. -/
theorem tryNew_data {bytes : Bytes} {view : SanitizedTransactionView}
    (h : tryNew bytes = .ok view) : view.data = bytes :=
  (tryNew_eq_ok.mp h).data

-- ---------------------------------------------------------------------------
-- The shape of a frame
-- ---------------------------------------------------------------------------

namespace ValidatedFrame

/-- A frame as `parse` returns it: a valid header whose counts and version are
those of the transaction, and the frame bytes are eight free bytes, the header's
fields, the three regions and zero padding. -/
structure Canonical (f : ValidatedFrame) : Prop where
  header_valid : f.header.validate = .ok ()
  view : tryNew f.transactionBytes = .ok f.transactionView
  version : f.transactionView.messageVersion = f.header.messageVersion
  writableCount : f.transactionView.totalWritableLookupAccounts = f.header.loadedWritableCount
  readonlyCount : f.transactionView.totalReadonlyLookupAccounts = f.header.loadedReadonlyCount
  transactionLength : f.transactionBytes.length = f.header.transactionLength.toNat
  writableLength : f.loadedWritable.length = f.header.loadedWritableLength.toNat
  readonlyLength : f.loadedReadonly.length = f.header.loadedReadonlyLength.toNat
  bytes : ∃ front : Bytes, front.length = 8 ∧
    f.frame = front ++ f.header.fields.flatten
      ++ (f.transactionBytes ++ f.loadedWritable ++ f.loadedReadonly)
      ++ zeros f.header.finalPaddingBytes.toNat

end ValidatedFrame

/-- The fields fill the header behind its first eight bytes. -/
theorem FrameHeaderV1.length_flatten_fields (h : FrameHeaderV1) :
    h.fields.flatten.length = 248 := by
  rw [List.length_flatten, length_fields]
  rfl

/-- A region that is there lies inside the body. -/
theorem bodyRegion_eq_ok {body result : Bytes} {offset length : UInt32}
    (h : bodyRegion body offset length = .ok result) :
    offset.toNat + length.toNat ≤ body.length
      ∧ body.extract offset.toNat (offset.toNat + length.toNat) = result := by
  obtain ⟨⟨start, stop⟩, hRegion, h⟩ := bind_eq_ok h
  obtain ⟨end', hStop, hPair⟩ := bind_eq_ok hRegion
  obtain ⟨rfl, rfl⟩ := Prod.mk.inj (Except.ok.inj hPair)
  obtain rfl := checkedAdd_eq_some (okOr_eq_ok hStop)
  obtain ⟨⟨-, hFits⟩, hSlice⟩ := getRange_eq_some.mp (okOr_eq_ok h)
  exact ⟨hFits, hSlice⟩

/-- A region that the offset and the length of the header describe is read as it
stands. -/
theorem bodyRegion_of_append {body front mid rest : Bytes} {offset length : UInt32}
    (hEq : body = front ++ mid ++ rest) (hOffset : offset.toNat = front.length)
    (hLength : length.toNat = mid.length) : bodyRegion body offset length = .ok mid := by
  have hSum : offset.toNat + length.toNat < usizeSize := by
    have := offset.toNat_lt
    have := length.toNat_lt
    unfold usizeSize
    omega
  rw [bodyRegion, region, checkedAdd_of_lt hSum]
  simp only [okOr_some, ok_bind, Pure.pure, Except.pure]
  rw [getRange_of_append hEq hOffset (by rw [hLength]), okOr_some]

-- ---------------------------------------------------------------------------
-- From the accepted string to the shape
-- ---------------------------------------------------------------------------

/-- A parsed frame is canonical, and the input starts with its bytes. The reads are
inverted one after another to slices of the input; then the equations that `validate`
has checked make the regions meet, so that the slices join to the frame without a
gap. -/
theorem parse_inv {bytes : Bytes} {f : ValidatedFrame} (h : ValidatedFrame.parse bytes = .ok f) :
    f.Canonical ∧ ∃ rest, bytes = f.frame ++ rest := by
  unfold ValidatedFrame.parse at h
  -- the reads of `parse`, in their order
  obtain ⟨header, hDecode, h⟩ := bind_eq_ok h
  obtain ⟨hLen, hFields, hValidate⟩ := FrameHeaderV1.decode_eq_ok.mp hDecode
  have hLayout := FrameHeaderV1.bodyLayout_of_validate hValidate
  obtain ⟨atomicBytes, hAtomic, h⟩ := bind_eq_ok h
  have hAtomic := checkedMul_eq_some (okOr_eq_ok (lift_eq_ok hAtomic))
  obtain ⟨frame, hFrame, h⟩ := bind_eq_ok h
  obtain ⟨⟨-, hFits⟩, hFrame⟩ := getRange_eq_some.mp (okOr_eq_ok (lift_eq_ok hFrame))
  obtain ⟨bodyEnd, hEnd, h⟩ := bind_eq_ok h
  have hEnd := checkedAdd_eq_some (okOr_eq_ok (lift_eq_ok hEnd))
  obtain ⟨body, hBody, h⟩ := bind_eq_ok h
  obtain ⟨⟨-, hBodyFits⟩, hBody⟩ := getRange_eq_some.mp (okOr_eq_ok (lift_eq_ok hBody))
  obtain ⟨padding, hPadding, h⟩ := bind_eq_ok h
  obtain ⟨⟨-, -⟩, hPadding⟩ := slice_eq_ok hPadding
  obtain ⟨hZero, h⟩ := guard_eq_ok h
  obtain ⟨transaction, hTransaction, h⟩ := bind_eq_ok h
  obtain ⟨writable, hWritable, h⟩ := bind_eq_ok h
  obtain ⟨readonly, hReadonly, h⟩ := bind_eq_ok h
  obtain ⟨hTransactionFits, hTransaction⟩ := bodyRegion_eq_ok (lift_eq_ok hTransaction)
  obtain ⟨hWritableFits, hWritable⟩ := bodyRegion_eq_ok (lift_eq_ok hWritable)
  obtain ⟨hReadonlyFits, hReadonly⟩ := bodyRegion_eq_ok (lift_eq_ok hReadonly)
  obtain ⟨view, hView, h⟩ := bind_eq_ok h
  have hView := mapError_eq_ok (lift_eq_ok hView)
  have hData := tryNew_data hView
  obtain ⟨hVersion, h⟩ := guard_eq_ok h
  obtain ⟨hCounts, h⟩ := guard_eq_ok h
  obtain rfl := Except.ok.inj h
  simp only [not_or, not_not, Bool.not_eq_true, FrameHeaderV1.anyNonzero_eq_false]
    at hVersion hCounts hZero
  -- the equations of the header make the regions meet and fill the body
  have hWords := hLayout.words
  have hPaddingBytes := hLayout.padding
  have hTransactionOffset := hLayout.transactionOffset
  have hWritableOffset := hLayout.writableOffset
  have hReadonlyOffset := hLayout.readonlyOffset
  have hBodyLengths := hLayout.bodyLength
  have hHeaderBytes : frameHeaderBytes = 256 := rfl
  have hFrameLength : frame.length = header.atomicWordCount.toNat * 8 := by
    rw [← hFrame, length_extract (Nat.zero_le _) hFits, hAtomic, Nat.sub_zero]
  have hBodyLength : body.length = header.bodyLength.toNat := by
    rw [← hBody, length_extract (by omega) hBodyFits]
    omega
  have hPaddingLength : padding.length = header.finalPaddingBytes.toNat := by
    rw [← hPadding, length_extract hBodyFits le_rfl]
    omega
  -- each region starts where the one before it ends
  have hRegions : transaction ++ writable ++ readonly = body := by
    have hWhole : body.extract 0 header.bodyLength.toNat = body := by
      rw [← hBodyLength, extract_length]
    rw [← hTransaction, ← hWritable, ← hReadonly, hTransactionOffset, hWritableOffset,
      hReadonlyOffset, Nat.zero_add, extract_append_extract body (Nat.zero_le _) (by omega),
      extract_append_extract body (Nat.zero_le _) (by omega), ← hBodyLengths, hWhole]
  -- what is behind the frame is not looked at
  have hRest : bytes = frame ++ bytes.drop atomicBytes := by
    rw [← hFrame, List.extract_eq_take_drop, List.drop_zero, Nat.sub_zero, List.take_append_drop]
  have hHeader : frame.extract 8 frameHeaderBytes = header.fields.flatten := by
    rw [← hFields, hRest, extract_append_of_le (by omega)]
  refine ⟨⟨hValidate, ?_, hVersion, hCounts.1, hCounts.2, ?_, ?_, ?_, frame.extract 0 8, ?_, ?_⟩,
    _, hRest⟩
  · exact (congrArg tryNew hData).trans hView
  · rw [ValidatedFrame.transactionBytes, hData, ← hTransaction,
      length_extract (by omega) hTransactionFits]
    exact Nat.add_sub_cancel_left ..
  · rw [← hWritable, length_extract (by omega) hWritableFits]
    exact Nat.add_sub_cancel_left ..
  · rw [← hReadonly, length_extract (by omega) hReadonlyFits]
    exact Nat.add_sub_cancel_left ..
  · exact length_extract (by omega) (by omega)
  · rw [ValidatedFrame.transactionBytes, hData, hRegions, ← hHeader, ← hPaddingLength, ← hZero,
      ← hBody, ← hPadding, extract_append_extract frame (by omega) (by omega),
      extract_append_extract frame (by omega) (by omega),
      extract_append_extract frame (by omega) (by omega), extract_length]

-- ---------------------------------------------------------------------------
-- From the shape to an accepted string
-- ---------------------------------------------------------------------------

/-- A frame is as long as its header says: the padding fills the last word, and the word
count was computed from the same sum. -/
theorem ValidatedFrame.Canonical.length {f : ValidatedFrame} (h : f.Canonical) :
    f.frame.length = f.header.atomicWordCount.toNat * 8 := by
  obtain ⟨front, hFront, hFrame⟩ := h.bytes
  have hLayout := FrameHeaderV1.bodyLayout_of_validate h.header_valid
  have hWords := hLayout.words
  have hPadding := hLayout.padding
  have hBody := hLayout.bodyLength
  have hHeaderBytes : frameHeaderBytes = 256 := rfl
  rw [hFrame]
  simp only [List.length_append, hFront, FrameHeaderV1.length_flatten_fields, length_zeros,
    h.transactionLength, h.writableLength, h.readonlyLength]
  omega

/-- A frame starts with its header, whatever its first eight bytes are and whatever
follows. -/
theorem ValidatedFrame.Canonical.decode {f : ValidatedFrame} (h : f.Canonical) (rest : Bytes) :
    FrameHeaderV1.decode (f.frame ++ rest) = .ok f.header := by
  obtain ⟨front, hFront, hFrame⟩ := h.bytes
  have hFields := f.header.length_flatten_fields
  have hSplit : f.frame ++ rest = front ++ f.header.fields.flatten
      ++ (f.transactionBytes ++ f.loadedWritable ++ f.loadedReadonly
        ++ zeros f.header.finalPaddingBytes.toNat ++ rest) := by
    rw [hFrame]
    simp only [List.append_assoc]
  refine FrameHeaderV1.decode_eq_ok.mpr ⟨?_, ?_, h.header_valid⟩
  · rw [hSplit, List.length_append, List.length_append, hFront, hFields,
      show frameHeaderBytes = 256 from rfl]
    omega
  · exact extract_of_append hSplit hFront.symm (by rw [hFields]; rfl)

/-- The bytes of a canonical frame parse to that frame, whatever follows them. Every
read of `parse` is evaluated on the known shape of the bytes, and every check is a field
of `Canonical`. -/
theorem parse_of_canonical {f : ValidatedFrame} (h : f.Canonical) (rest : Bytes) :
    ValidatedFrame.parse (f.frame ++ rest) = .ok f := by
  have hLength := h.length
  obtain ⟨front, hFront, hFrame⟩ := h.bytes
  have hLayout := FrameHeaderV1.bodyLayout_of_validate h.header_valid
  have hWords := hLayout.words
  have hPadding := hLayout.padding
  have hBody := hLayout.bodyLength
  have hHeaderBytes : frameHeaderBytes = 256 := rfl
  have hFields := f.header.length_flatten_fields
  have hData := h.transactionLength
  have hWritable := h.writableLength
  have hReadonly := h.readonlyLength
  have hUnpadded : (front ++ f.header.fields.flatten).length = frameHeaderBytes := by
    rw [List.length_append, hFront, hFields]
    rfl
  have hDecode := h.decode rest
  -- the frame, its body and its padding
  have hAtomic : checkedMul f.header.atomicWordCount.toNat 8 = some f.frame.length := by
    rw [hLength]
    refine checkedMul_of_lt ?_
    have := f.header.atomicWordCount.toNat_lt
    unfold usizeSize
    omega
  have hPrefix := getRange_prefix f.frame rest
  have hEnd : checkedAdd frameHeaderBytes f.header.bodyLength.toNat =
      some (frameHeaderBytes + f.header.bodyLength.toNat) := by
    refine checkedAdd_of_lt ?_
    have := f.header.bodyLength.toNat_lt
    unfold usizeSize
    omega
  have hBodyRange : getRange f.frame frameHeaderBytes
      (frameHeaderBytes + f.header.bodyLength.toNat) =
        some (f.transactionBytes ++ f.loadedWritable ++ f.loadedReadonly) := by
    refine getRange_of_append hFrame hUnpadded.symm ?_
    simp only [List.length_append]
    omega
  have hPaddingRange : (slice f.frame (frameHeaderBytes + f.header.bodyLength.toNat)
      f.frame.length : Except (Fault FrameValidationError) Bytes) =
        .ok (zeros f.header.finalPaddingBytes.toNat) := by
    rw [slice, getRange_of_append (hFrame.trans (List.append_nil _).symm)]
    · rfl
    · rw [List.length_append, hUnpadded]
      simp only [List.length_append]
      omega
    · rw [length_zeros]
      omega
  -- the three regions of the body
  have hTransaction : bodyRegion (f.transactionBytes ++ f.loadedWritable ++ f.loadedReadonly)
      f.header.transactionOffset f.header.transactionLength = .ok f.transactionBytes :=
    bodyRegion_of_append
      (show _ = [] ++ f.transactionBytes ++ (f.loadedWritable ++ f.loadedReadonly) from
        List.append_assoc ..)
      hLayout.transactionOffset hData.symm
  have hWritableRegion : bodyRegion (f.transactionBytes ++ f.loadedWritable ++ f.loadedReadonly)
      f.header.loadedWritableOffset f.header.loadedWritableLength = .ok f.loadedWritable :=
    bodyRegion_of_append rfl (hLayout.writableOffset.trans hData.symm) hWritable.symm
  have hReadonlyRegion : bodyRegion (f.transactionBytes ++ f.loadedWritable ++ f.loadedReadonly)
      f.header.loadedReadonlyOffset f.header.loadedReadonlyLength = .ok f.loadedReadonly :=
    bodyRegion_of_append (List.append_nil _).symm
      (by rw [hLayout.readonlyOffset, List.length_append, hData, hWritable]) hReadonly.symm
  simp only [ValidatedFrame.parse, hDecode, hAtomic, hPrefix, hEnd, hBodyRange, hPaddingRange,
    hTransaction, hWritableRegion, hReadonlyRegion, h.view, ok_bind, okOr_some, lift_ok,
    FrameHeaderV1.anyNonzero_zeros, Except.mapError, h.version, h.writableCount, h.readonlyCount,
    Bool.false_eq_true, ne_eq, not_true_eq_false, or_self, ↓reduceIte]
  rfl

/-- **What `parse` accepts.** A string parses to a frame exactly when the frame is
canonical and the string starts with its bytes. -/
theorem parse_eq_ok {bytes : Bytes} {f : ValidatedFrame} :
    ValidatedFrame.parse bytes = .ok f ↔ f.Canonical ∧ ∃ rest, bytes = f.frame ++ rest := by
  constructor
  · exact parse_inv
  · rintro ⟨hCanonical, rest, rfl⟩
    exact parse_of_canonical hCanonical rest

-- ---------------------------------------------------------------------------
-- Parsing stays inside its input
-- ---------------------------------------------------------------------------

/-- No index or slice of `decode` is ever out of range: the 256 bytes are fetched first,
and every later read is at a constant offset inside them. -/
theorem FrameHeaderV1.decode_noPanic (bytes : Bytes) : NoPanic (FrameHeaderV1.decode bytes) := by
  by_cases hLen : frameHeaderBytes ≤ bytes.length
  · rw [FrameHeaderV1.decode_eq hLen rfl]
    refine .ite (fun _ => .fail _) fun _ => .ite (fun _ => .fail _) fun _ =>
      .ite (fun _ => .fail _) fun _ => .ite (fun _ => .fail _) fun _ =>
      .ite (fun _ => .fail _) fun _ => ?_
    exact .bind (.lift _) fun _ _ => .bind (.lift _) fun _ _ => .bind (.lift _) fun _ _ => .ok _
  · have hRange : getRange bytes 0 frameHeaderBytes = none := if_neg fun h => hLen h.2
    rw [FrameHeaderV1.decode, hRange]
    intro hPanic
    cases hPanic

/-- No index, slice or unwrap of `parse` is ever out of range. -/
theorem parse_noPanic (bytes : Bytes) : NoPanic (ValidatedFrame.parse bytes) := by
  refine .bind (FrameHeaderV1.decode_noPanic bytes) fun header _ => .bind (.lift _) fun _ _ =>
    .bind (.lift _) fun frame _ => .bind (.lift _) fun bodyEnd _ => .bind (.lift _) fun body hBody =>
    .bind ?_ fun _ _ => .ite (fun _ => .fail _) fun _ => ?_
  · -- the padding starts inside the frame because the body ends there
    obtain ⟨⟨-, hFits⟩, -⟩ := getRange_eq_some.mp (okOr_eq_ok (lift_eq_ok hBody))
    rw [slice_of_le hFits le_rfl]
    exact .ok _
  · exact .bind (.lift _) fun _ _ => .bind (.lift _) fun _ _ => .bind (.lift _) fun _ _ =>
      .bind (.lift _) fun _ _ => .ite (fun _ => .fail _) fun _ => .ite (fun _ => .fail _) fun _ =>
      .ok _

end TxStream
