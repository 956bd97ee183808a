import TxStream.Protocol.FrameBounds
import TxStream.Run.Checks

/-!
# When more bytes help

A reader that has only a part of a frame needs to know whether to wait. `parse`
tells it: `TruncatedHeader` and `TruncatedFrame` are its answers as long as the
bytes that decide are not there, and every other answer is final.

Main results:

* `parse_append` — an answer that is not about truncation stays when bytes are
  added.
* `parse_truncation` — how many bytes are missing.
-/

namespace TxStream

open Wire Rust Run

/-- The answers that ask for more bytes. -/
def AsksForMore : Fault FrameValidationError → Prop
  | .err .truncatedHeader | .err .truncatedFrame => True
  | _ => False

-- ---------------------------------------------------------------------------
-- A whole header
-- ---------------------------------------------------------------------------

/-- Overflows are reported as invalid sizes, not as missing bytes. -/
theorem okOr_avoids {ε α : Type} {kind : ε → Prop} {e : ε} (h : ¬ kind e) (o : Option α) :
    Avoids kind (okOr e o) := by
  cases o with
  | none => exact .error h
  | some a => exact .ok a

/-- An answer of `validate` keeps its kind as an answer of `parse`. -/
theorem lift_avoids {α : Type} {r : Except FrameValidationError α}
    (h : Avoids (fun e => AsksForMore (.err e)) r) : Avoids AsksForMore (lift r) :=
  h.mapError fun _ => id

namespace FrameHeaderV1

/-- `validate` does not look at the input. -/
theorem validate_avoids (header : FrameHeaderV1) :
    Avoids (fun e => AsksForMore (.err e)) header.validate := by
  unfold validate
  refine .ite (.error id) (.ite (.error id) (.ite (.error id) ?_))
  -- the lengths
  refine .ite (.error id) (.bind (okOr_avoids id _) fun frameLength => ?_)
  refine .bind (okOr_avoids id _) fun paddedLength => .ite (.error id) (.ite (.error id) ?_)
  -- the regions
  refine .bind (okOr_avoids id _) fun transactionEnd => ?_
  refine .bind (okOr_avoids id _) fun writableEnd => ?_
  refine .bind (okOr_avoids id _) fun readonlyEnd => .ite (.error id) ?_
  -- the keys
  refine .bind (okOr_avoids id _) fun expectedWritableLength => ?_
  refine .bind (okOr_avoids id _) fun expectedReadonlyLength => .ite (.error id) ?_
  exact .ite (.error id) (.ite (.error id) (.ok ()))

/-- An unknown version byte is there, so it is no question of length. -/
theorem version_avoids (value : UInt8) :
    Avoids (fun e => AsksForMore (.err e)) (MessageVersion.decode value) := by
  unfold MessageVersion.decode
  exact .ite (.ok _) (.ite (.ok _) (.ite (.ok _) (.error id)))

/-- Unknown flags are no question of length either. -/
theorem flags_avoids (bits : UInt32) :
    Avoids (fun e => AsksForMore (.err e)) (FrameFlags.fromBits bits) := by
  unfold FrameFlags.fromBits
  split
  · exact .ok _
  · exact .error id

/-- With 256 bytes `decode` does not ask for more. -/
theorem decode_avoids {bytes : Bytes} (hLen : frameHeaderBytes ≤ bytes.length) :
    Avoids AsksForMore (decode bytes) := by
  rw [decode_eq hLen rfl]
  refine .ite (.error id) (.ite (.error id) (.ite (.error id) (.ite (.error id) ?_)))
  refine .ite (.error id) (.bind (lift_avoids (version_avoids _)) fun messageVersion => ?_)
  refine .bind (lift_avoids (flags_avoids _)) fun flags => ?_
  exact .bind (lift_avoids (validate_avoids _)) fun _ => .ok _

end FrameHeaderV1

-- ---------------------------------------------------------------------------
-- A whole frame
-- ---------------------------------------------------------------------------

/-- A header that is refused is the answer of `parse`. -/
theorem parse_of_decode_error {bytes : Bytes} {fault : Fault FrameValidationError}
    (h : FrameHeaderV1.decode bytes = .error fault) : ValidatedFrame.parse bytes = .error fault := by
  unfold ValidatedFrame.parse
  rw [h]
  rfl

/-- Once the reads are done, nothing asks for more. -/
theorem parseRegions_avoids (header : FrameHeaderV1)
    (frame padding transaction writable readonly : Bytes) :
    Avoids AsksForMore (parseRegions header frame padding transaction writable readonly) := by
  unfold parseRegions
  refine .ite (.error id) ?_
  cases tryNew transaction with
  | error e => exact .error id
  | ok view => exact .ite (.error id) (.ite (.error id) (.ok _))

/-- With its header and all declared words there, a frame does not ask for more. -/
theorem parse_avoids {bytes : Bytes} {header : FrameHeaderV1}
    (hDecode : FrameHeaderV1.decode bytes = .ok header)
    (hLong : 8 * header.atomicWordCount.toNat ≤ bytes.length) :
    Avoids AsksForMore (ValidatedFrame.parse bytes) := by
  obtain ⟨-, -, hValid⟩ := FrameHeaderV1.decode_eq_ok.mp hDecode
  obtain ⟨frame, body, padding, transaction, writable, readonly, hReads⟩ :=
    exists_frameReads hValid hLong
  rw [parse_of_reads hDecode hReads]
  exact parseRegions_avoids header frame padding transaction writable readonly

/-- `decode` reads 256 bytes and no more. -/
theorem decode_append {bytes : Bytes} (hLen : frameHeaderBytes ≤ bytes.length) (rest : Bytes) :
    FrameHeaderV1.decode (bytes ++ rest) = FrameHeaderV1.decode bytes := by
  refine FrameHeaderV1.decode_congr fun i _ hHigh => ?_
  rw [List.getElem?_append_left (by omega)]

/-- The reads behind the header do not look behind the declared words. -/
theorem parse_append_of_words {bytes : Bytes} {header : FrameHeaderV1}
    (hDecode : FrameHeaderV1.decode bytes = .ok header)
    (hLong : 8 * header.atomicWordCount.toNat ≤ bytes.length) (rest : Bytes) :
    ValidatedFrame.parse (bytes ++ rest) = ValidatedFrame.parse bytes := by
  obtain ⟨hLen, -, hValid⟩ := FrameHeaderV1.decode_eq_ok.mp hDecode
  obtain ⟨frame, body, padding, transaction, writable, readonly, hReads⟩ :=
    exists_frameReads hValid hLong
  obtain ⟨-, hFrame⟩ := getRange_eq_some.mp hReads.frame_eq
  -- the slot is cut out of the input first, and every other read is in it
  have hReads' : FrameReads header (bytes ++ rest) frame body padding transaction writable
      readonly := by
    refine { hReads with frame_eq := getRange_eq_some.mpr ⟨⟨Nat.zero_le _, ?_⟩, ?_⟩ }
    · rw [List.length_append]
      omega
    · rw [extract_append_of_le hLong, hFrame]
  rw [parse_of_reads hDecode hReads,
    parse_of_reads ((decode_append hLen rest).trans hDecode) hReads']

/-- The three ways in which an input can be short or not. -/
theorem length_cases (bytes : Bytes) :
    (bytes.length < frameHeaderBytes ∧
      ValidatedFrame.parse bytes = .error (.err .truncatedHeader)) ∨
    (∃ header, FrameHeaderV1.decode bytes = .ok header ∧
      bytes.length < 8 * header.atomicWordCount.toNat ∧
      ValidatedFrame.parse bytes = .error (.err .truncatedFrame)) ∨
    (frameHeaderBytes ≤ bytes.length ∧
      (∀ header, FrameHeaderV1.decode bytes = .ok header →
        8 * header.atomicWordCount.toNat ≤ bytes.length) ∧
      Avoids AsksForMore (ValidatedFrame.parse bytes) ∧
      ∀ rest, ValidatedFrame.parse (bytes ++ rest) = ValidatedFrame.parse bytes) := by
  by_cases hLen : frameHeaderBytes ≤ bytes.length
  · refine Or.inr ?_
    cases hDecode : FrameHeaderV1.decode bytes with
    | error fault =>
      refine Or.inr ⟨hLen, nofun, ?_, fun rest => ?_⟩
      · rw [parse_of_decode_error hDecode]
        exact .error (FrameHeaderV1.decode_avoids hLen fault hDecode)
      · rw [parse_of_decode_error hDecode,
          parse_of_decode_error ((decode_append hLen rest).trans hDecode)]
    | ok header =>
      by_cases hLong : 8 * header.atomicWordCount.toNat ≤ bytes.length
      · refine Or.inr ⟨hLen, ?_, parse_avoids hDecode hLong, parse_append_of_words hDecode hLong⟩
        rintro header' ⟨⟩
        exact hLong
      · exact Or.inl ⟨header, rfl, not_le.mp hLong, parse_of_short hDecode (not_le.mp hLong)⟩
  · exact Or.inl ⟨not_le.mp hLen, parse_of_decode_error
      (FrameHeaderV1.decode_of_short (not_le.mp hLen))⟩

/-- `TruncatedHeader` is the answer to inputs shorter than a header, whatever is in
them. -/
theorem truncatedHeader_iff {bytes : Bytes} :
    ValidatedFrame.parse bytes = .error (.err .truncatedHeader) ↔
      bytes.length < frameHeaderBytes := by
  rcases length_cases bytes with ⟨hShort, hParse⟩ | ⟨header, hDecode, -, hParse⟩ | ⟨hLen, -, h, -⟩
  · exact iff_of_true hParse hShort
  · obtain ⟨hLen, -, -⟩ := FrameHeaderV1.decode_eq_ok.mp hDecode
    rw [hParse]
    exact iff_of_false nofun (not_lt.mpr hLen)
  · exact iff_of_false (fun hParse => h _ hParse trivial) (not_lt.mpr hLen)

/-- `TruncatedFrame` is the answer to inputs with a valid header that are shorter than
its words. An invalid header is reported first. -/
theorem truncatedFrame_iff {bytes : Bytes} :
    ValidatedFrame.parse bytes = .error (.err .truncatedFrame) ↔
      ∃ header, FrameHeaderV1.decode bytes = .ok header ∧
        bytes.length < 8 * header.atomicWordCount.toNat := by
  -- one direction is `parse_of_short`; for the other, an input of that length avoids the
  -- answer
  rcases length_cases bytes with ⟨hShort, hParse⟩ | ⟨header, hDecode, hShort, hParse⟩ |
    ⟨-, hLong, h, -⟩
  · rw [hParse]
    refine iff_of_false nofun ?_
    rintro ⟨header, hDecode, -⟩
    exact absurd (FrameHeaderV1.decode_eq_ok.mp hDecode).1 (not_le.mpr hShort)
  · exact iff_of_true hParse ⟨header, hDecode, hShort⟩
  · refine iff_of_false (fun hParse => h _ hParse trivial) ?_
    rintro ⟨header, hDecode, hShort⟩
    exact absurd (hLong header hDecode) (not_le.mpr hShort)

/-- **Final answers.** An answer that does not ask for more stays when bytes are
added. -/
theorem parse_append {bytes : Bytes} (h : Avoids AsksForMore (ValidatedFrame.parse bytes))
    (rest : Bytes) : ValidatedFrame.parse (bytes ++ rest) = ValidatedFrame.parse bytes := by
  rcases length_cases bytes with ⟨-, hParse⟩ | ⟨header, -, -, hParse⟩ | ⟨-, -, -, hAppend⟩
  · exact absurd trivial (h _ hParse)
  · exact absurd trivial (h _ hParse)
  · exact hAppend rest

/-- A whole slot never asks for more. -/
theorem parse_slot_avoids {bytes : Bytes} (hSlot : slotStrideBytes ≤ bytes.length) :
    Avoids AsksForMore (ValidatedFrame.parse bytes) := by
  have hSizes : frameHeaderBytes = 256 ∧ frameBodyCapacity = 12032 ∧ slotStrideBytes = 12288 :=
    ⟨rfl, rfl, rfl⟩
  rcases length_cases bytes with ⟨hShort, -⟩ | ⟨header, hDecode, hShort, -⟩ | ⟨-, -, h, -⟩
  · omega
  · obtain ⟨-, -, hValid⟩ := FrameHeaderV1.decode_eq_ok.mp hDecode
    have hLayout := FrameHeaderV1.bodyLayout_of_validate hValid
    have hWords := hLayout.words
    have hCapacity := hLayout.capacity
    -- 256 + 12032 bytes are exactly a slot, and the padding ends on a word
    omega
  · exact h

/-- **How many bytes are missing.** On every input:

* `TruncatedHeader` says that 256 bytes are not there, and `TruncatedFrame` that
  the words of a valid header are not;
* every other answer is final: it is the answer to all longer inputs;
* with a valid header, more bytes are asked for up to exactly the declared words;
* nothing is asked for behind a slot. -/
theorem parse_truncation (bytes : Bytes) :
    (ValidatedFrame.parse bytes = .error (.err .truncatedHeader) ↔
      bytes.length < frameHeaderBytes) ∧
    (ValidatedFrame.parse bytes = .error (.err .truncatedFrame) ↔
      ∃ header, FrameHeaderV1.decode bytes = .ok header ∧
        bytes.length < 8 * header.atomicWordCount.toNat) ∧
    (Avoids AsksForMore (ValidatedFrame.parse bytes) →
      ∀ rest, ValidatedFrame.parse (bytes ++ rest) = ValidatedFrame.parse bytes) ∧
    (∀ header, FrameHeaderV1.decode bytes = .ok header → ∀ rest,
      (¬ Avoids AsksForMore (ValidatedFrame.parse (bytes ++ rest)) ↔
        bytes.length + rest.length < 8 * header.atomicWordCount.toNat)) ∧
    ∀ rest, slotStrideBytes ≤ bytes.length + rest.length →
      Avoids AsksForMore (ValidatedFrame.parse (bytes ++ rest)) := by
  refine ⟨truncatedHeader_iff, truncatedFrame_iff, parse_append, ?_, ?_⟩
  · intro header hDecode rest
    obtain ⟨hLen, -, -⟩ := FrameHeaderV1.decode_eq_ok.mp hDecode
    have hDecode' := (decode_append hLen rest).trans hDecode
    rw [← List.length_append]
    by_cases hLong : 8 * header.atomicWordCount.toNat ≤ (bytes ++ rest).length
    · exact iff_of_false (not_not.mpr (parse_avoids hDecode' hLong)) (not_lt.mpr hLong)
    · have hParse := parse_of_short hDecode' (not_le.mp hLong)
      exact iff_of_true (fun h => h _ hParse trivial) (not_le.mp hLong)
  · intro rest hSlot
    rw [← List.length_append] at hSlot
    exact parse_slot_avoids hSlot

/-- A header alone asks for the words that it declares, and the sample frame for
nothing. -/
theorem parse_truncation_sample :
    ValidatedFrame.parse FrameHeaderV1.sampleHeader.encode = .error (.err .truncatedFrame) ∧
      ∀ rest, ValidatedFrame.parse (sampleParts.frame sampleMetadata ++ rest) =
        ValidatedFrame.parse (sampleParts.frame sampleMetadata) := by
  have hDecode : FrameHeaderV1.decode FrameHeaderV1.sampleHeader.encode =
      .ok FrameHeaderV1.sampleHeader := by
    rw [FrameHeaderV1.decode_encode]
    rfl
  have hParse : ValidatedFrame.parse (sampleParts.frame sampleMetadata) =
      .ok (sampleParts.validated sampleMetadata sampleV0.view) := by
    have h := parse_of_canonical sampleParts_encodable.canonical []
    rwa [List.append_nil] at h
  obtain ⟨-, hFrame, -⟩ := parse_truncation FrameHeaderV1.sampleHeader.encode
  obtain ⟨-, -, hFinal, -⟩ := parse_truncation (sampleParts.frame sampleMetadata)
  refine ⟨hFrame.mpr ⟨_, hDecode, ?_⟩, hFinal ?_⟩
  · rw [FrameHeaderV1.length_encode]
    decide
  · rw [hParse]
    exact .ok _

end TxStream
