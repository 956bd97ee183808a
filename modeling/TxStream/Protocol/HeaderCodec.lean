import TxStream.Protocol.FrameHeader

/-!
# The header codec is exact

`encode` and `decode` agree on every header, not only on those the encoder
assembles, and `decode` looks at the bytes from offset 8 to offset 256 alone.

Main results:

* `FrameHeaderV1.decode_congr` — what `decode` does not look at.
* `FrameHeaderV1.header_codec` — encoding and decoding undo each other.
-/

namespace TxStream

open Wire Rust

-- ---------------------------------------------------------------------------
-- Slices and bytes
-- ---------------------------------------------------------------------------

/-- The byte at an offset of a slice. -/
theorem getElem?_extract {bs : Bytes} {start stop i : Nat} (hStart : start ≤ i) (hStop : i < stop) :
    (bs.extract start stop)[i - start]? = bs[i]? := by
  rw [List.extract_eq_take_drop, List.getElem?_take_of_lt (by omega), List.getElem?_drop]
  congr 1
  omega

/-- Slices are equal when their bytes are. -/
theorem extract_congr {bs bs' : Bytes} {start stop : Nat}
    (h : ∀ i, start ≤ i → i < stop → bs[i]? = bs'[i]?) :
    bs.extract start stop = bs'.extract start stop := by
  apply List.ext_getElem?
  intro i
  rw [List.extract_eq_take_drop, List.extract_eq_take_drop]
  by_cases hi : i < stop - start
  · rw [List.getElem?_take_of_lt hi, List.getElem?_take_of_lt hi, List.getElem?_drop,
      List.getElem?_drop]
    exact h _ (by omega) (by omega)
  · rw [List.getElem?_take_eq_none (by omega), List.getElem?_take_eq_none (by omega)]

namespace FrameHeaderV1

-- ---------------------------------------------------------------------------
-- What `decode` looks at
-- ---------------------------------------------------------------------------

/-- A string without 256 bytes does not decode. -/
theorem decode_of_short {bytes : Bytes} (hShort : bytes.length < frameHeaderBytes) :
    decode bytes = .error (.err .truncatedHeader) := by
  have hRange : getRange bytes 0 frameHeaderBytes = none :=
    if_neg fun h => absurd h.2 (not_le.mpr hShort)
  unfold decode
  rw [hRange]
  rfl

/-- Strings of at least 256 bytes that agree from offset 8 to offset 256 decode
alike. -/
theorem decode_eq_of_extract {bytes bytes' : Bytes} (hLen : frameHeaderBytes ≤ bytes.length)
    (hLen' : frameHeaderBytes ≤ bytes'.length)
    (hAgree : ∀ i, 8 ≤ i → i < frameHeaderBytes → bytes[i]? = bytes'[i]?) :
    decode bytes = decode bytes' := by
  rw [decode_eq hLen rfl, decode_eq hLen' rfl]
  have hByte : ∀ i, 8 ≤ i → i < 256 →
      (bytes.extract 0 frameHeaderBytes)[i]? = (bytes'.extract 0 frameHeaderBytes)[i]? := by
    intro i hLow hHigh
    have hLeft := @getElem?_extract bytes 0 frameHeaderBytes i (Nat.zero_le _) hHigh
    have hRight := @getElem?_extract bytes' 0 frameHeaderBytes i (Nat.zero_le _) hHigh
    exact hLeft.trans ((hAgree i hLow hHigh).trans hRight.symm)
  generalize bytes.extract 0 frameHeaderBytes = bs at hByte
  generalize bytes'.extract 0 frameHeaderBytes = bs' at hByte
  -- every read of `decode` lies between the two offsets
  have hSlice : ∀ a b, 8 ≤ a ∧ b ≤ 256 → bs.extract a b = bs'.extract a b := by
    intro a b hab
    exact extract_congr fun i hLow hHigh => hByte i (by omega) (by omega)
  have hIndex : ∀ i, 8 ≤ i ∧ i < 256 → bs.getD i 0 = bs'.getD i 0 := by
    intro i hi
    rw [List.getD_eq_getElem?_getD, List.getD_eq_getElem?_getD, hByte i hi.1 hi.2]
  have hHeader : ∀ version flags, readHeader bs version flags = readHeader bs' version flags := by
    intro version flags
    unfold readHeader
    simp (disch := decide) only [hSlice, hIndex]
  simp (disch := decide) only [hSlice, hIndex, hHeader]

/-- **What `decode` does not look at**: the first eight bytes and everything
from offset 256 on. -/
theorem decode_congr {bytes bytes' : Bytes}
    (hAgree : ∀ i, 8 ≤ i → i < frameHeaderBytes → bytes[i]? = bytes'[i]?) :
    decode bytes = decode bytes' := by
  -- whether the last byte is there decides whether 256 bytes are
  have hLast : bytes[255]? = bytes'[255]? := hAgree 255 (by decide) (by decide)
  by_cases hLen : frameHeaderBytes ≤ bytes.length
  · refine decode_eq_of_extract hLen ?_ hAgree
    rw [List.getElem?_eq_getElem hLen] at hLast
    exact (List.getElem?_eq_some_iff.mp hLast.symm).1
  · have hNone : bytes[255]? = none := List.getElem?_eq_none (Nat.le_of_not_lt hLen)
    have hShort : bytes'.length < frameHeaderBytes := by
      rw [hNone] at hLast
      exact Nat.lt_succ_of_le (List.getElem?_eq_none_iff.mp hLast.symm)
    rw [decode_of_short (not_le.mp hLen), decode_of_short hShort]

-- ---------------------------------------------------------------------------
-- Encoding and decoding
-- ---------------------------------------------------------------------------

/-- An encoded header has 256 bytes. -/
theorem length_encode (h : FrameHeaderV1) : h.encode.length = frameHeaderBytes := by
  rw [encode_eq, List.length_append, List.length_flatten, length_fields, length_zeros]
  rfl

/-- The bytes of an encoded header from offset 8 on are its fields. -/
theorem extract_encode (h : FrameHeaderV1) :
    h.encode.extract 8 frameHeaderBytes = h.fields.flatten := by
  have hFields : h.fields.flatten.length = 248 := by
    rw [List.length_flatten, length_fields]
    rfl
  refine extract_of_append ((encode_eq h).trans (List.append_nil _).symm) rfl ?_
  rw [hFields]
  rfl

/-- An encoded header decodes to itself if it is valid, and is refused as
`validate` refuses it otherwise. -/
theorem decode_encode (h : FrameHeaderV1) :
    decode h.encode = (lift h.validate).map fun _ => h :=
  decode_of_flatten (length_encode h).ge (extract_encode h)

/-- A decoded header is valid, and encoding it gives the bytes it was read from,
the first eight apart. -/
theorem encode_of_decode {bytes : Bytes} {h : FrameHeaderV1} (hDecode : decode bytes = .ok h) :
    h.encode = zeros 8 ++ bytes.extract 8 frameHeaderBytes := by
  obtain ⟨-, hFields, -⟩ := decode_eq_ok.mp hDecode
  rw [encode_eq, hFields]

/-- **The header codec is exact.** For every header, decoding its encoding gives
the header back, or the error of `validate`. For every byte string that decodes,
the header is valid and its encoding is the first 256 bytes of the string with
zeros at the offsets 0 to 7. Strings that agree from offset 8 to offset 256
decode alike. -/
theorem header_codec :
    (∀ h : FrameHeaderV1,
      (h.validate = .ok () → decode h.encode = .ok h) ∧
      ∀ e, h.validate = .error e → decode h.encode = .error (.err e)) ∧
    (∀ (bytes : Bytes) (h : FrameHeaderV1), decode bytes = .ok h →
      h.validate = .ok () ∧ frameHeaderBytes ≤ bytes.length ∧
        h.encode.length = frameHeaderBytes ∧
        (∀ i, i < 8 → h.encode[i]? = some 0) ∧
        ∀ i, 8 ≤ i → i < frameHeaderBytes → h.encode[i]? = bytes[i]?) ∧
    ∀ bytes bytes' : Bytes,
      (∀ i, 8 ≤ i → i < frameHeaderBytes → bytes[i]? = bytes'[i]?) →
      decode bytes = decode bytes' := by
  refine ⟨?_, ?_, fun bytes bytes' hAgree => decode_congr hAgree⟩
  · intro h
    rw [decode_encode]
    constructor
    · intro hValid
      rw [hValid]
      rfl
    · intro e hInvalid
      rw [hInvalid]
      rfl
  · intro bytes h hDecode
    obtain ⟨hLen, -, hValid⟩ := decode_eq_ok.mp hDecode
    have hEncode := encode_of_decode hDecode
    refine ⟨hValid, hLen, length_encode h, ?_, ?_⟩
    · intro i hi
      rw [hEncode, List.getElem?_append_left (by rw [length_zeros]; exact hi), zeros,
        List.getElem?_replicate_of_lt hi]
    · intro i hLow hHigh
      rw [hEncode, List.getElem?_append_right (by rw [length_zeros]; exact hLow), length_zeros,
        getElem?_extract hLow hHigh]

/-- The header of a frame with a legacy transaction of 200 bytes. -/
def sampleHeader : FrameHeaderV1 where
  messageVersion := .legacy
  earliestSource := 1
  flags := .naturalReady
  bodyLength := 200
  atomicWordCount := 57
  producerEpoch := 7
  canonicalSequence := 42
  slot := 300
  prefixGeneration := 1
  contributingSourceMask := 1
  firstDataShredIndex := 10
  lastDataShredIndex := 12
  dataSetStartingShredIndex := 0
  completedDataSetEndingShredIndexExclusive := 0
  entryOrdinal := 2
  transactionOrdinal := 3
  transactionOffset := 0
  transactionLength := 200
  loadedWritableOffset := 200
  loadedWritableLength := 0
  loadedReadonlyOffset := 200
  loadedReadonlyLength := 0
  loadedWritableCount := 0
  loadedReadonlyCount := 0
  finalPaddingBytes := 0
  firstShredReceiveNs := 100
  transactionCompleteNs := 200
  lutResolutionCompleteNs := 200
  publicationStartNs := 300

/-- The sample is decoded from its encoding, and refused once its epoch is zero. -/
theorem header_codec_sample :
    decode sampleHeader.encode = .ok sampleHeader ∧
    decode ({ sampleHeader with producerEpoch := 0 } : FrameHeaderV1).encode =
      .error (.err .invalidIdentity) ∧
    (∀ i, i < 8 → sampleHeader.encode[i]? = some 0) ∧
    decode ([1, 2, 3, 4, 5, 6, 7, 8] ++ sampleHeader.encode.drop 8) =
      decode ([8, 7, 6, 5, 4, 3, 2, 1] ++ sampleHeader.encode.drop 8) := by
  obtain ⟨hEncode, hDecode, hAgree⟩ := header_codec
  have hSample : decode sampleHeader.encode = .ok sampleHeader := (hEncode _).1 (by decide)
  refine ⟨hSample, (hEncode _).2 _ (by decide), (hDecode _ _ hSample).2.2.2.1, ?_⟩
  refine hAgree _ _ fun i hLow _ => ?_
  rw [List.getElem?_append_right hLow, List.getElem?_append_right hLow]
  rfl

end FrameHeaderV1

end TxStream
