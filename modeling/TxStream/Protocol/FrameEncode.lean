import TxStream.Protocol.FrameParse

/-!
# What `FrameEncoder::encode_into` writes

For given parts there is one frame: the header with the computed lengths, the
regions, and padding to whole words. A call either fails and leaves the buffer
alone or puts this frame at the front of the buffer.

Main results:

* `FrameParts.Encodable.canonical` — the frame is canonical, so it parses.
* `FrameEncoder.encodeInto_eq` — the result once the transaction is accepted.
* `FrameEncoder.encodeInto_cases` — the result in general.
-/

namespace TxStream

open Wire Rust

-- ---------------------------------------------------------------------------
-- The frame of given parts
-- ---------------------------------------------------------------------------

namespace FrameParts

variable (parts : FrameParts)

/-- The writable keys, one behind the other. -/
def writableBytes : Bytes := parts.loadedWritable.flatMap FixedBytes.toList

/-- The readonly keys, one behind the other. -/
def readonlyBytes : Bytes := parts.loadedReadonly.flatMap FixedBytes.toList

/-- The length of the body: the transaction and the keys. -/
def bodyLength : Nat :=
  parts.transaction.length + parts.loadedWritable.length * keyBytes
    + parts.loadedReadonly.length * keyBytes

/-- The length of the frame, padded to words. -/
def frameLength : Nat := (frameHeaderBytes + parts.bodyLength + 7) / 8 * 8

/-- The header of the frame of these parts: what the metadata says, and the computed
lengths. The conversions to the types of the fields can cut a number off here; for
accepted parts they do not. -/
def header (metadata : FrameMetadataV1) : FrameHeaderV1 where
  messageVersion := metadata.messageVersion
  earliestSource := metadata.earliestSource
  flags := metadata.flags
  bodyLength := UInt32.ofNat parts.bodyLength
  atomicWordCount := UInt32.ofNat (parts.frameLength / 8)
  producerEpoch := metadata.producerEpoch
  canonicalSequence := metadata.canonicalSequence
  slot := metadata.slot
  prefixGeneration := metadata.prefixGeneration
  contributingSourceMask := metadata.contributingSourceMask
  firstDataShredIndex := metadata.firstDataShredIndex
  lastDataShredIndex := metadata.lastDataShredIndex
  dataSetStartingShredIndex := metadata.dataSetStartingShredIndex
  completedDataSetEndingShredIndexExclusive := metadata.completedDataSetEndingShredIndexExclusive
  entryOrdinal := metadata.entryOrdinal
  transactionOrdinal := metadata.transactionOrdinal
  transactionOffset := 0
  transactionLength := UInt32.ofNat parts.transaction.length
  loadedWritableOffset := UInt32.ofNat parts.transaction.length
  loadedWritableLength := UInt32.ofNat (parts.loadedWritable.length * keyBytes)
  loadedReadonlyOffset :=
    UInt32.ofNat (parts.transaction.length + parts.loadedWritable.length * keyBytes)
  loadedReadonlyLength := UInt32.ofNat (parts.loadedReadonly.length * keyBytes)
  loadedWritableCount := UInt16.ofNat parts.loadedWritable.length
  loadedReadonlyCount := UInt16.ofNat parts.loadedReadonly.length
  finalPaddingBytes :=
    UInt8.ofNat (parts.frameLength - (frameHeaderBytes + parts.bodyLength))
  firstShredReceiveNs := metadata.firstShredReceiveNs
  transactionCompleteNs := metadata.transactionCompleteNs
  lutResolutionCompleteNs := metadata.lutResolutionCompleteNs
  publicationStartNs := metadata.publicationStartNs

/-- The frame of these parts. -/
def frame (metadata : FrameMetadataV1) : Bytes :=
  (parts.header metadata).encode
    ++ (parts.transaction ++ parts.writableBytes ++ parts.readonlyBytes)
    ++ zeros (parts.frameLength - (frameHeaderBytes + parts.bodyLength))

/-- What `encode_into` asks of its arguments, the size of the buffer apart. -/
structure Encodable (metadata : FrameMetadataV1) (view : SanitizedTransactionView) : Prop where
  accepted : tryNew parts.transaction = .ok view
  version : view.messageVersion = metadata.messageVersion
  writableCount : view.totalWritableLookupAccounts.toNat = parts.loadedWritable.length
  readonlyCount : view.totalReadonlyLookupAccounts.toNat = parts.loadedReadonly.length
  header_valid : (parts.header metadata).validate = .ok ()

/-- The frame that `parse` finds in what was encoded. -/
def validated (metadata : FrameMetadataV1) (view : SanitizedTransactionView) : ValidatedFrame where
  header := parts.header metadata
  frame := parts.frame metadata
  transactionView := view
  loadedWritable := parts.writableBytes
  loadedReadonly := parts.readonlyBytes

end FrameParts

/-- The transaction and its loaded keys take at most 9392 bytes. A packet has 1232 bytes
and loads fewer than 256 keys, since it has at least one of its own; a v1 transaction
has 4096 bytes and loads nothing. -/
theorem Accepted.body_le {bytes : Bytes} {view : SanitizedTransactionView}
    (h : Accepted bytes view) :
    bytes.length + view.totalWritableLookupAccounts.toNat * keyBytes
      + view.totalReadonlyLookupAccounts.toNat * keyBytes ≤ 9392 := by
  cases h with
  | packet tx hValid _ hSanitary _ hShort =>
    have hKeys := hValid.one_le_keys
    have hTotal := hSanitary.total_le
    unfold PacketTransaction.totalAccounts at hTotal
    have hWritable : tx.view.totalWritableLookupAccounts.toNat = writableSum tx.lookups :=
      UInt16.toNat_ofNat_of_lt' (by unfold UInt16.size; omega)
    have hReadonly : tx.view.totalReadonlyLookupAccounts.toNat = readonlySum tx.lookups :=
      UInt16.toNat_ofNat_of_lt' (by unfold UInt16.size; omega)
    rw [hWritable, hReadonly]
    unfold keyBytes
    omega
  | v1 tx _ _ _ hShort =>
    have hNone : tx.view.totalWritableLookupAccounts.toNat * keyBytes
        + tx.view.totalReadonlyLookupAccounts.toNat * keyBytes = 0 := rfl
    omega

namespace FrameParts

variable {parts : FrameParts} {metadata : FrameMetadataV1} {view : SanitizedTransactionView}

/-- Each key takes 32 bytes. -/
theorem length_writableBytes (parts : FrameParts) :
    parts.writableBytes.length = parts.loadedWritable.length * keyBytes :=
  length_flatMap_toList _

/-- Each key takes 32 bytes. -/
theorem length_readonlyBytes (parts : FrameParts) :
    parts.readonlyBytes.length = parts.loadedReadonly.length * keyBytes :=
  length_flatMap_toList _

/-- Parts whose counts are those of an accepted transaction fit a frame. -/
theorem bodyLength_le (hView : tryNew parts.transaction = .ok view)
    (hWritable : view.totalWritableLookupAccounts.toNat = parts.loadedWritable.length)
    (hReadonly : view.totalReadonlyLookupAccounts.toNat = parts.loadedReadonly.length) :
    parts.bodyLength ≤ 9392 := by
  have h := (tryNew_eq_ok.mp hView).body_le
  rw [hWritable, hReadonly] at h
  exact h

/-- The lengths of a frame of bounded size survive the conversions to the
header's types. -/
theorem header_toNat (metadata : FrameMetadataV1) (hBody : parts.bodyLength ≤ 9392) :
    (parts.header metadata).bodyLength.toNat = parts.bodyLength
      ∧ (parts.header metadata).transactionLength.toNat = parts.transaction.length
      ∧ (parts.header metadata).loadedWritableLength.toNat = parts.writableBytes.length
      ∧ (parts.header metadata).loadedReadonlyLength.toNat = parts.readonlyBytes.length
      ∧ (parts.header metadata).atomicWordCount.toNat * 8 = parts.frameLength
      ∧ (parts.header metadata).finalPaddingBytes.toNat =
        parts.frameLength - (frameHeaderBytes + parts.bodyLength) := by
  have hLength : parts.frameLength = (frameHeaderBytes + parts.bodyLength + 7) / 8 * 8 := rfl
  have hHeaderBytes : frameHeaderBytes = 256 := rfl
  have hSum : parts.bodyLength = parts.transaction.length + parts.writableBytes.length
      + parts.readonlyBytes.length := by
    rw [length_writableBytes, length_readonlyBytes]
    rfl
  -- all the lengths are small numbers
  have hSize : ∀ n ≤ 9700, (UInt32.ofNat n).toNat = n := fun n hn =>
    UInt32.toNat_ofNat_of_lt' (by unfold UInt32.size; omega)
  refine ⟨hSize _ (by omega), hSize _ (by omega), ?_, ?_, ?_, ?_⟩
  · rw [length_writableBytes] at hSum ⊢
    exact hSize _ (by omega)
  · rw [length_readonlyBytes] at hSum ⊢
    exact hSize _ (by omega)
  · rw [show (parts.header metadata).atomicWordCount = UInt32.ofNat (parts.frameLength / 8) from rfl,
      hSize _ (by omega)]
    omega
  · exact UInt8.toNat_ofNat_of_lt' (by unfold UInt8.size; omega)

/-- What is encoded is a canonical frame. -/
theorem Encodable.canonical (h : parts.Encodable metadata view) :
    (parts.validated metadata view).Canonical := by
  have hBody := bodyLength_le h.accepted h.writableCount h.readonlyCount
  obtain ⟨-, hTransaction, hWritable, hReadonly, -, hPadding⟩ := header_toNat metadata hBody
  have hData : (parts.validated metadata view).transactionBytes = parts.transaction :=
    tryNew_data h.accepted
  refine ⟨h.header_valid, ?_, h.version, ?_, ?_, ?_, hWritable.symm, hReadonly.symm, zeros 8,
    length_zeros 8, ?_⟩
  · rw [hData]
    exact h.accepted
  · exact (UInt16.ofNat_toNat ..).symm.trans (congrArg UInt16.ofNat h.writableCount)
  · exact (UInt16.ofNat_toNat ..).symm.trans (congrArg UInt16.ofNat h.readonlyCount)
  · rw [hData]
    exact hTransaction.symm
  · rw [hData]
    show parts.frame metadata = _
    rw [frame, FrameHeaderV1.encode_eq]
    exact congrArg (_ ++ zeros ·) hPadding.symm

/-- The encoded header takes the first 256 bytes. -/
theorem length_header (parts : FrameParts) (metadata : FrameMetadataV1) :
    (parts.header metadata).encode.length = frameHeaderBytes := by
  rw [FrameHeaderV1.encode_eq, List.length_append, FrameHeaderV1.length_flatten_fields]
  rfl

/-- The frame has the length that is returned. -/
theorem length_frame (metadata : FrameMetadataV1) (h : parts.Encodable metadata view) :
    (parts.frame metadata).length = parts.frameLength := by
  have hBody := bodyLength_le h.accepted h.writableCount h.readonlyCount
  obtain ⟨-, -, -, -, hWords, -⟩ := header_toNat metadata hBody
  rw [← hWords]
  exact h.canonical.length

end FrameParts

-- ---------------------------------------------------------------------------
-- Running the encoder
-- ---------------------------------------------------------------------------

namespace FrameEncoder

/-- A copy of the right length replaces what stood there and nothing else, and does not
panic. -/
theorem copy_eq {output front old rest source : Bytes} {start stop : Nat}
    (hEq : output = front ++ old ++ rest) (hStart : start = front.length)
    (hStop : stop = start + source.length) (hLen : source.length = old.length) :
    copy start stop source output = .ok () (front ++ source ++ rest) := by
  subst hEq hStop hStart
  rw [copy, get_bind, copyFromSlice_append hLen, expect_some, run_bind]
  rfl

/-- Writing at the end of what has been written takes up the zeros behind it. -/
theorem copy_zeros {front rest source : Bytes} {start stop free : Nat}
    (hStart : start = front.length) (hStop : stop = start + source.length)
    (hFits : source.length ≤ free) :
    copy start stop source (front ++ (zeros free ++ rest)) =
      .ok () (front ++ source ++ (zeros (free - source.length) ++ rest)) := by
  have hFree : zeros free = zeros source.length ++ zeros (free - source.length) := by
    rw [← zeros_add]
    congr 1
    omega
  refine copy_eq ?_ hStart hStop (length_zeros _).symm
  rw [hFree]
  simp only [List.append_assoc]

/-- The loop over the keys writes them one behind the other. -/
theorem copyKeys_zeros (keys : List (FixedBytes 32)) {front rest : Bytes} {start free : Nat}
    (hStart : start = front.length) (hFits : keys.length * keyBytes ≤ free) :
    copyKeys keys start (front ++ (zeros free ++ rest)) =
      .ok (start + keys.length * keyBytes)
        (front ++ keys.flatMap FixedBytes.toList
          ++ (zeros (free - keys.length * keyBytes) ++ rest)) := by
  -- each key takes up 32 of the zeros that are left
  induction keys generalizing front start free with
  | nil =>
    rw [List.length_nil, Nat.zero_mul, Nat.sub_zero, List.flatMap_nil, List.append_nil]
    rfl
  | cons key keys ih =>
    have hKey : key.toList.length = keyBytes := key.length_toList
    rw [List.length_cons, Nat.succ_mul] at hFits ⊢
    rw [copyKeys, bind_of_ok (copy_zeros hStart (by rw [hKey]) (by rw [hKey]; omega)), hKey,
      ih (by rw [List.length_append, hStart, hKey]) (by omega), List.flatMap_cons,
      ← List.append_assoc front, Nat.sub_sub, Nat.add_assoc, Nat.add_comm keyBytes]

section Encode

variable {parts : FrameParts} {metadata : FrameMetadataV1} {view : SanitizedTransactionView}

/-- The check of the body length succeeds with the body length. -/
theorem checkedFrameBodyLength_eq (hBody : parts.bodyLength ≤ 9392) :
    checkedFrameBodyLength parts.transaction.length parts.loadedWritable.length
      parts.loadedReadonly.length = .ok parts.bodyLength := by
  have hSum : parts.transaction.length
      + (parts.loadedWritable.length + parts.loadedReadonly.length) * keyBytes =
        parts.bodyLength := by
    rw [FrameParts.bodyLength, Nat.add_mul, Nat.add_assoc]
  have hCapacity : ¬ parts.bodyLength > frameBodyCapacity := by
    rw [show frameBodyCapacity = 12032 from rfl]
    omega
  have hCounts : parts.loadedWritable.length + parts.loadedReadonly.length ≤ 9392 := by
    rw [show keyBytes = 32 from rfl] at hSum
    omega
  rw [checkedFrameBodyLength, checkedAdd_of_lt (by unfold usizeSize; omega), okOr_some, ok_bind,
    checkedMul_of_lt (by unfold usizeSize; omega), okOr_some, ok_bind,
    checkedAdd_of_lt (by unfold usizeSize; omega), okOr_some, ok_bind, hSum, if_neg hCapacity]
  rfl

/-- None of the conversions fails, and what is assembled is the header of the parts. -/
theorem assemble_eq (hBody : parts.bodyLength ≤ 9392) :
    assemble metadata parts parts.bodyLength parts.frameLength
      (parts.frameLength - (frameHeaderBytes + parts.bodyLength))
      (parts.loadedWritable.length * keyBytes) (parts.loadedReadonly.length * keyBytes) =
        .ok (parts.header metadata) := by
  have hSum : parts.bodyLength = parts.transaction.length + parts.loadedWritable.length * keyBytes
      + parts.loadedReadonly.length * keyBytes := rfl
  have hLength : parts.frameLength = (frameHeaderBytes + parts.bodyLength + 7) / 8 * 8 := rfl
  have hHeaderBytes : frameHeaderBytes = 256 := rfl
  have hWritableCount : parts.loadedWritable.length ≤ 9392 := by
    rw [show keyBytes = 32 from rfl] at hSum
    omega
  have hReadonlyCount : parts.loadedReadonly.length ≤ 9392 := by
    rw [show keyBytes = 32 from rfl] at hSum
    omega
  -- every number that is converted is small enough for its field
  have hWord : ∀ n ≤ 9700, tryFrom UInt32.size n = some n := fun n hn =>
    tryFrom_of_lt (by unfold UInt32.size; omega)
  have hCount : ∀ n ≤ 9700, tryFrom UInt16.size n = some n := fun n hn =>
    tryFrom_of_lt (by unfold UInt16.size; omega)
  have hPadding : tryFrom UInt8.size (parts.frameLength - (frameHeaderBytes + parts.bodyLength)) =
      some (parts.frameLength - (frameHeaderBytes + parts.bodyLength)) :=
    tryFrom_of_lt (by unfold UInt8.size; omega)
  rw [assemble]
  simp (disch := omega) only [hWord, hCount, hPadding, okOr_some, ok_bind]
  rfl

/-- The writing part of `encode_into`. It zeroes the frame, and then every copy takes up
zeros right behind what has been written, so that header, transaction, keys and padding
stand there in the end. That frame is canonical, so the parse at the end cannot fail. -/
theorem write_eq {output : Bytes} (hFits : parts.frameLength ≤ output.length)
    (h : parts.Encodable metadata view) :
    (do
      copy 0 parts.frameLength (List.replicate parts.frameLength 0)
      copy 0 frameHeaderBytes (parts.header metadata).encode
      copy frameHeaderBytes (frameHeaderBytes + parts.transaction.length) parts.transaction
      let offset ← copyKeys parts.loadedWritable (frameHeaderBytes + parts.transaction.length)
      let offset ← copyKeys parts.loadedReadonly offset
      if offset ≠ frameHeaderBytes + parts.bodyLength then throw .panic else
      let output ← get
      let frame ← run (slice output 0 parts.frameLength)
      let _ ← run (ValidatedFrame.parse frame)
      return parts.frameLength : EStateM (Fault FrameValidationError) Bytes Nat) output =
        .ok parts.frameLength (parts.frame metadata ++ output.drop parts.frameLength) := by
  have hBody := FrameParts.bodyLength_le h.accepted h.writableCount h.readonlyCount
  have hSum : parts.bodyLength = parts.transaction.length + parts.loadedWritable.length * keyBytes
      + parts.loadedReadonly.length * keyBytes := rfl
  have hLength : parts.frameLength = (frameHeaderBytes + parts.bodyLength + 7) / 8 * 8 := rfl
  have hHeader := FrameParts.length_header parts metadata
  -- first the whole frame is zeroed; the rest of the buffer stays
  have hStart : copy 0 parts.frameLength (List.replicate parts.frameLength 0) output =
      .ok () ([] ++ (zeros parts.frameLength ++ output.drop parts.frameLength)) := by
    have hSplit : output = [] ++ output.take parts.frameLength ++ output.drop parts.frameLength :=
      (List.take_append_drop parts.frameLength output).symm
    refine copy_eq hSplit rfl ?_ ?_
    · rw [List.length_replicate, Nat.zero_add]
    · rw [List.length_replicate, List.length_take, Nat.min_eq_left hFits]
  -- then the header at its front
  have hHeaderCopy : copy 0 frameHeaderBytes (parts.header metadata).encode
      ([] ++ (zeros parts.frameLength ++ output.drop parts.frameLength)) =
        .ok () ([] ++ (parts.header metadata).encode
          ++ (zeros (parts.frameLength - (parts.header metadata).encode.length)
            ++ output.drop parts.frameLength)) :=
    copy_zeros rfl (by rw [hHeader, Nat.zero_add]) (by rw [hHeader]; omega)
  have hKeysStart : frameHeaderBytes + parts.transaction.length
      + parts.loadedWritable.length * keyBytes =
        ((parts.header metadata).encode ++ parts.transaction
          ++ parts.loadedWritable.flatMap FixedBytes.toList).length := by
    rw [List.length_append, List.length_append, hHeader, length_flatMap_toList]
    rfl
  have hOutput : (parts.header metadata).encode ++ parts.transaction
      ++ parts.loadedWritable.flatMap FixedBytes.toList
      ++ parts.loadedReadonly.flatMap FixedBytes.toList
      ++ (zeros (parts.frameLength - frameHeaderBytes - parts.transaction.length
          - parts.loadedWritable.length * keyBytes - parts.loadedReadonly.length * keyBytes)
        ++ output.drop parts.frameLength) =
        parts.frame metadata ++ output.drop parts.frameLength := by
    rw [FrameParts.frame, FrameParts.writableBytes, FrameParts.readonlyBytes, hSum]
    simp only [List.append_assoc, Nat.sub_sub, Nat.add_assoc]
  -- the parse at the end sees the frame alone
  have hSlice : (slice (parts.frame metadata ++ output.drop parts.frameLength) 0 parts.frameLength :
      Except (Fault FrameValidationError) Bytes) = .ok (parts.frame metadata) := by
    have hPrefix := getRange_prefix (parts.frame metadata) (output.drop parts.frameLength)
    rw [FrameParts.length_frame metadata h] at hPrefix
    rw [slice, hPrefix]
    rfl
  have hParse : ValidatedFrame.parse (parts.frame metadata) =
      .ok (parts.validated metadata view) := by
    have hCanonical := parse_of_canonical h.canonical []
    rwa [List.append_nil] at hCanonical
  -- each copy takes up the zeros right behind what has been written so far
  rw [bind_of_ok hStart, bind_of_ok hHeaderCopy, hHeader, List.nil_append,
    bind_of_ok (copy_zeros hHeader.symm rfl (by omega)),
    bind_of_ok (copyKeys_zeros _ (by rw [List.length_append, hHeader]) (by omega)),
    bind_of_ok (copyKeys_zeros _ hKeysStart (by omega)), if_neg (by omega), hOutput, get_bind,
    run_bind, hSlice]
  dsimp only
  rw [run_bind, hParse]
  rfl

/-- The result for a transaction that agrees with the metadata and the keys: no
conversion or addition on the way can fail. What decides is the size of the buffer, and
then the header, both looked at before the first byte is written. -/
theorem encodeInto_eq (output : Bytes) (hView : tryNew parts.transaction = .ok view)
    (hVersion : view.messageVersion = metadata.messageVersion)
    (hWritable : view.totalWritableLookupAccounts.toNat = parts.loadedWritable.length)
    (hReadonly : view.totalReadonlyLookupAccounts.toNat = parts.loadedReadonly.length) :
    encodeInto metadata parts output =
      if output.length < parts.frameLength then .error (.err .outputTooSmall) output else
      match (parts.header metadata).validate with
      | .error e => .error (.err e) output
      | .ok () => .ok parts.frameLength (parts.frame metadata ++ output.drop parts.frameLength) := by
  have hBody := FrameParts.bodyLength_le hView hWritable hReadonly
  have hSum : parts.bodyLength = parts.transaction.length + parts.loadedWritable.length * keyBytes
      + parts.loadedReadonly.length * keyBytes := rfl
  have hHeaderBytes : frameHeaderBytes = 256 := rfl
  -- the checks that are known to hold, and the lengths
  rw [encodeInto, run_bind, hView]
  simp only [Except.mapError, lift_ok]
  rw [if_neg (not_not.mpr hVersion), if_neg (by simp [hWritable, hReadonly]),
    run_bind, checkedMul_of_lt (by unfold usizeSize; omega), okOr_some, lift_ok]
  dsimp only
  rw [run_bind, checkedMul_of_lt (by unfold usizeSize; omega), okOr_some, lift_ok]
  dsimp only
  rw [run_bind, checkedFrameBodyLength_eq hBody, lift_ok]
  dsimp only
  rw [run_bind, checkedAdd_of_lt (by unfold usizeSize; omega), okOr_some, lift_ok]
  dsimp only
  rw [run_bind, checkedAdd_of_lt (by unfold usizeSize; omega), okOr_some, lift_ok]
  dsimp only
  rw [get_bind, show (frameHeaderBytes + parts.bodyLength + 7) / 8 * 8 = parts.frameLength from rfl]
  -- the buffer, then the header
  by_cases hFits : output.length < parts.frameLength
  · rw [if_pos hFits, if_pos hFits]
    rfl
  rw [if_neg hFits, if_neg hFits, run_bind, assemble_eq hBody, lift_ok]
  dsimp only
  rw [run_bind]
  cases hValidate : (parts.header metadata).validate with
  | error e => rfl
  | ok u =>
    rw [lift_ok]
    dsimp only
    exact write_eq (not_lt.mp hFits) ⟨hView, hVersion, hWritable, hReadonly, hValidate⟩

/-- **The result of `encode_into`.** It writes the whole frame at the front of a
buffer that holds it, or leaves the buffer as it was. -/
theorem encodeInto_cases (metadata : FrameMetadataV1) (parts : FrameParts) (output : Bytes) :
    (∃ view, parts.Encodable metadata view ∧ parts.frameLength ≤ output.length ∧
      encodeInto metadata parts output =
        .ok parts.frameLength (parts.frame metadata ++ output.drop parts.frameLength)) ∨
    ∃ e, encodeInto metadata parts output = .error (.err e) output := by
  -- the checks in their order; an error in one of them comes before the buffer is touched
  cases hView : tryNew parts.transaction with
  | error e =>
    refine Or.inr ⟨.transactionParse, ?_⟩
    rw [encodeInto, run_bind, hView]
    rfl
  | ok view =>
    by_cases hVersion : view.messageVersion = metadata.messageVersion
    · by_cases hCounts : view.totalWritableLookupAccounts.toNat = parts.loadedWritable.length
          ∧ view.totalReadonlyLookupAccounts.toNat = parts.loadedReadonly.length
      · obtain ⟨hWritable, hReadonly⟩ := hCounts
        have hEq := encodeInto_eq output hView hVersion hWritable hReadonly
        by_cases hFits : output.length < parts.frameLength
        · rw [if_pos hFits] at hEq
          exact Or.inr ⟨_, hEq⟩
        · rw [if_neg hFits] at hEq
          cases hValidate : (parts.header metadata).validate with
          | error e =>
            rw [hValidate] at hEq
            exact Or.inr ⟨e, hEq⟩
          | ok u =>
            rw [hValidate] at hEq
            exact Or.inl ⟨view, ⟨hView, hVersion, hWritable, hReadonly, hValidate⟩,
              not_lt.mp hFits, hEq⟩
      · refine Or.inr ⟨.loadedAddressCountMismatch, ?_⟩
        rw [encodeInto, run_bind, hView]
        simp only [Except.mapError, lift_ok]
        rw [if_neg (not_not.mpr hVersion), if_pos (not_and_or.mp hCounts)]
        rfl
    · refine Or.inr ⟨.messageVersionMismatch, ?_⟩
      rw [encodeInto, run_bind, hView]
      simp only [Except.mapError, lift_ok]
      rw [if_pos hVersion]
      rfl

/-- What `encode_into` returns when it succeeds is the length of the frame, and the
buffer begins with the frame. -/
theorem eq_of_encodeInto_ok {output output' : Bytes} {n : Nat}
    (h : encodeInto metadata parts output = .ok n output') :
    n = parts.frameLength ∧ output' = parts.frame metadata ++ output.drop n := by
  rcases encodeInto_cases metadata parts output with ⟨view, -, -, hOk⟩ | ⟨e, hError⟩
  · rw [hOk] at h
    obtain ⟨rfl, rfl⟩ := EStateM.Result.ok.inj h
    exact ⟨rfl, rfl⟩
  · rw [hError] at h
    cases h

end Encode

end FrameEncoder

end TxStream
