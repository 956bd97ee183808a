import TxStream.Client.Reconnect
import TxStream.Protocol.EncoderVerdict
import TxStream.Wire.Protobuf

/-!
# Every sanitized transaction fits its messages

The slot of a frame and the message limit of the client are constants of two
crates. Neither is compared with the other, and `encode_into` compares the body
of a frame with a third one. That all of them are large enough follows from what
`try_new` accepts: at most 1232 bytes and 256 accounts, one of them static, or
at most 4096 bytes and no lookups.

Main results:

* `FastpathClient.default_checked` — the default configuration is accepted.
* `FrameEncoder.encodeInto_error` — how `encode_into` can fail on such parts.
* `sanitized_fits_slot` — the bound and what follows from it.
-/

namespace TxStream

open Wire Rust

-- ---------------------------------------------------------------------------
-- The client's configuration
-- ---------------------------------------------------------------------------

/-- `Duration::from_secs`. -/
def Duration.ofSecs (secs : UInt64) : Duration where
  nanos := secs.toNat * 10 ^ 9
  nanos_lt := by
    have := secs.toNat_lt
    omega

/-- `TransportConfig`: timeouts, keepalives and windows of the channel. -/
structure TransportConfig where
  connectTimeout : Duration
  subscribeTimeout : Duration
  http2Keepalive : Duration
  keepaliveTimeout : Duration
  tcpKeepalive : Duration
  maxMessageBytes : Nat
  http2AdaptiveWindow : Bool
  initialStreamWindowSize : UInt32
  initialConnectionWindowSize : UInt32

/-- `TransportConfig::default()`. -/
def TransportConfig.default : TransportConfig where
  connectTimeout := .ofSecs 10
  subscribeTimeout := .ofSecs 10
  http2Keepalive := .ofSecs 30
  keepaliveTimeout := .ofSecs 10
  tcpKeepalive := .ofSecs 30
  maxMessageBytes := 16 * 1024
  http2AdaptiveWindow := true
  initialStreamWindowSize := 32 * 1024 * 1024
  initialConnectionWindowSize := 32 * 1024 * 1024

/-- The configuration check of `FastpathClient::connect`, before it opens the
channel. -/
def FastpathClient.checkConfig (config : TransportConfig) : Except Error Unit :=
  if config.maxMessageBytes < 12300
      ∨ config.maxMessageBytes > 512 * 1024
      ∨ config.connectTimeout.isZero
      ∨ config.subscribeTimeout.isZero
      ∨ config.http2Keepalive.isZero
      ∨ config.keepaliveTimeout.isZero
      ∨ config.tcpKeepalive.isZero
      ∨ config.initialStreamWindowSize = 0
      ∨ config.initialStreamWindowSize > 0x7fffffff
      ∨ config.initialConnectionWindowSize = 0
      ∨ config.initialConnectionWindowSize > 0x7fffffff then
    .error .invalidConfig
  else
    .ok ()

/-- The defaults pass the check. -/
theorem FastpathClient.default_checked : checkConfig .default = .ok () := by decide

/-- An accepted configuration takes messages of 12300 bytes. -/
theorem FastpathClient.maxMessageBytes_ge {config : TransportConfig}
    (h : checkConfig config = .ok ()) : 12300 ≤ config.maxMessageBytes := by
  unfold checkConfig at h
  obtain ⟨hBounds, -⟩ := guard_eq_ok h
  simp only [not_or] at hBounds
  exact not_lt.mp hBounds.1

-- ---------------------------------------------------------------------------
-- Messages on the wire
-- ---------------------------------------------------------------------------

namespace Proto

/-- `bytes canonical_v1 = 1`. -/
def ResolvedTransactionFrame.encode (frame : ResolvedTransactionFrame) : Bytes :=
  bytesField 1 frame.canonicalV1

/-- The fields in the order of their numbers; one with a default value is left out. -/
def UnresolvedTransaction.encode (raw : UnresolvedTransaction) : Bytes :=
  varintField 1 raw.producerEpoch.toNat
    ++ varintField 2 raw.structuralSequence.toNat
    ++ varintField 3 raw.slot.toNat
    ++ bytesField 4 raw.transaction
    ++ bytesField 5 raw.reason.toUTF8.toList

/-- A member of a `oneof` is written even if it is empty. -/
def TransactionFrame.encode (message : TransactionFrame) : Bytes :=
  match message.payload with
  | none => []
  | some (.canonicalV1 bytes) => lengthDelimited 1 bytes
  | some (.unresolved raw) => lengthDelimited 2 raw.encode

/-- The wrapper of either product adds at most three bytes to a short frame. -/
theorem length_encode_le {frame : Bytes} (hShort : frame.length < 16384) :
    (ResolvedTransactionFrame.mk frame).encode.length ≤ frame.length + 3 ∧
      (TransactionFrame.mk (some (.canonicalV1 frame))).encode.length ≤ frame.length + 3 := by
  have hField := length_lengthDelimited_le (show 1 < 15 by decide) hShort
  refine ⟨?_, hField⟩
  unfold ResolvedTransactionFrame.encode bytesField
  split
  · exact Nat.zero_le _
  · exact hField

end Proto

-- ---------------------------------------------------------------------------
-- The encoder on such parts
-- ---------------------------------------------------------------------------

section Parts

variable {parts : FrameParts} {view : SanitizedTransactionView}

/-- The padding rounds the largest frame up to 9648 bytes. -/
theorem FrameParts.frameLength_le (hBody : parts.bodyLength ≤ 9392) :
    parts.frameLength ≤ 9648 := by
  unfold FrameParts.frameLength
  rw [show frameHeaderBytes = 256 from rfl]
  omega

/-- The arithmetic of `encode_into`, conversions included, ends in the frame's
length and header. -/
structure FrameEncoder.Arithmetic (metadata : FrameMetadataV1) (parts : FrameParts) : Prop where
  writable : checkedMul parts.loadedWritable.length keyBytes =
    some (parts.loadedWritable.length * keyBytes)
  readonly : checkedMul parts.loadedReadonly.length keyBytes =
    some (parts.loadedReadonly.length * keyBytes)
  body : checkedFrameBodyLength parts.transaction.length parts.loadedWritable.length
    parts.loadedReadonly.length = .ok parts.bodyLength
  unpadded : checkedAdd frameHeaderBytes parts.bodyLength =
    some (frameHeaderBytes + parts.bodyLength)
  padded : checkedAdd (frameHeaderBytes + parts.bodyLength) 7 =
    some (frameHeaderBytes + parts.bodyLength + 7)
  length : (frameHeaderBytes + parts.bodyLength + 7) / 8 * 8 = parts.frameLength
  header : FrameEncoder.assemble metadata parts parts.bodyLength parts.frameLength
    (parts.frameLength - (frameHeaderBytes + parts.bodyLength))
    (parts.loadedWritable.length * keyBytes) (parts.loadedReadonly.length * keyBytes) =
      .ok (parts.header metadata)

/-- The largest body is far below every bound of the arithmetic. -/
theorem FrameEncoder.arithmetic (metadata : FrameMetadataV1) (hBody : parts.bodyLength ≤ 9392) :
    Arithmetic metadata parts := by
  have hSum : parts.bodyLength = parts.transaction.length
      + parts.loadedWritable.length * keyBytes + parts.loadedReadonly.length * keyBytes := rfl
  have hHeaderBytes : frameHeaderBytes = 256 := rfl
  refine ⟨checkedMul_of_lt ?_, checkedMul_of_lt ?_, checkedFrameBodyLength_eq hBody,
    checkedAdd_of_lt ?_, checkedAdd_of_lt ?_, rfl, assemble_eq hBody⟩ <;>
  · unfold usizeSize
    omega

/-- A call on accepted parts fails for the version, the buffer or the metadata. -/
theorem FrameEncoder.encodeInto_error {metadata : FrameMetadataV1} {output output' : Bytes}
    {fault : Fault FrameValidationError} (hView : tryNew parts.transaction = .ok view)
    (hWritable : view.totalWritableLookupAccounts.toNat = parts.loadedWritable.length)
    (hReadonly : view.totalReadonlyLookupAccounts.toNat = parts.loadedReadonly.length)
    (hError : encodeInto metadata parts output = .error fault output') :
    fault = .err .messageVersionMismatch
      ∨ (fault = .err .outputTooSmall ∧ output.length < parts.frameLength)
      ∨ ∃ e : FrameValidationError, e.OfMetadata ∧ fault = .err e := by
  -- the checks of `encode_into` in order: version, buffer, and then the header as a whole
  by_cases hVersion : view.messageVersion = metadata.messageVersion
  · rw [encodeInto_eq output hView hVersion hWritable hReadonly] at hError
    by_cases hFits : output.length < parts.frameLength
    · rw [if_pos hFits] at hError
      exact Or.inr (Or.inl ⟨(EStateM.Result.error.inj hError).1.symm, hFits⟩)
    · rw [if_neg hFits] at hError
      rcases FrameParts.validate_header hView hVersion hWritable hReadonly with
        ⟨-, hValid⟩ | ⟨e, -, hMetadata, hInvalid⟩
      · rw [hValid] at hError
        cases hError
      · rw [hInvalid] at hError
        exact Or.inr (Or.inr ⟨e, hMetadata, (EStateM.Result.error.inj hError).1.symm⟩)
  · unfold encodeInto at hError
    rw [run_bind, hView] at hError
    simp only [Except.mapError, lift_ok] at hError
    rw [if_pos hVersion] at hError
    exact Or.inl (EStateM.Result.error.inj hError).1.symm

/-- **Every sanitized transaction fits its slot and its messages.** For an
accepted transaction and loaded keys of its totals, no addition or conversion of
`encode_into` fails and the padded frame has at most 9648 bytes. So it fits a
slot, and either message around it is shorter than the smallest limit that the
client accepts; `encode_into` never answers `FrameTooLarge`, and never
`OutputTooSmall` for a buffer of a slot. When it succeeds, the length it returns is
that of the padded frame. -/
theorem sanitized_fits_slot (hView : tryNew parts.transaction = .ok view)
    (hWritable : parts.loadedWritable.length = view.totalWritableLookupAccounts.toNat)
    (hReadonly : parts.loadedReadonly.length = view.totalReadonlyLookupAccounts.toNat) :
    parts.frameLength ≤ 9648 ∧ parts.frameLength ≤ slotStrideBytes ∧
    (∀ (config : TransportConfig) (frame : Bytes), FastpathClient.checkConfig config = .ok () →
      frame.length = parts.frameLength →
      (Proto.ResolvedTransactionFrame.mk frame).encode.length < config.maxMessageBytes ∧
      (Proto.TransactionFrame.mk (some (.canonicalV1 frame))).encode.length <
        config.maxMessageBytes) ∧
    ∀ metadata : FrameMetadataV1, FrameEncoder.Arithmetic metadata parts ∧
      ∀ output output' : Bytes,
        FrameEncoder.encodeInto metadata parts output ≠ .error (.err .frameTooLarge) output' ∧
        (slotStrideBytes ≤ output.length →
          FrameEncoder.encodeInto metadata parts output ≠ .error (.err .outputTooSmall) output') ∧
        ∀ n, FrameEncoder.encodeInto metadata parts output = .ok n output' →
          n = parts.frameLength := by
  have hBody := FrameParts.bodyLength_le hView hWritable.symm hReadonly.symm
  have hLength := FrameParts.frameLength_le hBody
  have hSlot : slotStrideBytes = 12288 := rfl
  refine ⟨hLength, by omega, ?_, ?_⟩
  · intro config frame hConfig hFrame
    have hLimit := FastpathClient.maxMessageBytes_ge hConfig
    obtain ⟨hResolved, hTransaction⟩ := @Proto.length_encode_le frame (by omega)
    exact ⟨by omega, by omega⟩
  · intro metadata
    refine ⟨FrameEncoder.arithmetic metadata hBody, ?_⟩
    intro output output'
    refine ⟨?_, ?_, fun n hOk => (FrameEncoder.eq_of_encodeInto_ok hOk).1⟩
    · intro hError
      rcases FrameEncoder.encodeInto_error hView hWritable.symm hReadonly.symm hError with
        hCase | ⟨hCase, -⟩ | ⟨e, hMetadata, hCase⟩
      · cases hCase
      · cases hCase
      · -- an error of the metadata is one of four, and this is none of them
        obtain rfl := Fault.err.inj hCase
        rcases hMetadata with hCase | hCase | hCase | hCase <;> cases hCase
    · intro hSlotFits hError
      rcases FrameEncoder.encodeInto_error hView hWritable.symm hReadonly.symm hError with
        hCase | ⟨-, hShort⟩ | ⟨e, hMetadata, hCase⟩
      · cases hCase
      · omega
      · obtain rfl := Fault.err.inj hCase
        rcases hMetadata with hCase | hCase | hCase | hCase <;> cases hCase

/-- The sample transaction with its two loaded keys. -/
theorem sanitized_fits_slot_sample :
    sampleParts.frameLength ≤ 9648 ∧
      (Proto.ResolvedTransactionFrame.mk (sampleParts.frame sampleMetadata)).encode.length <
        16 * 1024 := by
  obtain ⟨hLength, -, hMessages, -⟩ := @sanitized_fits_slot sampleParts sampleV0.view
    tryNew_sampleV0 (by decide) (by decide)
  exact ⟨hLength, (hMessages .default _ FastpathClient.default_checked
    (FrameParts.length_frame sampleMetadata sampleParts_encodable)).1⟩

end Parts

end TxStream
