import TxStream.Protocol.Transaction

/-!
# `frame.rs` — canonical resolved-transaction frames

The model of the frame header, its codec and its validation, of
`ValidatedFrame::parse` and of `FrameEncoder::encode_into`.

* Code that indexes, slices or unwraps runs in `Except (Fault _)`, so that an
  out-of-range access is a result of the model and not ruled out by it.
* `encode_into` works on the caller's buffer: it is an `EStateM` program whose
  state is the buffer, and an error leaves behind whatever had been written.
* A `u32` or `u16` becomes a `usize` without loss on the 64-bit target; those
  conversions are `toNat`.
-/

namespace TxStream

open Wire Rust

-- ---------------------------------------------------------------------------
-- Constants of `layout.rs` and `frame.rs`
-- ---------------------------------------------------------------------------

/-- The size of the header at the start of every frame. -/
def frameHeaderBytes : Nat := 256
/-- The room for one frame, header included. -/
def slotStrideBytes : Nat := 12288
/-- What a frame can carry behind its header. -/
def frameBodyCapacity : Nat := slotStrideBytes - frameHeaderBytes
/-- The only layout version this code reads and writes. -/
def layoutVersionV1 : UInt16 := 1

/-- `b"STFPFRM1"`. -/
def frameMagicV1 : Bytes := [83, 84, 70, 80, 70, 82, 77, 49]
/-- The only schema version this code reads and writes. -/
def frameSchemaVersionV1 : UInt16 := 1
/-- The size of an account key. -/
def keyBytes : Nat := 32

-- ---------------------------------------------------------------------------
-- Errors
-- ---------------------------------------------------------------------------

/-- The errors of the frame codec, with the values they report. One type serves
`decode`, `validate`, `parse` and `encode_into`. -/
inductive FrameValidationError where
  | truncatedHeader
  | invalidMagic
  | unsupportedSchema (schema : UInt16)
  | unsupportedLayout (layout : UInt16)
  | invalidHeaderLength (length : UInt16)
  | unsupportedMessageVersion (value : UInt8)
  | unknownFlags (bits : UInt32)
  | invalidReadiness
  | invalidBoundaryValidity
  | frameTooLarge
  | invalidAtomicWordCount
  | invalidBodyRegions
  | invalidLoadedKeyLength
  | invalidLoadedKeysForVersion
  | invalidPadding
  | invalidTimestamps
  | invalidIdentity
  | nonzeroReserved
  | truncatedFrame
  | outputTooSmall
  | transactionParse
  | messageVersionMismatch
  | loadedAddressCountMismatch
  | nonzeroFinalPadding
deriving DecidableEq, Repr

-- ---------------------------------------------------------------------------
-- Message version and flags
-- ---------------------------------------------------------------------------

namespace MessageVersion

/-- `self as u8`. -/
def toUInt8 : MessageVersion → UInt8
  | .legacy => 0
  | .v0 => 1
  | .v1 => 2

/-- `MessageVersion::decode`: the three bytes the encoder writes, and for every other
byte an error that carries it. -/
def decode (value : UInt8) : Except FrameValidationError MessageVersion :=
  if value = 0 then .ok .legacy
  else if value = 1 then .ok .v0
  else if value = 2 then .ok .v1
  else .error (.unsupportedMessageVersion value)

end MessageVersion

/-- The bits of `FrameFlags::ALL`. -/
def allFlagBits : UInt32 := 0xff

/-- `FrameFlags`. Its field is private and the constants, `|` and `from_bits`
are the only ways to a value, so no value has an unknown bit. -/
structure FrameFlags where
  bits : UInt32
  known : bits &&& ~~~allFlagBits = 0
deriving DecidableEq

namespace FrameFlags

def naturalReady : FrameFlags := ⟨0x01, by decide⟩
def fecRecovered : FrameFlags := ⟨0x02, by decide⟩
def leaderSignatureVerified : FrameFlags := ⟨0x04, by decide⟩
def merkleProofVerified : FrameFlags := ⟨0x08, by decide⟩
def transactionSanitized : FrameFlags := ⟨0x10, by decide⟩
def lutResolved : FrameFlags := ⟨0x20, by decide⟩
def dataSetStartValid : FrameFlags := ⟨0x40, by decide⟩
def dataSetEndValid : FrameFlags := ⟨0x80, by decide⟩

/-- `contains`: every bit of `other` is set. -/
def contains (flags other : FrameFlags) : Bool := flags.bits &&& other.bits = other.bits

/-- `from_bits` refuses a value with an unknown bit, which is what the invariant
asks. -/
def fromBits (bits : UInt32) : Except FrameValidationError FrameFlags :=
  if h : bits &&& ~~~allFlagBits = 0 then .ok ⟨bits, h⟩ else .error (.unknownFlags bits)

/-- `BitOr`. Two values without unknown bits have none between them. -/
def or (flags other : FrameFlags) : FrameFlags :=
  ⟨flags.bits ||| other.bits, by
    have h₁ := congrArg UInt32.toNat flags.known
    have h₂ := congrArg UInt32.toNat other.known
    rw [UInt32.toNat_and] at h₁ h₂
    rw [← UInt32.toNat_inj, UInt32.toNat_and, UInt32.toNat_or, Nat.and_or_distrib_right, h₁, h₂]
    rfl⟩

end FrameFlags

-- ---------------------------------------------------------------------------
-- Data
-- ---------------------------------------------------------------------------

/-- The header as the code holds it in memory, one field per field of the source. The
magic, the two versions, the header length and the reserved bytes are constants of the
encoding and have no field. -/
structure FrameHeaderV1 where
  messageVersion : MessageVersion
  earliestSource : UInt8
  flags : FrameFlags
  bodyLength : UInt32
  atomicWordCount : UInt32
  producerEpoch : UInt64
  canonicalSequence : UInt64
  slot : UInt64
  prefixGeneration : UInt64
  contributingSourceMask : UInt64
  firstDataShredIndex : UInt32
  lastDataShredIndex : UInt32
  dataSetStartingShredIndex : UInt32
  completedDataSetEndingShredIndexExclusive : UInt32
  entryOrdinal : UInt32
  transactionOrdinal : UInt32
  transactionOffset : UInt32
  transactionLength : UInt32
  loadedWritableOffset : UInt32
  loadedWritableLength : UInt32
  loadedReadonlyOffset : UInt32
  loadedReadonlyLength : UInt32
  loadedWritableCount : UInt16
  loadedReadonlyCount : UInt16
  finalPaddingBytes : UInt8
  firstShredReceiveNs : UInt64
  transactionCompleteNs : UInt64
  lutResolutionCompleteNs : UInt64
  publicationStartNs : UInt64
deriving DecidableEq

/-- What the producer says about a transaction when it has it encoded. The lengths,
offsets, counts and the padding of the header are computed and are not among it. -/
structure FrameMetadataV1 where
  messageVersion : MessageVersion
  earliestSource : UInt8
  flags : FrameFlags
  producerEpoch : UInt64
  canonicalSequence : UInt64
  slot : UInt64
  prefixGeneration : UInt64
  contributingSourceMask : UInt64
  firstDataShredIndex : UInt32
  lastDataShredIndex : UInt32
  dataSetStartingShredIndex : UInt32
  completedDataSetEndingShredIndexExclusive : UInt32
  entryOrdinal : UInt32
  transactionOrdinal : UInt32
  firstShredReceiveNs : UInt64
  transactionCompleteNs : UInt64
  lutResolutionCompleteNs : UInt64
  publicationStartNs : UInt64
deriving DecidableEq

/-- What a frame is made from: the transaction and the keys its lookups loaded. -/
structure FrameParts where
  transaction : Bytes
  loadedWritable : List (FixedBytes 32)
  loadedReadonly : List (FixedBytes 32)

/-- A parsed frame: its header, its bytes up to the last atomic word, the sanitized view
of its transaction and the two key regions. All but the header borrow from the input in
the source; here they are the bytes themselves. -/
structure ValidatedFrame where
  header : FrameHeaderV1
  frame : Bytes
  transactionView : SanitizedTransactionView
  loadedWritable : Bytes
  loadedReadonly : Bytes
deriving DecidableEq

namespace ValidatedFrame

def bytes (frame : ValidatedFrame) : Bytes := frame.frame
def transactionBytes (frame : ValidatedFrame) : Bytes := frame.transactionView.data
def loadedWritableBytes (frame : ValidatedFrame) : Bytes := frame.loadedWritable
def loadedReadonlyBytes (frame : ValidatedFrame) : Bytes := frame.loadedReadonly

/-- `PartialEq::eq`. The frame bytes are not compared: two frames are equal when header,
transaction and keys are, whatever stands in the eight bytes in front of the magic. -/
def eq (frame other : ValidatedFrame) : Bool :=
  frame.header = other.header
    && frame.transactionView.data = other.transactionView.data
    && frame.loadedWritable = other.loadedWritable
    && frame.loadedReadonly = other.loadedReadonly

end ValidatedFrame

-- ---------------------------------------------------------------------------
-- The header codec
-- ---------------------------------------------------------------------------

/-- `bytes[offset..offset + n].copy_from_slice(value)` at a constant offset
inside the header array, where it cannot panic. -/
def writeAt (bytes : Bytes) (offset : Nat) (value : Bytes) : Bytes :=
  bytes.take offset ++ value ++ bytes.drop (offset + value.length)

/-- `write_u16`. -/
def writeU16 (bytes : Bytes) (offset : Nat) (value : UInt16) : Bytes :=
  writeAt bytes offset (leBytes 2 value.toNat)

/-- `write_u32`. -/
def writeU32 (bytes : Bytes) (offset : Nat) (value : UInt32) : Bytes :=
  writeAt bytes offset (leBytes 4 value.toNat)

/-- `write_u64`. -/
def writeU64 (bytes : Bytes) (offset : Nat) (value : UInt64) : Bytes :=
  writeAt bytes offset (leBytes 8 value.toNat)

section Read

variable {ε : Type}

/-- `read_u16`: the slice can panic, the conversion of its two bytes cannot. -/
def readU16 (bytes : Bytes) (offset : Nat) : Except (Fault ε) UInt16 := do
  let value ← slice bytes offset (offset + 2)
  return UInt16.ofNat (leNat value)

/-- `read_u32`. -/
def readU32 (bytes : Bytes) (offset : Nat) : Except (Fault ε) UInt32 := do
  let value ← slice bytes offset (offset + 4)
  return UInt32.ofNat (leNat value)

/-- `read_u64`. -/
def readU64 (bytes : Bytes) (offset : Nat) : Except (Fault ε) UInt64 := do
  let value ← slice bytes offset (offset + 8)
  return UInt64.ofNat (leNat value)

end Read

namespace FrameHeaderV1

/-- `encode`: each field at its constant offset in a zeroed array. The first 64 bytes,
the gaps and the tail are never written and stay zero. -/
def encode (header : FrameHeaderV1) : Bytes :=
  let bytes := List.replicate frameHeaderBytes 0
  let bytes := writeAt bytes 64 frameMagicV1
  let bytes := writeU16 bytes 72 frameSchemaVersionV1
  let bytes := writeU16 bytes 74 layoutVersionV1
  let bytes := writeU16 bytes 76 (UInt16.ofNat frameHeaderBytes)
  let bytes := writeAt bytes 78 [header.messageVersion.toUInt8]
  let bytes := writeAt bytes 79 [header.earliestSource]
  let bytes := writeU32 bytes 80 header.flags.bits
  let bytes := writeU32 bytes 84 header.bodyLength
  let bytes := writeU32 bytes 88 header.atomicWordCount
  let bytes := writeU64 bytes 96 header.producerEpoch
  let bytes := writeU64 bytes 104 header.canonicalSequence
  let bytes := writeU64 bytes 112 header.slot
  let bytes := writeU64 bytes 120 header.prefixGeneration
  let bytes := writeU64 bytes 128 header.contributingSourceMask
  let bytes := writeU32 bytes 136 header.firstDataShredIndex
  let bytes := writeU32 bytes 140 header.lastDataShredIndex
  let bytes := writeU32 bytes 144 header.dataSetStartingShredIndex
  let bytes := writeU32 bytes 148 header.completedDataSetEndingShredIndexExclusive
  let bytes := writeU32 bytes 152 header.entryOrdinal
  let bytes := writeU32 bytes 156 header.transactionOrdinal
  let bytes := writeU32 bytes 160 header.transactionOffset
  let bytes := writeU32 bytes 164 header.transactionLength
  let bytes := writeU32 bytes 168 header.loadedWritableOffset
  let bytes := writeU32 bytes 172 header.loadedWritableLength
  let bytes := writeU32 bytes 176 header.loadedReadonlyOffset
  let bytes := writeU32 bytes 180 header.loadedReadonlyLength
  let bytes := writeU16 bytes 184 header.loadedWritableCount
  let bytes := writeU16 bytes 186 header.loadedReadonlyCount
  let bytes := writeAt bytes 188 [header.finalPaddingBytes]
  let bytes := writeU64 bytes 192 header.firstShredReceiveNs
  let bytes := writeU64 bytes 200 header.transactionCompleteNs
  let bytes := writeU64 bytes 208 header.lutResolutionCompleteNs
  writeU64 bytes 216 header.publicationStartNs

/-- `validate`: the checks on a header that need nothing but the header, in the order of
the source. The first that fails decides the error, and the bounds are computed with
checked arithmetic where the source has it. -/
def validate (header : FrameHeaderV1) : Except FrameValidationError Unit := do
  let natural := header.flags.contains .naturalReady
  let fec := header.flags.contains .fecRecovered
  -- exactly one of the two readiness flags
  if natural = fec then throw .invalidReadiness else
  if header.producerEpoch = 0 ∨ header.canonicalSequence = 0 ∨ header.prefixGeneration = 0
      ∨ header.contributingSourceMask = 0 then
    throw .invalidIdentity
  else
  let startValid := header.flags.contains .dataSetStartValid
  let endValid := header.flags.contains .dataSetEndValid
  -- an index without its flag must be zero, an end needs a start, and start, first, last and
  -- end are in order; the end is exclusive
  if (¬startValid ∧ header.dataSetStartingShredIndex ≠ 0)
      ∨ (¬endValid ∧ header.completedDataSetEndingShredIndexExclusive ≠ 0)
      ∨ (endValid ∧ ¬startValid)
      ∨ (startValid ∧ header.dataSetStartingShredIndex > header.firstDataShredIndex)
      ∨ header.firstDataShredIndex > header.lastDataShredIndex
      ∨ (endValid ∧
        header.lastDataShredIndex ≥ header.completedDataSetEndingShredIndexExclusive) then
    throw .invalidBoundaryValidity
  else
  let bodyLength := header.bodyLength.toNat
  if bodyLength = 0 ∨ bodyLength > frameBodyCapacity then throw .frameTooLarge else
  let frameLength ← okOr .frameTooLarge (checkedAdd frameHeaderBytes bodyLength)
  let paddedLength ← okOr .frameTooLarge (checkedAdd frameLength 7)
  let expectedWords := paddedLength / 8
  if header.atomicWordCount.toNat ≠ expectedWords then throw .invalidAtomicWordCount else
  -- the bytes up to the next multiple of eight
  let expectedPadding := (8 - frameLength % 8) % 8
  if header.finalPaddingBytes.toNat ≠ expectedPadding then throw .invalidPadding else
  let transactionOffset := header.transactionOffset.toNat
  let transactionLength := header.transactionLength.toNat
  let writableOffset := header.loadedWritableOffset.toNat
  let writableLength := header.loadedWritableLength.toNat
  let readonlyOffset := header.loadedReadonlyOffset.toNat
  let readonlyLength := header.loadedReadonlyLength.toNat
  let transactionEnd ← okOr .invalidBodyRegions (checkedAdd transactionOffset transactionLength)
  let writableEnd ← okOr .invalidBodyRegions (checkedAdd writableOffset writableLength)
  let readonlyEnd ← okOr .invalidBodyRegions (checkedAdd readonlyOffset readonlyLength)
  -- the three regions follow each other from the start of the body to its end
  if transactionLength = 0 ∨ transactionOffset ≠ 0 ∨ writableOffset ≠ transactionEnd
      ∨ readonlyOffset ≠ writableEnd ∨ readonlyEnd ≠ bodyLength then
    throw .invalidBodyRegions
  else
  let expectedWritableLength ←
    okOr .invalidLoadedKeyLength (checkedMul header.loadedWritableCount.toNat keyBytes)
  let expectedReadonlyLength ←
    okOr .invalidLoadedKeyLength (checkedMul header.loadedReadonlyCount.toNat keyBytes)
  if writableLength ≠ expectedWritableLength ∨ readonlyLength ≠ expectedReadonlyLength then
    throw .invalidLoadedKeyLength
  else
  -- only a v0 message loads keys
  if (header.messageVersion = .legacy ∨ header.messageVersion = .v1)
      ∧ (header.loadedWritableCount ≠ 0 ∨ header.loadedReadonlyCount ≠ 0) then
    throw .invalidLoadedKeysForVersion
  else
  if header.firstShredReceiveNs = 0
      ∨ header.firstShredReceiveNs > header.transactionCompleteNs
      ∨ header.transactionCompleteNs > header.lutResolutionCompleteNs
      ∨ header.lutResolutionCompleteNs > header.publicationStartNs then
    throw .invalidTimestamps
  else
  return ()

/-- `bytes.iter().any(|byte| *byte != 0)`. -/
def anyNonzero (bytes : Bytes) : Bool := bytes.any (· ≠ 0)

/-- `decode`: the first 256 bytes, the constants, the reserved regions, then the fields.
The reserved region at the start begins behind the first eight bytes, which are not looked
at. The header is validated last, so a decoded header is a valid one. -/
def decode (bytes : Bytes) : Except (Fault FrameValidationError) FrameHeaderV1 := do
  let bytes ← lift (okOr .truncatedHeader (getRange bytes 0 frameHeaderBytes))
  let magic ← slice bytes 64 72
  if magic ≠ frameMagicV1 then fail .invalidMagic else
  let schema ← readU16 bytes 72
  if schema ≠ frameSchemaVersionV1 then fail (.unsupportedSchema schema) else
  let layout ← readU16 bytes 74
  if layout ≠ layoutVersionV1 then fail (.unsupportedLayout layout) else
  let headerLength ← readU16 bytes 76
  if headerLength.toNat ≠ frameHeaderBytes then fail (.invalidHeaderLength headerLength) else
  let reserved₀ ← slice bytes 8 64
  let reserved₁ ← slice bytes 92 96
  let reserved₂ ← slice bytes 189 192
  let reserved₃ ← slice bytes 224 bytes.length
  if anyNonzero reserved₀ || anyNonzero reserved₁ || anyNonzero reserved₂
      || anyNonzero reserved₃ then
    fail .nonzeroReserved
  else
  let messageVersion ← lift (MessageVersion.decode (← index bytes 78))
  let earliestSource ← index bytes 79
  let flags ← lift (FrameFlags.fromBits (← readU32 bytes 80))
  let header : FrameHeaderV1 := {
    messageVersion
    earliestSource
    flags
    bodyLength := ← readU32 bytes 84
    atomicWordCount := ← readU32 bytes 88
    producerEpoch := ← readU64 bytes 96
    canonicalSequence := ← readU64 bytes 104
    slot := ← readU64 bytes 112
    prefixGeneration := ← readU64 bytes 120
    contributingSourceMask := ← readU64 bytes 128
    firstDataShredIndex := ← readU32 bytes 136
    lastDataShredIndex := ← readU32 bytes 140
    dataSetStartingShredIndex := ← readU32 bytes 144
    completedDataSetEndingShredIndexExclusive := ← readU32 bytes 148
    entryOrdinal := ← readU32 bytes 152
    transactionOrdinal := ← readU32 bytes 156
    transactionOffset := ← readU32 bytes 160
    transactionLength := ← readU32 bytes 164
    loadedWritableOffset := ← readU32 bytes 168
    loadedWritableLength := ← readU32 bytes 172
    loadedReadonlyOffset := ← readU32 bytes 176
    loadedReadonlyLength := ← readU32 bytes 180
    loadedWritableCount := ← readU16 bytes 184
    loadedReadonlyCount := ← readU16 bytes 186
    finalPaddingBytes := ← index bytes 188
    firstShredReceiveNs := ← readU64 bytes 192
    transactionCompleteNs := ← readU64 bytes 200
    lutResolutionCompleteNs := ← readU64 bytes 208
    publicationStartNs := ← readU64 bytes 216 }
  lift header.validate
  return header

end FrameHeaderV1

-- ---------------------------------------------------------------------------
-- `ValidatedFrame::parse`
-- ---------------------------------------------------------------------------

/-- `region`: the bounds of a body region. -/
def region (offset length : UInt32) : Except FrameValidationError (Nat × Nat) := do
  let stop ← okOr .invalidBodyRegions (checkedAdd offset.toNat length.toNat)
  return (offset.toNat, stop)

/-- `body.get(region(offset, length)?).ok_or(InvalidBodyRegions)?`. -/
def bodyRegion (body : Bytes) (offset length : UInt32) : Except FrameValidationError Bytes := do
  let (start, stop) ← region offset length
  okOr .invalidBodyRegions (getRange body start stop)

/-- `ValidatedFrame::parse`. The frame is as long as the header's word count says; bytes
behind it are not looked at. The transaction is parsed again here, and the counts of its
lookups are compared with what the header says was loaded. -/
def ValidatedFrame.parse (bytes : Bytes) : Except (Fault FrameValidationError) ValidatedFrame := do
  let header ← FrameHeaderV1.decode bytes
  let atomicBytes ← lift (okOr .truncatedFrame (checkedMul header.atomicWordCount.toNat 8))
  let frame ← lift (okOr .truncatedFrame (getRange bytes 0 atomicBytes))
  let bodyLength := header.bodyLength.toNat
  let bodyEnd ← lift (okOr .frameTooLarge (checkedAdd frameHeaderBytes bodyLength))
  let body ← lift (okOr .truncatedFrame (getRange frame frameHeaderBytes bodyEnd))
  -- `&frame[body_end..]`, whose start the `get` in the line above has checked
  let padding ← slice frame bodyEnd frame.length
  if FrameHeaderV1.anyNonzero padding then fail .nonzeroFinalPadding else
  let transaction ← lift (bodyRegion body header.transactionOffset header.transactionLength)
  let loadedWritable ←
    lift (bodyRegion body header.loadedWritableOffset header.loadedWritableLength)
  let loadedReadonly ←
    lift (bodyRegion body header.loadedReadonlyOffset header.loadedReadonlyLength)
  let transactionView ←
    lift ((tryNew transaction).mapError fun _ => FrameValidationError.transactionParse)
  if transactionView.messageVersion ≠ header.messageVersion then fail .messageVersionMismatch else
  if transactionView.totalWritableLookupAccounts ≠ header.loadedWritableCount
      ∨ transactionView.totalReadonlyLookupAccounts ≠ header.loadedReadonlyCount then
    fail .loadedAddressCountMismatch
  else
  return { header, frame, transactionView, loadedWritable, loadedReadonly }

-- ---------------------------------------------------------------------------
-- `FrameEncoder::encode_into`
-- ---------------------------------------------------------------------------

/-- `checked_frame_body_length`: the transaction and all loaded keys fit the body, or
the frame is too large. -/
def checkedFrameBodyLength (transactionLength loadedWritableCount loadedReadonlyCount : Nat) :
    Except FrameValidationError Nat := do
  let loadedCount ← okOr .frameTooLarge (checkedAdd loadedWritableCount loadedReadonlyCount)
  let loadedBytes ← okOr .frameTooLarge (checkedMul loadedCount keyBytes)
  let bodyLength ← okOr .frameTooLarge (checkedAdd transactionLength loadedBytes)
  if bodyLength > frameBodyCapacity then throw .frameTooLarge else return bodyLength

namespace FrameEncoder

/-- `output[start..stop].copy_from_slice(source)`: a range outside the buffer and a
source of another length are panics. -/
def copy (start stop : Nat) (source : Bytes) : EStateM (Fault FrameValidationError) Bytes Unit := do
  let output ← get
  set (← run (expect (copyFromSlice output start stop source)))

/-- The two `for key in ...` loops; the offset behind the last key. -/
def copyKeys : List (FixedBytes 32) → Nat → EStateM (Fault FrameValidationError) Bytes Nat
  | [], offset => return offset
  | key :: keys, offset => do
    copy offset (offset + keyBytes) key.toList
    copyKeys keys (offset + keyBytes)

/-- The header that `encode_into` assembles once the lengths are known. Every length
goes through a `try_from` into the width of its field; the writable keys start where the
transaction ends and the readonly keys where the writable ones do. -/
def assemble (metadata : FrameMetadataV1) (parts : FrameParts)
    (bodyLength frameLength finalPaddingBytes writableLength readonlyLength : Nat) :
    Except FrameValidationError FrameHeaderV1 := do
  let transactionLength := parts.transaction.length
  return {
    messageVersion := metadata.messageVersion
    earliestSource := metadata.earliestSource
    flags := metadata.flags
    bodyLength := UInt32.ofNat (← okOr .frameTooLarge (tryFrom UInt32.size bodyLength))
    atomicWordCount :=
      UInt32.ofNat (← okOr .frameTooLarge (tryFrom UInt32.size (frameLength / 8)))
    producerEpoch := metadata.producerEpoch
    canonicalSequence := metadata.canonicalSequence
    slot := metadata.slot
    prefixGeneration := metadata.prefixGeneration
    contributingSourceMask := metadata.contributingSourceMask
    firstDataShredIndex := metadata.firstDataShredIndex
    lastDataShredIndex := metadata.lastDataShredIndex
    dataSetStartingShredIndex := metadata.dataSetStartingShredIndex
    completedDataSetEndingShredIndexExclusive :=
      metadata.completedDataSetEndingShredIndexExclusive
    entryOrdinal := metadata.entryOrdinal
    transactionOrdinal := metadata.transactionOrdinal
    transactionOffset := 0
    transactionLength :=
      UInt32.ofNat (← okOr .frameTooLarge (tryFrom UInt32.size transactionLength))
    loadedWritableOffset :=
      UInt32.ofNat (← okOr .frameTooLarge (tryFrom UInt32.size transactionLength))
    loadedWritableLength :=
      UInt32.ofNat (← okOr .frameTooLarge (tryFrom UInt32.size writableLength))
    loadedReadonlyOffset :=
      UInt32.ofNat
        (← okOr .frameTooLarge (tryFrom UInt32.size (transactionLength + writableLength)))
    loadedReadonlyLength :=
      UInt32.ofNat (← okOr .frameTooLarge (tryFrom UInt32.size readonlyLength))
    loadedWritableCount :=
      UInt16.ofNat (← okOr .frameTooLarge (tryFrom UInt16.size parts.loadedWritable.length))
    loadedReadonlyCount :=
      UInt16.ofNat (← okOr .frameTooLarge (tryFrom UInt16.size parts.loadedReadonly.length))
    finalPaddingBytes :=
      UInt8.ofNat (← okOr .invalidPadding (tryFrom UInt8.size finalPaddingBytes))
    firstShredReceiveNs := metadata.firstShredReceiveNs
    transactionCompleteNs := metadata.transactionCompleteNs
    lutResolutionCompleteNs := metadata.lutResolutionCompleteNs
    publicationStartNs := metadata.publicationStartNs }

/-- `FrameEncoder::encode_into`: check the parts against the transaction, compute the
lengths, assemble and validate the header, then write header, transaction and keys into
the zeroed frame, and parse the result. The buffer is first touched when every check but
the last has passed. What it returns is the length written. -/
def encodeInto (metadata : FrameMetadataV1) (parts : FrameParts) :
    EStateM (Fault FrameValidationError) Bytes Nat := do
  let transactionView ←
    run (lift ((tryNew parts.transaction).mapError fun _ => FrameValidationError.transactionParse))
  -- the metadata and the keys must be those of the transaction itself
  if transactionView.messageVersion ≠ metadata.messageVersion then
    run (fail .messageVersionMismatch)
  else
  if transactionView.totalWritableLookupAccounts.toNat ≠ parts.loadedWritable.length
      ∨ transactionView.totalReadonlyLookupAccounts.toNat ≠ parts.loadedReadonly.length then
    run (fail .loadedAddressCountMismatch)
  else
  let transactionLength := parts.transaction.length
  let writableLength ←
    run (lift (okOr .frameTooLarge (checkedMul parts.loadedWritable.length keyBytes)))
  let readonlyLength ←
    run (lift (okOr .frameTooLarge (checkedMul parts.loadedReadonly.length keyBytes)))
  let bodyLength ←
    run (lift (checkedFrameBodyLength transactionLength parts.loadedWritable.length
      parts.loadedReadonly.length))
  let unpaddedFrameLength ←
    run (lift (okOr .frameTooLarge (checkedAdd frameHeaderBytes bodyLength)))
  let sum ← run (lift (okOr .frameTooLarge (checkedAdd unpaddedFrameLength 7)))
  -- `sum & !7`
  let frameLength := sum / 8 * 8
  let output ← get
  if output.length < frameLength then run (fail .outputTooSmall) else
  let finalPaddingBytes := frameLength - unpaddedFrameLength
  let header ← run (lift (assemble metadata parts bodyLength frameLength finalPaddingBytes
    writableLength readonlyLength))
  run (lift header.validate)
  -- from here on the buffer is written
  copy 0 frameLength (List.replicate frameLength 0)
  copy 0 frameHeaderBytes header.encode
  let offset := frameHeaderBytes
  copy offset (offset + transactionLength) parts.transaction
  let offset := offset + transactionLength
  let offset ← copyKeys parts.loadedWritable offset
  let offset ← copyKeys parts.loadedReadonly offset
  -- `debug_assert_eq!`
  if offset ≠ unpaddedFrameLength then throw .panic else
  let output ← get
  -- the self-check: the frame just written is parsed as a receiver would
  let frame ← run (slice output 0 frameLength)
  let _ ← run (ValidatedFrame.parse frame)
  return frameLength

end FrameEncoder

end TxStream
