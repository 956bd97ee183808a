import TxStream.Rust.Machine
import TxStream.Wire.LittleEndian
import TxStream.Wire.Reader

/-!
# `transaction.rs` — the borrowed transaction view

The model of `SanitizedTransactionView`: the two constructors (legacy/v0 and
v1), the accessors, and the two iterators that read the instruction and lookup
lists again from the stored offsets.

* Byte strings are lists, offsets are `usize` values held in `Nat`.
* `try_new` never indexes out of range: it reads through `get` and checked
  additions only, so its model is a plain `Except`. The accessors do index and
  `expect`; they return `none` where the code panics.
* A `for` loop is a recursive function on the number of rounds left, with the
  loop's mutable variables as arguments.
* The compact-u16 reader is an argument of everything that reads through it, so
  that another reader can be put in its place; `tryNew`, `next` and the rest
  instantiate it with the reader of the source.
-/

namespace TxStream

open Wire Rust

-- ---------------------------------------------------------------------------
-- Constants
-- ---------------------------------------------------------------------------

/-- The width of a signature. -/
def signatureBytes : Nat := 64
/-- The width of an account key. -/
def pubkeyBytes : Nat := 32
/-- The width of the recent blockhash. -/
def blockhashBytes : Nat := 32
/-- The high bit of a message prefix: set, it announces a versioned message. -/
def messageVersionPrefix : UInt8 := 0x80
/-- The first byte of a v1 transaction. -/
def v1Prefix : UInt8 := messageVersionPrefix ||| 1
/-- The most signatures of a transaction of any version. -/
def maxSignaturesPerPacket : UInt8 := 12
/-- The most keys of a legacy or v0 transaction. -/
def maxStaticAccountsPerPacket : UInt8 := 38
/-- The most keys of a v1 transaction; more is a sanitize error and no parse error. -/
def maxV1StaticAccounts : UInt8 := 64
/-- The most lookups of a v0 transaction. -/
def maxAddressTableLookupsPerPacket : UInt8 := 31
/-- More instructions than this are a sanitize error in every version. -/
def maxInstructions : UInt16 := 64
/-- More accounts of one instruction than this are a sanitize error. -/
def maxAccountsPerInstruction : UInt16 := 255
/-- Program index, account count and the two bytes of the data length. -/
def v1InstructionHeaderBytes : Nat := 4
/-- The priority fee takes two bits, which must be both set or both clear. -/
def v1ConfigPriorityFee : UInt32 := 0b11
def v1ConfigComputeUnitLimit : UInt32 := 0b100
def v1ConfigLoadedAccountsDataSize : UInt32 := 0b1000
def v1ConfigHeapSize : UInt32 := 0b10000
/-- Every other bit of the mask is refused. -/
def v1ConfigKnownBits : UInt32 :=
  v1ConfigPriorityFee ||| v1ConfigComputeUnitLimit ||| v1ConfigLoadedAccountsDataSize
    ||| v1ConfigHeapSize
/-- The bounds on a requested heap size, which must also be a multiple of `1024`. -/
def minV1HeapSize : UInt32 := 32 * 1024
def maxV1HeapSize : UInt32 := 256 * 1024

/-- The wire versions of `wire.rs`. -/
inductive TransactionWireVersion where
  | legacy
  | v0
  | v1
deriving DecidableEq, Repr

/-- `wire::raw_limit`. -/
def rawLimit : TransactionWireVersion → Nat
  | .legacy | .v0 => 1232
  | .v1 => 4096

/-- The size limit of legacy and v0 transactions. -/
def maxLegacyV0TransactionBytes : Nat := rawLimit .legacy
/-- The size limit of v1 transactions. -/
def maxV1TransactionBytes : Nat := rawLimit .v1

-- ---------------------------------------------------------------------------
-- Data
-- ---------------------------------------------------------------------------

/-- `frame::MessageVersion`. -/
inductive MessageVersion where
  | legacy
  | v0
  | v1
deriving DecidableEq, Repr

/-- The three errors of `try_new`: a malformed string, a broken sanitize rule, and a
version byte that is none of the known ones. -/
inductive TransactionViewError where
  | parse
  | sanitize
  | unsupportedVersion
deriving DecidableEq, Repr

/-- How the instructions lie on the wire: one behind the other, or for v1 all headers
first and then all payloads. -/
inductive InstructionLayout where
  | legacyAndV0
  | v1
deriving DecidableEq, Repr

/-- A parsed and sanitized transaction: its bytes, and the counts and offsets that the
constructor found. The items of its lists are not stored; accessors and iterators read
them again. -/
structure SanitizedTransactionView where
  bytes : Bytes
  messageVersion : MessageVersion
  numSignatures : UInt8
  signaturesOffset : Nat
  numRequiredSignatures : UInt8
  numReadonlySignedStaticAccounts : UInt8
  numReadonlyUnsignedStaticAccounts : UInt8
  numStaticAccountKeys : UInt8
  staticAccountKeysOffset : Nat
  recentBlockhashOffset : Nat
  numInstructions : UInt16
  instructionsOffset : Nat
  instructionPayloadsOffset : Nat
  instructionLayout : InstructionLayout
  numAddressTableLookups : UInt8
  addressTableLookupsOffset : Nat
  totalWritableLookupAccounts : UInt16
  totalReadonlyLookupAccounts : UInt16
  transactionConfigMask : UInt32
  transactionConfigValuesOffset : Nat
deriving DecidableEq

/-- One instruction, as the iterator yields it. -/
structure SanitizedInstructionView where
  programIdIndex : UInt8
  accounts : Bytes
  data : Bytes
deriving DecidableEq

/-- One address table lookup, as the iterator yields it. -/
structure SanitizedAddressTableLookup where
  accountKey : FixedBytes 32
  writableIndexes : Bytes
  readonlyIndexes : Bytes
deriving DecidableEq

/-- The configuration of a v1 transaction: the mask says which values are there, and
they stand one behind the other from `valuesOffset` on. -/
structure SanitizedTransactionConfigView where
  bytes : Bytes
  mask : UInt32
  valuesOffset : Nat

/-- The instruction iterator. The payload offset is used by the v1 layout only. -/
structure SanitizedInstructionIterator where
  bytes : Bytes
  headerOffset : Nat
  payloadOffset : Nat
  remaining : UInt16
  layout : InstructionLayout

/-- The lookup iterator. -/
structure SanitizedAddressTableLookupIterator where
  bytes : Bytes
  offset : Nat
  remaining : UInt8

-- ---------------------------------------------------------------------------
-- Reading at an offset
-- ---------------------------------------------------------------------------

/-- `read_byte_at`. -/
def readByteAt : Reader UInt8 := fun bytes offset => do
  let value ← bytes[offset]?
  let offset ← checkedAdd offset 1
  return (value, offset)

/-- `read_compact_u16_at`: one or two bytes. A second byte of zero is an encoding longer
than need be and is refused, as is one that asks for a third byte. -/
def readCompactU16At : Reader UInt16 := fun bytes offset => do
  let first ← bytes[offset]?
  if first &&& 0x80 = 0 then
    let offset ← checkedAdd offset 1
    return (first.toUInt16, offset)
  else
    let next ← checkedAdd offset 1
    let second ← bytes[next]?
    if second = 0 ∨ second &&& 0x80 ≠ 0 then
      none
    else
      let offset ← checkedAdd offset 2
      return ((first &&& 0x7f).toUInt16 ||| ((second &&& 0x7f).toUInt16 <<< 7), offset)

/-- `read_bytes_at`: the range is looked up with `get`, and its end is a checked sum. -/
def readBytesAt (len : Nat) : Reader Bytes := fun bytes offset => do
  let stop ← checkedAdd offset len
  let value ← getRange bytes offset stop
  return (value, stop)

/-- `read_u16_le_at`. -/
def readU16LeAt : Reader UInt16 := fun bytes offset => do
  let (value, offset) ← readBytesAt 2 bytes offset
  return (UInt16.ofNat (leNat value), offset)

/-- The cursor of the constructors: the input and an offset into it. -/
structure Cursor where
  bytes : Bytes
  offset : Nat

namespace Cursor

def new (bytes : Bytes) : Cursor := ⟨bytes, 0⟩

/-- A reader at the cursor, its failure reported as `Parse`. -/
def read {α : Type} (cursor : Cursor) (reader : Reader α) :
    Except TransactionViewError (α × Cursor) := do
  let (value, offset) ← okOr .parse (reader cursor.bytes cursor.offset)
  return (value, { cursor with offset := offset })

/-- `read_byte`. -/
def readByte (cursor : Cursor) : Except TransactionViewError (UInt8 × Cursor) :=
  cursor.read readByteAt

/-- `read_bytes`. -/
def readBytes (cursor : Cursor) (len : Nat) : Except TransactionViewError (Bytes × Cursor) :=
  cursor.read (readBytesAt len)

/-- `read_u32_le` of the cursor. -/
def readU32Le (cursor : Cursor) : Except TransactionViewError (UInt32 × Cursor) := do
  let (bytes, cursor) ← cursor.readBytes 4
  return (UInt32.ofNat (leNat bytes), cursor)

/-- `skip`: the bytes must be there, and are not looked at. -/
def skip (cursor : Cursor) (len : Nat) : Except TransactionViewError Cursor := do
  let (_, cursor) ← cursor.readBytes len
  return cursor

/-- `require_remaining`: an early test that a list of the announced length can be there
at all. The subtraction is the source's `saturating_sub`. -/
def requireRemaining (cursor : Cursor) (len : Nat) : Except TransactionViewError Unit :=
  if len ≤ cursor.bytes.length - cursor.offset then .ok () else .error .parse

end Cursor

-- ---------------------------------------------------------------------------
-- The legacy and v0 constructor
-- ---------------------------------------------------------------------------

/-- The instruction loop of `try_new`: the cursor, the deferred sanitize error and the
largest account index seen so far. A broken sanitize rule is remembered and the loop
goes on, since a parse error further on comes first. -/
def instructionLoop (readCompactU16 : Reader UInt16) (numStaticAccountKeys : UInt8) :
    Nat → Cursor → Bool → Option UInt8 →
    Except TransactionViewError (Cursor × Bool × Option UInt8)
  | 0, cursor, sanitizeError, maximumIndex => .ok (cursor, sanitizeError, maximumIndex)
  | rounds + 1, cursor, sanitizeError, maximumIndex => do
    let (programIdIndex, cursor) ← cursor.readByte
    let sanitizeError := sanitizeError ||
      (programIdIndex = 0 ∨ programIdIndex ≥ numStaticAccountKeys)
    let (numAccounts, cursor) ← cursor.read readCompactU16
    let sanitizeError := sanitizeError || (numAccounts > maxAccountsPerInstruction)
    let (accounts, cursor) ← cursor.readBytes numAccounts.toNat
    -- the largest index is enough: it is compared with the number of accounts after the
    -- lookups, when that is known
    let maximumIndex := accounts.foldl
      (fun maximum index => some (maximum.elim index fun current => max current index))
      maximumIndex
    let (dataLen, cursor) ← cursor.read readCompactU16
    let cursor ← cursor.skip dataLen.toNat
    instructionLoop readCompactU16 numStaticAccountKeys rounds cursor sanitizeError maximumIndex

/-- The lookup loop of `try_new`: the cursor, the two totals and the deferred sanitize
error. A total that overflows its `u16` ends the loop at once, unlike a lookup that
loads nothing. -/
def lookupLoop (readCompactU16 : Reader UInt16) :
    Nat → Cursor → UInt16 → UInt16 → Bool →
    Except TransactionViewError (Cursor × UInt16 × UInt16 × Bool)
  | 0, cursor, totalWritable, totalReadonly, sanitizeError =>
    .ok (cursor, totalWritable, totalReadonly, sanitizeError)
  | rounds + 1, cursor, totalWritable, totalReadonly, sanitizeError => do
    let cursor ← cursor.skip pubkeyBytes
    let (writable, cursor) ← cursor.read readCompactU16
    let totalWritable ← okOr .sanitize (u16CheckedAdd totalWritable writable)
    let cursor ← cursor.skip writable.toNat
    let (readonly, cursor) ← cursor.read readCompactU16
    let totalReadonly ← okOr .sanitize (u16CheckedAdd totalReadonly readonly)
    let cursor ← cursor.skip readonly.toNat
    let sanitizeError := sanitizeError || (writable = 0 ∧ readonly = 0)
    lookupLoop readCompactU16 rounds cursor totalWritable totalReadonly sanitizeError

/-- The message version and the required-signature count that the message
prefix announces. -/
def readMessagePrefix (cursor : Cursor) :
    Except TransactionViewError ((MessageVersion × UInt8) × Cursor) := do
  let (messagePrefix, cursor) ← cursor.readByte
  if messagePrefix &&& messageVersionPrefix = 0 then
    return ((.legacy, messagePrefix), cursor)
  else if messagePrefix = messageVersionPrefix then
    let (required, cursor) ← cursor.readByte
    return ((.v0, required), cursor)
  else
    throw .parse

/-- The lookup count and the offset of the lookups; a legacy message has none. The `35`
bytes asked for per lookup are a key, two lengths and one index: a lookup that loads
nothing is shorter. -/
def readLookupCount (messageVersion : MessageVersion) (cursor : Cursor) :
    Except TransactionViewError ((UInt8 × Nat) × Cursor) :=
  if messageVersion = .v0 then do
    let (count, cursor) ← cursor.readByte
    if count > maxAddressTableLookupsPerPacket then throw .parse else
    let minimumLookupBytes ← okOr .parse (checkedMul count.toNat 35)
    cursor.requireRemaining minimumLookupBytes
    return ((count, cursor.offset), cursor)
  else
    return ((0, 0), cursor)

/-- `try_new` below its version and size dispatch. Everything is read before a sanitize
rule is evaluated, and the string has to end where the last list does. -/
def tryNewLegacyV0 (readCompactU16 : Reader UInt16) (bytes : Bytes) :
    Except TransactionViewError SanitizedTransactionView := do
  let (numSignatures, cursor) ← (Cursor.new bytes).readByte
  if numSignatures = 0 ∨ numSignatures > maxSignaturesPerPacket then throw .parse else
  let signaturesOffset := cursor.offset
  let cursor ← cursor.skip (numSignatures.toNat * signatureBytes)
  let ((messageVersion, numRequiredSignatures), cursor) ← readMessagePrefix cursor
  let (numReadonlySigned, cursor) ← cursor.readByte
  let (numReadonlyUnsigned, cursor) ← cursor.readByte
  let (numStaticAccountKeys, cursor) ← cursor.readByte
  if numStaticAccountKeys = 0 ∨ numStaticAccountKeys > maxStaticAccountsPerPacket then
    throw .parse
  else
  let staticAccountKeysOffset := cursor.offset
  let cursor ← cursor.skip (numStaticAccountKeys.toNat * pubkeyBytes)
  let recentBlockhashOffset := cursor.offset
  let cursor ← cursor.skip blockhashBytes
  let (numInstructions, cursor) ← cursor.read readCompactU16
  let instructionsOffset := cursor.offset
  let minimumInstructionBytes ← okOr .parse (checkedMul numInstructions.toNat 3)
  cursor.requireRemaining minimumInstructionBytes
  let (cursor, instructionSanitizeError, maximumInstructionAccountIndex) ←
    instructionLoop readCompactU16 numStaticAccountKeys numInstructions.toNat cursor
      (numInstructions > maxInstructions) none
  let ((numAddressTableLookups, addressTableLookupsOffset), cursor) ←
    readLookupCount messageVersion cursor
  let (cursor, totalWritable, totalReadonly, lookupSanitizeError) ←
    lookupLoop readCompactU16 numAddressTableLookups.toNat cursor 0 0 false
  if cursor.offset ≠ bytes.length then throw .parse else
  let headerIsInvalid : Bool := numRequiredSignatures = 0
    ∨ numReadonlySigned ≥ numRequiredSignatures
    ∨ numReadonlyUnsigned > numStaticAccountKeys - numRequiredSignatures
  let signaturesAreInvalid : Bool := numSignatures ≠ numRequiredSignatures
    ∨ numStaticAccountKeys < numSignatures
  -- an index may name a static or a loaded account; saturation keeps the sum above the bound
  -- of `256`
  let totalAccounts := u16SaturatingAdd
    (u16SaturatingAdd numStaticAccountKeys.toUInt16 totalWritable) totalReadonly
  let accountAccessIsInvalid : Bool := totalAccounts > 256
    ∨ maximumInstructionAccountIndex.any fun index => index.toUInt16 ≥ totalAccounts
  if headerIsInvalid || signaturesAreInvalid || accountAccessIsInvalid
      || instructionSanitizeError || lookupSanitizeError then
    throw .sanitize
  else
  return {
    bytes
    messageVersion
    numSignatures
    signaturesOffset
    numRequiredSignatures
    numReadonlySignedStaticAccounts := numReadonlySigned
    numReadonlyUnsignedStaticAccounts := numReadonlyUnsigned
    numStaticAccountKeys
    staticAccountKeysOffset
    recentBlockhashOffset
    numInstructions
    instructionsOffset
    instructionPayloadsOffset := 0
    instructionLayout := .legacyAndV0
    numAddressTableLookups
    addressTableLookupsOffset
    totalWritableLookupAccounts := totalWritable
    totalReadonlyLookupAccounts := totalReadonly
    transactionConfigMask := 0
    transactionConfigValuesOffset := 0 }

-- ---------------------------------------------------------------------------
-- The v1 constructor
-- ---------------------------------------------------------------------------

/-- The instruction loop of `try_new_v1`: one offset walks the fixed-size headers, the
other the payloads. There are no lookups in v1, so an account index is compared with the
number of static keys right away. -/
def instructionLoopV1 (bytes : Bytes) (numStaticAccountKeys : UInt8) :
    Nat → Nat → Nat → Bool → Except TransactionViewError (Nat × Bool)
  | 0, _, payloadOffset, sanitizeError => .ok (payloadOffset, sanitizeError)
  | rounds + 1, headerOffset, payloadOffset, sanitizeError => do
    let (programIdIndex, headerOffset) ← okOr .parse (readByteAt bytes headerOffset)
    let (numAccounts, headerOffset) ← okOr .parse (readByteAt bytes headerOffset)
    let (dataLen, headerOffset) ← okOr .parse (readU16LeAt bytes headerOffset)
    let sanitizeError := sanitizeError ||
      (programIdIndex = 0 ∨ programIdIndex ≥ numStaticAccountKeys)
    let (accounts, payloadOffset) ←
      okOr .parse (readBytesAt numAccounts.toNat bytes payloadOffset)
    let sanitizeError := accounts.foldl
      (fun sanitizeError accountIndex => sanitizeError || accountIndex ≥ numStaticAccountKeys)
      sanitizeError
    let (_, payloadOffset) ← okOr .parse (readBytesAt dataLen.toNat bytes payloadOffset)
    instructionLoopV1 bytes numStaticAccountKeys rounds headerOffset payloadOffset sanitizeError

/-- `cursor.skip(len)?` under a condition. -/
def Cursor.skipIf (cursor : Cursor) (condition : Prop) [Decidable condition] (len : Nat) :
    Except TransactionViewError Cursor :=
  if condition then cursor.skip len else .ok cursor

/-- `Some(cursor.read_u32_le()?)` under a condition. -/
def Cursor.readU32LeIf (cursor : Cursor) (condition : Prop) [Decidable condition] :
    Except TransactionViewError (Option UInt32 × Cursor) :=
  if condition then do
    let (value, cursor) ← cursor.readU32Le
    return (some value, cursor)
  else
    return (none, cursor)

/-- `try_new_v1`. The sanitize rules are evaluated at the end, when the whole string has
been read: a string that is malformed somewhere is a parse error even if a rule is
broken earlier. Only the size limit comes first. -/
def tryNewV1 (bytes : Bytes) : Except TransactionViewError SanitizedTransactionView := do
  if bytes.length > maxV1TransactionBytes then throw .sanitize else
  let (version, cursor) ← (Cursor.new bytes).readByte
  if version ≠ v1Prefix then throw .unsupportedVersion else
  let (numRequiredSignatures, cursor) ← cursor.readByte
  let (numReadonlySigned, cursor) ← cursor.readByte
  let (numReadonlyUnsigned, cursor) ← cursor.readByte
  let (mask, cursor) ← cursor.readU32Le
  if mask &&& ~~~v1ConfigKnownBits ≠ 0
      ∨ mask &&& v1ConfigPriorityFee = 1 ∨ mask &&& v1ConfigPriorityFee = 2 then
    throw .parse
  else
  let recentBlockhashOffset := cursor.offset
  let cursor ← cursor.skip blockhashBytes
  let (instructionCount, cursor) ← cursor.readByte
  let numInstructions := instructionCount.toUInt16
  let (numStaticAccountKeys, cursor) ← cursor.readByte
  let staticAccountKeysOffset := cursor.offset
  let cursor ← cursor.skip (numStaticAccountKeys.toNat * pubkeyBytes)
  let transactionConfigValuesOffset := cursor.offset
  let cursor ← cursor.skipIf (mask &&& v1ConfigPriorityFee = v1ConfigPriorityFee) 8
  let cursor ← cursor.skipIf (mask &&& v1ConfigComputeUnitLimit ≠ 0) 4
  let cursor ← cursor.skipIf (mask &&& v1ConfigLoadedAccountsDataSize ≠ 0) 4
  let (heapSize, cursor) ← cursor.readU32LeIf (mask &&& v1ConfigHeapSize ≠ 0)
  let instructionsOffset := cursor.offset
  let instructionHeadersLen ←
    okOr .parse (checkedMul numInstructions.toNat v1InstructionHeaderBytes)
  let cursor ← cursor.skip instructionHeadersLen
  let instructionPayloadsOffset := cursor.offset
  -- the headers have been skipped as a block; the loop reads them again from their offset
  let (payloadOffset, instructionSanitizeError) ←
    instructionLoopV1 bytes numStaticAccountKeys numInstructions.toNat instructionsOffset
      instructionPayloadsOffset (numInstructions > maxInstructions)
  -- the signatures of a v1 transaction stand behind the payloads
  let cursor : Cursor := { cursor with offset := payloadOffset }
  let signaturesOffset := cursor.offset
  let cursor ← cursor.skip (numRequiredSignatures.toNat * signatureBytes)
  if cursor.offset ≠ bytes.length then throw .parse else
  let headerIsInvalid : Bool := numRequiredSignatures = 0
    ∨ numReadonlySigned ≥ numRequiredSignatures
    ∨ numReadonlyUnsigned > numStaticAccountKeys - numRequiredSignatures
  let signaturesAreInvalid : Bool := numRequiredSignatures > maxSignaturesPerPacket
    ∨ numStaticAccountKeys < numRequiredSignatures
  let addressesAreInvalid : Bool := numStaticAccountKeys = 0
    ∨ numStaticAccountKeys > maxV1StaticAccounts
  let heapSizeIsInvalid : Bool := heapSize.any fun heapSize =>
    ¬(minV1HeapSize ≤ heapSize ∧ heapSize ≤ maxV1HeapSize) ∨ heapSize % 1024 ≠ 0
  if headerIsInvalid || signaturesAreInvalid || addressesAreInvalid
      || heapSizeIsInvalid || instructionSanitizeError then
    throw .sanitize
  else
  return {
    bytes
    messageVersion := .v1
    numSignatures := numRequiredSignatures
    signaturesOffset
    numRequiredSignatures
    numReadonlySignedStaticAccounts := numReadonlySigned
    numReadonlyUnsignedStaticAccounts := numReadonlyUnsigned
    numStaticAccountKeys
    staticAccountKeysOffset
    recentBlockhashOffset
    numInstructions
    instructionsOffset
    instructionPayloadsOffset
    instructionLayout := .v1
    numAddressTableLookups := 0
    addressTableLookupsOffset := 0
    totalWritableLookupAccounts := 0
    totalReadonlyLookupAccounts := 0
    transactionConfigMask := mask
    transactionConfigValuesOffset }

/-- `SanitizedTransactionView::try_new`, over the compact-u16 reader it uses: the first
byte chooses the constructor, and legacy and v0 strings are measured against their size
limit before anything is read. -/
def tryNewWith (readCompactU16 : Reader UInt16) (bytes : Bytes) :
    Except TransactionViewError SanitizedTransactionView :=
  match bytes.head? with
  | none => .error .parse
  | some firstByte =>
    if firstByte = v1Prefix then tryNewV1 bytes
    else if firstByte &&& messageVersionPrefix ≠ 0 then .error .unsupportedVersion
    else if bytes.length > maxLegacyV0TransactionBytes then .error .sanitize
    else tryNewLegacyV0 readCompactU16 bytes

/-- `SanitizedTransactionView::try_new`. -/
def tryNew : Bytes → Except TransactionViewError SanitizedTransactionView :=
  tryNewWith readCompactU16At

-- ---------------------------------------------------------------------------
-- Accessors
-- ---------------------------------------------------------------------------

/-- `array_slice`: `count` arrays of `n` bytes each, starting at an offset.
`none` is the panic of its two `expect`s. -/
def arraySlice (n : Nat) (bytes : Bytes) (offset count : Nat) : Option (List (FixedBytes n)) := do
  let byteLen ← checkedMul count n
  let region ← getRange bytes offset (offset + byteLen)
  return chunks n count region

/-- `read_u32_le`; `none` is its out-of-range panic. -/
def readU32Le (bytes : Bytes) (offset : Nat) : Option UInt32 := do
  let value ← getRange bytes offset (offset + 4)
  return UInt32.ofNat (leNat value)

/-- `read_u64_le`; `none` is its out-of-range panic. -/
def readU64Le (bytes : Bytes) (offset : Nat) : Option UInt64 := do
  let value ← getRange bytes offset (offset + 8)
  return UInt64.ofNat (leNat value)

namespace SanitizedTransactionView

/-- `data`: the bytes the view was made from. -/
def data (view : SanitizedTransactionView) : Bytes := view.bytes

/-- `signatures`. -/
def signatures (view : SanitizedTransactionView) : Option (List (FixedBytes 64)) :=
  arraySlice signatureBytes view.bytes view.signaturesOffset view.numSignatures.toNat

/-- `static_account_keys`. -/
def staticAccountKeys (view : SanitizedTransactionView) : Option (List (FixedBytes 32)) :=
  arraySlice pubkeyBytes view.bytes view.staticAccountKeysOffset view.numStaticAccountKeys.toNat

/-- `recent_blockhash`; `none` is the panic of its index or of its `expect`. -/
def recentBlockhash (view : SanitizedTransactionView) : Option (FixedBytes 32) := do
  let range ← getRange view.bytes view.recentBlockhashOffset
    (view.recentBlockhashOffset + blockhashBytes)
  FixedBytes.ofList? 32 range

/-- `instructions_iter`: an iterator at the start of the list, with the whole count to
go. -/
def instructionsIter (view : SanitizedTransactionView) : SanitizedInstructionIterator where
  bytes := view.bytes
  headerOffset := view.instructionsOffset
  payloadOffset := view.instructionPayloadsOffset
  remaining := view.numInstructions
  layout := view.instructionLayout

/-- `transaction_config`: there for v1 transactions only. -/
def transactionConfig (view : SanitizedTransactionView) :
    Option SanitizedTransactionConfigView :=
  if view.messageVersion = .v1 then
    some {
      bytes := view.bytes
      mask := view.transactionConfigMask
      valuesOffset := view.transactionConfigValuesOffset }
  else none

/-- `address_table_lookup_iter`. -/
def addressTableLookupIter (view : SanitizedTransactionView) :
    SanitizedAddressTableLookupIterator where
  bytes := view.bytes
  offset := view.addressTableLookupsOffset
  remaining := view.numAddressTableLookups

end SanitizedTransactionView

/-! ### The v1 configuration

The outer `Option` of an accessor is the panic of its `expect`, the inner one
the field's own. -/

namespace SanitizedTransactionConfigView

/-- `usize::from(condition) * width`. -/
def widthIf (condition : Prop) [Decidable condition] (width : Nat) : Nat :=
  (if condition then 1 else 0) * width

/-- Where the compute unit limit would stand: behind the fee, if there is one. -/
def offsetAfterPriorityFee (config : SanitizedTransactionConfigView) : Nat :=
  config.valuesOffset
    + widthIf (config.mask &&& v1ConfigPriorityFee = v1ConfigPriorityFee) 8

/-- Where the loaded-data limit would stand. -/
def offsetAfterComputeUnitLimit (config : SanitizedTransactionConfigView) : Nat :=
  config.offsetAfterPriorityFee + widthIf (config.mask &&& v1ConfigComputeUnitLimit ≠ 0) 4

/-- Where the heap size would stand. -/
def offsetAfterLoadedAccountsDataSize (config : SanitizedTransactionConfigView) : Nat :=
  config.offsetAfterComputeUnitLimit
    + widthIf (config.mask &&& v1ConfigLoadedAccountsDataSize ≠ 0) 4

/-- The fee, present when both of its bits are. -/
def priorityFeeLamports (config : SanitizedTransactionConfigView) : Option (Option UInt64) :=
  if config.mask &&& v1ConfigPriorityFee = v1ConfigPriorityFee then
    (readU64Le config.bytes config.valuesOffset).map some
  else some none

/-- The compute unit limit, present when its bit is. -/
def computeUnitLimit (config : SanitizedTransactionConfigView) : Option (Option UInt32) :=
  if config.mask &&& v1ConfigComputeUnitLimit ≠ 0 then
    (readU32Le config.bytes config.offsetAfterPriorityFee).map some
  else some none

/-- The limit on loaded account data, present when its bit is. -/
def loadedAccountsDataSizeLimit (config : SanitizedTransactionConfigView) :
    Option (Option UInt32) :=
  if config.mask &&& v1ConfigLoadedAccountsDataSize ≠ 0 then
    (readU32Le config.bytes config.offsetAfterComputeUnitLimit).map some
  else some none

/-- The heap size asked for, present when its bit is. -/
def requestedHeapSize (config : SanitizedTransactionConfigView) : Option (Option UInt32) :=
  if config.mask &&& v1ConfigHeapSize ≠ 0 then
    (readU32Le config.bytes config.offsetAfterLoadedAccountsDataSize).map some
  else some none

end SanitizedTransactionConfigView

/-! ## Iterators

`next` returns the item and the iterator it leaves behind: an early `?` keeps
the offset its readers had already moved. -/

namespace SanitizedInstructionIterator

/-- `next`, over the compact-u16 reader. Every read that fails ends the call with `None`;
the count goes down only when an instruction is returned. -/
def nextWith (readCompactU16 : Reader UInt16) (it : SanitizedInstructionIterator) :
    Option SanitizedInstructionView × SanitizedInstructionIterator :=
  if it.remaining = 0 then (none, it)
  else match it.layout with
  | .legacyAndV0 =>
    match readByteAt it.bytes it.headerOffset with
    | none => (none, it)
    | some (programIdIndex, offset) =>
    match readCompactU16 it.bytes offset with
    | none => (none, { it with headerOffset := offset })
    | some (numAccounts, offset) =>
    match readBytesAt numAccounts.toNat it.bytes offset with
    | none => (none, { it with headerOffset := offset })
    | some (accounts, offset) =>
    match readCompactU16 it.bytes offset with
    | none => (none, { it with headerOffset := offset })
    | some (dataLen, offset) =>
    match readBytesAt dataLen.toNat it.bytes offset with
    | none => (none, { it with headerOffset := offset })
    | some (data, offset) =>
      (some { programIdIndex, accounts, data },
        { it with headerOffset := offset, remaining := it.remaining - 1 })
  | .v1 =>
    match readByteAt it.bytes it.headerOffset with
    | none => (none, it)
    | some (programIdIndex, offset) =>
    match readByteAt it.bytes offset with
    | none => (none, { it with headerOffset := offset })
    | some (numAccounts, offset) =>
    match readU16LeAt it.bytes offset with
    | none => (none, { it with headerOffset := offset })
    | some (dataLen, offset) =>
    match readBytesAt numAccounts.toNat it.bytes it.payloadOffset with
    | none => (none, { it with headerOffset := offset })
    | some (accounts, payload) =>
    match readBytesAt dataLen.toNat it.bytes payload with
    | none => (none, { it with headerOffset := offset, payloadOffset := payload })
    | some (data, payload) =>
      (some { programIdIndex, accounts, data },
        { it with headerOffset := offset, payloadOffset := payload,
                  remaining := it.remaining - 1 })

/-- `Iterator::next`. -/
def next : SanitizedInstructionIterator →
    Option SanitizedInstructionView × SanitizedInstructionIterator :=
  nextWith readCompactU16At

/-- `ExactSizeIterator::len`. -/
def len (it : SanitizedInstructionIterator) : Nat := it.remaining.toNat

/-- `Iterator::size_hint`. -/
def sizeHint (it : SanitizedInstructionIterator) : Nat × Option Nat :=
  (it.remaining.toNat, some it.remaining.toNat)

end SanitizedInstructionIterator

namespace SanitizedAddressTableLookupIterator

/-- `next`, over the compact-u16 reader. -/
def nextWith (readCompactU16 : Reader UInt16) (it : SanitizedAddressTableLookupIterator) :
    Option SanitizedAddressTableLookup × SanitizedAddressTableLookupIterator :=
  if it.remaining = 0 then (none, it)
  else
    match readBytesAt pubkeyBytes it.bytes it.offset with
    | none => (none, it)
    | some (key, offset) =>
    match FixedBytes.ofList? 32 key with
    | none => (none, { it with offset := offset })
    | some accountKey =>
    match readCompactU16 it.bytes offset with
    | none => (none, { it with offset := offset })
    | some (numWritable, offset) =>
    match readBytesAt numWritable.toNat it.bytes offset with
    | none => (none, { it with offset := offset })
    | some (writableIndexes, offset) =>
    match readCompactU16 it.bytes offset with
    | none => (none, { it with offset := offset })
    | some (numReadonly, offset) =>
    match readBytesAt numReadonly.toNat it.bytes offset with
    | none => (none, { it with offset := offset })
    | some (readonlyIndexes, offset) =>
      (some { accountKey, writableIndexes, readonlyIndexes },
        { it with offset := offset, remaining := it.remaining - 1 })

/-- `Iterator::next`. -/
def next : SanitizedAddressTableLookupIterator →
    Option SanitizedAddressTableLookup × SanitizedAddressTableLookupIterator :=
  nextWith readCompactU16At

/-- `ExactSizeIterator::len`. -/
def len (it : SanitizedAddressTableLookupIterator) : Nat := it.remaining.toNat

/-- `Iterator::size_hint`. -/
def sizeHint (it : SanitizedAddressTableLookupIterator) : Nat × Option Nat :=
  (it.remaining.toNat, some it.remaining.toNat)

end SanitizedAddressTableLookupIterator

end TxStream
