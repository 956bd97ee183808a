import TxStream.Protocol.Transaction
import TxStream.Wire.CompactU16

/-!
# The reference transaction formats

What a serialized transaction is, stated without reference to any parser: an
abstract transaction is a record of its parts, `WellFormed` says which records
the wire format can carry, `serialize` writes one out, and `Sanitary` is the
list of sanitize rules over the natural numbers.

* `PacketTransaction` — legacy and v0 transactions.
* `V1Transaction` — v1 transactions.
-/

namespace TxStream

open Wire

-- ---------------------------------------------------------------------------
-- Instructions and lookups
-- ---------------------------------------------------------------------------

/-- A list of bytes behind its compact-u16 length. -/
def compactBytes (bs : Bytes) : Bytes := encodeCompactU16 bs.length ++ bs

/-- An instruction as legacy and v0 messages carry it. -/
def SanitizedInstructionView.serialize (instruction : SanitizedInstructionView) : Bytes :=
  instruction.programIdIndex ::
    (compactBytes instruction.accounts ++ compactBytes instruction.data)

/-- The fixed-size part of a v1 instruction. -/
def SanitizedInstructionView.serializeHeader (instruction : SanitizedInstructionView) : Bytes :=
  instruction.programIdIndex :: UInt8.ofNat instruction.accounts.length ::
    leBytes 2 instruction.data.length

/-- The variable part of a v1 instruction. -/
def SanitizedInstructionView.serializePayload (instruction : SanitizedInstructionView) : Bytes :=
  instruction.accounts ++ instruction.data

/-- A lookup as v0 messages carry it. -/
def SanitizedAddressTableLookup.serialize (lookup : SanitizedAddressTableLookup) : Bytes :=
  lookup.accountKey.toList
    ++ compactBytes lookup.writableIndexes ++ compactBytes lookup.readonlyIndexes

/-- How many accounts a list of lookups loads for writing. -/
def writableSum (ls : List SanitizedAddressTableLookup) : Nat :=
  (ls.map fun l => l.writableIndexes.length).sum

/-- How many accounts a list of lookups loads for reading. -/
def readonlySum (ls : List SanitizedAddressTableLookup) : Nat :=
  (ls.map fun l => l.readonlyIndexes.length).sum

-- ---------------------------------------------------------------------------
-- Legacy and v0
-- ---------------------------------------------------------------------------

/-- An abstract legacy or v0 transaction: the values that stand on the wire, with no
offsets and no lengths, which the lists have themselves. -/
structure PacketTransaction where
  signatures : List (FixedBytes 64)
  messageVersion : MessageVersion
  numRequiredSignatures : UInt8
  numReadonlySigned : UInt8
  numReadonlyUnsigned : UInt8
  accountKeys : List (FixedBytes 32)
  recentBlockhash : FixedBytes 32
  instructions : List SanitizedInstructionView
  lookups : List SanitizedAddressTableLookup

namespace PacketTransaction

/-- The transactions that the legacy and v0 wire formats can carry: every length fits its
field, the counts are those of a packet, and there are lookups in v0 messages only. -/
structure WellFormed (tx : PacketTransaction) : Prop where
  one_le_signatures : 1 ≤ tx.signatures.length
  signatures_le : tx.signatures.length ≤ 12
  version_ne : tx.messageVersion ≠ .v1
  required_lt : tx.messageVersion = .legacy → tx.numRequiredSignatures.toNat < 0x80
  one_le_keys : 1 ≤ tx.accountKeys.length
  keys_le : tx.accountKeys.length ≤ 38
  instructions_lt : tx.instructions.length < 65536
  instruction_lt : ∀ i ∈ tx.instructions, i.accounts.length < 65536 ∧ i.data.length < 65536
  lookups_le : tx.lookups.length ≤ 31
  lookup_lt : ∀ l ∈ tx.lookups,
    l.writableIndexes.length < 65536 ∧ l.readonlyIndexes.length < 65536
  lookups_legacy : tx.messageVersion = .legacy → tx.lookups = []

/-- The message prefix: nothing before the header of a legacy message, the
version byte before the header of a v0 message. -/
def versionPrefix (tx : PacketTransaction) : Bytes :=
  if tx.messageVersion = .v0 then [0x80] else []

/-- The lookup section, which legacy messages do not have. -/
def lookupSection (tx : PacketTransaction) : Bytes :=
  if tx.messageVersion = .v0 then
    UInt8.ofNat tx.lookups.length :: tx.lookups.flatMap SanitizedAddressTableLookup.serialize
  else []

/-- The bytes of a transaction, section by section. -/
def serialize (tx : PacketTransaction) : Bytes :=
  [UInt8.ofNat tx.signatures.length] ++ tx.signatures.flatMap FixedBytes.toList
    ++ tx.versionPrefix
    ++ [tx.numRequiredSignatures, tx.numReadonlySigned, tx.numReadonlyUnsigned]
    ++ [UInt8.ofNat tx.accountKeys.length] ++ tx.accountKeys.flatMap FixedBytes.toList
    ++ tx.recentBlockhash.toList
    ++ encodeCompactU16 tx.instructions.length
    ++ tx.instructions.flatMap SanitizedInstructionView.serialize
    ++ tx.lookupSection

/-- The room that the parser demands for a lookup list before it reads it: 35
bytes for each, a key, two lengths and at least one index. -/
def LookupRoom (tx : PacketTransaction) : Prop :=
  35 * tx.lookups.length ≤ (tx.lookups.flatMap SanitizedAddressTableLookup.serialize).length

instance : DecidablePred LookupRoom := fun _ => inferInstanceAs (Decidable (_ ≤ _))

/-- All accounts that an instruction may refer to. -/
def totalAccounts (tx : PacketTransaction) : Nat :=
  tx.accountKeys.length + writableSum tx.lookups + readonlySum tx.lookups

/-- The sanitize rules of legacy and v0 transactions, over natural numbers: nothing wraps and
nothing saturates here. They are stated for the transaction and name no offset. -/
@[mk_iff]
structure Sanitary (tx : PacketTransaction) : Prop where
  required_eq : tx.numRequiredSignatures.toNat = tx.signatures.length
  readonly_signed_lt : tx.numReadonlySigned.toNat < tx.numRequiredSignatures.toNat
  required_le : tx.numRequiredSignatures.toNat ≤ tx.accountKeys.length
  readonly_unsigned_le :
    tx.numReadonlyUnsigned.toNat ≤ tx.accountKeys.length - tx.numRequiredSignatures.toNat
  instructions_le : tx.instructions.length ≤ 64
  program_index : ∀ i ∈ tx.instructions,
    1 ≤ i.programIdIndex.toNat ∧ i.programIdIndex.toNat ≤ tx.accountKeys.length - 1
  accounts_le : ∀ i ∈ tx.instructions, i.accounts.length ≤ 255
  account_index : ∀ i ∈ tx.instructions, ∀ index ∈ i.accounts, index.toNat < tx.totalAccounts
  lookup_nonempty : ∀ l ∈ tx.lookups, l.writableIndexes ≠ [] ∨ l.readonlyIndexes ≠ []
  total_le : tx.totalAccounts ≤ 256

-- bounded by the list: the accounts are not searched among all of `UInt8`
instance (accounts : List UInt8) (n : Nat) : Decidable (∀ index ∈ accounts, index.toNat < n) :=
  List.decidableBAll _ accounts

instance (tx : PacketTransaction) : Decidable tx.Sanitary :=
  decidable_of_iff' _ tx.sanitary_iff

end PacketTransaction

-- ---------------------------------------------------------------------------
-- v1
-- ---------------------------------------------------------------------------

/-- An abstract v1 transaction. The mask is kept beside the values it announces, since
it is on the wire itself. -/
structure V1Transaction where
  numRequiredSignatures : UInt8
  numReadonlySigned : UInt8
  numReadonlyUnsigned : UInt8
  configMask : UInt32
  recentBlockhash : FixedBytes 32
  accountKeys : List (FixedBytes 32)
  priorityFee : Option UInt64
  computeUnitLimit : Option UInt32
  loadedAccountsDataSize : Option UInt32
  heapSize : Option UInt32
  instructions : List SanitizedInstructionView
  signatures : List (FixedBytes 64)

namespace V1Transaction

/-- The transactions that the v1 wire format can carry. The mask has no bit
beyond the five known ones, its two fee bits agree, and it announces exactly
the values that are there. -/
structure WellFormed (tx : V1Transaction) : Prop where
  mask_lt : tx.configMask.toNat < 32
  fee_bits : tx.configMask.toNat.testBit 0 = tx.configMask.toNat.testBit 1
  priorityFee_isSome : tx.priorityFee.isSome = tx.configMask.toNat.testBit 0
  computeUnitLimit_isSome : tx.computeUnitLimit.isSome = tx.configMask.toNat.testBit 2
  loadedAccountsDataSize_isSome :
    tx.loadedAccountsDataSize.isSome = tx.configMask.toNat.testBit 3
  heapSize_isSome : tx.heapSize.isSome = tx.configMask.toNat.testBit 4
  keys_lt : tx.accountKeys.length < 256
  instructions_lt : tx.instructions.length < 256
  instruction_lt : ∀ i ∈ tx.instructions, i.accounts.length < 256 ∧ i.data.length < 65536
  signatures_eq : tx.signatures.length = tx.numRequiredSignatures.toNat

/-- The configuration values that are present, in their fixed order. -/
def configValues (tx : V1Transaction) : Bytes :=
  tx.priorityFee.elim [] (fun fee => leBytes 8 fee.toNat)
    ++ tx.computeUnitLimit.elim [] (fun limit => leBytes 4 limit.toNat)
    ++ tx.loadedAccountsDataSize.elim [] (fun limit => leBytes 4 limit.toNat)
    ++ tx.heapSize.elim [] (fun size => leBytes 4 size.toNat)

/-- The bytes of a transaction, section by section; the signatures come last. -/
def serialize (tx : V1Transaction) : Bytes :=
  [0x81, tx.numRequiredSignatures, tx.numReadonlySigned, tx.numReadonlyUnsigned]
    ++ leBytes 4 tx.configMask.toNat
    ++ tx.recentBlockhash.toList
    ++ [UInt8.ofNat tx.instructions.length, UInt8.ofNat tx.accountKeys.length]
    ++ tx.accountKeys.flatMap FixedBytes.toList
    ++ tx.configValues
    ++ tx.instructions.flatMap SanitizedInstructionView.serializeHeader
    ++ tx.instructions.flatMap SanitizedInstructionView.serializePayload
    ++ tx.signatures.flatMap FixedBytes.toList

/-- The sanitize rules of v1 transactions. Without lookups an instruction refers to static
accounts only, and a requested heap has a size between the two bounds. -/
@[mk_iff]
structure Sanitary (tx : V1Transaction) : Prop where
  one_le_required : 1 ≤ tx.numRequiredSignatures.toNat
  required_le_twelve : tx.numRequiredSignatures.toNat ≤ 12
  readonly_signed_lt : tx.numReadonlySigned.toNat < tx.numRequiredSignatures.toNat
  required_le : tx.numRequiredSignatures.toNat ≤ tx.accountKeys.length
  keys_le : tx.accountKeys.length ≤ 64
  readonly_unsigned_le :
    tx.numReadonlyUnsigned.toNat ≤ tx.accountKeys.length - tx.numRequiredSignatures.toNat
  instructions_le : tx.instructions.length ≤ 64
  program_index : ∀ i ∈ tx.instructions,
    1 ≤ i.programIdIndex.toNat ∧ i.programIdIndex.toNat ≤ tx.accountKeys.length - 1
  account_index : ∀ i ∈ tx.instructions, ∀ index ∈ i.accounts,
    index.toNat < tx.accountKeys.length
  heapSize_range : ∀ size ∈ tx.heapSize,
    32 * 1024 ≤ size.toNat ∧ size.toNat ≤ 256 * 1024 ∧ 1024 ∣ size.toNat

instance (heapSize : Option UInt32) : Decidable (∀ size ∈ heapSize,
    32 * 1024 ≤ size.toNat ∧ size.toNat ≤ 256 * 1024 ∧ 1024 ∣ size.toNat) :=
  Option.decidableForallMem _

instance (tx : V1Transaction) : Decidable tx.Sanitary :=
  decidable_of_iff' _ tx.sanitary_iff

end V1Transaction

end TxStream
