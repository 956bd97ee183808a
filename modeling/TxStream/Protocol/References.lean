import TxStream.Protocol.Accessors
import TxStream.Protocol.FrameBounds

/-!
# Account references

The instructions of a transaction refer to accounts by their index in the static
keys followed by the loaded writable and the loaded readonly keys. The sanitizer
compares the largest index with the totals of the lookups, `parse` compares the
totals with the counts of the header, and `validate` compares the counts with
the lengths of the two loaded regions. So a consumer of a parsed frame can index
the joined list with what the iterators return.

Main results:

* `Accepted.references` — the references of an accepted transaction, against the
  totals of its lookups.
* `frame_references_resolve` — the references of a parsed frame, against its keys.
-/

namespace TxStream

open Wire Rust Format

-- ---------------------------------------------------------------------------
-- Transactions
-- ---------------------------------------------------------------------------

/-- What the accessors and iterators of a view return, and that its references
stay below its totals. -/
structure References (view : SanitizedTransactionView) (keys : List (FixedBytes 32))
    (instructions : List SanitizedInstructionView) (lookups : List SanitizedAddressTableLookup) :
    Prop where
  staticAccountKeys : view.staticAccountKeys = some keys
  instructionsIter : Yields SanitizedInstructionIterator.next SanitizedInstructionIterator.len
    view.instructionsIter instructions
  addressTableLookupIter : Yields SanitizedAddressTableLookupIterator.next
    SanitizedAddressTableLookupIterator.len view.addressTableLookupIter lookups
  totalWritable : view.totalWritableLookupAccounts.toNat = writableSum lookups
  totalReadonly : view.totalReadonlyLookupAccounts.toNat = readonlySum lookups
  total_le : keys.length + writableSum lookups + readonlySum lookups ≤ 256
  program : ∀ i ∈ instructions, 1 ≤ i.programIdIndex.toNat ∧ i.programIdIndex.toNat < keys.length
  account : ∀ i ∈ instructions, ∀ index ∈ i.accounts,
    index.toNat < keys.length + writableSum lookups + readonlySum lookups
  only_v0 : view.messageVersion ≠ .v0 → lookups = []

/-- The accessor of the static keys is one of those that are read out. -/
theorem staticAccountKeys_of_readout {view : SanitizedTransactionView} {r : Readout}
    (h : view.readout = some r) : view.staticAccountKeys = some r.staticAccountKeys := by
  unfold SanitizedTransactionView.readout at h
  obtain ⟨signatures, -, h⟩ := Option.bind_eq_some_iff.mp h
  obtain ⟨keys, hKeys, h⟩ := Option.bind_eq_some_iff.mp h
  obtain ⟨blockhash, -, h⟩ := Option.bind_eq_some_iff.mp h
  cases hConfig : view.transactionConfig with
  | none =>
    rw [hConfig] at h
    rw [hKeys, ← Option.some.inj h]
  | some config =>
    rw [hConfig] at h
    obtain ⟨readout, -, h⟩ := Option.bind_eq_some_iff.mp h
    rw [hKeys, ← Option.some.inj h]

/-- **References of a transaction.** They stay below the totals that the
sanitizer has counted. -/
theorem Accepted.references {bytes : Bytes} {view : SanitizedTransactionView}
    (h : Accepted bytes view) :
    ∃ keys instructions lookups, References view keys instructions lookups := by
  cases h with
  -- the sanitize rules bound the indexes; a program is one of the static keys
  | packet tx hValid _ hSanitary hEq hShort =>
    subst hEq
    have hTotal := hSanitary.total_le
    have hKeys := hValid.one_le_keys
    unfold PacketTransaction.totalAccounts at hTotal
    refine ⟨tx.accountKeys, tx.instructions, tx.lookups,
      staticAccountKeys_of_readout (tx.readout_view hValid hShort),
      tx.view_instructionsIter_yields hValid hShort,
      tx.view_addressTableLookupIter_yields hValid hShort, ?_, ?_, hTotal, ?_,
      hSanitary.account_index, ?_⟩
    · exact UInt16.toNat_ofNat_of_lt' (by unfold UInt16.size; omega)
    · exact UInt16.toNat_ofNat_of_lt' (by unfold UInt16.size; omega)
    · intro i hi
      have hProgram := hSanitary.program_index i hi
      exact ⟨hProgram.1, by omega⟩
    · intro hNotV0
      refine hValid.lookups_legacy ?_
      have hNotV0 : tx.messageVersion ≠ .v0 := hNotV0
      have hNotV1 := hValid.version_ne
      cases hVersion : tx.messageVersion with
      | legacy => rfl
      | v0 => exact absurd hVersion hNotV0
      | v1 => exact absurd hVersion hNotV1
  | v1 tx hValid hSanitary hEq hShort =>
    subst hEq
    have hKeys := hSanitary.keys_le
    refine ⟨tx.accountKeys, tx.instructions, [],
      staticAccountKeys_of_readout (tx.readout_view hValid hShort),
      tx.view_instructionsIter_yields hValid hShort, tx.view_addressTableLookupIter_yields,
      rfl, rfl, ?_, ?_, hSanitary.account_index, fun _ => rfl⟩
    · show tx.accountKeys.length + 0 + 0 ≤ 256
      omega
    · intro i hi
      have hProgram := hSanitary.program_index i hi
      exact ⟨hProgram.1, by omega⟩

-- ---------------------------------------------------------------------------
-- Frames
-- ---------------------------------------------------------------------------

/-- The keys that the instructions of a frame refer to, given the static ones. -/
def ValidatedFrame.accountKeys (f : ValidatedFrame) (keys : List (FixedBytes 32)) :
    List (FixedBytes 32) :=
  keys ++ keysOf f.loadedWritableBytes ++ keysOf f.loadedReadonlyBytes

/-- The loaded regions of a frame are those that its lookups ask for, and every
reference of its instructions names a key. -/
structure ReferencesResolve (f : ValidatedFrame) (keys : List (FixedBytes 32))
    (instructions : List SanitizedInstructionView) (lookups : List SanitizedAddressTableLookup) :
    Prop where
  staticAccountKeys : f.transactionView.staticAccountKeys = some keys
  instructionsIter : Yields SanitizedInstructionIterator.next SanitizedInstructionIterator.len
    f.transactionView.instructionsIter instructions
  addressTableLookupIter : Yields SanitizedAddressTableLookupIterator.next
    SanitizedAddressTableLookupIterator.len f.transactionView.addressTableLookupIter lookups
  writable : f.loadedWritableBytes.length =
    32 * (lookups.map fun l => l.writableIndexes.length).sum
  readonly : f.loadedReadonlyBytes.length =
    32 * (lookups.map fun l => l.readonlyIndexes.length).sum
  keys_le : (f.accountKeys keys).length ≤ 256
  program : ∀ i ∈ instructions, i.programIdIndex ≠ 0 ∧
    ∃ key, keys[i.programIdIndex.toNat]? = some key
  account : ∀ i ∈ instructions, ∀ index ∈ i.accounts,
    ∃ key, (f.accountKeys keys)[index.toNat]? = some key
  only_v0 : f.header.messageVersion ≠ .v0 →
    f.loadedWritableBytes = [] ∧ f.loadedReadonlyBytes = []

/-- The loaded regions of a parsed frame hold as many keys as its view counts. -/
theorem ValidatedFrame.Canonical.loaded_length {f : ValidatedFrame} (h : f.Canonical) :
    f.loadedWritableBytes.length = f.transactionView.totalWritableLookupAccounts.toNat * keyBytes ∧
      f.loadedReadonlyBytes.length =
        f.transactionView.totalReadonlyLookupAccounts.toNat * keyBytes := by
  have hLayout := FrameHeaderV1.bodyLayout_of_validate h.header_valid
  rw [h.writableCount, h.readonlyCount, ← hLayout.writableLength, ← hLayout.readonlyLength]
  exact ⟨h.writableLength, h.readonlyLength⟩

/-- **Every account reference of a parsed frame resolves.** Each list was checked
against a count, and the counts against each other: the sanitizer compares indexes with
totals, `parse` totals with the counts of the header, and `validate` these with the
lengths of the regions. -/
theorem frame_references_resolve {bytes : Bytes} {f : ValidatedFrame}
    (h : ValidatedFrame.parse bytes = .ok f) :
    ∃ keys instructions lookups, ReferencesResolve f keys instructions lookups := by
  obtain ⟨hCanonical, -⟩ := parse_inv h
  obtain ⟨keys, instructions, lookups, hReferences⟩ := (tryNew_eq_ok.mp hCanonical.view).references
  obtain ⟨hWritable, hReadonly⟩ := hCanonical.loaded_length
  obtain ⟨hWritableKeys, -⟩ := keysOf_region hWritable
  obtain ⟨hReadonlyKeys, -⟩ := keysOf_region hReadonly
  rw [hReferences.totalWritable] at hWritable hWritableKeys
  rw [hReferences.totalReadonly] at hReadonly hReadonlyKeys
  -- the joined list has as many keys as the sanitizer counted
  have hLength : (f.accountKeys keys).length =
      keys.length + writableSum lookups + readonlySum lookups := by
    unfold ValidatedFrame.accountKeys
    rw [List.length_append, List.length_append, hWritableKeys, hReadonlyKeys]
  refine ⟨keys, instructions, lookups, hReferences.staticAccountKeys,
    hReferences.instructionsIter, hReferences.addressTableLookupIter,
    hWritable.trans (Nat.mul_comm ..), hReadonly.trans (Nat.mul_comm ..),
    hLength.trans_le hReferences.total_le, ?_, ?_, ?_⟩
  · intro i hi
    obtain ⟨hOne, hLt⟩ := hReferences.program i hi
    refine ⟨?_, _, List.getElem?_eq_getElem hLt⟩
    intro hZero
    rw [hZero] at hOne
    exact absurd hOne (by decide)
  · intro i hi index hIndex
    have hLt := hReferences.account i hi index hIndex
    rw [← hLength] at hLt
    exact ⟨_, List.getElem?_eq_getElem hLt⟩
  · intro hVersion
    rw [← hCanonical.version] at hVersion
    rw [hReferences.only_v0 hVersion] at hWritable hReadonly
    exact ⟨List.length_eq_zero_iff.mp hWritable, List.length_eq_zero_iff.mp hReadonly⟩

/-- The sample frame, whose lookup loads a key into either region. -/
theorem frame_references_resolve_sample :
    ∃ keys instructions lookups,
      ReferencesResolve (sampleParts.validated sampleMetadata sampleV0.view) keys instructions
        lookups :=
  frame_references_resolve (parse_of_canonical sampleParts_encodable.canonical [])

end TxStream
