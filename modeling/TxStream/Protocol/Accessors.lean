import TxStream.Protocol.Verdict
import TxStream.Rust.Iterator

/-!
# The accessors of an accepted transaction

The view keeps offsets only; its accessors and its two iterators read the
bytes again, with code of their own. On the view of a transaction they return
that transaction: no slice is out of range, no `expect` fails, and no iterator
stops early.

Main results:

* `SanitizedTransactionView.readout` — the results of all accessors.
* `PacketTransaction.readout_view`, `V1Transaction.readout_view` — on the view
  of a transaction they are its components.
* `tryNew_faithful` — the accessors of every accepted string give the string
  back.
-/

namespace TxStream

open Wire Rust Format

variable {bytes rest : Bytes} {offset : Nat}

-- ---------------------------------------------------------------------------
-- Slices
-- ---------------------------------------------------------------------------

/-- A slice at an offset where some bytes stand is those bytes. -/
theorem getRange_at {front : Bytes} (hAt : At bytes offset (front ++ rest)) :
    getRange bytes offset (offset + front.length) = some front := by
  have hLen := hAt.length
  rw [List.length_append] at hLen
  exact getRange_eq_some.mpr ⟨⟨by omega, by omega⟩, hAt.extract⟩

/-- An array of blocks is read back from where the blocks stand: neither of its
`expect`s fails. -/
theorem arraySlice_at {n : Nat} {xs : List (FixedBytes n)} (hBound : bytes.length < usizeSize)
    (hAt : At bytes offset (xs.flatMap FixedBytes.toList ++ rest)) :
    arraySlice n bytes offset xs.length = some xs := by
  have hLen := hAt.length
  rw [List.length_append, length_flatMap_toList] at hLen
  have hRange := getRange_at hAt
  rw [length_flatMap_toList] at hRange
  simp [arraySlice, checkedMul_of_lt (show xs.length * n < usizeSize by omega), hRange,
    chunks_flatMap]

/-- A `u32` is read back from where it stands. -/
theorem readU32Le_at {value : UInt32} (hAt : At bytes offset (u32le.encode value ++ rest)) :
    readU32Le bytes offset = some value := by
  have hRange := getRange_at hAt
  have hLen : (u32le.encode value).length = 4 := length_leBytes ..
  have hValue : leNat (u32le.encode value) = value.toNat := leNat_leBytes value.toNat_lt
  rw [hLen] at hRange
  simp [readU32Le, hRange, hValue]

/-- A `u64` is read back from where it stands. -/
theorem readU64Le_at {value : UInt64} (hAt : At bytes offset (u64le.encode value ++ rest)) :
    readU64Le bytes offset = some value := by
  have hRange := getRange_at hAt
  have hLen : (u64le.encode value).length = 8 := length_leBytes ..
  have hValue : leNat (u64le.encode value) = value.toNat := leNat_leBytes value.toNat_lt
  rw [hLen] at hRange
  simp [readU64Le, hRange, hValue]

-- ---------------------------------------------------------------------------
-- Iterators
-- ---------------------------------------------------------------------------

/-- An iterator with items left does not report itself empty. -/
theorem ofNat_succ_ne_zero {n : Nat} (h : n + 1 < 65536) : UInt16.ofNat (n + 1) ≠ 0 := by
  intro hZero
  have := congrArg UInt16.toNat hZero
  rw [UInt16.toNat_ofNat', Nat.mod_eq_of_lt h] at this
  exact absurd this (Nat.succ_ne_zero n)

/-- Its counter goes down by one and does not wrap. -/
theorem ofNat_succ_sub_one (n : Nat) : UInt16.ofNat (n + 1) - 1 = UInt16.ofNat n := by
  rw [UInt16.ofNat_add]
  exact UInt16.add_sub_cancel ..

/-- Reading a length and that many bytes, in front of a length-prefixed list. -/
theorem readCompactBytes_at (hBound : bytes.length < usizeSize) {bs : Bytes}
    (hSmall : bs.length < 16384) (hAt : At bytes offset (compactBytes bs ++ rest)) :
    ∃ n middle, readCompactU16At bytes offset = some (n, middle) ∧ n.toNat = bs.length ∧
      readBytesAt n.toNat bytes middle = some (bs, offset + (compactBytes bs).length) ∧
      At bytes (offset + (compactBytes bs).length) rest := by
  have hNat : (UInt16.ofNat bs.length).toNat = bs.length := by
    rw [UInt16.toNat_ofNat']
    omega
  have hEncode : shortU16.encode (UInt16.ofNat bs.length) = encodeCompactU16 bs.length := by
    show encodeCompactU16 (UInt16.ofNat bs.length).toNat = _
    rw [hNat]
  have hValid : shortU16.Valid (UInt16.ofNat bs.length) := by
    show (UInt16.ofNat bs.length).toNat < 65536 ∧ (UInt16.ofNat bs.length).toNat < 16384
    omega
  have hFront : At bytes offset (shortU16.encode (UInt16.ofNat bs.length) ++ (bs ++ rest)) := by
    rw [hEncode, ← List.append_assoc]
    exact hAt
  obtain ⟨hCount, hMiddle⟩ := readCompactU16At_reads.of_encode hBound hValid hFront
  obtain ⟨hBytes, -⟩ := (readBytesAt_reads bs.length).of_encode hBound rfl hMiddle
  have hOffset : offset + (shortU16.encode (UInt16.ofNat bs.length)).length + bs.length
      = offset + (compactBytes bs).length := by
    rw [hEncode, compactBytes, List.length_append, Nat.add_assoc]
  rw [string_encode, hOffset] at hBytes
  exact ⟨_, _, hCount, hNat, by rw [hNat]; exact hBytes, hAt.append⟩

/-- The legacy and v0 instruction iterator, standing in front of a serialized list with
that many items to go, yields the list. By induction on the list: each item is read by
the same readers that the constructor used, and the offset is behind it afterwards. -/
theorem instructionIterator_yields (hBound : bytes.length < usizeSize) (payloadOffset : Nat)
    (is : List SanitizedInstructionView) :
    ∀ {offset : Nat}, is.length < 65536 →
    (∀ i ∈ is, i.accounts.length < 16384 ∧ i.data.length < 16384) →
    At bytes offset (is.flatMap SanitizedInstructionView.serialize ++ rest) →
    Yields SanitizedInstructionIterator.next SanitizedInstructionIterator.len
      ⟨bytes, offset, payloadOffset, UInt16.ofNat is.length, .legacyAndV0⟩ is := by
  induction is with
  | nil =>
    intro offset _ _ _
    exact .done rfl rfl
  | cons i is ih =>
    intro offset hMany hSmall hAt
    rw [List.length_cons] at hMany
    obtain ⟨hAccounts, hData⟩ := hSmall i (List.mem_cons_self ..)
    -- what stands there, cut at the fields that `next` reads
    have hShape : (i :: is).flatMap SanitizedInstructionView.serialize ++ rest =
        byte.encode i.programIdIndex ++ (compactBytes i.accounts ++ (compactBytes i.data
          ++ (is.flatMap SanitizedInstructionView.serialize ++ rest))) := by
      simp [SanitizedInstructionView.serialize]
    rw [hShape] at hAt
    obtain ⟨hProgram, hAt₁⟩ := readByteAt_reads.of_encode hBound trivial hAt
    obtain ⟨n₁, middle₁, hCount₁, -, hBytes₁, hAt₂⟩ := readCompactBytes_at hBound hAccounts hAt₁
    obtain ⟨n₂, middle₂, hCount₂, -, hBytes₂, hAt₃⟩ := readCompactBytes_at hBound hData hAt₂
    refine .item ?_ ?_ (ih (by omega) (fun j hj => hSmall j (List.mem_cons_of_mem _ hj)) hAt₃)
    · rw [List.length_cons, SanitizedInstructionIterator.next,
        SanitizedInstructionIterator.nextWith]
      simp only [ofNat_succ_ne_zero hMany, if_false, hProgram, hCount₁, hBytes₁, hCount₂, hBytes₂,
        ofNat_succ_sub_one]
    · rw [List.length_cons, SanitizedInstructionIterator.len, UInt16.toNat_ofNat',
        Nat.mod_eq_of_lt hMany]

/-- The v1 instruction iterator follows two positions at once, one in the headers and
one in the payloads. Both lists are the same instructions, so one induction moves
both. -/
theorem instructionIteratorV1_yields (hBound : bytes.length < usizeSize) {tail : Bytes}
    (is : List SanitizedInstructionView) :
    ∀ {offset payloadOffset : Nat}, is.length < 65536 →
    (∀ i ∈ is, i.accounts.length < 256 ∧ i.data.length < 65536) →
    At bytes offset (is.flatMap SanitizedInstructionView.serializeHeader ++ tail) →
    At bytes payloadOffset (is.flatMap SanitizedInstructionView.serializePayload ++ rest) →
    Yields SanitizedInstructionIterator.next SanitizedInstructionIterator.len
      ⟨bytes, offset, payloadOffset, UInt16.ofNat is.length, .v1⟩ is := by
  induction is with
  | nil =>
    intro offset payloadOffset _ _ _ _
    exact .done rfl rfl
  | cons i is ih =>
    intro offset payloadOffset hMany hSmall hHeaders hPayloads
    rw [List.length_cons] at hMany
    obtain ⟨hAccounts, hData⟩ := hSmall i (List.mem_cons_self ..)
    have hAccounts8 : (UInt8.ofNat i.accounts.length).toNat = i.accounts.length := by
      rw [UInt8.toNat_ofNat', Nat.mod_eq_of_lt hAccounts]
    have hData16 : (UInt16.ofNat i.data.length).toNat = i.data.length := by
      rw [UInt16.toNat_ofNat', Nat.mod_eq_of_lt hData]
    -- the next header and the next payload, each cut at its fields
    have hHeaderShape : (i :: is).flatMap SanitizedInstructionView.serializeHeader ++ tail =
        byte.encode i.programIdIndex ++ (byte.encode (UInt8.ofNat i.accounts.length)
          ++ (u16le.encode (UInt16.ofNat i.data.length)
          ++ (is.flatMap SanitizedInstructionView.serializeHeader ++ tail))) := by
      have : u16le.encode (UInt16.ofNat i.data.length) = leBytes 2 i.data.length := by
        show leBytes 2 (UInt16.ofNat i.data.length).toNat = _
        rw [hData16]
      simp [SanitizedInstructionView.serializeHeader, this]
    have hPayloadShape : (i :: is).flatMap SanitizedInstructionView.serializePayload ++ rest =
        (string i.accounts.length).encode i.accounts ++ ((string i.data.length).encode i.data
          ++ (is.flatMap SanitizedInstructionView.serializePayload ++ rest)) := by
      simp [SanitizedInstructionView.serializePayload]
    rw [hHeaderShape] at hHeaders
    rw [hPayloadShape] at hPayloads
    obtain ⟨hProgram, hHeaders₁⟩ := readByteAt_reads.of_encode hBound trivial hHeaders
    obtain ⟨hCount, hHeaders₂⟩ := readByteAt_reads.of_encode hBound trivial hHeaders₁
    obtain ⟨hLen, hHeaders₃⟩ := readU16LeAt_reads.of_encode hBound
      (show (UInt16.ofNat i.data.length).toNat < 256 ^ 2 from UInt16.toNat_lt _) hHeaders₂
    obtain ⟨hFront, hPayloads₁⟩ :=
      (readBytesAt_reads i.accounts.length).of_encode hBound rfl hPayloads
    obtain ⟨hBack, hPayloads₂⟩ :=
      (readBytesAt_reads i.data.length).of_encode hBound rfl hPayloads₁
    refine .item ?_ ?_ (ih (by omega) (fun j hj => hSmall j (List.mem_cons_of_mem _ hj)) hHeaders₃
      hPayloads₂)
    · rw [List.length_cons, SanitizedInstructionIterator.next,
        SanitizedInstructionIterator.nextWith]
      simp only [ofNat_succ_ne_zero hMany, if_false, hProgram, hCount, hLen, hAccounts8, hData16,
        hFront, hBack, ofNat_succ_sub_one]
    · rw [List.length_cons, SanitizedInstructionIterator.len, UInt16.toNat_ofNat',
        Nat.mod_eq_of_lt hMany]

/-- The lookup iterator, standing in front of a serialized list, yields the list. -/
theorem lookupIterator_yields (hBound : bytes.length < usizeSize)
    (ls : List SanitizedAddressTableLookup) :
    ∀ {offset : Nat}, ls.length < 256 →
    (∀ l ∈ ls, l.writableIndexes.length < 16384 ∧ l.readonlyIndexes.length < 16384) →
    At bytes offset (ls.flatMap SanitizedAddressTableLookup.serialize ++ rest) →
    Yields SanitizedAddressTableLookupIterator.next SanitizedAddressTableLookupIterator.len
      ⟨bytes, offset, UInt8.ofNat ls.length⟩ ls := by
  induction ls with
  | nil =>
    intro offset _ _ _
    exact .done rfl rfl
  | cons l ls ih =>
    intro offset hMany hSmall hAt
    rw [List.length_cons] at hMany
    obtain ⟨hWritable, hReadonly⟩ := hSmall l (List.mem_cons_self ..)
    have hShape : (l :: ls).flatMap SanitizedAddressTableLookup.serialize ++ rest =
        (string pubkeyBytes).encode l.accountKey.toList ++ (compactBytes l.writableIndexes
          ++ (compactBytes l.readonlyIndexes
          ++ (ls.flatMap SanitizedAddressTableLookup.serialize ++ rest))) := by
      simp [SanitizedAddressTableLookup.serialize]
    rw [hShape] at hAt
    obtain ⟨hKey, hAt₁⟩ := (readBytesAt_reads pubkeyBytes).of_encode hBound
      l.accountKey.length_toList hAt
    obtain ⟨n₁, middle₁, hCount₁, -, hBytes₁, hAt₂⟩ := readCompactBytes_at hBound hWritable hAt₁
    obtain ⟨n₂, middle₂, hCount₂, -, hBytes₂, hAt₃⟩ := readCompactBytes_at hBound hReadonly hAt₂
    have hNat : (UInt8.ofNat (ls.length + 1)).toNat = ls.length + 1 := by
      rw [UInt8.toNat_ofNat', Nat.mod_eq_of_lt hMany]
    have hNonzero : UInt8.ofNat (ls.length + 1) ≠ 0 := by
      intro hZero
      rw [hZero] at hNat
      exact absurd hNat.symm (Nat.succ_ne_zero _)
    have hNext : UInt8.ofNat (ls.length + 1) - 1 = UInt8.ofNat ls.length := by
      rw [UInt8.ofNat_add]
      exact UInt8.add_sub_cancel ..
    refine .item ?_ ?_ (ih (by omega) (fun j hj => hSmall j (List.mem_cons_of_mem _ hj)) hAt₃)
    · rw [List.length_cons, SanitizedAddressTableLookupIterator.next,
        SanitizedAddressTableLookupIterator.nextWith]
      simp only [hNonzero, if_false, hKey, FixedBytes.ofList?_toList, hCount₁, hBytes₁, hCount₂,
        hBytes₂, hNext]
    · rw [List.length_cons, SanitizedAddressTableLookupIterator.len, hNat]

-- ---------------------------------------------------------------------------
-- All accessors at once
-- ---------------------------------------------------------------------------

/-- The results of the accessors of a v1 configuration. -/
structure ConfigReadout where
  mask : UInt32
  priorityFeeLamports : Option UInt64
  computeUnitLimit : Option UInt32
  loadedAccountsDataSizeLimit : Option UInt32
  requestedHeapSize : Option UInt32
deriving DecidableEq

/-- The results of all accessors of a view other than `data`. -/
structure Readout where
  messageVersion : MessageVersion
  numSignatures : UInt8
  signatures : List (FixedBytes 64)
  numRequiredSignatures : UInt8
  numReadonlySignedStaticAccounts : UInt8
  numReadonlyUnsignedStaticAccounts : UInt8
  numStaticAccountKeys : UInt8
  staticAccountKeys : List (FixedBytes 32)
  recentBlockhash : FixedBytes 32
  numInstructions : UInt16
  instructions : List SanitizedInstructionView
  numAddressTableLookups : UInt8
  addressTableLookups : List SanitizedAddressTableLookup
  totalWritableLookupAccounts : UInt16
  totalReadonlyLookupAccounts : UInt16
  transactionConfig : Option ConfigReadout
deriving DecidableEq

/-- Every accessor of the configuration; `none` when one of them panics. -/
def SanitizedTransactionConfigView.readout (config : SanitizedTransactionConfigView) :
    Option ConfigReadout := do
  let priorityFeeLamports ← config.priorityFeeLamports
  let computeUnitLimit ← config.computeUnitLimit
  let loadedAccountsDataSizeLimit ← config.loadedAccountsDataSizeLimit
  let requestedHeapSize ← config.requestedHeapSize
  return {
    mask := config.mask
    priorityFeeLamports
    computeUnitLimit
    loadedAccountsDataSizeLimit
    requestedHeapSize }

/-- Every accessor of the view, its iterators drained; `none` when one of them
panics. -/
def SanitizedTransactionView.readout (view : SanitizedTransactionView) : Option Readout := do
  let signatures ← view.signatures
  let staticAccountKeys ← view.staticAccountKeys
  let recentBlockhash ← view.recentBlockhash
  let transactionConfig ←
    match view.transactionConfig with
    | none => some none
    | some config => config.readout.map some
  return {
    messageVersion := view.messageVersion
    numSignatures := view.numSignatures
    signatures
    numRequiredSignatures := view.numRequiredSignatures
    numReadonlySignedStaticAccounts := view.numReadonlySignedStaticAccounts
    numReadonlyUnsignedStaticAccounts := view.numReadonlyUnsignedStaticAccounts
    numStaticAccountKeys := view.numStaticAccountKeys
    staticAccountKeys
    recentBlockhash
    numInstructions := view.numInstructions
    instructions := collect SanitizedInstructionIterator.next (view.instructionsIter.len + 1)
      view.instructionsIter
    numAddressTableLookups := view.numAddressTableLookups
    addressTableLookups := collect SanitizedAddressTableLookupIterator.next
      (view.addressTableLookupIter.len + 1) view.addressTableLookupIter
    totalWritableLookupAccounts := view.totalWritableLookupAccounts
    totalReadonlyLookupAccounts := view.totalReadonlyLookupAccounts
    transactionConfig }

/-- The legacy or v0 transaction that the accessors describe. -/
def Readout.toPacket (r : Readout) : PacketTransaction where
  signatures := r.signatures
  messageVersion := r.messageVersion
  numRequiredSignatures := r.numRequiredSignatures
  numReadonlySigned := r.numReadonlySignedStaticAccounts
  numReadonlyUnsigned := r.numReadonlyUnsignedStaticAccounts
  accountKeys := r.staticAccountKeys
  recentBlockhash := r.recentBlockhash
  instructions := r.instructions
  lookups := r.addressTableLookups

/-- The v1 transaction that the accessors describe. -/
def Readout.toV1 (r : Readout) (config : ConfigReadout) : V1Transaction where
  numRequiredSignatures := r.numRequiredSignatures
  numReadonlySigned := r.numReadonlySignedStaticAccounts
  numReadonlyUnsigned := r.numReadonlyUnsignedStaticAccounts
  configMask := config.mask
  recentBlockhash := r.recentBlockhash
  accountKeys := r.staticAccountKeys
  priorityFee := config.priorityFeeLamports
  computeUnitLimit := config.computeUnitLimit
  loadedAccountsDataSize := config.loadedAccountsDataSizeLimit
  heapSize := config.requestedHeapSize
  instructions := r.instructions
  signatures := r.signatures

/-- The accessor results written out again in the format of their version. A v1
message without a configuration has no serialization. -/
def Readout.serialize (r : Readout) : Bytes :=
  match r.messageVersion with
  | .legacy | .v0 => r.toPacket.serialize
  | .v1 => r.transactionConfig.elim [] fun config => (r.toV1 config).serialize

/-- The components of a legacy or v0 transaction, under the accessors' names. -/
def PacketTransaction.readout (tx : PacketTransaction) : Readout where
  messageVersion := tx.messageVersion
  numSignatures := UInt8.ofNat tx.signatures.length
  signatures := tx.signatures
  numRequiredSignatures := tx.numRequiredSignatures
  numReadonlySignedStaticAccounts := tx.numReadonlySigned
  numReadonlyUnsignedStaticAccounts := tx.numReadonlyUnsigned
  numStaticAccountKeys := UInt8.ofNat tx.accountKeys.length
  staticAccountKeys := tx.accountKeys
  recentBlockhash := tx.recentBlockhash
  numInstructions := UInt16.ofNat tx.instructions.length
  instructions := tx.instructions
  numAddressTableLookups := UInt8.ofNat tx.lookups.length
  addressTableLookups := tx.lookups
  totalWritableLookupAccounts := UInt16.ofNat (writableSum tx.lookups)
  totalReadonlyLookupAccounts := UInt16.ofNat (readonlySum tx.lookups)
  transactionConfig := none

/-- The components of a v1 transaction, under the accessors' names. -/
def V1Transaction.readout (tx : V1Transaction) : Readout where
  messageVersion := .v1
  numSignatures := tx.numRequiredSignatures
  signatures := tx.signatures
  numRequiredSignatures := tx.numRequiredSignatures
  numReadonlySignedStaticAccounts := tx.numReadonlySigned
  numReadonlyUnsignedStaticAccounts := tx.numReadonlyUnsigned
  numStaticAccountKeys := UInt8.ofNat tx.accountKeys.length
  staticAccountKeys := tx.accountKeys
  recentBlockhash := tx.recentBlockhash
  numInstructions := UInt16.ofNat tx.instructions.length
  instructions := tx.instructions
  numAddressTableLookups := 0
  addressTableLookups := []
  totalWritableLookupAccounts := 0
  totalReadonlyLookupAccounts := 0
  transactionConfig := some
    { mask := tx.configMask
      priorityFeeLamports := tx.priorityFee
      computeUnitLimit := tx.computeUnitLimit
      loadedAccountsDataSizeLimit := tx.loadedAccountsDataSize
      requestedHeapSize := tx.heapSize }

-- ---------------------------------------------------------------------------
-- Legacy and v0
-- ---------------------------------------------------------------------------

namespace PacketTransaction

variable {tx : PacketTransaction}

/-- The offsets of the view point at the parts of the serialization. -/
theorem view_at (tx : PacketTransaction) :
    (∃ rest, At tx.serialize tx.view.signaturesOffset
      (tx.signatures.flatMap FixedBytes.toList ++ rest)) ∧
    (∃ rest, At tx.serialize tx.view.staticAccountKeysOffset
      (tx.accountKeys.flatMap FixedBytes.toList ++ rest)) ∧
    (∃ rest, At tx.serialize tx.view.recentBlockhashOffset (tx.recentBlockhash.toList ++ rest)) ∧
    At tx.serialize tx.view.instructionsOffset
      (tx.instructions.flatMap SanitizedInstructionView.serialize ++ tx.lookupSection) := by
  have hStart : At tx.serialize 0 ([UInt8.ofNat tx.signatures.length]
      ++ (tx.signatures.flatMap FixedBytes.toList ++ (tx.versionPrefix
      ++ ([tx.numRequiredSignatures, tx.numReadonlySigned, tx.numReadonlyUnsigned,
        UInt8.ofNat tx.accountKeys.length]
      ++ (tx.accountKeys.flatMap FixedBytes.toList ++ (tx.recentBlockhash.toList
      ++ (encodeCompactU16 tx.instructions.length
      ++ (tx.instructions.flatMap SanitizedInstructionView.serialize
      ++ tx.lookupSection)))))))) :=
    ⟨Nat.zero_le _, by simp [serialize]⟩
  -- each section stands behind the one before it; the sums of the lengths are the offsets
  have hSignatures := hStart.append
  have hKeys := hSignatures.append.append.append
  have hHash := hKeys.append
  have hInstructions := hHash.append.append
  simp only [List.length_cons, List.length_nil, length_flatMap_toList, FixedBytes.length_toList,
    Nat.zero_add] at hSignatures hKeys hHash hInstructions
  exact ⟨⟨_, hSignatures⟩, ⟨_, hKeys⟩, ⟨_, hHash⟩, hInstructions⟩

/-- In a packet all list lengths take two bytes at most. -/
theorem lengths_lt (hValid : tx.WellFormed) (hShort : tx.serialize.length ≤ 1232) :
    (∀ i ∈ tx.instructions, i.accounts.length < 16384 ∧ i.data.length < 16384) ∧
      ∀ l ∈ tx.lookups, l.writableIndexes.length < 16384 ∧ l.readonlyIndexes.length < 16384 := by
  have hShortCount : (packetFormat shortCount).Valid tx :=
    ((packetFormat shortCount).encode_decode
      ((packetFormat_decode_iff (by omega) tx).mpr ⟨hValid, rfl⟩)).1
  -- the transaction is a value of the cut-off format, which bounds the lengths
  obtain ⟨-, -, -, -, -, -, ⟨-, -, hInstructions⟩, hLookups⟩ := hShortCount
  obtain ⟨-, hLookups, -⟩ := (lookupsFormat_valid_iff shortCount _ _).mp hLookups
  constructor
  · intro i hi
    have hItem := (instructionFormat_valid_iff shortCount i).mp (hInstructions i hi)
    exact ⟨hItem.1.2, hItem.2.2⟩
  · intro l hl
    have hItem := (lookupFormat_valid_iff shortCount l).mp (hLookups l hl)
    exact ⟨hItem.1.2, hItem.2.2⟩

/-- The instruction iterator of the view yields the instructions. -/
theorem view_instructionsIter_yields (hValid : tx.WellFormed)
    (hShort : tx.serialize.length ≤ 1232) :
    Yields SanitizedInstructionIterator.next SanitizedInstructionIterator.len
      tx.view.instructionsIter tx.instructions :=
  instructionIterator_yields (Nat.lt_of_le_of_lt hShort (by decide)) _ _
    hValid.instructions_lt (lengths_lt hValid hShort).1 tx.view_at.2.2.2

/-- The lookup iterator of the view yields the lookups, which for a legacy message are
none. -/
theorem view_addressTableLookupIter_yields (hValid : tx.WellFormed)
    (hShort : tx.serialize.length ≤ 1232) :
    Yields SanitizedAddressTableLookupIterator.next SanitizedAddressTableLookupIterator.len
      tx.view.addressTableLookupIter tx.lookups := by
  have hMany := hValid.lookups_le
  by_cases hV0 : tx.messageVersion = .v0
  · have hSection : tx.lookupSection = [UInt8.ofNat tx.lookups.length]
        ++ (tx.lookups.flatMap SanitizedAddressTableLookup.serialize ++ []) := by
      rw [lookupSection, if_pos hV0, List.append_nil, List.singleton_append]
    have hAt := tx.view_at.2.2.2.append
    rw [hSection] at hAt
    have hItems := hAt.append
    have hOffset : tx.view.addressTableLookupsOffset = tx.view.instructionsOffset
        + (tx.instructions.flatMap SanitizedInstructionView.serialize).length + 1 := if_pos hV0
    rw [List.length_singleton, ← hOffset] at hItems
    exact lookupIterator_yields (Nat.lt_of_le_of_lt hShort (by decide)) _ (by omega)
      (lengths_lt hValid hShort).2 hItems
  · -- a legacy message has no lookups, and its count is zero
    have hLegacy : tx.messageVersion = .legacy := by
      have := hValid.version_ne
      cases h : tx.messageVersion <;> simp_all
    have hNil := hValid.lookups_legacy hLegacy
    have hZero : tx.view.addressTableLookupIter.remaining = 0 := by
      show UInt8.ofNat tx.lookups.length = 0
      rw [hNil]
      rfl
    rw [hNil]
    refine .done ?_ ?_
    · rw [SanitizedAddressTableLookupIterator.next, SanitizedAddressTableLookupIterator.nextWith,
        if_pos hZero]
    · rw [SanitizedAddressTableLookupIterator.len, hZero]
      rfl

/-- **The accessors of a legacy or v0 transaction** return its components. -/
theorem readout_view (hValid : tx.WellFormed) (hShort : tx.serialize.length ≤ 1232) :
    tx.view.readout = some tx.readout := by
  have hBound : tx.serialize.length < usizeSize := Nat.lt_of_le_of_lt hShort (by decide)
  have hSigs := hValid.signatures_le
  have hKeyCount := hValid.keys_le
  obtain ⟨⟨_, hSignatures⟩, ⟨_, hKeys⟩, ⟨_, hHash⟩, -⟩ := tx.view_at
  have hSigs8 : (UInt8.ofNat tx.signatures.length).toNat = tx.signatures.length := by
    rw [UInt8.toNat_ofNat']
    omega
  have hKeys8 : (UInt8.ofNat tx.accountKeys.length).toNat = tx.accountKeys.length := by
    rw [UInt8.toNat_ofNat']
    omega
  have hReadSignatures : tx.view.signatures = some tx.signatures := by
    rw [← arraySlice_at hBound hSignatures, ← hSigs8]
    rfl
  have hReadKeys : tx.view.staticAccountKeys = some tx.accountKeys := by
    rw [← arraySlice_at hBound hKeys, ← hKeys8]
    rfl
  have hReadHash : tx.view.recentBlockhash = some tx.recentBlockhash := by
    have hRange := getRange_at hHash
    rw [FixedBytes.length_toList] at hRange
    simp only [SanitizedTransactionView.recentBlockhash, blockhashBytes]
    rw [show tx.view.bytes = tx.serialize from rfl, hRange]
    exact FixedBytes.ofList?_toList _
  have hConfig : tx.view.transactionConfig = none := if_neg hValid.version_ne
  have hInstructions := view_instructionsIter_yields hValid hShort
  have hLookups := view_addressTableLookupIter_yields hValid hShort
  simp only [SanitizedTransactionView.readout, hReadSignatures, hReadKeys, hReadHash, hConfig,
    hInstructions.collect (Nat.lt_succ_of_le hInstructions.len_eq.ge),
    hLookups.collect (Nat.lt_succ_of_le hLookups.len_eq.ge), Option.bind_eq_bind,
    Option.bind_some]
  rfl

end PacketTransaction

-- ---------------------------------------------------------------------------
-- v1
-- ---------------------------------------------------------------------------

/-- The room of an announced value is the length of what stands there. -/
theorem widthIf_eq {α : Type} {value : Option α} {f : Format α} {width : Nat} {condition : Prop}
    [Decidable condition] (hCondition : condition ↔ value.isSome = true)
    (hLength : ∀ a, (f.encode a).length = width) :
    SanitizedTransactionConfigView.widthIf condition width =
      (value.elim [] f.encode).length := by
  unfold SanitizedTransactionConfigView.widthIf
  cases value with
  | none =>
    rw [if_neg (by simp [hCondition])]
    simp
  | some a =>
    rw [if_pos (hCondition.mpr rfl), Option.elim_some, hLength, Nat.one_mul]

/-- Reading an announced value where it stands. -/
theorem readIf_eq {α : Type} {value : Option α} {f : Format α} {condition : Prop}
    [Decidable condition] {read : Bytes → Nat → Option α}
    (hRead : ∀ {rest : Bytes} {offset : Nat} {a : α}, At bytes offset (f.encode a ++ rest) →
      read bytes offset = some a)
    (hCondition : condition ↔ value.isSome = true)
    (hAt : At bytes offset (value.elim [] f.encode ++ rest)) :
    (if condition then (read bytes offset).map some else some none) = some value := by
  cases value with
  | none => rw [if_neg (by simp [hCondition])]
  | some a =>
    rw [if_pos (hCondition.mpr rfl), hRead hAt]
    rfl

namespace V1Transaction

variable {tx : V1Transaction}

/-- The offsets of the view point at the parts of the serialization. -/
theorem view_at (tx : V1Transaction) :
    (∃ rest, At tx.serialize tx.view.recentBlockhashOffset (tx.recentBlockhash.toList ++ rest)) ∧
    (∃ rest, At tx.serialize tx.view.staticAccountKeysOffset
      (tx.accountKeys.flatMap FixedBytes.toList ++ rest)) ∧
    (∃ rest, At tx.serialize tx.view.transactionConfigValuesOffset (tx.configValues ++ rest)) ∧
    (∃ rest, At tx.serialize tx.view.instructionsOffset
      (tx.instructions.flatMap SanitizedInstructionView.serializeHeader ++ rest)) ∧
    (∃ rest, At tx.serialize tx.view.instructionPayloadsOffset
      (tx.instructions.flatMap SanitizedInstructionView.serializePayload ++ rest)) ∧
    (∃ rest, At tx.serialize tx.view.signaturesOffset
      (tx.signatures.flatMap FixedBytes.toList ++ rest)) := by
  have hStart : At tx.serialize 0
      ([0x81, tx.numRequiredSignatures, tx.numReadonlySigned, tx.numReadonlyUnsigned]
      ++ (leBytes 4 tx.configMask.toNat ++ (tx.recentBlockhash.toList
      ++ ([UInt8.ofNat tx.instructions.length, UInt8.ofNat tx.accountKeys.length]
      ++ (tx.accountKeys.flatMap FixedBytes.toList ++ (tx.configValues
      ++ (tx.instructions.flatMap SanitizedInstructionView.serializeHeader
      ++ (tx.instructions.flatMap SanitizedInstructionView.serializePayload
      ++ (tx.signatures.flatMap FixedBytes.toList ++ []))))))))) :=
    ⟨Nat.zero_le _, by simp [serialize]⟩
  have hHeaderLength : (tx.instructions.flatMap SanitizedInstructionView.serializeHeader).length
      = tx.instructions.length * 4 := by
    rw [List.length_flatMap]
    simp [SanitizedInstructionView.serializeHeader]
  have hHash := hStart.append.append
  have hKeys := hHash.append.append
  have hConfig := hKeys.append
  have hHeaders := hConfig.append
  have hPayloads := hHeaders.append
  have hSignatures := hPayloads.append
  simp only [List.length_cons, List.length_nil, length_flatMap_toList, FixedBytes.length_toList,
    length_leBytes, hHeaderLength, Nat.zero_add, Nat.reduceAdd]
    at hHash hKeys hConfig hHeaders hPayloads hSignatures
  exact ⟨⟨_, hHash⟩, ⟨_, hKeys⟩, ⟨_, hConfig⟩, ⟨_, hHeaders⟩, ⟨_, hPayloads⟩, ⟨_, hSignatures⟩⟩

/-- The instruction iterator of the view yields the instructions. -/
theorem view_instructionsIter_yields (hValid : tx.WellFormed)
    (hShort : tx.serialize.length ≤ 4096) :
    Yields SanitizedInstructionIterator.next SanitizedInstructionIterator.len
      tx.view.instructionsIter tx.instructions := by
  have hMany := hValid.instructions_lt
  obtain ⟨-, -, -, ⟨_, hHeaders⟩, ⟨_, hPayloads⟩, -⟩ := tx.view_at
  exact instructionIteratorV1_yields (Nat.lt_of_le_of_lt hShort (by decide)) _ (by omega)
    hValid.instruction_lt hHeaders hPayloads

/-- The lookup iterator of a v1 view is exhausted from the start. -/
theorem view_addressTableLookupIter_yields :
    Yields SanitizedAddressTableLookupIterator.next SanitizedAddressTableLookupIterator.len
      tx.view.addressTableLookupIter [] :=
  .done rfl rfl

/-- The configuration accessors find every announced value. -/
theorem config_readout_view (hValid : tx.WellFormed) :
    (SanitizedTransactionConfigView.mk tx.serialize tx.configMask
      tx.view.transactionConfigValuesOffset).readout =
      some ⟨tx.configMask, tx.priorityFee, tx.computeUnitLimit, tx.loadedAccountsDataSize,
        tx.heapSize⟩ := by
  have hMask : MaskKnown tx.configMask := ⟨hValid.mask_lt, hValid.fee_bits⟩
  -- the mask has a bit for exactly the values that are there
  have hFee : tx.configMask &&& v1ConfigPriorityFee = v1ConfigPriorityFee ↔
      tx.priorityFee.isSome = true := by
    rw [and_priorityFee_eq hMask, hValid.priorityFee_isSome]
  have hLimit : tx.configMask &&& v1ConfigComputeUnitLimit ≠ 0 ↔
      tx.computeUnitLimit.isSome = true := by
    rw [and_computeUnitLimit_ne hMask, hValid.computeUnitLimit_isSome]
  have hLoaded : tx.configMask &&& v1ConfigLoadedAccountsDataSize ≠ 0 ↔
      tx.loadedAccountsDataSize.isSome = true := by
    rw [and_loadedAccountsDataSize_ne hMask, hValid.loadedAccountsDataSize_isSome]
  have hHeap : tx.configMask &&& v1ConfigHeapSize ≠ 0 ↔ tx.heapSize.isSome = true := by
    rw [and_heapSize_ne hMask, hValid.heapSize_isSome]
  have h64 : ∀ a, (u64le.encode a).length = 8 := fun _ => length_leBytes ..
  have h32 : ∀ a, (u32le.encode a).length = 4 := fun _ => length_leBytes ..
  obtain ⟨-, -, ⟨rest, hConfig⟩, -⟩ := tx.view_at
  -- every value stands behind the ones before it
  have hAt₀ : At tx.serialize tx.view.transactionConfigValuesOffset
      (tx.priorityFee.elim [] u64le.encode ++ (tx.computeUnitLimit.elim [] u32le.encode
        ++ (tx.loadedAccountsDataSize.elim [] u32le.encode
        ++ (tx.heapSize.elim [] u32le.encode ++ rest)))) := by
    simp only [configValues, List.append_assoc] at hConfig
    exact hConfig
  have hAt₁ := hAt₀.append
  rw [← widthIf_eq hFee h64] at hAt₁
  have hAt₂ := hAt₁.append
  rw [← widthIf_eq hLimit h32] at hAt₂
  have hAt₃ := hAt₂.append
  rw [← widthIf_eq hLoaded h32] at hAt₃
  have hReadFee := readIf_eq readU64Le_at hFee hAt₀
  have hReadLimit := readIf_eq readU32Le_at hLimit hAt₁
  have hReadLoaded := readIf_eq readU32Le_at hLoaded hAt₂
  have hReadHeap := readIf_eq readU32Le_at hHeap hAt₃
  simp only [SanitizedTransactionConfigView.readout,
    SanitizedTransactionConfigView.priorityFeeLamports,
    SanitizedTransactionConfigView.computeUnitLimit,
    SanitizedTransactionConfigView.loadedAccountsDataSizeLimit,
    SanitizedTransactionConfigView.requestedHeapSize,
    SanitizedTransactionConfigView.offsetAfterLoadedAccountsDataSize,
    SanitizedTransactionConfigView.offsetAfterComputeUnitLimit,
    SanitizedTransactionConfigView.offsetAfterPriorityFee]
  rw [hReadFee, hReadLimit, hReadLoaded, hReadHeap]
  rfl

/-- **The accessors of a v1 transaction** return its components. -/
theorem readout_view (hValid : tx.WellFormed) (hShort : tx.serialize.length ≤ 4096) :
    tx.view.readout = some tx.readout := by
  have hBound : tx.serialize.length < usizeSize := Nat.lt_of_le_of_lt hShort (by decide)
  have hKeyCount := hValid.keys_lt
  obtain ⟨⟨_, hHash⟩, ⟨_, hKeys⟩, -, -, -, ⟨_, hSignatures⟩⟩ := tx.view_at
  have hKeys8 : (UInt8.ofNat tx.accountKeys.length).toNat = tx.accountKeys.length := by
    rw [UInt8.toNat_ofNat', Nat.mod_eq_of_lt hKeyCount]
  have hReadSignatures : tx.view.signatures = some tx.signatures := by
    rw [← arraySlice_at hBound hSignatures, hValid.signatures_eq]
    rfl
  have hReadKeys : tx.view.staticAccountKeys = some tx.accountKeys := by
    rw [← arraySlice_at hBound hKeys, ← hKeys8]
    rfl
  have hReadHash : tx.view.recentBlockhash = some tx.recentBlockhash := by
    have hRange := getRange_at hHash
    rw [FixedBytes.length_toList] at hRange
    simp only [SanitizedTransactionView.recentBlockhash, blockhashBytes]
    rw [show tx.view.bytes = tx.serialize from rfl, hRange]
    exact FixedBytes.ofList?_toList _
  have hConfig : tx.view.transactionConfig = some ⟨tx.serialize, tx.configMask,
      tx.view.transactionConfigValuesOffset⟩ := rfl
  have hInstructions := view_instructionsIter_yields hValid hShort
  have hLookups := @view_addressTableLookupIter_yields tx
  simp only [SanitizedTransactionView.readout, hReadSignatures, hReadKeys, hReadHash, hConfig,
    config_readout_view hValid,
    hInstructions.collect (Nat.lt_succ_of_le hInstructions.len_eq.ge),
    hLookups.collect (Nat.lt_succ_of_le hLookups.len_eq.ge), Option.bind_eq_bind,
    Option.bind_some, Option.map_some]
  rfl

end V1Transaction

-- ---------------------------------------------------------------------------
-- Every accepted string
-- ---------------------------------------------------------------------------

/-- Writing out what the accessors return gives the bytes of the transaction. -/
theorem PacketTransaction.serialize_readout {tx : PacketTransaction} (hValid : tx.WellFormed) :
    tx.readout.serialize = tx.serialize := by
  have hVersion := hValid.version_ne
  unfold Readout.serialize
  cases h : tx.readout.messageVersion with
  | legacy => rfl
  | v0 => rfl
  | v1 => exact absurd h hVersion

/-- The same for v1. -/
theorem V1Transaction.serialize_readout (tx : V1Transaction) :
    tx.readout.serialize = tx.serialize := rfl

/-- A packet never starts like a v1 transaction. -/
theorem serialize_ne {tx : PacketTransaction} (hValid : tx.WellFormed) (tx' : V1Transaction) :
    tx.serialize ≠ tx'.serialize := by
  intro hEq
  have hHead := congrArg List.head? hEq
  rw [head?_serialize, head?_serialize_v1] at hHead
  -- a signature count is at most 12, and the v1 prefix is 129
  have hNat := congrArg UInt8.toNat (Option.some.inj hHead)
  have hSigs := hValid.signatures_le
  rw [UInt8.toNat_ofNat'] at hNat
  have hPrefix : v1Prefix.toNat = 129 := rfl
  omega

/-- The view of an accepted packet is the view of the packet. -/
theorem view_of_packet {tx : PacketTransaction} {view : SanitizedTransactionView}
    (hValid : tx.WellFormed) (h : tryNew tx.serialize = .ok view) :
    view = tx.view ∧ tx.serialize.length ≤ 1232 := by
  rcases tryNew_eq_ok.mp h with ⟨tx', hValid', -, -, hEq, hShort⟩ | ⟨tx', -, -, hEq, -⟩
  · rw [PacketTransaction.serialize_injective hValid' hValid hEq]
    exact ⟨rfl, hShort⟩
  · exact absurd hEq.symm (serialize_ne hValid tx')

/-- The view of an accepted v1 transaction is the view of that transaction. -/
theorem view_of_v1 {tx : V1Transaction} {view : SanitizedTransactionView} (hValid : tx.WellFormed)
    (h : tryNew tx.serialize = .ok view) : view = tx.view ∧ tx.serialize.length ≤ 4096 := by
  rcases tryNew_eq_ok.mp h with ⟨tx', hValid', -, -, hEq, -⟩ | ⟨tx', hValid', -, hEq, hShort⟩
  · exact absurd hEq (serialize_ne hValid' tx)
  · rw [V1Transaction.serialize_injective hValid' hValid hEq]
    exact ⟨rfl, hShort⟩

/-- What the accessors of a view are asked to do: return without a panic,
report exact lengths after every step of an iterator, agree with the stored
counts and totals, and give the bytes back. -/
structure Faithful (view : SanitizedTransactionView) (bytes : Bytes) (r : Readout) : Prop where
  readout : view.readout = some r
  serialize : r.serialize = bytes
  numInstructions : r.instructions.length = view.numInstructions.toNat
  numLookups : r.addressTableLookups.length = view.numAddressTableLookups.toNat
  instruction : ∀ steps,
    (advance SanitizedInstructionIterator.next steps view.instructionsIter).next.1
      = r.instructions[steps]?
  instructionLen : ∀ steps,
    (advance SanitizedInstructionIterator.next steps view.instructionsIter).len
      = r.instructions.length - steps
  instructionSizeHint : ∀ steps,
    (advance SanitizedInstructionIterator.next steps view.instructionsIter).sizeHint
      = (r.instructions.length - steps, some (r.instructions.length - steps))
  lookup : ∀ steps,
    (advance SanitizedAddressTableLookupIterator.next steps view.addressTableLookupIter).next.1
      = r.addressTableLookups[steps]?
  lookupLen : ∀ steps,
    (advance SanitizedAddressTableLookupIterator.next steps view.addressTableLookupIter).len
      = r.addressTableLookups.length - steps
  lookupSizeHint : ∀ steps,
    (advance SanitizedAddressTableLookupIterator.next steps view.addressTableLookupIter).sizeHint
      = (r.addressTableLookups.length - steps, some (r.addressTableLookups.length - steps))
  totalWritable : view.totalWritableLookupAccounts.toNat = writableSum r.addressTableLookups
  totalReadonly : view.totalReadonlyLookupAccounts.toNat = readonlySum r.addressTableLookups

/-- Iterators that yield the listed items are faithful. -/
theorem Faithful.of_yields {view : SanitizedTransactionView} {bytes : Bytes} {r : Readout}
    (hReadout : view.readout = some r) (hSerialize : r.serialize = bytes)
    (hInstructions : Yields SanitizedInstructionIterator.next SanitizedInstructionIterator.len
      view.instructionsIter r.instructions)
    (hLookups : Yields SanitizedAddressTableLookupIterator.next
      SanitizedAddressTableLookupIterator.len view.addressTableLookupIter r.addressTableLookups)
    (hWritable : view.totalWritableLookupAccounts.toNat = writableSum r.addressTableLookups)
    (hReadonly : view.totalReadonlyLookupAccounts.toNat = readonlySum r.addressTableLookups) :
    Faithful view bytes r where
  readout := hReadout
  serialize := hSerialize
  numInstructions := hInstructions.len_eq.symm
  numLookups := hLookups.len_eq.symm
  instruction := hInstructions.next_advance
  instructionLen := hInstructions.len_advance
  instructionSizeHint steps := by
    rw [← hInstructions.len_advance]
    rfl
  lookup := hLookups.next_advance
  lookupLen := hLookups.len_advance
  lookupSizeHint steps := by
    rw [← hLookups.len_advance]
    rfl
  totalWritable := hWritable
  totalReadonly := hReadonly

/-- The view of every accepted string is faithful: the string is the serialization of a
transaction, and the readout is that transaction. -/
theorem faithful_of_accepted {bytes : Bytes} {view : SanitizedTransactionView}
    (h : tryNew bytes = .ok view) : ∃ r, Faithful view bytes r := by
  rcases tryNew_eq_ok.mp h with
    ⟨tx, hValid, -, hSanitary, rfl, hShort⟩ | ⟨tx, hValid, -, rfl, hShort⟩
  · have hTotal := hSanitary.total_le
    rw [PacketTransaction.totalAccounts] at hTotal
    refine ⟨tx.readout, .of_yields (tx.readout_view hValid hShort) (tx.serialize_readout hValid)
      (tx.view_instructionsIter_yields hValid hShort)
      (tx.view_addressTableLookupIter_yields hValid hShort) ?_ ?_⟩
    · -- the totals fit their `u16`, since a sanitary transaction has at most 256 accounts
      show (UInt16.ofNat (writableSum tx.lookups)).toNat = writableSum tx.lookups
      rw [UInt16.toNat_ofNat']
      omega
    · show (UInt16.ofNat (readonlySum tx.lookups)).toNat = readonlySum tx.lookups
      rw [UInt16.toNat_ofNat']
      omega
  · exact ⟨tx.readout, .of_yields (tx.readout_view hValid hShort) tx.serialize_readout
      (tx.view_instructionsIter_yields hValid hShort) tx.view_addressTableLookupIter_yields
      rfl rfl⟩

/-- **The view is a faithful decoding.** On every accepted string the accessors
are faithful; on the serialization of a transaction they return that
transaction; and two accepted strings that read out the same are equal. -/
theorem tryNew_faithful :
    (∀ bytes view, tryNew bytes = .ok view → ∃ r, Faithful view bytes r) ∧
    (∀ (tx : PacketTransaction) view, tx.WellFormed → tryNew tx.serialize = .ok view →
      view.readout = some tx.readout) ∧
    (∀ (tx : V1Transaction) view, tx.WellFormed → tryNew tx.serialize = .ok view →
      view.readout = some tx.readout) ∧
    (∀ bytes bytes' view view', tryNew bytes = .ok view → tryNew bytes' = .ok view' →
      view.readout = view'.readout → bytes = bytes') := by
  refine ⟨fun bytes view => faithful_of_accepted, ?_, ?_, ?_⟩
  · intro tx view hValid h
    obtain ⟨rfl, hShort⟩ := view_of_packet hValid h
    exact tx.readout_view hValid hShort
  · intro tx view hValid h
    obtain ⟨rfl, hShort⟩ := view_of_v1 hValid h
    exact tx.readout_view hValid hShort
  · intro bytes bytes' view view' h h' hEq
    obtain ⟨r, hFaithful⟩ := faithful_of_accepted h
    obtain ⟨r', hFaithful'⟩ := faithful_of_accepted h'
    have hSame : r = r' := by
      rw [hFaithful.readout, hFaithful'.readout] at hEq
      exact Option.some.inj hEq
    rw [← hFaithful.serialize, hSame, hFaithful'.serialize]

/-- Both samples read out as they were written. -/
theorem tryNew_faithful_samples :
    sampleLegacy.view.readout = some sampleLegacy.readout ∧
      sampleV1.view.readout = some sampleV1.readout :=
  ⟨tryNew_faithful.2.1 sampleLegacy _ sampleLegacy_wellFormed (by decide +kernel),
    tryNew_faithful.2.2.1 sampleV1 _ sampleV1_wellFormed (by decide +kernel)⟩

end TxStream
