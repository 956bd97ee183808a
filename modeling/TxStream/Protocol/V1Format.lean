import TxStream.Protocol.Reading
import TxStream.Protocol.Reference

/-!
# The v1 wire format

The reference serialization of `V1Transaction` as a format built from
combinators. The instruction list is written twice over: first the fixed-size
headers of all instructions, then all payloads, each of the size that its
header announces.

Main results:

* `v1Format_valid_iff`, `v1Format_encode` — the format is the reference.
* `v1Format_decode` — its decoder, section by section.
-/

namespace TxStream

open Wire Rust Format

-- ---------------------------------------------------------------------------
-- Instructions
-- ---------------------------------------------------------------------------

/-- The header of a v1 instruction: the program and the two payload sizes. -/
abbrev InstructionHeader := UInt8 × UInt8 × UInt16

/-- The payload of a v1 instruction: its accounts and its data. -/
abbrev InstructionPayload := Bytes × Bytes

/-- The four bytes of an instruction header. -/
def headerFormat : Format InstructionHeader := byte.seq fun _ => byte.seq fun _ => u16le

/-- The payload that a header announces. -/
def payloadFormat (header : InstructionHeader) : Format InstructionPayload :=
  (string header.2.1.toNat).seq fun _ => string header.2.2.toNat

/-- The header of an instruction. -/
def SanitizedInstructionView.header (i : SanitizedInstructionView) : InstructionHeader :=
  (i.programIdIndex, UInt8.ofNat i.accounts.length, UInt16.ofNat i.data.length)

/-- An instruction from its header and its payload. -/
def instructionOf (header : InstructionHeader) (payload : InstructionPayload) :
    SanitizedInstructionView :=
  ⟨header.1, payload.1, payload.2⟩

/-- A header announces exactly the payload it is followed by, so the header can be
computed from the instruction again. -/
theorem header_instructionOf {header : InstructionHeader} {payload : InstructionPayload}
    (h : (payloadFormat header).Valid payload) : (instructionOf header payload).header = header := by
  have hAccounts : payload.1.length = header.2.1.toNat := h.1
  have hData : payload.2.length = header.2.2.toNat := h.2
  simp [SanitizedInstructionView.header, instructionOf, hAccounts, hData]

/-- Headers and payloads that match are the two halves of one instruction list. -/
theorem map_header_zipWith {headers : List InstructionHeader} {payloads : List InstructionPayload}
    (h : List.Forall₂ (fun header payload => (payloadFormat header).Valid payload) headers
      payloads) :
    (List.zipWith instructionOf headers payloads).map SanitizedInstructionView.header = headers ∧
      (List.zipWith instructionOf headers payloads).map (fun i => (i.accounts, i.data)) =
        payloads := by
  induction h with
  | nil => exact ⟨rfl, rfl⟩
  | cons hValid _ ih =>
    rw [List.zipWith_cons_cons, List.map_cons, List.map_cons, ih.1, ih.2,
      header_instructionOf hValid]
    exact ⟨rfl, rfl⟩

/-- All instruction headers, then all payloads. The values are the instructions and not
the two lists they are written as: zipping the lists and splitting the instructions are
inverse to each other wherever the payloads fit their headers. -/
def instructionsV1Format (count : Nat) : Format (List SanitizedInstructionView) :=
  ((headerFormat.repeated count).seq fun headers => each payloadFormat headers).iso
    (fun p => List.zipWith instructionOf p.1 p.2)
    (fun is => (is.map SanitizedInstructionView.header, is.map fun i => (i.accounts, i.data)))
    (fun is => by
      rw [List.zipWith_map_left, List.zipWith_map_right, List.zipWith_self]
      exact List.map_id _)
    (fun p h => by
      obtain ⟨hHeaders, hPayloads⟩ := map_header_zipWith h.2
      rw [hHeaders, hPayloads])

-- ---------------------------------------------------------------------------
-- The transaction
-- ---------------------------------------------------------------------------

/-- The masks that the format admits: no unknown bit, and both fee bits or neither. -/
def MaskKnown (mask : UInt32) : Prop :=
  mask.toNat < 32 ∧ mask.toNat.testBit 0 = mask.toNat.testBit 1

instance : DecidablePred MaskKnown := fun _ => inferInstanceAs (Decidable (_ ∧ _))

/-- A v1 transaction in the order of the wire. Three earlier fields decide how later
ones are laid out: the mask which configuration values there are, the instruction count
how many headers, and the signature count, read second, how many signatures stand at the
end. -/
def v1Format : Format V1Transaction :=
  ((const [0x81]).seq fun _ =>
    byte.seq fun required =>
    byte.seq fun _ =>
    byte.seq fun _ =>
    (u32le.filter MaskKnown).seq fun mask =>
    (raw 32).seq fun _ =>
    (le 1).seq fun instructionCount =>
    (counted (le 1) (raw 32)).seq fun _ =>
    (option (mask.toNat.testBit 0) u64le).seq fun _ =>
    (option (mask.toNat.testBit 2) u32le).seq fun _ =>
    (option (mask.toNat.testBit 3) u32le).seq fun _ =>
    (option (mask.toNat.testBit 4) u32le).seq fun _ =>
    (instructionsV1Format instructionCount).seq fun _ =>
    (raw 64).repeated required.toNat).iso
    (fun p =>
      { numRequiredSignatures := p.2.1
        numReadonlySigned := p.2.2.1
        numReadonlyUnsigned := p.2.2.2.1
        configMask := p.2.2.2.2.1
        recentBlockhash := p.2.2.2.2.2.1
        accountKeys := p.2.2.2.2.2.2.2.1
        priorityFee := p.2.2.2.2.2.2.2.2.1
        computeUnitLimit := p.2.2.2.2.2.2.2.2.2.1
        loadedAccountsDataSize := p.2.2.2.2.2.2.2.2.2.2.1
        heapSize := p.2.2.2.2.2.2.2.2.2.2.2.1
        instructions := p.2.2.2.2.2.2.2.2.2.2.2.2.1
        signatures := p.2.2.2.2.2.2.2.2.2.2.2.2.2 })
    (fun tx => ((), tx.numRequiredSignatures, tx.numReadonlySigned, tx.numReadonlyUnsigned,
      tx.configMask, tx.recentBlockhash, tx.instructions.length, tx.accountKeys, tx.priorityFee,
      tx.computeUnitLimit, tx.loadedAccountsDataSize, tx.heapSize, tx.instructions,
      tx.signatures))
    (fun _ => rfl)
    (fun p h => by
      -- the instruction count is read before the list, and not kept beside it
      have hCount : p.2.2.2.2.2.2.2.2.2.2.2.2.1.length = p.2.2.2.2.2.2.1 := by
        obtain ⟨-, -, -, -, -, -, -, -, -, -, -, -, ⟨⟨hLen, -⟩, -⟩, -⟩ := h
        rwa [List.length_map] at hLen
      rw [hCount])

/-- The decoder of a transaction, section by section: each reads where the one before it
stopped, and the first that fails fails the whole. -/
theorem v1Format_decode (bs : Bytes) :
    v1Format.decode bs =
      ((const [0x81]).decode bs).bind fun version =>
      (byte.decode version.2).bind fun required =>
      (byte.decode required.2).bind fun signed =>
      (byte.decode signed.2).bind fun unsigned =>
      ((u32le.filter MaskKnown).decode unsigned.2).bind fun mask =>
      ((raw 32).decode mask.2).bind fun hash =>
      ((le 1).decode hash.2).bind fun count =>
      ((counted (le 1) (raw 32)).decode count.2).bind fun keys =>
      ((option (mask.1.toNat.testBit 0) u64le).decode keys.2).bind fun fee =>
      ((option (mask.1.toNat.testBit 2) u32le).decode fee.2).bind fun limit =>
      ((option (mask.1.toNat.testBit 3) u32le).decode limit.2).bind fun loaded =>
      ((option (mask.1.toNat.testBit 4) u32le).decode loaded.2).bind fun heap =>
      ((instructionsV1Format count.1).decode heap.2).bind fun is =>
      (((raw 64).repeated required.1.toNat).decode is.2).map fun signatures =>
        ({ numRequiredSignatures := required.1
           numReadonlySigned := signed.1
           numReadonlyUnsigned := unsigned.1
           configMask := mask.1
           recentBlockhash := hash.1
           accountKeys := keys.1
           priorityFee := fee.1
           computeUnitLimit := limit.1
           loadedAccountsDataSize := loaded.1
           heapSize := heap.1
           instructions := is.1
           signatures := signatures.1 }, signatures.2) := by
  rw [v1Format, iso_decode]
  -- thirteen sections in front of the last, and the same step for each
  iterate 13 rw [map_seq_decode]; refine congrArg (Option.bind _) (funext fun _ => ?_)
  rfl

-- ---------------------------------------------------------------------------
-- The format is the reference
-- ---------------------------------------------------------------------------

/-- The instruction list is written as the reference writes it, where the lengths fit
their fields. -/
theorem instructionsV1Format_encode (count : Nat) (is : List SanitizedInstructionView)
    (h : ∀ i ∈ is, i.accounts.length < 256 ∧ i.data.length < 65536) :
    (instructionsV1Format count).encode is =
      is.flatMap SanitizedInstructionView.serializeHeader
        ++ is.flatMap SanitizedInstructionView.serializePayload := by
  have hHeaders : (is.map SanitizedInstructionView.header).flatMap headerFormat.encode =
      is.flatMap SanitizedInstructionView.serializeHeader := by
    rw [List.flatMap_map]
    refine List.flatMap_congr fun i hi => ?_
    -- the data length is not cut off
    have hData : (UInt16.ofNat i.data.length).toNat = i.data.length := by
      rw [UInt16.toNat_ofNat']
      exact Nat.mod_eq_of_lt (h i hi).2
    show [i.programIdIndex] ++ ([UInt8.ofNat i.accounts.length]
      ++ leBytes 2 (UInt16.ofNat i.data.length).toNat) = _
    rw [hData]
    rfl
  have hPayloads : (each payloadFormat (is.map SanitizedInstructionView.header)).encode
      (is.map fun i => (i.accounts, i.data)) =
        is.flatMap SanitizedInstructionView.serializePayload := by
    show (List.zipWith _ _ _).flatten = _
    rw [List.zipWith_map_left, List.zipWith_map_right, List.zipWith_self, ← List.flatMap_def]
    rfl
  show _ ++ _ = _
  rw [← hHeaders, ← hPayloads]
  rfl

/-- What the format asks of an instruction list is that it has the announced number of
instructions and that the two lengths of each fit a byte and two bytes. -/
theorem instructionsV1Format_valid_iff (count : Nat) (is : List SanitizedInstructionView) :
    (instructionsV1Format count).Valid is ↔
      is.length = count ∧ ∀ i ∈ is, i.accounts.length < 256 ∧ i.data.length < 65536 := by
  have hShape : (instructionsV1Format count).Valid is ↔
      ((is.map SanitizedInstructionView.header).length = count ∧
        ∀ header ∈ is.map SanitizedInstructionView.header, headerFormat.Valid header) ∧
      List.Forall₂ (fun header payload => (payloadFormat header).Valid payload)
        (is.map SanitizedInstructionView.header) (is.map fun i => (i.accounts, i.data)) := Iff.rfl
  -- every four bytes are a header
  have hHeader : ∀ header, headerFormat.Valid header := fun header =>
    ⟨trivial, trivial, show header.2.2.toNat < 256 ^ 2 from header.2.2.toNat_lt⟩
  rw [hShape, List.length_map, List.forall₂_map_left_iff, List.forall₂_map_right_iff,
    List.forall₂_same]
  constructor
  · rintro ⟨⟨hLen, -⟩, hPayloads⟩
    refine ⟨hLen, fun i hi => ?_⟩
    have hAccounts : i.accounts.length = (UInt8.ofNat i.accounts.length).toNat :=
      (hPayloads i hi).1
    have hData : i.data.length = (UInt16.ofNat i.data.length).toNat := (hPayloads i hi).2
    rw [hAccounts, hData]
    exact ⟨UInt8.toNat_lt _, UInt16.toNat_lt _⟩
  · rintro ⟨hLen, hAll⟩
    refine ⟨⟨hLen, fun header _ => hHeader header⟩, fun i hi => ⟨?_, ?_⟩⟩
    · show i.accounts.length = (UInt8.ofNat i.accounts.length).toNat
      rw [UInt8.toNat_ofNat', Nat.mod_eq_of_lt (hAll i hi).1]
    · show i.data.length = (UInt16.ofNat i.data.length).toNat
      rw [UInt16.toNat_ofNat', Nat.mod_eq_of_lt (hAll i hi).2]

/-- The values of the format are the well-formed transactions of the reference. -/
theorem v1Format_valid_iff (tx : V1Transaction) : v1Format.Valid tx ↔ tx.WellFormed := by
  -- the machine integers of the configuration fit their fields by their type
  have h32 : ∀ a, u32le.Valid a := fun a => show a.toNat < 256 ^ 4 from a.toNat_lt
  have h64 : ∀ a, u64le.Valid a := fun a => show a.toNat < 256 ^ 8 from a.toNat_lt
  constructor
  · rintro ⟨-, -, -, -, ⟨-, hMask⟩, -, hCount, ⟨hKeys, -⟩, ⟨hFee, -⟩, ⟨hLimit, -⟩, ⟨hLoaded, -⟩,
      ⟨hHeap, -⟩, hInstructions, hSignatures, -⟩
    exact ⟨hMask.1, hMask.2, hFee, hLimit, hLoaded, hHeap, hKeys, hCount,
      ((instructionsV1Format_valid_iff _ _).mp hInstructions).2, hSignatures⟩
  · intro h
    exact ⟨trivial, trivial, trivial, trivial, ⟨h32 _, h.mask_lt, h.fee_bits⟩, trivial,
      h.instructions_lt, ⟨h.keys_lt, rfl, fun _ _ => trivial⟩,
      ⟨h.priorityFee_isSome, fun _ _ => h64 _⟩, ⟨h.computeUnitLimit_isSome, fun _ _ => h32 _⟩,
      ⟨h.loadedAccountsDataSize_isSome, fun _ _ => h32 _⟩, ⟨h.heapSize_isSome, fun _ _ => h32 _⟩,
      (instructionsV1Format_valid_iff _ _).mpr ⟨rfl, h.instruction_lt⟩, h.signatures_eq,
      fun _ _ => trivial⟩

/-- The encoder is the reference serialization, for well-formed transactions: with
longer payloads the headers would announce less than follows. -/
theorem v1Format_encode (tx : V1Transaction) (h : tx.WellFormed) :
    v1Format.encode tx = tx.serialize := by
  have hShape : v1Format.encode tx =
      [0x81] ++ ([tx.numRequiredSignatures] ++ ([tx.numReadonlySigned]
        ++ ([tx.numReadonlyUnsigned] ++ (leBytes 4 tx.configMask.toNat
        ++ (tx.recentBlockhash.toList ++ (leBytes 1 tx.instructions.length
        ++ ((leBytes 1 tx.accountKeys.length ++ tx.accountKeys.flatMap FixedBytes.toList)
        ++ (tx.priorityFee.elim [] (fun fee => leBytes 8 fee.toNat)
        ++ (tx.computeUnitLimit.elim [] (fun limit => leBytes 4 limit.toNat)
        ++ (tx.loadedAccountsDataSize.elim [] (fun limit => leBytes 4 limit.toNat)
        ++ (tx.heapSize.elim [] (fun size => leBytes 4 size.toNat)
        ++ ((instructionsV1Format tx.instructions.length).encode tx.instructions
        ++ tx.signatures.flatMap FixedBytes.toList)))))))))))) := rfl
  have hByte : ∀ n, leBytes 1 n = [UInt8.ofNat n] := fun _ => rfl
  rw [hShape, instructionsV1Format_encode _ _ h.instruction_lt]
  simp [V1Transaction.serialize, V1Transaction.configValues, hByte]

end TxStream
