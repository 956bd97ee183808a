import TxStream.Protocol.Reading
import TxStream.Protocol.Reference

/-!
# The legacy and v0 wire format

The reference serialization of `PacketTransaction` as a format built from
combinators, over the encoding `count` of its list lengths. With the full
compact-u16 encoding its values are the well-formed transactions and its
encoder is `serialize`; with lengths cut off at `16384` it decodes the same
transactions from every string that fits a packet.

Main results:

* `packetFormat_valid_iff`, `packetFormat_encode` — the format is the reference.
* `packetFormat_agree` — two-byte lengths lose nothing on short strings.
-/

namespace TxStream

open Wire Rust Format

variable (count : Format Nat)

-- ---------------------------------------------------------------------------
-- Items
-- ---------------------------------------------------------------------------

/-- A byte list behind its length. -/
def bytesFormat : Format Bytes := counted count byte

/-- The decoder reads the length and then exactly that many bytes: a list of single
bytes is a string. -/
theorem bytesFormat_decode (bs : Bytes) :
    (bytesFormat count).decode bs = match count.decode bs with
      | none => none
      | some (n, rest) => (string n).decode rest := by
  rw [bytesFormat, counted_decode]
  cases count.decode bs with
  | none => rfl
  | some p => exact repeated_byte_decode ..

/-- The encoder writes the length in front and the bytes as they stand. -/
theorem bytesFormat_encode (bs : Bytes) :
    (bytesFormat count).encode bs = count.encode bs.length ++ bs := by
  show count.encode bs.length ++ bs.flatMap (fun b => [b]) = _
  rw [List.flatMap_singleton' bs]

/-- One compiled instruction: the index of its program, the account indexes, and the
instruction data, both lists behind their own length. -/
def instructionFormat : Format SanitizedInstructionView :=
  (byte.seq fun _ => (bytesFormat count).seq fun _ => bytesFormat count).iso
    (fun p => ⟨p.1, p.2.1, p.2.2⟩) (fun i => (i.programIdIndex, i.accounts, i.data))
    (fun _ => rfl) (fun _ _ => rfl)

/-- One address table lookup: the key of the table and the two index lists it loads, the
writable one first. -/
def lookupFormat : Format SanitizedAddressTableLookup :=
  ((raw 32).seq fun _ => (bytesFormat count).seq fun _ => bytesFormat count).iso
    (fun p => ⟨p.1, p.2.1, p.2.2⟩) (fun l => (l.accountKey, l.writableIndexes, l.readonlyIndexes))
    (fun _ => rfl) (fun _ _ => rfl)

/-- The message version and the required-signature count. A legacy message has no
version byte, so its count has to stay below the high bit; `0x80` announces v0 and the
count follows. Every other first byte with the high bit set is a version this format
does not have, v1 among them. -/
def messagePrefixFormat : Format (MessageVersion × UInt8) where
  Valid p := p.1 ≠ .v1 ∧ (p.1 = .legacy → p.2.toNat < 0x80)
  encode p := (if p.1 = .v0 then [0x80] else []) ++ [p.2]
  decode
    | [] => none
    | b :: rest =>
      if b.toNat < 0x80 then some ((.legacy, b), rest)
      else if b = 0x80 then
        match rest with
        | [] => none
        | required :: rest => some ((.v0, required), rest)
      else none
  decode_encode := by
    rintro ⟨version, required⟩ ⟨hVersion, hLegacy⟩ rest
    -- the first byte written decides the version again: a legacy count is below the high bit,
    -- `0x80` is not
    cases version with
    | legacy => simp [show required.toNat < 128 from hLegacy rfl]
    | v0 => simp
    | v1 => exact absurd rfl hVersion
  encode_decode := by
    intro bs p rest h
    rcases bs with _ | ⟨b, bs⟩
    · simp at h
    simp only at h
    -- one case per kind of first byte: a legacy count, the v0 byte, and a byte the decoder
    -- refuses
    split_ifs at h with hLegacy hV0
    · simp only [Option.some.injEq, Prod.mk.injEq] at h
      obtain ⟨rfl, rfl⟩ := h
      exact ⟨⟨by simp, fun _ => hLegacy⟩, rfl⟩
    · rcases bs with _ | ⟨required, bs⟩
      · simp at h
      simp only [Option.some.injEq, Prod.mk.injEq] at h
      obtain ⟨rfl, rfl⟩ := h
      exact ⟨⟨by simp, by simp⟩, by simp [hV0]⟩

/-- The lookup list of a message of the given version. Only v0 has one on the wire; for
any other version the list is empty and takes no bytes. -/
def lookupsFormat (version : MessageVersion) : Format (List SanitizedAddressTableLookup) :=
  if version = .v0 then counted ((le 1).filter (· ≤ 31)) (lookupFormat count) else .pure []

-- ---------------------------------------------------------------------------
-- The transaction
-- ---------------------------------------------------------------------------

/-- A whole transaction in the order of the wire: signatures, version and header,
account keys, recent blockhash, instructions, and the lookups of a v0 message. The
bounds on the number of signatures (1 to 12) and of keys (1 to 38) are part of the
format, and so is the version, which decides whether a lookup section is there at all.
-/
def packetFormat : Format PacketTransaction :=
  ((counted ((le 1).filter fun n => 1 ≤ n ∧ n ≤ 12) (raw 64)).seq fun _ =>
    messagePrefixFormat.seq fun versionAndRequired =>
    byte.seq fun _ =>
    byte.seq fun _ =>
    (counted ((le 1).filter fun n => 1 ≤ n ∧ n ≤ 38) (raw 32)).seq fun _ =>
    (raw 32).seq fun _ =>
    (counted count (instructionFormat count)).seq fun _ =>
    lookupsFormat count versionAndRequired.1).iso
    (fun p =>
      { signatures := p.1
        messageVersion := p.2.1.1
        numRequiredSignatures := p.2.1.2
        numReadonlySigned := p.2.2.1
        numReadonlyUnsigned := p.2.2.2.1
        accountKeys := p.2.2.2.2.1
        recentBlockhash := p.2.2.2.2.2.1
        instructions := p.2.2.2.2.2.2.1
        lookups := p.2.2.2.2.2.2.2 })
    (fun tx => (tx.signatures, (tx.messageVersion, tx.numRequiredSignatures),
      tx.numReadonlySigned, tx.numReadonlyUnsigned, tx.accountKeys, tx.recentBlockhash,
      tx.instructions, tx.lookups))
    (fun _ => rfl) (fun _ _ => rfl)

/-- The decoder of a transaction, section by section: each reads where the one before it
stopped, and the first that fails fails the whole. This is the shape the parser's own
sequence of cursor calls is compared with. -/
theorem packetFormat_decode (bs : Bytes) :
    (packetFormat count).decode bs =
      ((counted ((le 1).filter fun n => 1 ≤ n ∧ n ≤ 12) (raw 64)).decode bs).bind fun s =>
      (messagePrefixFormat.decode s.2).bind fun m =>
      (byte.decode m.2).bind fun signed =>
      (byte.decode signed.2).bind fun unsigned =>
      ((counted ((le 1).filter fun n => 1 ≤ n ∧ n ≤ 38) (raw 32)).decode unsigned.2).bind fun k =>
      ((raw 32).decode k.2).bind fun hash =>
      ((counted count (instructionFormat count)).decode hash.2).bind fun is =>
      ((lookupsFormat count m.1.1).decode is.2).map fun ls =>
        ({ signatures := s.1
           messageVersion := m.1.1
           numRequiredSignatures := m.1.2
           numReadonlySigned := signed.1
           numReadonlyUnsigned := unsigned.1
           accountKeys := k.1
           recentBlockhash := hash.1
           instructions := is.1
           lookups := ls.1 }, ls.2) := by
  simp only [packetFormat, iso_decode, map_seq_decode]
  rfl

-- ---------------------------------------------------------------------------
-- The format is the reference
-- ---------------------------------------------------------------------------

section Encode

variable {count : Format Nat} (hCount : count.encode = encodeCompactU16)

include hCount

/-- With compact-u16 lengths an instruction is written as the reference writes it. -/
theorem instructionFormat_encode (i : SanitizedInstructionView) :
    (instructionFormat count).encode i = i.serialize := by
  show [i.programIdIndex] ++ ((bytesFormat count).encode i.accounts
    ++ (bytesFormat count).encode i.data) = _
  rw [bytesFormat_encode, bytesFormat_encode, hCount]
  rfl

/-- With compact-u16 lengths a lookup is written as the reference writes it. -/
theorem lookupFormat_encode (l : SanitizedAddressTableLookup) :
    (lookupFormat count).encode l = l.serialize := by
  show l.accountKey.toList ++ ((bytesFormat count).encode l.writableIndexes
    ++ (bytesFormat count).encode l.readonlyIndexes) = _
  rw [bytesFormat_encode, bytesFormat_encode, hCount, ← List.append_assoc]
  rfl

/-- The lookup section of a transaction, absent for a legacy message on both sides. -/
theorem lookupsFormat_encode (tx : PacketTransaction) :
    (lookupsFormat count tx.messageVersion).encode tx.lookups = tx.lookupSection := by
  unfold lookupsFormat PacketTransaction.lookupSection
  split
  · have hLookup : (lookupFormat count).encode = SanitizedAddressTableLookup.serialize :=
      funext (lookupFormat_encode hCount)
    rw [counted_encode, hLookup]
    rfl
  · rfl

/-- The encoder is the reference serialization. It only uses how `count` encodes, not
which lengths it accepts, so the cut-off encoding has this encoder as well. -/
theorem packetFormat_encode (tx : PacketTransaction) :
    (packetFormat count).encode tx = tx.serialize := by
  have hByte : ∀ n, (le 1).encode n = [UInt8.ofNat n] := fun _ => rfl
  have hRaw : ∀ n, (raw n).encode = FixedBytes.toList := fun _ => rfl
  have hPrefix : messagePrefixFormat.encode (tx.messageVersion, tx.numRequiredSignatures) =
      tx.versionPrefix ++ [tx.numRequiredSignatures] := rfl
  have hInstructions : (instructionFormat count).encode =
      SanitizedInstructionView.serialize := funext (instructionFormat_encode hCount)
  -- the sections stand in one order on both sides, so the encoders agree piece by piece
  simp only [packetFormat, iso, seq_encode, counted_encode, filter_encode, byte_encode,
    raw_encode, hByte, hRaw, hPrefix, hInstructions, hCount, lookupsFormat_encode hCount]
  simp [PacketTransaction.serialize]

end Encode

/-- What the format asks of an instruction is that its two list lengths can be written.
-/
theorem instructionFormat_valid_iff (i : SanitizedInstructionView) :
    (instructionFormat count).Valid i ↔
      count.Valid i.accounts.length ∧ count.Valid i.data.length := by
  simp [instructionFormat, iso, bytesFormat]

/-- What the format asks of a lookup is that its two list lengths can be written. -/
theorem lookupFormat_valid_iff (l : SanitizedAddressTableLookup) :
    (lookupFormat count).Valid l ↔
      count.Valid l.writableIndexes.length ∧ count.Valid l.readonlyIndexes.length := by
  simp [lookupFormat, iso, bytesFormat]

/-- At most 31 lookups, each with lengths that can be written, and none outside v0. The
one-byte count is no bound of its own: 31 is below 256. -/
theorem lookupsFormat_valid_iff (version : MessageVersion)
    (lookups : List SanitizedAddressTableLookup) :
    (lookupsFormat count version).Valid lookups ↔
      lookups.length ≤ 31 ∧ (∀ l ∈ lookups, (lookupFormat count).Valid l) ∧
        (version ≠ .v0 → lookups = []) := by
  unfold lookupsFormat
  split
  · rename_i hV0
    have hByte : lookups.length ≤ 31 → lookups.length < 256 ^ 1 := by omega
    simp only [counted_valid, filter_valid, hV0, ne_eq, not_true_eq_false, false_implies,
      and_true]
    exact ⟨fun h => ⟨h.1.2, h.2⟩, fun h => ⟨⟨hByte h.1, h.1⟩, h.2⟩⟩
  · rename_i hOther
    -- `pure []` has one value, the empty list
    show lookups = [] ↔ _
    constructor
    · rintro rfl
      simp
    · exact fun h => h.2.2 hOther

/-- With compact-u16 lengths the values of the format are the well-formed transactions
of the reference, field by field. The one-byte counts of signatures and keys add
nothing, since their bounds lie below 256. -/
theorem packetFormat_valid_iff (tx : PacketTransaction) :
    (packetFormat compactU16).Valid tx ↔ tx.WellFormed := by
  have hCount : ∀ {n m : Nat}, m ≤ 255 → n ≤ m → (le 1).Valid n := fun {n m} hm hn => by
    show n < 256 ^ 1
    omega
  have hLegacy : tx.messageVersion ≠ .v1 →
      (tx.messageVersion ≠ .v0 ↔ tx.messageVersion = .legacy) := by
    cases tx.messageVersion <;> simp
  -- the sections of the format that ask anything of the transaction, in wire order
  have hShape : (packetFormat compactU16).Valid tx ↔
      ((le 1).Valid tx.signatures.length ∧
        1 ≤ tx.signatures.length ∧ tx.signatures.length ≤ 12) ∧
      (tx.messageVersion ≠ .v1 ∧
        (tx.messageVersion = .legacy → tx.numRequiredSignatures.toNat < 0x80)) ∧
      ((le 1).Valid tx.accountKeys.length ∧
        1 ≤ tx.accountKeys.length ∧ tx.accountKeys.length ≤ 38) ∧
      (tx.instructions.length < 65536 ∧
        ∀ i ∈ tx.instructions, (instructionFormat compactU16).Valid i) ∧
      (lookupsFormat compactU16 tx.messageVersion).Valid tx.lookups := by
    simp only [packetFormat, iso, seq_valid, counted_valid, filter_valid, byte_valid, raw_valid,
      true_and, implies_true, and_true]
    rfl
  rw [hShape, lookupsFormat_valid_iff]
  constructor
  · rintro ⟨⟨-, h₁, h₂⟩, ⟨h₃, h₄⟩, ⟨-, h₅, h₆⟩, ⟨h₇, h₈⟩, h₉, h₁₀, h₁₁⟩
    exact ⟨h₁, h₂, h₃, h₄, h₅, h₆, h₇, fun i hi => (instructionFormat_valid_iff _ i).mp (h₈ i hi),
      h₉, fun l hl => (lookupFormat_valid_iff _ l).mp (h₁₀ l hl),
      fun h => h₁₁ ((hLegacy h₃).mpr h)⟩
  · intro h
    exact ⟨⟨hCount (by omega) h.signatures_le, h.one_le_signatures, h.signatures_le⟩,
      ⟨h.version_ne, h.required_lt⟩,
      ⟨hCount (by omega) h.keys_le, h.one_le_keys, h.keys_le⟩,
      ⟨h.instructions_lt, fun i hi => (instructionFormat_valid_iff _ i).mpr (h.instruction_lt i hi)⟩,
      h.lookups_le, fun l hl => (lookupFormat_valid_iff _ l).mpr (h.lookup_lt l hl),
      fun hv => h.lookups_legacy ((hLegacy h.version_ne).mp hv)⟩

-- ---------------------------------------------------------------------------
-- Two-byte lengths
-- ---------------------------------------------------------------------------

/-- A byte list behind a cut-off length: a list of `16384` bytes or more does not fit a
string below that length, so the lengths the cut-off drops never occur there. -/
theorem bytesFormat_agree :
    AgreeBelow 16384 (bytesFormat shortCount) (bytesFormat compactU16) :=
  (AgreeBelow.refl byte).counted_filter fun _ => Nat.le_refl 1

/-- Both byte lists of an instruction agree, and so does the instruction. -/
theorem instructionFormat_agree :
    AgreeBelow 16384 (instructionFormat shortCount) (instructionFormat compactU16) :=
  ((AgreeBelow.refl byte).seq fun _ => bytesFormat_agree.seq fun _ => bytesFormat_agree).iso

/-- Both index lists of a lookup agree, and so does the lookup. -/
theorem lookupFormat_agree :
    AgreeBelow 16384 (lookupFormat shortCount) (lookupFormat compactU16) :=
  ((AgreeBelow.refl (raw 32)).seq fun _ => bytesFormat_agree.seq fun _ => bytesFormat_agree).iso

/-- On every string shorter than `16384` bytes the format with two-byte lengths and the
one with full compact-u16 lengths decode the same transaction. The two-byte reader of
the source is therefore no restriction for a packet, which is far shorter. -/
theorem packetFormat_agree :
    AgreeBelow 16384 (packetFormat shortCount) (packetFormat compactU16) := by
  have hInstructions : AgreeBelow 16384 (counted shortCount (instructionFormat shortCount))
      (counted compactU16 (instructionFormat compactU16)) :=
    instructionFormat_agree.counted_filter fun i => by
      -- an instruction takes at least a byte, so `16384` of them do not fit either
      show 1 ≤ ([i.programIdIndex] ++ _).length
      simp
  have hLookups : ∀ version, AgreeBelow 16384 (lookupsFormat shortCount version)
      (lookupsFormat compactU16 version) := by
    intro version
    unfold lookupsFormat
    split
    · -- the number of lookups is one byte in both; only the lists inside differ
      exact AgreeBelow.counted _ lookupFormat_agree
    · exact AgreeBelow.refl _
  refine AgreeBelow.iso ?_
  -- everything before the instructions is the same format on both sides
  refine AgreeBelow.seq (AgreeBelow.refl _) fun _ => ?_
  refine AgreeBelow.seq (AgreeBelow.refl _) fun prefixed => ?_
  refine AgreeBelow.seq (AgreeBelow.refl _) fun _ => ?_
  refine AgreeBelow.seq (AgreeBelow.refl _) fun _ => ?_
  refine AgreeBelow.seq (AgreeBelow.refl _) fun _ => ?_
  refine AgreeBelow.seq (AgreeBelow.refl _) fun _ => ?_
  exact hInstructions.seq fun _ => hLookups prefixed.1

end TxStream
