import TxStream.Protocol.LegacyV0
import TxStream.Protocol.V1

/-!
# The verdict of `try_new`

`SanitizedTransactionView::try_new` against the reference formats: which byte
strings it accepts, which kind of error it reports for the others, and which
view it builds.

Main results:

* `tryNew_of_packet`, `tryNew_of_v1` — the result on the serialization of a
  transaction.
* `tryNew_eq_ok` — everything accepted is the serialization of a well-formed,
  sanitary transaction, and the view is the view of that transaction.
* `tryNew_legacyV0_verdict`, `tryNew_v1_verdict` — the verdict on every byte
  string.
-/

namespace TxStream

open Wire Rust Format

variable {bytes : Bytes}

-- ---------------------------------------------------------------------------
-- Serializations
-- ---------------------------------------------------------------------------

/-- A serialization determines the transaction: the reference is a format, and formats
encode injectively. -/
theorem PacketTransaction.serialize_injective {tx tx' : PacketTransaction} (h : tx.WellFormed)
    (h' : tx'.WellFormed) (hEq : tx.serialize = tx'.serialize) : tx = tx' := by
  rw [← packetFormat_valid_iff] at h h'
  rw [← @packetFormat_encode compactU16 rfl, ← @packetFormat_encode compactU16 rfl] at hEq
  exact (packetFormat compactU16).encode_injective h h' hEq

/-- The same for v1. -/
theorem V1Transaction.serialize_injective {tx tx' : V1Transaction} (h : tx.WellFormed)
    (h' : tx'.WellFormed) (hEq : tx.serialize = tx'.serialize) : tx = tx' := by
  rw [← v1Format_encode tx h, ← v1Format_encode tx' h'] at hEq
  rw [← v1Format_valid_iff] at h h'
  exact v1Format.encode_injective h h' hEq

/-- On strings that fit a packet, the decoder with two-byte lengths finds
exactly the serializations of well-formed transactions. -/
theorem packetFormat_decode_iff (hShort : bytes.length < 16384) (tx : PacketTransaction) :
    (packetFormat shortCount).decode bytes = some (tx, []) ↔
      tx.WellFormed ∧ tx.serialize = bytes := by
  rw [packetFormat_agree bytes hShort, decode_eq_some_iff, packetFormat_valid_iff,
    packetFormat_encode rfl, List.append_nil]

/-- The decoder of the v1 format finds exactly the serializations of well-formed
transactions. -/
theorem v1Format_decode_iff (tx : V1Transaction) :
    v1Format.decode bytes = some (tx, []) ↔ tx.WellFormed ∧ tx.serialize = bytes := by
  rw [decode_eq_some_iff, v1Format_valid_iff, List.append_nil]
  exact and_congr_right fun h => by rw [v1Format_encode tx h]

-- ---------------------------------------------------------------------------
-- The dispatch
-- ---------------------------------------------------------------------------

/-- A legacy or v0 serialization starts with its number of signatures. -/
theorem head?_serialize (tx : PacketTransaction) :
    tx.serialize.head? = some (UInt8.ofNat tx.signatures.length) := by
  simp [PacketTransaction.serialize]

/-- A v1 serialization starts with the v1 prefix. -/
theorem head?_serialize_v1 (tx : V1Transaction) : tx.serialize.head? = some v1Prefix := by
  simp [V1Transaction.serialize]
  rfl

/-- Nothing to read. -/
theorem tryNew_nil : tryNew [] = .error .parse := rfl

/-- The v1 prefix leads to the v1 constructor. -/
theorem tryNew_of_v1Prefix (hFirst : bytes.head? = some v1Prefix) :
    tryNew bytes = tryNewV1 bytes := by
  simp [tryNew, tryNewWith, hFirst]

/-- Any other first byte with the high bit is a version the code does not know. -/
theorem tryNew_of_highBit {b : UInt8} (hFirst : bytes.head? = some b) (hOther : b ≠ v1Prefix)
    (hHigh : 0x80 ≤ b.toNat) : tryNew bytes = .error .unsupportedVersion := by
  have hBit : b &&& messageVersionPrefix ≠ 0 :=
    (and_0x80_eq_zero b).not.mpr (not_lt.mpr hHigh)
  simp [tryNew, tryNewWith, hFirst, hOther, hBit]

/-- A first byte below `0x80` leads to the legacy and v0 constructor, unless the string
is too long for a packet. -/
theorem tryNew_of_lowBit {b : UInt8} (hFirst : bytes.head? = some b) (hLow : b.toNat < 0x80) :
    tryNew bytes = if 1232 < bytes.length then .error .sanitize
      else tryNewLegacyV0 readCompactU16At bytes := by
  have hBit : b &&& messageVersionPrefix = 0 := (and_0x80_eq_zero b).mpr hLow
  have hOther : b ≠ v1Prefix := by
    rintro rfl
    exact absurd hLow (by decide)
  simp only [tryNew, tryNewWith, hFirst, hOther, hBit, if_false, ne_eq, not_true_eq_false]
  rfl

-- ---------------------------------------------------------------------------
-- The result on a serialization
-- ---------------------------------------------------------------------------

/-- The constructor on a serialization: the decoder finds the transaction it came from,
so only the sanitize rules are left to decide. -/
theorem tryNewLegacyV0_of_packet {tx : PacketTransaction} (hValid : tx.WellFormed)
    (hRoom : tx.LookupRoom) (hShort : tx.serialize.length < 16384) :
    tryNewLegacyV0 readCompactU16At tx.serialize =
      if tx.Sanitary then .ok tx.view else .error .sanitize := by
  have hDec := (packetFormat_decode_iff hShort tx).mpr ⟨hValid, rfl⟩
  rcases tryNewLegacyV0_cases hShort with ⟨hNone, -⟩ | ⟨tx', hDec', -, hNew⟩
  · -- it cannot be a parse error, since there is a transaction to decode
    exact absurd hRoom (hNone tx hDec)
  · obtain ⟨rfl, -⟩ : tx = tx' ∧ True := by simpa using hDec.symm.trans hDec'
    exact hNew

/-- `try_new` on the serialization of a legacy or v0 transaction. -/
theorem tryNew_of_packet {tx : PacketTransaction} (hValid : tx.WellFormed) (hRoom : tx.LookupRoom)
    (hShort : tx.serialize.length ≤ 1232) :
    tryNew tx.serialize = if tx.Sanitary then .ok tx.view else .error .sanitize := by
  have hSigs := hValid.signatures_le
  have hLow : (UInt8.ofNat tx.signatures.length).toNat < 0x80 := by
    rw [UInt8.toNat_ofNat']
    omega
  rw [tryNew_of_lowBit (head?_serialize tx) hLow, if_neg (not_lt.mpr hShort)]
  exact tryNewLegacyV0_of_packet hValid hRoom (by omega)

/-- `try_new` on the serialization of a v1 transaction. -/
theorem tryNew_of_v1 {tx : V1Transaction} (hValid : tx.WellFormed)
    (hShort : tx.serialize.length ≤ 4096) :
    tryNew tx.serialize = if tx.Sanitary then .ok tx.view else .error .sanitize := by
  have hFirst := head?_serialize_v1 tx
  have hDec := (v1Format_decode_iff tx).mpr ⟨hValid, rfl⟩
  rw [tryNew_of_v1Prefix hFirst]
  rcases tryNewV1_cases hShort hFirst with ⟨hNone, -⟩ | ⟨tx', hDec', hNew⟩
  · exact absurd hDec (hNone tx)
  · obtain ⟨rfl, -⟩ : tx = tx' ∧ True := by simpa using hDec.symm.trans hDec'
    exact hNew

/-- The one check of `try_new_v1` that comes before any reading. -/
theorem tryNewV1_long (hLong : 4096 < bytes.length) : tryNewV1 bytes = .error .sanitize :=
  if_pos (show bytes.length > maxV1TransactionBytes from hLong)

/-- An accepted string of either kind is the serialization of a sanitary
transaction of that kind. -/
inductive Accepted (bytes : Bytes) : SanitizedTransactionView → Prop
  | packet (tx : PacketTransaction) : tx.WellFormed → tx.LookupRoom → tx.Sanitary →
      tx.serialize = bytes → bytes.length ≤ 1232 → Accepted bytes tx.view
  | v1 (tx : V1Transaction) : tx.WellFormed → tx.Sanitary → tx.serialize = bytes →
      bytes.length ≤ 4096 → Accepted bytes tx.view

/-- **What `try_new` accepts.** The accepted strings are the serializations of
well-formed, sanitary transactions, and the view is built from the transaction. One
direction follows the dispatch on the first byte, the other evaluates `try_new` on a
serialization. -/
theorem tryNew_eq_ok {view : SanitizedTransactionView} :
    tryNew bytes = .ok view ↔ Accepted bytes view := by
  constructor
  · intro h
    cases hHead : bytes.head? with
    | none =>
      rw [List.head?_eq_none_iff.mp hHead, tryNew_nil] at h
      exact absurd h (by simp)
    | some b =>
      -- the dispatch: v1, a version byte of its own, or legacy and v0
      by_cases hV1 : b = v1Prefix
      · subst hV1
        rw [tryNew_of_v1Prefix hHead] at h
        have hShort : bytes.length ≤ 4096 := by
          by_contra hLong
          rw [tryNewV1_long (not_le.mp hLong)] at h
          exact absurd h (by simp)
        rcases tryNewV1_cases hShort hHead with ⟨-, hNew⟩ | ⟨tx, hDec, hNew⟩
        · exact absurd (hNew.symm.trans h) (by simp)
        · obtain ⟨hValid, hEq⟩ := (v1Format_decode_iff tx).mp hDec
          rw [hNew] at h
          split at h
          · rename_i hSanitary
            obtain rfl := Except.ok.inj h
            exact .v1 tx hValid hSanitary hEq hShort
          · exact absurd h (by simp)
      · by_cases hHigh : 0x80 ≤ b.toNat
        · rw [tryNew_of_highBit hHead hV1 hHigh] at h
          exact absurd h (by simp)
        · rw [tryNew_of_lowBit hHead (not_le.mp hHigh)] at h
          split at h
          · exact absurd h (by simp)
          · rename_i hLong
            have hShort : bytes.length ≤ 1232 := not_lt.mp hLong
            rcases tryNewLegacyV0_cases (show bytes.length < 16384 by omega) with
              ⟨-, hNew⟩ | ⟨tx, hDec, hRoom, hNew⟩
            · exact absurd (hNew.symm.trans h) (by simp)
            · obtain ⟨hValid, hEq⟩ := (packetFormat_decode_iff (by omega) tx).mp hDec
              rw [hNew] at h
              split at h
              · rename_i hSanitary
                obtain rfl := Except.ok.inj h
                exact .packet tx hValid hRoom hSanitary hEq hShort
              · exact absurd h (by simp)
  · rintro (⟨tx, hValid, hRoom, hSanitary, rfl, hShort⟩ | ⟨tx, hValid, hSanitary, rfl, hShort⟩)
    · rw [tryNew_of_packet hValid hRoom hShort, if_pos hSanitary]
    · rw [tryNew_of_v1 hValid hShort, if_pos hSanitary]

-- ---------------------------------------------------------------------------
-- The verdict on every byte string
-- ---------------------------------------------------------------------------

/-- **Legacy and v0.** Every byte string that does not start with the v1 prefix
gets the verdict of the reference format: `Parse` exactly for the strings that
are no serialization of a well-formed transaction with room for its lookups,
and for those that are, acceptance exactly when the sanitize rules hold. -/
theorem tryNew_legacyV0_verdict (bytes : Bytes) (hFirst : bytes.head? ≠ some 0x81) :
    (bytes = [] → tryNew bytes = .error .parse) ∧
    (∀ b, bytes.head? = some b → 0x80 ≤ b.toNat → tryNew bytes = .error .unsupportedVersion) ∧
    (∀ b, bytes.head? = some b → b.toNat < 0x80 → 1232 < bytes.length →
      tryNew bytes = .error .sanitize) ∧
    (∀ b, bytes.head? = some b → b.toNat < 0x80 → bytes.length ≤ 1232 →
      (tryNew bytes = .error .parse ↔
        ¬ ∃ tx : PacketTransaction, tx.WellFormed ∧ tx.LookupRoom ∧ tx.serialize = bytes) ∧
      ∀ tx : PacketTransaction, tx.WellFormed → tx.LookupRoom → tx.serialize = bytes →
        ((∃ view, tryNew bytes = .ok view) ↔ tx.Sanitary) ∧
        (tryNew bytes = .error .sanitize ↔ ¬ tx.Sanitary)) := by
  refine ⟨?_, ?_, ?_, ?_⟩
  · rintro rfl
    rfl
  · intro b hHead hHigh
    exact tryNew_of_highBit hHead (fun h => hFirst (by rw [hHead, h]; rfl)) hHigh
  · intro b hHead hLow hLong
    rw [tryNew_of_lowBit hHead hLow, if_pos hLong]
  · intro b hHead hLow hShort
    constructor
    · rw [tryNew_of_lowBit hHead hLow, if_neg (not_lt.mpr hShort)]
      -- the string is no serialization and the error `Parse`, or it is one and `Sanitize` is
      -- the only error left
      rcases tryNewLegacyV0_cases (show bytes.length < 16384 by omega) with
        ⟨hNone, hNew⟩ | ⟨tx, hDec, hRoom, hNew⟩
      · rw [hNew]
        refine iff_of_true rfl ?_
        rintro ⟨tx, hValid, hRoom, hEq⟩
        exact hNone tx ((packetFormat_decode_iff (by omega) tx).mpr ⟨hValid, hEq⟩) hRoom
      · obtain ⟨hValid, hEq⟩ := (packetFormat_decode_iff (by omega) tx).mp hDec
        rw [hNew]
        exact iff_of_false (by split <;> simp) (not_not.mpr ⟨tx, hValid, hRoom, hEq⟩)
    · rintro tx hValid hRoom rfl
      rw [tryNew_of_packet hValid hRoom hShort]
      by_cases hSanitary : tx.Sanitary <;> simp [hSanitary]

/-- A transfer-like legacy message: one signer, one program, one instruction. -/
def sampleLegacy : PacketTransaction where
  signatures := [FixedBytes.pad 64 []]
  messageVersion := .legacy
  numRequiredSignatures := 1
  numReadonlySigned := 0
  numReadonlyUnsigned := 1
  accountKeys := [FixedBytes.pad 32 [1], FixedBytes.pad 32 [2]]
  recentBlockhash := FixedBytes.pad 32 []
  instructions := [⟨1, [0], [2, 3]⟩]
  lookups := []

/-- The sample can be written. -/
theorem sampleLegacy_wellFormed : sampleLegacy.WellFormed := by
  constructor <;> decide

/-- The sample is accepted, as the verdict says. -/
theorem tryNew_legacyV0_verdict_sample : ∃ view, tryNew sampleLegacy.serialize = .ok view :=
  (((tryNew_legacyV0_verdict sampleLegacy.serialize (by decide)).2.2.2 1 (by decide) (by decide)
    (by decide +kernel)).2 sampleLegacy sampleLegacy_wellFormed (by decide) rfl).1.mpr
      (by decide +kernel)

/-- A v0 transaction with a single lookup that loads nothing. Its lookup list is
34 bytes long. -/
def emptyLookup : PacketTransaction :=
  { sampleLegacy with
    messageVersion := .v0
    lookups := [⟨FixedBytes.pad 32 [], [], []⟩] }

/-- Without the room condition the verdict fails: a lookup that loads nothing is
well formed and makes the transaction insane, but as the last lookup of the
message it is refused with `Parse`. -/
theorem emptyLookup_verdict :
    emptyLookup.serialize.head? ≠ some 0x81 ∧ emptyLookup.serialize.head? = some 1 ∧
    emptyLookup.serialize.length ≤ 1232 ∧
    ¬ (tryNew emptyLookup.serialize = .error .parse ↔
      ¬ ∃ tx : PacketTransaction, tx.WellFormed ∧ tx.serialize = emptyLookup.serialize) := by
  refine ⟨by decide, by decide, by decide +kernel, ?_⟩
  have hParse : tryNew emptyLookup.serialize = .error .parse := by decide +kernel
  have hValid : emptyLookup.WellFormed := by constructor <;> decide
  rw [hParse]
  simp only [true_iff, not_not]
  exact ⟨emptyLookup, hValid, rfl⟩

/-- **v1.** Every byte string that starts with the v1 prefix gets the verdict of
the reference format: `Sanitize` beyond 4096 bytes, else `Parse` exactly for the
strings that are no serialization of a well-formed transaction, and for those
that are, acceptance exactly when the sanitize rules hold. -/
theorem tryNew_v1_verdict (bytes : Bytes) (hFirst : bytes.head? = some 0x81) :
    (4096 < bytes.length → tryNew bytes = .error .sanitize) ∧
    (bytes.length ≤ 4096 →
      (tryNew bytes = .error .parse ↔
        ¬ ∃ tx : V1Transaction, tx.WellFormed ∧ tx.serialize = bytes) ∧
      ∀ tx : V1Transaction, tx.WellFormed → tx.serialize = bytes →
        ((∃ view, tryNew bytes = .ok view) ↔ tx.Sanitary) ∧
        (tryNew bytes = .error .sanitize ↔ ¬ tx.Sanitary)) := by
  have hV1 : bytes.head? = some v1Prefix := hFirst
  refine ⟨fun hLong => ?_, fun hShort => ⟨?_, ?_⟩⟩
  · rw [tryNew_of_v1Prefix hV1, tryNewV1_long hLong]
  · rw [tryNew_of_v1Prefix hV1]
    rcases tryNewV1_cases hShort hV1 with ⟨hNone, hNew⟩ | ⟨tx, hDec, hNew⟩
    · rw [hNew]
      refine iff_of_true rfl ?_
      rintro ⟨tx, hValid⟩
      exact hNone tx ((v1Format_decode_iff tx).mpr hValid)
    · rw [hNew]
      exact iff_of_false (by split <;> simp)
        (not_not.mpr ⟨tx, (v1Format_decode_iff tx).mp hDec⟩)
  · rintro tx hValid rfl
    rw [tryNew_of_v1 hValid hShort]
    by_cases hSanitary : tx.Sanitary <;> simp [hSanitary]

/-- A v1 message with a priority fee and a requested heap. -/
def sampleV1 : V1Transaction where
  numRequiredSignatures := 1
  numReadonlySigned := 0
  numReadonlyUnsigned := 1
  configMask := 0b10011
  recentBlockhash := FixedBytes.pad 32 []
  accountKeys := [FixedBytes.pad 32 [1], FixedBytes.pad 32 [2]]
  priorityFee := some 5000
  computeUnitLimit := none
  loadedAccountsDataSize := none
  heapSize := some 65536
  instructions := [⟨1, [0], [2, 3]⟩]
  signatures := [FixedBytes.pad 64 []]

/-- The sample can be written. -/
theorem sampleV1_wellFormed : sampleV1.WellFormed := by
  constructor <;> decide

/-- The sample is accepted, as the verdict says. -/
theorem tryNew_v1_verdict_sample : ∃ view, tryNew sampleV1.serialize = .ok view :=
  (((tryNew_v1_verdict sampleV1.serialize (by decide)).2 (by decide +kernel)).2 sampleV1
    sampleV1_wellFormed rfl).1.mpr (by decide +kernel)

end TxStream
