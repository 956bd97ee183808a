import TxStream.Protocol.Verdict

/-!
# `wire.rs` — the version of a transaction

`classify` looks at two bytes of a transaction to tell its version, and
`validate_raw_size` at its length. Both answer before anything is parsed, with
constants of their own.

Main results:

* `classify_eq_ok` — which strings have a version, and which.
* `Accepted.announced` — `try_new` accepts only strings that announce the version
  of the view.
* `classify_agrees` — the two readers never contradict each other.
-/

namespace TxStream

open Wire Rust

namespace WireContract

/-! `wire.rs` has constants of its own, apart from those of the parser. -/

def messageVersionPrefix : UInt8 := 0x80
def v1Prefix : UInt8 := messageVersionPrefix ||| 1
def signatureBytes : Nat := 64
def maxSignatures : UInt8 := 12

end WireContract

/-- Why a string has no version. -/
inductive WireClassificationError where
  | empty
  | invalidSignatureCount
  | truncatedSignatures
  | missingMessagePrefix
  | unsupportedVersion (version : UInt8)
deriving DecidableEq, Repr

/-- A length beyond the limit of its version, with both numbers. -/
structure WireSizeError where
  version : TransactionWireVersion
  actual : Nat
  maximum : Nat
deriving DecidableEq, Repr

/-- `classify`: the version from the first byte, or from the one behind the signatures.
Nothing else is looked at, so the rest of the string may still be missing. -/
def classify (bytes : Bytes) : Except WireClassificationError TransactionWireVersion := do
  let first ← okOr .empty bytes.head?
  if first = WireContract.v1Prefix then return .v1 else
  if first &&& WireContract.messageVersionPrefix ≠ 0 then
    throw (.unsupportedVersion (first &&& ~~~WireContract.messageVersionPrefix))
  else
  if first = 0 ∨ first > WireContract.maxSignatures then throw .invalidSignatureCount else
  -- the offset of the message, which need not be there yet
  let messageOffset ←
    okOr .truncatedSignatures (checkedAdd 1 (first.toNat * WireContract.signatureBytes))
  if bytes.length < messageOffset then throw .truncatedSignatures else
  let messagePrefix ← okOr .missingMessagePrefix bytes[messageOffset]?
  if messagePrefix &&& WireContract.messageVersionPrefix = 0 then return .legacy
  else if messagePrefix = WireContract.messageVersionPrefix then return .v0
  else throw (.unsupportedVersion (messagePrefix &&& ~~~WireContract.messageVersionPrefix))

/-- `validate_raw_size`. -/
def validateRawSize (version : TransactionWireVersion) (actual : Nat) :
    Except WireSizeError Unit :=
  let maximum := rawLimit version
  if actual ≤ maximum then .ok () else .error { version, actual, maximum }

/-- The wire version of a message. -/
def MessageVersion.wireVersion : MessageVersion → TransactionWireVersion
  | .legacy => .legacy
  | .v0 => .v0
  | .v1 => .v1

-- ---------------------------------------------------------------------------
-- The two bytes
-- ---------------------------------------------------------------------------

/-- The string starts with a count of signatures that a packet can have, and the
byte behind the signatures is the given one. -/
structure PacketPrefix (bytes : Bytes) (count messagePrefix : UInt8) : Prop where
  head : bytes.head? = some count
  one_le : 1 ≤ count.toNat
  le_twelve : count.toNat ≤ 12
  message : bytes[1 + count.toNat * 64]? = some messagePrefix

/-- The version that the first byte of a string, or the one behind its signatures,
stands for. -/
inductive Announced (bytes : Bytes) : TransactionWireVersion → Prop
  | legacy (count messagePrefix : UInt8) : PacketPrefix bytes count messagePrefix →
      messagePrefix.toNat < 0x80 → Announced bytes .legacy
  | v0 (count : UInt8) : PacketPrefix bytes count 0x80 → Announced bytes .v0
  | v1 : bytes.head? = some 0x81 → Announced bytes .v1

/-- More bytes do not move the ones already there. -/
theorem PacketPrefix.append {bytes : Bytes} {count messagePrefix : UInt8}
    (h : PacketPrefix bytes count messagePrefix) (suffix : Bytes) :
    PacketPrefix (bytes ++ suffix) count messagePrefix where
  head := by
    rw [List.head?_append, h.head]
    rfl
  one_le := h.one_le
  le_twelve := h.le_twelve
  message := by
    obtain ⟨hInside, -⟩ := List.getElem?_eq_some_iff.mp h.message
    rw [List.getElem?_append_left hInside]
    exact h.message

/-- What was announced stays announced. -/
theorem Announced.append {bytes : Bytes} {version : TransactionWireVersion}
    (h : Announced bytes version) (suffix : Bytes) : Announced (bytes ++ suffix) version := by
  cases h with
  | legacy count messagePrefix hPrefix hLow =>
    exact .legacy count messagePrefix (hPrefix.append suffix) hLow
  | v0 count hPrefix => exact .v0 count (hPrefix.append suffix)
  | v1 hHead =>
    refine .v1 ?_
    rw [List.head?_append, hHead]
    rfl

/-- The bounds of the signature count, as `classify` tests them: on bytes there and on
numbers in the reference. -/
theorem count_iff (count : UInt8) : ¬ (count = 0 ∨ count > WireContract.maxSignatures) ↔
    1 ≤ count.toNat ∧ count.toNat ≤ 12 := by
  have hZero : count = 0 ↔ count.toNat = 0 := UInt8.toNat_inj.symm
  have hMany : count > WireContract.maxSignatures ↔ 12 < count.toNat := UInt8.lt_iff_toNat_lt
  rw [hZero, hMany]
  omega

/-- Behind a count `classify` looks at one byte more. A valid count is neither the v1
prefix nor has it the high bit, so the first two tests do not apply. -/
theorem classify_of_packet {bytes : Bytes} {count messagePrefix : UInt8}
    (h : PacketPrefix bytes count messagePrefix) :
    classify bytes =
      if messagePrefix &&& WireContract.messageVersionPrefix = 0 then .ok .legacy
      else if messagePrefix = WireContract.messageVersionPrefix then .ok .v0
      else .error (.unsupportedVersion (messagePrefix &&& ~~~WireContract.messageVersionPrefix)) := by
  have hTwelve := h.le_twelve
  -- a count of signatures is none of the other first bytes
  have hV1 : count ≠ WireContract.v1Prefix := by
    rintro rfl
    exact absurd hTwelve (by decide)
  have hBit : count &&& WireContract.messageVersionPrefix = 0 :=
    (and_0x80_eq_zero count).mpr (by omega)
  have hCount := (count_iff count).mpr ⟨h.one_le, hTwelve⟩
  obtain ⟨hInside, -⟩ := List.getElem?_eq_some_iff.mp h.message
  have hOffset : checkedAdd 1 (count.toNat * WireContract.signatureBytes) =
      some (1 + count.toNat * 64) := by
    refine checkedAdd_of_lt ?_
    show 1 + count.toNat * 64 < 2 ^ 64
    omega
  rw [classify, h.head, okOr_some, ok_bind, if_neg hV1, if_neg (not_not.mpr hBit), if_neg hCount,
    hOffset, okOr_some, ok_bind, if_neg (by omega), h.message, okOr_some, ok_bind]
  rfl

/-- **Which strings have a version, and which.** `classify` answers exactly when the
string announces a version, with the version announced. -/
theorem classify_eq_ok {bytes : Bytes} {version : TransactionWireVersion} :
    classify bytes = .ok version ↔ Announced bytes version := by
  constructor
  · intro h
    obtain ⟨first, hFirst, h⟩ := bind_eq_ok h
    have hHead := okOr_eq_ok hFirst
    by_cases hV1 : first = WireContract.v1Prefix
    · rw [if_pos hV1] at h
      obtain rfl := Except.ok.inj h
      rw [hV1] at hHead
      exact .v1 hHead
    rw [if_neg hV1] at h
    -- not v1: the checks that were passed are the fields of `PacketPrefix`
    obtain ⟨-, h⟩ := guard_eq_ok h
    obtain ⟨hCount, h⟩ := guard_eq_ok h
    obtain ⟨messageOffset, hOffset, h⟩ := bind_eq_ok h
    obtain rfl := checkedAdd_eq_some (okOr_eq_ok hOffset)
    obtain ⟨-, h⟩ := guard_eq_ok h
    obtain ⟨messagePrefix, hMessage, h⟩ := bind_eq_ok h
    obtain ⟨hOne, hTwelve⟩ := (count_iff first).mp hCount
    have hPrefix : PacketPrefix bytes first messagePrefix :=
      ⟨hHead, hOne, hTwelve, okOr_eq_ok hMessage⟩
    split at h
    · rename_i hLow
      obtain rfl := Except.ok.inj h
      exact .legacy first messagePrefix hPrefix ((and_0x80_eq_zero messagePrefix).mp hLow)
    · split at h
      · rename_i hV0
        obtain rfl := Except.ok.inj h
        subst hV0
        exact .v0 first hPrefix
      · cases h
  · rintro (⟨count, messagePrefix, hPrefix, hLow⟩ | ⟨count, hPrefix⟩ | hHead)
    · have hBit : messagePrefix &&& WireContract.messageVersionPrefix = 0 :=
        (and_0x80_eq_zero messagePrefix).mpr hLow
      rw [classify_of_packet hPrefix, if_pos hBit]
    · rw [classify_of_packet hPrefix]
      rfl
    · rw [classify, hHead]
      rfl

-- ---------------------------------------------------------------------------
-- What `try_new` accepts
-- ---------------------------------------------------------------------------

/-- The byte behind the signatures of a serialized transaction. -/
theorem PacketTransaction.packetPrefix_serialize {tx : PacketTransaction} (h : tx.WellFormed) :
    PacketPrefix tx.serialize (UInt8.ofNat tx.signatures.length)
      (if tx.messageVersion = .v0 then 0x80 else tx.numRequiredSignatures) := by
  have hOne := h.one_le_signatures
  have hTwelve := h.signatures_le
  have hCount : (UInt8.ofNat tx.signatures.length).toNat = tx.signatures.length := by
    rw [UInt8.toNat_ofNat']
    omega
  refine ⟨head?_serialize tx, by omega, by omega, ?_⟩
  -- cut the serialization behind the signatures
  obtain ⟨rest, hSerialize⟩ : ∃ rest, tx.serialize =
      (UInt8.ofNat tx.signatures.length :: tx.signatures.flatMap FixedBytes.toList) ++
        (tx.versionPrefix ++ tx.numRequiredSignatures :: rest) := by
    unfold PacketTransaction.serialize
    simp only [List.append_assoc, List.cons_append, List.nil_append]
    exact ⟨_, rfl⟩
  have hFront : (UInt8.ofNat tx.signatures.length ::
      tx.signatures.flatMap FixedBytes.toList).length = 1 + tx.signatures.length * 64 := by
    rw [List.length_cons, length_flatMap_toList, Nat.add_comm]
  rw [hCount, hSerialize, ← hFront, List.getElem?_append_right (Nat.le_refl _), Nat.sub_self]
  unfold PacketTransaction.versionPrefix
  split
  · rfl
  · rfl

/-- What `try_new` accepts announces the version of its view: the parser and the
classifier read the same two bytes. -/
theorem Accepted.announced {bytes : Bytes} {view : SanitizedTransactionView}
    (h : Accepted bytes view) : Announced bytes view.messageVersion.wireVersion := by
  rcases h with ⟨tx, hValid, hRoom, hSanitary, rfl, hShort⟩ | ⟨tx, hValid, hSanitary, rfl, hShort⟩
  · have hPrefix := tx.packetPrefix_serialize hValid
    show Announced tx.serialize tx.messageVersion.wireVersion
    cases hVersion : tx.messageVersion with
    | legacy =>
      rw [hVersion] at hPrefix
      exact .legacy _ _ hPrefix (hValid.required_lt hVersion)
    | v0 =>
      rw [hVersion] at hPrefix
      exact .v0 _ hPrefix
    | v1 => exact absurd hVersion hValid.version_ne
  · exact .v1 (head?_serialize_v1 tx)

/-- Legacy and v0 transactions have the same raw limit. -/
theorem PacketTransaction.rawLimit_eq {tx : PacketTransaction} (h : tx.WellFormed) :
    rawLimit tx.view.messageVersion.wireVersion = 1232 := by
  have hVersion := h.version_ne
  show rawLimit tx.messageVersion.wireVersion = 1232
  cases hCase : tx.messageVersion with
  | legacy => rfl
  | v0 => rfl
  | v1 => exact absurd hCase hVersion

/-- An accepted string has a length of its version. -/
theorem Accepted.length_le {bytes : Bytes} {view : SanitizedTransactionView}
    (h : Accepted bytes view) : bytes.length ≤ rawLimit view.messageVersion.wireVersion := by
  rcases h with ⟨tx, hValid, hRoom, hSanitary, rfl, hShort⟩ | ⟨tx, hValid, hSanitary, rfl, hShort⟩
  · rw [tx.rawLimit_eq hValid]
    exact hShort
  · exact hShort

/-- A string that is too long for the version it announces is refused before it is
parsed. -/
theorem tryNew_oversize {bytes : Bytes} {version : TransactionWireVersion}
    (h : Announced bytes version) (hLong : rawLimit version < bytes.length) :
    tryNew bytes = .error .sanitize := by
  -- legacy and v0 strings start with a count and share their limit
  have hPacket : ∀ count messagePrefix, PacketPrefix bytes count messagePrefix →
      1232 < bytes.length → tryNew bytes = .error .sanitize := by
    intro count messagePrefix hPrefix hLong
    have hTwelve := hPrefix.le_twelve
    rw [tryNew_of_lowBit hPrefix.head (by omega), if_pos hLong]
  cases h with
  | legacy count messagePrefix hPrefix _ => exact hPacket _ _ hPrefix hLong
  | v0 count hPrefix => exact hPacket _ _ hPrefix hLong
  | v1 hHead => rw [tryNew_of_v1Prefix hHead, tryNewV1_long hLong]

/-- **The classifier agrees with the parser**, whatever the bytes are:

* what `try_new` accepts has the version of the view, and a length of that version;
* what has no version is refused by `try_new`;
* what is too long for its version is refused with `Sanitize`;
* and bytes that are received later do not change the version. -/
theorem classify_agrees (bytes : Bytes) :
    (∀ view, tryNew bytes = .ok view →
      classify bytes = .ok view.messageVersion.wireVersion ∧
        validateRawSize view.messageVersion.wireVersion bytes.length = .ok ()) ∧
    (∀ e, classify bytes = .error e → ∃ e', tryNew bytes = .error e') ∧
    (∀ version e, classify bytes = .ok version →
      validateRawSize version bytes.length = .error e → tryNew bytes = .error .sanitize) ∧
    (∀ version suffix, classify bytes = .ok version →
      classify (bytes ++ suffix) = .ok version) := by
  have hAccepts : ∀ view, tryNew bytes = .ok view →
      classify bytes = .ok view.messageVersion.wireVersion := fun view hView =>
    classify_eq_ok.mpr (tryNew_eq_ok.mp hView).announced
  refine ⟨?_, ?_, ?_, ?_⟩
  · intro view hView
    exact ⟨hAccepts view hView, if_pos (tryNew_eq_ok.mp hView).length_le⟩
  · intro e hNone
    cases hNew : tryNew bytes with
    | error e' => exact ⟨e', rfl⟩
    | ok view =>
      rw [hAccepts view hNew] at hNone
      cases hNone
  · intro version e hVersion hSize
    refine tryNew_oversize (classify_eq_ok.mp hVersion) (not_le.mp fun hShort => ?_)
    rw [validateRawSize, if_pos hShort] at hSize
    cases hSize
  · intro version suffix hVersion
    exact classify_eq_ok.mpr ((classify_eq_ok.mp hVersion).append suffix)

end TxStream
