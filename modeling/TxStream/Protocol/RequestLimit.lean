import TxStream.Protocol.Transaction
import TxStream.Wire.TextEncoding

/-!
# `wire.rs` — the size of a request

The limits of an encoded transaction are literals in the source. They are what
the encodings make of the raw limits: no transaction of a version takes up more,
and the transaction made of the largest bytes takes up as much.

Main results:

* `encodedSize_le`, `encodedSize_largest` — the limit of an encoding is sound
  and tight.
* `requestLimit_eq_ok` — when there is a limit of a request.
* `request_limits` — and that it is sound and tight as well.
-/

namespace TxStream

open Wire Rust

/-- The formats a transaction is sent in. -/
inductive EncodedTransactionFormat where
  | raw
  | base64
  | base58
deriving DecidableEq, Repr

/-- Why a request has no limit. -/
inductive RequestLimitError where
  | emptyBundle
  | overflow
deriving DecidableEq, Repr

/-- `encoded_limit`: six literals, one for each raw limit and format. Legacy and v0
share their raw limit and so their literals. -/
def encodedLimit (version : TransactionWireVersion) (format : EncodedTransactionFormat) : Nat :=
  match version, format with
  | .legacy, .raw | .v0, .raw => 1232
  | .legacy, .base64 | .v0, .base64 => 1644
  | .legacy, .base58 | .v0, .base58 => 1683
  | .v1, .raw => 4096
  | .v1, .base64 => 5464
  | .v1, .base58 => 5594

/-- `request_limit`: the limit of a bundle of `bundleCount` transactions in one request,
with checked arithmetic in `usize`. -/
def requestLimit (version : TransactionWireVersion) (format : EncodedTransactionFormat)
    (bundleCount fixedOverhead : Nat) : Except RequestLimitError Nat := do
  if bundleCount = 0 then throw .emptyBundle else
  let payloadBytes ← okOr .overflow (checkedMul (encodedLimit version format) bundleCount)
  let requestBytes ← okOr .overflow (checkedAdd payloadBytes fixedOverhead)
  return requestBytes

/-- The bytes that a transaction takes up in a request. -/
def EncodedTransactionFormat.encodedSize (format : EncodedTransactionFormat) (bytes : Bytes) :
    Nat :=
  match format with
  | .raw => bytes.length
  | .base64 => (base64Encode bytes).utf8ByteSize
  | .base58 => (base58Encode bytes).utf8ByteSize

-- ---------------------------------------------------------------------------
-- One transaction
-- ---------------------------------------------------------------------------

section Encoded

variable {version : TransactionWireVersion} {format : EncodedTransactionFormat}

/-- The literal for base 58 is the first power that covers the raw bytes: with one digit
less the largest raw transaction would not fit. -/
theorem base58_covers (version : TransactionWireVersion) :
    256 ^ rawLimit version ≤ 58 ^ encodedLimit version .base58 ∧
      58 ^ (encodedLimit version .base58 - 1) < 256 ^ rawLimit version := by
  cases version <;> decide +kernel

/-- The literal for base 64 is the number of digits and padding. -/
theorem base64_covers (version : TransactionWireVersion) :
    4 * ((rawLimit version + 2) / 3) = encodedLimit version .base64 := by
  cases version <;> decide

/-- A raw transaction is as long as it is. -/
theorem raw_covers (version : TransactionWireVersion) :
    rawLimit version = encodedLimit version .raw := by
  cases version <;> rfl

/-- **No transaction takes up more** than the limit of its version. -/
theorem encodedSize_le {bytes : Bytes} (h : bytes.length ≤ rawLimit version) :
    format.encodedSize bytes ≤ encodedLimit version format := by
  cases format with
  | raw =>
    rw [← raw_covers]
    exact h
  | base64 =>
    show (base64Encode bytes).utf8ByteSize ≤ _
    rw [size_base64Encode, ← base64_covers]
    omega
  | base58 => exact size_base58Encode_le h (base58_covers version).1

/-- The largest transaction of a version, as a number: all of its bytes are `255`. It
need not parse, since the limits are about lengths. -/
def largest (version : TransactionWireVersion) : Bytes :=
  List.replicate (rawLimit version) 255

/-- It is as long as the raw limit allows. -/
theorem length_largest (version : TransactionWireVersion) :
    (largest version).length = rawLimit version :=
  List.length_replicate

/-- **The largest transaction takes up as much** as the limit says. -/
theorem encodedSize_largest (version : TransactionWireVersion)
    (format : EncodedTransactionFormat) :
    format.encodedSize (largest version) = encodedLimit version format := by
  have hLength := length_largest version
  cases format with
  | raw =>
    rw [← raw_covers]
    exact hLength
  | base64 =>
    show (base64Encode (largest version)).utf8ByteSize = _
    rw [size_base64Encode, ← base64_covers, hLength]
  | base58 =>
    have hMost : EncodedTransactionFormat.base58.encodedSize (largest version) ≤
        encodedLimit version .base58 := encodedSize_le hLength.le
    -- one digit less is not enough, and the limit is enough
    have hLeast := lt_size_base58Encode (base58_covers version).2
    exact le_antisymm hMost (Nat.le_of_pred_lt hLeast)

end Encoded

-- ---------------------------------------------------------------------------
-- A request
-- ---------------------------------------------------------------------------

section Request

variable {version : TransactionWireVersion} {format : EncodedTransactionFormat} {k overhead : Nat}

/-- A bundle has a limit if the limit is a `usize`: the two checks together ask for no
more, since a product that overflows makes a sum that does. -/
theorem requestLimit_eq : requestLimit version format k overhead =
    if k = 0 then .error .emptyBundle
    else if k * encodedLimit version format + overhead < usizeSize then
      .ok (k * encodedLimit version format + overhead)
    else .error .overflow := by
  rw [requestLimit, Nat.mul_comm k]
  refine if_congr Iff.rfl rfl ?_
  by_cases hFits : encodedLimit version format * k + overhead < usizeSize
  · rw [if_pos hFits, checkedMul_of_lt (by omega), okOr_some, ok_bind, checkedAdd_of_lt hFits,
      okOr_some]
  · -- the product overflows already, or only the sum does
    rw [if_neg hFits]
    unfold checkedMul checkedAdd
    split
    · rw [okOr_some, ok_bind, if_neg hFits]
      rfl
    · rfl

/-- When there is a limit, and what it is. -/
theorem requestLimit_eq_ok {limit : Nat} : requestLimit version format k overhead = .ok limit ↔
    k ≠ 0 ∧ k * encodedLimit version format + overhead < usizeSize ∧
      limit = k * encodedLimit version format + overhead := by
  rw [requestLimit_eq]
  split_ifs with hk hFits
  · simp [hk]
  · simp [hk, hFits, eq_comm]
  · simp [hk, hFits]

/-- When the limit is no `usize`. -/
theorem requestLimit_eq_overflow : requestLimit version format k overhead = .error .overflow ↔
    k ≠ 0 ∧ usizeSize ≤ k * encodedLimit version format + overhead := by
  rw [requestLimit_eq, ← not_lt]
  split_ifs with hk hFits
  · simp [hk]
  · simp [hk, hFits]
  · simp [hk, hFits]

/-- An empty bundle is refused before anything is computed. -/
theorem requestLimit_eq_emptyBundle :
    requestLimit version format k overhead = .error .emptyBundle ↔ k = 0 := by
  rw [requestLimit_eq]
  split_ifs with hk hFits
  · simp [hk]
  · simp [hk]
  · simp [hk]

/-- The sizes of a bundle add up to at most as many limits. -/
theorem sum_encodedSize_le {bundle : List Bytes}
    (h : ∀ bytes ∈ bundle, bytes.length ≤ rawLimit version) :
    (bundle.map format.encodedSize).sum ≤ bundle.length * encodedLimit version format := by
  have hSum := List.sum_le_card_nsmul (bundle.map format.encodedSize)
    (encodedLimit version format) (by
      intro size hSize
      obtain ⟨bytes, hBytes, rfl⟩ := List.mem_map.mp hSize
      exact encodedSize_le (h bytes hBytes))
  rw [List.length_map] at hSum
  exact hSum

/-- And a bundle of the largest transaction takes up exactly as many. -/
theorem sum_encodedSize_largest (k : Nat) :
    ((List.replicate k (largest version)).map format.encodedSize).sum =
      k * encodedLimit version format := by
  rw [List.map_replicate, encodedSize_largest, List.sum_replicate]
  rfl

end Request

/-- **The limits are sound and tight.** For each version and format:

* no byte string within the raw limit has a longer encoding than the limit says,
  and one of them has an encoding of that length;
* a request has a limit unless its bundle is empty or the sum is no `usize`, and
  the errors tell the two apart;
* and no bundle takes up more than that limit, and one takes up as much. -/
theorem request_limits (version : TransactionWireVersion) (format : EncodedTransactionFormat) :
    (∀ bytes : Bytes, bytes.length ≤ rawLimit version →
      format.encodedSize bytes ≤ encodedLimit version format) ∧
    (∃ bytes : Bytes, bytes.length ≤ rawLimit version ∧
      format.encodedSize bytes = encodedLimit version format) ∧
    ∀ k overhead : Nat,
      (requestLimit version format k overhead = .error .emptyBundle ↔ k = 0) ∧
      (requestLimit version format k overhead = .error .overflow ↔
        k ≠ 0 ∧ usizeSize ≤ k * encodedLimit version format + overhead) ∧
      (∀ limit, requestLimit version format k overhead = .ok limit ↔
        k ≠ 0 ∧ k * encodedLimit version format + overhead < usizeSize ∧
          limit = k * encodedLimit version format + overhead) ∧
      ∀ limit, requestLimit version format k overhead = .ok limit →
        (∀ bundle : List Bytes, bundle.length = k →
          (∀ bytes ∈ bundle, bytes.length ≤ rawLimit version) →
          (bundle.map format.encodedSize).sum + overhead ≤ limit) ∧
        ∃ bundle : List Bytes, bundle.length = k ∧
          (∀ bytes ∈ bundle, bytes.length ≤ rawLimit version) ∧
          (bundle.map format.encodedSize).sum + overhead = limit := by
  refine ⟨fun _ h => encodedSize_le h,
    ⟨largest version, (length_largest version).le, encodedSize_largest version format⟩, ?_⟩
  intro k overhead
  have hOk : ∀ limit, requestLimit version format k overhead = .ok limit ↔
      k ≠ 0 ∧ k * encodedLimit version format + overhead < usizeSize ∧
        limit = k * encodedLimit version format + overhead := fun _ => requestLimit_eq_ok
  refine ⟨requestLimit_eq_emptyBundle, requestLimit_eq_overflow, hOk, ?_⟩
  intro limit hLimit
  obtain ⟨-, -, rfl⟩ := (hOk limit).mp hLimit
  constructor
  · -- sound: every transaction of the bundle stays below the limit of its format
    rintro bundle rfl hBundle
    exact Nat.add_le_add_right (sum_encodedSize_le hBundle) overhead
  · -- tight: a bundle of nothing but the largest transaction reaches it
    refine ⟨List.replicate k (largest version), List.length_replicate, ?_, ?_⟩
    · intro bytes hBytes
      rw [List.eq_of_mem_replicate hBytes]
      exact (length_largest version).le
    · rw [sum_encodedSize_largest]

end TxStream
