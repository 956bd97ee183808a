import TxStream.Wire.Format

/-!
# Protobuf fields

The part of the protobuf wire format that carries numbers and byte strings:
base-128 varints, fields of wire type 0, and fields of wire type 2, which are a
tag, a varint length and the bytes.

Main results:

* `length_varint_le` — a number below `128 ^ n` takes at most `n` bytes.
* `length_lengthDelimited_le` — what a field adds to its bytes.
* `length_repeatedField_le` — and each element of a repeated field.
-/

namespace Wire

/-- A base-128 varint: seven bits a byte, the low ones first, and the high bit on
every byte but the last. -/
def varint (n : Nat) : Bytes :=
  if n < 128 then [UInt8.ofNat n] else UInt8.ofNat (n % 128 + 128) :: varint (n / 128)

/-- A field of wire type 2. -/
def lengthDelimited (field : Nat) (payload : Bytes) : Bytes :=
  varint (8 * field + 2) ++ varint payload.length ++ payload

/-- A field of wire type 0, which is left out when it holds its default. -/
def varintField (field value : Nat) : Bytes :=
  if value = 0 then [] else varint (8 * field) ++ varint value

/-- A byte string field, which is left out when it is empty. -/
def bytesField (field : Nat) (payload : Bytes) : Bytes :=
  if payload.isEmpty then [] else lengthDelimited field payload

/-- A field of wire type 0 with explicit presence: it is written whenever it is
there. -/
def optionalField (field : Nat) (value : Option Nat) : Bytes :=
  value.elim [] fun value => varint (8 * field) ++ varint value

/-- A repeated field of wire type 2, one field for each element. -/
def repeatedField (field : Nat) (payloads : List Bytes) : Bytes :=
  payloads.flatMap (lengthDelimited field)

/-- A number below `128 ^ (n + 1)` takes at most `n + 1` bytes. -/
theorem length_varint_le (n : Nat) {value : Nat} (h : value < 128 ^ (n + 1)) :
    (varint value).length ≤ n + 1 := by
  induction n generalizing value with
  | zero =>
    have hSmall : value < 128 := by simpa using h
    unfold varint
    rw [if_pos hSmall]
    exact Nat.le_refl 1
  | succ n ih =>
    unfold varint
    split
    · exact Nat.le_add_left ..
    · have hQuotient : value / 128 < 128 ^ (n + 1) :=
        Nat.div_lt_of_lt_mul (by rwa [Nat.pow_succ, Nat.mul_comm] at h)
      rw [List.length_cons]
      exact Nat.succ_le_succ (ih hQuotient)

/-- A field with a one-byte tag adds at most three bytes to a payload of less
than 16384 bytes. -/
theorem length_lengthDelimited_le {field : Nat} {payload : Bytes} (hField : field < 15)
    (hPayload : payload.length < 16384) :
    (lengthDelimited field payload).length ≤ payload.length + 3 := by
  have hTag := length_varint_le 0 (show 8 * field + 2 < 128 ^ 1 by omega)
  have hLength := length_varint_le 1 (show payload.length < 128 ^ 2 by omega)
  unfold lengthDelimited
  rw [List.length_append, List.length_append]
  omega

/-- Elements of at most `n` bytes take up at most `n + 3` bytes each. -/
theorem length_repeatedField_le {field n : Nat} {payloads : List Bytes} (hField : field < 15)
    (hShort : n < 16384) (h : ∀ payload ∈ payloads, payload.length ≤ n) :
    (repeatedField field payloads).length ≤ payloads.length * (n + 3) := by
  unfold repeatedField
  induction payloads with
  | nil => exact Nat.zero_le _
  | cons payload payloads ih =>
    obtain ⟨hPayload, hRest⟩ := List.forall_mem_cons.mp h
    have hHead := length_lengthDelimited_le hField (Nat.lt_of_le_of_lt hPayload hShort)
    have hTail := ih hRest
    rw [List.flatMap_cons, List.length_append, List.length_cons, Nat.succ_mul]
    omega

/-- A flag takes up two bytes. -/
theorem length_optionalField_le {field : Nat} {value : Option Nat} (hField : field < 15)
    (h : ∀ v ∈ value, v < 128) : (optionalField field value).length ≤ 2 := by
  cases value with
  | none => exact Nat.zero_le _
  | some v =>
    have hTag := length_varint_le 0 (show 8 * field < 128 ^ 1 by omega)
    have hValue := length_varint_le 0 (show v < 128 ^ 1 from h v rfl)
    show (varint (8 * field) ++ varint v).length ≤ 2
    rw [List.length_append]
    omega

end Wire
