import Mathlib.Data.List.Basic
import Mathlib.Data.List.Forall2
import Mathlib.Algebra.Order.BigOperators.Group.List
import Mathlib.Algebra.Order.Group.Nat

/-!
# Wire formats

A *wire format* for `α` is an encoder together with a decoder that reads a
value off the front of a byte string, related by two laws:

* `decode_encode` — the decoder reads back what the encoder wrote, whatever
  bytes follow, and consumes exactly those bytes;
* `encode_decode` — whatever the decoder reads is a value the format can
  carry, and the bytes it consumed are the encoding of that value.

From the two laws a format is prefix free (`encode_prefix_free`): a byte
string starts with at most one encoding. The combinators below build formats
out of formats, so a nested format gets both laws from its shape.

Main results:

* `Format.decode_eq_some_iff` — decoding is exactly "starts with an encoding".
* `Format.encode_prefix_free` — two encodings that overlap are equal.
* `Format.byte`, `Format.raw`, `Format.const`, `Format.filter`, `Format.seq`,
  `Format.iso`, `Format.repeated`, `Format.counted`, `Format.each` — the
  combinators.
-/

namespace Wire

/-- Byte strings. -/
abbrev Bytes := List UInt8

/-- A byte string of exactly `n` bytes. The length is part of the value, so a signature
or a key of another length cannot be written down. -/
structure FixedBytes (n : Nat) where
  toList : Bytes
  length_toList : toList.length = n
deriving DecidableEq

attribute [simp] FixedBytes.length_toList

@[ext] theorem FixedBytes.ext {n : Nat} {x y : FixedBytes n}
    (h : x.toList = y.toList) : x = y := by
  cases x
  cases y
  simpa using h

namespace FixedBytes

variable {n : Nat}

/-- The byte string itself, when it has `n` bytes. -/
def ofList? (n : Nat) (bs : Bytes) : Option (FixedBytes n) :=
  if h : bs.length = n then some ⟨bs, h⟩ else none

/-- The bytes of a fixed string are that string. -/
@[simp] theorem ofList?_toList (x : FixedBytes n) : ofList? n x.toList = some x := by
  simp [ofList?]

/-- The zero bytes that stand for a chunk past the end of a string. -/
def pad (n : Nat) (bs : Bytes) : FixedBytes n :=
  ⟨(bs.take n).rightpad n 0, by
    simp only [List.rightpad, List.length_append, List.length_replicate, List.length_take]
    omega⟩

/-- Cutting the first chunk off a string that starts with it gives the chunk. -/
theorem pad_append (x : FixedBytes n) (rest : Bytes) : pad n (x.toList ++ rest) = x := by
  ext1
  have hTake : (x.toList ++ rest).take n = x.toList := List.take_left' x.length_toList
  simp [pad, hTake]

end FixedBytes

/-- A byte string cut into `count` chunks of `n` bytes. -/
def chunks (n : Nat) : Nat → Bytes → List (FixedBytes n)
  | 0, _ => []
  | count + 1, bs => FixedBytes.pad n bs :: chunks n count (bs.drop n)

/-- As many chunks as asked for, short strings included. -/
@[simp] theorem length_chunks (n count : Nat) (bs : Bytes) :
    (chunks n count bs).length = count := by
  induction count generalizing bs with
  | zero => rfl
  | succ count ih => simp [chunks, ih]

/-- Cutting a concatenation of chunks gives the chunks back. -/
theorem chunks_flatMap {n : Nat} (xs : List (FixedBytes n)) :
    chunks n xs.length (xs.flatMap FixedBytes.toList) = xs := by
  induction xs with
  | nil => rfl
  | cons x xs ih =>
    have hDrop : (x.toList ++ xs.flatMap FixedBytes.toList).drop n =
        xs.flatMap FixedBytes.toList := List.drop_left' x.length_toList
    rw [List.length_cons, List.flatMap_cons, chunks, FixedBytes.pad_append, hDrop, ih]

/-- A list of chunks takes `n` bytes for each. -/
theorem length_flatMap_toList {n : Nat} (xs : List (FixedBytes n)) :
    (xs.flatMap FixedBytes.toList).length = xs.length * n := by
  rw [List.length_flatMap]
  simp

/-- The chunks of a string of the right length join to the string. -/
theorem flatMap_chunks {n count : Nat} {bs : Bytes} (h : bs.length = count * n) :
    (chunks n count bs).flatMap FixedBytes.toList = bs := by
  induction count generalizing bs with
  | zero =>
    have : bs = [] := List.length_eq_zero_iff.mp (by simpa using h)
    simp [chunks, this]
  | succ count ih =>
    have hLe : n ≤ bs.length := by
      rw [h, Nat.succ_mul]
      omega
    have hPad : (FixedBytes.pad n bs).toList = bs.take n := by
      simp [FixedBytes.pad, List.rightpad, hLe]
    rw [chunks, List.flatMap_cons, hPad, ih (by rw [List.length_drop, h, Nat.succ_mul]; omega),
      List.take_append_drop]

/-- A wire format: an encoder and a front decoder that invert each other on the values
satisfying `Valid`. The decoder returns the bytes it has not read. That the two laws are
fields means that a format cannot be written down without them, and every combinator
below proves them once for all formats built with it. -/
structure Format (α : Type) where
  Valid : α → Prop
  encode : α → Bytes
  decode : Bytes → Option (α × Bytes)
  decode_encode : ∀ {a : α}, Valid a → ∀ rest : Bytes,
    decode (encode a ++ rest) = some (a, rest)
  encode_decode : ∀ {bs : Bytes} {a : α} {rest : Bytes},
    decode bs = some (a, rest) → Valid a ∧ encode a ++ rest = bs

namespace Format

variable {α β : Type}

-- ---------------------------------------------------------------------------
-- Consequences of the two laws
-- ---------------------------------------------------------------------------

/-- **Decoding is starting with an encoding.** A decoder returns a value and a remainder
exactly when the string is the encoding of that valid value followed by that
remainder. -/
theorem decode_eq_some_iff (f : Format α) {bs : Bytes} {a : α} {rest : Bytes} :
    f.decode bs = some (a, rest) ↔ f.Valid a ∧ f.encode a ++ rest = bs := by
  constructor
  · exact f.encode_decode
  · rintro ⟨hValid, rfl⟩
    exact f.decode_encode hValid rest

/-- A decoder fails exactly on the strings that start with no encoding of a valid
value. -/
theorem decode_eq_none_iff (f : Format α) {bs : Bytes} :
    f.decode bs = none ↔ ∀ a rest, f.Valid a → f.encode a ++ rest ≠ bs := by
  constructor
  · rintro hNone a rest hValid rfl
    rw [f.decode_encode hValid rest] at hNone
    exact absurd hNone (by simp)
  · intro h
    cases hDec : f.decode bs with
    | none => rfl
    | some p =>
      obtain ⟨hValid, hEq⟩ := f.encode_decode hDec
      exact absurd hEq (h p.1 p.2 hValid)

/-- **Prefix freedom.** Two encodings that start the same byte string are
encodings of the same value. -/
theorem encode_prefix_free (f : Format α) {a b : α} {r s : Bytes}
    (ha : f.Valid a) (hb : f.Valid b)
    (h : f.encode a ++ r = f.encode b ++ s) : a = b ∧ r = s := by
  have hDec := f.decode_encode ha r
  rw [h, f.decode_encode hb s] at hDec
  simpa [eq_comm] using hDec

/-- Equal encodings are encodings of the same value. -/
theorem encode_injective (f : Format α) {a b : α}
    (ha : f.Valid a) (hb : f.Valid b) (h : f.encode a = f.encode b) : a = b :=
  (f.encode_prefix_free (r := []) (s := []) ha hb (by rw [h])).1

/-- What a decoder reads and what it leaves add up to its input. -/
theorem length_of_decode (f : Format α) {bs : Bytes} {a : α} {rest : Bytes}
    (h : f.decode bs = some (a, rest)) :
    (f.encode a).length + rest.length = bs.length := by
  rw [← (f.encode_decode h).2, List.length_append]

-- ---------------------------------------------------------------------------
-- Base formats
-- ---------------------------------------------------------------------------

/-- One byte. -/
def byte : Format UInt8 where
  Valid _ := True
  encode b := [b]
  decode
    | [] => none
    | b :: rest => some (b, rest)
  decode_encode := by simp
  encode_decode := by
    intro bs a rest h
    cases bs with
    | nil => simp at h
    | cons b bs => simpa [eq_comm] using h

/-- A fixed byte string, and nothing else: a magic number or a version byte. The value
read says nothing. -/
def const (bs : Bytes) : Format Unit where
  Valid _ := True
  encode _ := bs
  decode input := if bs.isPrefixOf input then some ((), input.drop bs.length) else none
  decode_encode := by simp
  encode_decode := by
    intro input a rest h
    split at h
    · rename_i hPrefix
      obtain ⟨tail, rfl⟩ := List.isPrefixOf_iff_prefix.mp hPrefix
      simpa [eq_comm] using h
    · simp at h

/-- Exactly `n` bytes. -/
def raw (n : Nat) : Format (FixedBytes n) where
  Valid _ := True
  encode x := x.toList
  decode bs :=
    if h : n ≤ bs.length then some (⟨bs.take n, by simp [h]⟩, bs.drop n) else none
  decode_encode := by
    intro x _ rest
    have hTake : (x.toList ++ rest).take n = x.toList := List.take_left' x.length_toList
    have hDrop : (x.toList ++ rest).drop n = rest := List.drop_left' x.length_toList
    simp [hTake, hDrop]
  encode_decode := by
    intro bs x rest h
    split at h
    · simp only [Option.some.injEq, Prod.mk.injEq] at h
      obtain ⟨rfl, rfl⟩ := h
      exact ⟨trivial, List.take_append_drop n bs⟩
    · simp at h

/-- A byte string of `n` bytes, as a plain list. The length is a condition on the value
here, where `raw` has it in the type. -/
def string (n : Nat) : Format Bytes where
  Valid bs := bs.length = n
  encode bs := bs
  decode bs := if n ≤ bs.length then some (bs.take n, bs.drop n) else none
  decode_encode := by
    rintro bs rfl rest
    simp
  encode_decode := by
    intro bs a rest h
    split at h
    · rename_i hLen
      simp only [Option.some.injEq, Prod.mk.injEq] at h
      obtain ⟨rfl, rfl⟩ := h
      exact ⟨List.length_take_of_le hLen, List.take_append_drop n bs⟩
    · simp at h

/-- No bytes at all, standing for a fixed value. -/
def pure (a : α) : Format α where
  Valid b := b = a
  encode _ := []
  decode bs := some (a, bs)
  decode_encode := by simp
  encode_decode := by
    intro bs b rest h
    simpa [eq_comm] using h

-- ---------------------------------------------------------------------------
-- Combinators
-- ---------------------------------------------------------------------------

/-- Only the values of `f` that satisfy `p`: the check a parser makes on a value it has
just read. -/
def filter (f : Format α) (p : α → Prop) [DecidablePred p] : Format α where
  Valid a := f.Valid a ∧ p a
  encode := f.encode
  decode bs := (f.decode bs).filter fun r => p r.1
  decode_encode := by
    intro a h rest
    simp [f.decode_encode h.1 rest, h.2]
  encode_decode := by
    intro bs a rest h
    rw [Option.filter_eq_some_iff] at h
    obtain ⟨hDec, hp⟩ := h
    obtain ⟨hValid, hEq⟩ := f.encode_decode hDec
    exact ⟨⟨hValid, by simpa using hp⟩, hEq⟩

/-- First `f`, then the format `g` chosen by the value just read. A field that decides
how the rest is laid out is a sequence whose second part depends on it. -/
def seq (f : Format α) (g : α → Format β) : Format (α × β) where
  Valid p := f.Valid p.1 ∧ (g p.1).Valid p.2
  encode p := f.encode p.1 ++ (g p.1).encode p.2
  decode bs :=
    match f.decode bs with
    | none => none
    | some (a, rest) => ((g a).decode rest).map fun q => ((a, q.1), q.2)
  decode_encode := by
    intro p h rest
    simp [f.decode_encode h.1, (g p.1).decode_encode h.2]
  encode_decode := by
    intro bs p rest h
    split at h
    · simp at h
    · -- the string is an encoding by `f`, then one by `g a`, then what is left
      rename_i a mid hDec
      obtain ⟨hValid, hEq⟩ := f.encode_decode hDec
      simp only [Option.map_eq_some_iff, Prod.exists, Prod.mk.injEq] at h
      obtain ⟨b, r, hDec', rfl, rfl⟩ := h
      obtain ⟨hValid', hEq'⟩ := (g a).encode_decode hDec'
      exact ⟨⟨hValid, hValid'⟩, by rw [List.append_assoc, hEq', hEq]⟩

/-- The same bytes, read as another type. `bwd` has to be undone by `fwd`
everywhere, and `fwd` by `bwd` on the values that `f` can carry. -/
def iso (f : Format α) (fwd : α → β) (bwd : β → α)
    (hFwd : ∀ b, fwd (bwd b) = b) (hBwd : ∀ a, f.Valid a → bwd (fwd a) = a) :
    Format β where
  Valid b := f.Valid (bwd b)
  encode b := f.encode (bwd b)
  decode bs := (f.decode bs).map fun p => (fwd p.1, p.2)
  decode_encode := by
    intro b h rest
    simp [f.decode_encode h, hFwd]
  encode_decode := by
    intro bs b rest h
    simp only [Option.map_eq_some_iff, Prod.exists, Prod.mk.injEq] at h
    obtain ⟨a, r, hDec, rfl, rfl⟩ := h
    obtain ⟨hValid, hEq⟩ := f.encode_decode hDec
    rw [hBwd a hValid]
    exact ⟨hValid, hEq⟩

/-- Read `n` values one after another. -/
def decodeMany (decode : Bytes → Option (α × Bytes)) : Nat → Bytes → Option (List α × Bytes)
  | 0, bs => some ([], bs)
  | n + 1, bs =>
    match decode bs with
    | none => none
    | some (a, rest) => (decodeMany decode n rest).map fun q => (a :: q.1, q.2)

/-- `n` values of `f`, one after another. -/
def repeated (f : Format α) (n : Nat) : Format (List α) where
  Valid as := as.length = n ∧ ∀ a ∈ as, f.Valid a
  encode as := as.flatMap f.encode
  decode := decodeMany f.decode n
  decode_encode := by
    rintro as ⟨rfl, hAll⟩ rest
    induction as with
    | nil => simp [decodeMany]
    -- the first value is read back off the front, the others by induction
    | cons a as ih =>
      rw [List.flatMap_cons, List.append_assoc, List.length_cons, decodeMany,
        f.decode_encode (hAll a (List.mem_cons_self ..))]
      simp [ih fun x hx => hAll x (List.mem_cons_of_mem _ hx)]
  encode_decode := by
    induction n with
    | zero =>
      intro bs as rest h
      simp only [decodeMany, Option.some.injEq, Prod.mk.injEq] at h
      obtain ⟨rfl, rfl⟩ := h
      simp
    | succ n ih =>
      intro bs as rest h
      rw [decodeMany] at h
      split at h
      · simp at h
      · rename_i a mid hDec
        obtain ⟨hValid, hEq⟩ := f.encode_decode hDec
        simp only [Option.map_eq_some_iff, Prod.exists, Prod.mk.injEq] at h
        obtain ⟨tail, r, hDec', rfl, rfl⟩ := h
        obtain ⟨⟨hLen, hAll⟩, hEq'⟩ := ih hDec'
        refine ⟨⟨by simp [hLen], ?_⟩, ?_⟩
        · intro x hx
          rcases List.mem_cons.mp hx with rfl | hx
          · exact hValid
          · exact hAll x hx
        · rw [List.flatMap_cons, List.append_assoc, hEq', hEq]

/-- A list prefixed by its length in the format `count`. -/
def counted (count : Format Nat) (f : Format α) : Format (List α) :=
  (count.seq fun n => f.repeated n).iso Prod.snd (fun as => (as.length, as))
    (fun _ => rfl) (fun p h => by rw [h.2.1])

/-- Read one value for every element of a list of indices. -/
def decodeEach (decode : β → Bytes → Option (α × Bytes)) :
    List β → Bytes → Option (List α × Bytes)
  | [], bs => some ([], bs)
  | b :: idx, bs =>
    match decode b bs with
    | none => none
    | some (a, rest) => (decodeEach decode idx rest).map fun q => (a :: q.1, q.2)

/-- One value for every element of a list of indices, the format of each chosen by its
index: payloads whose lengths were announced by the headers before them. -/
def each (g : β → Format α) (idx : List β) : Format (List α) where
  Valid as := List.Forall₂ (fun b a => (g b).Valid a) idx as
  encode as := (List.zipWith (fun b a => (g b).encode a) idx as).flatten
  decode := decodeEach (fun b => (g b).decode) idx
  decode_encode := by
    intro as h rest
    induction h with
    | nil => simp [decodeEach]
    | cons hValid _ ih =>
      rw [List.zipWith_cons_cons, List.flatten_cons, List.append_assoc, decodeEach,
        (g _).decode_encode hValid]
      simp [ih]
  encode_decode := by
    induction idx with
    | nil =>
      intro bs as rest h
      simp only [decodeEach, Option.some.injEq, Prod.mk.injEq] at h
      obtain ⟨rfl, rfl⟩ := h
      simp
    | cons b idx ih =>
      intro bs as rest h
      rw [decodeEach] at h
      split at h
      · simp at h
      · rename_i a mid hDec
        obtain ⟨hValid, hEq⟩ := (g b).encode_decode hDec
        simp only [Option.map_eq_some_iff, Prod.exists, Prod.mk.injEq] at h
        obtain ⟨tail, r, hDec', rfl, rfl⟩ := h
        obtain ⟨hAll, hEq'⟩ := ih hDec'
        exact ⟨List.Forall₂.cons hValid hAll,
          by rw [List.zipWith_cons_cons, List.flatten_cons, List.append_assoc, hEq', hEq]⟩

/-- A value that is there or not, as an earlier field has announced. -/
def option (present : Bool) (f : Format α) : Format (Option α) where
  Valid o := o.isSome = present ∧ ∀ a ∈ o, f.Valid a
  encode o := o.elim [] f.encode
  decode bs := if present then (f.decode bs).map fun p => (some p.1, p.2) else some (none, bs)
  decode_encode := by
    rintro o ⟨rfl, hAll⟩ rest
    cases o with
    | none => rfl
    | some a => simp [f.decode_encode (hAll a rfl)]
  encode_decode := by
    intro bs o rest h
    cases present with
    | false =>
      simp only [Bool.false_eq_true, if_false, Option.some.injEq, Prod.mk.injEq] at h
      obtain ⟨rfl, rfl⟩ := h
      simp
    | true =>
      simp only [if_true, Option.map_eq_some_iff, Prod.exists, Prod.mk.injEq] at h
      obtain ⟨a, r, hDec, rfl, rfl⟩ := h
      obtain ⟨hValid, hEq⟩ := f.encode_decode hDec
      exact ⟨⟨rfl, by simpa using hValid⟩, hEq⟩

-- ---------------------------------------------------------------------------
-- Validity and encoding of the combinators
-- ---------------------------------------------------------------------------

section Encode

variable (f : Format α)

@[simp] theorem byte_valid (b : UInt8) : byte.Valid b := trivial

@[simp] theorem raw_valid {n : Nat} (x : FixedBytes n) : (raw n).Valid x := trivial

@[simp] theorem string_valid {n : Nat} (bs : Bytes) : (string n).Valid bs ↔ bs.length = n :=
  Iff.rfl

@[simp] theorem filter_valid (p : α → Prop) [DecidablePred p] (a : α) :
    (f.filter p).Valid a ↔ f.Valid a ∧ p a := Iff.rfl

@[simp] theorem seq_valid (g : α → Format β) (p : α × β) :
    (f.seq g).Valid p ↔ f.Valid p.1 ∧ (g p.1).Valid p.2 := Iff.rfl

@[simp] theorem counted_valid (count : Format Nat) (as : List α) :
    (counted count f).Valid as ↔ count.Valid as.length ∧ ∀ a ∈ as, f.Valid a := by
  show (count.Valid as.length ∧ as.length = as.length ∧ ∀ a ∈ as, f.Valid a) ↔ _
  simp

@[simp] theorem option_valid (present : Bool) (o : Option α) :
    (option present f).Valid o ↔ o.isSome = present ∧ ∀ a ∈ o, f.Valid a := Iff.rfl

@[simp] theorem byte_encode (b : UInt8) : byte.encode b = [b] := rfl

@[simp] theorem raw_encode {n : Nat} (x : FixedBytes n) : (raw n).encode x = x.toList := rfl

@[simp] theorem string_encode {n : Nat} (bs : Bytes) : (string n).encode bs = bs := rfl

@[simp] theorem filter_encode (p : α → Prop) [DecidablePred p] (a : α) :
    (f.filter p).encode a = f.encode a := rfl

@[simp] theorem seq_encode (g : α → Format β) (p : α × β) :
    (f.seq g).encode p = f.encode p.1 ++ (g p.1).encode p.2 := rfl

@[simp] theorem repeated_encode (n : Nat) (as : List α) :
    (f.repeated n).encode as = as.flatMap f.encode := rfl

@[simp] theorem counted_encode (count : Format Nat) (as : List α) :
    (counted count f).encode as = count.encode as.length ++ as.flatMap f.encode := rfl

@[simp] theorem option_encode (present : Bool) (o : Option α) :
    (option present f).encode o = o.elim [] f.encode := rfl

end Encode

-- ---------------------------------------------------------------------------
-- Decoders of the combinators, one step at a time
-- ---------------------------------------------------------------------------

section Decode

variable (f : Format α)

@[simp] theorem byte_decode_nil : byte.decode [] = none := rfl

@[simp] theorem byte_decode_cons (b : UInt8) (rest : Bytes) :
    byte.decode (b :: rest) = some (b, rest) := rfl

/-- The second decoder runs on what the first has left. -/
theorem seq_decode (g : α → Format β) (bs : Bytes) :
    (f.seq g).decode bs = match f.decode bs with
      | none => none
      | some (a, rest) => ((g a).decode rest).map fun q => ((a, q.1), q.2) := rfl

/-- Whether there is a value is known beforehand, not read. -/
theorem option_decode (present : Bool) (bs : Bytes) :
    (option present f).decode bs =
      if present then (f.decode bs).map fun p => (some p.1, p.2) else some (none, bs) := rfl

/-- A change of type changes the value read and not the bytes. -/
theorem iso_decode (fwd : α → β) (bwd : β → α) (hFwd : ∀ b, fwd (bwd b) = b)
    (hBwd : ∀ a, f.Valid a → bwd (fwd a) = a) (bs : Bytes) :
    (f.iso fwd bwd hFwd hBwd).decode bs = (f.decode bs).map (Prod.map fwd id) := rfl

/-- The decoder of a sequence under a change of type, one step at a time. -/
theorem map_seq_decode {γ : Type} (h : α × β → γ) (g : α → Format β) (bs : Bytes) :
    ((f.seq g).decode bs).map (Prod.map h id) = (f.decode bs).bind fun p =>
      ((g p.1).decode p.2).map (Prod.map (fun b => h (p.1, b)) id) := by
  rw [seq_decode]
  cases f.decode bs with
  | none => rfl
  | some p => rw [Option.map_map]; rfl

@[simp] theorem repeated_decode_zero (bs : Bytes) :
    (f.repeated 0).decode bs = some ([], bs) := rfl

/-- One value, then the others on what it left. -/
theorem repeated_decode_succ (n : Nat) (bs : Bytes) :
    (f.repeated (n + 1)).decode bs = match f.decode bs with
      | none => none
      | some (a, rest) => ((f.repeated n).decode rest).map fun q => (a :: q.1, q.2) := rfl

/-- The count, then that many values. -/
theorem counted_decode (count : Format Nat) (bs : Bytes) :
    (counted count f).decode bs = match count.decode bs with
      | none => none
      | some (n, rest) => (f.repeated n).decode rest := by
  show Option.map _ ((count.seq _).decode bs) = _
  rw [seq_decode]
  cases count.decode bs with
  | none => rfl
  | some p => cases h : (f.repeated p.1).decode p.2 <;> simp [h]

@[simp] theorem each_decode_nil (g : β → Format α) (bs : Bytes) :
    (each g []).decode bs = some ([], bs) := rfl

/-- The value for the first index, then the others on what it left. -/
theorem each_decode_cons (g : β → Format α) (b : β) (idx : List β) (bs : Bytes) :
    (each g (b :: idx)).decode bs = match (g b).decode bs with
      | none => none
      | some (a, rest) => ((each g idx).decode rest).map fun q => (a :: q.1, q.2) := rfl

/-- The decoder of `f`, its result dropped when the check fails. -/
theorem filter_decode (p : α → Prop) [DecidablePred p] (bs : Bytes) :
    (f.filter p).decode bs = (f.decode bs).filter fun r => p r.1 := rfl

/-- A fixed string is a plain one of that length. -/
theorem raw_decode (n : Nat) (bs : Bytes) :
    (raw n).decode bs = ((string n).decode bs).map fun p => (FixedBytes.pad n p.1, p.2) := by
  simp only [raw, string]
  split
  · rename_i hLen
    have hPad : FixedBytes.pad n (bs.take n) = ⟨bs.take n, by simp [hLen]⟩ := by
      ext1
      simp [FixedBytes.pad, List.rightpad, hLen]
    rw [Option.map_some, hPad]
  · rfl

/-- Reading `n` single bytes is reading a string of `n` bytes. -/
theorem repeated_byte_decode (n : Nat) (bs : Bytes) :
    (byte.repeated n).decode bs = (string n).decode bs := by
  induction n generalizing bs with
  | zero => rfl
  | succ n ih =>
    rw [repeated_decode_succ]
    cases bs with
    | nil => rfl
    | cons b bs =>
      simp only [byte_decode_cons, ih, string, List.length_cons, Nat.add_le_add_iff_right]
      split <;> rfl

/-- Reading `n` blocks of `w` bytes is reading a string of `n * w` bytes and
cutting it up. -/
theorem repeated_raw_decode (w n : Nat) (bs : Bytes) :
    ((raw w).repeated n).decode bs =
      ((string (n * w)).decode bs).map fun p => (chunks w n p.1, p.2) := by
  -- both sides read `n * w` bytes, so they fail together
  cases hDec : ((string (n * w)).decode bs) with
  | some p =>
    obtain ⟨hLen, hEq⟩ := (string (n * w)).encode_decode hDec
    rw [Option.map_some, decode_eq_some_iff]
    refine ⟨⟨length_chunks .., fun _ _ => trivial⟩, ?_⟩
    show (chunks w n p.1).flatMap FixedBytes.toList ++ p.2 = bs
    rw [flatMap_chunks hLen]
    exact hEq
  | none =>
    rw [Option.map_none, decode_eq_none_iff]
    rintro xs rest ⟨hLen, -⟩ rfl
    have hValid : (string (n * w)).Valid (xs.flatMap FixedBytes.toList) := by
      show (xs.flatMap FixedBytes.toList).length = n * w
      rw [List.length_flatMap, ← hLen]
      simp
    have := (string (n * w)).decode_encode hValid rest
    exact absurd (hDec.symm.trans this) (by simp)

end Decode

-- ---------------------------------------------------------------------------
-- Formats that agree on short strings
-- ---------------------------------------------------------------------------

/-- Two formats decode the same way every string of fewer than `n` bytes. The relation
is kept by the combinators, so it is settled where two formats differ and carried up
from there. -/
def AgreeBelow (n : Nat) (f g : Format α) : Prop :=
  ∀ bs : Bytes, bs.length < n → f.decode bs = g.decode bs

namespace AgreeBelow

variable {n : Nat}

/-- A format agrees with itself. -/
theorem refl (f : Format α) : AgreeBelow n f f := fun _ _ => rfl

/-- What a decoder leaves unread is no longer than its input. -/
theorem length_rest_lt {f : Format α} {bs : Bytes} {p : α × Bytes}
    (hLen : bs.length < n) (h : f.decode bs = some p) : p.2.length < n := by
  have := f.length_of_decode h
  omega

/-- Sequences agree when their parts do: what the first leaves is short as well. -/
theorem seq {f f' : Format α} {g g' : α → Format β} (hf : AgreeBelow n f f')
    (hg : ∀ a, AgreeBelow n (g a) (g' a)) : AgreeBelow n (f.seq g) (f'.seq g') := by
  intro bs hLen
  rw [seq_decode, seq_decode, ← hf bs hLen]
  cases hDec : f.decode bs with
  | none => rfl
  | some p => simp only [hg p.1 p.2 (length_rest_lt hLen hDec)]

/-- A change of type keeps the agreement. -/
theorem iso {f f' : Format α} (hf : AgreeBelow n f f') {fwd : α → β} {bwd : β → α}
    {hFwd : ∀ b, fwd (bwd b) = b} {hBwd : ∀ a, f.Valid a → bwd (fwd a) = a}
    {hBwd' : ∀ a, f'.Valid a → bwd (fwd a) = a} :
    AgreeBelow n (f.iso fwd bwd hFwd hBwd) (f'.iso fwd bwd hFwd hBwd') := by
  intro bs hLen
  show Option.map _ (f.decode bs) = Option.map _ (f'.decode bs)
  rw [hf bs hLen]

/-- So does repetition, value by value. -/
theorem repeated {f f' : Format α} (hf : AgreeBelow n f f') (count : Nat) :
    AgreeBelow n (f.repeated count) (f'.repeated count) := by
  induction count with
  | zero => exact fun _ _ => rfl
  | succ count ih =>
    intro bs hLen
    rw [repeated_decode_succ, repeated_decode_succ, ← hf bs hLen]
    cases hDec : f.decode bs with
    | none => rfl
    | some p => simp only [ih p.2 (length_rest_lt hLen hDec)]

/-- So does a count in front, if it is the same on both sides. -/
theorem counted (count : Format Nat) {f f' : Format α} (hf : AgreeBelow n f f') :
    AgreeBelow n (counted count f) (counted count f') := by
  intro bs hLen
  rw [counted_decode, counted_decode]
  cases hDec : count.decode bs with
  | none => rfl
  | some p => exact hf.repeated p.1 p.2 (length_rest_lt hLen hDec)

end AgreeBelow

/-- A list of items of at least `w` bytes each takes up `w` bytes per item. -/
theorem repeated_length_le {f : Format α} {w : Nat} (hMin : ∀ a, w ≤ (f.encode a).length)
    {count : Nat} {bs : Bytes} {p : List α × Bytes}
    (h : (f.repeated count).decode bs = some p) : count * w ≤ bs.length := by
  obtain ⟨⟨rfl, -⟩, rfl⟩ := (f.repeated count).encode_decode h
  show p.1.length * w ≤ (p.1.flatMap f.encode ++ p.2).length
  rw [List.length_append, List.length_flatMap]
  -- the sum of the item lengths is at least the number of items times `w`
  have hSum := List.card_nsmul_le_sum (p.1.map fun a => (f.encode a).length) w
    (by simpa using fun a _ => hMin a)
  rw [List.length_map, Nat.nsmul_eq_mul] at hSum
  omega

/-- Items of `w` bytes each that decode from any `w` bytes are limited by the
room only. -/
theorem repeated_decode_isSome {f : Format α} {w : Nat} (hLength : ∀ a, (f.encode a).length = w)
    (hDecode : ∀ bs : Bytes, w ≤ bs.length → (f.decode bs).isSome) (count : Nat) (bs : Bytes) :
    ((f.repeated count).decode bs).isSome ↔ count * w ≤ bs.length := by
  constructor
  · intro h
    obtain ⟨p, hDec⟩ := Option.isSome_iff_exists.mp h
    exact repeated_length_le (fun a => (hLength a).ge) hDec
  · induction count generalizing bs with
    | zero => exact fun _ => rfl
    | succ count ih =>
      intro h
      rw [Nat.succ_mul] at h
      obtain ⟨p, hDec⟩ := Option.isSome_iff_exists.mp (hDecode bs (by omega))
      have hLen := f.length_of_decode hDec
      rw [hLength] at hLen
      rw [repeated_decode_succ, hDec]
      simpa using @ih p.2 (by omega)

/-- **Bounded counts lose nothing on short strings.** A count format that only
admits values below `n` reads the same lists as the unbounded one from strings
of fewer than `n` bytes: a larger count asks for more items than there are
bytes. -/
theorem AgreeBelow.counted_filter {n : Nat} {count : Format Nat} {f f' : Format α}
    (hf : AgreeBelow n f f') (hPos : ∀ a, 1 ≤ (f.encode a).length) :
    AgreeBelow n (Format.counted (count.filter (· < n)) f) (Format.counted count f') := by
  intro bs hLen
  rw [counted_decode, counted_decode, filter_decode]
  cases hDec : count.decode bs with
  | none => rfl
  | some p =>
    have hRest := length_rest_lt hLen hDec
    -- a count the filter refuses asks for more items than there are bytes left
    by_cases hSmall : p.1 < n
    · simp only [Option.filter_some, hSmall, decide_true, if_true, hf.repeated p.1 p.2 hRest]
    · have hNone : (f.repeated p.1).decode p.2 = none := by
        cases hMany : (f.repeated p.1).decode p.2 with
        | none => rfl
        | some q =>
          have := repeated_length_le hPos hMany
          omega
      simp only [Option.filter_some, hSmall, decide_false, Bool.false_eq_true, if_false,
        ← hf.repeated p.1 p.2 hRest, hNone]

end Format

end Wire
