import TxStream.Protocol.PacketFormat

/-!
# `try_new` on legacy and v0 bytes

The constructor and the decoder of `packetFormat` take the same steps: each
section of the message is read by the constructor exactly when the decoder
reads it, with the same values and the same bytes left over. What the decoder
does not have are the deferred sanitize checks and the room check in front of
the lookups.

Main results:

* `instructionLoop_cases`, `lookupLoop_cases` — the two loops are list decoders
  that gather the sanitize error on the way.
* `packetRejected_iff` — the machine-integer checks at the end are the sanitize
  rules over the natural numbers.
* `tryNewLegacyV0_cases` — the constructor is the decoder followed by the checks.
-/

namespace TxStream

open Wire Rust Format

variable {bytes rest : Bytes} {offset : Nat}

/-- Reading a length and then that many bytes is decoding a length-prefixed
byte list; the calls fail at the length or behind it. -/
theorem readCompactBytes_cases (hBound : bytes.length < usizeSize) (hAt : At bytes offset rest) :
    ((bytesFormat shortCount).decode rest = none ∧
      (Cursor.read ⟨bytes, offset⟩ readCompactU16At = .error .parse ∨
        ∃ n cursor, Cursor.read ⟨bytes, offset⟩ readCompactU16At = .ok (n, cursor) ∧
          n.toNat < 16384 ∧ cursor.readBytes n.toNat = .error .parse)) ∨
      ∃ bs n middle offset' rest', (bytesFormat shortCount).decode rest = some (bs, rest') ∧
        bs.length = n.toNat ∧ n.toNat < 16384 ∧
        offset' = offset + ((bytesFormat shortCount).encode bs).length ∧
        Cursor.read ⟨bytes, offset⟩ readCompactU16At = .ok (n, ⟨bytes, middle⟩) ∧
        Cursor.readBytes ⟨bytes, middle⟩ n.toNat = .ok (bs, ⟨bytes, offset'⟩) ∧
        At bytes offset' rest' := by
  have hU16 : shortU16.decode rest =
      (shortCount.decode rest).map fun p => (UInt16.ofNat p.1, p.2) := rfl
  rcases Cursor.read_cases readCompactU16At_reads hBound hAt with
    ⟨hNone, hRead⟩ | ⟨n, middle, unread, hSome, hValid, rfl, hRead, hAt'⟩
  · left
    rw [hU16, Option.map_eq_none_iff] at hNone
    rw [bytesFormat_decode, hNone]
    exact ⟨rfl, Or.inl hRead⟩
  · have hDec : shortCount.decode rest = some (n.toNat, unread) := by
      rw [decode_eq_some_iff] at hSome ⊢
      exact hSome
    rw [bytesFormat_decode, hDec]
    -- the length is there; the bytes may not be
    rcases Cursor.readBytes_cases n.toNat hBound hAt' with
      ⟨hNone, hRead'⟩ | ⟨bs, rest', hSome', hLen, hRead', hAt''⟩
    · exact Or.inl ⟨hNone, Or.inr ⟨n, _, hRead, hValid.2, hRead'⟩⟩
    · refine Or.inr ⟨bs, n, _, _, rest', hSome', hLen, hValid.2, ?_, hRead, hRead', hAt''⟩
      rw [bytesFormat_encode, List.length_append, hLen, Nat.add_assoc]
      rfl

-- ---------------------------------------------------------------------------
-- The instruction loop
-- ---------------------------------------------------------------------------

/-- Whether an instruction sets the deferred sanitize error. -/
def instructionRejected (numKeys : UInt8) (i : SanitizedInstructionView) : Bool :=
  decide (i.programIdIndex = 0 ∨ i.programIdIndex ≥ numKeys) || decide (255 < i.accounts.length)

/-- The largest account index after an instruction. -/
def maximumStep (maximum : Option UInt8) (i : SanitizedInstructionView) : Option UInt8 :=
  i.accounts.foldl
    (fun maximum index => some (maximum.elim index fun current => max current index)) maximum

/-- One round of the instruction loop is the decoder of one instruction: both read the
program index and the two byte lists, and stop at the same place. On success the round
has added what the instruction says to the deferred error and to the largest index. -/
theorem instructionLoop_succ (hBound : bytes.length < usizeSize) (hAt : At bytes offset rest)
    (numKeys : UInt8) (rounds : Nat) (sanitizeError : Bool) (maximum : Option UInt8) :
    ((instructionFormat shortCount).decode rest = none ∧
      instructionLoop readCompactU16At numKeys (rounds + 1) ⟨bytes, offset⟩ sanitizeError maximum
        = .error .parse) ∨
    ∃ i offset' rest', (instructionFormat shortCount).decode rest = some (i, rest') ∧
      offset' = offset + ((instructionFormat shortCount).encode i).length ∧
      instructionLoop readCompactU16At numKeys (rounds + 1) ⟨bytes, offset⟩ sanitizeError maximum
        = instructionLoop readCompactU16At numKeys rounds ⟨bytes, offset'⟩
          (sanitizeError || instructionRejected numKeys i) (maximumStep maximum i) ∧
      At bytes offset' rest' := by
  have hDecode : ∀ bs, (instructionFormat shortCount).decode bs =
      ((byte.seq fun _ => (bytesFormat shortCount).seq fun _ => bytesFormat shortCount).decode
        bs).map fun p => (⟨p.1.1, p.1.2.1, p.1.2.2⟩, p.2) := fun _ => rfl
  rw [instructionLoop, hDecode, seq_decode]
  -- the program index
  rcases Cursor.readByte_cases hBound hAt with ⟨hDec, hRead⟩ | ⟨program, rest₁, hDec, hRead, hAt₁⟩
  · left
    simp [hRead, hDec]
  simp only [hDec, hRead, ok_bind, seq_decode]
  -- the accounts
  rcases readCompactBytes_cases hBound hAt₁ with
    ⟨hDec₁, hFail⟩ | ⟨accounts, n₁, middle₁, offset₂, rest₂, hDec₁, hLen₁, -, hOff₂, hRead₁,
      hRead₁', hAt₂⟩
  · left
    rcases hFail with hFail | ⟨n, cursor, hOk, -, hFail⟩
    · simp [hDec₁, hFail]
    · simp [hDec₁, hOk, hFail]
  simp only [hDec₁, hRead₁, hRead₁', ok_bind]
  -- the data, which the constructor skips and the decoder keeps
  rcases readCompactBytes_cases hBound hAt₂ with
    ⟨hDec₂, hFail⟩ | ⟨data, n₂, middle₂, offset₃, rest₃, hDec₂, hLen₂, -, hOff₃, hRead₂,
      hRead₂', hAt₃⟩
  · left
    rcases hFail with hFail | ⟨n, cursor, hOk, -, hFail⟩
    · simp [hDec₂, hFail]
    · simp [hDec₂, hOk, hFail, Cursor.skip]
  right
  simp only [hDec₂, hRead₂, hRead₂', ok_bind, Cursor.skip]
  refine ⟨⟨program, accounts, data⟩, offset₃, rest₃, rfl, ?_, ?_, hAt₃⟩
  · have hEnc : (instructionFormat shortCount).encode ⟨program, accounts, data⟩ =
        [program] ++ ((bytesFormat shortCount).encode accounts
          ++ (bytesFormat shortCount).encode data) := rfl
    rw [hEnc, List.length_append, List.length_append, hOff₃, hOff₂, List.length_singleton]
    omega
  · -- the account count is the length of what was read
    have hCount : decide (n₁ > maxAccountsPerInstruction) = decide (255 < accounts.length) := by
      rw [hLen₁, decide_eq_decide, gt_iff_lt, UInt16.lt_iff_toNat_lt]
      rfl
    rw [hCount, instructionRejected, Bool.or_assoc]
    rfl

/-- The instruction loop is the list decoder, with the deferred error and the
largest index gathered on the way. -/
theorem instructionLoop_cases (hBound : bytes.length < usizeSize) (numKeys : UInt8)
    (rounds : Nat) : ∀ {offset : Nat} {rest : Bytes}, At bytes offset rest →
    ∀ (sanitizeError : Bool) (maximum : Option UInt8),
    (((instructionFormat shortCount).repeated rounds).decode rest = none ∧
      instructionLoop readCompactU16At numKeys rounds ⟨bytes, offset⟩ sanitizeError maximum
        = .error .parse) ∨
    ∃ is offset' rest',
      ((instructionFormat shortCount).repeated rounds).decode rest = some (is, rest') ∧
      offset' = offset + (is.flatMap (instructionFormat shortCount).encode).length ∧
      instructionLoop readCompactU16At numKeys rounds ⟨bytes, offset⟩ sanitizeError maximum
        = .ok (⟨bytes, offset'⟩, sanitizeError || is.any (instructionRejected numKeys),
          is.foldl maximumStep maximum) ∧
      At bytes offset' rest' := by
  induction rounds with
  | zero =>
    intro offset rest hAt sanitizeError maximum
    exact Or.inr ⟨[], offset, rest, rfl, rfl, by simp [instructionLoop], hAt⟩
  | succ rounds ih =>
    intro offset rest hAt sanitizeError maximum
    rw [repeated_decode_succ]
    rcases instructionLoop_succ hBound hAt numKeys rounds sanitizeError maximum with
      ⟨hDec, hLoop⟩ | ⟨i, offset₁, rest₁, hDec, hOff, hLoop, hAt₁⟩
    · exact Or.inl ⟨by rw [hDec], hLoop⟩
    rw [hDec, hLoop]
    simp only
    rcases ih hAt₁ (sanitizeError || instructionRejected numKeys i) (maximumStep maximum i) with
      ⟨hDec', hLoop'⟩ | ⟨is, offset₂, rest₂, hDec', hOff', hLoop', hAt₂⟩
    · exact Or.inl ⟨by rw [hDec', Option.map_none], hLoop'⟩
    · refine Or.inr ⟨i :: is, offset₂, rest₂, by rw [hDec', Option.map_some], ?_, ?_, hAt₂⟩
      · rw [List.flatMap_cons, List.length_append, hOff', hOff, Nat.add_assoc]
      · rw [hLoop', List.any_cons, Bool.or_assoc]
        rfl

-- ---------------------------------------------------------------------------
-- The lookup loop
-- ---------------------------------------------------------------------------

/-- Whether a lookup sets the deferred sanitize error. -/
def lookupRejected (l : SanitizedAddressTableLookup) : Bool :=
  decide (l.writableIndexes.length = 0 ∧ l.readonlyIndexes.length = 0)

/-- The total of a loop does not overflow while its sum is small. -/
theorem u16CheckedAdd_ofNat {total : Nat} {n : UInt16} (h : total + n.toNat < 65536) :
    u16CheckedAdd (UInt16.ofNat total) n = some (UInt16.ofNat (total + n.toNat)) := by
  have hTotal : (UInt16.ofNat total).toNat = total := by
    rw [UInt16.toNat_ofNat']
    omega
  have hFits : total + n.toNat < 2 ^ 16 := h
  rw [u16CheckedAdd, hTotal, if_pos hFits, UInt16.ofNat_add, UInt16.ofNat_toNat]

/-- One round of the lookup loop is the decoder of one lookup. The checked additions
cannot overflow here: a total is at most the number of bytes read, and the whole string
is shorter than `16384`. That is what the two bounds carry from round to round. -/
theorem lookupLoop_succ (hBound : bytes.length < usizeSize) (hAt : At bytes offset rest)
    (rounds : Nat) {writable readonly : Nat} (hWritable : writable + rest.length < 16384)
    (hReadonly : readonly + rest.length < 16384) (sanitizeError : Bool) :
    ((lookupFormat shortCount).decode rest = none ∧
      lookupLoop readCompactU16At (rounds + 1) ⟨bytes, offset⟩ (UInt16.ofNat writable)
        (UInt16.ofNat readonly) sanitizeError = .error .parse) ∨
    ∃ l offset' rest', (lookupFormat shortCount).decode rest = some (l, rest') ∧
      offset' = offset + ((lookupFormat shortCount).encode l).length ∧
      lookupLoop readCompactU16At (rounds + 1) ⟨bytes, offset⟩ (UInt16.ofNat writable)
        (UInt16.ofNat readonly) sanitizeError
        = lookupLoop readCompactU16At rounds ⟨bytes, offset'⟩
          (UInt16.ofNat (writable + l.writableIndexes.length))
          (UInt16.ofNat (readonly + l.readonlyIndexes.length))
          (sanitizeError || lookupRejected l) ∧
      l.writableIndexes.length + l.readonlyIndexes.length + rest'.length ≤ rest.length ∧
      At bytes offset' rest' := by
  have hDecode : ∀ bs, (lookupFormat shortCount).decode bs =
      (((raw 32).seq fun _ => (bytesFormat shortCount).seq fun _ => bytesFormat shortCount).decode
        bs).map fun p => (⟨p.1.1, p.1.2.1, p.1.2.2⟩, p.2) := fun _ => rfl
  rw [lookupLoop, hDecode, seq_decode, raw_decode]
  -- the key of the table
  rcases Cursor.skip_cases 32 hBound hAt with
    ⟨hDec, hSkip⟩ | ⟨key, rest₁, hDec, hKey, hSkip, hAt₁⟩
  · left
    simp [pubkeyBytes, hSkip, hDec]
  simp only [hDec, pubkeyBytes, hSkip, ok_bind, seq_decode, Option.map_some]
  -- the writable indexes
  rcases readCompactBytes_cases hBound hAt₁ with
    ⟨hDec₁, hFail⟩ | ⟨ws, n₁, middle₁, offset₂, rest₂, hDec₁, hLen₁, hLt₁, hOff₂, hRead₁,
      hRead₁', hAt₂⟩
  · left
    rcases hFail with hFail | ⟨n, cursor, hOk, hLt, hFail⟩
    · simp [hDec₁, hFail]
    · simp [hDec₁, hOk, u16CheckedAdd_ofNat (show writable + n.toNat < 65536 by omega),
        Cursor.skip, hFail]
  have hLen := hAt.length
  have hLen₁' := hAt₁.length
  have hLen₂ := hAt₂.length
  -- a total grows by no more than the bytes that were read for it
  have hFront : ws.length ≤ ((bytesFormat shortCount).encode ws).length := by
    rw [bytesFormat_encode, List.length_append]
    omega
  simp only [hDec₁, hRead₁, hRead₁', ok_bind, Cursor.skip, okOr_some,
    u16CheckedAdd_ofNat (show writable + n₁.toNat < 65536 by omega)]
  -- the readonly indexes
  rcases readCompactBytes_cases hBound hAt₂ with
    ⟨hDec₂, hFail⟩ | ⟨rs, n₂, middle₂, offset₃, rest₃, hDec₂, hLen₂', hLt₂, hOff₃, hRead₂,
      hRead₂', hAt₃⟩
  · left
    rcases hFail with hFail | ⟨n, cursor, hOk, hLt, hFail⟩
    · simp [hDec₂, hFail, Pure.pure, Except.pure]
    · simp [hDec₂, hOk, u16CheckedAdd_ofNat (show readonly + n.toNat < 65536 by omega),
        hFail, Pure.pure, Except.pure]
  right
  have hLen₃ := hAt₃.length
  have hBack : rs.length ≤ ((bytesFormat shortCount).encode rs).length := by
    rw [bytesFormat_encode, List.length_append]
    omega
  simp only [hDec₂, hRead₂, hRead₂', ok_bind, okOr_some, Pure.pure, Except.pure,
    u16CheckedAdd_ofNat (show readonly + n₂.toNat < 65536 by omega)]
  refine ⟨⟨FixedBytes.pad 32 key, ws, rs⟩, offset₃, rest₃, rfl, ?_, ?_, ?_, hAt₃⟩
  · have hEnc : (lookupFormat shortCount).encode ⟨FixedBytes.pad 32 key, ws, rs⟩ =
        (FixedBytes.pad 32 key).toList ++ ((bytesFormat shortCount).encode ws
          ++ (bytesFormat shortCount).encode rs) := rfl
    rw [hEnc, List.length_append, List.length_append, hOff₃, hOff₂, FixedBytes.length_toList]
    omega
  · have hZero : ∀ {n : UInt16} {bs : Bytes}, bs.length = n.toNat → (n = 0 ↔ bs.length = 0) := by
      intro n bs h
      rw [h, ← UInt16.toNat_inj]
      rfl
    rw [← hLen₁, ← hLen₂', lookupRejected, decide_eq_decide.mpr
      (and_congr (hZero hLen₁) (hZero hLen₂'))]
  · simp only
    omega

/-- The lookup loop is the list decoder, with the two totals and the deferred error
gathered on the way. -/
theorem lookupLoop_cases (hBound : bytes.length < usizeSize) (rounds : Nat) :
    ∀ {offset : Nat} {rest : Bytes}, At bytes offset rest →
    ∀ writable readonly : Nat, writable + rest.length < 16384 →
    readonly + rest.length < 16384 → ∀ sanitizeError : Bool,
    (((lookupFormat shortCount).repeated rounds).decode rest = none ∧
      lookupLoop readCompactU16At rounds ⟨bytes, offset⟩ (UInt16.ofNat writable)
        (UInt16.ofNat readonly) sanitizeError = .error .parse) ∨
    ∃ ls offset' rest',
      ((lookupFormat shortCount).repeated rounds).decode rest = some (ls, rest') ∧
      offset' = offset + (ls.flatMap (lookupFormat shortCount).encode).length ∧
      lookupLoop readCompactU16At rounds ⟨bytes, offset⟩ (UInt16.ofNat writable)
        (UInt16.ofNat readonly) sanitizeError
        = .ok (⟨bytes, offset'⟩, UInt16.ofNat (writable + writableSum ls),
          UInt16.ofNat (readonly + readonlySum ls), sanitizeError || ls.any lookupRejected) ∧
      writableSum ls + readonlySum ls + rest'.length ≤ rest.length ∧
      At bytes offset' rest' := by
  induction rounds with
  | zero =>
    intro offset rest hAt writable readonly _ _ sanitizeError
    exact Or.inr ⟨[], offset, rest, rfl, rfl, by simp [lookupLoop, writableSum, readonlySum],
      by simp [writableSum, readonlySum], hAt⟩
  | succ rounds ih =>
    intro offset rest hAt writable readonly hWritable hReadonly sanitizeError
    rw [repeated_decode_succ]
    rcases lookupLoop_succ hBound hAt rounds hWritable hReadonly sanitizeError with
      ⟨hDec, hLoop⟩ | ⟨l, offset₁, rest₁, hDec, hOff, hLoop, hShrink, hAt₁⟩
    · exact Or.inl ⟨by rw [hDec], hLoop⟩
    rw [hDec, hLoop]
    simp only
    rcases ih hAt₁ (writable + l.writableIndexes.length)
        (readonly + l.readonlyIndexes.length) (by omega) (by omega)
        (sanitizeError || lookupRejected l) with
      ⟨hDec', hLoop'⟩ | ⟨ls, offset₂, rest₂, hDec', hOff', hLoop', hShrink', hAt₂⟩
    · exact Or.inl ⟨by rw [hDec', Option.map_none], hLoop'⟩
    · refine Or.inr ⟨l :: ls, offset₂, rest₂, by rw [hDec', Option.map_some], ?_, ?_, ?_, hAt₂⟩
      · rw [List.flatMap_cons, List.length_append, hOff', hOff, Nat.add_assoc]
      · rw [hLoop', List.any_cons, Bool.or_assoc, Nat.add_assoc, Nat.add_assoc]
        rfl
      · simp only [writableSum, readonlySum, List.map_cons, List.sum_cons] at hShrink' ⊢
        omega

-- ---------------------------------------------------------------------------
-- The sections of a message
-- ---------------------------------------------------------------------------

/-- Reading a count byte, checking it and skipping that many blocks is decoding
a counted list of blocks. -/
theorem readBlocks_cases (w : Nat) (limit : UInt8) (most : Nat)
    (hMost : limit.toNat = most) (hBound : bytes.length < usizeSize)
    (hAt : At bytes offset rest) :
    ((counted ((le 1).filter fun n => 1 ≤ n ∧ n ≤ most) (raw w)).decode rest = none ∧
      (Cursor.readByte ⟨bytes, offset⟩ = .error .parse ∨
        ∃ n cursor, Cursor.readByte ⟨bytes, offset⟩ = .ok (n, cursor) ∧
          (n = 0 ∨ n > limit ∨ cursor.skip (n.toNat * w) = .error .parse))) ∨
      ∃ xs n offset' rest',
        (counted ((le 1).filter fun n => 1 ≤ n ∧ n ≤ most) (raw w)).decode rest =
          some (xs, rest') ∧
        n = UInt8.ofNat xs.length ∧ 1 ≤ xs.length ∧ xs.length ≤ most ∧
        offset' = offset + 1 + xs.length * w ∧
        Cursor.readByte ⟨bytes, offset⟩ = .ok (n, ⟨bytes, offset + 1⟩) ∧
        ¬ (n = 0 ∨ n > limit) ∧
        Cursor.skip ⟨bytes, offset + 1⟩ (n.toNat * w) = .ok ⟨bytes, offset'⟩ ∧
        At bytes offset' rest' := by
  subst hMost
  -- the test of the constructor is the bound of the format, negated
  have hBad : ∀ n : UInt8, (n = 0 ∨ n > limit) ↔ ¬ (1 ≤ n.toNat ∧ n.toNat ≤ limit.toNat) := by
    intro n
    rw [gt_iff_lt, UInt8.lt_iff_toNat_lt, ← UInt8.toNat_inj]
    show n.toNat = 0 ∨ _ ↔ _
    omega
  rw [counted_decode, filter_decode]
  rcases Cursor.readByte_cases hBound hAt with ⟨hDec, hRead⟩ | ⟨n, rest₁, hDec, hRead, hAt₁⟩
  · cases rest with
    | nil => exact Or.inl ⟨by simp, Or.inl hRead⟩
    | cons b rest => simp at hDec
  obtain rfl : rest = n :: rest₁ := ((decode_eq_some_iff _).mp hDec).2.symm
  -- the count is one the format admits, or neither side goes on
  by_cases hLimit : 1 ≤ n.toNat ∧ n.toNat ≤ limit.toNat
  · simp only [le_one_decode_cons, Option.filter_some, hLimit, and_self, decide_true, if_true,
      repeated_raw_decode]
    rcases Cursor.skip_cases (n.toNat * w) hBound hAt₁ with
      ⟨hDec', hSkip⟩ | ⟨front, rest₂, hDec', hLen, hSkip, hAt₂⟩
    · exact Or.inl ⟨by rw [hDec', Option.map_none], Or.inr ⟨n, _, hRead, Or.inr (Or.inr hSkip)⟩⟩
    · refine Or.inr ⟨chunks w n.toNat front, n, _, rest₂, by rw [hDec', Option.map_some], ?_, ?_,
        ?_, ?_, hRead, ?_, hSkip, hAt₂⟩
      · rw [length_chunks, UInt8.ofNat_toNat]
      · rw [length_chunks]
        exact hLimit.1
      · rw [length_chunks]
        exact hLimit.2
      · rw [length_chunks]
      · rw [hBad, not_not]
        exact hLimit
  · left
    refine ⟨?_, Or.inr ⟨n, _, hRead, ?_⟩⟩
    · simp only [le_one_decode_cons, Option.filter_some, hLimit, decide_false,
        Bool.false_eq_true, if_false]
    · exact or_assoc.mp (Or.inl ((hBad n).mpr hLimit))

/-- Reading the message prefix is decoding it: a byte below `0x80` is the signature
count of a legacy message, `0x80` is followed by that of a v0 message, and any other
byte is refused. -/
theorem readMessagePrefix_cases (hBound : bytes.length < usizeSize) (hAt : At bytes offset rest) :
    (messagePrefixFormat.decode rest = none ∧
      readMessagePrefix ⟨bytes, offset⟩ = .error .parse) ∨
      ∃ version required offset' rest',
        messagePrefixFormat.decode rest = some ((version, required), rest') ∧
        version ≠ .v1 ∧
        offset' = offset + (if version = .v0 then 1 else 0) + 1 ∧
        readMessagePrefix ⟨bytes, offset⟩ = .ok ((version, required), ⟨bytes, offset'⟩) ∧
        At bytes offset' rest' := by
  unfold readMessagePrefix
  rcases Cursor.readByte_cases hBound hAt with ⟨hDec, hRead⟩ | ⟨b, rest₁, hDec, hRead, hAt₁⟩
  · cases rest with
    | nil => exact Or.inl ⟨rfl, by simp [hRead]⟩
    | cons b rest => simp at hDec
  obtain rfl : rest = b :: rest₁ := ((decode_eq_some_iff _).mp hDec).2.symm
  simp only [hRead, ok_bind, messageVersionPrefix, and_0x80_eq_zero, messagePrefixFormat]
  by_cases hLegacy : b.toNat < 128
  · simp only [hLegacy, if_true]
    exact Or.inr ⟨.legacy, b, _, rest₁, rfl, by simp, rfl, rfl, hAt₁⟩
  simp only [hLegacy, if_false]
  -- the high bit is set: v0, or a version of its own
  by_cases hV0 : b = 0x80
  · simp only [hV0, if_true]
    rcases Cursor.readByte_cases hBound hAt₁ with
      ⟨hDec', hRead'⟩ | ⟨required, rest₂, hDec', hRead', hAt₂⟩
    · cases rest₁ with
      | nil => exact Or.inl ⟨rfl, by simp [hRead']⟩
      | cons c rest₁ => simp at hDec'
    · obtain rfl : rest₁ = required :: rest₂ := ((decode_eq_some_iff _).mp hDec').2.symm
      exact Or.inr ⟨.v0, required, _, rest₂, rfl, by simp, rfl, by simp [hRead'], hAt₂⟩
  · simp only [hV0, if_false]
    exact Or.inl ⟨trivial, rfl⟩

/-- An instruction takes three bytes at least: its program and two lengths. The room
check of the constructor asks for no more, so it refuses nothing the loop would read. -/
theorem instructionFormat_length (i : SanitizedInstructionView) :
    3 ≤ ((instructionFormat shortCount).encode i).length := by
  have hBytes : ∀ bs, 1 ≤ ((bytesFormat shortCount).encode bs).length := by
    intro bs
    rw [bytesFormat_encode, List.length_append]
    exact Nat.le_trans (length_encodeCompactU16_pos bs.length) (Nat.le_add_right ..)
  have := hBytes i.accounts
  have := hBytes i.data
  show 3 ≤ ([i.programIdIndex] ++ ((bytesFormat shortCount).encode i.accounts
    ++ (bytesFormat shortCount).encode i.data)).length
  simp only [List.length_append, List.length_singleton]
  omega

/-- Reading the instruction count, checking the room for it and running the
loop is decoding a counted list of instructions. -/
theorem instructionSection_cases (hBound : bytes.length < usizeSize)
    (hAt : At bytes offset rest) (numKeys : UInt8) :
    ((counted shortCount (instructionFormat shortCount)).decode rest = none ∧
      (Cursor.read ⟨bytes, offset⟩ readCompactU16At = .error .parse ∨
        ∃ n middle, Cursor.read ⟨bytes, offset⟩ readCompactU16At = .ok (n, ⟨bytes, middle⟩) ∧
          (Cursor.requireRemaining ⟨bytes, middle⟩ (n.toNat * 3) = .error .parse ∨
            Cursor.requireRemaining ⟨bytes, middle⟩ (n.toNat * 3) = .ok () ∧
            ∀ sanitizeError maximum, instructionLoop readCompactU16At numKeys n.toNat
              ⟨bytes, middle⟩ sanitizeError maximum = .error .parse))) ∨
      ∃ is n middle offset' rest',
        (counted shortCount (instructionFormat shortCount)).decode rest = some (is, rest') ∧
        n = UInt16.ofNat is.length ∧ is.length < 16384 ∧
        middle = offset + (encodeCompactU16 is.length).length ∧
        offset' = middle + (is.flatMap SanitizedInstructionView.serialize).length ∧
        Cursor.read ⟨bytes, offset⟩ readCompactU16At = .ok (n, ⟨bytes, middle⟩) ∧
        Cursor.requireRemaining ⟨bytes, middle⟩ (n.toNat * 3) = .ok () ∧
        (∀ sanitizeError maximum, instructionLoop readCompactU16At numKeys n.toNat
          ⟨bytes, middle⟩ sanitizeError maximum =
            .ok (⟨bytes, offset'⟩, sanitizeError || is.any (instructionRejected numKeys),
              is.foldl maximumStep maximum)) ∧
        At bytes offset' rest' := by
  have hU16 : shortU16.decode rest =
      (shortCount.decode rest).map fun p => (UInt16.ofNat p.1, p.2) := rfl
  have hEncode : (instructionFormat shortCount).encode = SanitizedInstructionView.serialize :=
    funext (instructionFormat_encode rfl)
  rw [counted_decode]
  rcases Cursor.read_cases readCompactU16At_reads hBound hAt with
    ⟨hNone, hRead⟩ | ⟨n, middle, unread, hSome, hValid, rfl, hRead, hAt₁⟩
  · rw [hU16, Option.map_eq_none_iff] at hNone
    exact Or.inl ⟨by rw [hNone], Or.inl hRead⟩
  have hDec : shortCount.decode rest = some (n.toNat, unread) := by
    rw [decode_eq_some_iff] at hSome ⊢
    exact hSome
  have hLen := hAt₁.length
  have hRoom : Cursor.requireRemaining ⟨bytes, offset + (shortU16.encode n).length⟩ (n.toNat * 3)
      = if n.toNat * 3 ≤ unread.length then .ok () else .error .parse := by
    rw [Cursor.requireRemaining, ← hLen, Nat.add_sub_cancel_left]
  simp only [hDec]
  -- the count of rounds is the same whatever the loop carries along
  have hLoop := fun sanitizeError maximum =>
    instructionLoop_cases hBound numKeys n.toNat hAt₁ sanitizeError maximum
  -- does the list decode? If not, the room check or the loop fails; if so, there was room for
  -- it
  cases hMany : ((instructionFormat shortCount).repeated n.toNat).decode unread with
  | none =>
    left
    refine ⟨rfl, Or.inr ⟨n, _, hRead, ?_⟩⟩
    rw [hRoom]
    split
    · refine Or.inr ⟨rfl, fun sanitizeError maximum => ?_⟩
      rcases hLoop sanitizeError maximum with ⟨-, hErr⟩ | ⟨is, o, r, hOk, -⟩
      · exact hErr
      · exact absurd (hMany.symm.trans hOk) (by simp)
    · exact Or.inl rfl
  | some p =>
    right
    obtain ⟨is, rest'⟩ := p
    have hCount : is.length = n.toNat := ((decode_eq_some_iff _).mp hMany).1.1
    have hFits : n.toNat * 3 ≤ unread.length := repeated_length_le instructionFormat_length hMany
    refine ⟨is, n, _, _, rest', rfl, by rw [hCount, UInt16.ofNat_toNat], by
      rw [hCount]; exact hValid.2, by rw [hCount]; rfl, rfl, hRead, by rw [hRoom, if_pos hFits],
      fun sanitizeError maximum => ?_, ?_⟩
    · rcases hLoop sanitizeError maximum with ⟨hErr, -⟩ | ⟨is', o, r, hOk, rfl, hEq, -⟩
      · exact absurd (hMany.symm.trans hErr) (by simp)
      · obtain ⟨rfl, rfl⟩ : is = is' ∧ rest' = r := by simpa using hMany.symm.trans hOk
        rw [hEq, hEncode]
    · rcases hLoop false none with ⟨hErr, -⟩ | ⟨is', o, r, hOk, rfl, -, hAt'⟩
      · exact absurd (hMany.symm.trans hErr) (by simp)
      · obtain ⟨rfl, rfl⟩ : is = is' ∧ rest' = r := by simpa using hMany.symm.trans hOk
        rw [hEncode] at hAt'
        exact hAt'

/-- Reading the lookup count, checking the room for it and running the loop is
decoding the lookup list, except that a list that ends the message is also
refused when it has less than 35 bytes for each lookup. -/
theorem lookupSection_cases (hShort : bytes.length < 16384) (hAt : At bytes offset rest)
    (version : MessageVersion) :
    ((∀ ls, (lookupsFormat shortCount version).decode rest = some (ls, []) →
        (ls.flatMap SanitizedAddressTableLookup.serialize).length < 35 * ls.length) ∧
      (readLookupCount version ⟨bytes, offset⟩ = .error .parse ∨
        ∃ count start middle,
          readLookupCount version ⟨bytes, offset⟩ = .ok ((count, start), ⟨bytes, middle⟩) ∧
          lookupLoop readCompactU16At count.toNat ⟨bytes, middle⟩ 0 0 false = .error .parse)) ∨
      ∃ ls count start middle offset' rest',
        (lookupsFormat shortCount version).decode rest = some (ls, rest') ∧
        count = UInt8.ofNat ls.length ∧
        start = (if version = .v0 then offset + 1 else 0) ∧
        writableSum ls + readonlySum ls < 16384 ∧
        (rest' = [] →
          35 * ls.length ≤ (ls.flatMap SanitizedAddressTableLookup.serialize).length) ∧
        readLookupCount version ⟨bytes, offset⟩ = .ok ((count, start), ⟨bytes, middle⟩) ∧
        lookupLoop readCompactU16At count.toNat ⟨bytes, middle⟩ 0 0 false =
          .ok (⟨bytes, offset'⟩, UInt16.ofNat (writableSum ls), UInt16.ofNat (readonlySum ls),
            ls.any lookupRejected) ∧
        At bytes offset' rest' := by
  have hBound : bytes.length < usizeSize := Nat.lt_trans hShort (by decide)
  have hEncode : (lookupFormat shortCount).encode = SanitizedAddressTableLookup.serialize :=
    funext (lookupFormat_encode rfl)
  unfold lookupsFormat readLookupCount
  by_cases hV0 : version = .v0
  · simp only [hV0, if_true, counted_decode, filter_decode]
    rcases Cursor.readByte_cases hBound hAt with ⟨hDec, hRead⟩ | ⟨count, rest₁, hDec, hRead, hAt₁⟩
    · cases rest with
      | nil => exact Or.inl ⟨by simp, Or.inl (by simp [hRead])⟩
      | cons b rest => simp at hDec
    obtain rfl : rest = count :: rest₁ := ((decode_eq_some_iff _).mp hDec).2.symm
    simp only [hRead, ok_bind, le_one_decode_cons]
    have hLimit : count > maxAddressTableLookupsPerPacket ↔ ¬ count.toNat ≤ 31 := by
      rw [gt_iff_lt, UInt8.lt_iff_toNat_lt, not_le]
      rfl
    -- more lookups than a packet may have are refused on both sides
    by_cases hCount : count.toNat ≤ 31
    swap
    · left
      simp only [hLimit, hCount, not_false_eq_true, if_true, Option.filter_some, decide_false,
        Bool.false_eq_true, if_false]
      exact ⟨by simp, Or.inl rfl⟩
    have hLen := hAt₁.length
    have hMul : checkedMul count.toNat 35 = some (count.toNat * 35) :=
      checkedMul_of_lt (Nat.lt_of_le_of_lt (Nat.mul_le_mul_right 35 hCount) (by decide))
    have hRoom : Cursor.requireRemaining ⟨bytes, offset + 1⟩ (count.toNat * 35)
        = if count.toNat * 35 ≤ rest₁.length then .ok () else .error .parse := by
      rw [Cursor.requireRemaining, ← hLen, Nat.add_sub_cancel_left]
    simp only [hLimit, hCount, not_true_eq_false, if_false, Option.filter_some, decide_true,
      if_true, hMul, okOr_some, ok_bind, hRoom]
    rcases lookupLoop_cases hBound count.toNat hAt₁ 0 0 (by omega)
        (by omega) false with
      ⟨hDec', hLoop⟩ | ⟨ls, _, rest₂, hDec', rfl, hLoop, hShrink, hAt₂⟩
    · left
      refine ⟨by simp [hDec'], ?_⟩
      split
      · exact Or.inr ⟨count, offset + 1, offset + 1, rfl, hLoop⟩
      · exact Or.inl rfl
    -- the bytes of the decoded lookups, to compare with the room that was asked for
    have hTotal := ((decode_eq_some_iff _).mp hDec').2
    have hItems : ls.length = count.toNat := ((decode_eq_some_iff _).mp hDec').1.1
    have hBytes : (ls.flatMap SanitizedAddressTableLookup.serialize).length + rest₂.length
        = rest₁.length := by
      rw [← hTotal, ← hEncode, repeated_encode, List.length_append]
    split
    · rename_i hFits
      right
      simp only [Nat.zero_add, Bool.false_or] at hLoop
      refine ⟨ls, count, offset + 1, offset + 1, _, rest₂, hDec', ?_, rfl, by omega, ?_, rfl,
        hLoop, hAt₂⟩
      · rw [hItems, UInt8.ofNat_toNat]
      · rintro rfl
        rw [List.length_nil] at hBytes
        omega
    · rename_i hFits
      refine Or.inl ⟨?_, Or.inl rfl⟩
      intro ls' hSome
      obtain ⟨rfl, rfl⟩ : ls = ls' ∧ rest₂ = [] := by simpa using hDec'.symm.trans hSome
      rw [List.length_nil] at hBytes
      omega
  · simp only [hV0, if_false]
    exact Or.inr ⟨[], 0, 0, offset, offset, rest, rfl, rfl, rfl, by decide, fun _ => Nat.le_refl _,
      rfl, rfl, hAt⟩

-- ---------------------------------------------------------------------------
-- The sanitize rules
-- ---------------------------------------------------------------------------

/-- The largest index reaches a threshold when some index does, so the constructor need
only keep the largest. -/
theorem maximumStep_any (threshold : UInt16) (is : List SanitizedInstructionView)
    (maximum : Option UInt8) :
    ((is.foldl maximumStep maximum).any fun index => decide (index.toUInt16 ≥ threshold)) =
      ((maximum.any fun index => decide (index.toUInt16 ≥ threshold)) ||
        is.any fun i => i.accounts.any fun index => decide (index.toUInt16 ≥ threshold)) := by
  -- within one instruction, then over all of them
  have hStep : ∀ (accounts : Bytes) (maximum : Option UInt8),
      ((accounts.foldl (fun maximum index =>
          some (maximum.elim index fun current => max current index)) maximum).any
        fun index => decide (index.toUInt16 ≥ threshold)) =
      ((maximum.any fun index => decide (index.toUInt16 ≥ threshold)) ||
        accounts.any fun index => decide (index.toUInt16 ≥ threshold)) := by
    intro accounts
    induction accounts with
    | nil => simp
    | cons index accounts ih =>
      intro maximum
      rw [List.foldl_cons, ih, List.any_cons, ← Bool.or_assoc]
      cases maximum with
      | none => rfl
      | some current =>
        have hMax : (max current index).toUInt16 ≥ threshold ↔
            current.toUInt16 ≥ threshold ∨ index.toUInt16 ≥ threshold := by
          have hDef : max current index = if current ≤ index then index else current := rfl
          simp only [hDef, ge_iff_le, UInt16.le_iff_toNat_le, UInt8.le_iff_toNat_le]
          split_ifs <;> simp only [UInt8.toNat_toUInt16] <;> omega
        simp [hMax]
  induction is generalizing maximum with
  | nil => simp
  | cons i is ih => rw [List.foldl_cons, ih, maximumStep, hStep, List.any_cons, Bool.or_assoc]

/-- A sum that fits does not saturate. -/
theorem toNat_u16SaturatingAdd {a b : UInt16} (h : a.toNat + b.toNat < 2 ^ 16) :
    (u16SaturatingAdd a b).toNat = a.toNat + b.toNat := by
  rw [u16SaturatingAdd, if_pos h, UInt16.toNat_add, Nat.mod_eq_of_lt h]

/-- The two flags about the header and the signatures, in `u8` arithmetic, against the
four rules over natural numbers. The subtraction of the source can wrap, but then
another rule is broken already. -/
theorem headerRejected_iff {signatures keys : Nat} (required readonlySigned readonlyUnsigned : UInt8)
    (hOne : 1 ≤ signatures) (hSigs : signatures ≤ 12) (hKeys : keys ≤ 38) :
    (decide (required = 0 ∨ readonlySigned ≥ required
        ∨ readonlyUnsigned > UInt8.ofNat keys - required)
      || decide (UInt8.ofNat signatures ≠ required ∨ UInt8.ofNat keys < UInt8.ofNat signatures))
      = true ↔
    ¬ (required.toNat = signatures ∧ readonlySigned.toNat < required.toNat ∧
      required.toNat ≤ keys ∧ readonlyUnsigned.toNat ≤ keys - required.toNat) := by
  have hZero : required = 0 ↔ required.toNat = 0 := by
    rw [← UInt8.toNat_inj]
    rfl
  have hSig8 : (UInt8.ofNat signatures).toNat = signatures := by
    rw [UInt8.toNat_ofNat']
    omega
  have hKey8 : (UInt8.ofNat keys).toNat = keys := by
    rw [UInt8.toNat_ofNat']
    omega
  have hEq : UInt8.ofNat signatures ≠ required ↔ required.toNat ≠ signatures := by
    rw [Ne, ← UInt8.toNat_inj, hSig8, eq_comm]
  have hReq := required.toNat_lt
  simp only [Bool.or_eq_true, decide_eq_true_eq, hZero, hEq, ge_iff_le, gt_iff_lt,
    UInt8.le_iff_toNat_le, UInt8.lt_iff_toNat_lt, hSig8, hKey8, UInt8.toNat_sub]
  -- the wrapped difference only shows when the key count is already too small
  by_cases hLe : required.toNat ≤ keys
  · have : (2 ^ 8 - required.toNat + keys) % 2 ^ 8 = keys - required.toNat := by omega
    rw [this]
    omega
  · omega

/-- The flag about account access, with its saturating sums and its largest index,
against the two rules about the number of accounts and every index. -/
theorem accessRejected_iff {keys writable readonly : Nat} (is : List SanitizedInstructionView)
    (hKeys : keys ≤ 38) (hTotals : writable + readonly < 16384) :
    decide (u16SaturatingAdd (u16SaturatingAdd (UInt8.ofNat keys).toUInt16 (UInt16.ofNat writable))
          (UInt16.ofNat readonly) > 256
        ∨ (is.foldl maximumStep none).any (fun index => decide (index.toUInt16 ≥
          u16SaturatingAdd (u16SaturatingAdd (UInt8.ofNat keys).toUInt16 (UInt16.ofNat writable))
            (UInt16.ofNat readonly))) = true) = true ↔
    ¬ (keys + writable + readonly ≤ 256 ∧
      ∀ i ∈ is, ∀ index ∈ i.accounts, index.toNat < keys + writable + readonly) := by
  have hKey16 : (UInt8.ofNat keys).toUInt16.toNat = keys := by
    rw [UInt8.toNat_toUInt16, UInt8.toNat_ofNat']
    omega
  have hWritable : (UInt16.ofNat writable).toNat = writable := by
    rw [UInt16.toNat_ofNat']
    omega
  have hReadonly : (UInt16.ofNat readonly).toNat = readonly := by
    rw [UInt16.toNat_ofNat']
    omega
  -- no sum saturates: there are at most 38 keys and fewer than 16384 loaded accounts
  have hSum : (u16SaturatingAdd (UInt8.ofNat keys).toUInt16 (UInt16.ofNat writable)).toNat
      = keys + writable := by
    rw [toNat_u16SaturatingAdd (by omega), hKey16, hWritable]
  have hTotal : (u16SaturatingAdd (u16SaturatingAdd (UInt8.ofNat keys).toUInt16
      (UInt16.ofNat writable)) (UInt16.ofNat readonly)).toNat = keys + writable + readonly := by
    rw [toNat_u16SaturatingAdd (by omega), hSum, hReadonly]
  rw [decide_eq_true_eq, maximumStep_any, Option.any_none, Bool.false_or, not_and_or, not_le]
  refine or_congr ?_ ?_
  · rw [gt_iff_lt, UInt16.lt_iff_toNat_lt, hTotal]
    rfl
  · simp only [List.any_eq_true, decide_eq_true_eq, ge_iff_le, UInt16.le_iff_toNat_le, hTotal,
      UInt8.toNat_toUInt16, not_forall, not_lt, exists_prop]

/-- The deferred error of the instruction loop, with the check on the number of
instructions made before it, against the three rules about instructions. -/
theorem instructionsRejected_iff {keys : Nat} (is : List SanitizedInstructionView)
    (hOne : 1 ≤ keys) (hKeys : keys ≤ 38) (hMany : is.length < 16384) :
    (decide (UInt16.ofNat is.length > maxInstructions)
      || is.any (instructionRejected (UInt8.ofNat keys))) = true ↔
    ¬ (is.length ≤ 64 ∧
      (∀ i ∈ is, 1 ≤ i.programIdIndex.toNat ∧ i.programIdIndex.toNat ≤ keys - 1) ∧
      ∀ i ∈ is, i.accounts.length ≤ 255) := by
  have hKey8 : (UInt8.ofNat keys).toNat = keys := by
    rw [UInt8.toNat_ofNat']
    omega
  have hLen16 : (UInt16.ofNat is.length).toNat = is.length := by
    rw [UInt16.toNat_ofNat']
    omega
  have hLimit : UInt16.ofNat is.length > maxInstructions ↔ ¬ is.length ≤ 64 := by
    rw [gt_iff_lt, UInt16.lt_iff_toNat_lt, hLen16, not_le]
    rfl
  have hItem : ∀ i : SanitizedInstructionView,
      instructionRejected (UInt8.ofNat keys) i = true ↔
        ¬ ((1 ≤ i.programIdIndex.toNat ∧ i.programIdIndex.toNat ≤ keys - 1)
          ∧ i.accounts.length ≤ 255) := by
    intro i
    have hZero : i.programIdIndex = 0 ↔ i.programIdIndex.toNat = 0 := by
      rw [← UInt8.toNat_inj]
      rfl
    simp only [instructionRejected, Bool.or_eq_true, decide_eq_true_eq, hZero, ge_iff_le,
      UInt8.le_iff_toNat_le, hKey8]
    omega
  rw [← forall₂_and, Bool.or_eq_true, decide_eq_true_eq, hLimit, List.any_eq_true, not_and_or]
  simp only [hItem, not_forall, exists_prop]

/-- The deferred error of the lookup loop: some lookup loads nothing. -/
theorem lookupsRejected_iff (ls : List SanitizedAddressTableLookup) :
    ls.any lookupRejected = true ↔
      ¬ ∀ l ∈ ls, l.writableIndexes ≠ [] ∨ l.readonlyIndexes ≠ [] := by
  simp only [List.any_eq_true, lookupRejected, decide_eq_true_eq, List.length_eq_zero_iff,
    not_forall, not_or, not_not, exists_prop, ne_eq]

/-- The checks behind the last byte are the sanitize rules: the flags of the constructor
are set exactly when one of the rules is broken. -/
theorem packetRejected_iff (tx : PacketTransaction) (hOne : 1 ≤ tx.signatures.length)
    (hSigs : tx.signatures.length ≤ 12) (hKey : 1 ≤ tx.accountKeys.length)
    (hKeys : tx.accountKeys.length ≤ 38) (hMany : tx.instructions.length < 16384)
    (hTotals : writableSum tx.lookups + readonlySum tx.lookups < 16384) :
    (decide (tx.numRequiredSignatures = 0 ∨ tx.numReadonlySigned ≥ tx.numRequiredSignatures
        ∨ tx.numReadonlyUnsigned > UInt8.ofNat tx.accountKeys.length - tx.numRequiredSignatures)
      || decide (UInt8.ofNat tx.signatures.length ≠ tx.numRequiredSignatures
        ∨ UInt8.ofNat tx.accountKeys.length < UInt8.ofNat tx.signatures.length)
      || decide (u16SaturatingAdd (u16SaturatingAdd (UInt8.ofNat tx.accountKeys.length).toUInt16
            (UInt16.ofNat (writableSum tx.lookups))) (UInt16.ofNat (readonlySum tx.lookups)) > 256
        ∨ (tx.instructions.foldl maximumStep none).any (fun index => decide (index.toUInt16 ≥
          u16SaturatingAdd (u16SaturatingAdd (UInt8.ofNat tx.accountKeys.length).toUInt16
            (UInt16.ofNat (writableSum tx.lookups))) (UInt16.ofNat (readonlySum tx.lookups))))
          = true)
      || (decide (UInt16.ofNat tx.instructions.length > maxInstructions)
        || tx.instructions.any (instructionRejected (UInt8.ofNat tx.accountKeys.length)))
      || tx.lookups.any lookupRejected) = true ↔ ¬ tx.Sanitary := by
  rw [Bool.or_eq_true, Bool.or_eq_true, Bool.or_eq_true, lookupsRejected_iff,
    instructionsRejected_iff _ hKey hKeys hMany, accessRejected_iff _ hKeys hTotals,
    headerRejected_iff _ _ _ hOne hSigs hKeys, PacketTransaction.sanitary_iff,
    PacketTransaction.totalAccounts]
  tauto

/-- The view of a legacy or v0 transaction: its counts, and the offsets at
which its parts stand in the serialization. -/
def PacketTransaction.view (tx : PacketTransaction) : SanitizedTransactionView :=
  let staticAccountKeysOffset := 1 + tx.signatures.length * 64 + tx.versionPrefix.length + 4
  let recentBlockhashOffset := staticAccountKeysOffset + tx.accountKeys.length * 32
  let instructionsOffset :=
    recentBlockhashOffset + 32 + (encodeCompactU16 tx.instructions.length).length
  { bytes := tx.serialize
    messageVersion := tx.messageVersion
    numSignatures := UInt8.ofNat tx.signatures.length
    signaturesOffset := 1
    numRequiredSignatures := tx.numRequiredSignatures
    numReadonlySignedStaticAccounts := tx.numReadonlySigned
    numReadonlyUnsignedStaticAccounts := tx.numReadonlyUnsigned
    numStaticAccountKeys := UInt8.ofNat tx.accountKeys.length
    staticAccountKeysOffset
    recentBlockhashOffset
    numInstructions := UInt16.ofNat tx.instructions.length
    instructionsOffset
    instructionPayloadsOffset := 0
    instructionLayout := .legacyAndV0
    numAddressTableLookups := UInt8.ofNat tx.lookups.length
    addressTableLookupsOffset :=
      if tx.messageVersion = .v0 then
        instructionsOffset
          + (tx.instructions.flatMap SanitizedInstructionView.serialize).length + 1
      else 0
    totalWritableLookupAccounts := UInt16.ofNat (writableSum tx.lookups)
    totalReadonlyLookupAccounts := UInt16.ofNat (readonlySum tx.lookups)
    transactionConfigMask := 0
    transactionConfigValuesOffset := 0 }

-- ---------------------------------------------------------------------------
-- The phases of the constructor
-- ---------------------------------------------------------------------------

/-- What the constructor has read when it comes to the instructions, with what it has
checked by then. -/
structure PacketHead where
  signatures : List (FixedBytes 64)
  version : MessageVersion
  required : UInt8
  readonlySigned : UInt8
  readonlyUnsigned : UInt8
  keys : List (FixedBytes 32)
  hash : FixedBytes 32
  one_le_signatures : 1 ≤ signatures.length
  signatures_le : signatures.length ≤ 12
  one_le_keys : 1 ≤ keys.length
  keys_le : keys.length ≤ 38

namespace PacketHead

/-- The transaction that the head starts, given the two lists behind it. -/
def transaction (head : PacketHead) (instructions : List SanitizedInstructionView)
    (lookups : List SanitizedAddressTableLookup) : PacketTransaction where
  signatures := head.signatures
  messageVersion := head.version
  numRequiredSignatures := head.required
  numReadonlySigned := head.readonlySigned
  numReadonlyUnsigned := head.readonlyUnsigned
  accountKeys := head.keys
  recentBlockhash := head.hash
  instructions
  lookups

def keysOffset (head : PacketHead) : Nat :=
  1 + head.signatures.length * 64 + (if head.version = .v0 then 1 else 0) + 4

def blockhashOffset (head : PacketHead) : Nat := head.keysOffset + head.keys.length * 32

/-- The decoder from the lookups on. -/
def decodeLookups (head : PacketHead) (instructions : List SanitizedInstructionView)
    (rest : Bytes) : Option (PacketTransaction × Bytes) :=
  ((lookupsFormat shortCount head.version).decode rest).map fun lookups =>
    (head.transaction instructions lookups.1, lookups.2)

/-- The decoder from the instructions on. -/
def decodeInstructions (head : PacketHead) (rest : Bytes) : Option (PacketTransaction × Bytes) :=
  ((counted shortCount (instructionFormat shortCount)).decode rest).bind fun is =>
    head.decodeLookups is.1 is.2

/-- The constructor behind the lookups. -/
def finish (head : PacketHead) (bytes : Bytes) (numInstructions : UInt16)
    (instructionsOffset : Nat) (instructionSanitizeError : Bool)
    (maximumInstructionAccountIndex : Option UInt8) (numAddressTableLookups : UInt8)
    (addressTableLookupsOffset : Nat) (totalWritable totalReadonly : UInt16)
    (lookupSanitizeError : Bool) (cursor : Cursor) :
    Except TransactionViewError SanitizedTransactionView := do
  let numSignatures := UInt8.ofNat head.signatures.length
  let numStaticAccountKeys := UInt8.ofNat head.keys.length
  if cursor.offset ≠ bytes.length then throw .parse else
  let headerIsInvalid : Bool := head.required = 0
    ∨ head.readonlySigned ≥ head.required
    ∨ head.readonlyUnsigned > numStaticAccountKeys - head.required
  let signaturesAreInvalid : Bool := numSignatures ≠ head.required
    ∨ numStaticAccountKeys < numSignatures
  let totalAccounts := u16SaturatingAdd
    (u16SaturatingAdd numStaticAccountKeys.toUInt16 totalWritable) totalReadonly
  let accountAccessIsInvalid : Bool := totalAccounts > 256
    ∨ maximumInstructionAccountIndex.any fun index => index.toUInt16 ≥ totalAccounts
  if headerIsInvalid || signaturesAreInvalid || accountAccessIsInvalid
      || instructionSanitizeError || lookupSanitizeError then
    throw .sanitize
  else
  return {
    bytes
    messageVersion := head.version
    numSignatures
    signaturesOffset := 1
    numRequiredSignatures := head.required
    numReadonlySignedStaticAccounts := head.readonlySigned
    numReadonlyUnsignedStaticAccounts := head.readonlyUnsigned
    numStaticAccountKeys
    staticAccountKeysOffset := head.keysOffset
    recentBlockhashOffset := head.blockhashOffset
    numInstructions
    instructionsOffset
    instructionPayloadsOffset := 0
    instructionLayout := .legacyAndV0
    numAddressTableLookups
    addressTableLookupsOffset
    totalWritableLookupAccounts := totalWritable
    totalReadonlyLookupAccounts := totalReadonly
    transactionConfigMask := 0
    transactionConfigValuesOffset := 0 }

/-- The constructor from the lookups on. -/
def readLookups (head : PacketHead) (bytes : Bytes) (numInstructions : UInt16)
    (instructionsOffset : Nat) (instructionSanitizeError : Bool)
    (maximumInstructionAccountIndex : Option UInt8) (cursor : Cursor) :
    Except TransactionViewError SanitizedTransactionView := do
  let ((numAddressTableLookups, addressTableLookupsOffset), cursor) ←
    readLookupCount head.version cursor
  let (cursor, totalWritable, totalReadonly, lookupSanitizeError) ←
    lookupLoop readCompactU16At numAddressTableLookups.toNat cursor 0 0 false
  head.finish bytes numInstructions instructionsOffset instructionSanitizeError
    maximumInstructionAccountIndex numAddressTableLookups addressTableLookupsOffset totalWritable
    totalReadonly lookupSanitizeError cursor

/-- The constructor from the instructions on. -/
def readInstructions (head : PacketHead) (bytes : Bytes) (cursor : Cursor) :
    Except TransactionViewError SanitizedTransactionView := do
  let (numInstructions, cursor) ← cursor.read readCompactU16At
  let instructionsOffset := cursor.offset
  let minimumInstructionBytes ← okOr .parse (checkedMul numInstructions.toNat 3)
  cursor.requireRemaining minimumInstructionBytes
  let (cursor, instructionSanitizeError, maximumInstructionAccountIndex) ←
    instructionLoop readCompactU16At (UInt8.ofNat head.keys.length) numInstructions.toNat cursor
      (numInstructions > maxInstructions) none
  head.readLookups bytes numInstructions instructionsOffset instructionSanitizeError
    maximumInstructionAccountIndex cursor

end PacketHead

/-- A block list that does not decode: the constructor stops at its count or behind it. -/
theorem readBlocks_fails {α : Type} {limit : UInt8} {w : Nat} {cursor : Cursor}
    (h : cursor.readByte = .error .parse ∨
      ∃ n cursor', cursor.readByte = .ok (n, cursor') ∧
        (n = 0 ∨ n > limit ∨ cursor'.skip (n.toNat * w) = .error .parse))
    (behind : UInt8 × Cursor → Cursor → Except TransactionViewError α) :
    (cursor.readByte >>= fun read =>
      if read.1 = 0 ∨ read.1 > limit then throw .parse else
        read.2.skip (read.1.toNat * w) >>= behind read) = .error .parse := by
  rcases h with hFail | ⟨n, cursor', hOk, hFail⟩
  · rw [hFail]
    rfl
  · rw [hOk, ok_bind]
    rcases or_assoc.mpr hFail with hBad | hFail
    · exact if_pos hBad
    · split
      · rfl
      · rw [hFail]
        rfl

/-- **Signatures, header and keys.** Both sides read the same head, or fail. -/
theorem packetHead_cases (hShort : bytes.length < 16384) :
    ((packetFormat shortCount).decode bytes = none ∧
      tryNewLegacyV0 readCompactU16At bytes = .error .parse) ∨
    ∃ (head : PacketHead) (rest : Bytes), At bytes (head.blockhashOffset + 32) rest ∧
      (packetFormat shortCount).decode bytes = head.decodeInstructions rest ∧
      tryNewLegacyV0 readCompactU16At bytes =
        head.readInstructions bytes ⟨bytes, head.blockhashOffset + 32⟩ := by
  have hBound : bytes.length < usizeSize := Nat.lt_trans hShort (by decide)
  rw [packetFormat_decode]
  unfold tryNewLegacyV0 Cursor.new
  simp only [signatureBytes, pubkeyBytes, blockhashBytes]
  -- the signatures
  rcases readBlocks_cases 64 maxSignaturesPerPacket 12 rfl hBound (At.start bytes) with
    ⟨hDec₁, hFail⟩ | ⟨signatures, numSignatures, _, rest₁, hDec₁, rfl, hSigs₁, hSigs, rfl, hRead,
      hLimit, hSkip, hAt₁⟩
  · exact Or.inl ⟨by rw [hDec₁, Option.bind_none], readBlocks_fails hFail _⟩
  simp only [hDec₁, hRead, ok_bind, if_neg hLimit, hSkip, Option.bind_some]
  -- the version and the three counts of the header
  rcases readMessagePrefix_cases hBound hAt₁ with
    ⟨hDec₂, hFail⟩ | ⟨version, required, _, rest₂, hDec₂, -, rfl, hRead, hAt₂⟩
  · exact Or.inl ⟨by simp [hDec₂], by simp [hFail]⟩
  simp only [hDec₂, hRead, ok_bind, Option.bind_some]
  rcases Cursor.readByte_cases hBound hAt₂ with
    ⟨hDec₃, hFail⟩ | ⟨readonlySigned, rest₃, hDec₃, hRead, hAt₃⟩
  · exact Or.inl ⟨by simp [hDec₃], by simp [hFail]⟩
  simp only [hDec₃, hRead, ok_bind, Option.bind_some]
  rcases Cursor.readByte_cases hBound hAt₃ with
    ⟨hDec₄, hFail⟩ | ⟨readonlyUnsigned, rest₄, hDec₄, hRead, hAt₄⟩
  · exact Or.inl ⟨by simp [hDec₄], by simp [hFail]⟩
  simp only [hDec₄, hRead, ok_bind, Option.bind_some]
  -- the account keys
  rcases readBlocks_cases 32 maxStaticAccountsPerPacket 38 rfl hBound hAt₄ with
    ⟨hDec₅, hFail⟩ | ⟨keys, numKeys, _, rest₅, hDec₅, rfl, hKeys₁, hKeys, rfl, hRead, hLimit,
      hSkip, hAt₅⟩
  · exact Or.inl ⟨by rw [hDec₅, Option.bind_none], readBlocks_fails hFail _⟩
  simp only [hDec₅, hRead, ok_bind, if_neg hLimit, hSkip, Option.bind_some, raw_decode]
  -- the blockhash
  rcases Cursor.skip_cases 32 hBound hAt₅ with
    ⟨hDec₆, hFail⟩ | ⟨hash, rest₆, hDec₆, hHash, hSkip, hAt₆⟩
  · exact Or.inl ⟨by simp [hDec₆], by simp [hFail]⟩
  simp only [hDec₆, hSkip, ok_bind, Option.map_some, Option.bind_some]
  have hKeysOffset : 0 + 1 + signatures.length * 64 + (if version = .v0 then 1 else 0) + 1 + 1 + 1
      + 1 = 1 + signatures.length * 64 + (if version = .v0 then 1 else 0) + 4 := by omega
  rw [hKeysOffset] at hAt₆ ⊢
  rw [Nat.zero_add]
  exact Or.inr ⟨⟨signatures, version, required, readonlySigned, readonlyUnsigned, keys,
    FixedBytes.pad 32 hash, hSigs₁, hSigs, hKeys₁, hKeys⟩, rest₆, hAt₆, rfl, rfl⟩

namespace PacketHead

variable {head : PacketHead}

/-- **The instructions.** The constructor keeps apart what makes an instruction
unsanitary, and the largest account index, and looks at them behind the last byte. -/
theorem readInstructions_cases (hBound : bytes.length < usizeSize) (hAt : At bytes offset rest) :
    (head.decodeInstructions rest = none ∧
      head.readInstructions bytes ⟨bytes, offset⟩ = .error .parse) ∨
    ∃ (instructions : List SanitizedInstructionView) (instructionsOffset offset' : Nat)
      (rest' : Bytes), instructions.length < 16384 ∧
      instructionsOffset = offset + (encodeCompactU16 instructions.length).length ∧
      offset' = instructionsOffset
        + (instructions.flatMap SanitizedInstructionView.serialize).length ∧
      At bytes offset' rest' ∧
      head.decodeInstructions rest = head.decodeLookups instructions rest' ∧
      head.readInstructions bytes ⟨bytes, offset⟩ =
        head.readLookups bytes (UInt16.ofNat instructions.length) instructionsOffset
          (decide (UInt16.ofNat instructions.length > maxInstructions)
            || instructions.any (instructionRejected (UInt8.ofNat head.keys.length)))
          (instructions.foldl maximumStep none) ⟨bytes, offset'⟩ := by
  have hMul : ∀ n : UInt16, checkedMul n.toNat 3 = some (n.toNat * 3) := fun n =>
    checkedMul_of_lt (Nat.lt_of_lt_of_le (Nat.mul_lt_mul_of_pos_right n.toNat_lt (by decide))
      (by decide))
  unfold decodeInstructions readInstructions
  rcases instructionSection_cases hBound hAt (UInt8.ofNat head.keys.length) with
    ⟨hDec, hFail⟩ | ⟨instructions, _, _, _, rest', hDec, rfl, hMany, rfl, rfl, hRead, hRoom, hLoop,
      hAt'⟩
  · left
    refine ⟨by rw [hDec, Option.bind_none], ?_⟩
    rcases hFail with hFail | ⟨n, middle, hOk, hFail⟩
    · rw [hFail, error_bind]
    · rcases hFail with hFail | ⟨hOk', hFail⟩
      · simp only [hOk, hMul, okOr_some, ok_bind, hFail, error_bind]
      · simp only [hOk, hMul, okOr_some, ok_bind, hOk', hFail, error_bind]
  · refine Or.inr ⟨instructions, _, _, rest', hMany, rfl, rfl, hAt', by rw [hDec, Option.bind_some],
      ?_⟩
    simp only [hRead, hMul, hRoom, hLoop, okOr_some, ok_bind]

/-- **The lookups.** Here the constructor is stricter than the format: it wants room for
all lookups before it reads the first. -/
theorem readLookups_cases {instructions : List SanitizedInstructionView}
    {numInstructions : UInt16} {instructionsOffset : Nat} {sanitizeError : Bool}
    {maximum : Option UInt8} (hShort : bytes.length < 16384) (hAt : At bytes offset rest) :
    ((∀ tx, head.decodeLookups instructions rest = some (tx, []) → ¬ tx.LookupRoom) ∧
      head.readLookups bytes numInstructions instructionsOffset sanitizeError maximum
        ⟨bytes, offset⟩ = .error .parse) ∨
    ∃ (lookups : List SanitizedAddressTableLookup) (offset' : Nat) (rest' : Bytes),
      writableSum lookups + readonlySum lookups < 16384 ∧
      (rest' = [] → (head.transaction instructions lookups).LookupRoom) ∧
      At bytes offset' rest' ∧
      head.decodeLookups instructions rest = some (head.transaction instructions lookups, rest') ∧
      head.readLookups bytes numInstructions instructionsOffset sanitizeError maximum
          ⟨bytes, offset⟩ =
        head.finish bytes numInstructions instructionsOffset sanitizeError maximum
          (UInt8.ofNat lookups.length) (if head.version = .v0 then offset + 1 else 0)
          (UInt16.ofNat (writableSum lookups)) (UInt16.ofNat (readonlySum lookups))
          (lookups.any lookupRejected) ⟨bytes, offset'⟩ := by
  unfold decodeLookups readLookups
  rcases lookupSection_cases hShort hAt head.version with
    ⟨hDec, hFail⟩ | ⟨lookups, _, _, middle, offset', rest', hDec, rfl, rfl, hTotals, hFits, hRead,
      hLoop, hAt'⟩
  · left
    constructor
    · intro tx hSome
      obtain ⟨⟨lookups, unread⟩, hLookups, hEq⟩ := Option.map_eq_some_iff.mp hSome
      obtain ⟨rfl, rfl⟩ := Prod.mk.inj hEq
      exact not_le.mpr (hDec lookups hLookups)
    · rcases hFail with hFail | ⟨count, start, middle, hOk, hFail⟩
      · simp only [hFail, error_bind]
      · simp only [hOk, hFail, ok_bind, error_bind]
  · refine Or.inr ⟨lookups, offset', rest', hTotals, hFits, hAt', by rw [hDec, Option.map_some], ?_⟩
    simp only [hRead, hLoop, ok_bind]

/-- **The end of the input.** With nothing left the sanitize rules decide. -/
theorem finish_eq {instructions : List SanitizedInstructionView}
    {lookups : List SanitizedAddressTableLookup} {instructionsOffset lookupsOffset : Nat}
    (hAt : At bytes offset rest) (hMany : instructions.length < 16384)
    (hTotals : writableSum lookups + readonlySum lookups < 16384)
    (hInstructions : instructionsOffset =
      head.blockhashOffset + 32 + (encodeCompactU16 instructions.length).length)
    (hLookups : lookupsOffset = if head.version = .v0 then
      instructionsOffset + (instructions.flatMap SanitizedInstructionView.serialize).length + 1
      else 0) :
    head.finish bytes (UInt16.ofNat instructions.length) instructionsOffset
      (decide (UInt16.ofNat instructions.length > maxInstructions)
        || instructions.any (instructionRejected (UInt8.ofNat head.keys.length)))
      (instructions.foldl maximumStep none) (UInt8.ofNat lookups.length) lookupsOffset
      (UInt16.ofNat (writableSum lookups)) (UInt16.ofNat (readonlySum lookups))
      (lookups.any lookupRejected) ⟨bytes, offset⟩ =
        if rest = [] then
          if (head.transaction instructions lookups).Sanitary then
            .ok { (head.transaction instructions lookups).view with bytes }
          else .error .sanitize
        else .error .parse := by
  have hLen := hAt.length
  unfold finish
  by_cases hEnd : rest = []
  swap
  · have hTrailing : offset ≠ bytes.length := by
      have := List.length_pos_iff.mpr hEnd
      omega
    rw [if_neg hEnd, if_pos hTrailing]
    rfl
  subst hEnd
  rw [if_pos rfl, if_neg (by simpa using hLen)]
  -- the flags together are the negated sanitize rules
  have hRejected := packetRejected_iff (head.transaction instructions lookups)
    head.one_le_signatures head.signatures_le head.one_le_keys head.keys_le hMany hTotals
  refine (if_congr hRejected rfl ?_).trans (ite_not _ _ _)
  -- the offsets are those of the view
  have hPrefix : (head.transaction instructions lookups).versionPrefix.length =
      if head.version = .v0 then 1 else 0 := by
    rw [PacketTransaction.versionPrefix]
    show (if head.version = .v0 then [messageVersionPrefix] else []).length = _
    split <;> rfl
  subst hInstructions hLookups
  rw [PacketTransaction.view, hPrefix]
  rfl

end PacketHead

/-- **The constructor is the decoder followed by checks.** On a string shorter than
`16384` bytes it either fails with `Parse`, and then the string is no serialization with
room for its lookups, or it has read such a transaction, and then the sanitize rules
decide between its view and `Sanitize`. The phases are compared one after another; each
lemma above hands over the bytes that are left. -/
theorem tryNewLegacyV0_cases (hShort : bytes.length < 16384) :
    ((∀ tx, (packetFormat shortCount).decode bytes = some (tx, []) → ¬ tx.LookupRoom) ∧
      tryNewLegacyV0 readCompactU16At bytes = .error .parse) ∨
    ∃ tx, (packetFormat shortCount).decode bytes = some (tx, []) ∧ tx.LookupRoom ∧
      tryNewLegacyV0 readCompactU16At bytes =
        if tx.Sanitary then .ok tx.view else .error .sanitize := by
  have hBound : bytes.length < usizeSize := Nat.lt_trans hShort (by decide)
  have hParse : ∀ {decoded : Option (PacketTransaction × Bytes)}, decoded = none →
      ∀ tx, decoded = some (tx, []) → ¬ tx.LookupRoom := by
    rintro _ rfl
    exact nofun
  rcases packetHead_cases hShort with ⟨hDec, hFail⟩ | ⟨head, rest₁, hAt₁, hDec₁, hNew₁⟩
  · exact Or.inl ⟨hParse hDec, hFail⟩
  rw [hDec₁, hNew₁]
  rcases head.readInstructions_cases hBound hAt₁ with
    ⟨hDec, hFail⟩ | ⟨instructions, instructionsOffset, offset', rest₂, hMany, hInstructions, rfl,
      hAt₂, hDec₂, hNew₂⟩
  · exact Or.inl ⟨hParse hDec, hFail⟩
  rw [hDec₂, hNew₂]
  rcases head.readLookups_cases hShort hAt₂ with
    hFails | ⟨lookups, offset'', rest₃, hTotals, hFits, hAt₃, hDec₃, hNew₃⟩
  · exact Or.inl hFails
  rw [hDec₃, hNew₃, head.finish_eq hAt₃ hMany hTotals hInstructions rfl]
  by_cases hEnd : rest₃ = []
  swap
  · -- trailing bytes: the decoder leaves them, and the constructor refuses them
    rw [if_neg hEnd]
    refine Or.inl ⟨fun tx hSome => ?_, rfl⟩
    exact absurd (Prod.mk.inj (Option.some.inj hSome)).2 hEnd
  subst hEnd
  -- what was decoded is what stands there
  have hSome : (packetFormat shortCount).decode bytes =
      some (head.transaction instructions lookups, []) := by rw [hDec₁, hDec₂, hDec₃]
  have hTotal := ((decode_eq_some_iff _).mp hSome).2
  have hSerialize : bytes = (head.transaction instructions lookups).serialize := by
    rw [← hTotal, List.append_nil, packetFormat_encode rfl]
  refine Or.inr ⟨_, rfl, hFits rfl, ?_⟩
  rw [if_pos rfl, hSerialize]
  rfl

end TxStream
