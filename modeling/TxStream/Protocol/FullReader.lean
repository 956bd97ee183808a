import TxStream.Protocol.References

/-!
# The two-byte compact-u16 reader

The constructor and the iterators read lengths with a reader that knows
encodings of one and two bytes alone. The full encoding also has three bytes,
for values from 16384 on. A string that reaches the reader has at most 1232
bytes, and every length that is read is spent right away: on that many bytes, or
on three times as many that have to be there. So a three-byte length never leads
to a transaction, and the full reader accepts nothing more. Which error it
reports may differ: a sum of lengths that overflows 16 bits is reported as
`Sanitize` before the bytes are looked for.

Main results:

* `readCompactU16At_eq` — the reader is the full one without large values.
* `tryNewWith_full` — the constructor accepts the same with either reader.
* `full_reader_refines` — the same with the iterators.
-/

namespace TxStream

open Wire Rust Format

-- ---------------------------------------------------------------------------
-- The full reader
-- ---------------------------------------------------------------------------

/-- The full short-u16 decoder as a reader: one to three bytes, only the shortest
encoding of a value, at most 65535. -/
def readShortU16At : Reader UInt16 := fun bytes offset => do
  let (value, rest) ← decodeCompactU16 (bytes.drop offset)
  return (UInt16.ofNat value, bytes.length - rest.length)

/-- **The fast reader** is the full one without the values that take three bytes. -/
theorem readCompactU16At_eq {bytes : Bytes} (hBound : bytes.length < usizeSize) (offset : Nat) :
    readCompactU16At bytes offset =
      (readShortU16At bytes offset).filter fun p => p.1.toNat < 16384 := by
  by_cases hLe : offset ≤ bytes.length
  · have hAt : At bytes offset (bytes.drop offset) := ⟨hLe, rfl⟩
    have hLength := hAt.length
    rw [readCompactU16At_reads bytes offset _ hBound hAt]
    have hDecode : shortU16.decode (bytes.drop offset) =
        ((decodeCompactU16 (bytes.drop offset)).filter fun p => p.1 < 16384).map
          fun p => (UInt16.ofNat p.1, p.2) := rfl
    rw [hDecode]
    -- the two readers decode the same bytes; only a large value tells them apart
    unfold readShortU16At
    cases hCompact : decodeCompactU16 (bytes.drop offset) with
    | none => rfl
    | some p =>
      obtain ⟨value, rest⟩ := p
      obtain ⟨hSmall, hEncode⟩ := encodeCompactU16_decode hCompact
      rw [← hEncode, List.length_append] at hLength
      have hValue : (UInt16.ofNat value).toNat = value := by
        rw [UInt16.toNat_ofNat']
        exact Nat.mod_eq_of_lt hSmall
      have hStop : bytes.length - rest.length = offset + (encodeCompactU16 value).length := by
        omega
      have hFilter : ((some (UInt16.ofNat value, bytes.length - rest.length)).filter
          fun p => p.1.toNat < 16384) =
            if value < 16384 then some (UInt16.ofNat value, bytes.length - rest.length)
            else none := by
        rw [Option.filter_some, hValue]
        simp only [decide_eq_true_eq]
      show _ = (some (UInt16.ofNat value, bytes.length - rest.length)).filter _
      rw [hFilter, Option.filter_some]
      by_cases hTwo : value < 16384
      · rw [if_pos hTwo, if_pos (decide_eq_true hTwo), hStop, Option.map_some, Option.map_some,
          length_shortU16_encode, hValue]
      · rw [if_neg hTwo, if_neg (by simpa using hTwo)]
        rfl
  · -- behind the end there is nothing to read
    have hNone : bytes[offset]? = none := List.getElem?_eq_none (by omega)
    have hEmpty : bytes.drop offset = [] := List.drop_eq_nil_iff.mpr (by omega)
    unfold readCompactU16At readShortU16At
    rw [hNone, hEmpty]
    rfl

/-- What the fast reader reads, the full one reads as well. -/
theorem readShortU16At_of_fast {bytes : Bytes} (hBound : bytes.length < usizeSize) {offset : Nat}
    {p : UInt16 × Nat} (h : readCompactU16At bytes offset = some p) :
    readShortU16At bytes offset = some p := by
  rw [readCompactU16At_eq hBound, Option.filter_eq_some_iff] at h
  exact h.1

-- ---------------------------------------------------------------------------
-- Cursors
-- ---------------------------------------------------------------------------

namespace Cursor

variable {cursor cursor' : Cursor} {α : Type}

/-- A cursor call moves the offset alone. -/
theorem bytes_of_read {reader : Reader α} {a : α} (h : cursor.read reader = .ok (a, cursor')) :
    cursor'.bytes = cursor.bytes := by
  unfold read at h
  obtain ⟨⟨value, offset⟩, -, h⟩ := bind_eq_ok h
  rw [← (Prod.mk.inj (Except.ok.inj h)).2]

/-- A skip moves the offset alone. -/
theorem bytes_of_skip {len : Nat} (h : cursor.skip len = .ok cursor') :
    cursor'.bytes = cursor.bytes := by
  unfold skip at h
  obtain ⟨⟨front, middle⟩, hRead, h⟩ := bind_eq_ok h
  rw [← Except.ok.inj h]
  exact bytes_of_read hRead

/-- There are no more bytes behind a cursor than there are bytes. -/
theorem readBytes_ne_ok {len : Nat} (hLong : cursor.bytes.length < len) (p : Bytes × Cursor) :
    cursor.readBytes len ≠ .ok p := by
  intro h
  unfold readBytes read at h
  obtain ⟨q, hRead, -⟩ := bind_eq_ok h
  obtain ⟨stop, hStop, hRead⟩ := Option.bind_eq_some_iff.mp (okOr_eq_ok hRead)
  obtain ⟨front, hRange, -⟩ := Option.bind_eq_some_iff.mp hRead
  have hFits := (getRange_eq_some.mp hRange).1
  have hSum := checkedAdd_eq_some hStop
  omega

/-- Nor can more be skipped. -/
theorem skip_ne_ok {len : Nat} (hLong : cursor.bytes.length < len) (cursor' : Cursor) :
    cursor.skip len ≠ .ok cursor' := by
  intro h
  unfold skip at h
  obtain ⟨p, hRead, -⟩ := bind_eq_ok h
  exact readBytes_ne_ok hLong p hRead

/-- Nor is there room for more. -/
theorem requireRemaining_ne_ok {len : Nat} (hLong : cursor.bytes.length < len) :
    cursor.requireRemaining len ≠ .ok () := by
  unfold requireRemaining
  rw [if_neg (by omega)]
  intro h
  cases h

/-- **Reading a length.** The two readers succeed alike if a length beyond the
end of the string is never got away with. -/
theorem read_sameOk {β : Type} (hShort : cursor.bytes.length < 16384)
    {f g : UInt16 × Cursor → Except TransactionViewError β}
    (hFails : ∀ len cursor', cursor'.bytes = cursor.bytes → cursor'.bytes.length < len.toNat →
      ∀ b, f (len, cursor') ≠ .ok b)
    (hRest : ∀ len cursor', cursor'.bytes = cursor.bytes →
      SameOk (f (len, cursor')) (g (len, cursor'))) :
    SameOk (cursor.read readShortU16At >>= f) (cursor.read readCompactU16At >>= g) := by
  have hBound : cursor.bytes.length < usizeSize := Nat.lt_trans hShort (by decide)
  refine SameOk.bind_of_fails ?_ ?_ ?_
  · rintro ⟨len, cursor'⟩ hFast
    unfold read at hFast ⊢
    obtain ⟨p, hRead, hFast⟩ := bind_eq_ok hFast
    rw [readShortU16At_of_fast hBound (okOr_eq_ok hRead)]
    exact hFast
  · rintro ⟨len, cursor'⟩ hFull
    have hBytes := bytes_of_read hFull
    by_cases hSmall : len.toNat < 16384
    · left
      unfold read at hFull ⊢
      obtain ⟨⟨len', offset⟩, hRead, hFull⟩ := bind_eq_ok hFull
      obtain ⟨rfl, rfl⟩ := Prod.mk.inj (Except.ok.inj hFull)
      rw [readCompactU16At_eq hBound, okOr_eq_ok hRead, Option.filter_some,
        if_pos (decide_eq_true hSmall)]
      rfl
    · right
      exact hFails len cursor' hBytes (by rw [hBytes]; omega)
  · rintro ⟨len, cursor'⟩ hFast
    exact hRest len cursor' (bytes_of_read hFast)

end Cursor

-- ---------------------------------------------------------------------------
-- The constructor
-- ---------------------------------------------------------------------------

/-- The instruction loop succeeds alike with either reader. Both lengths that it reads
are spent at once on that many bytes, which is what `read_sameOk` asks for. -/
theorem instructionLoop_sameOk (numKeys : UInt8) (rounds : Nat) {cursor : Cursor}
    (hShort : cursor.bytes.length < 16384) (sanitizeError : Bool) (maximum : Option UInt8) :
    SameOk (instructionLoop readShortU16At numKeys rounds cursor sanitizeError maximum)
      (instructionLoop readCompactU16At numKeys rounds cursor sanitizeError maximum) := by
  induction rounds generalizing cursor sanitizeError maximum with
  | zero => exact .refl _
  | succ rounds ih =>
    unfold instructionLoop
    refine .bind (.refl _) ?_
    rintro ⟨programIdIndex, cursor₁⟩ hProgram
    have hBytes₁ := Cursor.bytes_of_read hProgram
    -- the number of accounts is spent on the accounts
    refine Cursor.read_sameOk (by rwa [hBytes₁]) ?_ ?_
    · intro numAccounts cursor₂ _ hLong b hOk
      obtain ⟨p, hAccounts, -⟩ := bind_eq_ok hOk
      exact Cursor.readBytes_ne_ok hLong p hAccounts
    intro numAccounts cursor₂ hBytes₂
    refine .bind (.refl _) ?_
    rintro ⟨accounts, cursor₃⟩ hAccounts
    have hBytes₃ := Cursor.bytes_of_read hAccounts
    -- the length of the data is spent on the data
    refine Cursor.read_sameOk (by rwa [hBytes₃, hBytes₂, hBytes₁]) ?_ ?_
    · intro dataLen cursor₄ _ hLong b hOk
      obtain ⟨cursor₅, hSkip, -⟩ := bind_eq_ok hOk
      exact Cursor.skip_ne_ok hLong cursor₅ hSkip
    intro dataLen cursor₄ hBytes₄
    refine .bind (.refl _) ?_
    intro cursor₅ hSkip
    have hBytes₅ := Cursor.bytes_of_skip hSkip
    exact ih (by rwa [hBytes₅, hBytes₄, hBytes₃, hBytes₂, hBytes₁]) _ _

/-- The instruction loop moves the offset alone. -/
theorem instructionLoop_bytes {readCompactU16 : Reader UInt16} {numKeys : UInt8} {rounds : Nat}
    {cursor cursor' : Cursor} {sanitizeError sanitizeError' : Bool}
    {maximum maximum' : Option UInt8}
    (h : instructionLoop readCompactU16 numKeys rounds cursor sanitizeError maximum =
      .ok (cursor', sanitizeError', maximum')) : cursor'.bytes = cursor.bytes := by
  induction rounds generalizing cursor sanitizeError maximum with
  | zero => rw [← (Prod.mk.inj (Except.ok.inj h)).1]
  | succ rounds ih =>
    unfold instructionLoop at h
    obtain ⟨⟨programIdIndex, cursor₁⟩, h₁, h⟩ := bind_eq_ok h
    obtain ⟨⟨numAccounts, cursor₂⟩, h₂, h⟩ := bind_eq_ok h
    obtain ⟨⟨accounts, cursor₃⟩, h₃, h⟩ := bind_eq_ok h
    obtain ⟨⟨dataLen, cursor₄⟩, h₄, h⟩ := bind_eq_ok h
    obtain ⟨cursor₅, h₅, h⟩ := bind_eq_ok h
    rw [ih h, Cursor.bytes_of_skip h₅, Cursor.bytes_of_read h₄, Cursor.bytes_of_read h₃,
      Cursor.bytes_of_read h₂, Cursor.bytes_of_read h₁]

/-- The lookup loop succeeds alike with either reader. Here a large length may also
overflow a total before its bytes are missed: then the errors differ, and both are
errors. -/
theorem lookupLoop_sameOk (rounds : Nat) {cursor : Cursor} (hShort : cursor.bytes.length < 16384)
    (totalWritable totalReadonly : UInt16) (sanitizeError : Bool) :
    SameOk (lookupLoop readShortU16At rounds cursor totalWritable totalReadonly sanitizeError)
      (lookupLoop readCompactU16At rounds cursor totalWritable totalReadonly sanitizeError) := by
  induction rounds generalizing cursor totalWritable totalReadonly sanitizeError with
  | zero => exact .refl _
  | succ rounds ih =>
    unfold lookupLoop
    refine .bind (.refl _) ?_
    intro cursor₁ hKey
    have hBytes₁ := Cursor.bytes_of_skip hKey
    -- either sum may overflow first, and otherwise the indexes are missing
    have hFails : ∀ (total len : UInt16) (cursor' : Cursor)
        (f : UInt16 → Cursor → Except TransactionViewError (Cursor × UInt16 × UInt16 × Bool)),
        cursor'.bytes.length < len.toNat → ∀ b,
        (okOr .sanitize (u16CheckedAdd total len) >>= fun total =>
          cursor'.skip len.toNat >>= fun cursor' => f total cursor') ≠ .ok b := by
      intro total len cursor' f hLong b hOk
      obtain ⟨total', -, hOk⟩ := bind_eq_ok hOk
      obtain ⟨cursor'', hSkip, -⟩ := bind_eq_ok hOk
      exact Cursor.skip_ne_ok hLong cursor'' hSkip
    refine Cursor.read_sameOk (by rwa [hBytes₁]) ?_ ?_
    · intro writable cursor₂ _ hLong
      exact hFails totalWritable writable cursor₂ _ hLong
    intro writable cursor₂ hBytes₂
    refine .bind (.refl _) fun totalWritable' _ => .bind (.refl _) ?_
    intro cursor₃ hWritable
    have hBytes₃ := Cursor.bytes_of_skip hWritable
    refine Cursor.read_sameOk (by rwa [hBytes₃, hBytes₂, hBytes₁]) ?_ ?_
    · intro readonly cursor₄ _ hLong
      exact hFails totalReadonly readonly cursor₄ _ hLong
    intro readonly cursor₄ hBytes₄
    refine .bind (.refl _) fun totalReadonly' _ => .bind (.refl _) ?_
    intro cursor₅ hReadonly
    have hBytes₅ := Cursor.bytes_of_skip hReadonly
    exact ih (by rwa [hBytes₅, hBytes₄, hBytes₃, hBytes₂, hBytes₁]) _ _ _

/-- Reading the message prefix moves the offset alone. -/
theorem readMessagePrefix_bytes {cursor cursor' : Cursor} {p : MessageVersion × UInt8}
    (h : readMessagePrefix cursor = .ok (p, cursor')) : cursor'.bytes = cursor.bytes := by
  unfold readMessagePrefix at h
  obtain ⟨⟨messagePrefix, cursor₁⟩, h₁, h⟩ := bind_eq_ok h
  have hBytes := Cursor.bytes_of_read h₁
  dsimp only at h
  split_ifs at h
  · rw [← (Prod.mk.inj (Except.ok.inj h)).2, hBytes]
  · obtain ⟨⟨required, cursor₂⟩, h₂, h⟩ := bind_eq_ok h
    rw [← (Prod.mk.inj (Except.ok.inj h)).2, Cursor.bytes_of_read h₂, hBytes]

/-- Reading the lookup count moves the offset alone. -/
theorem readLookupCount_bytes {version : MessageVersion} {cursor cursor' : Cursor}
    {p : UInt8 × Nat} (h : readLookupCount version cursor = .ok (p, cursor')) :
    cursor'.bytes = cursor.bytes := by
  unfold readLookupCount at h
  split at h
  · obtain ⟨⟨count, cursor₁⟩, h₁, h⟩ := bind_eq_ok h
    obtain ⟨-, h⟩ := guard_eq_ok h
    obtain ⟨minimum, -, h⟩ := bind_eq_ok h
    obtain ⟨-, -, h⟩ := bind_eq_ok h
    rw [← (Prod.mk.inj (Except.ok.inj h)).2, Cursor.bytes_of_read h₁]
  · rw [← (Prod.mk.inj (Except.ok.inj h)).2]

/-- The legacy and v0 constructor accepts the same with either reader. -/
theorem tryNewLegacyV0_sameOk {bytes : Bytes} (hShort : bytes.length < 16384) :
    SameOk (tryNewLegacyV0 readShortU16At bytes) (tryNewLegacyV0 readCompactU16At bytes) := by
  unfold tryNewLegacyV0
  -- up to the instruction count nothing is read through the reader in question
  refine .bind (.refl _) ?_
  rintro ⟨numSignatures, c₁⟩ h₁
  refine .ite (fun _ => .refl _) fun _ => .bind (.refl _) ?_
  intro c₂ h₂
  refine .bind (.refl _) ?_
  rintro ⟨⟨version, required⟩, c₃⟩ h₃
  refine .bind (.refl _) ?_
  rintro ⟨readonlySigned, c₄⟩ h₄
  refine .bind (.refl _) ?_
  rintro ⟨readonlyUnsigned, c₅⟩ h₅
  refine .bind (.refl _) ?_
  rintro ⟨numKeys, c₆⟩ h₆
  refine .ite (fun _ => .refl _) fun _ => .bind (.refl _) ?_
  intro c₇ h₇
  refine .bind (.refl _) ?_
  intro c₈ h₈
  have hBytes₈ : c₈.bytes = bytes := by
    rw [Cursor.bytes_of_skip h₈, Cursor.bytes_of_skip h₇, Cursor.bytes_of_read h₆,
      Cursor.bytes_of_read h₅, Cursor.bytes_of_read h₄, readMessagePrefix_bytes h₃,
      Cursor.bytes_of_skip h₂, Cursor.bytes_of_read h₁]
    rfl
  -- three bytes for every instruction have to be there
  refine Cursor.read_sameOk (by rwa [hBytes₈]) ?_ ?_
  · intro numInstructions c₉ _ hLong b hOk
    obtain ⟨minimum, hMinimum, hOk⟩ := bind_eq_ok hOk
    have hMinimum := checkedMul_eq_some (okOr_eq_ok hMinimum)
    obtain ⟨u, hRequire, -⟩ := bind_eq_ok hOk
    exact Cursor.requireRemaining_ne_ok (by omega) hRequire
  intro numInstructions c₉ hBytes₉
  refine .bind (.refl _) fun minimum _ => .bind (.refl _) fun _ _ => .bind ?_ ?_
  · exact instructionLoop_sameOk numKeys _ (by rwa [hBytes₉, hBytes₈]) _ _
  rintro ⟨c₁₀, instructionSanitizeError, maximum⟩ h₁₀
  refine .bind (.refl _) ?_
  rintro ⟨⟨numLookups, lookupsOffset⟩, c₁₁⟩ h₁₁
  have hBytes₁₁ : c₁₁.bytes = bytes := by
    rw [readLookupCount_bytes h₁₁, instructionLoop_bytes h₁₀, hBytes₉, hBytes₈]
  refine .bind (lookupLoop_sameOk _ (by rwa [hBytes₁₁]) _ _ _) ?_
  rintro ⟨c₁₂, totalWritable, totalReadonly, lookupSanitizeError⟩ _
  exact .refl _

/-- **The constructor accepts the same** with either reader, and builds the same
view. -/
theorem tryNewWith_full (bytes : Bytes) :
    SameOk (tryNewWith readShortU16At bytes) (tryNew bytes) := by
  unfold tryNew tryNewWith
  cases bytes.head? with
  | none => exact .refl _
  | some firstByte =>
    refine .ite (fun _ => .refl _) fun _ => .ite (fun _ => .refl _) fun _ =>
      .ite (fun _ => .refl _) fun hShort => ?_
    have hLimit : maxLegacyV0TransactionBytes = 1232 := rfl
    exact tryNewLegacyV0_sameOk (by omega)

-- ---------------------------------------------------------------------------
-- The iterators
-- ---------------------------------------------------------------------------

namespace SanitizedInstructionIterator

/-- The iterator keeps the bytes it was built on. -/
theorem bytes_of_nextWith (readCompactU16 : Reader UInt16) (it : SanitizedInstructionIterator) :
    (nextWith readCompactU16 it).2.bytes = it.bytes := by
  unfold nextWith
  split
  · rfl
  split
  all_goals
    split
    · rfl
    split
    · rfl
    split
    · rfl
    split
    · rfl
    split <;> rfl

/-- An instruction that the iterator returns is returned with the full reader as
well. -/
theorem nextWith_full {it it' : SanitizedInstructionIterator} {i : SanitizedInstructionView}
    (hBound : it.bytes.length < usizeSize) (h : it.next = (some i, it')) :
    nextWith readShortU16At it = (some i, it') := by
  unfold next nextWith at h
  unfold nextWith
  by_cases hRemaining : it.remaining = 0
  · rw [if_pos hRemaining] at h
    cases (Prod.mk.inj h).1
  rw [if_neg hRemaining] at h ⊢
  cases hLayout : it.layout with
  | legacyAndV0 =>
    rw [hLayout] at h
    dsimp only at h ⊢
    -- every reader has found something, or there would be no instruction
    split at h
    · cases (Prod.mk.inj h).1
    rename_i programIdIndex offset₁ hProgram
    split at h
    · cases (Prod.mk.inj h).1
    rename_i numAccounts offset₂ hCount
    split at h
    · cases (Prod.mk.inj h).1
    rename_i accounts offset₃ hAccounts
    split at h
    · cases (Prod.mk.inj h).1
    rename_i dataLen offset₄ hLen
    split at h
    · cases (Prod.mk.inj h).1
    rename_i data offset₅ hData
    simp only [readShortU16At_of_fast hBound hCount, hAccounts,
      readShortU16At_of_fast hBound hLen, hData]
    exact h
  | v1 =>
    -- no length of a v1 instruction is compact
    rw [hLayout] at h
    exact h

/-- An exhausted iterator does not read. -/
theorem nextWith_of_len {it : SanitizedInstructionIterator} (h : it.len = 0)
    (readCompactU16 : Reader UInt16) : nextWith readCompactU16 it = (none, it) := by
  have hRemaining : it.remaining = 0 := UInt16.toNat_inj.mp (h.trans rfl)
  unfold nextWith
  rw [if_pos hRemaining]

end SanitizedInstructionIterator

namespace SanitizedAddressTableLookupIterator

/-- The iterator keeps the bytes it was built on. -/
theorem bytes_of_nextWith (readCompactU16 : Reader UInt16)
    (it : SanitizedAddressTableLookupIterator) :
    (nextWith readCompactU16 it).2.bytes = it.bytes := by
  unfold nextWith
  split
  · rfl
  split
  · rfl
  split
  · rfl
  split
  · rfl
  split
  · rfl
  split
  · rfl
  split <;> rfl

/-- A lookup that the iterator returns is returned with the full reader as
well. -/
theorem nextWith_full {it it' : SanitizedAddressTableLookupIterator}
    {l : SanitizedAddressTableLookup} (hBound : it.bytes.length < usizeSize)
    (h : it.next = (some l, it')) : nextWith readShortU16At it = (some l, it') := by
  unfold next nextWith at h
  unfold nextWith
  by_cases hRemaining : it.remaining = 0
  · rw [if_pos hRemaining] at h
    cases (Prod.mk.inj h).1
  rw [if_neg hRemaining] at h ⊢
  split at h
  · cases (Prod.mk.inj h).1
  rename_i key offset₁ hKey
  split at h
  · cases (Prod.mk.inj h).1
  rename_i accountKey hAccountKey
  split at h
  · cases (Prod.mk.inj h).1
  rename_i numWritable offset₂ hWritableLen
  split at h
  · cases (Prod.mk.inj h).1
  rename_i writableIndexes offset₃ hWritable
  split at h
  · cases (Prod.mk.inj h).1
  rename_i numReadonly offset₄ hReadonlyLen
  split at h
  · cases (Prod.mk.inj h).1
  rename_i readonlyIndexes offset₅ hReadonly
  simp only [readShortU16At_of_fast hBound hWritableLen, hWritable,
    readShortU16At_of_fast hBound hReadonlyLen, hReadonly]
  exact h

/-- An exhausted iterator does not read. -/
theorem nextWith_of_len {it : SanitizedAddressTableLookupIterator} (h : it.len = 0)
    (readCompactU16 : Reader UInt16) : nextWith readCompactU16 it = (none, it) := by
  have hRemaining : it.remaining = 0 := UInt8.toNat_inj.mp (h.trans rfl)
  unfold nextWith
  rw [if_pos hRemaining]

end SanitizedAddressTableLookupIterator

/-- The items of an accepted view are returned with either reader, and leave the
same iterator behind. -/
theorem Accepted.nextWith_full {bytes : Bytes} {view : SanitizedTransactionView}
    (h : Accepted bytes view) (steps : Nat) :
    SanitizedInstructionIterator.nextWith readShortU16At
        (advance (SanitizedInstructionIterator.nextWith readShortU16At) steps
          view.instructionsIter) =
      (advance SanitizedInstructionIterator.next steps view.instructionsIter).next ∧
    SanitizedAddressTableLookupIterator.nextWith readShortU16At
        (advance (SanitizedAddressTableLookupIterator.nextWith readShortU16At) steps
          view.addressTableLookupIter) =
      (advance SanitizedAddressTableLookupIterator.next steps
        view.addressTableLookupIter).next := by
  have hBytes : view.bytes.length < usizeSize := by
    have hLimit := h.body_le
    have hSize : usizeSize = 2 ^ 64 := rfl
    rw [show view.bytes = bytes from h.data]
    omega
  obtain ⟨keys, instructions, lookups, hReferences⟩ := h.references
  constructor
  · refine hReferences.instructionsIter.congr (fun it => it.bytes.length < usizeSize) hBytes
      ?_ ?_ ?_ steps
    · intro it hInv
      rw [SanitizedInstructionIterator.next, SanitizedInstructionIterator.bytes_of_nextWith]
      exact hInv
    · intro it i it' hInv hNext
      exact SanitizedInstructionIterator.nextWith_full hInv hNext
    · intro it hLen
      exact SanitizedInstructionIterator.nextWith_of_len hLen _
  · refine hReferences.addressTableLookupIter.congr (fun it => it.bytes.length < usizeSize) hBytes
      ?_ ?_ ?_ steps
    · intro it hInv
      rw [SanitizedAddressTableLookupIterator.next,
        SanitizedAddressTableLookupIterator.bytes_of_nextWith]
      exact hInv
    · intro it l it' hInv hNext
      exact SanitizedAddressTableLookupIterator.nextWith_full hInv hNext
    · intro it hLen
      exact SanitizedAddressTableLookupIterator.nextWith_of_len hLen _

/-- **The two-byte reader loses nothing.** With the full reader in its place the
constructor accepts the same strings and builds the same views, and the
iterators of a view return the same items, in every state they pass through. -/
theorem full_reader_refines (bytes : Bytes) :
    (∀ view, tryNewWith readShortU16At bytes = .ok view ↔ tryNew bytes = .ok view) ∧
    ∀ view, tryNew bytes = .ok view → ∀ steps,
      SanitizedInstructionIterator.nextWith readShortU16At
          (advance (SanitizedInstructionIterator.nextWith readShortU16At) steps
            view.instructionsIter) =
        (advance SanitizedInstructionIterator.next steps view.instructionsIter).next ∧
      SanitizedAddressTableLookupIterator.nextWith readShortU16At
          (advance (SanitizedAddressTableLookupIterator.nextWith readShortU16At) steps
            view.addressTableLookupIter) =
        (advance SanitizedAddressTableLookupIterator.next steps
          view.addressTableLookupIter).next := by
  refine ⟨tryNewWith_full bytes, ?_⟩
  intro view hView steps
  exact (tryNew_eq_ok.mp hView).nextWith_full steps

/-- The sample transaction, which has an instruction and a lookup. -/
theorem full_reader_refines_sample :
    tryNewWith readShortU16At sampleV0.serialize = .ok sampleV0.view ∧
    (SanitizedInstructionIterator.nextWith readShortU16At sampleV0.view.instructionsIter).1 =
      sampleV0.view.instructionsIter.next.1 ∧
    (SanitizedAddressTableLookupIterator.nextWith readShortU16At
        sampleV0.view.addressTableLookupIter).1 =
      sampleV0.view.addressTableLookupIter.next.1 := by
  obtain ⟨hAccepts, hItems⟩ := full_reader_refines sampleV0.serialize
  obtain ⟨hInstruction, hLookup⟩ := hItems _ tryNew_sampleV0 0
  exact ⟨(hAccepts _).mpr tryNew_sampleV0, congrArg Prod.fst hInstruction,
    congrArg Prod.fst hLookup⟩

/-- The readers differ on the first value of three bytes. -/
example : readCompactU16At [0x80, 0x80, 0x01] 0 = none ∧
    readShortU16At [0x80, 0x80, 0x01] 0 = some (16384, 3) := by
  decide

end TxStream
