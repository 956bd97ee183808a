import TxStream.Wire.Format
import TxStream.Wire.Radix
import Mathlib.Data.String.Basic

/-!
# Base 58 and base 64

Byte strings as ASCII text.

* Base 58 reads the whole string as one number and writes it with 58 digits; a
  leading zero byte is written as a leading zero digit.
* Base 64 writes three bytes as four digits, and pads the last group.

Main results:

* `base58Decode_encode` — base 58 loses nothing.
* `size_base58Encode_le`, `lt_size_base58Encode` — how long a base 58 text is.
* `size_base64Encode` — how long a base 64 text is.
-/

namespace Wire

/-- The symbols of the digits `0` to `base - 1`. That there are as many as digits, that
no two are equal and that each is one byte of text are part of the value. -/
structure Alphabet (base : Nat) where
  symbols : List Char
  length_symbols : symbols.length = base
  nodup : symbols.Nodup
  /-- A symbol is one byte of text. -/
  ascii : symbols.all fun c => c.utf8Size == 1

/-- ASCII text has as many bytes as characters. -/
theorem size_ofList {chars : List Char} (h : ∀ c ∈ chars, c.utf8Size = 1) :
    (String.ofList chars).utf8ByteSize = chars.length := by
  rw [String.utf8ByteSize_ofList]
  induction chars with
  | nil => rfl
  | cons c chars ih =>
    rw [String.utf8Len_cons, h c (List.mem_cons_self ..),
      ih fun d hd => h d (List.mem_cons_of_mem _ hd), List.length_cons]

namespace Alphabet

variable {base : Nat} (alphabet : Alphabet base)

/-- The symbol of a digit. -/
def symbol (digit : Nat) : Char := alphabet.symbols.getD digit '?'

/-- The digit a symbol stands for. -/
def digit? (symbol : Char) : Option Nat := alphabet.symbols.idxOf? symbol

/-- A digit list as text, in order. -/
def text (digits : List Nat) : String := String.ofList (digits.map alphabet.symbol)

/-- The digits of a text, if all of its characters are symbols. -/
def digits? (text : String) : Option (List Nat) := text.toList.mapM alphabet.digit?

variable {alphabet} {digit : Nat} {digits : List Nat}

/-- A digit below the base has a symbol. -/
theorem getElem?_symbols (h : digit < base) :
    alphabet.symbols[digit]? = some (alphabet.symbol digit) := by
  rw [← alphabet.length_symbols] at h
  rw [symbol, List.getD_eq_getElem?_getD, List.getElem?_eq_getElem h, Option.getD_some]

/-- And that symbol is one byte. -/
theorem utf8Size_symbol (h : digit < base) : (alphabet.symbol digit).utf8Size = 1 :=
  beq_iff_eq.mp (List.all_eq_true.mp alphabet.ascii _ (List.mem_of_getElem? (getElem?_symbols h)))

/-- A symbol stands for the digit it was written for. -/
theorem digit?_symbol (h : digit < base) : alphabet.digit? (alphabet.symbol digit) = some digit := by
  have hSome : alphabet.symbols[digit]? = some (alphabet.symbol digit) := getElem?_symbols h
  obtain ⟨hBound, hSymbol⟩ := List.getElem?_eq_some_iff.mp hSome
  refine List.idxOf?_eq_some_iff.mpr ⟨hBound, hSymbol, fun i hi hSame => ?_⟩
  -- no symbol stands for two digits
  have hEq := (alphabet.nodup.getElem_inj_iff).mp (hSame.trans hSymbol.symm)
  omega

/-- The digits of a text are found again. -/
theorem digits?_text (h : ∀ d ∈ digits, d < base) :
    alphabet.digits? (alphabet.text digits) = some digits := by
  unfold digits? text
  rw [String.toList_ofList]
  induction digits with
  | nil => rfl
  | cons digit digits ih =>
    rw [List.map_cons, List.mapM_cons, digit?_symbol (h digit (List.mem_cons_self ..)),
      ih fun d hd => h d (List.mem_cons_of_mem _ hd)]
    rfl

/-- A text has a byte for each digit. -/
theorem size_text (h : ∀ d ∈ digits, d < base) :
    (alphabet.text digits).utf8ByteSize = digits.length := by
  have hAscii : ∀ c ∈ digits.map alphabet.symbol, c.utf8Size = 1 := by
    intro c hc
    obtain ⟨d, hd, rfl⟩ := List.mem_map.mp hc
    exact utf8Size_symbol (h d hd)
  rw [text, size_ofList hAscii, List.length_map]

end Alphabet

/-- The base 58 alphabet, which leaves out `0`, `O`, `I` and `l`. -/
def base58 : Alphabet 58 where
  symbols := "123456789ABCDEFGHJKLMNPQRSTUVWXYZabcdefghijkmnopqrstuvwxyz".toList
  length_symbols := by decide +kernel
  nodup := by decide +kernel
  ascii := by decide +kernel

/-- The standard base 64 alphabet. -/
def base64 : Alphabet 64 where
  symbols := "ABCDEFGHIJKLMNOPQRSTUVWXYZabcdefghijklmnopqrstuvwxyz0123456789+/".toList
  length_symbols := by decide +kernel
  nodup := by decide +kernel
  ascii := by decide +kernel

-- ---------------------------------------------------------------------------
-- Base 58
-- ---------------------------------------------------------------------------

/-- The bytes as one number in base 58, leading zeros kept. -/
def base58Encode (bytes : Bytes) : String :=
  base58.text (Radix.convert 256 58 (bytes.map UInt8.toNat))

/-- The way back; a text with a character outside the alphabet has no bytes. -/
def base58Decode (text : String) : Option Bytes :=
  (base58.digits? text).map fun digits => (Radix.convert 58 256 digits).map UInt8.ofNat

/-- The digits of a byte string in base 256 are below it. -/
theorem toNat_lt_of_mem {bytes : Bytes} : ∀ d ∈ bytes.map UInt8.toNat, d < 256 := by
  intro d hd
  obtain ⟨b, -, rfl⟩ := List.mem_map.mp hd
  exact b.toNat_lt

/-- A base 58 text has a byte for each digit. -/
theorem size_base58Encode (bytes : Bytes) :
    (base58Encode bytes).utf8ByteSize =
      (Radix.convert 256 58 (bytes.map UInt8.toNat)).length :=
  Alphabet.size_text (Radix.convert_lt (by decide) _)

/-- **Base 58 loses nothing.** Text and digits, and the two bases, are converted back
and forth; leading zero bytes survive because they are kept apart from the number. -/
theorem base58Decode_encode (bytes : Bytes) : base58Decode (base58Encode bytes) = some bytes := by
  rw [base58Decode, base58Encode, Alphabet.digits?_text (Radix.convert_lt (by decide) _),
    Option.map_some, Radix.convert_convert (by decide) toNat_lt_of_mem, List.map_map]
  refine congrArg some ((List.map_congr_left fun b _ => ?_).trans (List.map_id bytes))
  exact UInt8.ofNat_toNat

example : base58Encode [0, 0, 0x28, 0x7f, 0xb4, 0xcd] = "11233QC4" := by decide +kernel

/-- **How long a base 58 text can be.** If `l` digits in base 58 can say as much as `n`
bytes, then no `n` bytes need more than `l`. -/
theorem size_base58Encode_le {bytes : Bytes} {n l : Nat} (hLength : bytes.length ≤ n)
    (hPow : 256 ^ n ≤ 58 ^ l) : (base58Encode bytes).utf8ByteSize ≤ l := by
  rw [size_base58Encode]
  refine Radix.length_convert_le (by decide) (by decide) toNat_lt_of_mem ?_ hPow
  rwa [List.length_map]

/-- The bytes with the largest value have a long text: if `l` digits cannot say as much
as `n` bytes, then these bytes need more than `l`. -/
theorem lt_size_base58Encode {n l : Nat} (hPow : 58 ^ l < 256 ^ n) :
    l < (base58Encode (List.replicate n 255)).utf8ByteSize := by
  rw [size_base58Encode, List.map_replicate]
  exact Radix.lt_length_convert (b := 256) (by decide) (by decide) hPow

-- ---------------------------------------------------------------------------
-- Base 64
-- ---------------------------------------------------------------------------

/-- Three bytes are four digits; a shorter group at the end is padded. -/
def base64Chars : Bytes → List Char
  | [] => []
  | [a] => [base64.symbol (a.toNat / 4), base64.symbol (a.toNat % 4 * 16), '=', '=']
  | [a, b] => [base64.symbol (a.toNat / 4), base64.symbol (a.toNat % 4 * 16 + b.toNat / 16),
      base64.symbol (b.toNat % 16 * 4), '=']
  | a :: b :: c :: rest =>
    base64.symbol (a.toNat / 4) :: base64.symbol (a.toNat % 4 * 16 + b.toNat / 16)
      :: base64.symbol (b.toNat % 16 * 4 + c.toNat / 64) :: base64.symbol (c.toNat % 64)
      :: base64Chars rest

/-- The text of a byte string in base 64, with padding. -/
def base64Encode (bytes : Bytes) : String := String.ofList (base64Chars bytes)

/-- Four characters for each group of three bytes begun. -/
theorem length_base64Chars (bytes : Bytes) :
    (base64Chars bytes).length = 4 * ((bytes.length + 2) / 3) := by
  -- the groups of the definition: none, one byte, two bytes, three and the rest
  induction bytes using base64Chars.induct with
  | case1 => rfl
  | case2 a => simp [base64Chars]
  | case3 a b => simp [base64Chars]
  | case4 a b c rest ih =>
    simp only [base64Chars, List.length_cons, ih]
    omega

/-- Digits and padding are one byte of text each. -/
theorem base64Chars_ascii (bytes : Bytes) : ∀ c ∈ base64Chars bytes, c.utf8Size = 1 := by
  -- what remains for each group is that its digits are below 64
  have hSymbol : ∀ digit < 64, (base64.symbol digit).utf8Size = 1 := fun _ h =>
    Alphabet.utf8Size_symbol h
  have hPad : '='.utf8Size = 1 := by decide
  induction bytes using base64Chars.induct with
  | case1 => exact nofun
  | case2 a =>
    have ha := a.toNat_lt
    simp only [base64Chars, List.forall_mem_cons]
    exact ⟨hSymbol _ (by omega), hSymbol _ (by omega), hPad, hPad, nofun⟩
  | case3 a b =>
    have ha := a.toNat_lt
    have hb := b.toNat_lt
    simp only [base64Chars, List.forall_mem_cons]
    exact ⟨hSymbol _ (by omega), hSymbol _ (by omega), hSymbol _ (by omega), hPad, nofun⟩
  | case4 a b c rest ih =>
    have ha := a.toNat_lt
    have hb := b.toNat_lt
    have hc := c.toNat_lt
    simp only [base64Chars, List.forall_mem_cons]
    exact ⟨hSymbol _ (by omega), hSymbol _ (by omega), hSymbol _ (by omega),
      hSymbol _ (by omega), ih⟩

/-- **How long a base 64 text is.** -/
theorem size_base64Encode (bytes : Bytes) :
    (base64Encode bytes).utf8ByteSize = 4 * ((bytes.length + 2) / 3) := by
  rw [base64Encode, size_ofList (base64Chars_ascii bytes), length_base64Chars]

example : base64Encode [0x66, 0x6f, 0x6f, 0x62, 0x61] = "Zm9vYmE=" := by decide +kernel

end Wire
