import Mathlib.Data.Nat.Digits.Lemmas
import Mathlib.Tactic.Ring

/-!
# Change of radix

Digit strings with the most significant digit first, as people write numbers.
`convert b b'` rewrites a string of base `b` in base `b'` and keeps its leading
zeros, of which the number alone knows nothing. So no information is lost, and a
string is found again by converting back.

Main results:

* `convert_convert` — converting there and back.
* `length_convert_le` — how long a string can become.
* `lt_length_convert` — how long the largest string becomes.
-/

namespace Radix

/-- The number that a digit string stands for. -/
def value (b : Nat) (digits : List Nat) : Nat := Nat.ofDigits b digits.reverse

/-- The digits of a number, without leading zeros. -/
def digits (b n : Nat) : List Nat := (Nat.digits b n).reverse

/-- The zeros that a number does not know of. -/
def leadingZeros (digits : List Nat) : Nat := (digits.takeWhile (· = 0)).length

/-- A digit string of base `b` in base `b'`. -/
def convert (b b' : Nat) (ds : List Nat) : List Nat :=
  List.replicate (leadingZeros ds) 0 ++ digits b' (value b ds)

variable {b b' : Nat}

-- ---------------------------------------------------------------------------
-- Leading zeros
-- ---------------------------------------------------------------------------

/-- The string does not start with a zero. -/
def Normal (ds : List Nat) : Prop := ds.head? ≠ some 0

/-- The digits of a number do not start with a zero, not even those of zero, which has
none. -/
theorem normal_digits (b n : Nat) : Normal (digits b n) := by
  unfold Normal digits
  rw [List.head?_reverse]
  intro hZero
  have hNe : Nat.digits b n ≠ [] := by
    intro hNil
    rw [hNil] at hZero
    cases hZero
  rw [List.getLast?_eq_some_getLast hNe] at hZero
  exact Nat.getLast_digit_ne_zero b (Nat.digits_ne_nil_iff_ne_zero.mp hNe) (Option.some.inj hZero)

/-- Zeros in front do not change the number. -/
theorem value_append (z : Nat) (core : List Nat) :
    value b (List.replicate z 0 ++ core) = value b core := by
  unfold value
  rw [List.reverse_append, List.reverse_replicate, Nat.ofDigits_append_replicate_zero]

/-- They are counted exactly, if the rest has none in front. -/
theorem leadingZeros_append (z : Nat) {core : List Nat} (h : Normal core) :
    leadingZeros (List.replicate z 0 ++ core) = z := by
  have hZeros : ∀ d ∈ List.replicate z 0, decide (d = 0) = true := by
    intro d hd
    exact decide_eq_true (List.eq_of_mem_replicate hd)
  have hCore : core.takeWhile (· = 0) = [] := by
    cases core with
    | nil => rfl
    | cons d core =>
      have hd : ¬ d = 0 := fun hd => h (by rw [hd]; rfl)
      simp [hd]
  rw [leadingZeros, List.takeWhile_append_of_pos hZeros, hCore, List.append_nil,
    List.length_replicate]

/-- Every string is some zeros and a string without any in front. -/
theorem exists_core (ds : List Nat) : ∃ z core, ds = List.replicate z 0 ++ core ∧ Normal core := by
  induction ds with
  | nil => exact ⟨0, [], rfl, nofun⟩
  | cons d ds ih =>
    by_cases hd : d = 0
    · obtain ⟨z, core, rfl, hNormal⟩ := ih
      exact ⟨z + 1, core, by rw [hd]; rfl, hNormal⟩
    · exact ⟨0, d :: ds, rfl, fun hZero => hd (Option.some.inj hZero)⟩

/-- What a string becomes, by its zeros and the rest. -/
theorem convert_append (z : Nat) {core : List Nat} (h : Normal core) :
    convert b b' (List.replicate z 0 ++ core) =
      List.replicate z 0 ++ digits b' (value b core) := by
  rw [convert, leadingZeros_append z h, value_append]

/-- A number is found again from its digits. -/
theorem value_digits (n : Nat) : value b (digits b n) = n := by
  unfold value digits
  rw [List.reverse_reverse, Nat.ofDigits_digits]

/-- A string without leading zeros is found again from its number. -/
theorem digits_value (hb : 1 < b) {core : List Nat} (hDigits : ∀ d ∈ core, d < b)
    (h : Normal core) : digits b (value b core) = core := by
  unfold value digits
  rw [Nat.digits_ofDigits b hb, List.reverse_reverse]
  · intro d hd
    exact hDigits d (List.mem_reverse.mp hd)
  · intro hNe hLast
    rw [List.getLast_reverse] at hLast
    rw [Normal, List.head?_eq_some_head (List.reverse_ne_nil_iff.mp hNe), hLast] at h
    exact h rfl

-- ---------------------------------------------------------------------------
-- There and back
-- ---------------------------------------------------------------------------

/-- The digits of a converted string are digits of its base. -/
theorem convert_lt (hb' : 1 < b') (ds : List Nat) : ∀ d ∈ convert b b' ds, d < b' := by
  intro d hd
  rcases List.mem_append.mp hd with hZero | hDigit
  · rw [List.eq_of_mem_replicate hZero]
    exact Nat.lt_of_succ_lt hb'
  · exact Nat.digits_lt_base hb' (List.mem_reverse.mp hDigit)

/-- **Converting there and back.** -/
theorem convert_convert (hb : 1 < b) {ds : List Nat} (h : ∀ d ∈ ds, d < b) :
    convert b' b (convert b b' ds) = ds := by
  obtain ⟨z, core, rfl, hNormal⟩ := exists_core ds
  have hDigits : ∀ d ∈ core, d < b := fun d hd => h d (List.mem_append_right _ hd)
  rw [convert_append z hNormal, convert_append z (normal_digits b' _), value_digits,
    digits_value hb hDigits hNormal]

-- ---------------------------------------------------------------------------
-- Lengths
-- ---------------------------------------------------------------------------

/-- A string stands for a number below the power of its length. -/
theorem value_lt (hb : 1 < b) {ds : List Nat} (h : ∀ d ∈ ds, d < b) :
    value b ds < b ^ ds.length := by
  unfold value
  rw [← List.length_reverse]
  exact Nat.ofDigits_lt_base_pow_length hb fun d hd => h d (List.mem_reverse.mp hd)

/-- **How long a string can become**, in a base that is not larger. -/
theorem length_convert_le (hb' : 1 < b') (hLe : b' ≤ b) {ds : List Nat} (hDigits : ∀ d ∈ ds, d < b)
    {n l : Nat} (hLength : ds.length ≤ n) (hPow : b ^ n ≤ b' ^ l) :
    (convert b b' ds).length ≤ l := by
  obtain ⟨z, core, rfl, hNormal⟩ := exists_core ds
  rw [List.length_append, List.length_replicate] at hLength
  have hValue := value_lt (Nat.lt_of_lt_of_le hb' hLe) fun d hd =>
    hDigits d (List.mem_append_right _ hd)
  -- a leading zero takes up a digit of the larger base, and leaves one of the smaller
  have hZeros : b ^ core.length * b' ^ z ≤ b' ^ l :=
    calc b ^ core.length * b' ^ z ≤ b ^ core.length * b ^ z :=
          Nat.mul_le_mul_left _ (Nat.pow_le_pow_left hLe z)
      _ = b ^ (z + core.length) := by rw [← Nat.pow_add, Nat.add_comm]
      _ ≤ b ^ n := Nat.pow_le_pow_right (by omega) hLength
      _ ≤ b' ^ l := hPow
  have hFits : z ≤ l := by
    refine (Nat.pow_le_pow_iff_right hb').mp (le_trans ?_ hZeros)
    exact Nat.le_mul_of_pos_left _ (Nat.pow_pos (by omega))
  have hCore : b ^ core.length ≤ b' ^ (l - z) := by
    refine Nat.le_of_mul_le_mul_right ?_ (Nat.pow_pos (Nat.zero_lt_of_lt hb') : 0 < b' ^ z)
    rw [← Nat.pow_add, Nat.sub_add_cancel hFits]
    exact hZeros
  have hDigits' : (Nat.digits b' (value b core)).length ≤ l - z :=
    (Nat.digits_length_le_iff hb' _).mpr (Nat.lt_of_lt_of_le hValue hCore)
  rw [convert_append z hNormal, List.length_append, List.length_replicate, digits,
    List.length_reverse]
  omega

/-- The largest number of `n` digits. -/
theorem value_replicate (hb : 0 < b) (n : Nat) :
    value b (List.replicate n (b - 1)) + 1 = b ^ n := by
  unfold value
  rw [List.reverse_replicate]
  induction n with
  | zero => rfl
  | succ n ih =>
    -- every digit is the largest one, so a one behind them carries all the way
    obtain ⟨c, rfl⟩ := Nat.exists_eq_add_one.mpr hb
    rw [List.replicate_succ, Nat.ofDigits_cons, Nat.pow_succ, ← ih, Nat.add_sub_cancel]
    show c + (c + 1) * _ + 1 = _
    ring

/-- **How long the largest string becomes.** -/
theorem lt_length_convert (hb : 1 < b) (hb' : 1 < b') {n l : Nat} (hPow : b' ^ l < b ^ n) :
    l < (convert b b' (List.replicate n (b - 1))).length := by
  have hValue := value_replicate (Nat.lt_of_succ_lt hb) n
  have hDigits : l < (Nat.digits b' (value b (List.replicate n (b - 1)))).length := by
    rw [Nat.lt_digits_length_iff hb']
    omega
  rw [convert, List.length_append, digits, List.length_reverse]
  omega

end Radix
