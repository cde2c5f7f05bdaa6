import Intake.Decimal.Reading
import Intake.Proofs.Decimal.Value
import Intake.Proofs.Numeral
import Mathlib.Tactic.Linarith
import Mathlib.Tactic.NormNum

/-!
# What decimals are read from

A numeral denotes a number, its mantissa times a power of ten.  Without an exponent it is read as
the decimal of this number, or not at all.  With an exponent it is read as a decimal at most half a
unit of the last place away from the number, and just as this number if and only if some decimal
holds the mantissa: `value_ofNumeral?_iff`, `abs_value_sub_le`.
-/

namespace Intake

namespace Numeral

/-- The number that a numeral denotes before its exponent. -/
def mantissa (numeral : Numeral) : ℚ :=
  Decimal.withSign numeral.negative (numeral.coefficient / 10 ^ numeral.fraction.length)

def value (numeral : Numeral) : ℚ :=
  numeral.mantissa * 10 ^ numeral.exponent.getD 0

/-- The number that digits after a point stand for. -/
def fractionValue (digits : List Char) : ℚ :=
  digitsValue digits / 10 ^ digits.length

theorem fractionValue_cons (c : Char) (digits : List Char) :
    fractionValue (c :: digits) = (digitValue c + fractionValue digits) / 10 := by
  rw [fractionValue, fractionValue, digitsValue_cons, List.length_cons, pow_succ]
  push_cast
  field_simp

theorem fractionValue_nonneg (digits : List Char) : 0 ≤ fractionValue digits := by
  rw [fractionValue]
  positivity

theorem fractionValue_lt_one {digits : List Char} (h : ∀ c ∈ digits, c.isDigit = true) :
    fractionValue digits < 1 := by
  induction digits with
  | nil => norm_num [fractionValue, digitsValue]
  | cons c digits ih =>
    obtain ⟨hc, hdigits⟩ := List.forall_mem_cons.mp h
    have hle : (digitValue c : ℚ) ≤ 9 := by exact_mod_cast digitValue_le hc
    have hrest := ih hdigits
    rw [fractionValue_cons]
    linarith

theorem coefficient_div (numeral : Numeral) :
    (numeral.coefficient / 10 ^ numeral.fraction.length : ℚ) =
      digitsValue numeral.whole + fractionValue numeral.fraction := by
  rw [coefficient, digitsValue_append, fractionValue]
  push_cast
  field_simp

theorem coefficient_of_fraction_eq_nil {numeral : Numeral} (h : numeral.fraction = []) :
    numeral.coefficient = (signed numeral.negative numeral.whole).natAbs := by
  rw [coefficient, h, List.append_nil, signed]
  cases numeral.negative with
  | false => rfl
  | true => simp

theorem mantissa_of_fraction_eq_nil {numeral : Numeral} (h : numeral.fraction = []) :
    numeral.mantissa = (signed numeral.negative numeral.whole : ℤ) := by
  rw [mantissa, coefficient, h, List.append_nil, signed, List.length_nil, pow_zero, div_one]
  cases numeral.negative with
  | false => rfl
  | true => simp

end Numeral

namespace Decimal

open Numeral (fractionValue fractionValue_cons fractionValue_nonneg fractionValue_lt_one)

/-! ### Rounding -/

/-- A coefficient and a scale are what a number is rounded to.  Where something is lost the number
has no place among decimals, and the point cannot be moved any further to the right. -/
structure Rounds (q : ℚ) (magnitude scale : Nat) : Prop where
  lt : magnitude < coefficientBound
  le : scale ≤ 28
  half : |(magnitude / 10 ^ scale : ℚ) - q| * 10 ^ scale ≤ 1 / 2
  exact_or : (magnitude / 10 ^ scale : ℚ) = q ∨
    ¬Fits q ∧ (scale = 28 ∨ coefficientBound ≤ 10 * magnitude)

theorem abs_div_sub_div_mul (a b : ℚ) (scale : Nat) :
    |a / 10 ^ scale - b / 10 ^ scale| * 10 ^ scale = |a - b| := by
  have hpos : (0 : ℚ) < 10 ^ scale := by positivity
  rw [← sub_div, abs_div, abs_of_pos hpos, div_mul_cancel₀ _ hpos.ne']

theorem Rounds.of_fits {magnitude scale : Nat} (hlt : magnitude < coefficientBound)
    (hle : scale ≤ 28) : Rounds (magnitude / 10 ^ scale) magnitude scale := by
  refine ⟨hlt, hle, ?_, Or.inl rfl⟩
  rw [abs_div_sub_div_mul, sub_self, abs_zero]
  norm_num

theorem Rounds.eq_iff_fits {q : ℚ} {magnitude scale : Nat} (h : Rounds q magnitude scale) :
    (magnitude / 10 ^ scale : ℚ) = q ↔ Fits q := by
  constructor
  · intro he
    exact ⟨magnitude, scale, h.lt, h.le, he⟩
  · intro hfits
    rcases h.exact_or with he | ⟨hlost, _⟩
    · exact he
    · exact absurd hfits hlost

theorem add_ne_natCast {rest : ℚ} (hpos : 0 < rest) (hlt : rest < 1) (m n : ℕ) :
    (m : ℚ) + rest ≠ n := by
  intro h
  have hlow : (m : ℚ) < n := by linarith
  have hhigh : (n : ℚ) < (m + 1 : ℕ) := by
    push_cast
    linarith
  have hlow' : m < n := by exact_mod_cast hlow
  have hhigh' : n < m + 1 := by exact_mod_cast hhigh
  omega

/-- What is left over where a coefficient has no room for another digit fits nowhere. -/
theorem not_fits_of_full {magnitude scale : Nat} {rest : ℚ} (hpos : 0 < rest) (hlt : rest < 1)
    (hfull : scale = 28 ∨ (coefficientBound : ℚ) ≤ 10 * (magnitude + rest)) :
    ¬Fits ((magnitude + rest) / 10 ^ scale) := by
  rintro ⟨m, s, hm, hs, he⟩
  have hscale : (0 : ℚ) < 10 ^ scale := by positivity
  have hs' : (0 : ℚ) < 10 ^ s := by positivity
  rw [div_eq_div_iff hs'.ne' hscale.ne'] at he
  rcases Nat.lt_or_ge scale s with hlong | hle
  · -- another digit would have to fit
    obtain ⟨k, rfl⟩ := Nat.exists_eq_add_of_lt hlong
    have hm' : (m : ℚ) = (magnitude + rest) * 10 * 10 ^ k := by
      have hpow : (10 : ℚ) ^ (scale + k + 1) = 10 * 10 ^ k * 10 ^ scale := by ring
      rw [hpow, ← mul_assoc] at he
      rw [mul_right_cancel₀ hscale.ne' he, mul_assoc]
    have hroom : (coefficientBound : ℚ) ≤ 10 * (magnitude + rest) := by
      rcases hfull with he | hroom
      · omega
      · exact hroom
    have hone : (1 : ℚ) ≤ 10 ^ k := one_le_pow₀ (by norm_num)
    have hle : (coefficientBound : ℚ) ≤ m := by
      have hnonneg : (0 : ℚ) ≤ (magnitude + rest) * 10 := by positivity
      calc (coefficientBound : ℚ) ≤ (magnitude + rest) * 10 := by linarith
        _ ≤ (magnitude + rest) * 10 * 10 ^ k := le_mul_of_one_le_right hnonneg hone
        _ = m := hm'.symm
    have : coefficientBound ≤ m := by exact_mod_cast hle
    omega
  · -- the number would be whole on the grid of the coefficient
    obtain ⟨k, rfl⟩ := Nat.exists_eq_add_of_le hle
    refine add_ne_natCast hpos hlt magnitude (m * 10 ^ k) ?_
    rw [pow_add, mul_comm (10 ^ s : ℚ), ← mul_assoc] at he
    push_cast
    exact (mul_right_cancel₀ hs'.ne' he).symm

/-- What is left over where there is no room for the first digit of it. -/
theorem not_fits_of_no_room {magnitude scale : Nat} {c : Char} {rest : List Char}
    (hdigits : ∀ d ∈ c :: rest, d.isDigit = true) (hle : scale ≤ 28)
    (hroom : ¬(scale < 28 ∧ 10 * magnitude + digitValue c < coefficientBound))
    (hpos : 0 < fractionValue (c :: rest)) :
    ¬Fits ((magnitude + fractionValue (c :: rest)) / 10 ^ scale) := by
  refine not_fits_of_full hpos (fractionValue_lt_one hdigits) ?_
  rcases Nat.lt_or_ge scale 28 with hlt | hge
  · right
    have hfull : coefficientBound ≤ 10 * magnitude + digitValue c := by omega
    have hfull' : (coefficientBound : ℚ) ≤ 10 * magnitude + digitValue c := by
      exact_mod_cast hfull
    have hrest := fractionValue_nonneg rest
    rw [fractionValue_cons]
    linarith
  · left
    omega

/-- The digits that have no room are dropped. -/
theorem rounds_down {magnitude scale : Nat} {c : Char} {rest : List Char}
    (hdigits : ∀ d ∈ c :: rest, d.isDigit = true) (hlt : magnitude < coefficientBound)
    (hle : scale ≤ 28)
    (hroom : ¬(scale < 28 ∧ 10 * magnitude + digitValue c < coefficientBound))
    (hc : ¬5 ≤ digitValue c) :
    Rounds ((magnitude + fractionValue (c :: rest)) / 10 ^ scale) magnitude scale := by
  have hnonneg := fractionValue_nonneg (c :: rest)
  refine ⟨hlt, hle, ?_, ?_⟩
  · have hc' : (digitValue c : ℚ) ≤ 4 := by exact_mod_cast (by omega : digitValue c ≤ 4)
    have hrest := fractionValue_lt_one (List.forall_mem_cons.mp hdigits).2
    rw [abs_div_sub_div_mul, sub_add_cancel_left, abs_neg, abs_of_nonneg hnonneg,
      fractionValue_cons]
    linarith
  · rcases hnonneg.eq_or_lt with hzero | hpos
    · left
      rw [← hzero, add_zero]
    · refine Or.inr ⟨not_fits_of_no_room hdigits hle hroom hpos, ?_⟩
      rw [coefficientBound] at hroom ⊢
      omega

/-- A full coefficient is rounded up to a tenth of it, with one place less. -/
theorem abs_tenth_sub_le {rest : ℚ} (hnonneg : 0 ≤ rest) (hone : rest < 1) (scale : Nat) :
    |(((coefficientBound - 1 + 5) / 10 : Nat) / 10 ^ scale : ℚ) -
        ((coefficientBound - 1 : Nat) + rest) / 10 ^ (scale + 1)| * 10 ^ scale ≤ 1 / 2 := by
  have hwhole : ((coefficientBound - 1 : Nat) : ℚ) = 79228162514264337593543950335 := by
    norm_num [coefficientBound]
  have htenth : (coefficientBound - 1 + 5) / 10 = 7922816251426433759354395034 := by decide
  have hq : ((coefficientBound - 1 : Nat) + rest) / 10 ^ (scale + 1) =
      (((coefficientBound - 1 : Nat) + rest) / 10) / 10 ^ scale := by
    rw [pow_succ']
    field_simp
  rw [hq, abs_div_sub_div_mul, htenth, hwhole, abs_le]
  constructor
  · push_cast
    linarith
  · push_cast
    linarith

/-- The digits that have no room are rounded up. -/
theorem rounds_up {magnitude scale : Nat} {c : Char} {rest : List Char} {m s : Nat}
    (hdigits : ∀ d ∈ c :: rest, d.isDigit = true) (hlt : magnitude < coefficientBound)
    (hle : scale ≤ 28)
    (hroom : ¬(scale < 28 ∧ 10 * magnitude + digitValue c < coefficientBound))
    (hc : 5 ≤ digitValue c) (h : roundUp? magnitude scale = some (m, s)) :
    Rounds ((magnitude + fractionValue (c :: rest)) / 10 ^ scale) m s := by
  have hone := fractionValue_lt_one hdigits
  have hhalf : 1 / 2 ≤ fractionValue (c :: rest) := by
    have hc' : (5 : ℚ) ≤ digitValue c := by exact_mod_cast hc
    have hrest := fractionValue_nonneg rest
    rw [fractionValue_cons]
    linarith
  have hlost := not_fits_of_no_room hdigits hle hroom (by linarith)
  have hnine := digitValue_le (List.forall_mem_cons.mp hdigits).1
  unfold roundUp? at h
  split at h
  · next hfits =>
    obtain ⟨rfl, rfl⟩ := Prod.mk.inj (Option.some.inj h)
    refine ⟨hfits, hle, ?_, Or.inr ⟨hlost, ?_⟩⟩
    · rw [abs_div_sub_div_mul, abs_of_nonneg (by push_cast; linarith)]
      push_cast
      linarith
    · rw [coefficientBound] at hroom ⊢
      omega
  · next hfull =>
    split at h
    · exact absurd h (by simp)
    · next hscale =>
      obtain ⟨rfl, rfl⟩ := Prod.mk.inj (Option.some.inj h)
      obtain ⟨t, rfl⟩ := Nat.exists_eq_succ_of_ne_zero hscale
      have hfullest : magnitude = coefficientBound - 1 := by omega
      subst hfullest
      refine ⟨by decide, by omega, ?_, Or.inr ⟨hlost, Or.inr (by decide)⟩⟩
      exact abs_tenth_sub_le (by linarith) hone t

theorem rounds_of_takeFraction? {digits : List Char} {magnitude scale m s : Nat}
    (hdigits : ∀ c ∈ digits, c.isDigit = true) (hlt : magnitude < coefficientBound)
    (hle : scale ≤ 28) (h : takeFraction? magnitude scale digits = some (m, s)) :
    Rounds ((magnitude + fractionValue digits) / 10 ^ scale) m s := by
  fun_induction takeFraction? magnitude scale digits with
  | case1 magnitude scale =>
    obtain ⟨rfl, rfl⟩ := Prod.mk.inj (Option.some.inj h)
    have hzero : fractionValue [] = 0 := by norm_num [fractionValue, digitsValue]
    rw [hzero, add_zero]
    exact .of_fits hlt hle
  | case2 magnitude scale c rest next hroom ih =>
    have hrounds := ih (List.forall_mem_cons.mp hdigits).2 hroom.2 (by omega) h
    have hq : ((next + fractionValue rest) / 10 ^ (scale + 1) : ℚ) =
        (magnitude + fractionValue (c :: rest)) / 10 ^ scale := by
      rw [fractionValue_cons, pow_succ]
      simp only [next]
      push_cast
      field_simp
      ring
    rw [← hq]
    exact hrounds
  | case3 magnitude scale c rest next hroom hc => exact rounds_up hdigits hlt hle hroom hc h
  | case4 magnitude scale c rest next hroom hc =>
    obtain ⟨rfl, rfl⟩ := Prod.mk.inj (Option.some.inj h)
    exact rounds_down hdigits hlt hle hroom hc

/-- **The digits of a numeral are rounded to half a unit of the last place.** -/
theorem rounds_of_rounded? {numeral : Numeral} {m s : Nat}
    (hdigits : ∀ c ∈ numeral.fraction, c.isDigit = true) (h : rounded? numeral = some (m, s)) :
    Rounds (numeral.coefficient / 10 ^ numeral.fraction.length) m s := by
  unfold rounded? at h
  dsimp only at h
  split at h
  · next hlt =>
    have hrounds := rounds_of_takeFraction? hdigits hlt (Nat.zero_le 28) h
    rw [pow_zero, div_one] at hrounds
    rw [numeral.coefficient_div]
    exact hrounds
  · exact absurd h (by simp)

/-! ### Nothing to round -/

theorem takeFraction?_of_fits {digits : List Char} {magnitude scale : Nat}
    (hfits : magnitude * 10 ^ digits.length + digitsValue digits < coefficientBound)
    (hle : scale + digits.length ≤ 28) :
    takeFraction? magnitude scale digits =
      some (magnitude * 10 ^ digits.length + digitsValue digits, scale + digits.length) := by
  induction digits generalizing magnitude scale with
  | nil => simp [takeFraction?, digitsValue]
  | cons c digits ih =>
    have hnext : magnitude * 10 ^ (c :: digits).length + digitsValue (c :: digits) =
        (10 * magnitude + digitValue c) * 10 ^ digits.length + digitsValue digits := by
      rw [digitsValue_cons, List.length_cons, pow_succ]
      ring
    rw [hnext] at hfits ⊢
    rw [List.length_cons] at hle ⊢
    have hroom : 10 * magnitude + digitValue c < coefficientBound := by
      have hone : 1 ≤ 10 ^ digits.length := Nat.one_le_pow _ _ (by decide)
      have hgrows := Nat.mul_le_mul_left (10 * magnitude + digitValue c) hone
      omega
    rw [takeFraction?, if_pos ⟨by omega, hroom⟩, ih hfits (by omega), Nat.add_right_comm]
    rfl

/-- Digits that fit are taken as they are. -/
theorem rounded?_of_fits {numeral : Numeral} (hlt : numeral.coefficient < coefficientBound)
    (hle : numeral.fraction.length ≤ 28) :
    rounded? numeral = some (numeral.coefficient, numeral.fraction.length) := by
  rw [Numeral.coefficient, digitsValue_append] at hlt ⊢
  have hwhole : digitsValue numeral.whole < coefficientBound := by
    have hone : 1 ≤ 10 ^ numeral.fraction.length := Nat.one_le_pow _ _ (by decide)
    have hgrows := Nat.mul_le_mul_left (digitsValue numeral.whole) hone
    omega
  have htake := takeFraction?_of_fits hlt (by omega : 0 + numeral.fraction.length ≤ 28)
  rw [Nat.zero_add] at htake
  rw [rounded?, if_pos hwhole, htake]

/-! ### Moving the point -/

/-- Moving the point multiplies by the power of ten; to the right it needs room. -/
theorem value_of_movePoint? {negative : Bool} {magnitude scale : Nat} {exponent : Int}
    {d : Decimal} (h : movePoint? negative magnitude scale exponent = some d) :
    d.value = withSign negative (magnitude / 10 ^ scale) * 10 ^ exponent ∧
      exponent ≤ 28 ∧
      (exponent ≤ scale ∧ (d.scale : Int) = scale - exponent ∨
        scale < exponent ∧ 10 * magnitude < coefficientBound) := by
  unfold movePoint? at h
  split at h
  · exact absurd h (by simp)
  · next hexponent =>
    have hten : (10 : ℚ) ≠ 0 := by norm_num
    split at h
    · next hle =>
      obtain ⟨k, hk⟩ := Int.eq_ofNat_of_zero_le (sub_nonneg.mpr hle)
      have hscale := scale_of_ofParts? h
      rw [hk, Int.toNat_natCast] at hscale
      refine ⟨?_, by omega, Or.inl ⟨hle, by omega⟩⟩
      rw [value_of_ofParts? h, withSign_mul, hk, Int.toNat_natCast, ← zpow_natCast, ← zpow_natCast,
        ← hk, zpow_sub₀ hten]
      congr 1
      field_simp
    · next hgt =>
      obtain ⟨k, hk⟩ := Int.eq_ofNat_of_zero_le (a := exponent - scale - 1) (by omega)
      have hto : (exponent - scale).toNat = k + 1 := by omega
      rw [hto] at h
      have hlt := (exists_ofParts?_iff.mp ⟨d, h⟩).1
      refine ⟨?_, by omega, Or.inr ⟨by omega, ?_⟩⟩
      · have hexp : exponent = (k + 1 : ℕ) + scale := by omega
        have htenTo : tenTo (k + 1) = 10 ^ (k + 1) := rfl
        rw [value_of_ofParts? h, withSign_mul, hexp, zpow_add₀ hten, zpow_natCast, zpow_natCast,
          pow_zero, div_one, htenTo]
        congr 1
        push_cast
        field_simp
      · have hone : 1 ≤ 10 ^ k := Nat.one_le_pow _ _ (by decide)
        have htenTo : tenTo (k + 1) = 10 * 10 ^ k := pow_succ' 10 k
        rw [htenTo] at hlt
        calc 10 * magnitude = magnitude * 10 * 1 := by ring
          _ ≤ magnitude * 10 * 10 ^ k := Nat.mul_le_mul_left _ hone
          _ = magnitude * (10 * 10 ^ k) := by ring
          _ < coefficientBound := hlt

theorem exists_movePoint?_iff {negative : Bool} {magnitude scale : Nat} {exponent : Int}
    (hlt : magnitude < coefficientBound) :
    (∃ d, movePoint? negative magnitude scale exponent = some d) ↔
      exponent.natAbs ≤ 28 ∧ scale - exponent ≤ 28 ∧
        magnitude * tenTo (exponent - scale).toNat < coefficientBound := by
  unfold movePoint?
  split
  · next hfar => exact iff_of_false (by simp) (by omega)
  · next hnear =>
    split
    · next hle =>
      have hnothing : magnitude * tenTo (exponent - scale).toNat = magnitude := by
        rw [Int.toNat_of_nonpos (by omega)]
        exact Nat.mul_one magnitude
      rw [exists_ofParts?_iff, hnothing]
      omega
    · next hgt =>
      rw [exists_ofParts?_iff]
      omega

/-! ### Numerals -/

variable {numeral : Numeral} {d : Decimal}

theorem value_of_exponent_eq_none (h : numeral.exponent = none) :
    numeral.value = numeral.mantissa := by
  rw [Numeral.value, h, Option.getD_none, zpow_zero, mul_one]

theorem ofNumeral?_of_exponent_eq_none (h : numeral.exponent = none) :
    ofNumeral? numeral =
      ofParts? numeral.negative numeral.coefficient numeral.fraction.length := by
  rw [ofNumeral?, h, ofPlain?]

theorem holds_mantissa_iff :
    Holds numeral.mantissa ↔ Fits (numeral.coefficient / 10 ^ numeral.fraction.length) :=
  holds_withSign_iff (by positivity)

/-- A numeral with an exponent whose digits fit is read where they fit when the point is moved. -/
theorem exists_ofNumeral?_iff_of_fits {exponent : Int} (h : numeral.exponent = some exponent)
    (hlt : numeral.coefficient < coefficientBound) (hle : numeral.fraction.length ≤ 28) :
    (∃ d, ofNumeral? numeral = some d) ↔
      exponent.natAbs ≤ 28 ∧ numeral.fraction.length - exponent ≤ 28 ∧
        numeral.coefficient * tenTo (exponent - numeral.fraction.length).toNat <
          coefficientBound := by
  rw [← exists_movePoint?_iff hlt, ofNumeral?, h, rounded?_of_fits hlt hle]
  exact Iff.rfl

/-- A numeral with an exponent is read as its rounded mantissa times the power of ten. -/
theorem exists_rounds_of_ofNumeral? {exponent : Int} (hexponent : numeral.exponent = some exponent)
    (hdigits : ∀ c ∈ numeral.fraction, c.isDigit = true) (h : ofNumeral? numeral = some d) :
    ∃ magnitude scale,
      Rounds (numeral.coefficient / 10 ^ numeral.fraction.length) magnitude scale ∧
        movePoint? numeral.negative magnitude scale exponent = some d := by
  rw [ofNumeral?, hexponent] at h
  obtain ⟨⟨m, s⟩, hrounded, hmove⟩ := Option.bind_eq_some_iff.mp h
  exact ⟨m, s, rounds_of_rounded? hdigits hrounded, hmove⟩

/-- **A numeral is read exactly** if and only if it has no exponent or some decimal holds its
mantissa. -/
theorem value_ofNumeral?_iff (hdigits : ∀ c ∈ numeral.fraction, c.isDigit = true)
    (h : ofNumeral? numeral = some d) :
    d.value = numeral.value ↔ numeral.exponent = none ∨ Holds numeral.mantissa := by
  cases hexponent : numeral.exponent with
  | none =>
    rw [ofNumeral?_of_exponent_eq_none hexponent] at h
    rw [value_of_exponent_eq_none hexponent, value_of_ofParts? h, Numeral.mantissa]
    exact iff_of_true rfl (Or.inl rfl)
  | some exponent =>
    obtain ⟨m, s, hrounds, hmove⟩ := exists_rounds_of_ofNumeral? hexponent hdigits h
    have hpow : (10 : ℚ) ^ exponent ≠ 0 := zpow_ne_zero _ (by norm_num)
    have hmantissa : withSign numeral.negative (m / 10 ^ s) = numeral.mantissa ↔
        Holds numeral.mantissa := by
      rw [holds_mantissa_iff, Numeral.mantissa, withSign_inj, hrounds.eq_iff_fits]
    rw [(value_of_movePoint? hmove).1, Numeral.value, hexponent, Option.getD_some,
      mul_left_inj' hpow, hmantissa]
    simp

/-- **A numeral is read at most half a unit of the last place away** from what it denotes. -/
theorem abs_value_sub_le (hdigits : ∀ c ∈ numeral.fraction, c.isDigit = true)
    (h : ofNumeral? numeral = some d) :
    |d.value - numeral.value| * 10 ^ d.scale ≤ 1 / 2 := by
  by_cases hexact : d.value = numeral.value
  · rw [hexact, sub_self, abs_zero, zero_mul]
    norm_num
  · rw [value_ofNumeral?_iff hdigits h, not_or] at hexact
    obtain ⟨exponent, hexponent⟩ := Option.ne_none_iff_exists'.mp hexact.1
    obtain ⟨m, s, hrounds, hmove⟩ := exists_rounds_of_ofNumeral? hexponent hdigits h
    obtain ⟨hvalue, hle, hmoved⟩ := value_of_movePoint? hmove
    have hscale : (d.scale : Int) = s - exponent := by
      rcases hmoved with ⟨_, hscale⟩ | ⟨hgt, hroom⟩
      · exact hscale
      · rcases hrounds.exact_or with he | ⟨_, hfull⟩
        · exact absurd (holds_mantissa_iff.mpr (hrounds.eq_iff_fits.mp he)) hexact.2
        · omega
    have hpow : (10 : ℚ) ^ exponent * 10 ^ d.scale = 10 ^ s := by
      rw [← zpow_natCast, ← zpow_natCast, ← zpow_add₀ (by norm_num), hscale, add_sub_cancel]
    have hpos : (0 : ℚ) < 10 ^ exponent := zpow_pos (by norm_num) _
    calc |d.value - numeral.value| * 10 ^ d.scale
        = |withSign numeral.negative (m / 10 ^ s) - numeral.mantissa| *
            (10 ^ exponent * 10 ^ d.scale) := by
          rw [hvalue, Numeral.value, hexponent, Option.getD_some, ← sub_mul, abs_mul,
            abs_of_pos hpos, mul_assoc]
      _ = |(m / 10 ^ s : ℚ) - numeral.coefficient / 10 ^ numeral.fraction.length| * 10 ^ s := by
          rw [hpow, Numeral.mantissa, abs_withSign_sub]
      _ ≤ 1 / 2 := hrounds.half

end Decimal

end Intake
