import Intake.Proofs.Cast.Failure
import Intake.Proofs.Decimal.Reading
import Intake.Proofs.Document
import Intake.Proofs.Text.Trim

/-!
# Casts of numbers

What the filters of integers and of decimals make of texts and of each other's values.

* `cast_integer_text`: texts by the grammar of integers, as 64-bit integers.
* `cast_decimal_text`: texts by the grammar of numerals, at most half a unit of the last place away
  from what they denote.
* `cast_integer_decimal`: decimals as integers, without their fraction, and back.
-/

namespace Intake

namespace Filter

variable {head : Head} {rule : Scalar} {ctx : Context} {drawn digits : Nat}
variable {value result : Value} {error : CastError}

/-! ### Casts of what is not nil -/

section Read

variable {α : Type} {found? : Option α} {wrap : α → Value}

theorem cast_scalar_eq_ok_iff (hread : rule.read ctx value = found?.map wrap)
    (hnil : value ≠ .nil) :
    (scalar head rule).cast ctx drawn value = .ok result ↔
      ∃ found, found? = some found ∧ result = wrap found := by
  rw [cast, judge, Verdict.result_leaf, Head.castScalar, hread]
  cases found? with
  | some found => simp [eq_comm]
  | none => simp [Head.fallback_eq_ok_iff, hnil]

theorem cast_scalar_eq_error_iff (hread : rule.read ctx value = found?.map wrap)
    (hnil : value ≠ .nil) :
    (scalar head rule).cast ctx drawn value = .error error ↔
      found? = none ∧ error = .invalid head.name value := by
  rw [cast, judge, Verdict.result_leaf, Head.castScalar, hread]
  cases found? with
  | some found => simp
  | none => simp [Head.fallback_eq_error_iff, hnil]

end Read

theorem cast_integer_eq_ok_iff (hnil : value ≠ .nil) :
    (scalar head .integer).cast ctx drawn value = .ok result ↔
      ∃ n, Scalar.readInteger? value = some n ∧ result = .integer n :=
  cast_scalar_eq_ok_iff rfl hnil

theorem cast_integer_eq_error_iff (hnil : value ≠ .nil) :
    (scalar head .integer).cast ctx drawn value = .error error ↔
      Scalar.readInteger? value = none ∧ error = .invalid head.name value :=
  cast_scalar_eq_error_iff rfl hnil

theorem cast_decimal_eq_ok_iff (hnil : value ≠ .nil) :
    (scalar head (.decimal digits)).cast ctx drawn value = .ok result ↔
      ∃ d, Scalar.readDecimal? digits value = some d ∧ result = .decimal d :=
  cast_scalar_eq_ok_iff rfl hnil

theorem cast_decimal_eq_error_iff (hnil : value ≠ .nil) :
    (scalar head (.decimal digits)).cast ctx drawn value = .error error ↔
      Scalar.readDecimal? digits value = none ∧ error = .invalid head.name value :=
  cast_scalar_eq_error_iff rfl hnil

/-! ### Texts of integers -/

variable {s : String}

theorem readInteger?_string_eq_some_iff {n : Int64} :
    Scalar.readInteger? (.string s) = some n ↔
      Numeral.SpellsInteger n.toInt (Text.trimChars s.toList) := by
  rw [Scalar.readInteger?, Option.bind_eq_some_iff]
  simp only [Numeral.integer?_eq_some_iff, int64?_eq_some_iff]
  constructor
  · rintro ⟨m, hspells, rfl⟩
    exact hspells
  · intro hspells
    exact ⟨_, hspells, rfl⟩

theorem readInteger?_string_eq_none_iff :
    Scalar.readInteger? (.string s) = none ↔
      ∀ n, Numeral.SpellsInteger n (Text.trimChars s.toList) → n < -2 ^ 63 ∨ 2 ^ 63 - 1 < n := by
  rw [Scalar.readInteger?, Option.bind_eq_none_iff]
  simp only [Numeral.integer?_eq_some_iff, int64?_eq_none_iff]

/-- There is no blank in the text of an integer. -/
theorem trimChars_toString (n : Int) :
    Text.trimChars (toString n).toList = (toString n).toList := by
  refine Text.trimChars_eq_self fun c hc => ?_
  rw [Numeral.toList_toString_int] at hc
  rcases List.mem_append.mp hc with hsign | hdigit
  · split at hsign
    · rw [List.mem_singleton.mp hsign]
      rfl
    · exact absurd hsign (by simp)
  · exact Text.isBlank_of_isDigit (Nat.isDigit_of_mem_toDigits (by decide) (by decide) hdigit)

/-- **Integers are cast from the texts of the grammar**, blanks around them left aside, that spell
numbers of 64 bits; their own texts are among these. -/
theorem cast_integer_text (head : Head) (ctx : Context) (drawn : Nat) :
    (∀ s result, (scalar head .integer).cast ctx drawn (.string s) = .ok result ↔
      ∃ n : Int64, Numeral.SpellsInteger n.toInt (Text.trimChars s.toList) ∧
        result = .integer n) ∧
    (∀ s error, (scalar head .integer).cast ctx drawn (.string s) = .error error ↔
      (∀ n, Numeral.SpellsInteger n (Text.trimChars s.toList) →
        n < -2 ^ 63 ∨ 2 ^ 63 - 1 < n) ∧
          error = .invalid head.name (.string s)) ∧
    ∀ n : Int64, (scalar head .integer).cast ctx drawn (.string (Value.integer n).text) =
      .ok (.integer n) := by
  refine ⟨fun s result => ?_, fun s error => ?_, fun n => ?_⟩
  · rw [cast_integer_eq_ok_iff (by simp)]
    simp only [readInteger?_string_eq_some_iff]
  · rw [cast_integer_eq_error_iff (by simp), readInteger?_string_eq_none_iff]
  · refine (cast_integer_eq_ok_iff (by simp)).mpr ⟨n, ?_, rfl⟩
    rw [readInteger?_string_eq_some_iff, Value.text, trimChars_toString]
    exact Numeral.spellsInteger_toString n.toInt

/-! ### Texts of decimals -/

theorem readDecimal?_of_spells {numeral : Numeral}
    (h : numeral.Spells (Text.trimChars s.toList)) :
    Scalar.readDecimal? digits (.string s) = Decimal.ofNumeral? numeral := by
  rw [Scalar.readDecimal?, Scalar.numeralText?, Numeral.read?_eq_some_iff.mpr h, Option.bind_some]

theorem readDecimal?_eq_none_of_not_spells
    (h : ¬∃ numeral : Numeral, numeral.Spells (Text.trimChars s.toList)) :
    Scalar.readDecimal? digits (.string s) = none := by
  have hnone : Scalar.numeralText? s = none := by
    rw [Scalar.numeralText?, Option.eq_none_iff_forall_ne_some]
    intro numeral hread
    exact h ⟨numeral, Numeral.read?_eq_some_iff.mp hread⟩
  rw [Scalar.readDecimal?, hnone, Option.bind_none]

theorem cast_decimal_of_spells {numeral : Numeral} {d : Decimal}
    (h : numeral.Spells (Text.trimChars s.toList)) :
    (scalar head (.decimal digits)).cast ctx drawn (.string s) = .ok (.decimal d) ↔
      Decimal.ofNumeral? numeral = some d := by
  rw [cast_decimal_eq_ok_iff (by simp), readDecimal?_of_spells h]
  simp

/-- What a string that spells a numeral is cast to. -/
structure ReadAs (numeral : Numeral) (refusal : CastError) (result : Except CastError Value) :
    Prop where
  /-- The string is cast to a decimal or refused. -/
  decimal_or_refused : (∃ d, result = .ok (.decimal d)) ∨ result = .error refusal
  /-- Without an exponent the digits have to fit as they are. -/
  plain : numeral.exponent = none →
    ((∃ d, result = .ok (.decimal d)) ↔
      numeral.coefficient < coefficientBound ∧ numeral.fraction.length ≤ 28)
  /-- With an exponent, digits that fit as they are have to fit with the point moved, too. -/
  moved : ∀ exponent, numeral.exponent = some exponent →
    numeral.coefficient < coefficientBound → numeral.fraction.length ≤ 28 →
      ((∃ d, result = .ok (.decimal d)) ↔
        exponent.natAbs ≤ 28 ∧ numeral.fraction.length - exponent ≤ 28 ∧
          numeral.coefficient * 10 ^ (exponent - numeral.fraction.length).toNat <
            coefficientBound)
  /-- Nothing is lost if there is no exponent or some decimal holds the mantissa, and only then. -/
  value_eq_iff : ∀ d, result = .ok (.decimal d) →
    (d.value = numeral.value ↔ numeral.exponent = none ∨ Decimal.Holds numeral.mantissa)
  /-- Whatever is lost, it is at most half a unit of the last place. -/
  abs_sub_le : ∀ d, result = .ok (.decimal d) →
    |d.value - numeral.value| * 10 ^ d.scale ≤ 1 / 2
  /-- Where nothing can be lost, a number that no decimal holds is refused. -/
  refused_of_not_holds : numeral.exponent = none ∨ Decimal.Holds numeral.mantissa →
    ¬Decimal.Holds numeral.value → result = .error refusal

theorem readAs_of_spells {numeral : Numeral} (h : numeral.Spells (Text.trimChars s.toList)) :
    ReadAs numeral (.invalid head.name (.string s))
      ((scalar head (.decimal digits)).cast ctx drawn (.string s)) := by
  have hdigits := h.isDigit_fraction
  have hor : (∃ d, (scalar head (.decimal digits)).cast ctx drawn (.string s) =
      .ok (.decimal d)) ∨ (scalar head (.decimal digits)).cast ctx drawn (.string s) =
        .error (.invalid head.name (.string s)) := by
    cases hread : Decimal.ofNumeral? numeral with
    | some d => exact Or.inl ⟨d, (cast_decimal_of_spells h).mpr hread⟩
    | none =>
      right
      rw [cast_decimal_eq_error_iff (by simp), readDecimal?_of_spells h]
      exact ⟨hread, rfl⟩
  refine ⟨hor, fun hplain => ?_, fun exponent hexponent hlt hle => ?_, fun d hd => ?_,
    fun d hd => ?_, fun hexact hlost => ?_⟩
  · simp only [cast_decimal_of_spells h, Decimal.ofNumeral?_of_exponent_eq_none hplain,
      Decimal.exists_ofParts?_iff]
  · simp only [cast_decimal_of_spells h]
    exact Decimal.exists_ofNumeral?_iff_of_fits hexponent hlt hle
  · exact Decimal.value_ofNumeral?_iff hdigits ((cast_decimal_of_spells h).mp hd)
  · exact Decimal.abs_value_sub_le hdigits ((cast_decimal_of_spells h).mp hd)
  · rcases hor with ⟨d, hd⟩ | hrefused
    · have hread := (cast_decimal_of_spells h).mp hd
      exact absurd ⟨d, (Decimal.value_ofNumeral?_iff hdigits hread).mpr hexact⟩ hlost
    · exact hrefused

/-- **Decimals are cast from the texts of numerals**, blanks around them left aside, as exactly as
the exponent allows; other strings are refused. -/
theorem cast_decimal_text (head : Head) (digits : Nat) (ctx : Context) (drawn : Nat) (s : String) :
    (∀ numeral : Numeral, numeral.Spells (Text.trimChars s.toList) →
      ReadAs numeral (.invalid head.name (.string s))
        ((scalar head (.decimal digits)).cast ctx drawn (.string s))) ∧
    ((¬∃ numeral : Numeral, numeral.Spells (Text.trimChars s.toList)) →
      (scalar head (.decimal digits)).cast ctx drawn (.string s) =
        .error (.invalid head.name (.string s))) := by
  refine ⟨fun numeral h => readAs_of_spells h, fun h => ?_⟩
  rw [cast_decimal_eq_error_iff (by simp)]
  exact ⟨readDecimal?_eq_none_of_not_spells h, rfl⟩

def priceFilter : Filter :=
  .scalar ⟨"price", "decimal", {}⟩ (.decimal 16)

/-- A price in groups, with an exponent. -/
def groupedPrice : Numeral :=
  ⟨false, ['1', '0', '0', '0'], ['5', '0'], some (-1)⟩

theorem cast_decimal_text_price :
    groupedPrice.Spells (Text.trimChars " +1_000.50e-1 ".toList) ∧
    (∃ d, priceFilter.cast {} 0 (.string " +1_000.50e-1 ") = .ok (.decimal d) ∧
      d.value = groupedPrice.value) ∧
    (¬∃ numeral : Numeral, numeral.Spells (Text.trimChars "1__0".toList)) ∧
    priceFilter.cast {} 0 (.string "1__0") = .error (.invalid "price" (.string "1__0")) := by
  have hspells : groupedPrice.Spells (Text.trimChars " +1_000.50e-1 ".toList) :=
    Numeral.read?_eq_some_iff.mp (by decide +kernel)
  have hnone : ¬∃ numeral : Numeral, numeral.Spells (Text.trimChars "1__0".toList) := by
    rintro ⟨numeral, h⟩
    have hread := Numeral.read?_eq_some_iff.mpr h
    have hrefused : Numeral.read? (Text.trimChars "1__0".toList) = none := by decide +kernel
    rw [hrefused] at hread
    exact absurd hread (by simp)
  have hreads := (cast_decimal_text ⟨"price", "decimal", {}⟩ 16 {} 0 " +1_000.50e-1 ").1 _ hspells
  have hrefused := (cast_decimal_text ⟨"price", "decimal", {}⟩ 16 {} 0 "1__0").2 hnone
  have hcast : priceFilter.cast {} 0 (.string " +1_000.50e-1 ") =
      .ok (.decimal ⟨100050, 3, by decide, by decide⟩) :=
    (cast_decimal_of_spells hspells).mpr (by decide +kernel)
  have hholds : Decimal.Holds groupedPrice.mantissa :=
    ⟨⟨100050, 2, by decide, by decide⟩, by decide +kernel⟩
  exact ⟨hspells, ⟨_, hcast, (hreads.value_eq_iff _ hcast).mpr (Or.inr hholds)⟩, hnone, hrefused⟩

/-! ### A text that is rounded -/

/-- A price of half a unit of the last place that decimals have. -/
def tinyPrice : Numeral :=
  ⟨false, ['0'], List.replicate 28 '0' ++ ['5'], some 0⟩

theorem tinyPrice_rounded :
    tinyPrice.Spells (Text.trimChars "0.00000000000000000000000000005e0".toList) ∧
    ¬Decimal.Holds tinyPrice.value ∧
    ∃ d, priceFilter.cast {} 0 (.string "0.00000000000000000000000000005e0") =
      .ok (.decimal d) ∧ d.value ≠ tinyPrice.value := by
  have hspells : tinyPrice.Spells (Text.trimChars "0.00000000000000000000000000005e0".toList) :=
    Numeral.read?_eq_some_iff.mp (by decide +kernel)
  have hlost : ¬Decimal.Holds tinyPrice.value := by
    intro h
    obtain ⟨n, hn⟩ := h.exists_eq_intCast
    have hhalf : tinyPrice.value * 10 ^ 28 * 2 = 1 := by decide +kernel
    rw [hn] at hhalf
    have hodd : n * 2 = 1 := by exact_mod_cast hhalf
    omega
  have hcast : priceFilter.cast {} 0 (.string "0.00000000000000000000000000005e0") =
      .ok (.decimal ⟨1, 28, by decide, by decide⟩) :=
    (cast_decimal_of_spells hspells).mpr (by decide +kernel)
  exact ⟨hspells, hlost, _, hcast, fun h => hlost ⟨_, h⟩⟩

/-! ### Integers and decimals -/

/-- A value is cast to a decimal, and the decimal to an integer, both of them one number. -/
def CastsThrough (integers decimals : Head) (digits : Nat) (ctx : Context) (drawn : Nat)
    (value : Value) (n : Int64) : Prop :=
  ∃ d, (scalar decimals (.decimal digits)).cast ctx drawn value = .ok (.decimal d) ∧
    d.value = n.toInt ∧
    (scalar integers .integer).cast ctx drawn (.decimal d) = .ok (.integer n)

theorem cast_integer_of_decimal_eq_ok_iff {d : Decimal} {n : Int64} :
    (scalar head .integer).cast ctx drawn (.decimal d) = .ok (.integer n) ↔
      n.toInt = towardZero d.value := by
  rw [cast_integer_eq_ok_iff (by simp), Scalar.readInteger?, ← Decimal.truncate_eq_towardZero,
    ← int64?_eq_some_iff]
  simp

theorem castsThrough_of_readDecimal? {integers decimals : Head} {n : Int64} {d : Decimal}
    (hnil : value ≠ .nil) (hread : Scalar.readDecimal? digits value = some d)
    (hvalue : d.value = n.toInt) : CastsThrough integers decimals digits ctx drawn value n := by
  refine ⟨d, (cast_decimal_eq_ok_iff hnil).mpr ⟨d, hread, rfl⟩, hvalue, ?_⟩
  rw [cast_integer_of_decimal_eq_ok_iff, ← Decimal.truncate_eq_towardZero,
    Decimal.truncate_of_value hvalue]

/-- A text that spells an integer spells a numeral with a decimal of the same value. -/
theorem exists_readDecimal?_of_spellsInteger {n : Int64}
    (h : Numeral.SpellsInteger n.toInt (Text.trimChars s.toList)) :
    ∃ d, Scalar.readDecimal? digits (.string s) = some d ∧ d.value = n.toInt := by
  obtain ⟨numeral, hspells, hexponent, hfraction, hn⟩ := h.exists_spells
  have hcoefficient : numeral.coefficient < coefficientBound := by
    have hle := n.le_toInt
    have hlt := n.toInt_lt
    rw [coefficientBound, numeral.coefficient_of_fraction_eq_nil hfraction, ← hn]
    omega
  have hlength : numeral.fraction.length ≤ 28 := by simp [hfraction]
  obtain ⟨d, hd⟩ := Decimal.exists_ofParts?_iff.mpr ⟨hcoefficient, hlength⟩
  rw [← Decimal.ofNumeral?_of_exponent_eq_none hexponent] at hd
  refine ⟨d, (readDecimal?_of_spells hspells).trans hd, ?_⟩
  rw [(Decimal.value_ofNumeral?_iff hspells.isDigit_fraction hd).mpr (Or.inl hexponent),
    Decimal.value_of_exponent_eq_none hexponent, numeral.mantissa_of_fraction_eq_nil hfraction, hn]

/-- **Integers and decimals agree.**  A decimal is cast to the integer before its point, if this has
64 bits; an integer, and a string that is cast to one, are cast to a decimal of the same value, from
which the integer comes back. -/
theorem cast_integer_decimal (integers decimals : Head) (digits : Nat) (ctx : Context)
    (drawn : Nat) :
    (∀ d n, (scalar integers .integer).cast ctx drawn (.decimal d) = .ok (.integer n) ↔
      n.toInt = towardZero d.value) ∧
    (∀ d error, (scalar integers .integer).cast ctx drawn (.decimal d) = .error error ↔
      (towardZero d.value < -2 ^ 63 ∨ 2 ^ 63 - 1 < towardZero d.value) ∧
        error = .invalid integers.name (.decimal d)) ∧
    (∀ n, CastsThrough integers decimals digits ctx drawn (.integer n) n) ∧
    ∀ s n, (scalar integers .integer).cast ctx drawn (.string s) = .ok (.integer n) →
      CastsThrough integers decimals digits ctx drawn (.string s) n := by
  refine ⟨fun d n => cast_integer_of_decimal_eq_ok_iff, fun d error => ?_, fun n => ?_,
    fun s n h => ?_⟩
  · rw [cast_integer_eq_error_iff (by simp), Scalar.readInteger?, int64?_eq_none_iff,
      Decimal.truncate_eq_towardZero]
  · exact castsThrough_of_readDecimal? (by simp) rfl (Decimal.value_ofInt64 n)
  · obtain ⟨m, hread, hm⟩ := (cast_integer_eq_ok_iff (by simp)).mp h
    obtain rfl := Value.integer.inj hm
    rw [readInteger?_string_eq_some_iff] at hread
    obtain ⟨d, hd, hvalue⟩ := exists_readDecimal?_of_spellsInteger hread
    exact castsThrough_of_readDecimal? (by simp) hd hvalue

def balanceFilter : Filter :=
  .scalar ⟨"balance", "integer", {}⟩ .integer

theorem cast_integer_decimal_balance :
    balanceFilter.cast {} 0 (.string " -1_000 ") = .ok (.integer (-1000)) ∧
    CastsThrough ⟨"balance", "integer", {}⟩ ⟨"price", "decimal", {}⟩ 16 {} 0
      (.string " -1_000 ") (-1000) := by
  have hcast : balanceFilter.cast {} 0 (.string " -1_000 ") = .ok (.integer (-1000)) :=
    (cast_integer_eq_ok_iff (by simp)).mpr ⟨-1000, by decide +kernel, rfl⟩
  have hagree := cast_integer_decimal ⟨"balance", "integer", {}⟩ ⟨"price", "decimal", {}⟩ 16 {} 0
  exact ⟨hcast, hagree.2.2.2 _ _ hcast⟩

end Filter

end Intake
