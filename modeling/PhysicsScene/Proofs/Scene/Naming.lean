import PhysicsScene.Proofs.Json.DecimalText
import PhysicsScene.Proofs.Number.Whole
import PhysicsScene.Scene.Name

/-!
# Names that are numbers

A body that is named by an integer is named by its decimal digits, whatever becomes of the integer
as a double (`Name.ofNumber?_integer`). A whole double has the name of the integer of its value below
`Name.wholeLimit`. From there on it is named by its own text, which has a point or an exponent and is
the text of no integer.
-/

namespace PhysicsScene

namespace Numeral.Spelling

/-- An integer is written without a point and without an exponent. -/
theorem chars_ne_integerChars {spelling : Spelling}
    (isReal : (spelling.fraction.isSome || spelling.exponent.isSome) = true) (value : Int) :
    spelling.chars ≠ Decimal.integerChars value := by
  intro same
  have plain : ∀ char ∈ Decimal.integerChars value, char = '-' ∨ char.isDigit = true := by
    intro char member
    simp only [← chars_ofInteger, chars, ofInteger, fractionChars, exponentChars, List.append_nil,
      List.mem_append] at member
    rcases member with sign | digit
    · by_cases below : value < 0
      · exact .inl (by simpa [below] using sign)
      · simp [below] at sign
    · exact .inr ((areDigits_digitChars _).2 char digit)
  rw [← same] at plain
  rcases Bool.or_eq_true_iff.1 isReal with fraction | exponent
  · obtain ⟨digits, isFraction⟩ := Option.isSome_iff_exists.1 fraction
    have point := plain '.' (by simp [chars, isFraction, fractionChars])
    revert point
    decide
  · obtain ⟨part, isExponent⟩ := Option.isSome_iff_exists.1 exponent
    have mark := plain 'e' (by simp [chars, isExponent, exponentChars])
    revert mark
    decide

end Numeral.Spelling

namespace Json

/-- A double other than zero is not written as an integer is. -/
theorem doubleChars_ne_integerChars {number : Float} {negative : Bool} {significand : ℕ} {place : ℤ}
    (isValue : Double.value number = .finite negative significand place) (positive : 0 < significand)
    (value : Int) : doubleChars number ≠ Decimal.integerChars value := by
  have written : doubleChars number = (doubleLayout.spelling negative
      (Decimal.shortest .even .double significand place)).chars := by
    rw [doubleChars, isValue, Decimal.Layout.chars_spelling rfl]
    simp only [Decimal.finiteChars?, Decimal.magnitudeChars, if_neg positive.ne', Option.getD_some]
    rfl
  rw [written]
  exact Numeral.Spelling.chars_ne_integerChars (Decimal.Layout.isReal_spelling _ _ _) value

end Json

namespace Number

/-- The exact value of a number. -/
def toRat? : Number → Option ℚ
  | .integer value _ => some value
  | .real number _ => (Double.value number).toRat?

/-- Whether a number was read as a double. -/
def isReal : Number → Bool
  | .integer _ _ => false
  | .real _ _ => true

theorem toRat?_real_ofInt {value : ℤ} (notZero : value ≠ 0) (short : value.natAbs < 2 ^ 53)
    (finite : (Double.ofInt value).isFinite = true) :
    toRat? (.real (Double.ofInt value) finite) = some (value : ℚ) :=
  Double.toRat?_ofInt_of_short notZero short

end Number

namespace Name

theorem scaled_eq_iff (significand whole : ℕ) (place : ℤ) :
    (significand : ℚ) * 2 ^ place = whole ↔
      significand % 2 ^ (-place).toNat = 0 ∧
        significand * 2 ^ place.toNat / 2 ^ (-place).toNat = whole := by
  rcases le_total 0 place with up | down
  · obtain ⟨steps, rfl⟩ := Int.eq_ofNat_of_zero_le up
    have noDivisor : (-(steps : ℤ)).toNat = 0 := by omega
    rw [noDivisor, Int.toNat_natCast, zpow_natCast, pow_zero, Nat.mod_one, Nat.div_one]
    norm_cast
    simp
  · obtain ⟨steps, isPlace⟩ := Int.eq_ofNat_of_zero_le (neg_nonneg.2 down)
    have noFactor : place.toNat = 0 := by omega
    have divisor : (-place).toNat = steps := by omega
    have opposite : place = -steps := by omega
    rw [noFactor, divisor, opposite, zpow_neg, zpow_natCast, ← div_eq_mul_inv,
      div_eq_iff (by positivity), pow_zero, Nat.mul_one]
    norm_cast
    constructor
    · rintro rfl
      exact ⟨Nat.mul_mod_left _ _, Nat.mul_div_cancel _ (Nat.two_pow_pos steps)⟩
    · rintro ⟨divisible, rfl⟩
      exact (Nat.div_mul_cancel (Nat.dvd_of_mod_eq_zero divisible)).symm

/-- The integer that is found in a double is its exact value. -/
theorem wholeValue?_eq_some_iff {number : Float} {whole : ℤ} :
    wholeValue? number = some whole ↔ (Double.value number).toRat? = some (whole : ℚ) := by
  rw [wholeValue?]
  cases Double.value number with
  | nan => simp [BinaryValue.toRat?]
  | infinite negative => simp [BinaryValue.toRat?]
  | finite negative significand place =>
      simp only [Nat.pow_eq, BinaryValue.toRat?, Option.some.injEq]
      split
      · next divisible =>
        rw [(scaled_eq_iff significand _ place).2 ⟨divisible, rfl⟩, Option.some.injEq]
        cases negative with
        | false =>
            simp only [Bool.false_eq_true, if_false, one_mul]
            exact (Int.cast_inj (α := ℚ)).symm
        | true =>
            simp only [if_true, neg_one_mul]
            norm_cast
      · next notDivisible =>
        simp only [reduceCtorEq, false_iff]
        intro isWhole
        have magnitude : (significand : ℚ) * 2 ^ place = whole.natAbs := by
          have notNegative : (0 : ℚ) ≤ significand * 2 ^ place := by positivity
          rw [Nat.cast_natAbs, Int.cast_abs, ← isWhole, abs_mul, abs_of_nonneg notNegative]
          cases negative <;> simp
        exact notDivisible ((scaled_eq_iff significand _ place).1 magnitude).1

variable {value : ℤ} {number : Float}

theorem natAbs_lt (inRange : Number.InRange value) : value.natAbs < 2 ^ 64 := by
  have low := inRange.1
  have high := inRange.2
  omega

/-- The name of an integer is its decimal text. -/
theorem ofNumber?_integer (inRange : Number.InRange value) (notZero : value ≠ 0) :
    ofNumber? (.integer value inRange) = some (Decimal.integerChars value) := by
  rw [ofNumber?]
  split
  · next whole isWhole =>
    have isExact := wholeValue?_eq_some_iff.1 isWhole
    rw [Number.toDouble] at isExact
    rcases Nat.lt_or_ge value.natAbs (2 ^ 53) with short | long
    · rw [Double.toRat?_ofInt_of_short notZero short, Option.some.injEq] at isExact
      have same : value = whole := by exact_mod_cast isExact
      subst same
      rw [if_neg notZero]
      split <;> rfl
    · have isLong := Double.natAbs_ge_of_long long (natAbs_lt inRange) isExact
      have limit : wholeLimit < 2 ^ 52 := by decide
      rw [if_neg (by omega), if_neg (by omega)]
      rfl
  · rfl

theorem ofNumber?_of_eq_zero {number : Number} (isZero : wholeValue? number.toDouble = some 0) :
    ofNumber? number = none := by
  rw [ofNumber?, isZero]
  rfl

theorem ofNumber?_real (finite : number.isFinite = true)
    (isWhole : (Double.value number).toRat? = some (value : ℚ)) (notZero : value ≠ 0) :
    ofNumber? (.real number finite) =
      some (if value.natAbs < wholeLimit then Decimal.integerChars value
        else Json.doubleChars number) := by
  have found : wholeValue? (Number.toDouble (.real number finite)) = some value :=
    wholeValue?_eq_some_iff.2 isWhole
  rw [ofNumber?, found]
  dsimp only
  rw [if_neg notZero]
  split <;> rfl

/-- A whole double has the name of the integer of its value as long as it is below the limit. -/
theorem ofNumber?_real_eq_integer_iff (finite : number.isFinite = true)
    (inRange : Number.InRange value) (isWhole : (Double.value number).toRat? = some (value : ℚ)) :
    ofNumber? (.real number finite) = ofNumber? (.integer value inRange) ↔
      value.natAbs < wholeLimit := by
  rcases eq_or_ne value 0 with rfl | notZero
  · have noName : ofNumber? (.real number finite) = none :=
      ofNumber?_of_eq_zero (wholeValue?_eq_some_iff.2 isWhole)
    have other : ofNumber? (.integer 0 inRange) = none :=
      ofNumber?_of_eq_zero (by decide +kernel : wholeValue? (Double.ofInt 0) = some 0)
    rw [noName, other]
    exact iff_of_true rfl (by decide)
  · rcases BinaryValue.exists_finite_of_toRat? (by exact_mod_cast notZero) isWhole with
      ⟨negative, significand, place, positive, isValue, -⟩
    rw [ofNumber?_real finite isWhole notZero, ofNumber?_integer inRange notZero, Option.some.injEq]
    split
    · next short => exact iff_of_true rfl short
    · next long => exact iff_of_false (Json.doubleChars_ne_integerChars isValue positive value) long

theorem ofJson?_number_inj {first second : Number} :
    ofJson? (.number first) = ofJson? (.number second) ↔ ofNumber? first = ofNumber? second :=
  (Option.map_injective fun _ _ => String.ofList_injective).eq_iff

theorem natAbs_lt_iff (value : ℤ) (bound : ℕ) :
    value.natAbs < bound ↔ |(value : ℚ)| < bound := by
  rw [← Int.cast_abs, ← Nat.cast_natAbs, Nat.cast_lt]

/--
Numbers of one value have one name if all of them are doubles or all of them are integers. A double
and an integer of one value have one name below the limit only.
-/
theorem ofJson?_number_eq_iff {first second : Number} {exact : ℚ}
    (isFirst : first.toRat? = some exact) (isSecond : second.toRat? = some exact) :
    ofJson? (.number first) = ofJson? (.number second) ↔
      first.isReal = second.isReal ∨ |exact| < wholeLimit := by
  rw [ofJson?_number_inj]
  cases first with
  | integer first firstInRange =>
      cases Option.some.inj isFirst
      cases second with
      | integer second secondInRange =>
          have same : second = first := by exact_mod_cast Option.some.inj isSecond
          subst same
          exact iff_of_true rfl (.inl rfl)
      | real second finite =>
          rw [eq_comm, ofNumber?_real_eq_integer_iff finite firstInRange isSecond, natAbs_lt_iff]
          simp [Number.isReal]
  | real first finite =>
      cases second with
      | integer second inRange =>
          cases Option.some.inj isSecond
          rw [ofNumber?_real_eq_integer_iff finite inRange isFirst, natAbs_lt_iff]
          simp [Number.isReal]
      | real second otherFinite =>
          refine iff_of_true ?_ (.inl rfl)
          rcases eq_or_ne exact 0 with rfl | notZero
          · rw [ofNumber?_of_eq_zero (wholeValue?_eq_some_iff.2 (by exact_mod_cast isFirst)),
              ofNumber?_of_eq_zero (wholeValue?_eq_some_iff.2 (by exact_mod_cast isSecond))]
          · cases Double.eq_of_toRat? notZero isFirst isSecond
            rfl

/-- The last double below the limit has the name of its integer, and the next one has not. -/
theorem ofJson?_number_eq_iff_around_limit :
    (∃ finite inRange, ofJson? (.number (.real (Double.ofInt 999999999999999) finite)) =
      ofJson? (.number (.integer 999999999999999 inRange))) ∧
    ∃ finite inRange, ofJson? (.number (.real (Double.ofInt 1000000000000000) finite)) ≠
      ofJson? (.number (.integer 1000000000000000 inRange)) := by
  have below : ∀ finite, Number.toRat? (.real (Double.ofInt 999999999999999) finite) =
      some ((999999999999999 : ℤ) : ℚ) :=
    Number.toRat?_real_ofInt (by decide) (by decide)
  have above : ∀ finite, Number.toRat? (.real (Double.ofInt 1000000000000000) finite) =
      some ((1000000000000000 : ℤ) : ℚ) :=
    Number.toRat?_real_ofInt (by decide) (by decide)
  refine ⟨⟨by decide +kernel, by decide, ?_⟩, by decide +kernel, by decide, fun same => ?_⟩
  · refine (ofJson?_number_eq_iff (below _) rfl).2 (.inr ?_)
    rw [← natAbs_lt_iff]
    decide
  · rcases (ofJson?_number_eq_iff (above _) rfl).1 same with sameKind | short
    · cases sameKind
    · rw [← natAbs_lt_iff] at short
      revert short
      decide

/-- A large whole double does not have the name of the integer of its value. -/
theorem not_ofJson?_real_eq_integer :
    ¬∀ (number : Float) (finite : number.isFinite = true) (value : ℤ)
      (inRange : Number.InRange value), value ≠ 0 →
        (Double.value number).toRat? = some (value : ℚ) →
          ofJson? (.number (.real number finite)) = ofJson? (.number (.integer value inRange)) := by
  intro agree
  have finite : (Double.ofInt 2000000000000000).isFinite = true := by decide +kernel
  have inRange : Number.InRange 2000000000000000 := by decide
  have isWhole : (Double.value (Double.ofInt 2000000000000000)).toRat? =
      some ((2000000000000000 : ℤ) : ℚ) :=
    Double.toRat?_ofInt_of_short (by decide) (by decide)
  have same := agree _ finite _ inRange (by decide) isWhole
  rw [ofJson?_number_inj, ofNumber?_real_eq_integer_iff finite inRange isWhole] at same
  revert same
  decide

end Name

end PhysicsScene
