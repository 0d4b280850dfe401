import PhysicsScene.Proofs.Decimal.ReadBack
import PhysicsScene.Proofs.Json.Agreement
import PhysicsScene.Proofs.Json.Written

/-!
# The text of a single

A finite single is written as a numeral that is read back as the same single. NaN and the infinities
are written as `null`, which is no number, so nothing is read back from them.
-/

namespace PhysicsScene

namespace Single

variable {number : Float32} {negative : Bool} {significand : ℕ} {place : ℤ}

theorem canonical_of_value (isValue : value number = .finite negative significand place) :
    BinaryFormat.single.Canonical significand place ∧
      number.toBits.toNat = BinaryFormat.single.magnitudeBits significand place +
        if negative then BinaryFormat.single.signBit else 0 :=
  BinaryFormat.canonical_of_value (by decide) number.toBits.toNat_lt isValue

/-- A double with the magnitude of a single is rounded to that single. -/
theorem ofDouble_eq (isValue : value number = .finite negative significand place) {double : Float}
    {mantissa : ℕ} {exponent : ℤ} (isDouble : Double.value double = .finite negative mantissa exponent)
    (nearest : BinaryFormat.single.nearest mantissa exponent =
      BinaryFormat.single.magnitudeBits significand place) :
    ofDouble double = number := by
  apply ofValue_eq
  have isPattern : BinaryFormat.double.value double.toBits.toNat =
      .finite negative mantissa exponent := isDouble
  rw [isPattern, BinaryFormat.pattern, nearest, (canonical_of_value isValue).2]

/-- A spelling of a single that is read as a real number of the same value. -/
structure IsSpelledBy (number : Float32) (spelling : Numeral.Spelling) (double : Float) : Prop where
  valid : spelling.IsValid
  chars : Json.singleChars number = spelling.chars
  isReal : ∃ finite, spelling.numeral.value? = some (.real double finite)
  same : ofDouble double = number

theorem singleChars_eq (isValue : value number = .finite negative significand place) :
    Json.singleChars number = (if negative then ['-'] else []) ++
      Decimal.magnitudeChars Json.singleLayout .single significand place := by
  rw [Json.singleChars, isValue]
  rfl

theorem exists_isSpelledBy_zero (isValue : value number = .finite negative 0 place) :
    ∃ spelling double, IsSpelledBy number spelling double := by
  have canonical := (canonical_of_value isValue).1
  have lowest : place = BinaryFormat.single.lowestExponent :=
    canonical.full.resolve_right (by decide)
  have nearest : BinaryFormat.single.nearest 0 (-1074) =
      BinaryFormat.single.magnitudeBits 0 place := by
    rw [lowest, BinaryFormat.magnitudeBits_lowest]
    rfl
  have isZero := singleChars_eq isValue
  cases negative with
  | false =>
      exact ⟨⟨false, ['0'], some ['0'], none⟩, 0,
        ⟨⟨by simp, by simp⟩, fun _ => rfl, by simp [Numeral.AreDigits], by simp⟩, isZero,
        ⟨by decide +kernel, by decide +kernel⟩, ofDouble_eq isValue (by decide +kernel) nearest⟩
  | true =>
      exact ⟨⟨true, ['0'], some ['0'], none⟩, -0,
        ⟨⟨by simp, by simp⟩, fun _ => rfl, by simp [Numeral.AreDigits], by simp⟩, isZero,
        ⟨by decide +kernel, by decide +kernel⟩, ofDouble_eq isValue (by decide +kernel) nearest⟩

/-- Every finite single is read back. -/
theorem exists_isSpelledBy (isValue : value number = .finite negative significand place) :
    ∃ spelling double, IsSpelledBy number spelling double := by
  rcases Nat.eq_zero_or_pos significand with rfl | positive
  · exact exists_isSpelledBy_zero isValue
  · have canonical := (canonical_of_value isValue).1
    have isShort := Decimal.isShort_shortest .even positive canonical
    rcases Decimal.exists_read positive canonical with
      ⟨double, mantissa, exponent, found, isDouble, long, nearest⟩
    have bounds := Decimal.scaled_bounds isShort positive canonical
    have digits := isShort.digits_pos positive canonical
    have signed : Double.value (if negative then -double else double) =
        .finite negative mantissa exponent := by
      cases negative with
      | false => exact isDouble
      | true => exact Double.value_neg isDouble long
    have inReach := Decimal.leading_bounds isShort positive canonical
    refine ⟨Json.singleLayout.spelling negative (Decimal.shortest .even .single significand place), _,
      (Decimal.Layout.isTaken_spelling digits).valid, ?_, ⟨Double.isFinite_of_value signed,
        Decimal.Layout.value?_spelling digits (bounds.2.1.trans (by decide)) inReach found _⟩,
      ofDouble_eq isValue signed nearest⟩
    rw [singleChars_eq isValue, Decimal.Layout.chars_spelling rfl, Decimal.magnitudeChars,
      if_neg positive.ne']
    rfl

theorem value_eq (number : Float32) :
    value number = BinaryFormat.single.ofUnpacked number.toModel.unpack :=
  @BinaryFormat.value_toNat .binary32 number.toBits.toBitVec

/-- What is written for a single, as a tree, and what is made of that tree. -/
theorem exists_tree (number : Float32) :
    ∃ tree, (∀ depth, Json.Spells depth (Json.singleChars number) tree) ∧
      Decoder.single.ofJson? tree = if number.isFinite then some number else none := by
  have isFinite : number.isFinite = number.toModel.unpack.isFinite := rfl
  have isValue := value_eq number
  rw [isFinite]
  have unwritten : (∀ negative significand place, value number ≠ .finite negative significand place) →
      Json.singleChars number = ['n', 'u', 'l', 'l'] := by
    intro notFinite
    rw [Json.singleChars]
    cases other : value number with
    | nan => rfl
    | infinite negative => rfl
    | finite negative significand place => exact absurd other (notFinite _ _ _)
  have written : ∀ {negative significand place},
      value number = .finite negative significand place →
      ∃ tree, (∀ depth, Json.Spells depth (Json.singleChars number) tree) ∧
        Decoder.single.ofJson? tree = some number := by
    intro negative significand place isFinite
    rcases exists_isSpelledBy isFinite with ⟨spelling, double, spelled⟩
    rcases spelled.isReal with ⟨finite, isReal⟩
    refine ⟨.number (.real double finite), fun depth => ?_, congrArg some spelled.same⟩
    rw [spelled.chars]
    exact Json.spells_spelling depth spelled.valid isReal
  generalize number.toModel.unpack = unpacked at isValue ⊢
  cases unpacked with
  | notANumber =>
      refine ⟨.null, fun depth => ?_, rfl⟩
      rw [unwritten (by simp [isValue, BinaryFormat.ofUnpacked])]
      exact Json.spells_null depth
  | infinity sign =>
      refine ⟨.null, fun depth => ?_, rfl⟩
      rw [unwritten (by simp [isValue, BinaryFormat.ofUnpacked])]
      exact Json.spells_null depth
  | zero sign => exact written isValue
  | finite sign mantissa exponent positive => exact written isValue

end Single

end PhysicsScene
