import Mathlib.Algebra.Group.Nat.Defs
import PhysicsScene.Proofs.Json.Spelling

/-!
# How decimals are spelled

A decimal is written in positional or in scientific form, and every form is the spelling of a
numeral (`Layout.spelling`). The reader takes all its digits together as one significand, wherever
the point is, and the digits behind the point off the exponent. So it gets back the decimal, or ten
times the number with an exponent of minus one if a whole number is written with a zero behind its
point (`magnitude?_spelling`).
-/

namespace PhysicsScene

namespace Numeral

namespace Scaled

theorem le_foldl_digits (value : Nat) (digits : List Nat) :
    value ≤ digits.foldl (fun value digit => 10 * value + digit) value := by
  induction digits generalizing value with
  | nil => exact Nat.le_refl _
  | cons digit rest ih => exact Nat.le_trans (by omega) (ih (10 * value + digit))

/-- Digits that fit are all taken. -/
theorem addWhole_eq {scaled : Scaled} {digits : List Nat}
    (fits : digits.foldl (fun value digit => 10 * value + digit) scaled.significand < UInt64.size) :
    scaled.addWhole digits =
      ⟨digits.foldl (fun value digit => 10 * value + digit) scaled.significand, scaled.exponent⟩ := by
  induction digits generalizing scaled with
  | nil => rfl
  | cons digit rest ih =>
      have first : scaled.fits digit = true :=
        decide_eq_true (Nat.lt_of_le_of_lt (le_foldl_digits _ rest) fits)
      rw [addWhole, if_pos first]
      exact ih fits

theorem addFraction_eq {scaled : Scaled} {digits : List Nat}
    (fits : digits.foldl (fun value digit => 10 * value + digit) scaled.significand < UInt64.size) :
    scaled.addFraction digits =
      ⟨digits.foldl (fun value digit => 10 * value + digit) scaled.significand,
        scaled.exponent - digits.length⟩ := by
  induction digits generalizing scaled with
  | nil => simp [addFraction]
  | cons digit rest ih =>
      have first : scaled.fits digit = true :=
        decide_eq_true (Nat.lt_of_le_of_lt (le_foldl_digits _ rest) fits)
      rw [addFraction, if_pos first, ih fits, List.length_cons]
      simp only [List.foldl_cons, Scaled.mk.injEq, true_and]
      omega

/-- The digits of both parts are taken together. -/
theorem addFraction_addWhole {whole fraction : List Nat}
    (fits : ofDigits (whole ++ fraction) < UInt64.size) :
    (Scaled.addWhole ⟨0, 0⟩ whole).addFraction fraction =
      ⟨ofDigits (whole ++ fraction), -fraction.length⟩ := by
  rw [ofDigits, List.foldl_append] at fits ⊢
  rw [addWhole_eq (Nat.lt_of_le_of_lt (le_foldl_digits _ fraction) fits), addFraction_eq fits,
    Int.zero_sub]

end Scaled

/-- The written exponent as a number. -/
def Spelling.shift (spelling : Spelling) : Int :=
  match spelling.exponent with
  | none => 0
  | some (below, digits) =>
      if below then -Nat.ofDigitChars 10 digits 0 else Nat.ofDigitChars 10 digits 0

namespace Spelling

variable {spelling : Spelling}

theorem length_digitValues {written : List Char} (areDigits : ∀ char ∈ written, char.isDigit = true) :
    (digitValues written).length = written.length := by
  induction written with
  | nil => rfl
  | cons first tail ih =>
      have isDigit := areDigits first List.mem_cons_self
      have rest := ih fun char member => areDigits char (List.mem_cons_of_mem _ member)
      rw [digitValues] at rest ⊢
      rw [List.filterMap_cons, digit?_of_isDigit isDigit, List.length_cons, List.length_cons, rest]

/-- All digits in front of the exponent. -/
def digits (spelling : Spelling) : List Char :=
  spelling.whole ++ spelling.fraction.getD []

theorem areDigits_fraction (valid : spelling.IsValid) :
    ∀ char ∈ spelling.fraction.getD [], char.isDigit = true := by
  cases isFraction : spelling.fraction with
  | none => simp
  | some fraction => exact (valid.fraction fraction isFraction).2

/-- A spelling of a number that is no integer, with the significand and exponent it stands for. -/
structure IsTaken (spelling : Spelling) (taken : Scaled) : Prop where
  valid : spelling.IsValid
  isReal : (spelling.fraction.isSome || spelling.exponent.isSome) = true
  significand : Nat.ofDigitChars 10 spelling.digits 0 = taken.significand
  exponent : spelling.shift - (spelling.fraction.getD []).length = taken.exponent

theorem integer?_of_isReal (isReal : (spelling.fraction.isSome || spelling.exponent.isSome) = true) :
    spelling.numeral.integer? = none := by
  simp only [integer?, numeral, Option.isSome_map, isReal, if_true]

/-- The reader takes all digits of a spelled numeral together, if they fit into 64 bits. -/
theorem addFraction_addWhole_numeral (valid : spelling.IsValid)
    (fits : Nat.ofDigitChars 10 spelling.digits 0 < UInt64.size) :
    (Scaled.addWhole ⟨0, 0⟩ spelling.numeral.whole).addFraction
      (spelling.numeral.fraction.getD []) =
        ⟨Nat.ofDigitChars 10 spelling.digits 0, -(spelling.fraction.getD []).length⟩ := by
  have areDigits := areDigits_fraction valid
  have isWhole : spelling.numeral.whole = digitValues spelling.whole := rfl
  have fraction : spelling.numeral.fraction.getD [] = digitValues (spelling.fraction.getD []) := by
    rw [numeral]
    cases spelling.fraction <;> rfl
  have together : digitValues spelling.whole ++ digitValues (spelling.fraction.getD []) =
      digitValues spelling.digits := List.filterMap_append.symm
  have all : ofDigits (digitValues spelling.digits) = Nat.ofDigitChars 10 spelling.digits 0 := by
    apply ofDigits_digitValues
    intro char member
    rcases List.mem_append.1 member with whole | fraction
    · exact valid.whole.2 char whole
    · exact areDigits char fraction
  rw [isWhole, fraction, Scaled.addFraction_addWhole (by rwa [together, all]), together, all,
    length_digitValues areDigits]

/-- What the reader makes of a spelled numeral. -/
theorem magnitude?_numeral (valid : spelling.IsValid)
    (fits : Nat.ofDigitChars 10 spelling.digits 0 < UInt64.size)
    (inReach : spelling.shift.natAbs ≤ exponentLimit) :
    spelling.numeral.magnitude? =
      Scaled.toDouble? ⟨Nat.ofDigitChars 10 spelling.digits 0,
        spelling.shift - (spelling.fraction.getD []).length⟩ := by
  simp only [magnitude?, addFraction_addWhole_numeral valid fits]
  cases isExponent : spelling.exponent with
  | none =>
      have none : spelling.numeral.exponent = none := by simp [numeral, isExponent]
      simp only [none, shift, isExponent, Int.zero_sub]
  | some part =>
      rcases part with ⟨below, written⟩
      have some : spelling.numeral.exponent = some (below, digitValues written) := by
        simp [numeral, isExponent]
      have isWritten := ofDigits_digitValues (valid.exponent _ isExponent).2
      simp only [shift, isExponent] at inReach ⊢
      simp only [some, isWritten]
      cases below with
      | false =>
          simp only [Bool.false_eq_true, if_false] at inReach ⊢
          rw [if_neg (by omega)]
          congr 2
          omega
      | true =>
          simp only [if_true] at inReach ⊢
          rw [if_neg (by omega)]
          congr 2
          omega

end Spelling

end Numeral

namespace Decimal

open Numeral

/-- The exponent of the leading digit. -/
def leading (decimal : Decimal) : Int :=
  decimal.exponent + (digitChars decimal.digits).length - 1

/-- How a reader takes a written decimal: a whole number is written with a zero behind its point. -/
def scaled (layout : Layout) (decimal : Decimal) : Scaled :=
  if layout.positional decimal.leading && 0 ≤ decimal.exponent then
    ⟨10 * (decimal.digits * 10 ^ decimal.exponent.toNat), -1⟩
  else ⟨decimal.digits, decimal.exponent⟩

namespace Layout

/-- The parts of a decimal in positional form. -/
def positionalSpelling (negative : Bool) (decimal : Decimal) : Spelling :=
  let digits := digitChars decimal.digits
  if 0 ≤ decimal.exponent then
    ⟨negative, digits ++ List.replicate decimal.exponent.toNat '0', some ['0'], none⟩
  else
    let places := (-decimal.exponent).toNat
    if places < digits.length then
      ⟨negative, digits.take (digits.length - places),
        some (digits.drop (digits.length - places)), none⟩
    else ⟨negative, ['0'], some (List.replicate (places - digits.length) '0' ++ digits), none⟩

/-- The parts of a decimal in scientific form. -/
def scientificSpelling (negative : Bool) (decimal : Decimal) : Spelling :=
  let digits := digitChars decimal.digits
  ⟨negative, digits.take 1, if digits.length ≤ 1 then none else some (digits.drop 1),
    some (decimal.leading < 0, digitChars decimal.leading.natAbs)⟩

/-- The parts of a decimal in a layout. -/
def spelling (layout : Layout) (negative : Bool) (decimal : Decimal) : Spelling :=
  if layout.positional decimal.leading then positionalSpelling negative decimal
  else scientificSpelling negative decimal

variable {layout : Layout} {negative : Bool} {decimal : Decimal}

theorem negative_spelling (layout : Layout) (negative : Bool) (decimal : Decimal) :
    (layout.spelling negative decimal).negative = negative := by
  rw [spelling]
  split
  · rw [positionalSpelling]
    split
    · rfl
    · dsimp only
      split <;> rfl
  · rfl

theorem isReal_spelling (layout : Layout) (negative : Bool) (decimal : Decimal) :
    ((layout.spelling negative decimal).fraction.isSome ||
      (layout.spelling negative decimal).exponent.isSome) = true := by
  rw [spelling]
  split
  · rw [positionalSpelling]
    split
    · rfl
    · dsimp only
      split <;> rfl
  · exact Bool.or_true _

theorem chars_spelling (keeps : layout.keepsFraction = true) :
    (layout.spelling negative decimal).chars =
      (if negative then ['-'] else []) ++ layout.chars decimal := by
  have cases : layout.chars decimal = if layout.positional decimal.leading then
      layout.positionalChars (digitChars decimal.digits) decimal.exponent
    else scientificChars (digitChars decimal.digits) decimal.leading := rfl
  rw [cases, spelling]
  split
  · rw [positionalSpelling, positionalChars]
    by_cases whole : 0 ≤ decimal.exponent
    · simp [whole, keeps, Spelling.chars, Spelling.fractionChars, Spelling.exponentChars]
    · by_cases inside : (-decimal.exponent).toNat < (digitChars decimal.digits).length
      · simp [whole, inside, Spelling.chars, Spelling.fractionChars, Spelling.exponentChars]
      · simp [whole, inside, Spelling.chars, Spelling.fractionChars, Spelling.exponentChars]
  · rw [scientificSpelling, scientificChars]
    split <;> simp [Spelling.chars, Spelling.fractionChars, Spelling.exponentChars]

theorem areDigits_append {first second : List Char} (isFirst : AreDigits first)
    (isSecond : ∀ char ∈ second, char.isDigit = true) : AreDigits (first ++ second) := by
  refine ⟨List.append_ne_nil_of_left_ne_nil isFirst.1 _, fun char member => ?_⟩
  rcases List.mem_append.1 member with inFirst | inSecond
  · exact isFirst.2 char inFirst
  · exact isSecond char inSecond

theorem isDigit_of_mem_replicate {count : Nat} :
    ∀ char ∈ List.replicate count '0', char.isDigit = true := by
  intro char member
  rw [List.eq_of_mem_replicate member]
  rfl

theorem areDigits_take {count : Nat} (some : 0 < count) (digits : Nat) :
    AreDigits ((digitChars digits).take count) := by
  refine ⟨?_, fun char member => (areDigits_digitChars _).2 char (List.mem_of_mem_take member)⟩
  rw [ne_eq, List.take_eq_nil_iff, not_or]
  exact ⟨by omega, (areDigits_digitChars _).1⟩

theorem areDigits_drop {count digits : Nat} (left : count < (digitChars digits).length) :
    AreDigits ((digitChars digits).drop count) := by
  refine ⟨?_, fun char member => (areDigits_digitChars _).2 char (List.mem_of_mem_drop member)⟩
  rw [ne_eq, List.drop_eq_nil_iff]
  omega

theorem head?_take_digitChars {count digits : Nat} (some : 0 < count) (positive : 0 < digits) :
    ((digitChars digits).take count).head? ≠ Option.some '0' := by
  rw [List.head?_take, if_neg (by omega)]
  exact head?_digitChars positive

theorem ofDigitChars_digitChars (digits : Nat) :
    Nat.ofDigitChars 10 (digitChars digits) 0 = digits :=
  Nat.ofDigitChars_ten_toDigits

/-- A whole number in positional form has one zero more. -/
theorem isTaken_whole (positive : 0 < decimal.digits) (whole : 0 ≤ decimal.exponent) :
    (positionalSpelling negative decimal).IsTaken
      ⟨10 * (decimal.digits * 10 ^ decimal.exponent.toNat), -1⟩ := by
  rw [positionalSpelling, if_pos whole]
  refine ⟨⟨areDigits_append (areDigits_digitChars _) isDigit_of_mem_replicate, ?_, ?_, ?_⟩, rfl, ?_,
    rfl⟩
  · intro isZero
    rw [List.head?_append_of_ne_nil _ (areDigits_digitChars _).1] at isZero
    exact absurd isZero (head?_digitChars positive)
  · rintro fraction ⟨⟩
    exact ⟨by simp, by simp⟩
  · rintro exponent ⟨⟩
  · simp only [Spelling.digits, Option.getD_some, Nat.ofDigitChars_append, ofDigitChars_digitChars,
      Nat.ofDigitChars_replicate_zero, Nat.ofDigitChars_cons, Nat.ofDigitChars_nil]
    rw [Nat.mul_comm decimal.digits]
    rfl

/-- A number in positional form keeps its digits. -/
theorem isTaken_positional (positive : 0 < decimal.digits) (below : decimal.exponent < 0) :
    (positionalSpelling negative decimal).IsTaken ⟨decimal.digits, decimal.exponent⟩ := by
  rw [positionalSpelling, if_neg (by omega)]
  dsimp only
  split
  · next inside =>
    refine ⟨⟨areDigits_take (by omega) _, ?_, ?_, ?_⟩, rfl, ?_, ?_⟩
    · intro isZero
      exact absurd isZero (head?_take_digitChars (by omega) positive)
    · rintro fraction ⟨⟩
      exact areDigits_drop (by omega)
    · rintro exponent ⟨⟩
    · rw [Spelling.digits, Option.getD_some, List.take_append_drop, ofDigitChars_digitChars]
    · simp only [Spelling.shift, Option.getD_some, List.length_drop]
      omega
  · next outside =>
    refine ⟨⟨⟨by simp, by simp⟩, fun _ => rfl, ?_, ?_⟩, rfl, ?_, ?_⟩
    · rintro fraction ⟨⟩
      refine ⟨List.append_ne_nil_of_right_ne_nil _ (areDigits_digitChars _).1, fun char member => ?_⟩
      rcases List.mem_append.1 member with zeros | digits
      · exact isDigit_of_mem_replicate char zeros
      · exact (areDigits_digitChars _).2 char digits
    · rintro exponent ⟨⟩
    · simp only [Spelling.digits, Option.getD_some, Nat.ofDigitChars_append,
        Nat.ofDigitChars_replicate_zero, Nat.ofDigitChars_cons, Nat.ofDigitChars_nil]
      exact ofDigitChars_digitChars _
    · simp only [Spelling.shift, Option.getD_some, List.length_append, List.length_replicate]
      omega

theorem shift_scientificSpelling (negative : Bool) (decimal : Decimal) :
    (scientificSpelling negative decimal).shift = decimal.leading := by
  simp only [scientificSpelling, Spelling.shift, ofDigitChars_digitChars, decide_eq_true_eq]
  split <;> omega

/-- A number in scientific form keeps its digits. -/
theorem isTaken_scientific (positive : 0 < decimal.digits) :
    (scientificSpelling negative decimal).IsTaken ⟨decimal.digits, decimal.exponent⟩ := by
  have some : 0 < (digitChars decimal.digits).length := Nat.length_toDigits_pos
  have shift := shift_scientificSpelling negative decimal
  have isFraction : (scientificSpelling negative decimal).fraction.getD [] =
      (digitChars decimal.digits).drop 1 := by
    rw [scientificSpelling]
    dsimp only
    split
    · rw [List.drop_eq_nil_of_le (by omega), Option.getD_none]
    · rfl
  refine ⟨⟨areDigits_take Nat.one_pos _, ?_, ?_, ?_⟩, ?_, ?_, ?_⟩
  · intro isZero
    exact absurd isZero (head?_take_digitChars Nat.one_pos positive)
  · intro fraction isSome
    rw [scientificSpelling] at isSome
    dsimp only at isSome
    split at isSome
    · cases isSome
    · cases isSome
      exact areDigits_drop (by omega)
  · rintro exponent ⟨⟩
    exact areDigits_digitChars _
  · exact Bool.or_true _
  · rw [Spelling.digits, isFraction]
    simp only [scientificSpelling]
    rw [List.take_append_drop, ofDigitChars_digitChars]
  · rw [shift, isFraction, List.length_drop, leading]
    dsimp only
    omega

/-- What the reader takes from a written decimal. -/
theorem isTaken_spelling (positive : 0 < decimal.digits) :
    (layout.spelling negative decimal).IsTaken (scaled layout decimal) := by
  rw [spelling, scaled]
  cases layout.positional decimal.leading with
  | false => exact isTaken_scientific positive
  | true =>
      rw [if_pos rfl, Bool.true_and]
      split
      · next whole => exact isTaken_whole positive (by simpa using whole)
      · next below => exact isTaken_positional positive (by simpa using below)

/-- Positional form has no exponent, and in scientific form it is that of the leading digit. -/
theorem shift_spelling (layout : Layout) (negative : Bool) (decimal : Decimal) :
    (layout.spelling negative decimal).shift = 0 ∨
      (layout.spelling negative decimal).shift = decimal.leading := by
  rw [spelling]
  split
  · left
    rw [positionalSpelling]
    split
    · rfl
    · dsimp only
      split <;> rfl
  · right
    exact shift_scientificSpelling negative decimal

/-- What the reader makes of a written decimal that is moderate. -/
theorem value?_spelling (positive : 0 < decimal.digits)
    (fits : (scaled layout decimal).significand < UInt64.size)
    (inReach : decimal.leading.natAbs ≤ exponentLimit) {value : Float}
    (found : (scaled layout decimal).toDouble? = some value)
    (finite : (if negative then -value else value).isFinite = true) :
    (layout.spelling negative decimal).numeral.value? =
      some (.real (if negative then -value else value) finite) := by
  have isTaken : (layout.spelling negative decimal).IsTaken (scaled layout decimal) :=
    isTaken_spelling positive
  have sign : (layout.spelling negative decimal).numeral.negative = negative :=
    negative_spelling layout negative decimal
  have shift : (layout.spelling negative decimal).shift.natAbs ≤ exponentLimit := by
    rcases shift_spelling layout negative decimal with zero | leads
    · rw [zero]
      decide
    · rwa [leads]
  have magnitude := Spelling.magnitude?_numeral isTaken.valid
    (by rw [isTaken.significand]; exact fits) shift
  rw [isTaken.significand, isTaken.exponent, found] at magnitude
  simp only [value?, Spelling.integer?_of_isReal isTaken.isReal, real?, magnitude, sign,
    Option.bind_eq_bind, Option.bind_some]
  exact dif_pos finite

end Layout

end Decimal

end PhysicsScene
