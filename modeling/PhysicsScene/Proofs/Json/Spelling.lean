import Mathlib.Data.List.Basic
import PhysicsScene.Decimal.Layout
import PhysicsScene.Json.Numeral
import PhysicsScene.Proofs.Json.Progress

/-!
# How numbers are spelled

A `Numeral.Spelling` is the text of a numeral cut into its parts. The reader of numerals takes a
valid spelling apart in the same way, whatever comma or bracket comes behind it
(`taken?_read_spelling`), so what a text is read as can be computed from its parts. An integer of 64
bits is spelled so that reading gives it back.
-/

namespace PhysicsScene

namespace Reader

/-- No value goes on into the text: nothing is left, or a comma or a closing bracket is next. -/
def Ends (text : List Char) : Prop :=
  ∀ char ∈ text.head?, char = ',' ∨ char = ']' ∨ char = '\x7d'

theorem ends_nil : Ends [] := by
  simp [Ends]

theorem ends_comma (text : List Char) : Ends (',' :: text) := by
  simp [Ends]

theorem ends_bracket (text : List Char) : Ends (']' :: text) := by
  simp [Ends]

theorem ends_brace (text : List Char) : Ends ('\x7d' :: text) := by
  simp [Ends]

end Reader

namespace Numeral

open Reader

variable {written rest : List Char}

@[simp]
theorem isSome_digit? (char : Char) : (digit? char).isSome = char.isDigit := by
  have bounds : ('0' ≤ char ∧ char ≤ '9') ↔ char.isDigit = true := by
    simp [Char.isDigit, Char.le_def]
  by_cases isDigit : char.isDigit = true
  · simp [digit?, bounds.2 isDigit, isDigit]
  · simp [digit?, bounds, isDigit]

/-- One or more decimal digits. -/
def AreDigits (chars : List Char) : Prop :=
  chars ≠ [] ∧ ∀ char ∈ chars, char.isDigit = true

/-- The values of the digits in a text. -/
def digitValues (chars : List Char) : List Nat :=
  chars.filterMap digit?

theorem taken?_digits (areDigits : ∀ char ∈ written, char.isDigit = true)
    (stops : ∀ char ∈ rest.head?, char.isDigit = false) :
    digits.taken? (written ++ rest) = some (digitValues written, rest) := by
  have stopped : rest.takeWhile Char.isDigit = [] ∧ rest.dropWhile Char.isDigit = rest := by
    cases rest with
    | nil => exact ⟨rfl, rfl⟩
    | cons char tail =>
        have notDigit := stops char rfl
        exact ⟨List.takeWhile_cons_of_neg (by simp [notDigit]),
          List.dropWhile_cons_of_neg (by simp [notDigit])⟩
  simp only [taken?, digits, isSome_digit?]
  rw [List.takeWhile_append_of_pos areDigits, List.dropWhile_append_of_pos areDigits, stopped.1,
    stopped.2, List.append_nil]
  rfl

theorem taken?_someDigits_spelled (atEnd : Fault) (areDigits : AreDigits written)
    (stops : ∀ char ∈ rest.head?, char.isDigit = false) :
    (someDigits atEnd).taken? (written ++ rest) = some (digitValues written, rest) := by
  rcases areDigits with ⟨some, areDigits⟩
  have all := taken?_digits areDigits stops
  cases written with
  | nil => exact absurd rfl some
  | cons first tail =>
      have isDigit := areDigits first List.mem_cons_self
      simp only [someDigits, taken?_bind, taken?_peek, Option.bind_some, List.cons_append,
        List.head?_cons, isSome_digit?, isDigit, if_true]
      exact all

/-- The text of a numeral, cut into its parts. -/
structure Spelling where
  negative : Bool
  whole : List Char
  fraction : Option (List Char)
  /-- The sign of the exponent and its digits. -/
  exponent : Option (Bool × List Char)

namespace Spelling

/-- The fraction behind its point. -/
def fractionChars : Option (List Char) → List Char
  | none => []
  | some fraction => '.' :: fraction

/-- The exponent behind its mark and its sign. -/
def exponentChars : Option (Bool × List Char) → List Char
  | none => []
  | some (below, exponent) => 'e' :: (if below then '-' else '+') :: exponent

/-- The whole text. -/
def chars (spelling : Spelling) : List Char :=
  (if spelling.negative then ['-'] else []) ++ (spelling.whole ++
    (fractionChars spelling.fraction ++ exponentChars spelling.exponent))

/-- The numeral that is spelled. -/
def numeral (spelling : Spelling) : Numeral where
  negative := spelling.negative
  whole := digitValues spelling.whole
  fraction := spelling.fraction.map digitValues
  exponent := spelling.exponent.map fun exponent => (exponent.1, digitValues exponent.2)

/-- Every part has digits, and a zero in front of the point stands alone. -/
structure IsValid (spelling : Spelling) : Prop where
  whole : AreDigits spelling.whole
  leading : spelling.whole.head? = some '0' → spelling.whole = ['0']
  fraction : ∀ fraction ∈ spelling.fraction, AreDigits fraction
  exponent : ∀ exponent ∈ spelling.exponent, AreDigits exponent.2

end Spelling

open Spelling

theorem not_isDigit_of_ends (ends : Ends rest) : ∀ char ∈ rest.head?, char.isDigit = false := by
  intro char isHead
  rcases ends char isHead with rfl | rfl | rfl <;> rfl

theorem taken?_exponentPart_spelled (atEnd : Fault) {exponent : Option (Bool × List Char)}
    (valid : ∀ part ∈ exponent, AreDigits part.2) (ends : Ends rest) :
    (exponentPart atEnd).taken? (exponentChars exponent ++ rest) =
      some (exponent.map fun part => (part.1, digitValues part.2), rest) := by
  cases exponent with
  | none =>
      have noMark : ¬(rest.head? = some 'e' ∨ rest.head? = some 'E') := by
        rintro (isMark | isMark)
        · simpa using ends 'e' isMark
        · simpa using ends 'E' isMark
      simp only [exponentChars, List.nil_append, exponentPart, taken?_bind, taken?_peek,
        Option.bind_some, taken?_ite, noMark, if_false, taken?_pure, Option.map_none]
  | some part =>
      rcases part with ⟨below, exponent⟩
      have all := taken?_someDigits_spelled atEnd (valid _ rfl) (not_isDigit_of_ends ends)
      cases below with
      | false => simp [exponentChars, exponentPart, all]
      | true => simp [exponentChars, exponentPart, all]

theorem taken?_fractionPart_spelled (atEnd : Fault) {fraction : Option (List Char)}
    (valid : ∀ part ∈ fraction, AreDigits part)
    (stops : ∀ char ∈ rest.head?, char.isDigit = false) (noPoint : rest.head? ≠ some '.') :
    (fractionPart atEnd).taken? (fractionChars fraction ++ rest) =
      some (fraction.map digitValues, rest) := by
  cases fraction with
  | none =>
      simp [fractionChars, fractionPart]
  | some fraction =>
      have all := taken?_someDigits_spelled atEnd (valid _ rfl) stops
      simp [fractionChars, fractionPart, all]

theorem taken?_wholePart_spelled (atEnd : Fault) (areDigits : AreDigits written)
    (leading : written.head? = some '0' → written = ['0'])
    (stops : ∀ char ∈ rest.head?, char.isDigit = false) :
    (wholePart atEnd).taken? (written ++ rest) = some (digitValues written, rest) := by
  by_cases isZero : written.head? = some '0'
  · rw [leading isZero]
    cases rest with
    | nil => rfl
    | cons char tail =>
        have notDigit := stops char rfl
        simp only [wholePart, List.cons_append, taken?_bind, taken?_drop, Option.bind_some,
          List.tail_cons, taken?_peek, List.head?_cons, List.nil_append, isSome_digit?, notDigit,
          Bool.false_eq_true, if_false]
        rfl
  · have all := taken?_someDigits_spelled atEnd areDigits stops
    cases written with
    | nil => exact absurd rfl areDigits.1
    | cons first tail =>
        simp only [wholePart, taken?_bind, taken?_peek, Option.bind_some, List.cons_append,
          List.head?_cons]
        split
        · next impossible => cases impossible
        · next first => exact absurd first isZero
        · exact all

theorem head?_exponentChars (exponent : Option (Bool × List Char)) (ends : Ends rest) :
    ∀ char ∈ (exponentChars exponent ++ rest).head?, char.isDigit = false ∧ char ≠ '.' := by
  intro char isHead
  cases exponent with
  | none => rcases ends char isHead with rfl | rfl | rfl <;> decide
  | some part =>
      cases isHead
      decide

/-- A spelled numeral is read in its parts. -/
theorem taken?_read_spelling (atEnd : Fault) {spelling : Spelling} (valid : spelling.IsValid)
    (ends : Ends rest) :
    (read atEnd).taken? (spelling.chars ++ rest) = some (spelling.numeral, rest) := by
  have isExponent := taken?_exponentPart_spelled atEnd valid.exponent ends
  have stops := head?_exponentChars spelling.exponent ends
  have isFraction := taken?_fractionPart_spelled atEnd valid.fraction
    (fun char isHead => (stops char isHead).1) (fun isPoint => (stops '.' isPoint).2 rfl)
  have stopsWhole : ∀ char ∈ (fractionChars spelling.fraction ++
      (exponentChars spelling.exponent ++ rest)).head?, char.isDigit = false := by
    intro char isHead
    cases fraction : spelling.fraction with
    | none =>
        rw [fraction] at isHead
        exact (stops char isHead).1
    | some part =>
        rw [fraction] at isHead
        cases isHead
        rfl
  have isWhole := taken?_wholePart_spelled atEnd valid.whole valid.leading stopsWhole
  have later : taken? (do
      let whole ← wholePart atEnd
      let fraction ← fractionPart atEnd
      let exponent ← exponentPart atEnd
      pure (Numeral.mk spelling.negative whole fraction exponent))
        (spelling.whole ++ (fractionChars spelling.fraction ++
          (exponentChars spelling.exponent ++ rest))) = some (spelling.numeral, rest) := by
    simp [isWhole, isFraction, isExponent, numeral]
  have noSign : (spelling.whole ++ (fractionChars spelling.fraction ++
      (exponentChars spelling.exponent ++ rest))).head? ≠ some '-' := by
    rcases valid.whole with ⟨some, areDigits⟩
    cases whole : spelling.whole with
    | nil => exact absurd whole some
    | cons first tail =>
        have isDigit := areDigits first (by simp [whole])
        rintro isSign
        cases isSign
        cases isDigit
  have written : spelling.chars ++ rest = (if spelling.negative then ['-'] else []) ++
      (spelling.whole ++ (fractionChars spelling.fraction ++
        (exponentChars spelling.exponent ++ rest))) := by
    simp only [Spelling.chars, List.append_assoc]
  rw [written]
  generalize spelling.whole ++ (fractionChars spelling.fraction ++
    (exponentChars spelling.exponent ++ rest)) = unsigned at later noSign
  cases sign : spelling.negative with
  | true =>
      rw [sign] at later
      simpa [read] using later
  | false =>
      rw [sign] at later
      simpa [read, noSign] using later

theorem taken?_number_spelling {spelling : Spelling} (valid : spelling.IsValid) {value : Number}
    (isValue : spelling.numeral.value? = some value) (ends : Ends rest) :
    number.taken? (spelling.chars ++ rest) = some (value, rest) := by
  rw [number, taken?_bind, taken?_read_spelling .truncated valid ends, Option.bind_some, isValue]
  rfl

theorem digit?_of_isDigit {char : Char} (isDigit : char.isDigit = true) :
    digit? char = some (char.toNat - '0'.toNat) := by
  have found : (digit? char).isSome = true := by rw [isSome_digit?, isDigit]
  rw [digit?] at found ⊢
  split at found
  · next bounds => rw [if_pos bounds]
  · cases found

/-- Digits spell the number that the standard library finds in them. -/
theorem ofDigits_digitValues (areDigits : ∀ char ∈ written, char.isDigit = true) :
    ofDigits (digitValues written) = Nat.ofDigitChars 10 written 0 := by
  rw [ofDigits]
  generalize 0 = start
  induction written generalizing start with
  | nil => rfl
  | cons first tail ih =>
      have isDigit := areDigits first List.mem_cons_self
      have later := ih fun char member => areDigits char (List.mem_cons_of_mem _ member)
      simp only [digitValues, List.filterMap_cons, digit?_of_isDigit isDigit, List.foldl_cons,
        Nat.ofDigitChars_cons]
      exact later _

theorem areDigits_digitChars (value : Nat) : AreDigits (Decimal.digitChars value) :=
  ⟨Nat.toDigits_ne_nil, fun _ member =>
    Nat.isDigit_of_mem_toDigits (by decide) (by decide) member⟩

theorem head?_digitChars {value : Nat} (positive : 0 < value) :
    (Decimal.digitChars value).head? ≠ some '0' := by
  induction value using Nat.strongRecOn with
  | ind value ih =>
      rw [Decimal.digitChars]
      rcases Nat.lt_or_ge value 10 with below | above
      · rw [Nat.toDigits_of_lt_base below]
        have first : ∀ digit < 10, 0 < digit → Nat.digitChar digit ≠ '0' := by decide
        intro isZero
        exact first value below positive (Option.some.inj isZero)
      · rw [Nat.toDigits_of_base_le (by decide) above,
          List.head?_append_of_ne_nil _ Nat.toDigits_ne_nil]
        exact ih (value / 10) (by omega) (by omega)

theorem digitChars_leading (value : Nat) :
    (Decimal.digitChars value).head? = some '0' → Decimal.digitChars value = ['0'] := by
  intro isZero
  rcases Nat.eq_zero_or_pos value with rfl | positive
  · rfl
  · exact absurd isZero (head?_digitChars positive)

namespace Spelling

/-- How an integer is spelled. -/
def ofInteger (value : Int) : Spelling :=
  ⟨value < 0, Decimal.digitChars value.natAbs, none, none⟩

theorem chars_ofInteger (value : Int) : (ofInteger value).chars = Decimal.integerChars value := by
  cases value with
  | ofNat value => simp [ofInteger, chars, fractionChars, exponentChars, Decimal.integerChars]
  | negSucc value =>
      simp [ofInteger, chars, fractionChars, exponentChars, Decimal.integerChars,
        Int.negSucc_lt_zero]

theorem isValid_ofInteger (value : Int) : (ofInteger value).IsValid where
  whole := areDigits_digitChars _
  leading := digitChars_leading _
  fraction := by simp [ofInteger]
  exponent := by simp [ofInteger]

theorem integer?_ofInteger (value : Int) : (ofInteger value).numeral.integer? = some value := by
  have whole : ofDigits (digitValues (Decimal.digitChars value.natAbs)) = value.natAbs := by
    rw [ofDigits_digitValues (areDigits_digitChars _).2]
    exact Nat.ofDigitChars_ten_toDigits
  simp only [integer?, numeral, ofInteger, Option.map_none, Option.isSome_none, Bool.or_self,
    Bool.false_eq_true, if_false, whole, decide_eq_true_eq]
  split
  · next below =>
      rw [if_neg (by omega), Option.some.injEq]
      omega
  · next notBelow =>
      rw [Option.some.injEq]
      omega

/-- An integer of 64 bits is spelled as itself. -/
theorem value?_ofInteger {value : Int} (inRange : Number.InRange value) :
    (ofInteger value).numeral.value? = some (.integer value inRange) := by
  rw [value?, integer?_ofInteger]
  exact dif_pos inRange

end Spelling

end Numeral

end PhysicsScene
