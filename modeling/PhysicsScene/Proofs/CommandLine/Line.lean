import PhysicsScene.CommandLine.Run
import PhysicsScene.Proofs.Number.Nearest

/-!
# The lines of a run

What a run prints is described here by what a reader finds in it. The report counts in decimal
digits. The line of a named body has a column for the name and two for the coordinates, each text at
the right end of its column (`CommandLine.IsLine`). A coordinate is shown by its nearest hundredths,
a half going to the even ones (`CommandLine.ShowsHundredths`).
-/

namespace PhysicsScene

namespace CommandLine

/-- The text that reports a load. -/
def reported (report : LoadSummary) : String :=
  "Loaded " ++ toString report.committed ++ " bodies (" ++ toString report.bound ++ " named, " ++
    toString report.dropped ++ " dropped, " ++ toString report.discarded ++ " discarded, " ++
    toString report.diagnostics ++ " diagnostics)\n"

/-- The text stands at the right end of a column, which is wider than asked for if it has to be. -/
inductive IsRightAligned (width : Nat) (text : List Char) : List Char → Prop
  | intro {blanks : Nat} (isWide : blanks + text.length = max width text.length) :
      IsRightAligned width text (List.replicate blanks ' ' ++ text)

/-- The text shows a value with two places. -/
inductive ShowsHundredths : BinaryValue → List Char → Prop
  | nan : ShowsHundredths .nan ['N', 'a', 'N']
  | infinite (negative : Bool) :
      ShowsHundredths (.infinite negative) ((if negative then ['-'] else []) ++ ['i', 'n', 'f'])
  | finite (negative : Bool) {significand : ℕ} {place : ℤ} {whole tenths hundredths : ℕ}
      (isTenths : tenths < 10) (isHundredths : hundredths < 10)
      (isNearest : IsNearest (significand * 2 ^ place * 100)
        (100 * whole + 10 * tenths + hundredths)) :
      ShowsHundredths (.finite negative significand place)
        ((if negative then ['-'] else []) ++
          ((toString whole).toList ++ ['.', tenths.digitChar, hundredths.digitChar]))

/-- The line that shows a name and a position. -/
inductive IsLine (name : String) (position : Vector2) : String → Prop
  | intro {x y nameColumn xColumn yColumn : List Char}
      (showsX : ShowsHundredths (Single.value position.x) x)
      (showsY : ShowsHundredths (Single.value position.y) y)
      (alignsName : IsRightAligned 12 name.toList nameColumn)
      (alignsX : IsRightAligned 8 x xColumn) (alignsY : IsRightAligned 8 y yColumn) :
      IsLine name position (String.ofList
        (nameColumn ++ [' ', ' ', '('] ++ xColumn ++ [',', ' '] ++ yColumn ++ [')', '\n']))

theorem reportLine_eq (report : LoadSummary) : reportLine report = reported report :=
  rfl

theorem isRightAligned_rightAligned (width : Nat) (text : List Char) :
    IsRightAligned width text (rightAligned width text) := by
  apply IsRightAligned.intro
  omega

/-- A number with zeros before it, if it needs them for three digits. -/
theorem padded_digitChars (number : ℕ) :
    List.replicate (2 + 1 - (Decimal.digitChars number).length) '0' ++ Decimal.digitChars number =
      Decimal.digitChars (number / 100) ++
        [(number / 10 % 10).digitChar, (number % 10).digitChar] := by
  have first : number / 100 = number / 10 / 10 := (Nat.div_div_eq_div_mul number 10 10).symm
  simp only [Decimal.digitChars, first]
  rcases Nat.lt_or_ge number 10 with small | long
  · rw [Nat.div_eq_of_lt small, Nat.mod_eq_of_lt small, Nat.toDigits_of_lt_base small]
    rfl
  · rw [Nat.toDigits_of_base_le (by decide) long]
    generalize number / 10 = upper
    rcases Nat.lt_or_ge upper 10 with short | long
    · rw [Nat.div_eq_of_lt short, Nat.mod_eq_of_lt short, Nat.toDigits_of_lt_base short]
      rfl
    · rw [Nat.toDigits_of_base_le (by decide) long, List.append_assoc]
      have some : 0 < (Nat.toDigits 10 (upper / 10)).length := Nat.length_toDigits_pos
      have filled : 2 + 1 - (Nat.toDigits 10 (upper / 10) ++
          ([(upper % 10).digitChar] ++ [(number % 10).digitChar])).length = 0 := by
        simp only [List.length_append, List.length_singleton]
        omega
      rw [filled]
      rfl

/-- The hundredths of a magnitude are a rounded quotient. -/
theorem isNearest_hundredths (significand : ℕ) (place : ℤ) :
    IsNearest (significand * 2 ^ place * 100)
      (roundedQuotient (significand * Nat.pow 10 2 * Nat.pow 2 place.toNat)
        (Nat.pow 2 (-place).toNat)) := by
  have isNearest := isNearest_roundedQuotient
    (significand * Nat.pow 10 2 * Nat.pow 2 place.toNat) (Nat.two_pow_pos (-place).toNat)
  have power : (2 : ℚ) ^ place = 2 ^ place.toNat / 2 ^ (-place).toNat := by
    rw [← zpow_natCast, ← zpow_natCast, ← zpow_sub₀ two_ne_zero]
    congr 1
    omega
  have exact : (significand : ℚ) * 2 ^ place * 100 =
      (significand * Nat.pow 10 2 * Nat.pow 2 place.toNat : ℕ) / (2 ^ (-place).toNat : ℕ) := by
    rw [power]
    push_cast [Nat.pow_eq]
    ring
  rwa [exact]

theorem showsHundredths_fixedChars (value : BinaryValue) :
    ShowsHundredths value (Decimal.fixedChars 2 value) := by
  cases value with
  | nan => exact .nan
  | infinite negative => exact .infinite negative
  | finite negative significand place =>
      have isNearest := isNearest_hundredths significand place
      rw [Decimal.fixedChars, Decimal.fixedMagnitudeChars]
      generalize roundedQuotient (significand * Nat.pow 10 2 * Nat.pow 2 place.toNat)
        (Nat.pow 2 (-place).toNat) = number at isNearest
      have parts : 100 * (number / 100) + 10 * (number / 10 % 10) + number % 10 = number := by
        omega
      rw [← parts] at isNearest
      have shows := ShowsHundredths.finite negative (Nat.mod_lt _ (by decide))
        (Nat.mod_lt _ (by decide)) isNearest
      rw [Nat.toString_eq_repr, Nat.toList_repr] at shows
      simp only [padded_digitChars, List.length_append, List.length_cons, List.length_nil,
        Nat.zero_add, Nat.reduceAdd, Nat.add_sub_cancel, List.take_left, List.drop_left]
      exact shows

/-- A printed line is the line of its name and position. -/
theorem isLine_bodyLine (name : String) (position : Vector2) :
    IsLine name position (bodyLine name position) := by
  have isLine := IsLine.intro (showsHundredths_fixedChars (Single.value position.x))
    (showsHundredths_fixedChars (Single.value position.y))
    (isRightAligned_rightAligned 12 name.toList) (isRightAligned_rightAligned 8 _)
    (isRightAligned_rightAligned 8 _)
  simpa [bodyLine, coordinateText] using isLine

end CommandLine

end PhysicsScene
