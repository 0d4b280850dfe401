import PhysicsScene.Text.Mark

/-!
# Directions of writing

Characters are written to the right or to the left, digits and signs go along with their
surroundings. A name with characters of both directions could be read in more than one order, so
the parts of a name in which anything is written to the left must be of one direction each.
-/

namespace PhysicsScene

/-- How a character takes part in the direction of a text. -/
inductive Direction where
  | right
  | left
  /-- A digit that is written to the right in text of either direction. -/
  | digit
  /-- A digit that occurs in text to the left only. -/
  | leftwardDigit
  /-- A mark, which goes along with the character before it. -/
  | mark
  /-- A sign, which goes along with its surroundings. -/
  | neutral
deriving DecidableEq, Repr

namespace Direction

/-- Characters that are written to the left. -/
def leftward : CodePointSet := .ofLines
  ["5BE 5C0 5C3 5C6 5D0-5F4 608 60B 60D 61B-64A 66D-66F 671-6D5 6E5-6E6 6EE-6EF 6FA-710 712-72F",
    "74D-7A5 7B1-7EA 7F4-7F5 7FA 7FE-815 81A 824 828 830-858 85E-88F 8A0-8C9 FBB2-FBC2 FE73",
    "10800-1091B 10920-10A00 10A10-10A35 10A40-10AE4 10AEB-10B35 10B40-10D23 10D4A-10D4F",
    "10D6F-10D8F 10E80-10EA9 10EAD-10EC7 10F00-10F45 10F51-10F81 10F86-10FF6 1E800-1E8CF",
    "1E922-1E943 1E94B-1ED3D"]

/-- Digits that are written to the right. -/
def digits : CodePointSet := .ofLines
  ["30-39 6F0-6F9 102E1-102FB"]

/-- Digits that occur in text to the left. -/
def leftwardDigits : CodePointSet := .ofLines
  ["660-669 66B-66C 10D30-10D49 10E60-10E7E"]

/-- Signs, and marks around numbers. -/
def signs : CodePointSet := .ofLines
  ["21-2E 3B-3D 5F-60 7B-D7 F7 2B9-2BA 2C2-2CF 2D2-2ED 2EF-2FF 375 3F6 58A-58F 606-607 609-60A",
    "60C 60E-60F 66A 6DE 6E9 7F6-7F9 9F2-9F3 9FB AF1 BF3-BFA C78-C7E E3F F3A-F3D 1390-1399 1400",
    "169B-169C 17DB 17F0-180A 1940-1945 19DE-19FF 200C-20C4 2104-214D 218A-2335 237B-2394",
    "2396-26AB 26AD-27FF 2900-2BFF 2CE5-2CEA 2CF9-2CFF 2E00-3004 3008-3020 3030 3037 303D-303F",
    "30A0 30FB 31C0-31E5 4DC0-4DFF A490-A4C6 A60D-A60F A673 A67E-A67F A700-A721 A788 A828-A82B",
    "A838-A839 A874-A877 AB6A-AB6B FBC3-FDFF FE45-FE46 10101 10140-1018C 10190-101A0 1091F",
    "10B39-10B3F 10D6E 10ED0-10EF9 11052-11065 11660-1166C 11FD5-11FF1 16FE2 1CC00-1CEF0",
    "1D1E9-1D241 1D245 1D300-1D356 1DB00-1DBFF 1E2FF 1EEF0-1F12F 1F16D-1F16F 1F1AD 1F260-1FBFA"]

/-- Marks without a space of their own that are written to the right like letters. -/
def rightwardMarks : CodePointSet := .ofLines
  ["CBF CC6 11A07-11A08 11C3F"]

/-- How a character takes part in the direction of a text; most are written to the right. -/
def ofChar (char : Char) : Direction :=
  if leftward.contains char then .left
  else if digits.contains char then .digit
  else if leftwardDigits.contains char then .leftwardDigit
  else if signs.contains char then .neutral
  else if Mark.isNonspacing char && !rightwardMarks.contains char then .mark
  else .right

/-- Whether text has anything that only text to the left has; nothing below `U+0590` is such. -/
def goesLeft (text : List Char) : Bool :=
  text.any fun char => '\u0590' ≤ char && [.left, .leftwardDigit].contains (ofChar char)

/-- Whether text that goes to the right is of one direction, given how it ends. -/
def isRightward (text : List Direction) (last : Option Direction) : Bool :=
  !text.contains .left && !text.contains .leftwardDigit &&
    (last = some .right || last = some .digit)

/-- Whether text that goes to the left is of one direction, given how it ends. -/
def isLeftward (text : List Direction) (last : Option Direction) : Bool :=
  !text.contains .right && !(text.contains .digit && text.contains .leftwardDigit) &&
    (last = some .left || last = some .digit || last = some .leftwardDigit)

/-- Whether text starts with a letter and is of the direction of this letter. -/
def isUniform (text : List Char) : Bool :=
  let directions := text.map ofChar
  let last := (directions.reverse.dropWhile (· = .mark)).head?
  match directions with
  | .right :: _ => isRightward directions last
  | .left :: _ => isLeftward directions last
  | _ => text.isEmpty

end Direction

end PhysicsScene
