import PhysicsScene.Text.Digit

/-!
# Tables of code points

What is known of characters is told by tables: sets of code points, and maps from characters to
the characters that stand for them. The table of characters without a picture is that of Unicode 17;
the tables about domain names also know the characters that came with Unicode 18.

A table is written as lines of words, with code points in hexadecimal digits. In a set, `4B` is one
code point, and `30-39` are all from the first to the last. In a map, `B9=31,6F` says that `U+B9`
stands for `U+31` and the code point after it for `U+6F`; `AA=61+300` says that `U+AA` stands for
two characters; `D8-DE>F8` says that every code point of the range stands for the one that is as
far from `U+F8`, and `139-147/2>13A` says so of every second code point of the range. The ranges of
a table may run over code points that it is never asked about.
-/

namespace PhysicsScene

namespace CodePoints

/-- The words of lines. -/
def words (lines : List String) : List (List Char) :=
  lines.flatMap fun line => line.toList.splitOn ' '

/-- The number that a word writes in hexadecimal digits. -/
def number (word : List Char) : Nat :=
  (Digit.number? 16 word).getD 0

/-- The characters that a word writes with `+` between them. -/
def sequence (word : List Char) : List Char :=
  (word.splitOn '+').map fun code => Char.ofNat (number code)

end CodePoints

/-- The code points from the first to the last. -/
structure CodePointRange where
  first : Nat
  last : Nat
deriving DecidableEq, Repr

namespace CodePointRange

/-- The range that a word writes. -/
def ofWord (word : List Char) : CodePointRange :=
  match word.splitOn '-' with
  | [first, last] => ⟨CodePoints.number first, CodePoints.number last⟩
  | _ => ⟨CodePoints.number word, CodePoints.number word⟩

/-- Whether a character lies in the range. -/
def contains (range : CodePointRange) (char : Char) : Bool :=
  range.first ≤ char.toNat && char.toNat ≤ range.last

end CodePointRange

/-- A set of code points. -/
structure CodePointSet where
  ranges : List CodePointRange

namespace CodePointSet

/-- The set that lines write. -/
def ofLines (lines : List String) : CodePointSet :=
  ⟨(CodePoints.words lines).map CodePointRange.ofWord⟩

/-- Whether a character is in the set. -/
def contains (set : CodePointSet) (char : Char) : Bool :=
  set.ranges.any fun range => range.contains char

end CodePointSet

/-- A map from characters to the characters that stand for them. -/
structure CodePointMap where
  entries : List (Char × List Char)

namespace CodePointMap

/-- Entries from every `step`-th code point of a range to the one as far from `target`. -/
def shiftedEntries (range : CodePointRange) (step target : Nat) : List (Char × List Char) :=
  (List.range ((range.last - range.first) / step + 1)).map fun index =>
    (Char.ofNat (range.first + step * index), [Char.ofNat (target + step * index)])

/-- Entries from a code point and those after it, one for every target. -/
def listedEntries (first : Nat) (targets : List (List Char)) : List (Char × List Char) :=
  targets.zipIdx.map fun (target, index) =>
    (Char.ofNat (first + index), CodePoints.sequence target)

/-- The entries that a word writes. -/
def entriesOfWord (word : List Char) : List (Char × List Char) :=
  match word.splitOn '=', word.splitOn '>' with
  | [first, targets], _ => listedEntries (CodePoints.number first) (targets.splitOn ',')
  | _, [source, target] =>
      match source.splitOn '/' with
      | [range, step] =>
          shiftedEntries (.ofWord range) (CodePoints.number step) (CodePoints.number target)
      | _ => shiftedEntries (.ofWord source) 1 (CodePoints.number target)
  | _, _ => []

/-- The map that lines write. -/
def ofLines (lines : List String) : CodePointMap :=
  ⟨(CodePoints.words lines).flatMap entriesOfWord⟩

/-- The characters that stand for a character. -/
def find? (map : CodePointMap) (char : Char) : Option (List Char) :=
  (map.entries.find? fun entry => entry.1 = char).map Prod.snd

/-- The first character that a sequence stands for. -/
def source? (map : CodePointMap) (sequence : List Char) : Option Char :=
  (map.entries.find? fun entry => entry.2 = sequence).map Prod.fst

end CodePointMap

end PhysicsScene
