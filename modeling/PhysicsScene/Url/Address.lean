import PhysicsScene.Text.Digit

/-!
# Numeric addresses

The rules by which the host of an address is a number: four parts of IPv4, each decimal, octal or
hexadecimal, of which the last may stand for several; and the groups of IPv6 between brackets.
-/

namespace PhysicsScene

namespace Url

namespace Ipv4

/-- The number of one part: `0x` starts hexadecimal, a further leading zero octal digits. -/
def part? : List Char → Option Nat
  | [] => none
  | '0' :: 'x' :: digits => Digit.number? 16 digits
  | '0' :: 'X' :: digits => Digit.number? 16 digits
  | '0' :: digit :: digits => Digit.number? 8 (digit :: digits)
  | digits => Digit.number? 10 digits

/-- Splits a host at its points. -/
def parts (host : List Char) : List (List Char) :=
  host.splitOn '.'

/-- The parts without an empty one at the end. -/
def significantParts (host : List Char) : List (List Char) :=
  let all := parts host
  if all.getLast? = some [] then all.dropLast else all

/-- Whether the last part looks like a number, so that the host must be an address. -/
def endsInNumber (host : List Char) : Bool :=
  if parts host = [[]] then false
  else
    match (significantParts host).getLast? with
    | none => false
    | some last => (!last.isEmpty && last.all Char.isDigit) || (part? last).isSome

/-- Whether numbers make an address: all but the last are bytes, the last fills the rest. -/
def isAddress (numbers : List Nat) : Bool :=
  match numbers.getLast? with
  | none => false
  | some last =>
      numbers.length ≤ 4 && numbers.dropLast.all (· ≤ 255) &&
        last < Nat.pow 256 (5 - numbers.length)

/-- Whether a host is an address. -/
def isValid (host : List Char) : Bool :=
  match (significantParts host).mapM part? with
  | none => false
  | some numbers => isAddress numbers

end Ipv4

namespace Ipv6

/-- A byte in decimal digits without a leading zero. -/
def isPlainByte (digits : List Char) : Bool :=
  match Digit.number? 10 digits with
  | none => false
  | some value => !digits.isEmpty && value ≤ 255 && (digits.length = 1 || digits.head? ≠ some '0')

/-- Whether an address of IPv4 may end an address of IPv6. -/
def isDottedTail (tail : List Char) : Bool :=
  let parts := tail.splitOn '.'
  parts.length = 4 && parts.all isPlainByte

/-- Whether a number of groups is complete. -/
def isComplete (groups : Nat) (compressed : Bool) : Bool :=
  compressed || groups = 8

/-- Checks the groups from some point on; `limit` bounds their number. -/
def checkGroups : (limit : Nat) → (groups : Nat) → (compressed : Bool) → List Char → Bool
  | 0, _, _, _ => false
  | _ + 1, groups, compressed, [] => isComplete groups compressed
  | limit + 1, groups, compressed, text@(first :: rest) =>
      if groups = 8 then false
      else if first = ':' then
        !compressed && checkGroups limit (groups + 1) true rest
      else
        let digits := (text.take 4).takeWhile fun char => (Digit.value? 16 char).isSome
        match text.drop digits.length with
        | [] => isComplete (groups + 1) compressed
        | '.' :: _ =>
            !digits.isEmpty && groups ≤ 6 && isDottedTail text && isComplete (groups + 2) compressed
        | ':' :: after => !after.isEmpty && checkGroups limit (groups + 1) compressed after
        | _ => false

/-- Whether the text between brackets is an address. -/
def isValid (text : List Char) : Bool :=
  match text with
  | ':' :: ':' :: rest => checkGroups 10 1 true rest
  | ':' :: _ => false
  | _ => 2 ≤ text.length && checkGroups 10 0 false text

end Ipv6

end Url

end PhysicsScene
