/-!
# Reading UTF-8

`Utf8.decode` reads bytes as characters and marks every maximal ill-formed part, that is, a byte
that cannot start a character, or the start of a character up to the byte that does not continue
it. A lenient reader shows U+FFFD for each mark, a strict one accepts no mark.
-/

namespace PhysicsScene

namespace Utf8

/-- The bytes that may come next in a character: from the first to the second. -/
abbrev ByteRange := UInt8 × UInt8

/-- Any continuation byte. -/
def anyContinuation : ByteRange := (0x80, 0xBF)

/-- A character of which some bytes were read. -/
structure Pending where
  /-- The ranges of the bytes that are missing. -/
  missing : List ByteRange
  /-- The value of the bits read so far. -/
  value : Nat

/-- What a first byte starts: a character of its own, a longer one, or nothing. -/
inductive Start where
  | complete (char : Char)
  | pending (rest : Pending)
  | illFormed

/-- What a byte starts. The second byte is limited where a shorter form exists or none does. -/
def start (byte : UInt8) : Start :=
  let value := byte.toNat
  if value < 0x80 then .complete (Char.ofNat value)
  else if value < 0xC2 then .illFormed
  else if value < 0xE0 then .pending ⟨[anyContinuation], value - 0xC0⟩
  else if value < 0xF0 then
    let second : ByteRange :=
      if value = 0xE0 then (0xA0, 0xBF) else if value = 0xED then (0x80, 0x9F) else anyContinuation
    .pending ⟨[second, anyContinuation], value - 0xE0⟩
  else if value < 0xF5 then
    let second : ByteRange :=
      if value = 0xF0 then (0x90, 0xBF) else if value = 0xF4 then (0x80, 0x8F) else anyContinuation
    .pending ⟨[second, anyContinuation, anyContinuation], value - 0xF0⟩
  else .illFormed

/-- Reads bytes after those of a pending character; `none` marks an ill-formed part. -/
def decodeFrom : Option Pending → List UInt8 → List (Option Char)
  | none, [] => []
  | some _, [] => [none]
  | none, byte :: rest =>
      match start byte with
      | .complete char => some char :: decodeFrom none rest
      | .pending pending => decodeFrom (some pending) rest
      | .illFormed => none :: decodeFrom none rest
  | some ⟨[], _⟩, _ :: rest => none :: decodeFrom none rest
  | some ⟨range :: missing, value⟩, byte :: rest =>
      if range.1 ≤ byte ∧ byte ≤ range.2 then
        let extended := value * 64 + (byte.toNat - 0x80)
        if missing.isEmpty then some (Char.ofNat extended) :: decodeFrom none rest
        else decodeFrom (some ⟨missing, extended⟩) rest
      else
        match start byte with
        | .complete char => none :: some char :: decodeFrom none rest
        | .pending pending => none :: decodeFrom (some pending) rest
        | .illFormed => none :: none :: decodeFrom none rest

/-- Reads bytes; `none` marks an ill-formed part. -/
def decode (bytes : List UInt8) : List (Option Char) :=
  decodeFrom none bytes

/-- The text of bytes, with U+FFFD for every ill-formed part. -/
def lenient (bytes : List UInt8) : String :=
  String.ofList ((decode bytes).map fun char => char.getD '\ufffd')

/-- The text of bytes without ill-formed parts. -/
def strict? (bytes : List UInt8) : Option String :=
  ((decode bytes).mapM id).map String.ofList

/-- The bytes of a text. -/
def encode (text : String) : List UInt8 :=
  text.toList.flatMap String.utf8EncodeChar

end Utf8

end PhysicsScene
