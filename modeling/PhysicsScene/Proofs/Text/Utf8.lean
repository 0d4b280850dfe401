import PhysicsScene.Text.Utf8

/-!
# Reading what was written

The bytes of a text are read as that text, by the lenient reader and by the strict one. The first
byte of a character tells how many bytes follow and which range the next one is in; from there on
each byte adds six bits. The limits on the second byte exclude longer forms, surrogates and values
beyond the last character, none of which a character has.
-/

namespace PhysicsScene

namespace Utf8

/-- A byte in the range that is waited for adds its six bits. -/
theorem decodeFrom_pending {range : ByteRange} {bits : Nat} (missing : List ByteRange)
    (value : Nat) (rest : List UInt8) (sixBits : bits < 64)
    (low : range.1.toNat ≤ bits + 0x80) (high : bits + 0x80 ≤ range.2.toNat) :
    decodeFrom (some ⟨range :: missing, value⟩) (UInt8.ofNat (bits + 0x80) :: rest) =
      if missing.isEmpty then some (Char.ofNat (value * 64 + bits)) :: decodeFrom none rest
      else decodeFrom (some ⟨missing, value * 64 + bits⟩) rest := by
  have byte : (UInt8.ofNat (bits + 0x80)).toNat = bits + 0x80 := by
    rw [UInt8.toNat_ofNat', Nat.mod_eq_of_lt (by omega)]
  have inRange : range.1 ≤ UInt8.ofNat (bits + 0x80) ∧ UInt8.ofNat (bits + 0x80) ≤ range.2 := by
    rw [UInt8.le_iff_toNat_le, UInt8.le_iff_toNat_le, byte]
    exact ⟨low, high⟩
  simp only [decodeFrom, if_pos inRange, byte, Nat.add_sub_cancel]

theorem decodeFrom_start {byte : UInt8} {pending : Pending} (rest : List UInt8)
    (starts : start byte = .pending pending) :
    decodeFrom none (byte :: rest) = decodeFrom (some pending) rest := by
  simp only [decodeFrom, starts]

/-- The number in a byte above some offset. -/
theorem toNat_ofNat_add {bits offset : Nat} (small : bits + offset < 256) :
    (UInt8.ofNat (bits + offset)).toNat = bits + offset := by
  rw [UInt8.toNat_ofNat', Nat.mod_eq_of_lt small]

theorem start_of_two {bits : Nat} (low : 2 ≤ bits) (high : bits < 32) :
    start (UInt8.ofNat (bits + 0xC0)) = .pending ⟨[anyContinuation], bits⟩ := by
  simp only [start, toNat_ofNat_add (show bits + 0xC0 < 256 by omega)]
  rw [if_neg (by omega), if_neg (by omega), if_pos (by omega), Nat.add_sub_cancel]

/-- The range of the second of three bytes, after the bits of the first. -/
def secondOfThree (bits : Nat) : ByteRange :=
  if bits = 0 then (0xA0, 0xBF) else if bits = 13 then (0x80, 0x9F) else anyContinuation

theorem start_of_three {bits : Nat} (high : bits < 16) :
    start (UInt8.ofNat (bits + 0xE0)) =
      .pending ⟨[secondOfThree bits, anyContinuation], bits⟩ := by
  have zero : bits + 0xE0 = 0xE0 ↔ bits = 0 := by omega
  have last : bits + 0xE0 = 0xED ↔ bits = 13 := by omega
  simp only [start, toNat_ofNat_add (show bits + 0xE0 < 256 by omega), zero, last, secondOfThree]
  rw [if_neg (by omega), if_neg (by omega), if_neg (by omega), if_pos (by omega),
    Nat.add_sub_cancel]

/-- The range of the second of four bytes, after the bits of the first. -/
def secondOfFour (bits : Nat) : ByteRange :=
  if bits = 0 then (0x90, 0xBF) else if bits = 4 then (0x80, 0x8F) else anyContinuation

theorem start_of_four {bits : Nat} (high : bits < 5) :
    start (UInt8.ofNat (bits + 0xF0)) =
      .pending ⟨[secondOfFour bits, anyContinuation, anyContinuation], bits⟩ := by
  have zero : bits + 0xF0 = 0xF0 ↔ bits = 0 := by omega
  have last : bits + 0xF0 = 0xF4 ↔ bits = 4 := by omega
  simp only [start, toNat_ofNat_add (show bits + 0xF0 < 256 by omega), zero, last, secondOfFour]
  rw [if_neg (by omega), if_neg (by omega), if_neg (by omega), if_neg (by omega),
    if_pos (by omega), Nat.add_sub_cancel]

section Continuation

variable {bits : Nat} (value : Nat) (rest : List UInt8) (sixBits : bits < 64)

include sixBits

/-- The last byte completes a character. -/
theorem decodeFrom_last :
    decodeFrom (some ⟨[anyContinuation], value⟩) (UInt8.ofNat (bits + 0x80) :: rest) =
      some (Char.ofNat (value * 64 + bits)) :: decodeFrom none rest := by
  have last : bits + 0x80 ≤ anyContinuation.2.toNat := show bits + 0x80 ≤ 0xBF by omega
  rw [decodeFrom_pending [] value rest sixBits (Nat.le_add_left _ _) last]
  rfl

/-- A byte between the second and the last has no limit of its own. -/
theorem decodeFrom_inner (next : ByteRange) :
    decodeFrom (some ⟨[anyContinuation, next], value⟩) (UInt8.ofNat (bits + 0x80) :: rest) =
      decodeFrom (some ⟨[next], value * 64 + bits⟩) rest := by
  have last : bits + 0x80 ≤ anyContinuation.2.toNat := show bits + 0x80 ≤ 0xBF by omega
  rw [decodeFrom_pending [next] value rest sixBits (Nat.le_add_left _ _) last]
  rfl

/-- The second byte of several is within the limits that the first one sets. -/
theorem decodeFrom_second {range : ByteRange} (next : ByteRange) (later : List ByteRange)
    (low : range.1.toNat ≤ bits + 0x80) (high : bits + 0x80 ≤ range.2.toNat) :
    decodeFrom (some ⟨range :: next :: later, value⟩) (UInt8.ofNat (bits + 0x80) :: rest) =
      decodeFrom (some ⟨next :: later, value * 64 + bits⟩) rest := by
  rw [decodeFrom_pending (next :: later) value rest sixBits low high]
  rfl

end Continuation

/-- The bytes of a character are read as the character. -/
theorem decodeFrom_utf8EncodeChar (char : Char) (rest : List UInt8) :
    decodeFrom none (String.utf8EncodeChar char ++ rest) = some char :: decodeFrom none rest := by
  have whole : Char.ofNat char.val.toNat = char := Char.ofNat_toNat char
  have valid : char.val.toNat < 0xD800 ∨ 0xDFFF < char.val.toNat ∧ char.val.toNat < 0x110000 :=
    char.valid
  generalize number : char.val.toNat = value at whole valid
  simp only [String.utf8EncodeChar, number]
  split
  · next one =>
    have byte : (UInt8.ofNat value).toNat = value := by
      rw [UInt8.toNat_ofNat', Nat.mod_eq_of_lt (by omega)]
    have starts : start (UInt8.ofNat value) = .complete char := by
      simp only [start, byte, whole]
      rw [if_pos (by omega)]
    simp only [List.cons_append, List.nil_append, decodeFrom, starts]
  · split
    · next two =>
      have starts := start_of_two (show 2 ≤ value / 64 % 32 by omega) (by omega)
      simp only [List.cons_append, List.nil_append]
      rw [decodeFrom_start _ starts, decodeFrom_last _ _ (Nat.mod_lt _ (by decide)), ← whole]
      congr 3
      omega
    · split
      · next three =>
        have starts := start_of_three (show value / 4096 % 16 < 16 by omega)
        have limits : (secondOfThree (value / 4096 % 16)).1.toNat ≤ value / 64 % 64 + 0x80 ∧
            value / 64 % 64 + 0x80 ≤ (secondOfThree (value / 4096 % 16)).2.toNat := by
          rw [secondOfThree]
          split
          · exact ⟨show 0xA0 ≤ _ by omega, show _ ≤ 0xBF by omega⟩
          · split
            · exact ⟨show 0x80 ≤ _ by omega, show _ ≤ 0x9F by omega⟩
            · exact ⟨show 0x80 ≤ _ by omega, show _ ≤ 0xBF by omega⟩
        simp only [List.cons_append, List.nil_append]
        rw [decodeFrom_start _ starts,
          decodeFrom_second _ _ (Nat.mod_lt _ (by decide)) _ _ limits.1 limits.2,
          decodeFrom_last _ _ (Nat.mod_lt _ (by decide)), ← whole]
        congr 3
        omega
      · have starts := start_of_four (show value / 262144 % 8 < 5 by omega)
        have limits : (secondOfFour (value / 262144 % 8)).1.toNat ≤ value / 4096 % 64 + 0x80 ∧
            value / 4096 % 64 + 0x80 ≤ (secondOfFour (value / 262144 % 8)).2.toNat := by
          rw [secondOfFour]
          split
          · exact ⟨show 0x90 ≤ _ by omega, show _ ≤ 0xBF by omega⟩
          · split
            · exact ⟨show 0x80 ≤ _ by omega, show _ ≤ 0x8F by omega⟩
            · exact ⟨show 0x80 ≤ _ by omega, show _ ≤ 0xBF by omega⟩
        simp only [List.cons_append, List.nil_append]
        rw [decodeFrom_start _ starts,
          decodeFrom_second _ _ (Nat.mod_lt _ (by decide)) _ _ limits.1 limits.2,
          decodeFrom_inner _ _ (Nat.mod_lt _ (by decide)),
          decodeFrom_last _ _ (Nat.mod_lt _ (by decide)), ← whole]
        congr 3
        omega

/-- The bytes of a text are its characters, with no part that is ill-formed. -/
theorem decode_encode (text : String) : decode (encode text) = text.toList.map some := by
  rw [decode, encode]
  induction text.toList with
  | nil => rfl
  | cons char rest ih => rw [List.flatMap_cons, decodeFrom_utf8EncodeChar, ih, List.map_cons]

theorem lenient_encode (text : String) : lenient (encode text) = text := by
  rw [lenient, decode_encode, List.map_map]
  have same : ((fun char : Option Char => char.getD '\ufffd') ∘ some) = id := rfl
  rw [same, List.map_id, String.ofList_toList]

theorem strict?_encode (text : String) : strict? (encode text) = some text := by
  have characters : (text.toList.map some).mapM id = some text.toList := by
    induction text.toList with
    | nil => rfl
    | cons char rest ih => simp [ih]
  rw [strict?, decode_encode, characters, Option.map_some, String.ofList_toList]

end Utf8

end PhysicsScene
