import PhysicsScene.Text.Utf8

/-!
# The order of texts and of their bytes

Texts are ordered by their characters, and the bytes of texts in the same way. A greater character
has a greater byte at the first place where its bytes differ from those of a smaller one, since more
bytes begin with a greater first byte and equally many bytes hold the bits from the highest on. No
character is a start of another one, so what comes after it has no say (`Utf8.encode_lt_iff`).
-/

namespace PhysicsScene

namespace Utf8

/-- The bytes differ at a place that both have, and at the first such place by a smaller byte. -/
inductive Precedes : List UInt8 → List UInt8 → Prop
  | head {low high : UInt8} (below : low < high) (rest otherRest : List UInt8) :
      Precedes (low :: rest) (high :: otherRest)
  | tail (byte : UInt8) {rest otherRest : List UInt8} (later : Precedes rest otherRest) :
      Precedes (byte :: rest) (byte :: otherRest)

theorem Precedes.lt_append {first second : List UInt8} (precedes : Precedes first second)
    (firstLater secondLater : List UInt8) : first ++ firstLater < second ++ secondLater := by
  induction precedes with
  | head below rest otherRest => exact List.cons_lt_cons_iff.2 (.inl below)
  | tail byte later ih => exact List.cons_lt_cons_iff.2 (.inr ⟨rfl, ih⟩)

theorem ofNat_lt {low high : Nat} (below : low < high) (small : high < 256) :
    UInt8.ofNat low < UInt8.ofNat high := by
  rw [UInt8.lt_iff_toNat_lt, UInt8.toNat_ofNat', UInt8.toNat_ofNat',
    Nat.mod_eq_of_lt (Nat.lt_trans below small), Nat.mod_eq_of_lt small]
  exact below

/-- Bytes of one kind are compared by the bits that they hold, and then by what follows them. -/
theorem Precedes.byte {low high kind : Nat} {rest otherRest : List UInt8}
    (small : high + kind < 256) (ordered : low < high ∨ low = high ∧ Precedes rest otherRest) :
    Precedes (UInt8.ofNat (low + kind) :: rest) (UInt8.ofNat (high + kind) :: otherRest) := by
  rcases ordered with below | ⟨rfl, later⟩
  · exact .head (ofNat_lt (by omega) small) rest otherRest
  · exact .tail _ later

theorem precedes_utf8EncodeChar {first second : Char} (below : first < second) :
    Precedes (String.utf8EncodeChar first) (String.utf8EncodeChar second) := by
  have range : second.val.toNat < 0x110000 := by
    have valid : second.val.toNat < 0xD800 ∨ 0xDFFF < second.val.toNat ∧
        second.val.toNat < 0x110000 := second.valid
    omega
  have less : first.val.toNat < second.val.toNat := below
  generalize isLow : first.val.toNat = low at less
  generalize isHigh : second.val.toNat = high at less range
  simp only [String.utf8EncodeChar, isLow, isHigh]
  split
  · next oneByte =>
    split
    · exact .head (ofNat_lt less (by omega)) _ _
    · split
      · exact .head (ofNat_lt (by omega) (by omega)) _ _
      · split
        · exact .head (ofNat_lt (by omega) (by omega)) _ _
        · exact .head (ofNat_lt (by omega) (by omega)) _ _
  · split
    · next twoBytes =>
      rw [if_neg (by omega)]
      split
      · refine .byte (by omega) ?_
        by_cases top : low / 64 % 32 = high / 64 % 32
        · exact .inr ⟨top, .byte (by omega) (.inl (by omega))⟩
        · exact .inl (by omega)
      · split
        · exact .head (ofNat_lt (by omega) (by omega)) _ _
        · exact .head (ofNat_lt (by omega) (by omega)) _ _
    · split
      · next threeBytes =>
        rw [if_neg (by omega), if_neg (by omega)]
        split
        · refine .byte (by omega) ?_
          by_cases top : low / 4096 % 16 = high / 4096 % 16
          · refine .inr ⟨top, .byte (by omega) ?_⟩
            by_cases middle : low / 64 % 64 = high / 64 % 64
            · exact .inr ⟨middle, .byte (by omega) (.inl (by omega))⟩
            · exact .inl (by omega)
          · exact .inl (by omega)
        · exact .head (ofNat_lt (by omega) (by omega)) _ _
      · rw [if_neg (by omega), if_neg (by omega), if_neg (by omega)]
        refine .byte (by omega) ?_
        by_cases top : low / 262144 % 8 = high / 262144 % 8
        · refine .inr ⟨top, .byte (by omega) ?_⟩
          by_cases upper : low / 4096 % 64 = high / 4096 % 64
          · refine .inr ⟨upper, .byte (by omega) ?_⟩
            by_cases middle : low / 64 % 64 = high / 64 % 64
            · exact .inr ⟨middle, .byte (by omega) (.inl (by omega))⟩
            · exact .inl (by omega)
          · exact .inl (by omega)
        · exact .inl (by omega)

theorem flatMap_lt {first second : List Char} (below : first < second) :
    first.flatMap String.utf8EncodeChar < second.flatMap String.utf8EncodeChar := by
  induction first generalizing second with
  | nil =>
      cases second with
      | nil => cases below
      | cons other otherRest =>
          have someBytes : (other :: otherRest).flatMap String.utf8EncodeChar ≠ [] := by
            simp [String.utf8EncodeChar_ne_nil]
          rcases List.exists_cons_of_ne_nil someBytes with ⟨byte, bytes, isBytes⟩
          rw [isBytes]
          exact List.nil_lt_cons byte bytes
  | cons char rest ih =>
      cases second with
      | nil => cases below
      | cons other otherRest =>
          rw [List.flatMap_cons, List.flatMap_cons]
          rcases List.cons_lt_cons_iff.1 below with charBelow | ⟨rfl, restBelow⟩
          · exact (precedes_utf8EncodeChar charBelow).lt_append _ _
          · exact List.append_left_lt (ih restBelow)

/-- Texts are in the order of their bytes. -/
theorem encode_lt_iff (first second : String) : encode first < encode second ↔ first < second := by
  have byCharacters : ∀ {text other : String}, text < other → encode text < encode other :=
    fun below => flatMap_lt below
  constructor
  · intro bytesBelow
    rcases Std.lt_trichotomy first second with below | rfl | above
    · exact below
    · exact absurd bytesBelow (List.lt_irrefl _)
    · exact absurd (byCharacters above) (List.lt_asymm bytesBelow)
  · exact byCharacters

end Utf8

end PhysicsScene
