import PhysicsScene.Proofs.Json.RoundTrip
import PhysicsScene.Proofs.Json.SingleText
import PhysicsScene.Settings

/-!
# Settings that are stored

A host stores settings as a text with all seven fields and loads them from it later. Every string
and every timeout is read as it was written, and so is every finite number. A number that is not
finite is written as `null`, from which no number is read. So valid settings are loaded again exactly
if all their numbers are finite, and are never loaded as others (`toOption_ofText_toText`). Being
accepted does not make them finite: a numeral beyond the range of a single is read as an infinity.
-/

namespace PhysicsScene

namespace Decoder

open Json

variable {α : Type} {depth : Nat} {written : List Char} {result : Option α}

/-- What is written spells a tree of which the decoder makes the result. -/
def Recovers (decoder : Decoder α) (depth : Nat) (written : List Char) (result : Option α) : Prop :=
  ∃ tree, Spells depth written tree ∧ decoder.ofJson? tree = result

theorem Recovers.decode_eq_ok_iff {decoder : Decoder α}
    (recovers : decoder.Recovers depthLimit written result) (agrees : decoder.Agrees) {value : α} :
    decoder.decode (String.ofList written) = .ok value ↔ result = some value := by
  rcases recovers with ⟨tree, spells, rfl⟩
  rw [← agrees.decode (readWhole_of_spells spells)]
  cases decoder.decode (String.ofList written) with
  | error fault => simp [Except.toOption]
  | ok found => simp [Except.toOption]

theorem recovers_single (depth : Nat) (number : Float32) :
    single.Recovers depth (singleChars number) (if number.isFinite then some number else none) := by
  rcases Single.exists_tree number with ⟨tree, spells, isResult⟩
  exact ⟨tree, spells depth, isResult⟩

theorem recovers_boolean (depth : Nat) (value : Bool) :
    boolean.Recovers depth (booleanChars value) (some value) :=
  ⟨_, spells_boolean depth value, rfl⟩

theorem recovers_text (depth : Nat) (value : String) :
    Decoder.text.Recovers depth (textChars value) (some value) :=
  ⟨_, spells_text depth value, rfl⟩

theorem recovers_unsigned (depth : Nat) (value : UInt64) :
    unsigned.Recovers depth (Decimal.digitChars value.toNat) (some value) := by
  have inRange : Number.InRange value.toNat := by
    have bound := value.toNat_lt
    unfold Number.InRange
    omega
  refine ⟨_, spells_integer depth inRange, ?_⟩
  simp [unsigned, numberBy, Number.toUInt64?]

end Decoder

namespace Vector2

open Reader Decoder Json

variable {depth : Nat} {text rest : List Char}

theorem ofJson?_pair (x y : Json) :
    decoder.ofJson? (.array [x, y]) =
      (single.ofJson? x).bind fun x => (single.ofJson? y).map (⟨x, ·⟩) := by
  cases x with
  | number x => cases y <;> rfl
  | _ => rfl

theorem taken?_readCoordinate_of_end {isFirst : Bool}
    (ends : (nextPart ']' isFirst).taken? text = some (false, rest)) :
    (readCoordinate depth isFirst).taken? text = none := by
  rw [readCoordinate, taken?_bind, ends]
  rfl

theorem taken?_readCoordinate_of_part {isFirst : Bool} {between : List Char} {part : Json}
    (goesOn : (nextPart ']' isFirst).taken? text = some (true, between))
    (reads : IsRead depth between part rest) :
    (readCoordinate depth isFirst).taken? text = (single.ofJson? part).map (·, rest) := by
  rw [readCoordinate, taken?_bind, goesOn]
  exact agrees_numberBy _ reads

theorem agrees : decoder.Agrees := by
  intro depth text rest tree reads
  have form := form_of_read reads
  generalize blanks : text.dropWhile isBlank = begun at form
  cases form with
  | array parts short =>
      rename_i inside tail elements
      have result : (decoder.read (inside + 1)).taken? text = _ := taken?_readIf blanks
      rw [result, if_pos (by decide), taken?_nested, taken?_bind]
      cases parts with
      | done ends =>
          rw [taken?_readCoordinate_of_end ends]
          rfl
      | more goesOn first later =>
          rw [taken?_readCoordinate_of_part goesOn first, Option.bind_map]
          simp only [Function.comp_def, taken?_bind]
          cases later with
          | done ends =>
              simp [taken?_readCoordinate_of_end ends, decoder]
          | more goesOn second later =>
              simp only [taken?_readCoordinate_of_part goesOn second, Option.bind_map,
                Function.comp_def]
              cases later with
              | done ends =>
                  simp only [ofJson?_pair, Record.taken?_endOfArray_of_end ends, Option.map_eq_bind,
                    Option.bind_assoc, Option.bind_some, Function.comp_def, taken?_pure]
              | more goesOn third later =>
                  simp [Record.taken?_endOfArray_of_part goesOn, decoder]
  | number starts number =>
      exact taken?_readIf_of_ne blanks (ne_of_startsNumeral starts (by decide))
  | _ => exact taken?_readIf_of_ne blanks (by decide)

/-- Neither coordinate is NaN or an infinity. -/
def isFinite (vector : Vector2) : Bool :=
  vector.x.isFinite && vector.y.isFinite

theorem recovers (depth : Nat) (vector : Vector2) :
    decoder.Recovers (depth + 1) vector.chars (if vector.isFinite then some vector else none) := by
  rcases recovers_single depth vector.x with ⟨x, spellsX, isX⟩
  rcases recovers_single depth vector.y with ⟨y, spellsY, isY⟩
  refine ⟨.array [x, y], spells_array (.cons spellsX (.cons spellsY .nil)), ?_⟩
  rw [ofJson?_pair, isX, isY, isFinite]
  cases vector.x.isFinite <;> cases vector.y.isFinite <;> rfl

end Vector2

namespace Settings

open Decoder Json

theorem agrees : decoder.Agrees := by
  apply Record.agrees
  simp only [Record.ofDraft, List.mem_cons, List.not_mem_nil, or_false, forall_eq_or_imp, forall_eq]
  refine ⟨?_, ?_, ?_, ?_, ?_, ?_, ?_⟩
  · exact (agrees_numberBy _).map _
  · exact (agrees_numberBy _).map _
  · exact agrees_boolean.map _
  · exact agrees_text.map _
  · exact (agrees_numberBy _).map _
  · exact Vector2.agrees.map _
  · exact (agrees_numberBy _).map _

theorem ofJson?_members (width height debug compileUrl compileTimeout gravity timeStep : Json) :
    decoder.ofJson? (.object [("width", width), ("height", height), ("debug", debug),
      ("compile_url", compileUrl), ("compile_timeout_ms", compileTimeout), ("gravity", gravity),
      ("time_step", timeStep)]) = (do
        let width ← single.ofJson? width
        let height ← single.ofJson? height
        let debug ← boolean.ofJson? debug
        let compileUrl ← Decoder.text.ofJson? compileUrl
        let compileTimeout ← unsigned.ofJson? compileTimeout
        let gravity ← Vector2.decoder.ofJson? gravity
        let timeStep ← single.ofJson? timeStep
        some ⟨width, height, debug, compileUrl, compileTimeout, gravity, timeStep⟩) := by
  simp [decoder, Record.decoder, Record.ofJson?, Record.ofDraft, Record.draftOfMembers?,
    Record.field?, Decoder.field, Decoder.map, Option.bind_map, Option.bind_assoc]

/-- All numbers are finite. -/
def isFinite (settings : Settings) : Bool :=
  settings.width.isFinite && settings.height.isFinite && settings.gravity.isFinite &&
    settings.timeStep.isFinite

theorem recovers (depth : Nat) (settings : Settings) :
    decoder.Recovers (depth + 2) settings.chars
      (if settings.isFinite then some settings else none) := by
  rcases recovers_single (depth + 1) settings.width with ⟨width, spellsWidth, isWidth⟩
  rcases recovers_single (depth + 1) settings.height with ⟨height, spellsHeight, isHeight⟩
  rcases recovers_boolean (depth + 1) settings.debug with ⟨debug, spellsDebug, isDebug⟩
  rcases recovers_text (depth + 1) settings.compileUrl with ⟨url, spellsUrl, isUrl⟩
  rcases recovers_unsigned (depth + 1) settings.compileTimeout with
    ⟨timeout, spellsTimeout, isTimeout⟩
  rcases Vector2.recovers depth settings.gravity with ⟨gravity, spellsGravity, isGravity⟩
  rcases recovers_single (depth + 1) settings.timeStep with ⟨timeStep, spellsStep, isStep⟩
  refine ⟨.object [("width", width), ("height", height), ("debug", debug), ("compile_url", url),
    ("compile_timeout_ms", timeout), ("gravity", gravity), ("time_step", timeStep)],
    spells_object ?_, ?_⟩
  · exact .cons ⟨rfl, spellsWidth⟩ <| .cons ⟨rfl, spellsHeight⟩ <| .cons ⟨rfl, spellsDebug⟩ <|
      .cons ⟨rfl, spellsUrl⟩ <| .cons ⟨rfl, spellsTimeout⟩ <| .cons ⟨rfl, spellsGravity⟩ <|
      .cons ⟨rfl, spellsStep⟩ .nil
  · rw [ofJson?_members, isWidth, isHeight, isDebug, isUrl, isTimeout, isGravity, isStep, isFinite]
    cases settings.width.isFinite <;> cases settings.height.isFinite <;>
      cases settings.gravity.isFinite <;> cases settings.timeStep.isFinite <;> rfl

/-- Settings that a stage can run with. -/
structure Valid (settings : Settings) : Prop where
  width : 0 < settings.width
  height : 0 < settings.height
  timeStep : 0 < settings.timeStep
  compileTimeout : settings.compileTimeout ≠ 0

theorem validate_eq_ok_iff (settings : Settings) : settings.validate = .ok () ↔ settings.Valid := by
  have noProblem : settings.validate = .ok () ↔ settings.problem? = none := by
    rw [validate]
    cases settings.problem? <;> simp
  rw [noProblem, problem?]
  constructor
  · intro none
    split at none
    · cases none
    · next size =>
      split at none
      · cases none
      · next timeStep =>
        split at none
        · cases none
        · next timeout =>
          have positive : 0 < settings.width ∧ 0 < settings.height := by simpa using size
          exact ⟨positive.1, positive.2, by simpa using timeStep, timeout⟩
  · intro valid
    simp [valid.width, valid.height, valid.timeStep, valid.compileTimeout]

/-- Accepted settings are decoded and valid. -/
theorem ofText_eq_ok_iff {text : String} {settings : Settings} :
    ofText text = .ok settings ↔ decoder.decode text = .ok settings ∧ settings.Valid := by
  rw [ofText]
  cases decoded : decoder.decode text with
  | error fault => simp [Failure.ofFault, bind, Except.bind]
  | ok found =>
      rw [← validate_eq_ok_iff]
      cases validated : found.validate with
      | error failure =>
          simp only [Failure.ofFault, bind, Except.bind, validated, reduceCtorEq, false_iff,
            not_and, Except.ok.injEq]
          rintro rfl
          simp [validated]
      | ok _ =>
          simp only [Failure.ofFault, bind, Except.bind, validated, pure, Except.pure,
            Except.ok.injEq]
          exact ⟨fun same => ⟨same, same ▸ validated⟩, And.left⟩

/-- Whatever is accepted is valid. -/
theorem valid_of_ofText {text : String} {settings : Settings}
    (accepted : ofText text = .ok settings) : settings.Valid :=
  (ofText_eq_ok_iff.1 accepted).2

/-- Stored settings are loaded as they are, if they are valid and finite, and else not at all. -/
theorem ofText_toText_eq_ok_iff {settings loaded : Settings} :
    ofText settings.toText = .ok loaded ↔
      settings.Valid ∧ settings.isFinite = true ∧ loaded = settings := by
  have decoded : decoder.decode settings.toText = .ok loaded ↔ _ :=
    (recovers 125 settings).decode_eq_ok_iff agrees
  rw [ofText_eq_ok_iff, decoded, Option.ite_none_right_eq_some, Option.some.injEq]
  constructor
  · rintro ⟨⟨finite, rfl⟩, valid⟩
    exact ⟨valid, finite, rfl⟩
  · rintro ⟨valid, finite, rfl⟩
    exact ⟨⟨finite, rfl⟩, valid⟩

/-- Accepted settings are loaded again from their text exactly if all their numbers are finite; no
other settings are ever loaded from it. -/
theorem ofText_toText_iff {text : String} {settings : Settings}
    (accepted : ofText text = .ok settings) (loaded : Settings) :
    ofText settings.toText = .ok loaded ↔ settings.isFinite = true ∧ loaded = settings := by
  rw [ofText_toText_eq_ok_iff, and_iff_right (valid_of_ofText accepted)]

/-- The least width, marks in the address, the longest timeout and a negative zero. -/
def extreme : Settings where
  width := .ofBits 1
  height := 600
  debug := false
  compileUrl := "\x00\""
  compileTimeout := 18446744073709551615
  gravity := ⟨.ofBits 0x80000000, 0⟩
  timeStep := 1 / 60

theorem ofText_toText_iff_extreme :
    ofText ("\x7b\"gravity\":[-0.0,1e-46],\"width\":1e-45,\"compile_url\":\"\\u0000\\\"\"," ++
      "\"compile_timeout_ms\":18446744073709551615\x7d") = .ok extreme ∧
      ofText extreme.toText = .ok extreme := by
  have loads {text : String} (accepted : ofText text = .ok extreme) :
      ofText text = .ok extreme ∧ ofText extreme.toText = .ok extreme :=
    ⟨accepted, (ofText_toText_iff accepted extreme).2 ⟨by decide, rfl⟩⟩
  exact loads rfl

/-- A width beyond the range of a single is accepted as an infinity, which is not loaded again. -/
theorem not_ofText_toText : ¬∀ text settings, ofText text = .ok settings →
    ofText settings.toText = .ok settings := by
  intro restored
  have accepted : ofText "\x7b\"width\":1e39\x7d" =
      .ok { Settings.default with width := .ofBits 0x7f800000 } := rfl
  have finite := (ofText_toText_eq_ok_iff.1 (restored _ _ accepted)).2.1
  exact absurd finite (by decide +kernel)

end Settings

end PhysicsScene
