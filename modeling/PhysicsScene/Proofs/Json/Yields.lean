import PhysicsScene.Json.Decoder
import PhysicsScene.Proofs.Json.Progress

/-!
# What readers yield

`Reader.Yields` is a partial judgement about a reader: whatever it gives, it gives a value with some
property, from any text. It passes through each way of making a reader, and through the loops by an
invariant of their state. A record yields what its fields keep true of the draft, in the form of an
object and in the form of an array.
-/

namespace PhysicsScene

namespace Reader

variable {α β σ : Type} {P : α → Prop} {Q : β → Prop}

/-- Every value that a reader gives has a property. -/
def Yields (reader : Reader α) (P : α → Prop) : Prop :=
  ∀ text value rest, reader text = .ok (value, rest) → P value

theorem yields_of_forall {reader : Reader α} (holds : ∀ value, P value) : reader.Yields P :=
  fun _ value _ _ => holds value

theorem yields_pure {value : α} (holds : P value) : Yields (pure value) P := by
  intro text found rest reads
  cases reads
  exact holds

theorem yields_fail (fault : Fault) : Yields (fail fault) P := by
  intro text value rest reads
  cases reads

theorem yields_bind {reader : Reader β} {next : β → Reader α} (first : reader.Yields Q)
    (later : ∀ value, Q value → (next value).Yields P) : Yields (reader >>= next) P := by
  intro text value rest reads
  rw [bind_apply] at reads
  cases result : reader text with
  | error fault =>
      rw [result] at reads
      cases reads
  | ok pair =>
      rcases pair with ⟨between, left⟩
      rw [result] at reads
      exact later between (first text between left result) left value rest reads

/-- What comes before the last part of a reader does not matter if the last part does its own. -/
theorem yields_bind_of_forall {reader : Reader β} {next : β → Reader α}
    (later : ∀ value, (next value).Yields P) : Yields (reader >>= next) P :=
  yields_bind (Q := fun _ => True) (yields_of_forall fun _ => trivial) fun value _ => later value

theorem yields_map {reader : Reader β} {change : β → α} (yields : reader.Yields (P <| change ·)) :
    Yields (change <$> reader) P := by
  rw [map_eq_pure_bind]
  exact yields_bind yields fun _ holds => yields_pure holds

theorem yields_iterateWithin {invariant : σ → Prop} {step : σ → Reader (σ ⊕ α)}
    (kept : ∀ state, invariant state → (step state).Yields fun
      | .inl next => invariant next
      | .inr result => P result)
    (bound : List Char) {state : σ} (holds : invariant state) :
    Yields (iterateWithin step bound state) P := by
  intro text value rest reads
  induction bound generalizing state text with
  | nil =>
      simp only [iterateWithin] at reads
      split at reads
      · cases reads
      · cases reads
      · next result left stepped =>
        cases reads
        exact kept state holds text _ _ stepped
  | cons char bound ih =>
      simp only [iterateWithin] at reads
      split at reads
      · cases reads
      · next next left stepped => exact ih (kept state holds text _ _ stepped) left reads
      · next result left stepped =>
        cases reads
        exact kept state holds text _ _ stepped

/-- A loop yields what its last step gives, if every step keeps an invariant. -/
theorem yields_iterate (invariant : σ → Prop) {step : σ → Reader (σ ⊕ α)}
    (kept : ∀ state, invariant state → (step state).Yields fun
      | .inl next => invariant next
      | .inr result => P result)
    {state : σ} (holds : invariant state) : Yields (iterate step state) P :=
  fun text => yields_iterateWithin kept text holds text

theorem yields_members {invariant : σ → Prop} {member : σ → String → Reader σ}
    (kept : ∀ state name, invariant state → (member state name).Yields invariant) {state : σ}
    (holds : invariant state) : Yields (members member state) invariant := by
  refine yields_iterate (fun folded => invariant folded.2) ?_ holds
  rintro ⟨isFirst, folded⟩ foldedHolds
  refine yields_bind_of_forall fun goesOn => ?_
  cases goesOn with
  | true =>
      refine yields_bind_of_forall fun name => ?_
      exact yields_bind (kept folded name foldedHolds) fun next nextHolds => yields_pure nextHolds
  | false => exact yields_pure foldedHolds

theorem yields_nested {inside : Nat → Reader α} (yields : ∀ depth, (inside depth).Yields P)
    (depth : Nat) : Yields (nested depth inside) P := by
  cases depth with
  | zero => exact yields_fail .malformed
  | succ depth => exact yields_bind_of_forall fun _ => yields depth

/-- A whole text gives no other values than the reader. -/
theorem Yields.of_run {reader : Reader α} (yields : reader.Yields P) {text : List Char}
    {value : α} (runs : reader.run text = .ok value) : P value := by
  rw [run] at runs
  split at runs
  · cases runs
  · next found rest reads =>
    split at runs
    · cases runs
      exact yields text value rest reads
    · cases runs

end Reader

namespace Decoder

open Reader

variable {α σ : Type} {P : α → Prop}

theorem yields_wrongKind : Reader.Yields wrongKind P := by
  refine yields_bind_of_forall fun first => ?_
  cases first with
  | none => exact yields_fail .truncated
  | some first => exact yields_bind_of_forall fun _ => yields_fail .mismatched

theorem yields_read_nullable {decoder : Decoder α} {depth : Nat}
    (yields : (decoder.read depth).Yields P) :
    ((nullable decoder).read depth).Yields fun value => ∀ found ∈ value, P found := by
  refine yields_bind_of_forall fun first => ?_
  have present : Yields (some <$> decoder.read depth) fun value => ∀ found ∈ value, P found := by
    apply yields_map
    intro text value rest reads found isValue
    cases isValue
    exact yields text value rest reads
  split
  · refine yields_bind_of_forall fun _ => yields_pure ?_
    intro found isNone
    cases isNone
  · exact present

/-- Whatever a field reads, it keeps an invariant of the draft. -/
def Field.Keeps (field : Field σ) (invariant : σ → Prop) : Prop :=
  ∀ depth, (field.decoder.read depth).Yields fun change =>
    ∀ draft, invariant draft → invariant (change draft)

theorem keeps_field {invariant : σ → Prop} {name : String} {decoder : Decoder α}
    {put : α → σ → σ} (yields : ∀ depth, (decoder.read depth).Yields P)
    (kept : ∀ value, P value → ∀ draft, invariant draft → invariant (put value draft)) :
    (field name decoder put).Keeps invariant := by
  intro depth
  apply yields_map
  intro text value rest reads
  exact kept value (yields depth text value rest reads)

namespace Record

variable {record : Record σ α} {invariant : σ → Prop}
  (kept : ∀ field ∈ record.fields, field.Keeps invariant)
  (finished : ∀ draft, invariant draft → ∀ value, record.finish draft = some value → P value)

include finished in
theorem yields_accept {draft : σ} (holds : invariant draft) : (record.accept draft).Yields P := by
  rw [accept]
  cases found : record.finish draft with
  | none => exact yields_fail .mismatched
  | some value => exact yields_pure (finished draft holds value found)

include kept in
theorem yields_readMember (depth : Nat) (seen : List String × σ) (name : String)
    (holds : invariant seen.2) :
    (record.readMember depth seen name).Yields fun next => invariant next.2 := by
  rw [readMember]
  cases known : record.field? name with
  | none =>
      refine yields_bind_of_forall fun _ => ?_
      exact yields_bind_of_forall fun _ => yields_pure holds
  | some field =>
      simp only
      split
      · exact yields_fail .mismatched
      · refine yields_bind_of_forall fun _ => ?_
        have isField : field ∈ record.fields := List.mem_of_find?_eq_some known
        exact yields_bind (kept field isField depth) fun change keeps =>
          yields_pure (keeps seen.2 holds)

theorem yields_readElements (depth : Nat) {fields : List (Field σ)}
    (kept : ∀ field ∈ fields, field.Keeps invariant) (isFirst : Bool) {draft : σ}
    (holds : invariant draft) : (readElements depth fields isFirst draft).Yields invariant := by
  induction fields generalizing isFirst draft with
  | nil => exact yields_bind_of_forall fun _ => yields_pure holds
  | cons field rest ih =>
      refine yields_bind_of_forall fun goesOn => ?_
      cases goesOn with
      | true =>
          refine yields_bind (kept field List.mem_cons_self depth) fun change keeps => ?_
          exact ih (fun other member => kept other (List.mem_cons_of_mem _ member)) false
            (keeps draft holds)
      | false => exact yields_pure holds

include kept finished in
/-- A record yields what follows from an invariant of the draft that all its fields keep. -/
theorem yields_read (holds : invariant record.draft) (depth : Nat) :
    (record.read depth).Yields P := by
  refine yields_bind_of_forall fun first => ?_
  split
  · refine yields_nested (fun inside => ?_) depth
    have members : (members (record.readMember inside) ([], record.draft)).Yields
        fun seen => invariant seen.2 :=
      yields_members (fun seen name => yields_readMember kept inside seen name) holds
    exact yields_bind members fun seen seenHolds => yields_accept finished seenHolds
  · refine yields_nested (fun inside => ?_) depth
    exact yields_bind (yields_readElements inside kept true holds) fun draft draftHolds =>
      yields_accept finished draftHolds
  · exact yields_wrongKind

end Record

end Decoder

end PhysicsScene
