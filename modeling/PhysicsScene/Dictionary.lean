/-!
# Dictionaries with ordered keys

A dictionary is a list of entries whose keys strictly increase, so two dictionaries that answer
every look-up alike are equal, and walking one visits the keys in order. Strings compare by code
point, which is also the order of their UTF-8 bytes.
-/

namespace PhysicsScene

universe u v

/-- Values under distinct string keys, in increasing order of the keys. -/
structure Dictionary (α : Type u) where
  entries : List (String × α)
  ordered : entries.Pairwise (fun first second => first.1 < second.1)

namespace Dictionary

variable {α : Type u} {β : Type v}

/-- Puts an entry at its place, in the stead of an entry with the same key. -/
def insertEntry (key : String) (value : α) : List (String × α) → List (String × α)
  | [] => [(key, value)]
  | (other, kept) :: rest =>
      if key < other then (key, value) :: (other, kept) :: rest
      else if other < key then (other, kept) :: insertEntry key value rest
      else (other, value) :: rest

theorem key_of_mem_insertEntry {key : String} {value : α} {entries : List (String × α)}
    {entry : String × α} (member : entry ∈ insertEntry key value entries) :
    entry.1 = key ∨ ∃ old ∈ entries, old.1 = entry.1 := by
  induction entries with
  | nil =>
      simp only [insertEntry, List.mem_singleton] at member
      simp [member]
  | cons head rest ih =>
      obtain ⟨other, kept⟩ := head
      simp only [insertEntry] at member
      split at member
      · rcases List.mem_cons.1 member with rfl | old
        · exact .inl rfl
        · exact .inr ⟨entry, old, rfl⟩
      · split at member
        · rcases List.mem_cons.1 member with rfl | inRest
          · exact .inr ⟨(other, kept), by simp, rfl⟩
          · rcases ih inRest with isKey | ⟨old, oldMember, sameKey⟩
            · exact .inl isKey
            · exact .inr ⟨old, List.mem_cons_of_mem _ oldMember, sameKey⟩
        · rcases List.mem_cons.1 member with rfl | inRest
          · exact .inr ⟨(other, kept), by simp, rfl⟩
          · exact .inr ⟨entry, List.mem_cons_of_mem _ inRest, rfl⟩

theorem ordered_insertEntry (key : String) (value : α) {entries : List (String × α)}
    (ordered : entries.Pairwise (fun first second => first.1 < second.1)) :
    (insertEntry key value entries).Pairwise (fun first second => first.1 < second.1) := by
  induction entries with
  | nil => simp [insertEntry]
  | cons head rest ih =>
      obtain ⟨other, kept⟩ := head
      have ⟨headBelow, restOrdered⟩ := List.pairwise_cons.1 ordered
      simp only [insertEntry]
      split
      · next keyBelow =>
          refine List.pairwise_cons.2 ⟨fun entry member => ?_, ordered⟩
          rcases List.mem_cons.1 member with rfl | inRest
          · exact keyBelow
          · exact String.lt_trans keyBelow (headBelow entry inRest)
      · split
        · next keyAbove =>
            refine List.pairwise_cons.2 ⟨fun entry member => ?_, ih restOrdered⟩
            rcases key_of_mem_insertEntry member with isKey | ⟨old, oldMember, sameKey⟩
            · simpa [isKey] using keyAbove
            · simpa [sameKey] using headBelow old oldMember
        · exact List.pairwise_cons.2 ⟨headBelow, restOrdered⟩

/-- The dictionary without entries. -/
def empty : Dictionary α := ⟨[], .nil⟩

instance : EmptyCollection (Dictionary α) := ⟨empty⟩

instance : Inhabited (Dictionary α) := ⟨empty⟩

/-- Puts a value under a key, in the stead of what was there. -/
def insert (dictionary : Dictionary α) (key : String) (value : α) : Dictionary α :=
  ⟨insertEntry key value dictionary.entries, ordered_insertEntry key value dictionary.ordered⟩

/-- The value under a key. -/
def find? (dictionary : Dictionary α) (key : String) : Option α :=
  dictionary.entries.lookup key

/-- Whether a key has a value. -/
def contains (dictionary : Dictionary α) (key : String) : Bool :=
  (dictionary.find? key).isSome

/-- Takes a key out. -/
def erase (dictionary : Dictionary α) (key : String) : Dictionary α :=
  ⟨dictionary.entries.filter (·.1 ≠ key), dictionary.ordered.filter _⟩

/-- The number of keys. -/
def size (dictionary : Dictionary α) : Nat :=
  dictionary.entries.length

/-- Whether there is no key. -/
def isEmpty (dictionary : Dictionary α) : Bool :=
  dictionary.entries.isEmpty

/-- The keys in increasing order. -/
def keys (dictionary : Dictionary α) : List String :=
  dictionary.entries.map (·.1)

/-- The dictionary of a list of entries; of several entries with one key the last counts. -/
def ofList (entries : List (String × α)) : Dictionary α :=
  entries.foldl (fun dictionary entry => dictionary.insert entry.1 entry.2) empty

/-- Changes the values that a function accepts and drops the others. -/
def filterMap (dictionary : Dictionary α) (change : α → Option β) : Dictionary β :=
  ⟨dictionary.entries.filterMap fun entry => (change entry.2).map (entry.1, ·), by
    refine List.Pairwise.filterMap _ ?_ dictionary.ordered
    intro first second below changedFirst fromFirst changedSecond fromSecond
    obtain ⟨_, _, rfl⟩ := Option.map_eq_some_iff.1 fromFirst
    obtain ⟨_, _, rfl⟩ := Option.map_eq_some_iff.1 fromSecond
    exact below⟩

/-- Fills the keys that are missing from the first dictionary from the second. -/
def overlay (own defaults : Dictionary α) : Dictionary α :=
  defaults.entries.foldl
    (fun filled entry =>
      if filled.contains entry.1 then filled else filled.insert entry.1 entry.2)
    own

end Dictionary

end PhysicsScene
