import PhysicsScene.Dictionary

/-!
# Look-ups in dictionaries

What a dictionary answers decides everything: `find?` of each operation is stated in terms of
`find?` of its arguments, and `ext_find?` says that dictionaries with the same answers are equal.
-/

namespace PhysicsScene.Dictionary

universe u v

variable {α : Type u} {β : Type v}

theorem eq_of_not_lt {first second : String} (notBelow : ¬first < second)
    (notAbove : ¬second < first) : first = second :=
  String.le_antisymm (String.not_lt.1 notAbove) (String.not_lt.1 notBelow)

theorem lookup_cons_ite (key : String) (value : α) (rest : List (String × α)) (name : String) :
    ((key, value) :: rest).lookup name = if name = key then some value else rest.lookup name := by
  by_cases same : name = key <;> simp [List.lookup_cons, same, beq_false_of_ne]

theorem lookup_insertEntry (key : String) (value : α) (entries : List (String × α))
    (name : String) :
    (insertEntry key value entries).lookup name =
      if name = key then some value else entries.lookup name := by
  induction entries with
  | nil => by_cases same : name = key <;> simp [insertEntry, lookup_cons_ite, same]
  | cons head rest ih =>
      obtain ⟨other, kept⟩ := head
      simp only [insertEntry]
      split
      · by_cases same : name = key <;> simp [lookup_cons_ite, same]
      · next notBelow =>
        split
        · next above =>
          have notKey : other ≠ key := fun same => String.lt_irrefl key (same ▸ above)
          by_cases isOther : name = other <;> simp [lookup_cons_ite, isOther, notKey, ih]
        · next notAbove =>
          obtain rfl := eq_of_not_lt notBelow notAbove
          by_cases same : name = key <;> simp [lookup_cons_ite, same]

/-- An entry of a list after an insertion is the new one or was there before. -/
theorem mem_insertEntry {key : String} {value : α} {entries : List (String × α)}
    {entry : String × α} (member : entry ∈ insertEntry key value entries) :
    entry = (key, value) ∨ entry ∈ entries := by
  induction entries with
  | nil => exact .inl (by simpa [insertEntry] using member)
  | cons head rest ih =>
      obtain ⟨other, kept⟩ := head
      simp only [insertEntry] at member
      split at member
      · exact List.mem_cons.1 member
      · next notBelow =>
        split at member
        · rcases List.mem_cons.1 member with isHead | inRest
          · exact .inr (by simp [isHead])
          · rcases ih inRest with isNew | isOld
            · exact .inl isNew
            · exact .inr (List.mem_cons_of_mem _ isOld)
        · next notAbove =>
          obtain rfl := eq_of_not_lt notBelow notAbove
          rcases List.mem_cons.1 member with isNew | inRest
          · exact .inl isNew
          · exact .inr (List.mem_cons_of_mem _ inRest)

@[simp]
theorem find?_empty (name : String) : (empty : Dictionary α).find? name = none :=
  rfl

/-- A look-up after an insertion finds the new value under its key and the old values elsewhere. -/
theorem find?_insert (dictionary : Dictionary α) (key : String) (value : α) (name : String) :
    (dictionary.insert key value).find? name =
      if name = key then some value else dictionary.find? name :=
  lookup_insertEntry key value dictionary.entries name

theorem lookup_filter_ne (entries : List (String × α)) (key name : String) :
    (entries.filter (·.1 ≠ key)).lookup name =
      if name = key then none else entries.lookup name := by
  induction entries with
  | nil => simp
  | cons head rest ih =>
      obtain ⟨other, kept⟩ := head
      by_cases removed : other = key
      · subst removed
        by_cases same : name = other
        · simpa [same] using ih
        · simpa [same, lookup_cons_ite] using ih
      · by_cases isOther : name = other
        · simp [removed, isOther]
        · simpa [lookup_cons_ite, removed, isOther] using ih

/-- A look-up after taking a key out finds nothing there and the old values elsewhere. -/
theorem find?_erase (dictionary : Dictionary α) (key name : String) :
    (dictionary.erase key).find? name = if name = key then none else dictionary.find? name :=
  lookup_filter_ne dictionary.entries key name

theorem lookup_eq_none_of_below {entries : List (String × α)} {name : String}
    (below : ∀ entry ∈ entries, name < entry.1) : entries.lookup name = none := by
  induction entries with
  | nil => rfl
  | cons head rest ih =>
      obtain ⟨other, kept⟩ := head
      have notOther : name ≠ other := fun same =>
        String.lt_irrefl name (by simpa [same] using below (other, kept) (by simp))
      have restBelow : ∀ entry ∈ rest, name < entry.1 := fun entry member =>
        below entry (by simp [member])
      simp [lookup_cons_ite, notOther, ih restBelow]

theorem lookup_filterMap (change : α → Option β) {entries : List (String × α)}
    (ordered : entries.Pairwise (fun first second => first.1 < second.1)) (name : String) :
    (entries.filterMap fun entry => (change entry.2).map (entry.1, ·)).lookup name =
      (entries.lookup name).bind change := by
  induction entries with
  | nil => rfl
  | cons head rest ih =>
      obtain ⟨other, kept⟩ := head
      have ⟨below, restOrdered⟩ := List.pairwise_cons.1 ordered
      have restAnswer := ih restOrdered
      by_cases isOther : name = other
      · subst isOther
        cases changed : change kept with
        | none => simp [changed, restAnswer, lookup_eq_none_of_below below]
        | some result => simp [changed]
      · cases changed : change kept with
        | none => simp [changed, restAnswer, lookup_cons_ite, isOther]
        | some result => simp [changed, restAnswer, lookup_cons_ite, isOther]

/-- A look-up after changing all values changes the value that was found. -/
theorem find?_filterMap (dictionary : Dictionary α) (change : α → Option β) (name : String) :
    (dictionary.filterMap change).find? name = (dictionary.find? name).bind change :=
  lookup_filterMap change dictionary.ordered name

theorem size_filterMap_some (dictionary : Dictionary α) (change : α → β) :
    (dictionary.filterMap fun value => some (change value)).size = dictionary.size := by
  simp [filterMap, size]

theorem find?_foldl_fill (entries : List (String × α)) (own : Dictionary α) (name : String) :
    (entries.foldl
      (fun filled entry =>
        if filled.contains entry.1 then filled else filled.insert entry.1 entry.2)
      own).find? name = (own.find? name <|> entries.lookup name) := by
  induction entries generalizing own with
  | nil => simp
  | cons head rest ih =>
      obtain ⟨key, value⟩ := head
      rw [List.foldl_cons, ih]
      by_cases same : name = key
      · subst same
        cases found : own.find? name <;> simp [contains, found, find?_insert]
      · split <;> simp [find?_insert, lookup_cons_ite, same]

/-- An overlay answers from the first dictionary, or from the second if the first has nothing. -/
theorem find?_overlay (own defaults : Dictionary α) (name : String) :
    (own.overlay defaults).find? name = (own.find? name <|> defaults.find? name) :=
  find?_foldl_fill defaults.entries own name

/-- The keys are the names that a look-up finds. -/
theorem mem_keys_iff (dictionary : Dictionary α) (name : String) :
    name ∈ dictionary.keys ↔ (dictionary.find? name).isSome := by
  simp only [find?, List.lookup_isSome_iff, keys, List.mem_map, beq_iff_eq, eq_comm (a := name)]

theorem mem_keys_overlay_iff (own defaults : Dictionary α) (name : String) :
    name ∈ (own.overlay defaults).keys ↔ name ∈ own.keys ∨ name ∈ defaults.keys := by
  simp only [mem_keys_iff, find?_overlay]
  cases own.find? name <;> simp

theorem eq_of_lookup_eq {first second : List (String × α)}
    (firstOrdered : first.Pairwise (fun left right => left.1 < right.1))
    (secondOrdered : second.Pairwise (fun left right => left.1 < right.1))
    (same : ∀ name, first.lookup name = second.lookup name) : first = second := by
  induction first generalizing second with
  | nil =>
      cases second with
      | nil => rfl
      | cons head rest => simpa [lookup_cons_ite head.1 head.2 rest] using same head.1
  | cons head rest ih =>
      obtain ⟨key, value⟩ := head
      have ⟨below, restOrdered⟩ := List.pairwise_cons.1 firstOrdered
      cases second with
      | nil => simpa using same key
      | cons otherHead otherRest =>
          obtain ⟨otherKey, otherValue⟩ := otherHead
          have ⟨otherBelow, otherRestOrdered⟩ := List.pairwise_cons.1 secondOrdered
          have sameKey : key = otherKey := by
            refine eq_of_not_lt (fun isBelow => ?_) (fun isAbove => ?_)
            · have absent : ((otherKey, otherValue) :: otherRest).lookup key = none :=
                lookup_eq_none_of_below fun entry member => by
                  rcases List.mem_cons.1 member with rfl | inRest
                  · exact isBelow
                  · exact String.lt_trans isBelow (otherBelow entry inRest)
              simpa [absent] using same key
            · have absent : ((key, value) :: rest).lookup otherKey = none :=
                lookup_eq_none_of_below fun entry member => by
                  rcases List.mem_cons.1 member with rfl | inRest
                  · exact isAbove
                  · exact String.lt_trans isAbove (below entry inRest)
              simpa [absent] using same otherKey
          subst sameKey
          have sameValue : value = otherValue := by simpa using same key
          have sameRest : rest = otherRest := ih restOrdered otherRestOrdered fun name => by
            by_cases isKey : name = key
            · subst isKey
              rw [lookup_eq_none_of_below below, lookup_eq_none_of_below otherBelow]
            · simpa [lookup_cons_ite, isKey] using same name
          rw [sameValue, sameRest]

/-- Dictionaries that answer every look-up alike are equal. -/
theorem ext_find? {first second : Dictionary α}
    (same : ∀ name, first.find? name = second.find? name) : first = second := by
  obtain ⟨firstEntries, firstOrdered⟩ := first
  obtain ⟨secondEntries, secondOrdered⟩ := second
  obtain rfl := eq_of_lookup_eq firstOrdered secondOrdered same
  rfl

theorem overlay_assoc (first second third : Dictionary α) :
    (first.overlay second).overlay third = first.overlay (second.overlay third) := by
  apply ext_find?
  intro name
  simp only [find?_overlay]
  cases first.find? name <;> rfl

@[simp]
theorem overlay_empty (own : Dictionary α) : own.overlay empty = own :=
  rfl

@[simp]
theorem empty_overlay (defaults : Dictionary α) : empty.overlay defaults = defaults := by
  apply ext_find?
  intro name
  rw [find?_overlay, find?_empty]
  rfl

@[simp]
theorem overlay_self (own : Dictionary α) : own.overlay own = own := by
  apply ext_find?
  intro name
  rw [find?_overlay]
  cases own.find? name <;> rfl

end PhysicsScene.Dictionary
