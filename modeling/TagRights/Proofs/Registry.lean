import TagRights.Registry
import TagRights.Proofs.Text.Words

namespace TagRights.Registry

open Text

variable {r : Registry} {d : Definition} {t : Tag} {name : String}

theorem place {i : Nat} (ht : r.tags[i]? = some t) : r.places[t.name]? = some i := by
  rw [r.places_iff, List.getElem?_map, ht]
  rfl

/-- The index knows the names of the tags and no others. -/
theorem exists_place_iff : (∃ i, r.places[name]? = some i) ↔ name ∈ r.names := by
  simp only [r.places_iff, names, List.mem_iff_getElem?]

theorem place_eq_none_iff : r.places[name]? = none ↔ name ∉ r.names := by
  rw [← exists_place_iff, ← Option.ne_none_iff_exists', Decidable.not_not]

theorem tags_add_of_place {i : Nat} (known : r.places[lowercase d.name]? = some i) :
    (r.add d).tags = r.tags.modify i (·.redefine d) := by
  unfold add
  split
  next j hj =>
    rw [known, Option.some.injEq] at hj
    rw [hj]
  next none =>
    rw [known] at none
    contradiction

/-- A definition of a known name changes the tag of this name, wherever it stands. -/
theorem tags_add_of_known {i : Nat} (known : r.places[lowercase d.name]? = some i) :
    (r.add d).tags =
      r.tags.map fun t => if t.name = lowercase d.name then t.redefine d else t := by
  apply List.ext_getElem?
  intro j
  rw [tags_add_of_place known, List.getElem?_modify, List.getElem?_map]
  cases ht : r.tags[j]? with
  | none => rfl
  | some t =>
    -- The index singles out the tag by its place, the map by its name.
    have here : i = j ↔ t.name = lowercase d.name := by
      constructor
      · intro same
        have own := (r.places_iff _ _).1 known
        rw [same, List.getElem?_map, ht] at own
        exact Option.some.inj own
      · intro same
        have own := place ht
        rw [same, known] at own
        exact Option.some.inj own
    simp only [here, Option.map_eq_map, Option.map_some]

theorem places_add_of_known {i : Nat} (known : r.places[lowercase d.name]? = some i) :
    (r.add d).places = r.places := by
  unfold add
  split
  next => rfl
  next none =>
    rw [known] at none
    contradiction

/-- A definition of a new name adds its tag at the end. -/
theorem tags_add_of_new (new : r.places[lowercase d.name]? = none) :
    (r.add d).tags = r.tags ++ [Tag.ofDefinition d] := by
  unfold add
  split
  next i known =>
    rw [new] at known
    contradiction
  next => rfl

theorem names_add_of_known {i : Nat} (known : r.places[lowercase d.name]? = some i) :
    (r.add d).names = r.names := by
  rw [names, tags_add_of_place known]
  exact r.map_name_modify known

theorem names_add_of_new (new : r.places[lowercase d.name]? = none) :
    (r.add d).names = r.names ++ [lowercase d.name] := by
  rw [names, tags_add_of_new new, List.map_append]
  rfl

/-- The index finds the one tag with the name. -/
theorem named?_eq_some_iff : r.named? name = some t ↔ t ∈ r.tags ∧ t.name = name := by
  rw [named?, Option.bind_eq_some_iff]
  constructor
  · intro found
    obtain ⟨i, hi, ht⟩ := found
    rw [r.places_iff, List.getElem?_map, ht] at hi
    exact ⟨List.mem_of_getElem? ht, Option.some.inj hi⟩
  · intro named
    obtain ⟨mem, rfl⟩ := named
    obtain ⟨i, hi⟩ := List.mem_iff_getElem?.1 mem
    exact ⟨i, place hi, hi⟩

/-- No two tags share a name. -/
theorem eq_of_name_eq {u : Tag} (ht : t ∈ r.tags) (hu : u ∈ r.tags) (same : t.name = u.name) :
    t = u := by
  have first := named?_eq_some_iff.2 ⟨ht, same⟩
  have second := named?_eq_some_iff.2 ⟨hu, rfl⟩
  exact Option.some.inj (first.symm.trans second)

theorem find?_name (ht : t ∈ r.tags) : r.tags.find? (·.name == t.name) = some t := by
  cases found : r.tags.find? (·.name == t.name) with
  | none => exact absurd (List.find?_eq_none.1 found t ht) (by simp)
  | some u =>
    have name : u.name = t.name := by simpa using List.find?_some found
    rw [eq_of_name_eq (List.mem_of_find?_eq_some found) ht name]

/-- A tag is found by its name in any case, even if the name is another tag's code. -/
theorem find?_of_lowercase_eq {token : String} (ht : t ∈ r.tags) (nonempty : token ≠ "")
    (own : lowercase token = t.name) : r.find? token = some t := by
  have named := named?_eq_some_iff.2 ⟨ht, rfl⟩
  rw [find?, if_neg nonempty, own, named, Option.some_or]

theorem find?_of_mem (ht : t ∈ r.tags) (nonempty : t.name ≠ "") : r.find? t.name = some t :=
  find?_of_lowercase_eq ht nonempty (r.lowercase_name t ht)

theorem mem_names_add_iff : name ∈ (r.add d).names ↔ name ∈ r.names ∨ name = lowercase d.name := by
  cases known : r.places[lowercase d.name]? with
  | some i =>
    have own : lowercase d.name ∈ r.names := exists_place_iff.1 ⟨i, known⟩
    rw [names_add_of_known known]
    constructor
    · exact .inl
    · intro mem
      rcases mem with mem | rfl
      · exact mem
      · exact own
  | none => rw [names_add_of_new known, List.mem_append, List.mem_singleton]

/-- A token only ever means a tag that is registered. -/
theorem mem_of_find? {token : String} (h : r.find? token = some t) : t ∈ r.tags := by
  unfold find? at h
  split at h
  · simp at h
  · rcases Option.or_eq_some_iff.1 h with h | ⟨-, h⟩
    · exact (named?_eq_some_iff.1 h).1
    · exact List.mem_of_find?_eq_some h

/-- Every name can stand in a tag list. -/
def WordNames (r : Registry) : Prop :=
  ∀ t ∈ r.tags, IsWord t.name

instance (r : Registry) : Decidable r.WordNames := inferInstanceAs (Decidable (∀ t ∈ r.tags, _))

theorem wordNames_iff : r.WordNames ↔ ∀ name ∈ r.names, IsWord name := by
  rw [names, List.forall_mem_map]
  rfl

theorem WordNames.add (hr : r.WordNames) (hd : IsWord d.name) : (r.add d).WordNames := by
  rw [wordNames_iff] at hr ⊢
  intro name mem
  rcases mem_names_add_iff.1 mem with old | rfl
  · exact hr name old
  · exact hd.lowercase

/-- No tag has a hook. -/
def HookFree (r : Registry) : Prop :=
  ∀ t ∈ r.tags, t.onGrant = none ∧ t.onRevoke = none

instance (r : Registry) : Decidable r.HookFree := inferInstanceAs (Decidable (∀ t ∈ r.tags, _ ∧ _))

/-- The member that a tag of this name puts into the data, if there is one that has data. -/
def payload? (r : Registry) (name : String) : Option (String × Json) :=
  (r.tags.find? (·.name == name)).bind fun t => t.data.map fun members => (t.name, .obj members)

theorem payload?_name (ht : t ∈ r.tags) :
    r.payload? t.name = t.data.map fun members => (t.name, .obj members) := by
  rw [payload?, find?_name ht, Option.bind_some]

/-- The payload of a name is the data of its tag. -/
theorem payload?_eq_some_iff {m : String × Json} :
    r.payload? name = some m ↔ ∃ t ∈ r.tags, t.name = name ∧
      ∃ members, t.data = some members ∧ m = (name, .obj members) := by
  constructor
  · intro made
    obtain ⟨t, found, made⟩ := Option.bind_eq_some_iff.1 made
    obtain ⟨members, hm, rfl⟩ := Option.map_eq_some_iff.1 made
    have own : t.name = name := by simpa using List.find?_some found
    exact ⟨t, List.mem_of_find?_eq_some found, own, members, hm, by rw [own]⟩
  · rintro ⟨t, ht, rfl, members, hm, rfl⟩
    rw [payload?_name ht, hm]
    rfl

theorem fst_of_payload? {m : String × Json}
    (h : r.payload? name = some m) : m.1 = name := by
  obtain ⟨t, ht, made⟩ := Option.bind_eq_some_iff.1 h
  obtain ⟨members, -, rfl⟩ := Option.map_eq_some_iff.1 made
  simpa using List.find?_some ht

end TagRights.Registry
