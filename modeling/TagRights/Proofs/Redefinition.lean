import Mathlib.Data.List.Induction
import TagRights.Proofs.Registry

namespace TagRights

open Text

namespace Definition

/-- The names that are defined, each once, in the order in which they first occur. -/
def names (ds : List Definition) : List String :=
  (ds.map (lowercase ·.name)).eraseDups

/-- The definitions of the tag with this name. -/
def about (name : String) (ds : List Definition) : List Definition :=
  ds.filter (lowercase ·.name == name)

variable {ds : List Definition} {d : Definition}

theorem mem_names_iff {name : String} : name ∈ names ds ↔ ∃ d ∈ ds, lowercase d.name = name := by
  rw [names, List.mem_eraseDups, List.mem_map]

theorem names_concat_of_mem (h : lowercase d.name ∈ names ds) : names (ds ++ [d]) = names ds := by
  have seen : [lowercase d.name].removeAll (ds.map (lowercase ·.name)) = [] := by
    rw [names, List.mem_eraseDups] at h
    simpa [List.removeAll] using h
  rw [names, List.map_append, List.map_singleton, List.eraseDups_append, seen, List.eraseDups_nil,
    List.append_nil, names]

theorem names_concat_of_not_mem (h : lowercase d.name ∉ names ds) :
    names (ds ++ [d]) = names ds ++ [lowercase d.name] := by
  have unseen : [lowercase d.name].removeAll (ds.map (lowercase ·.name)) = [lowercase d.name] := by
    rw [names, List.mem_eraseDups] at h
    simpa [List.removeAll] using h
  rw [names, List.map_append, List.map_singleton, List.eraseDups_append, unseen,
    List.eraseDups_cons, List.filter_nil, List.eraseDups_nil, names]

theorem about_concat_self (ds : List Definition) (d : Definition) :
    about (lowercase d.name) (ds ++ [d]) = about (lowercase d.name) ds ++ [d] := by
  simp [about]

/-- A definition says nothing about other names. -/
theorem about_concat_of_ne {name : String} (h : name ≠ lowercase d.name) :
    about name (ds ++ [d]) = about name ds := by
  simp [about, Ne.symm h]

theorem names_append_self (ds : List Definition) : names (ds ++ ds) = names ds := by
  have seen : (ds.map (lowercase ·.name)).removeAll (ds.map (lowercase ·.name)) = [] := by
    simp [List.removeAll]
  rw [names, List.map_append, List.eraseDups_append, seen, List.eraseDups_nil, List.append_nil,
    names]

theorem about_append_self (name : String) (ds : List Definition) :
    about name (ds ++ ds) = about name ds ++ about name ds :=
  List.filter_append ..

theorem exists_getLast?_about {name : String} (h : name ∈ names ds) :
    ∃ last, (about name ds).getLast? = some last := by
  obtain ⟨d, hd, rfl⟩ := mem_names_iff.1 h
  have mem : d ∈ about (lowercase d.name) ds := List.mem_filter.2 ⟨hd, beq_self_eq_true _⟩
  exact ⟨_, List.getLast?_eq_some_getLast (List.ne_nil_of_mem mem)⟩

theorem about_of_not_mem {name : String} (h : name ∉ names ds) : about name ds = [] := by
  rw [mem_names_iff] at h
  simpa [about] using h

end Definition

/-- The last value that is given, after one more that may give none. -/
theorem getLast?_filterMap_concat {α β : Type} (f : α → Option β) (xs : List α) (x : α) :
    ((xs ++ [x]).filterMap f).getLast? = (f x).or (xs.filterMap f).getLast? := by
  rw [List.filterMap_append, List.getLast?_append]
  cases given : f x with
  | none => simp [given]
  | some y => simp [given]

theorem getLast?_append_self {α : Type} (xs : List α) : (xs ++ xs).getLast? = xs.getLast? := by
  rw [List.getLast?_append, Option.or_self]

namespace Tag

/-- The tag that its definitions, in this order, leave. -/
def ofAll (name : String) (own : List Definition) : Tag where
  name := name
  code := (own.getLast?.map Definition.code).getD ""
  level := (own.getLast?.bind Definition.level).getD 0
  data := (own.filterMap Definition.data).getLast?
  lock := (own.filterMap Definition.lock).getLast?
  onGrant := (own.filterMap Definition.onGrant).getLast?
  onRevoke := (own.filterMap Definition.onRevoke).getLast?

/-- A tag that is redefined is what all its definitions make it. -/
theorem redefine_ofAll (name : String) (own : List Definition) (d : Definition) :
    (ofAll name own).redefine d = ofAll (lowercase d.name) (own ++ [d]) := by
  simp only [ofAll, redefine, getLast?_filterMap_concat, List.getLast?_concat, Option.map_some,
    Option.bind_some, Option.getD_some]

theorem ofDefinition_eq (d : Definition) : ofDefinition d = ofAll (lowercase d.name) [d] := by
  have only {β : Type} (f : Definition → Option β) : ([d].filterMap f).getLast? = f d := by
    have one := getLast?_filterMap_concat f [] d
    rwa [List.nil_append, List.filterMap_nil, List.getLast?_nil, Option.or_none] at one
  simp only [ofDefinition, ofAll, only, List.getLast?_singleton, Option.map_some, Option.bind_some,
    Option.getD_some]

theorem ofAll_append_self (name : String) (own : List Definition) :
    ofAll name (own ++ own) = ofAll name own := by
  simp only [ofAll, List.filterMap_append, getLast?_append_self]

theorem code_ofAll {name : String} {own : List Definition} {last : Definition}
    (h : own.getLast? = some last) : (ofAll name own).code = last.code := by
  simp only [ofAll, h, Option.map_some, Option.getD_some]

/-- The last definition counts for the level, which is 0 if it gives none. -/
theorem level_ofAll {name : String} {own : List Definition} {last : Definition}
    (h : own.getLast? = some last) : (ofAll name own).level = last.level.getD 0 := by
  simp only [ofAll, h, Option.bind_some]

end Tag

namespace Definition

variable {ds : List Definition} {d : Definition}

/-- The tags that the definitions come to. -/
def tags (ds : List Definition) : List Tag :=
  (names ds).map fun name => Tag.ofAll name (about name ds)

theorem map_name_tags (ds : List Definition) : (tags ds).map Tag.name = names ds := by
  rw [tags, List.map_map]
  exact List.map_id _

/-- A definition of a known name changes its tag only. -/
theorem tags_concat_of_mem (h : lowercase d.name ∈ names ds) : tags (ds ++ [d]) =
    (tags ds).map fun t => if t.name = lowercase d.name then t.redefine d else t := by
  rw [tags, names_concat_of_mem h, tags, List.map_map]
  apply List.map_congr_left
  intro name _
  by_cases own : name = lowercase d.name
  · subst own
    rw [about_concat_self, ← Tag.redefine_ofAll (lowercase d.name)]
    exact (if_pos rfl).symm
  · rw [about_concat_of_ne own]
    exact (if_neg own).symm

theorem tags_concat_of_not_mem (h : lowercase d.name ∉ names ds) :
    tags (ds ++ [d]) = tags ds ++ [Tag.ofDefinition d] := by
  have others : ∀ name ∈ names ds, Tag.ofAll name (about name (ds ++ [d])) =
      Tag.ofAll name (about name ds) := by
    intro name hn
    have other : name ≠ lowercase d.name := by
      rintro rfl
      exact h hn
    rw [about_concat_of_ne other]
  rw [tags, names_concat_of_not_mem h, List.map_append, List.map_congr_left others,
    List.map_singleton, about_concat_self, about_of_not_mem h, List.nil_append,
    ← Tag.ofDefinition_eq, tags]

theorem tags_append_self (ds : List Definition) : tags (ds ++ ds) = tags ds := by
  simp only [tags, names_append_self, about_append_self, Tag.ofAll_append_self]

end Definition

namespace Registry

variable {r : Registry}

/-- A registry that is what some definitions make it stays so with one more. -/
theorem tags_add {ds : List Definition} (same : r.tags = Definition.tags ds)
    (d : Definition) : (r.add d).tags = Definition.tags (ds ++ [d]) := by
  have named : r.names = Definition.names ds := by
    rw [names, same, Definition.map_name_tags]
  by_cases mem : lowercase d.name ∈ Definition.names ds
  · obtain ⟨i, known⟩ := exists_place_iff.2 (named ▸ mem)
    rw [tags_add_of_known known, same, Definition.tags_concat_of_mem mem]
  · have new := place_eq_none_iff.2 (named ▸ mem)
    rw [tags_add_of_new new, same, Definition.tags_concat_of_not_mem mem]

/-- Definitions may come at once or bit by bit. -/
theorem ofDefinitions_append (ds more : List Definition) :
    ofDefinitions (ds ++ more) = (ofDefinitions ds).extend more :=
  List.foldl_append

/-- The tags of a registry are what all definitions together make them. -/
theorem tags_ofDefinitions (ds : List Definition) :
    (ofDefinitions ds).tags = Definition.tags ds := by
  -- The last definition is taken off, since it counts before the others.
  induction ds using List.reverseRecOn with
  | nil => rfl
  | append_singleton ds d ih =>
    rw [ofDefinitions_append]
    exact tags_add ih d

theorem names_ofDefinitions (ds : List Definition) :
    (ofDefinitions ds).names = Definition.names ds := by
  rw [names, tags_ofDefinitions, Definition.map_name_tags]

theorem mem_names_ofDefinitions_iff {ds : List Definition} {name : String} :
    name ∈ (ofDefinitions ds).names ↔ ∃ d ∈ ds, lowercase d.name = name := by
  rw [names_ofDefinitions, Definition.mem_names_iff]

theorem wordNames_ofDefinitions {ds : List Definition} (h : ∀ d ∈ ds, IsWord d.name) :
    (ofDefinitions ds).WordNames := by
  rw [wordNames_iff]
  intro name mem
  obtain ⟨d, hd, rfl⟩ := mem_names_ofDefinitions_iff.1 mem
  exact (h d hd).lowercase

theorem exists_code_of_mem {ds : List Definition} {t : Tag} (h : t ∈ (ofDefinitions ds).tags) :
    ∃ d ∈ ds, t.code = d.code := by
  rw [tags_ofDefinitions] at h
  obtain ⟨name, hname, rfl⟩ := List.mem_map.1 h
  obtain ⟨last, hlast⟩ := Definition.exists_getLast?_about hname
  exact ⟨last, (List.mem_filter.1 (List.mem_of_getLast? hlast)).1, Tag.code_ofAll hlast⟩

theorem places_extend_of_mem {ds : List Definition}
    (known : ∀ d ∈ ds, lowercase d.name ∈ r.names) : (r.extend ds).places = r.places := by
  induction ds generalizing r with
  | nil => rfl
  | cons d ds ih =>
    obtain ⟨i, place⟩ := exists_place_iff.2 (known d List.mem_cons_self)
    have same : (r.add d).places = r.places := places_add_of_known place
    have later : ∀ e ∈ ds, lowercase e.name ∈ (r.add d).names := fun e he =>
      mem_names_add_iff.2 (.inl (known e (List.mem_cons_of_mem _ he)))
    exact (ih later).trans same

/-- Definitions that are given a second time change nothing. -/
theorem ofDefinitions_append_self (ds : List Definition) :
    ofDefinitions (ds ++ ds) = ofDefinitions ds := by
  have tags : (ofDefinitions (ds ++ ds)).tags = (ofDefinitions ds).tags := by
    rw [tags_ofDefinitions, tags_ofDefinitions, Definition.tags_append_self]
  have places : (ofDefinitions (ds ++ ds)).places = (ofDefinitions ds).places := by
    rw [ofDefinitions_append]
    apply places_extend_of_mem
    intro d hd
    exact mem_names_ofDefinitions_iff.2 ⟨d, hd, rfl⟩
  exact Registry.ext tags places

end Registry

end TagRights
