import Std.Data.TreeMap
import TagRights.Tag
import TagRights.Text.Words

namespace TagRights

open Text

/-- Tags in the order in which their names were first registered, and the place of each name. -/
@[ext]
structure Registry where
  tags : List Tag
  places : Std.TreeMap String Nat
  /-- The index leads to the places of the names, and to nothing else. -/
  places_iff : ∀ (name : String) (i : Nat),
    places[name]? = some i ↔ (tags.map Tag.name)[i]? = some name
  size_places : places.size = tags.length
  lowercase_name : ∀ t ∈ tags, lowercase t.name = t.name

namespace Registry

def names (r : Registry) : List String :=
  r.tags.map Tag.name

def empty : Registry where
  tags := []
  places := {}
  places_iff := by simp
  size_places := by simp
  lowercase_name := by simp

section

variable (r : Registry) {d : Definition}

theorem map_name_modify {i : Nat} (known : r.places[lowercase d.name]? = some i) :
    (r.tags.modify i (·.redefine d)).map Tag.name = r.names := by
  have own : r.names[i]? = some (lowercase d.name) := (r.places_iff _ _).1 known
  apply List.ext_getElem?
  intro j
  rw [names, List.getElem?_map, List.getElem?_modify, List.getElem?_map]
  by_cases here : i = j
  · subst here
    rw [names, List.getElem?_map] at own
    cases ht : r.tags[i]? with
    | none => rfl
    | some t =>
      rw [ht] at own
      simp only [if_true, Option.map_eq_map, Option.map_some]
      exact own.symm
  · simp [here]

theorem lowercase_name_modify {i : Nat} {t : Tag} (ht : t ∈ r.tags.modify i (·.redefine d)) :
    lowercase t.name = t.name := by
  obtain ⟨j, hj⟩ := List.mem_iff_getElem?.1 ht
  rw [List.getElem?_modify, Option.map_eq_map, Option.map_eq_some_iff] at hj
  obtain ⟨old, found, changed⟩ := hj
  split at changed
  · rw [← changed]
    exact lowercase_lowercase d.name
  · rw [← changed]
    exact r.lowercase_name old (List.mem_of_getElem? found)

theorem places_insert_iff (new : r.places[lowercase d.name]? = none) (name : String) (j : Nat) :
    (r.places.insert (lowercase d.name) r.tags.length)[name]? = some j ↔
      ((r.tags ++ [Tag.ofDefinition d]).map Tag.name)[j]? = some name := by
  have length : (r.tags.map Tag.name).length = r.tags.length := List.length_map _
  rw [List.map_append, Std.TreeMap.getElem?_insert, List.getElem?_append]
  by_cases own : lowercase d.name = name
  · subst own
    have absent : (r.tags.map Tag.name)[j]? ≠ some (lowercase d.name) := by
      intro hj
      rw [(r.places_iff _ _).2 hj] at new
      contradiction
    rw [if_pos Std.ReflCmp.compare_self]
    split
    next inside =>
      simp only [absent, iff_false, Option.some.injEq]
      omega
    next outside =>
      rw [Option.some.injEq, List.map_singleton, List.getElem?_singleton]
      split <;> simp [Tag.ofDefinition] <;> omega
  · rw [if_neg (by simpa using own), r.places_iff]
    split
    · rfl
    next outside =>
      have past : (r.tags.map Tag.name)[j]? = none := List.getElem?_eq_none (by omega)
      rw [past, List.map_singleton, List.getElem?_singleton]
      split <;> simp [Tag.ofDefinition, own]

end

/-- A new name is registered at the end. A name that is known has its tag redefined in place. -/
def add (r : Registry) (d : Definition) : Registry :=
  match known : r.places[lowercase d.name]? with
  | some i =>
    { tags := r.tags.modify i (·.redefine d)
      places := r.places
      places_iff := fun name j => by
        rw [r.map_name_modify known]
        exact r.places_iff name j
      size_places := by rw [List.length_modify, r.size_places]
      lowercase_name := fun _ => r.lowercase_name_modify }
  | none =>
    { tags := r.tags ++ [Tag.ofDefinition d]
      places := r.places.insert (lowercase d.name) r.tags.length
      places_iff := r.places_insert_iff known
      size_places := by
        have absent : r.places.contains (lowercase d.name) = false := by
          rw [Std.TreeMap.contains_eq_isSome_getElem?, known]
          rfl
        rw [Std.TreeMap.size_insert, absent, r.size_places, List.length_append]
        rfl
      lowercase_name := by
        intro t ht
        rcases List.mem_append.1 ht with old | new
        · exact r.lowercase_name t old
        · rw [List.mem_singleton.1 new]
          exact lowercase_lowercase d.name }

def extend (r : Registry) (ds : List Definition) : Registry :=
  ds.foldl add r

def ofDefinitions (ds : List Definition) : Registry :=
  empty.extend ds

/-- The tag of this name, which is in lower case. -/
def named? (r : Registry) (name : String) : Option Tag :=
  r.places[name]?.bind (r.tags[·]?)

/-- The tag that a token means: the one with this name up to case, else the first with exactly this
code. The empty token means none. -/
def find? (r : Registry) (token : String) : Option Tag :=
  if token = "" then none
  else (r.named? (lowercase token)).or (r.tags.find? (·.code == token))

/-- The tags that the words of a tag list mean. Words without a meaning are passed over. -/
def resolve (r : Registry) (list : String) : List Tag :=
  (words list).filterMap r.find?

/-- The highest level in a tag list. -/
def level (r : Registry) (list : String) : Nat :=
  ((r.resolve list).map (·.level)).foldr max 0

def codes (r : Registry) (list : String) : String :=
  String.join ((r.resolve list).map (·.code))

def size (r : Registry) : Nat :=
  r.tags.length

def isEmpty (r : Registry) : Bool :=
  r.tags.isEmpty

end Registry

end TagRights
