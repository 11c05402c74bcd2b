import Mathlib.Data.List.Nodup
import TagRights.Proofs.Redefinition

namespace TagRights

open Text

namespace Registry

variable {r : Registry}

/-- A place belongs to one name. -/
theorem nodup_names : r.names.Nodup := by
  rw [List.nodup_iff_getElem?_ne_getElem?]
  intro i j before inside same
  have name : r.names[j]? = some r.names[j] := List.getElem?_eq_getElem inside
  have first := (r.places_iff _ _).2 (same.trans name)
  have second := (r.places_iff _ _).2 name
  rw [first, Option.some.injEq] at second
  omega

end Registry

/-- The ways of handing definitions to a registry. -/
inductive Registration where
  /-- Begins a new registry. -/
  | restart (ds : List Definition)
  | add (d : Definition)
  | extend (ds : List Definition)

namespace Registration

def apply (r : Registry) : Registration → Registry
  | restart ds => Registry.ofDefinitions ds
  | add d => r.add d
  | extend ds => r.extend ds

/-- The definitions that have gone into the registry, if `ds` had before. -/
def supply (ds : List Definition) : Registration → List Definition
  | restart ds' => ds'
  | add d => ds ++ [d]
  | extend ds' => ds ++ ds'

def run (history : List Registration) : Registry :=
  history.foldl apply .empty

def supplied (history : List Registration) : List Definition :=
  history.foldl supply []

theorem apply_ofDefinitions (ds : List Definition) (c : Registration) :
    apply (.ofDefinitions ds) c = .ofDefinitions (supply ds c) := by
  cases c with
  | restart ds' => rfl
  | add d => exact (Registry.ofDefinitions_append ds [d]).symm
  | extend ds' => exact (Registry.ofDefinitions_append ds ds').symm

/-- Only the definitions count, not the registrations in which they come. -/
theorem foldl_apply_ofDefinitions (ds : List Definition) (history : List Registration) :
    history.foldl apply (.ofDefinitions ds) = .ofDefinitions (history.foldl supply ds) := by
  induction history generalizing ds with
  | nil => rfl
  | cons c history ih => rw [List.foldl_cons, List.foldl_cons, apply_ofDefinitions, ih]

theorem run_eq (history : List Registration) : run history = .ofDefinitions (supplied history) :=
  foldl_apply_ofDefinitions [] history

/-- After any registrations the index leads to the places of the names and to nothing else, so every
place that it gives is one in the list and no tag is without one. -/
theorem index_run (history : List Registration) :
    let r := run history
    (∀ name i, r.places[name]? = some i ↔ ∃ inside : i < r.tags.length, r.tags[i].name = name) ∧
    (∀ name i, r.places[name]? = some i → ∃ t, r.named? name = some t ∧ t.name = name) ∧
    (∀ t ∈ r.tags, ∃ i, r.places[t.name]? = some i ∧ r.tags[i]? = some t) ∧
    r.names.Nodup ∧
    (∀ name, name ∈ r.names ↔ ∃ d ∈ supplied history, lowercase d.name = name) ∧
    r.places.size = r.size := by
  intro r
  have result : r = .ofDefinitions (supplied history) := run_eq history
  have place (name : String) (i : Nat) : r.places[name]? = some i ↔
      ∃ inside : i < r.tags.length, r.tags[i].name = name := by
    rw [r.places_iff, List.getElem?_eq_some_iff]
    simp only [List.length_map, List.getElem_map]
  refine ⟨place, ?_, ?_, Registry.nodup_names, ?_, r.size_places⟩
  · intro name i hi
    obtain ⟨inside, own⟩ := (place name i).1 hi
    exact ⟨r.tags[i], Registry.named?_eq_some_iff.2 ⟨List.getElem_mem inside, own⟩, own⟩
  · intro t ht
    obtain ⟨i, inside, rfl⟩ := List.mem_iff_getElem.1 ht
    exact ⟨i, (place _ i).2 ⟨inside, rfl⟩, List.getElem?_eq_getElem inside⟩
  · intro name
    rw [result, Registry.mem_names_ofDefinitions_iff]

/-- Spellings of one name, a new beginning, and a tag without name and code. -/
def intake : List Registration :=
  [.add { name := "Ärzt", code := "x", level := some 9 },
   .restart [{ name := "ÄRZT", code := "ä", level := some 4, data := some [("ward", .int 3)] }],
   .add { name := "", code := "", lock := some "builder" },
   .extend [{ name := "staff", code := "s", level := some 5 }, { name := "Ärzt", code := "a" }]]

theorem index_run_intake : (run intake).places["staff"]? = some 2 ∧
    (∃ t, (run intake).named? "staff" = some t ∧ t.name = "staff") ∧ "ärzt" ∈ (run intake).names ∧
    (run intake).places.size = 3 := by
  obtain ⟨-, named, -, -, names, size⟩ := index_run intake
  have place : (run intake).places["staff"]? = some 2 := by decide +kernel
  have low : lowercase "ÄRZT" = "ärzt" := by decide +kernel
  exact ⟨place, named _ _ place, (names _).2 ⟨_, .head _, low⟩, size.trans (by decide +kernel)⟩

theorem supply_append (ds ds' : List Definition) (c : Registration) :
    supply (ds ++ ds') c = supply ds' c ∨ supply (ds ++ ds') c = ds ++ supply ds' c := by
  cases c with
  | restart more => exact .inl rfl
  | add d => exact .inr (List.append_assoc ..)
  | extend more => exact .inr (List.append_assoc ..)

/-- Registrations after others either begin a new registry or add to what there was. -/
theorem foldl_supply_cases (ds : List Definition) (history : List Registration) :
    history.foldl supply ds = supplied history ∨
      history.foldl supply ds = ds ++ supplied history := by
  induction history using List.reverseRecOn with
  | nil => exact .inr (List.append_nil ds).symm
  | append_singleton history c ih =>
    simp only [supplied, List.foldl_append, List.foldl_cons, List.foldl_nil] at ih ⊢
    rcases ih with fresh | more
    · exact .inl (by rw [fresh])
    · rw [more]
      exact supply_append ds _ c

/-- A registry has one tag for each name that was supplied, in the order in which the names first
occurred. The last definition of the name counts for the code and the level, and the last one that
gives it for each other field. To supply the same again, in whatever registrations, changes
nothing. -/
theorem tags_run (history : List Registration) :
    let r := run history
    let ds := supplied history
    r.names = (ds.map (lowercase ·.name)).eraseDups ∧
    (∀ t ∈ r.tags,
      let own := ds.filter (lowercase ·.name == t.name)
      (∃ last, own.getLast? = some last ∧ t.code = last.code ∧ t.level = last.level.getD 0) ∧
      t.data = (own.filterMap Definition.data).getLast? ∧
      t.lock = (own.filterMap Definition.lock).getLast? ∧
      t.onGrant = (own.filterMap Definition.onGrant).getLast? ∧
      t.onRevoke = (own.filterMap Definition.onRevoke).getLast?) ∧
    ∀ again, supplied again = ds → again.foldl apply r = r := by
  intro r ds
  have result : r = .ofDefinitions ds := run_eq history
  refine ⟨?_, ?_, ?_⟩
  · rw [result, Registry.names_ofDefinitions]
    rfl
  · intro t ht own
    rw [result, Registry.tags_ofDefinitions] at ht
    obtain ⟨name, hname, rfl⟩ := List.mem_map.1 ht
    obtain ⟨last, hlast⟩ := Definition.exists_getLast?_about hname
    exact ⟨⟨last, hlast, Tag.code_ofAll hlast, Tag.level_ofAll hlast⟩, rfl, rfl, rfl, rfl⟩
  · intro again same
    rw [result, foldl_apply_ofDefinitions]
    rcases foldl_supply_cases ds again with fresh | more
    · rw [fresh, same]
    · rw [more, same, Registry.ofDefinitions_append_self]

theorem tags_run_intake : (run intake).names = ["ärzt", "", "staff"] ∧
    (∃ t ∈ (run intake).tags, t.name = "ärzt" ∧ t.code = "a" ∧ t.level = 0 ∧
      t.data.map (·.map Prod.fst) = some ["ward"] ∧ t.lock = none) ∧
    [.extend (supplied intake)].foldl apply (run intake) = run intake := by
  obtain ⟨names, fields, again⟩ := tags_run intake
  have order : (run intake).names = ["ärzt", "", "staff"] := names.trans (by decide +kernel)
  refine ⟨order, ?_, again _ rfl⟩
  have mem : "ärzt" ∈ (run intake).names := order ▸ List.mem_cons_self
  obtain ⟨t, ht, name⟩ := List.mem_map.1 mem
  obtain ⟨⟨last, hlast, code, level⟩, data, lock, -, -⟩ := fields t ht
  rw [name] at hlast data lock
  have final : (((supplied intake).filter (lowercase ·.name == "ärzt")).getLast?.map fun d =>
      (d.code, d.level)) = some ("a", none) := by decide +kernel
  rw [hlast, Option.map_some, Option.some.injEq, Prod.mk.injEq] at final
  refine ⟨t, ht, name, code.trans final.1, by rw [level, final.2]; rfl, ?_, ?_⟩
  · rw [data]
    decide +kernel
  · rw [lock]
    decide +kernel

end Registration

end TagRights
