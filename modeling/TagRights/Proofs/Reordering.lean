import Mathlib.Data.List.Find
import TagRights.Proofs.Agreement
import TagRights.Proofs.Lookup

namespace TagRights

open Text

/-- Definitions of distinct names become tags one by one. -/
theorem Definition.tags_of_nodup {ds : List Definition}
    (names : (ds.map (lowercase ·.name)).Nodup) : tags ds = ds.map Tag.ofDefinition := by
  induction ds using List.reverseRecOn with
  | nil => rfl
  | append_singleton ds d ih =>
    rw [List.map_append, List.map_singleton, List.nodup_append] at names
    obtain ⟨before, -, apart⟩ := names
    have new : lowercase d.name ∉ Definition.names ds := by
      rw [mem_names_iff]
      rintro ⟨e, he, same⟩
      exact apart _ (List.mem_map_of_mem he) _ List.mem_cons_self same
    rw [tags_concat_of_not_mem new, ih before, List.map_append, List.map_singleton]

namespace Registry

section

variable {tags tags' : List Tag} (perm : tags.Perm tags')

include perm

/-- A search for a key that no two tags share does not depend on their order. -/
theorem find?_key_perm {key : Tag → String} (distinct : (tags.map key).Nodup) (k : String) :
    tags.find? (key · == k) = tags'.find? (key · == k) := by
  apply List.find?_eq_find?_of_perm perm
  rintro t ⟨ht, own⟩ u ⟨hu, other⟩
  apply List.inj_on_of_nodup_map distinct ht hu
  rw [eq_of_beq own, eq_of_beq other]

theorem scan?_perm (names : (tags.map Tag.name).Nodup) (codes : (tags.map Tag.code).Nodup)
    (token : String) : scan? tags token = scan? tags' token := by
  rw [scan?, scan?, find?_key_perm perm names, find?_key_perm perm codes]

end

/-- The order of definitions does not show in what a token means. -/
theorem find?_ofDefinitions_perm {ds ds' : List Definition} (perm : ds.Perm ds')
    (names : (ds.map (lowercase ·.name)).Nodup) (codes : (ds.map Definition.code).Nodup)
    (token : String) : (ofDefinitions ds).find? token = (ofDefinitions ds').find? token := by
  have tags : (ofDefinitions ds).tags = ds.map Tag.ofDefinition := by
    rw [tags_ofDefinitions, Definition.tags_of_nodup names]
  have tags' : (ofDefinitions ds').tags = ds'.map Tag.ofDefinition := by
    have names' : (ds'.map (lowercase ·.name)).Nodup := (perm.map _).nodup_iff.1 names
    rw [tags_ofDefinitions, Definition.tags_of_nodup names']
  have reordered : (ofDefinitions ds).tags.Perm (ofDefinitions ds').tags := by
    rw [tags, tags']
    exact perm.map _
  have distinct : ((ofDefinitions ds).tags.map Tag.code).Nodup := by
    have own : Tag.code ∘ Tag.ofDefinition = Definition.code := rfl
    rw [tags, List.map_map, own]
    exact codes
  rw [find?_eq_scan?, find?_eq_scan?]
  exact scan?_perm reordered nodup_names distinct token

/-- Registries that come of the same definitions in two orders give the same answers, if no two
definitions share a name up to case or a code. -/
theorem answers_of_perm (ds ds' : List Definition) (perm : ds.Perm ds')
    (names : (ds.map (lowercase ·.name)).Nodup) (codes : (ds.map Definition.code).Nodup) :
    let r := ofDefinitions ds
    let r' := ofDefinitions ds'
    (∀ token, r.find? token = r'.find? token) ∧
    (∀ list, r.level list = r'.level list ∧ r.codes list = r'.codes list ∧
      ∀ e, r.check list e = r'.check list e) ∧
    ∀ s e, r.set s e = r'.set s e := by
  intro r r'
  have same : ∀ token, r.find? token = r'.find? token := find?_ofDefinitions_perm perm names codes
  refine ⟨same, fun list => ?_, fun s e => set_congr (fun _ _ => same _) s⟩
  exact ⟨level_congr fun _ _ => same _, codes_congr fun _ _ => same _,
    fun e => check_congr (fun _ _ => same _) fun _ _ _ _ => same _⟩

/-- Each of the first three has the next one's name as its code. -/
def circle : List Definition :=
  [{ name := "Ärzt", code := "staff", level := some 4, data := some [("ward", .int 3)] },
   { name := "STAFF", code := "idle", level := some 5 },
   { name := "Idle", code := "ärzt", onGrant := some (Hook.ofEdits [.put "afk" (.bool true)]) },
   { name := "chief", code := "c", level := some 9 }]

theorem answers_of_perm_circle : circle.Perm circle.reverse ∧
    (circle.map (lowercase ·.name)).Nodup ∧ (circle.map Definition.code).Nodup ∧
    (ofDefinitions circle).names ≠ (ofDefinitions circle.reverse).names ∧
    ((ofDefinitions circle).find? "Staff").map Tag.code = some "idle" ∧
    (ofDefinitions circle).find? "Staff" = (ofDefinitions circle.reverse).find? "Staff" ∧
    (ofDefinitions circle).check "ÄRZT idle" "staff+ c+ !x" =
      (ofDefinitions circle.reverse).check "ÄRZT idle" "staff+ c+ !x" ∧
    (ofDefinitions circle).check "ÄRZT idle" "staff+ c+ !x" = .ok false ∧
    (ofDefinitions circle).check "ÄRZT c" "staff+ c+ !x" =
      (ofDefinitions circle.reverse).check "ÄRZT c" "staff+ c+ !x" ∧
    (ofDefinitions circle).check "ÄRZT c" "staff+ c+ !x" = .ok true ∧
    (ofDefinitions circle).set nurse "idle !STAFF c Ärzt" =
      (ofDefinitions circle.reverse).set nurse "idle !STAFF c Ärzt" ∧
    ((ofDefinitions circle).set nurse "idle !STAFF c Ärzt").tags = "ÄRZT Nurse idle chief" ∧
    ((ofDefinitions circle).set nurse "idle !STAFF c Ärzt").data.map Prod.fst =
      ["Idle", "Ärzt", "afk", "ärzt"] := by
  have perm : circle.Perm circle.reverse := (List.reverse_perm circle).symm
  have names : (circle.map (lowercase ·.name)).Nodup := by decide +kernel
  have codes : (circle.map Definition.code).Nodup := by decide +kernel
  obtain ⟨meaning, answers, expressions⟩ := answers_of_perm circle circle.reverse perm names codes
  exact ⟨perm, names, codes, by decide +kernel, by decide +kernel, meaning _,
    (answers _).2.2 _, by decide +kernel, (answers _).2.2 _, by decide +kernel, expressions _ _,
    by decide +kernel, by decide +kernel⟩

end Registry

end TagRights
