import TagRights.Proofs.Registration

namespace TagRights

open Text

namespace Registry

/-- The first tag with this name up to case, else the first with exactly this code. -/
def scan? (tags : List Tag) (token : String) : Option Tag :=
  if token = "" then none
  else (tags.find? (·.name == lowercase token)).or (tags.find? (·.code == token))

variable {r : Registry} {token : String}

/-- The index finds what a search by name finds. -/
theorem named?_eq_find? (name : String) :
    r.named? name = r.tags.find? (·.name == name) := by
  cases found : r.tags.find? (·.name == name) with
  | none =>
    have absent := List.find?_eq_none.1 found
    cases named : r.named? name with
    | none => rfl
    | some t =>
      obtain ⟨ht, own⟩ := named?_eq_some_iff.1 named
      exact absurd (beq_iff_eq.2 own) (absent t ht)
  | some t =>
    have own : t.name = name := by simpa using List.find?_some found
    exact named?_eq_some_iff.2 ⟨List.mem_of_find?_eq_some found, own⟩

/-- The index only saves the scan. -/
theorem find?_eq_scan? (token : String) : r.find? token = scan? r.tags token := by
  rw [find?, scan?, named?_eq_find?]

theorem scan?_eq_none_iff {tags : List Tag} : scan? tags token = none ↔
    token = "" ∨ ∀ t ∈ tags, t.name ≠ lowercase token ∧ t.code ≠ token := by
  by_cases empty : token = ""
  · simp [scan?, empty]
  · simp [scan?, empty, forall_and]

theorem cases_of_scan? {tags : List Tag} {t : Tag} (h : scan? tags token = some t) :
    t ∈ tags ∧ (t.name = lowercase token ∨ t.code = token) := by
  unfold scan? at h
  split at h
  · contradiction
  · rcases Option.or_eq_some_iff.1 h with named | ⟨-, coded⟩
    · exact ⟨List.mem_of_find?_eq_some named, .inl (by simpa using List.find?_some named)⟩
    · exact ⟨List.mem_of_find?_eq_some coded, .inr (by simpa using List.find?_some coded)⟩

/-- Tokens that differ only in case mean the same tag if one of them, in lower case, is a name. -/
theorem find?_congr_of_mem_names {a b : String} (same : lowercase a = lowercase b)
    (known : lowercase a ∈ r.names) : r.find? a = r.find? b := by
  by_cases empty : a = ""
  · have other : b = "" := by
      rw [← lowercase_eq_empty_iff, ← same, lowercase_eq_empty_iff]
      exact empty
    rw [empty, other]
  · have nonempty : b ≠ "" := by
      rwa [ne_eq, ← lowercase_eq_empty_iff, ← same, lowercase_eq_empty_iff]
    obtain ⟨t, ht, own⟩ := List.mem_map.1 known
    rw [find?_of_lowercase_eq ht empty own.symm,
      find?_of_lowercase_eq ht nonempty (same ▸ own.symm)]

/-- A code that a definition replaces finds the tag no more, unless it is its name too. -/
theorem cases_of_find?_replaced {d : Definition} {t u : Tag} (ht : t ∈ r.tags)
    (own : t.name = lowercase d.name) (replaced : t.code ≠ d.code)
    (found : (r.add d).find? t.code = some u) :
    u.name = lowercase t.code ∨ u ∈ r.tags ∧ u ≠ t ∧ u.code = t.code := by
  rw [find?_eq_scan?] at found
  obtain ⟨hu, named | coded⟩ := cases_of_scan? found
  · exact .inl named
  · right
    have known : lowercase d.name ∈ r.names := List.mem_map.2 ⟨t, ht, own⟩
    obtain ⟨i, place⟩ := exists_place_iff.2 known
    rw [tags_add_of_known place, List.mem_map] at hu
    obtain ⟨v, hv, rfl⟩ := hu
    by_cases redefined : v.name = lowercase d.name
    · rw [if_pos redefined] at coded
      exact absurd coded.symm replaced
    · rw [if_neg redefined] at coded ⊢
      refine ⟨hv, ?_, coded⟩
      rintro rfl
      exact redefined own

end Registry

namespace Registration

open Registry

/-- After any registrations a token means what a scan of the tags finds: nothing if it is empty,
else the one tag with its name in lower case, else the first tag with its code. So the index does
not show, replaced codes find nothing, and case does not count where there is a name. -/
theorem find?_run (history : List Registration) :
    let r := run history
    (∀ token, r.find? token = if token = "" then none else
      (r.tags.find? (·.name == lowercase token)).or (r.tags.find? (·.code == token))) ∧
    r.names.Nodup ∧
    (∀ token, r.find? token = none ↔
      token = "" ∨ ∀ t ∈ r.tags, t.name ≠ lowercase token ∧ t.code ≠ token) ∧
    (∀ other : Registry, other.tags = r.tags →
      ∀ token, other.find? token = r.find? token) ∧
    (∀ d, ∀ t ∈ r.tags, t.name = lowercase d.name → t.code ≠ d.code →
      ∀ u, (r.add d).find? t.code = some u →
        u.name = lowercase t.code ∨ u ∈ r.tags ∧ u ≠ t ∧ u.code = t.code) ∧
    (∀ a b, lowercase a = lowercase b → lowercase a ∈ r.names → r.find? a = r.find? b) := by
  intro r
  refine ⟨find?_eq_scan?, nodup_names, ?_, ?_, ?_, ?_⟩
  · intro token
    rw [find?_eq_scan?, scan?_eq_none_iff]
  · intro other same token
    rw [find?_eq_scan?, find?_eq_scan?, same]
  · intro d t ht own replaced u found
    exact cases_of_find?_replaced ht own replaced found
  · intro a b same known
    exact find?_congr_of_mem_names same known

/-- The code `ä` was replaced, and no tag has it now. -/
theorem find?_run_intake : (run intake).find? "ä" = none ∧
    ((run intake).find? "a").map Tag.name = some "ärzt" ∧
    (run intake).find? "ÄRZT" = (run intake).find? "äRzt" ∧
    ∃ t ∈ (run intake).tags, t.name = lowercase "STAFF" ∧ t.code ≠ "S" ∧
      ∀ u, ((run intake).add { name := "STAFF", code := "S" }).find? t.code = some u →
        u.name = lowercase t.code ∨ u ∈ (run intake).tags ∧ u ≠ t ∧ u.code = t.code := by
  obtain ⟨-, -, unknown, -, replaced, cases⟩ := find?_run intake
  have absent : ∀ t ∈ (run intake).tags, t.name ≠ lowercase "ä" ∧ t.code ≠ "ä" := by
    decide +kernel
  have staff : ∃ t ∈ (run intake).tags, t.name = lowercase "STAFF" ∧ t.code ≠ "S" := by
    decide +kernel
  obtain ⟨t, ht, own, other⟩ := staff
  exact ⟨(unknown "ä").2 (.inr absent), by decide +kernel,
    cases _ _ (by decide +kernel) (by decide +kernel), t, ht, own, other,
    replaced { name := "STAFF", code := "S" } t ht own other⟩

end Registration

end TagRights
