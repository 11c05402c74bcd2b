import TagRights.Proofs.Agreement
import TagRights.Proofs.Lookup

namespace TagRights

open Text

/-- Whether the meaning of a token may change when the definition is added: the token is the name
that is defined, up to case, or its new code, or the code that it had before. -/
def Definition.Touches (d : Definition) (r : Registry) (token : String) : Prop :=
  lowercase token = lowercase d.name ∨ token = d.code ∨
    ∃ t ∈ r.tags, t.name = lowercase d.name ∧ token = t.code

instance (d : Definition) (r : Registry) (token : String) : Decidable (d.Touches r token) :=
  inferInstanceAs (Decidable (_ ∨ _ ∨ ∃ t ∈ r.tags, _ ∧ _))

namespace Registry

variable {r : Registry} {d : Definition} {token : String}

/-- Other tags stay where they are. -/
theorem getElem?_tags_add {i : Nat} {t : Tag} (ht : r.tags[i]? = some t)
    (other : t.name ≠ lowercase d.name) : (r.add d).tags[i]? = some t := by
  cases known : r.places[lowercase d.name]? with
  | some j => rw [tags_add_of_known known, List.getElem?_map, ht, Option.map_some, if_neg other]
  | none =>
    obtain ⟨inside, -⟩ := List.getElem?_eq_some_iff.1 ht
    rw [tags_add_of_new known, List.getElem?_append_left inside, ht]

/-- A change of elements that are not looked for. -/
theorem find?_map_of_skipped {α : Type} {p : α → Bool} {f : α → α} {xs : List α}
    (h : ∀ x ∈ xs, f x = x ∨ p x = false ∧ p (f x) = false) :
    (xs.map f).find? p = xs.find? p := by
  induction xs with
  | nil => rfl
  | cons x xs ih =>
    have others := ih fun y hy => h y (List.mem_cons_of_mem _ hy)
    rcases h x List.mem_cons_self with same | ⟨before, after⟩
    · rw [List.map_cons, List.find?_cons, List.find?_cons, same, others]
    · rw [List.map_cons, List.find?_cons, List.find?_cons, before, after, others]

/-- A search that neither the old nor the new form of the tag meets. -/
theorem find?_tags_add {p : Tag → Bool}
    (old : ∀ t ∈ r.tags, t.name = lowercase d.name → p t = false)
    (new : ∀ t : Tag, t.name = lowercase d.name → t.code = d.code → p t = false) :
    (r.add d).tags.find? p = r.tags.find? p := by
  cases known : r.places[lowercase d.name]? with
  | some i =>
    rw [tags_add_of_known known]
    apply find?_map_of_skipped
    intro t ht
    by_cases own : t.name = lowercase d.name
    · right
      rw [if_pos own]
      exact ⟨old t ht own, new _ rfl rfl⟩
    · exact .inl (if_neg own)
  | none =>
    have skipped : [Tag.ofDefinition d].find? p = none := by
      rw [List.find?_singleton, new _ rfl rfl]
      rfl
    rw [tags_add_of_new known, List.find?_append, skipped, Option.or_none]

/-- A token that a definition does not touch means what it meant. -/
theorem find?_add_of_not_touches (apart : ¬d.Touches r token) :
    (r.add d).find? token = r.find? token := by
  obtain ⟨name, code, replaced⟩ : lowercase token ≠ lowercase d.name ∧ token ≠ d.code ∧
      ¬∃ t ∈ r.tags, t.name = lowercase d.name ∧ token = t.code := by
    simpa [Definition.Touches] using apart
  have byName : (r.add d).tags.find? (·.name == lowercase token) =
      r.tags.find? (·.name == lowercase token) := by
    apply find?_tags_add
    · intro t _ own
      rw [own, beq_eq_false_iff_ne]
      exact name.symm
    · intro t own _
      rw [own, beq_eq_false_iff_ne]
      exact name.symm
  have byCode : (r.add d).tags.find? (·.code == token) = r.tags.find? (·.code == token) := by
    apply find?_tags_add
    · intro t ht own
      rw [beq_eq_false_iff_ne]
      exact fun same => replaced ⟨t, ht, own, same.symm⟩
    · intro t _ own
      rw [own, beq_eq_false_iff_ne]
      exact code.symm
  rw [find?_eq_scan?, find?_eq_scan?, scan?, scan?, byName, byCode]

/-- What a definition leaves alone: all tags but the one of its name, in their places, the meaning
of every token that it does not touch, and all answers that ask only for such tokens. -/
theorem add_frame (r : Registry) (d : Definition) :
    (∀ (i : Nat) (t : Tag), r.tags[i]? = some t → t.name ≠ lowercase d.name →
      (r.add d).tags[i]? = some t) ∧
    (∀ token, ¬d.Touches r token → (r.add d).find? token = r.find? token) ∧
    (∀ list, (∀ token ∈ words list, ¬d.Touches r token) →
      (r.add d).level list = r.level list ∧ (r.add d).codes list = r.codes list ∧
      ∀ e, (∀ token ∈ words e, ∀ base, Clause.IsThreshold token base → ¬d.Touches r base) →
        (r.add d).check list e = r.check list e) ∧
    (∀ e, (∀ directive ∈ Directive.parseAll e, ¬d.Touches r directive.token) →
      ∀ s, (r.add d).set s e = r.set s e) := by
  have same (token : String) (apart : ¬d.Touches r token) :
      (r.add d).find? token = r.find? token := find?_add_of_not_touches apart
  refine ⟨?_, same, ?_, ?_⟩
  · intro i t ht other
    exact getElem?_tags_add ht other
  · intro list apart
    have agree : ∀ token ∈ words list, (r.add d).find? token = r.find? token :=
      fun token mem => same token (apart token mem)
    refine ⟨level_congr agree, codes_congr agree, fun e bases => check_congr agree ?_⟩
    exact fun token mem base threshold => same base (bases token mem base threshold)
  · intro e apart s
    exact set_congr (fun directive mem => same _ (apart directive mem)) s

/-- A known name with another code and level. -/
def promotion : Definition := { name := "STAFF", code := "i", level := some 8 }

/-- Membership clauses may name what is touched, since they do not ask the registry. -/
theorem add_frame_clinic :
    promotion.Touches clinic "s" ∧ (clinic.add promotion).level "s Staff" ≠ clinic.level "s Staff" ∧
    (clinic.add promotion).find? "ä" = clinic.find? "ä" ∧
    (clinic.add promotion).check "ÄRZT idle ghost" "ä+ !staff s|idle IDLE+" =
      clinic.check "ÄRZT idle ghost" "ä+ !staff s|idle IDLE+" ∧
    (clinic.add promotion).set nurse "ä !IDLE ghost !x" = clinic.set nurse "ä !IDLE ghost !x" := by
  have coded : ¬promotion.Touches clinic "ä" := by decide +kernel
  have list : ∀ token ∈ words "ÄRZT idle ghost", ¬promotion.Touches clinic token := by
    decide +kernel
  have clauses : (words "ä+ !staff s|idle IDLE+").map Clause.parse =
      [.atLeast "ä", .member ⟨"staff", true⟩, .anyOf [⟨"s", false⟩, ⟨"idle", false⟩],
        .atLeast "IDLE"] := by decide +kernel
  have bases : ∀ token ∈ words "ä+ !staff s|idle IDLE+", ∀ base, Clause.IsThreshold token base →
      ¬promotion.Touches clinic base := by
    intro token mem base threshold
    have clause := List.mem_map_of_mem mem (f := Clause.parse)
    rw [Clause.parse_of_isThreshold threshold, clauses] at clause
    obtain rfl | rfl : base = "ä" ∨ base = "IDLE" := by simpa using clause
    · exact coded
    · decide +kernel
  have directives : ∀ directive ∈ Directive.parseAll "ä !IDLE ghost !x",
      ¬promotion.Touches clinic directive.token := by decide +kernel
  obtain ⟨-, meaning, answers, expressions⟩ := add_frame clinic promotion
  exact ⟨by decide +kernel, by decide +kernel, meaning _ coded, (answers _ list).2.2 _ bases,
    expressions _ directives nurse⟩

end Registry

end TagRights
