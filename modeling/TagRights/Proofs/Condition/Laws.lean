import TagRights.Proofs.Condition.Conjunction
import TagRights.Proofs.Condition.Parsing
import TagRights.Proofs.Subject.Composition

namespace TagRights

open Text

/-- A name that is read as nothing else: none of the signs stands where it would count. -/
structure IsLiteral (s : String) : Prop where
  isWord : IsWord s
  bar : '|' ∉ s.toList
  bang : s.toList.head? ≠ some '!'
  plus : s.toList.getLast? ≠ some '+'

instance (s : String) : Decidable (IsLiteral s) :=
  decidable_of_iff (IsWord s ∧ '|' ∉ s.toList ∧ s.toList.head? ≠ some '!' ∧
    s.toList.getLast? ≠ some '+')
    ⟨fun ⟨word, bar, bang, plus⟩ => ⟨word, bar, bang, plus⟩,
      fun ⟨word, bar, bang, plus⟩ => ⟨word, bar, bang, plus⟩⟩

/-- A literal, or one behind a bang. -/
def IsSigned (s : String) : Prop :=
  IsLiteral s ∨ ∃ name, IsLiteral name ∧ s = "!" ++ name

namespace IsSigned

variable {s : String}

theorem isWord (h : IsSigned s) : IsWord s := by
  rcases h with literal | ⟨name, literal, rfl⟩
  · exact literal.isWord
  · exact isWord_bang literal.isWord.2

theorem not_mem_bar (h : IsSigned s) : '|' ∉ s.toList := by
  rcases h with literal | ⟨name, literal, rfl⟩
  · exact literal.bar
  · simpa using literal.bar

theorem parse_eq (h : IsSigned s) : Clause.parse s = .member (Term.parse s) := by
  apply Clause.parse_of_getLast?_ne h.not_mem_bar
  rcases h with literal | ⟨name, literal, rfl⟩
  · exact literal.plus
  · exact mt (getLast?_bang_iff name).1 literal.plus

end IsSigned

namespace Registry

variable {r : Registry}

/-- A test for one tag never fails. -/
theorem check_of_isSigned {s : String} (h : IsSigned s) (list : String) :
    r.check list s = .ok ((Term.parse s).holds (r.active list)) := by
  rw [check_of_isWord h.isWord, h.parse_eq, Clause.evaluate]

/-- The names that are tested and the tags that the subject has are compared alike. -/
theorem contains_active (list name : String) (data : DataBag) :
    (r.active list).names.contains (lowercase name) = (⟨list, data⟩ : Subject).has name := by
  rw [Bool.eq_iff_iff, List.contains_iff_mem, active, List.mem_map, Subject.has, List.any_eq_true]
  simp only [sameName_iff]
  rfl

/-- A name tests for the tag, and a bang before it for its absence. -/
theorem check_literal {name : String} (h : IsLiteral name) (list : String) (data : DataBag) :
    r.check list name = .ok ((⟨list, data⟩ : Subject).has name) ∧
    r.check list ("!" ++ name) = .ok (!(⟨list, data⟩ : Subject).has name) := by
  constructor
  · rw [check_of_isSigned (.inl h), Term.parse_of_head?_ne h.bang, Term.holds, contains_active,
      Bool.bne_false]
  · rw [check_of_isSigned (.inr ⟨name, h, rfl⟩), Term.parse_bang, Term.holds, contains_active,
      Bool.bne_true]

/-- Tests between bars come to whether one of them holds. -/
theorem check_anyOf {tests : List String} (many : 2 ≤ tests.length)
    (h : ∀ s ∈ tests, IsSigned s) (list : String) :
    r.check list ("|".intercalate tests) =
      .ok (tests.any fun s => (Term.parse s).holds (r.active list)) := by
  have bar : "|" = String.singleton '|' := rfl
  have word := isWord_intercalate (show isBlank '|' = false from rfl) many
    fun s hs => (h s hs).isWord.2
  rw [bar, check_of_isWord word, Clause.parse_intercalate many fun s hs => (h s hs).not_mem_bar,
    Clause.evaluate, List.any_map]
  rfl

theorem level_of_isWord {base : String} {t : Tag} (h : IsWord base)
    (meant : r.find? base = some t) : r.level base = t.level := by
  simp [level, resolve, words_of_isWord h, meant]

/-- What single tokens of a condition come to. -/
theorem check_laws (r : Registry) (list : String) :
    (∀ name, IsLiteral name → ∀ data,
      r.check list name = .ok ((⟨list, data⟩ : Subject).has name) ∧
      r.check list ("!" ++ name) = .ok (!(⟨list, data⟩ : Subject).has name)) ∧
    (∀ tests : List String, 2 ≤ tests.length → (∀ s ∈ tests, IsSigned s) →
      ∃ holds : String → Bool, (∀ s ∈ tests, r.check list s = .ok (holds s)) ∧
        r.check list ("|".intercalate tests) = .ok (tests.any holds)) ∧
    ∀ base, IsWord base → '|' ∉ base.toList → (r.find? base).isSome →
      r.check list (base ++ "+") = .ok (decide (r.level base ≤ r.level list)) := by
  refine ⟨fun name h data => check_literal h list data, ?_, ?_⟩
  · intro tests many h
    exact ⟨fun s => (Term.parse s).holds (r.active list),
      fun s hs => check_of_isSigned (h s hs) list,
      check_anyOf many h list⟩
  · intro base h bar known
    obtain ⟨t, meant⟩ := Option.isSome_iff_exists.1 known
    have threshold : Clause.IsThreshold (base ++ "+") base := ⟨by simpa using bar, rfl⟩
    rw [level_of_isWord h meant]
    exact check_of_isThreshold (isWord_plus h.2) threshold meant list

theorem check_laws_clinic :
    (IsLiteral "Ärzt" ∧ nurse.has "Ärzt" = true ∧
      clinic.check nurse.tags "Ärzt" = .ok true ∧ clinic.check nurse.tags "!Ärzt" = .ok false) ∧
    ((∀ s ∈ ["ghost", "!NURSE", "!x+!y"], IsSigned s) ∧
      ∃ holds : String → Bool,
        (∀ s ∈ ["ghost", "!NURSE", "!x+!y"], clinic.check nurse.tags s = .ok (holds s)) ∧
        clinic.check nurse.tags "ghost|!NURSE|!x+!y" =
          .ok (["ghost", "!NURSE", "!x+!y"].any holds)) ∧
    (clinic.find? "ä").isSome ∧
      clinic.check nurse.tags "ä+" = .ok (decide (clinic.level "ä" ≤ clinic.level nurse.tags)) := by
  obtain ⟨literals, alternatives, thresholds⟩ := check_laws clinic nurse.tags
  have literal : IsLiteral "Ärzt" := by decide
  have held : nurse.has "Ärzt" = true := by decide +kernel
  have signed : ∀ s ∈ ["ghost", "!NURSE", "!x+!y"], IsSigned s := by
    intro s hs
    simp only [List.mem_cons, List.not_mem_nil, or_false] at hs
    rcases hs with rfl | rfl | rfl
    · exact .inl (by decide)
    · exact .inr ⟨"NURSE", by decide, by decide⟩
    · exact .inr ⟨"x+!y", by decide, by decide⟩
  have known : (clinic.find? "ä").isSome := by decide +kernel
  have joined : "|".intercalate ["ghost", "!NURSE", "!x+!y"] = "ghost|!NURSE|!x+!y" := by decide
  have negated : "!" ++ "Ärzt" = "!Ärzt" := by decide
  have threshold : "ä" ++ "+" = "ä+" := by decide
  have verdicts := literals "Ärzt" literal nurse.data
  have whole : (⟨nurse.tags, nurse.data⟩ : Subject) = nurse := rfl
  rw [negated, whole, held] at verdicts
  rw [← joined, ← threshold]
  exact ⟨⟨literal, held, verdicts⟩, ⟨signed, alternatives _ (by decide) signed⟩, known,
    thresholds "ä" (by decide) (by decide) known⟩

end Registry

end TagRights
