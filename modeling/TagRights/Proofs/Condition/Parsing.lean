import TagRights.Condition
import TagRights.Proofs.Text.Signs

namespace TagRights

open Text

theorem isWord_bang {name : String} (h : ∀ c ∈ name.toList, isBlank c = false) :
    IsWord ("!" ++ name) := by
  have sign : isBlank '!' = false := rfl
  have mem : '!' ∈ ("!" ++ name).toList := by simp
  exact isWord_of_mem mem (by simpa [sign] using h)

theorem isWord_plus {base : String} (h : ∀ c ∈ base.toList, isBlank c = false) :
    IsWord (base ++ "+") := by
  have sign : isBlank '+' = false := rfl
  have mem : '+' ∈ (base ++ "+").toList := by simp
  refine isWord_of_mem mem fun c hc => ?_
  rw [String.toList_append, List.mem_append] at hc
  rcases hc with hc | hc
  · exact h c hc
  · rw [List.mem_singleton.1 hc]
    exact sign

theorem getLast?_bang_iff (name : String) :
    ("!" ++ name).toList.getLast? = some '+' ↔ name.toList.getLast? = some '+' := by
  have chars : ("!" ++ name).toList = '!' :: name.toList := by simp
  rw [chars]
  cases name.toList with
  | nil => simp
  | cons c cs => rw [List.getLast?_cons_cons]

namespace Term

theorem parse_bang (name : String) : parse ("!" ++ name) = ⟨lowercase name, true⟩ := by
  rw [parse, afterFirst?_bang]

theorem parse_of_head?_ne {token : String} (h : token.toList.head? ≠ some '!') :
    parse token = ⟨lowercase token, false⟩ := by
  rw [parse, afterFirst?_eq_none_iff.2 h]

/-- Either a bang stands before the name or the whole token is the name. -/
theorem parse_cases (token : String) :
    (∃ name, token = "!" ++ name ∧ parse token = ⟨lowercase name, true⟩) ∨
      (token.toList.head? ≠ some '!' ∧ parse token = ⟨lowercase token, false⟩) := by
  by_cases head : token.toList.head? = some '!'
  · obtain ⟨rest, chars⟩ := List.head?_eq_some_iff.1 head
    have eq : token = "!" ++ String.ofList rest := by
      rw [← String.toList_inj, chars]
      simp
    exact .inl ⟨String.ofList rest, eq, eq ▸ parse_bang _⟩
  · exact .inr ⟨head, parse_of_head?_ne head⟩

end Term

namespace Clause

/-- A threshold: without a bar, and with a plus behind the base. -/
def IsThreshold (token base : String) : Prop :=
  '|' ∉ token.toList ∧ token = base ++ "+"

instance (token base : String) : Decidable (IsThreshold token base) :=
  inferInstanceAs (Decidable (_ ∧ _))

theorem parse_of_mem_bar {token : String} (h : '|' ∈ token.toList) :
    parse token = .anyOf ((splitAt '|' token).map Term.parse) := by
  rw [parse, if_pos (List.contains_iff_mem.2 h)]

/-- Two or more texts with bars between them, as alternatives. -/
theorem parse_intercalate {parts : List String} (many : 2 ≤ parts.length)
    (h : ∀ part ∈ parts, '|' ∉ part.toList) :
    parse ((String.singleton '|').intercalate parts) = .anyOf (parts.map Term.parse) := by
  have nonempty : parts ≠ [] := by
    rintro rfl
    simp at many
  rw [parse_of_mem_bar (separator_mem_intercalate many), splitAt_intercalate nonempty h]

theorem parse_of_isThreshold {token base : String} (h : IsThreshold token base) :
    parse token = .atLeast base := by
  obtain ⟨bar, rfl⟩ := h
  have sign : beforeLast? '+' (base ++ "+") = some base := by
    rw [beforeLast?_eq_some_iff]
    simp
  rw [parse, if_neg (mt List.contains_iff_mem.1 bar), sign]

theorem parse_of_getLast?_ne {token : String} (bar : '|' ∉ token.toList)
    (plus : token.toList.getLast? ≠ some '+') : parse token = .member (Term.parse token) := by
  rw [parse, if_neg (mt List.contains_iff_mem.1 bar), beforeLast?_eq_none_iff.2 plus]

/-- A token is a choice of tests, a threshold or a single test. -/
theorem parse_cases (token : String) :
    ('|' ∈ token.toList ∧ parse token = .anyOf ((splitAt '|' token).map Term.parse)) ∨
      (∃ base, IsThreshold token base ∧ parse token = .atLeast base) ∨
      ('|' ∉ token.toList ∧ token.toList.getLast? ≠ some '+' ∧
        parse token = .member (Term.parse token)) := by
  by_cases bar : '|' ∈ token.toList
  · exact .inl ⟨bar, parse_of_mem_bar bar⟩
  · by_cases plus : token.toList.getLast? = some '+'
    · obtain ⟨front, chars⟩ := List.getLast?_eq_some_iff.1 plus
      have threshold : IsThreshold token (String.ofList front) := by
        refine ⟨bar, ?_⟩
        rw [← String.toList_inj, chars]
        simp
      exact .inr (.inl ⟨String.ofList front, threshold, parse_of_isThreshold threshold⟩)
    · exact .inr (.inr ⟨bar, plus, parse_of_getLast?_ne bar plus⟩)

/-- The thresholds are the tokens without bars that end in a plus. -/
theorem parse_eq_atLeast_iff {token base : String} :
    parse token = .atLeast base ↔ IsThreshold token base := by
  constructor
  · intro h
    rcases parse_cases token with ⟨-, eq⟩ | ⟨base', threshold, eq⟩ | ⟨-, -, eq⟩
    · rw [eq] at h
      contradiction
    · rw [eq, Clause.atLeast.injEq] at h
      exact h ▸ threshold
    · rw [eq] at h
      contradiction
  · exact parse_of_isThreshold

end Clause

theorem Condition.parse_of_isWord {token : String} (h : IsWord token) :
    parse token = ⟨[Clause.parse token]⟩ := by
  rw [parse, words_of_isWord h, List.map_singleton]

end TagRights
