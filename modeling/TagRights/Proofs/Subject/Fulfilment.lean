import TagRights.Proofs.Condition.Laws
import TagRights.Proofs.Subject.Outcome

namespace TagRights

open Text Directive

namespace Subject

theorem has_iff (s : Subject) (name : String) :
    s.has name ↔ lowercase name ∈ s.tagNames.map lowercase := by
  simp [has]

end Subject

namespace Registry

variable {r : Registry}

/-- Without bars and final plusses, a condition tests for each of its tokens. -/
theorem check_eq_true_iff {e : String}
    (plain : ∀ token ∈ words e, '|' ∉ token.toList ∧ token.toList.getLast? ≠ some '+')
    (list : String) : r.check list e = .ok true ↔
      ∀ token ∈ words e, (Term.parse token).holds (r.active list) := by
  have parsed : ∀ token ∈ words e, Clause.parse token = .member (Term.parse token) :=
    fun token mem => Clause.parse_of_getLast?_ne (plain token mem).1 (plain token mem).2
  rw [check, Clause.evaluateAll_eq_ok_true_iff, Condition.parse, List.forall_mem_map]
  apply forall₂_congr
  intro token mem
  rw [parsed token mem, Clause.evaluate, Except.ok.injEq]

/-- What an expression leaves a subject with, up to case. -/
theorem has_set_iff {s : Subject} {e : String}
    (wordy : (Working.run r (parseAll e) (Working.ofSubject s)).list.OfWords) (name : String) :
    (r.set s e).has name ↔
      (lowercase name ∈ (TagList.ofText s.tags).tags.map lowercase ∧
        ∀ d ∈ parseAll e, d.revokes r (lowercase name) = false) ∨
      gains r (lowercase name) (parseAll e) := by
  have names : (r.set s e).tagNames =
      (Working.run r (parseAll e) (Working.ofSubject s)).list.tags := TagList.words_text wordy
  rw [Subject.has_iff, names]
  exact Working.mem_run_list_iff _ _ _

section

variable {e : String}
  (known : ∀ token ∈ words e, token.toList.head? ≠ some '!' → lowercase token ∈ r.names)

include known

theorem exists_find?_of_grant {token : String} (mem : grant token ∈ parseAll e) :
    ∃ t, r.find? token = some t ∧ t.name = lowercase token := by
  obtain ⟨inside, head⟩ := grant_mem_parseAll_iff.1 mem
  obtain ⟨t, ht, own⟩ := List.mem_map.1 (known token inside head)
  exact ⟨t, find?_of_lowercase_eq ht (isWord_of_mem_words inside).1 own.symm, own⟩

/-- The names that are granted are those that are written. -/
theorem exists_token_of_grants {d : Directive} (hd : d ∈ parseAll e) {k : String}
    (granted : d.grants r k) :
    ∃ token ∈ words e, token.toList.head? ≠ some '!' ∧ lowercase token = k := by
  obtain ⟨token, t, rfl, meant, rfl⟩ := grants_iff.1 granted
  obtain ⟨inside, head⟩ := grant_mem_parseAll_iff.1 hd
  obtain ⟨u, found, own⟩ := exists_find?_of_grant known hd
  rw [meant, Option.some.injEq] at found
  exact ⟨token, inside, head, by rw [← own, found]⟩

/-- The list keeps to words even if other names in the registry are no words. -/
theorem ofWords_run_of_known (s : Subject) :
    (Working.run r (parseAll e) (Working.ofSubject s)).list.OfWords := by
  apply Working.ofWords_run_of_grants (TagList.ofWords_ofText s.tags)
  intro d hd k granted
  obtain ⟨token, inside, -, rfl⟩ := exists_token_of_grants known hd granted
  exact (isWord_of_mem_words inside).lowercase

variable (settled : ∀ token ∈ words e, token.toList.head? ≠ some '!' →
  ∀ name, "!" ++ name ∈ words e → lowercase token ≠ lowercase name ∧
    ∀ t, r.find? name = some t → lowercase token ≠ t.name)

include settled

/-- What is granted and not taken back is held. -/
theorem has_set_of_granted (s : Subject) {token : String} (mem : token ∈ words e)
    (head : token.toList.head? ≠ some '!') : (r.set s e).has token := by
  have written := grant_mem_parseAll_iff.2 ⟨mem, head⟩
  obtain ⟨t, found, own⟩ := exists_find?_of_grant known written
  have granted : (grant token).grants r (lowercase token) :=
    grants_iff.2 ⟨token, t, rfl, found, own⟩
  have kept : ∀ d ∈ parseAll e, d.revokes r (lowercase token) = false := by
    intro d hd
    cases d with
    | grant other => rfl
    | revoke name =>
      have apart := settled token mem head name (revoke_mem_parseAll_iff.1 hd)
      exact revoke_revokes_eq_false_iff.2 apart
  rw [has_set_iff (ofWords_run_of_known known s)]
  exact .inr (gains_of_mem written granted kept)

/-- What is taken back and not granted is not held. -/
theorem not_has_set_of_revoked (s : Subject) {name : String}
    (mem : "!" ++ name ∈ words e) : ¬(r.set s e).has name := by
  rw [has_set_iff (ofWords_run_of_known known s)]
  rintro (⟨-, kept⟩ | gained)
  · have struck := kept _ (revoke_mem_parseAll_iff.2 mem)
    exact (revoke_revokes_eq_false_iff.1 struck).1 rfl
  · -- Only a later grant could bring the name back, and none grants it.
    obtain ⟨d, hd, granted⟩ := exists_grants_of_gains gained
    obtain ⟨token, inside, head, same⟩ := exists_token_of_grants known hd granted
    exact (settled token inside head name mem).1 same

end

/-- Who is granted names of tags by an expression that takes none of them back meets it as a
condition, whatever was held before. -/
theorem check_set (r : Registry) (s : Subject) (e : String)
    (plain : ∀ token ∈ words e, '|' ∉ token.toList ∧ token.toList.getLast? ≠ some '+')
    (known : ∀ token ∈ words e, token.toList.head? ≠ some '!' → lowercase token ∈ r.names)
    (settled : ∀ token ∈ words e, token.toList.head? ≠ some '!' →
      ∀ name, "!" ++ name ∈ words e → lowercase token ≠ lowercase name ∧
        ∀ t, r.find? name = some t → lowercase token ≠ t.name) :
    r.check (r.set s e).tags e = .ok true := by
  rw [check_eq_true_iff plain]
  intro token mem
  rcases Term.parse_cases token with ⟨name, rfl, parsed⟩ | ⟨head, parsed⟩
  · have gone := not_has_set_of_revoked known settled s mem
    rw [parsed, Term.holds, contains_active _ _ (r.set s e).data]
    simpa using gone
  · have held := has_set_of_granted known settled s mem head
    rw [parsed, Term.holds, contains_active _ _ (r.set s e).data]
    simpa using held

/-- Names in any case and one of them twice, a revoke by code, and bangs before what is no name. -/
def posting : String := "STAFF !!x ! Ärzt !i staff"

/-- A registry with hooks, and with a name that can never stand in a list. -/
def annex : Registry := watchedClinic.add { name := "Night shift", code := "n" }

def relief : Subject := ⟨"Idle !X Nurse", [("Idle", .int 1)]⟩

theorem check_set_annex : annex.check relief.tags posting = .ok false ∧
    (annex.set relief posting).tags = "Nurse staff ärzt" ∧
    annex.check (annex.set relief posting).tags posting = .ok true := by
  have plain : ((words posting).all fun token =>
      !token.toList.contains '|' && token.toList.getLast? != some '+') = true := by decide +kernel
  have known : ((words posting).all fun token => token.toList.head? == some '!' ||
      annex.names.contains (lowercase token)) = true := by decide +kernel
  have settled : ((words posting).all fun token => token.toList.head? == some '!' ||
      (parseAll posting).all fun d => !d.revokes annex (lowercase token)) = true := by
    decide +kernel
  refine ⟨by decide +kernel, by decide +kernel,
    check_set annex relief posting ?_ ?_ ?_⟩
  · simpa using plain
  · intro token mem head
    simpa [head] using List.all_eq_true.1 known token mem
  · intro token mem head name mem'
    have kept : (parseAll posting).all fun d => !d.revokes annex (lowercase token) := by
      simpa [head] using List.all_eq_true.1 settled token mem
    have apart := List.all_eq_true.1 kept _ (revoke_mem_parseAll_iff.2 mem')
    exact revoke_revokes_eq_false_iff.1 (by simpa using apart)

end Registry

end TagRights
