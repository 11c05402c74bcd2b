import Mathlib.Control.Monad.Basic
import TagRights.Condition
import TagRights.Proofs.Condition.Parsing
import TagRights.Proofs.Subject.Composition
import TagRights.Proofs.Text.Words

namespace TagRights

open Text Clause

namespace Verdict

/-- Two verdicts as one: the failure of the first, else that of the second, else whether both hold.
-/
def both : Except Failure Bool → Except Failure Bool → Except Failure Bool
  | .error f, _ => .error f
  | .ok _, .error f => .error f
  | .ok a, .ok b => .ok (a && b)

theorem both_ok_true (x : Except Failure Bool) : both x (.ok true) = x := by
  cases x with
  | error f => rfl
  | ok a => rw [both, Bool.and_true]

theorem both_assoc (x y z : Except Failure Bool) : both (both x y) z = both x (both y z) := by
  cases x with
  | error f => rfl
  | ok a =>
    cases y with
    | error f => rfl
    | ok b =>
      cases z with
      | error f => rfl
      | ok c => simp only [both, Bool.and_assoc]

theorem both_eq_ok_true_iff {x y : Except Failure Bool} :
    both x y = .ok true ↔ x = .ok true ∧ y = .ok true := by
  cases x with
  | error f => simp [both]
  | ok a => cases y <;> simp [both]

end Verdict

open Verdict

namespace Clause

variable {r : Registry} {active : Active} {c : Clause} {cs : List Clause} {f : Failure}

/-- Only a threshold fails, and only over a base that means no tag. -/
theorem evaluate_eq_error_iff : c.evaluate r active = .error f ↔
    ∃ base, c = .atLeast base ∧ r.find? base = none ∧ f = .unknownThreshold base := by
  cases c with
  | anyOf terms => simp [evaluate]
  | atLeast base =>
    cases meant : r.find? base with
    | none => simp [evaluate, meant, eq_comm]
    | some t => simp [evaluate, meant]
  | member t => simp [evaluate]

theorem exists_evaluate_eq_ok (h : ∀ base, c = .atLeast base → ∃ t, r.find? base = some t) :
    ∃ holds, c.evaluate r active = .ok holds := by
  cases verdict : c.evaluate r active with
  | ok holds => exact ⟨holds, rfl⟩
  | error f =>
    obtain ⟨base, rfl, unknown, -⟩ := evaluate_eq_error_iff.1 verdict
    obtain ⟨t, known⟩ := h base rfl
    rw [known] at unknown
    contradiction

theorem evaluateAll_cons (c : Clause) (cs : List Clause) :
    evaluateAll r active (c :: cs) = both (c.evaluate r active) (evaluateAll r active cs) := by
  rw [evaluateAll]
  cases c.evaluate r active with
  | error f => rfl
  | ok a => cases evaluateAll r active cs <;> rfl

theorem evaluateAll_singleton (c : Clause) :
    evaluateAll r active [c] = c.evaluate r active := by
  rw [evaluateAll_cons, evaluateAll, both_ok_true]

theorem evaluateAll_append (as bs : List Clause) : evaluateAll r active (as ++ bs) =
    both (evaluateAll r active as) (evaluateAll r active bs) := by
  induction as with
  | nil =>
    rw [List.nil_append, evaluateAll]
    cases evaluateAll r active bs <;> rfl
  | cons a as ih => rw [List.cons_append, evaluateAll_cons, evaluateAll_cons, ih, both_assoc]

/-- Clauses of which none fails come to whether all of them hold. -/
theorem evaluateAll_of_ok (h : ∀ c ∈ cs, ∃ holds, c.evaluate r active = .ok holds) :
    ∃ holds, evaluateAll r active cs = .ok holds ∧
      (holds = true ↔ ∀ c ∈ cs, c.evaluate r active = .ok true) := by
  induction cs with
  | nil => exact ⟨true, rfl, by simp⟩
  | cons c cs ih =>
    obtain ⟨first, hfirst⟩ := h c List.mem_cons_self
    obtain ⟨others, hothers, all⟩ := ih fun d hd => h d (List.mem_cons_of_mem _ hd)
    refine ⟨first && others, by rw [evaluateAll_cons, hfirst, hothers, both], ?_⟩
    rw [Bool.and_eq_true, all, List.forall_mem_cons, hfirst, Except.ok.injEq]

theorem evaluateAll_eq_ok_true_iff : evaluateAll r active cs = .ok true ↔
    ∀ c ∈ cs, c.evaluate r active = .ok true := by
  induction cs with
  | nil => simp [evaluateAll]
  | cons c cs ih => rw [evaluateAll_cons, both_eq_ok_true_iff, ih, List.forall_mem_cons]

/-- The first failure counts, whatever the clauses after it come to. -/
theorem evaluateAll_of_error {before after : List Clause}
    (h : ∀ b ∈ before, ∃ holds, b.evaluate r active = .ok holds)
    (hc : c.evaluate r active = .error f) :
    evaluateAll r active (before ++ c :: after) = .error f := by
  obtain ⟨holds, verdict, -⟩ := evaluateAll_of_ok h
  rw [evaluateAll_append, evaluateAll_cons, verdict, hc]
  rfl

end Clause

namespace Registry

/-- Every threshold among the tokens has a base that means a tag. -/
def Knows (r : Registry) (tokens : List String) : Prop :=
  ∀ token ∈ tokens, ∀ base, IsThreshold token base → ∃ t, r.find? base = some t

instance (r : Registry) (tokens : List String) : Decidable (r.Knows tokens) :=
  decidable_of_iff
    (tokens.all fun token => match Clause.parse token with
      | .atLeast base => (r.find? base).isSome
      | _ => true) <| by
    rw [List.all_eq_true]
    apply forall₂_congr
    intro token _
    simp only [← parse_eq_atLeast_iff]
    cases Clause.parse token <;> simp [Option.isSome_iff_exists]

theorem knows_cons_iff {r : Registry} {token : String} {tokens : List String} :
    r.Knows (token :: tokens) ↔
      (∀ base, IsThreshold token base → ∃ t, r.find? base = some t) ∧ r.Knows tokens :=
  List.forall_mem_cons

/-- The leftmost threshold whose base means no tag has this base. -/
def FirstUnknown (r : Registry) (tokens : List String) (base : String) : Prop :=
  ∃ before token after, tokens = before ++ token :: after ∧ r.Knows before ∧
    IsThreshold token base ∧ r.find? base = none

variable {r : Registry}

theorem exists_evaluate_parse {tokens : List String} (h : r.Knows tokens) (active : Active) :
    ∀ c ∈ tokens.map Clause.parse, ∃ holds, c.evaluate r active = .ok holds := by
  intro c hc
  obtain ⟨token, mem, rfl⟩ := List.mem_map.1 hc
  apply exists_evaluate_eq_ok
  intro base eq
  exact h token mem base (parse_eq_atLeast_iff.1 eq)

/-- Either all bases mean tags or there is a leftmost one that does not. -/
theorem knows_or_exists_firstUnknown (r : Registry) (tokens : List String) :
    r.Knows tokens ∨ ∃ base, r.FirstUnknown tokens base := by
  induction tokens with
  | nil => exact .inl fun token mem => absurd mem List.not_mem_nil
  | cons token tokens ih =>
    -- What is unknown further right counts only if this token is no such threshold itself.
    by_cases first : ∀ base, IsThreshold token base → ∃ t, r.find? base = some t
    · rcases ih with known | ⟨base, before, other, after, rfl, known, unknown⟩
      · exact .inl (knows_cons_iff.2 ⟨first, known⟩)
      · exact .inr ⟨base, token :: before, other, after, rfl, knows_cons_iff.2 ⟨first, known⟩,
          unknown⟩
    · obtain ⟨base, threshold, unknown⟩ : ∃ base, IsThreshold token base ∧ r.find? base = none := by
        simpa [← Option.ne_none_iff_exists'] using first
      exact .inr ⟨base, [], token, tokens, rfl, by simp [Knows], threshold, unknown⟩

theorem check_of_isWord {token : String} (h : IsWord token) (list : String) :
    r.check list token = (Clause.parse token).evaluate r (r.active list) := by
  rw [check, Condition.parse_of_isWord h, evaluateAll_singleton]

theorem check_of_isThreshold {token base : String} {t : Tag} (h : IsWord token)
    (threshold : IsThreshold token base) (meant : r.find? base = some t) (list : String) :
    r.check list token = .ok (decide (t.level ≤ r.level list)) := by
  rw [check_of_isWord h, parse_of_isThreshold threshold, Clause.evaluate, meant]
  rfl

/-- A condition whose bases mean tags is met exactly if each of its tokens is. -/
theorem check_of_knows {e : String} (h : r.Knows (words e)) (list : String) :
    ∃ holds, r.check list e = .ok holds ∧
      (holds = true ↔ ∀ token ∈ words e, r.check list token = .ok true) := by
  obtain ⟨holds, verdict, all⟩ := evaluateAll_of_ok (exists_evaluate_parse h (r.active list))
  refine ⟨holds, verdict, all.trans ?_⟩
  rw [List.forall_mem_map]
  apply forall₂_congr
  intro token mem
  rw [check_of_isWord (isWord_of_mem_words mem)]

/-- A condition fails over the leftmost base that means no tag. -/
theorem check_of_firstUnknown {e base : String} (h : r.FirstUnknown (words e) base)
    (list : String) : r.check list e = .error (.unknownThreshold base) := by
  obtain ⟨before, token, after, tokens, known, threshold, unknown⟩ := h
  have fails : (Clause.parse token).evaluate r (r.active list) =
      .error (.unknownThreshold base) :=
    evaluate_eq_error_iff.2 ⟨base, parse_of_isThreshold threshold, unknown, rfl⟩
  rw [check, Condition.parse, tokens, List.map_append, List.map_cons]
  exact evaluateAll_of_error (exists_evaluate_parse known _) fails

/-- A condition that is written behind another adds its verdict. -/
theorem check_append_space (list e₁ e₂ : String) :
    r.check list (e₁ ++ " " ++ e₂) = both (r.check list e₁) (r.check list e₂) := by
  simp only [check, Condition.parse, words_append_space, List.map_append, evaluateAll_append]

/-- A condition fails exactly if it has a threshold whose base means no tag, and then over the
leftmost of these, whatever the list is. If it does not fail, it holds when all its tokens do. So
two conditions side by side come to both verdicts, of which the first failure counts. -/
theorem check_conjunction (r : Registry) (list e : String) :
    (∀ f, r.check list e = .error f ↔
      ∃ base, f = .unknownThreshold base ∧ r.FirstUnknown (words e) base) ∧
    ((∃ f, r.check list e = .error f) ↔
      ∃ token ∈ words e, ∃ base, IsThreshold token base ∧ r.find? base = none) ∧
    (r.Knows (words e) → ∃ holds, r.check list e = .ok holds ∧
      (holds = true ↔ ∀ token ∈ words e, r.check list token = .ok true)) ∧
    ∀ e₂, r.check list (e ++ " " ++ e₂) = both (r.check list e) (r.check list e₂) := by
  have reported (f : Failure) : r.check list e = .error f ↔
      ∃ base, f = .unknownThreshold base ∧ r.FirstUnknown (words e) base := by
    constructor
    · intro failed
      rcases knows_or_exists_firstUnknown r (words e) with known | ⟨base, first⟩
      · obtain ⟨holds, verdict, -⟩ := check_of_knows known list
        rw [failed] at verdict
        contradiction
      · rw [check_of_firstUnknown first list, Except.error.injEq] at failed
        exact ⟨base, failed.symm, first⟩
    · rintro ⟨base, rfl, first⟩
      exact check_of_firstUnknown first list
  refine ⟨reported, ?_, fun known => check_of_knows known list, check_append_space list e⟩
  constructor
  · rintro ⟨f, failed⟩
    obtain ⟨base, -, before, token, after, tokens, -, unknown⟩ := (reported f).1 failed
    exact ⟨token, by simp [tokens], base, unknown⟩
  · rintro ⟨token, mem, base, threshold, unknown⟩
    rcases knows_or_exists_firstUnknown r (words e) with known | ⟨base, first⟩
    · obtain ⟨t, meant⟩ := known token mem base threshold
      rw [meant] at unknown
      contradiction
    · exact ⟨_, check_of_firstUnknown first list⟩

theorem check_conjunction_clinic :
    clinic.check nurse.tags "ghost staff+ x+|+ !staff+ y+" = .error (.unknownThreshold "!staff") ∧
    clinic.Knows (words "NURSE s+ y+|!ghost ärzt+") ∧
    ∃ holds, clinic.check nurse.tags "NURSE s+ y+|!ghost ärzt+" = .ok holds ∧ holds = true := by
  have known : clinic.Knows (words "NURSE s+ y+|!ghost ärzt+") := by decide +kernel
  have first : clinic.FirstUnknown (words "ghost staff+ x+|+ !staff+ y+") "!staff" :=
    ⟨["ghost", "staff+", "x+|+"], "!staff+", ["y+"], by decide +kernel, by decide +kernel,
      by decide +kernel, by decide +kernel⟩
  obtain ⟨-, -, settled, -⟩ := check_conjunction clinic nurse.tags "NURSE s+ y+|!ghost ärzt+"
  obtain ⟨holds, verdict, all⟩ := settled known
  exact ⟨((check_conjunction clinic nurse.tags _).1 _).2 ⟨_, rfl, first⟩, known, holds, verdict,
    all.2 (by decide +kernel)⟩

end Registry

end TagRights
