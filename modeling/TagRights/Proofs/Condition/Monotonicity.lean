import TagRights.Proofs.Condition.Conjunction

namespace TagRights

open Text

/-- Whether all that `a` has is also had by `b`. -/
structure Active.Within (a b : Active) : Prop where
  names : a.names ⊆ b.names
  level : a.level ≤ b.level

/-- The tests for tags in a clause. -/
def Clause.terms : Clause → List Term
  | anyOf terms => terms
  | atLeast _ => []
  | member term => [term]

/-- Whether no test is negated. A bang before a threshold negates nothing, since it belongs to the
base. -/
def Condition.IsPositive (c : Condition) : Prop :=
  ∀ clause ∈ c.clauses, ∀ t ∈ clause.terms, t.negated = false

instance (c : Condition) : Decidable c.IsPositive :=
  inferInstanceAs (Decidable (∀ clause ∈ c.clauses, ∀ t ∈ clause.terms, _))

section

variable {a b : Active}

theorem Term.holds_mono (h : a.Within b) {t : Term} (positive : t.negated = false)
    (holds : t.holds a) : t.holds b := by
  rw [Term.holds, positive, Bool.bne_false, List.contains_iff_mem] at holds ⊢
  exact h.names holds

/-- Activity with the same names, in whatever order and number, passes the same tests. -/
theorem Term.holds_congr (h : a.Within b) (h' : b.Within a) (t : Term) :
    t.holds a = t.holds b := by
  have same : a.names.contains t.name = b.names.contains t.name := by
    rw [Bool.eq_iff_iff, List.contains_iff_mem, List.contains_iff_mem]
    exact ⟨(h.names ·), (h'.names ·)⟩
  rw [Term.holds, Term.holds, same]

namespace Clause

variable {r : Registry} {c : Clause} {cs : List Clause}

/-- A clause without negations that is met stays met when there is more to meet it with. -/
theorem evaluate_mono (h : a.Within b) (positive : ∀ t ∈ c.terms, t.negated = false)
    (met : c.evaluate r a = .ok true) : c.evaluate r b = .ok true := by
  cases c with
  | anyOf terms =>
    rw [evaluate, Except.ok.injEq, List.any_eq_true] at met ⊢
    obtain ⟨t, ht, holds⟩ := met
    exact ⟨t, ht, t.holds_mono h (positive t ht) holds⟩
  | atLeast base =>
    cases meant : r.find? base with
    | none => simp [evaluate, meant] at met
    | some tag =>
      have reached : tag.level ≤ a.level := by simpa [evaluate, meant] using met
      simpa [evaluate, meant] using reached.trans h.level
  | member t =>
    rw [evaluate, Except.ok.injEq] at met ⊢
    exact t.holds_mono h (positive t List.mem_cons_self) met

theorem evaluate_congr_active (h : a.Within b) (h' : b.Within a) (c : Clause) :
    c.evaluate r a = c.evaluate r b := by
  cases c with
  | anyOf terms => rw [evaluate, evaluate, funext (Term.holds_congr h h')]
  | atLeast base => rw [evaluate, evaluate, le_antisymm h.level h'.level]
  | member t => rw [evaluate, evaluate, t.holds_congr h h']

theorem evaluateAll_congr_active (h : a.Within b) (h' : b.Within a) (cs : List Clause) :
    evaluateAll r a cs = evaluateAll r b cs := by
  induction cs with
  | nil => rfl
  | cons c cs ih => rw [evaluateAll_cons, evaluateAll_cons, evaluate_congr_active h h', ih]

end Clause

end

namespace Registry

variable {r : Registry} {list list' : String}

theorem level_le_iff {n : Nat} : r.level list ≤ n ↔ ∀ t ∈ r.resolve list, t.level ≤ n := by
  rw [level]
  induction r.resolve list with
  | nil => simp
  | cons t ts ih => rw [List.map_cons, List.foldr_cons, Nat.max_le, ih, List.forall_mem_cons]

/-- More words can only raise the level. -/
theorem level_mono (h : words list ⊆ words list') : r.level list ≤ r.level list' := by
  rw [level_le_iff]
  intro t ht
  exact level_le_iff.1 le_rfl t (List.filterMap_subset _ h ht)

theorem active_within (h : words list ⊆ words list') :
    (r.active list).Within (r.active list') :=
  ⟨List.map_subset _ h, level_mono h⟩

/-- Only the set of its words counts in a tag list. And words that are added to it cost no
permission that was granted without a negation. -/
theorem check_of_words (r : Registry) (list list' e : String) :
    ((∀ token, token ∈ words list ↔ token ∈ words list') →
      r.check list e = r.check list' e ∧ r.level list = r.level list') ∧
    (words list ⊆ words list' → (Condition.parse e).IsPositive →
      r.check list e = .ok true → r.check list' e = .ok true) := by
  constructor
  · intro same
    have there : words list ⊆ words list' := fun token => (same token).1
    have back : words list' ⊆ words list := fun token => (same token).2
    exact ⟨Clause.evaluateAll_congr_active (active_within there) (active_within back) _,
      le_antisymm (level_mono there) (level_mono back)⟩
  · intro more positive met
    rw [check, Clause.evaluateAll_eq_ok_true_iff] at met ⊢
    intro c hc
    exact Clause.evaluate_mono (active_within more) (positive c hc) (met c hc)

theorem check_of_words_clinic :
    (∀ token, token ∈ words "ÄRZT staff" ↔ token ∈ words "staff\tÄRZT  staff ") ∧
    clinic.check "ÄRZT staff" "!IDLE s+ x|!Staff|ärzt" =
      clinic.check "staff\tÄRZT  staff " "!IDLE s+ x|!Staff|ärzt" ∧
    clinic.check "ÄRZT staff" "!IDLE s+ x|!Staff|ärzt" = .ok true ∧
    clinic.check "staff\tÄRZT  staff " "s+ !Staff" = clinic.check "ÄRZT staff" "s+ !Staff" ∧
    clinic.check "ÄRZT staff" "s+ !Staff" = .ok false ∧
    clinic.check "staff\tÄRZT  staff " "x ghost+" = clinic.check "ÄRZT staff" "x ghost+" ∧
    clinic.check "ÄRZT staff" "x ghost+" = .error (.unknownThreshold "ghost") ∧
    clinic.level "staff\tÄRZT  staff " = 5 ∧
    words "ÄRZT staff" ⊆ words "idle staff ghost ÄRZT" ∧
    (Condition.parse "STAFF x|ärzt ä+").IsPositive ∧
    clinic.check "ÄRZT staff" "STAFF x|ärzt ä+" = .ok true ∧
    clinic.check "idle staff ghost ÄRZT" "STAFF x|ärzt ä+" = .ok true := by
  have short : words "ÄRZT staff" = ["ÄRZT", "staff"] := by decide +kernel
  have again : words "staff\tÄRZT  staff " = ["staff", "ÄRZT", "staff"] := by decide +kernel
  have long : words "idle staff ghost ÄRZT" = ["idle", "staff", "ghost", "ÄRZT"] := by
    decide +kernel
  have same : ∀ token, token ∈ words "ÄRZT staff" ↔ token ∈ words "staff\tÄRZT  staff " := by
    intro token
    simp only [short, again, List.mem_cons, List.not_mem_nil, or_false]
    tauto
  have more : words "ÄRZT staff" ⊆ words "idle staff ghost ÄRZT" := by
    simp [short, long]
  have positive : (Condition.parse "STAFF x|ärzt ä+").IsPositive := by decide +kernel
  have met : clinic.check "ÄRZT staff" "STAFF x|ärzt ä+" = .ok true := by decide +kernel
  have verdicts (e : String) := (check_of_words clinic _ _ e).1 same
  have level : clinic.level "ÄRZT staff" = 5 := by decide +kernel
  exact ⟨same, (verdicts _).1, by decide +kernel, (verdicts _).1.symm, by decide +kernel,
    (verdicts _).1.symm, by decide +kernel, (verdicts "").2.symm.trans level, more, positive, met,
    (check_of_words clinic _ _ _).2 more positive met⟩

end Registry

end TagRights
