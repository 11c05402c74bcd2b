import TagRights.Proofs.Condition.Conjunction
import TagRights.Proofs.Subject.Composition

namespace TagRights

open Text

/-- The token that is granted or revoked. -/
def Directive.token : Directive → String
  | .grant token => token
  | .revoke name => name

variable {r r' : Registry}

namespace Clause

variable {active : Active} {cs : List Clause}

/-- A clause asks the registry for the base of a threshold only. -/
theorem evaluate_congr {c : Clause} (h : ∀ base, c = .atLeast base → r.find? base = r'.find? base) :
    c.evaluate r active = c.evaluate r' active := by
  cases c with
  | anyOf terms => rfl
  | atLeast base => rw [evaluate, evaluate, h base rfl]
  | member term => rfl

theorem evaluateAll_congr
    (h : ∀ c ∈ cs, ∀ base, c = .atLeast base → r.find? base = r'.find? base) :
    evaluateAll r active cs = evaluateAll r' active cs := by
  induction cs with
  | nil => rfl
  | cons c cs ih =>
    rw [evaluateAll_cons, evaluateAll_cons, evaluate_congr (h c List.mem_cons_self),
      ih fun d hd => h d (List.mem_cons_of_mem _ hd)]

end Clause

namespace Working

theorem step_congr {d : Directive} (h : r.find? d.token = r'.find? d.token) (w : Working) :
    step r w d = step r' w d := by
  cases d with
  | grant token =>
    have same : r.find? token = r'.find? token := h
    simp only [step, same]
  | revoke name =>
    have same : r.find? name = r'.find? name := h
    simp only [step, same]

theorem run_congr {ds : List Directive} (h : ∀ d ∈ ds, r.find? d.token = r'.find? d.token)
    (w : Working) : run r ds w = run r' ds w := by
  induction ds generalizing w with
  | nil => rfl
  | cons d ds ih =>
    rw [run, run, List.foldl_cons, List.foldl_cons, step_congr (h d List.mem_cons_self)]
    exact ih (fun e he => h e (List.mem_cons_of_mem _ he)) _

end Working

namespace Registry

section

variable {list : String} (h : ∀ token ∈ words list, r.find? token = r'.find? token)

include h

theorem resolve_congr : r.resolve list = r'.resolve list :=
  List.filterMap_congr h

theorem level_congr : r.level list = r'.level list := by
  rw [level, level, resolve_congr h]

theorem codes_congr : r.codes list = r'.codes list := by
  rw [codes, codes, resolve_congr h]

/-- A condition asks for the words of the tag list and for the bases of its thresholds only. -/
theorem check_congr {e : String} (bases : ∀ token ∈ words e, ∀ base,
    Clause.IsThreshold token base → r.find? base = r'.find? base) :
    r.check list e = r'.check list e := by
  have active : r.active list = r'.active list := by
    rw [Registry.active, Registry.active, level_congr h]
  rw [check, check, active]
  apply Clause.evaluateAll_congr
  intro c hc base threshold
  obtain ⟨token, mem, rfl⟩ := List.mem_map.1 hc
  exact bases token mem base (Clause.parse_eq_atLeast_iff.1 threshold)

end

/-- An expression asks for the tokens of its directives only. -/
theorem set_congr {e : String}
    (h : ∀ d ∈ Directive.parseAll e, r.find? d.token = r'.find? d.token) (s : Subject) :
    r.set s e = r'.set s e := by
  rw [set_eq, set_eq, Working.run_congr h]

end Registry

end TagRights
