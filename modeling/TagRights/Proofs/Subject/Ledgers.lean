import TagRights.Proofs.Ledger
import TagRights.Proofs.Subject.Composition

namespace TagRights

open Text

namespace Registry

def tagLedger (r : Registry) : Ledger r String where
  key := lowercase
  blocks name := (sameName · name)
  fresh? := some
  key_of_blocks t ht a same := by rw [sameName_iff.1 same, r.lowercase_name t ht]
  key_fresh t ht a made := by rw [← Option.some.inj made, r.lowercase_name t ht]
  blocks_fresh t _ a made := by simp [← Option.some.inj made]

def dataLedger (r : Registry) : Ledger r (String × Json) where
  key m := lowercase m.1
  blocks name := (·.1 == name)
  fresh? := r.payload?
  key_of_blocks t ht m same := by rw [eq_of_beq same, r.lowercase_name t ht]
  key_fresh t ht m made := by rw [fst_of_payload? made, r.lowercase_name t ht]
  blocks_fresh t _ m made := by simp [fst_of_payload? made]

end Registry

namespace Working

variable {r : Registry}

/-- A directive does to the tag list what it does to its ledger. -/
theorem step_list (w : Working) (d : Directive) :
    (step r w d).list.tags = r.tagLedger.step w.list.tags d := by
  cases d with
  | grant token =>
    cases meant : r.find? token with
    | none =>
      rw [step_grant_of_unknown meant]
      simp [Ledger.step, meant]
    | some t =>
      rw [step_grant_list meant]
      simp [Ledger.step, meant, Ledger.enter, Registry.tagLedger, TagList.tags_insert, TagList.has]
  | revoke name =>
    cases meant : r.find? name with
    | none =>
      rw [step_revoke_list_of_unknown meant]
      simp [Ledger.step, Registry.tagLedger, Directive.revokes_of_unknown meant,
        TagList.tags_remove, sameName]
    | some t =>
      have low := r.lowercase_name t (Registry.mem_of_find? meant)
      rw [step_revoke_list meant]
      simp [Ledger.step, Registry.tagLedger, Directive.revokes_of_meant meant,
        TagList.tags_remove, sameName, low, Bool.and_comm]

theorem addData_data {t : Tag} (ht : t ∈ r.tags) (w : Working) :
    (addData t w).data = r.dataLedger.enter t.name w.data := by
  have made : r.dataLedger.fresh? t.name = t.data.map fun members => (t.name, .obj members) :=
    Registry.payload?_name ht
  have blocked : w.data.any (r.dataLedger.blocks t.name) = w.data.has t.name := rfl
  rw [addData, Ledger.enter, made, blocked]
  cases t.data with
  | none => rfl
  | some members =>
    cases taken : w.data.has t.name with
    | true => rfl
    | false => exact Members.put_of_not_has taken _

/-- Where no tag has a hook, a directive does to the data what it does to its ledger. -/
theorem step_data (hooks : r.HookFree) (w : Working) (d : Directive) :
    (step r w d).data = r.dataLedger.step w.data d := by
  cases d with
  | grant token =>
    cases meant : r.find? token with
    | none => simp [step, Ledger.step, meant]
    | some t =>
      have ht := Registry.mem_of_find? meant
      simp [step, Ledger.step, meant, grant, (hooks t ht).1, runHook, addData_data ht]
  | revoke name =>
    cases meant : r.find? name with
    | none =>
      simp [step, Ledger.step, meant, Registry.dataLedger, Directive.revokes_of_unknown,
        drop, DataBag.without, sameName]
    | some t =>
      have ht := Registry.mem_of_find? meant
      have low := r.lowercase_name t ht
      simp [step, Ledger.step, meant, Registry.dataLedger, Directive.revokes_of_meant meant,
        (hooks t ht).2, runHook, drop, DataBag.without, sameName, low, Bool.and_comm]

theorem run_list (ds : List Directive) (w : Working) :
    (run r ds w).list.tags = ds.foldl r.tagLedger.step w.list.tags := by
  induction ds generalizing w with
  | nil => rfl
  | cons d ds ih => rw [List.foldl_cons, ← step_list]; exact ih _

theorem run_data (hooks : r.HookFree) (ds : List Directive) (w : Working) :
    (run r ds w).data = ds.foldl r.dataLedger.step w.data := by
  induction ds generalizing w with
  | nil => rfl
  | cons d ds ih => rw [List.foldl_cons, ← step_data hooks]; exact ih _

end Working

end TagRights
