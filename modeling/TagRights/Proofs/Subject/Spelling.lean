import Mathlib.Data.List.Nodup
import TagRights.Proofs.Subject.Ledgers

namespace TagRights

open Text Directive

/-- Distinct keys stay distinct exactly if a kept entry that has the key of a tag never stands
beside an entry that the tag gains: something that is kept must have kept it out. -/
theorem Ledger.nodup_run_iff {r : Registry} {α : Type} (l : Ledger r α) (ds : List Directive)
    {entries : List α} (distinct : (entries.map l.key).Nodup) :
    ((ds.foldl l.step entries).map l.key).Nodup ↔
      ∀ k, (l.fresh? k).isSome → gains r k ds →
        ∀ a ∈ l.kept ds entries, l.key a = k → (l.kept ds entries).any (l.blocks k) := by
  obtain ⟨names, run, gained⟩ := l.run_eq ds entries
  have old : ((l.kept ds entries).map l.key).Nodup :=
    distinct.sublist (List.filter_sublist.map _)
  rw [run, List.map_append, gained.map_key, List.nodup_append, and_iff_right old,
    and_iff_right gained.nodup, List.forall_mem_map]
  constructor
  · intro apart k makes settled a ha own
    by_contra free
    exact apart a ha k ((gained.mem_iff k).2 ⟨makes, Bool.eq_false_iff.2 free, settled⟩) own
  · intro blocked a ha k hk own
    obtain ⟨makes, free, settled⟩ := (gained.mem_iff k).1 hk
    rw [blocked k makes settled a ha own] at free
    contradiction

/-- Whether no name is there twice up to case. -/
def DataBag.Distinct (bag : DataBag) : Prop :=
  (bag.map (lowercase ·.1)).Nodup

instance (bag : DataBag) : Decidable bag.Distinct := inferInstanceAs (Decidable (List.Nodup _))

namespace Registry

variable {r : Registry}

theorem isSome_payload?_iff {k : String} : (r.payload? k).isSome ↔
    ∃ t ∈ r.tags, t.name = k ∧ t.data.isSome := by
  simp only [Option.isSome_iff_exists, payload?_eq_some_iff]
  constructor
  · rintro ⟨m, t, ht, own, members, hm, -⟩
    exact ⟨t, ht, own, members, hm⟩
  · rintro ⟨t, ht, own, members, hm⟩
    exact ⟨_, t, ht, own, members, hm, rfl⟩

/-- An expression adds no second spelling of a name to the data, unless it grants a tag with data
and never revokes it, while the data has another spelling of the tag's name. -/
theorem distinct_set_iff (r : Registry) (hooks : r.HookFree) (s : Subject)
    (distinct : s.data.Distinct) (e : String) :
    let ds := parseAll e
    (r.set s e).data.Distinct ↔
      ∀ t ∈ r.tags, t.data.isSome → (∃ d ∈ ds, d.grants r t.name) →
        (∀ d ∈ ds, d.revokes r t.name = false) →
        ∀ key ∈ s.data.map Prod.fst, lowercase key = t.name → key = t.name := by
  intro ds
  let l := r.dataLedger
  have mem_kept (m : String × Json) : m ∈ l.kept ds s.data ↔
      m ∈ s.data ∧ ∀ d ∈ ds, d.revokes r (lowercase m.1) = false := by
    simp only [Ledger.kept, List.mem_filter, List.all_eq_true, Bool.not_eq_true']
    rfl
  have data : (r.set s e).data = ds.foldl l.step s.data :=
    Working.run_data hooks ds (Working.ofSubject s)
  rw [data]
  refine (l.nodup_run_iff ds distinct).trans ?_
  constructor
  · rintro blocked t ht hasData ⟨d, hd, grants⟩ spared key hkey own
    obtain ⟨m, hm, rfl⟩ := List.mem_map.1 hkey
    have makes := (isSome_payload?_iff).2 ⟨t, ht, rfl, hasData⟩
    have stays := (mem_kept m).2 ⟨hm, own ▸ spared⟩
    obtain ⟨n, hn, blocks⟩ := List.any_eq_true.1
      (blocked t.name makes (gains_of_mem hd grants spared) m stays own)
    have spelled : n.1 = t.name := eq_of_beq blocks
    -- The given data has the name once, so what kept the entry out is this very member.
    have one : n = m := by
      apply List.inj_on_of_nodup_map distinct ((mem_kept n).1 hn).1 hm
      rw [spelled, own, r.lowercase_name t ht]
    rw [← one, spelled]
  · intro spelled k makes gained m hm own
    obtain ⟨t, ht, rfl, hasData⟩ := (isSome_payload?_iff).1 makes
    obtain ⟨there, spared⟩ := (mem_kept m).1 hm
    have same : m.1 = t.name := spelled t ht hasData (exists_grants_of_gains gained)
      (fun d hd => own ▸ spared d hd) m.1 (List.mem_map_of_mem there) own
    exact List.any_eq_true.2 ⟨m, hm, beq_iff_eq.2 same⟩

/-- A revoke before the grant makes room for the tag's own spelling. -/
theorem distinct_set_iff_clinic : clinic.HookFree ∧ nurse.data.Distinct ∧
    (clinic.set nurse "!IDLE idle s").data.map Prod.fst = ["Staff", "Ärzt", "idle"] ∧
    (clinic.set nurse "!IDLE idle s").data.Distinct ∧
    (clinic.set nurse "idle s").data.map Prod.fst = ["Staff", "Idle", "Ärzt", "idle"] ∧
    ¬(clinic.set nurse "idle s").data.Distinct := by
  have hooks : clinic.HookFree := by decide +kernel
  have distinct : nurse.data.Distinct := by decide +kernel
  have cleared := distinct_set_iff clinic hooks nurse distinct "!IDLE idle s"
  have doubled := distinct_set_iff clinic hooks nurse distinct "idle s"
  exact ⟨hooks, distinct, by decide +kernel, cleared.2 (by decide +kernel),
    by decide +kernel, mt doubled.1 (by decide +kernel)⟩

/-- Even data that has no name twice can come out with one name in two spellings. -/
theorem not_distinct_set : ¬∀ (r : Registry), r.HookFree →
    ∀ (s : Subject) (e : String), s.data.Distinct → (r.set s e).data.Distinct := by
  intro always
  have kept := always clinic (by decide +kernel)
    ⟨"", [("Idle", .int 1)]⟩ "idle" (by decide +kernel)
  exact absurd kept (by decide +kernel)

end Registry

end TagRights
