import Mathlib.Logic.Function.Iterate
import TagRights.Proofs.Subject.Ledgers

namespace TagRights

/-- Whether none of the directives revokes this key. -/
def Directive.spared (r : Registry) (k : String) (ds : List Directive) : Bool :=
  ds.all fun d => !d.revokes r k

namespace Ledger

open Directive

variable {r : Registry} {α : Type} {l : Ledger r α} {ds : List Directive}

theorem mem_kept_iff {entries : List α} {a : α} :
    a ∈ l.kept ds entries ↔ a ∈ entries ∧ spared r (l.key a) ds :=
  List.mem_filter

namespace Gained

variable {entries kept : List α} {names names' : List String}

/-- The order of the names is that of the grants, so they are known once their members are. -/
theorem unique (h : l.Gained ds kept names) (h' : l.Gained ds kept names') : names = names' := by
  have same : names.Perm names' := by
    rw [List.perm_ext_iff_of_nodup h.nodup h'.nodup]
    intro k
    rw [h.mem_iff, h'.mem_iff]
  apply same.eq_of_pairwise _ h.ordered h'.ordered
  intro a b _ _ before after
  exact absurd before (lt_asymm after)

/-- What is kept of what a run leaves. -/
theorem kept_run (h : l.Gained ds (l.kept ds entries) names) :
    l.kept ds (l.kept ds entries ++ names.filterMap l.fresh?) =
      l.kept ds entries ++ (names.filter (spared r · ds)).filterMap l.fresh? := by
  have old : (l.kept ds entries).filter (fun a => spared r (l.key a) ds) = l.kept ds entries :=
    List.filter_eq_self.2 fun a ha => (mem_kept_iff.1 ha).2
  have new := filter_filterMap_of_key (fun _ hk _ made => h.key_of_fresh hk made)
    (spared r · ds)
  calc l.kept ds (l.kept ds entries ++ names.filterMap l.fresh?)
      = (l.kept ds entries).filter (fun a => spared r (l.key a) ds) ++
          (names.filterMap l.fresh?).filter (fun a => spared r (l.key a) ds) :=
        List.filter_append ..
    _ = l.kept ds entries ++ (names.filter (spared r · ds)).filterMap l.fresh? := by
        rw [old, new]

/-- What a second run adds again is what the first run added after a revoke. -/
theorem mem_again_iff (h : l.Gained ds (l.kept ds entries) names)
    (h' : l.Gained ds (l.kept ds (l.kept ds entries ++ names.filterMap l.fresh?)) names')
    (k : String) : k ∈ names' ↔ k ∈ names ∧ spared r k ds = false := by
  constructor
  · intro hk
    obtain ⟨makes, open', gained⟩ := (h'.mem_iff k).1 hk
    rw [List.any_eq_false] at open'
    have before : k ∈ names := by
      refine (h.mem_iff k).2 ⟨makes, List.any_eq_false.2 fun a ha => ?_, gained⟩
      exact open' a (mem_kept_iff.2 ⟨List.mem_append_left _ ha, (mem_kept_iff.1 ha).2⟩)
    refine ⟨before, Bool.eq_false_iff.2 fun spared => ?_⟩
    -- The entry of a name that is never revoked is still there and keeps out another.
    obtain ⟨a, made⟩ := Option.isSome_iff_exists.1 makes
    obtain ⟨t, ht, rfl⟩ := h.tag before
    have there : a ∈ names.filterMap l.fresh? := List.mem_filterMap.2 ⟨t.name, before, made⟩
    have stays := mem_kept_iff.2 ⟨List.mem_append_right (l.kept ds entries) there,
      (l.key_fresh t ht a made).symm ▸ spared⟩
    exact open' a stays (l.blocks_fresh t ht a made)
  · rintro ⟨before, touched⟩
    obtain ⟨makes, -, gained⟩ := (h.mem_iff k).1 before
    obtain ⟨t, ht, rfl⟩ := h.tag before
    refine (h'.mem_iff t.name).2 ⟨makes, List.any_eq_false.2 fun a ha blocks => ?_, gained⟩
    have spared := (mem_kept_iff.1 ha).2
    rw [l.key_of_blocks t ht a blocks, touched] at spared
    contradiction

end Gained

/-- The second run only changes the order of the entries, and the third not even that. -/
theorem run_again (l : Ledger r α) (ds : List Directive) (entries : List α) :
    let once := ds.foldl l.step entries
    let twice := ds.foldl l.step once
    twice.Perm once ∧ ds.foldl l.step twice = twice := by
  intro once twice
  obtain ⟨names, run, gained⟩ := l.run_eq ds entries
  obtain ⟨names', run', gained'⟩ := l.run_eq ds once
  obtain ⟨names'', run'', gained''⟩ := l.run_eq ds twice
  change once = _ at run
  change twice = _ at run'
  have again : ∀ k, k ∈ names' ↔ k ∈ names ∧ spared r k ds = false :=
    gained.mem_again_iff (run ▸ gained')
  constructor
  · have moved : names'.Perm (names.filter (!spared r · ds)) := by
      rw [List.perm_ext_iff_of_nodup gained'.nodup (gained.nodup.filter _)]
      intro k
      rw [again, List.mem_filter, Bool.not_eq_true']
    have kept' : l.kept ds once =
        l.kept ds entries ++ (names.filter (spared r · ds)).filterMap l.fresh? :=
      (congrArg (l.kept ds) run).trans gained.kept_run
    rw [run', kept', run, List.append_assoc, ← List.filterMap_append]
    apply List.Perm.append_left
    apply List.Perm.filterMap
    exact (moved.append_left _).trans (List.filter_append_perm _ names)
  · have none : names'.filter (spared r · ds) = [] := by
      rw [List.filter_eq_nil_iff]
      intro k hk
      rw [((again k).1 hk).2]
      exact Bool.false_ne_true
    have kept'' : l.kept ds twice = l.kept ds once := by
      rw [run', gained'.kept_run, none, List.filterMap_nil, List.append_nil]
    have same : names' = names'' := gained'.unique (kept'' ▸ gained'')
    rw [run'', kept'', ← same, ← run']

end Ledger

namespace Working

variable {r : Registry}

/-- The second run only changes the order, and the third not even that. -/
theorem run_again (hooks : r.HookFree) (ds : List Directive) (w : Working) :
    let once := run r ds w
    let twice := run r ds once
    twice.list.tags.Perm once.list.tags ∧ twice.data.Perm once.data ∧ run r ds twice = twice := by
  intro once twice
  obtain ⟨list, settledList⟩ := r.tagLedger.run_again ds w.list.tags
  obtain ⟨data, settledData⟩ := r.dataLedger.run_again ds w.data
  simp only [← run_list] at list settledList
  simp only [← run_data hooks] at data settledData
  exact ⟨list, data, congrArg₂ Working.mk (TagList.ext settledList) settledData⟩

end Working

namespace Registry

/-- The second time, an expression leaves the same tags and the same data, if in another order. From
then on it changes nothing. -/
theorem set_replay (r : Registry) (hr : r.WordNames) (hooks : r.HookFree)
    (s : Subject) (e : String) :
    let once := r.set s e
    let twice := r.set once e
    twice.tagNames.Perm once.tagNames ∧ twice.data.Perm once.data ∧ r.set twice e = twice ∧
      ∀ n, (fun s => r.set s e)^[n + 2] s = twice := by
  intro once twice
  have first := ofSubject_set hr s e
  have second := ofSubject_set hr once e
  obtain ⟨list, data, settled⟩ :=
    Working.run_again hooks (Directive.parseAll e) (Working.ofSubject s)
  rw [← first] at list data settled
  have fixed : r.set twice e = twice := by
    calc r.set twice e
        = (Working.run r (Directive.parseAll e) (Working.ofSubject twice)).subject := rfl
      _ = (Working.run r (Directive.parseAll e) (Working.ofSubject once)).subject := by
          rw [second, settled]
      _ = twice := rfl
  refine ⟨?_, data, fixed, ?_⟩
  · rw [Subject.tagNames, Subject.tagNames, words_tags_set hr, words_tags_set hr, ← first]
    exact list
  · intro n
    rw [Function.iterate_add_apply]
    exact Function.iterate_fixed fixed n

def trainee : Subject := ⟨"Nurse", [("STAFF", .int 2), ("Nurse", .null)]⟩

/-- Of the tags that it grants, this takes back two first. -/
def rotation : String := "!idle !Staff idle ä staff"

theorem set_replay_clinic : clinic.WordNames ∧ clinic.HookFree ∧
    (clinic.set trainee rotation).tags = "Nurse idle ärzt staff" ∧
    (clinic.set (clinic.set trainee rotation) rotation).tags = "Nurse ärzt idle staff" ∧
    (clinic.set (clinic.set trainee rotation) rotation).data.map Prod.fst =
      ["Nurse", "ärzt", "idle"] ∧
    (clinic.set (clinic.set trainee rotation) rotation).data.Perm
      (clinic.set trainee rotation).data ∧
    (fun s => clinic.set s rotation)^[7] trainee =
      clinic.set (clinic.set trainee rotation) rotation := by
  have names : clinic.WordNames := by decide +kernel
  have hooks : clinic.HookFree := by decide +kernel
  obtain ⟨-, data, -, later⟩ := set_replay clinic names hooks trainee rotation
  exact ⟨names, hooks, by decide +kernel, by decide +kernel, by decide +kernel, data,
    later 5⟩

end Registry

end TagRights
