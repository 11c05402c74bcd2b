import TagRights.Proofs.Subject.Ledgers

namespace TagRights

open Text

/-- The list holds names of tags, and the data is what these tags put there, in this order. -/
structure Working.Paired (r : Registry) (w : Working) : Prop where
  named : ∀ n ∈ w.list.tags, ∃ t ∈ r.tags, t.name = n
  data_eq : w.data = w.list.tags.filterMap r.payload?

namespace Working

variable {r : Registry}

namespace Paired

/-- A tag enters the list unless its very name is there: no other spelling of it is. -/
theorem enter_list {w : Working} (hw : Paired r w) {t : Tag} (ht : t ∈ r.tags) :
    r.tagLedger.enter t.name w.list.tags =
      if t.name ∈ w.list.tags then w.list.tags else w.list.tags ++ [t.name] := by
  have held : w.list.tags.any (r.tagLedger.blocks t.name) ↔ t.name ∈ w.list.tags := by
    rw [List.any_eq_true]
    constructor
    · rintro ⟨n, hn, same⟩
      obtain ⟨u, hu, rfl⟩ := hw.named n hn
      have same := sameName_iff.1 same
      rw [r.lowercase_name u hu, r.lowercase_name t ht] at same
      exact same ▸ hn
    · intro hn
      exact ⟨t.name, hn, sameName_iff.2 rfl⟩
  simp only [← held]
  rfl

/-- The member of a tag enters the data exactly when the tag enters the list. -/
theorem enter_data {w : Working} (hw : Paired r w) (t : Tag) :
    r.dataLedger.enter t.name w.data =
      if t.name ∈ w.list.tags then w.data else w.data ++ (r.payload? t.name).toList := by
  have fresh : r.dataLedger.fresh? t.name = r.payload? t.name := rfl
  rw [Ledger.enter, fresh]
  cases made : r.payload? t.name with
  | none => simp
  | some m =>
    have held : w.data.any (r.dataLedger.blocks t.name) ↔ t.name ∈ w.list.tags := by
      rw [List.any_eq_true, hw.data_eq]
      constructor
      · rintro ⟨m', hm', same⟩
        obtain ⟨n, hn, made'⟩ := List.mem_filterMap.1 hm'
        rw [← eq_of_beq same, Registry.fst_of_payload? made']
        exact hn
      · intro hn
        refine ⟨m, List.mem_filterMap.2 ⟨t.name, hn, made⟩, ?_⟩
        exact beq_iff_eq.2 (Registry.fst_of_payload? made)
    simp only [held, Option.toList_some]

/-- A directive does the same on both sides. -/
theorem step (hooks : r.HookFree) {w : Working} (hw : Paired r w)
    (d : Directive) : Paired r (Working.step r w d) := by
  have list : (Working.step r w d).list.tags = r.tagLedger.step w.list.tags d := step_list w d
  have data := step_data hooks w d
  cases d with
  | revoke name =>
    constructor
    · intro n hn
      rw [list] at hn
      exact hw.named n (List.mem_filter.1 hn).1
    · rw [list, data, hw.data_eq]
      exact filter_filterMap_of_key (fun _ _ _ => Registry.fst_of_payload?)
        fun n => !(Directive.revoke name).revokes r (lowercase n)
  | grant token =>
    cases meant : r.find? token with
    | none =>
      simp only [Ledger.step, meant] at list data
      exact ⟨by rw [list]; exact hw.named, by rw [list, data]; exact hw.data_eq⟩
    | some t =>
      have ht := Registry.mem_of_find? meant
      simp only [Ledger.step, meant, hw.enter_list ht, hw.enter_data t] at list data
      by_cases held : t.name ∈ w.list.tags
      · rw [if_pos held] at list data
        exact ⟨by rw [list]; exact hw.named, by rw [list, data]; exact hw.data_eq⟩
      · rw [if_neg held] at list data
        constructor
        · intro n hn
          rw [list, List.mem_append, List.mem_singleton] at hn
          rcases hn with hn | rfl
          · exact hw.named n hn
          · exact ⟨t, ht, rfl⟩
        · rw [list, data, hw.data_eq, List.filterMap_append]
          cases made : r.payload? t.name <;> simp [made]

theorem run (hooks : r.HookFree) {w : Working} (hw : Paired r w)
    (ds : List Directive) : Paired r (Working.run r ds w) := by
  induction ds generalizing w with
  | nil => exact hw
  | cons d ds ih => exact ih (hw.step hooks d)

end Paired

end Working

namespace Registry

/-- What a sequence of expressions makes of a subject that begins with nothing can be read back as a
list and data that are in step. -/
theorem exists_paired (r : Registry) (hr : r.WordNames) (hooks : r.HookFree)
    (es : List String) : ∃ w : Working, w.list.OfWords ∧ w.Paired r ∧
      es.foldl r.set ⟨"", []⟩ = w.subject := by
  induction es using List.reverseRecOn with
  | nil => exact ⟨⟨.empty, []⟩, .empty, ⟨List.forall_mem_nil _, rfl⟩, rfl⟩
  | append_singleton es e ih =>
    obtain ⟨w, wordy, paired, eq⟩ := ih
    refine ⟨Working.run r (Directive.parseAll e) w, Working.ofWords_run hr wordy _,
      paired.run hooks _, ?_⟩
    rw [List.foldl_append, List.foldl_cons, List.foldl_nil, eq, set_eq,
      Working.ofSubject_subject wordy]

/-- After any sequence of expressions on a subject that began with nothing, the data holds what the
tags on the list put there, in the order of the list. -/
theorem data_of_tags (r : Registry) (hr : r.WordNames) (hooks : r.HookFree)
    (es : List String) :
    let s := es.foldl r.set ⟨"", []⟩
    s.data = s.tagNames.filterMap r.payload? := by
  intro s
  obtain ⟨w, wordy, paired, eq⟩ := exists_paired r hr hooks es
  have names : s.tagNames = w.list.tags := by
    rw [Subject.tagNames, show s = w.subject from eq]
    exact TagList.words_text wordy
  rw [names, ← paired.data_eq, show s = w.subject from eq]
  rfl

def week : List String := ["ä staff idle", "!Staff", handover, "s !ärzt Ärzt"]

theorem data_of_tags_clinic : clinic.WordNames ∧ clinic.HookFree ∧
    (week.foldl clinic.set ⟨"", []⟩).tags = "idle staff ärzt" ∧
    (week.foldl clinic.set ⟨"", []⟩).data =
      (week.foldl clinic.set ⟨"", []⟩).tagNames.filterMap clinic.payload? := by
  have names : clinic.WordNames := by decide +kernel
  have hooks : clinic.HookFree := by decide +kernel
  exact ⟨names, hooks, by decide +kernel, data_of_tags clinic names hooks week⟩

end Registry

end TagRights
