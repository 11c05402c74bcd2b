import TagRights.Proofs.Subject.Ledgers

namespace TagRights

open Text Directive

namespace Working

variable {r : Registry}

/-- The list after some directives: what they spare, and behind it what they grant for good. -/
theorem exists_run_list (ds : List Directive) (w : Working) :
    let kept := w.list.tags.filter fun t => ds.all fun d => !d.revokes r (lowercase t)
    ∃ gained : List String, (run r ds w).list.tags = kept ++ gained ∧
      (∀ k, k ∈ gained ↔ k ∉ kept.map lowercase ∧ gains r k ds) ∧
      gained.Pairwise (fun a b => gainPlace r a ds < gainPlace r b ds) := by
  intro kept
  obtain ⟨gained, run, spec⟩ := r.tagLedger.run_eq ds w.list.tags
  have same : gained.filterMap r.tagLedger.fresh? = gained := List.filterMap_some
  refine ⟨gained, by rw [run_list, run, same]; rfl, ?_, spec.ordered⟩
  intro k
  rw [spec.mem_iff]
  by_cases hk : gains r k ds
  · obtain ⟨token, t, -, meant, rfl⟩ := exists_grant_of_gains hk
    have low := r.lowercase_name _ (Registry.mem_of_find? meant)
    have free : kept.any (sameName · t.name) = false ↔ t.name ∉ kept.map lowercase := by
      simp [low]
    simp only [hk, and_true]
    exact (and_iff_right rfl).trans free
  · simp [hk]

/-- Which tags are on the list in the end, up to case. -/
theorem mem_run_list_iff (ds : List Directive) (w : Working) (k : String) :
    k ∈ (run r ds w).list.tags.map lowercase ↔
      (k ∈ w.list.tags.map lowercase ∧ ∀ d ∈ ds, d.revokes r k = false) ∨ gains r k ds := by
  obtain ⟨gained, list, mem_iff, -⟩ := exists_run_list ds w
  have names : gained.map lowercase = gained := by
    refine (List.map_congr_left fun j hj => ?_).trans (List.map_id gained)
    obtain ⟨token, t, -, meant, rfl⟩ := exists_grant_of_gains ((mem_iff j).1 hj).2
    exact r.lowercase_name _ (Registry.mem_of_find? meant)
  have kept :
      k ∈ (w.list.tags.filter fun t => ds.all fun d => !d.revokes r (lowercase t)).map lowercase ↔
        k ∈ w.list.tags.map lowercase ∧ ∀ d ∈ ds, d.revokes r k = false := by
    simp only [List.mem_map, List.mem_filter, List.all_eq_true, Bool.not_eq_true']
    constructor
    · rintro ⟨t, ⟨mem, free⟩, rfl⟩
      exact ⟨⟨t, mem, rfl⟩, free⟩
    · rintro ⟨⟨t, mem, rfl⟩, free⟩
      exact ⟨t, ⟨mem, free⟩, rfl⟩
  rw [list, List.map_append, List.mem_append, names, mem_iff, kept]
  by_cases held : k ∈ w.list.tags.map lowercase ∧ ∀ d ∈ ds, d.revokes r k = false
  · exact iff_of_true (.inl held) (.inl held)
  · rw [and_iff_right held]

/-- The data after some directives: what they spare, and behind it what they grant for good. -/
theorem exists_run_data (hooks : r.HookFree) (ds : List Directive) (w : Working) :
    let kept := w.data.filter fun m => ds.all fun d => !d.revokes r (lowercase m.1)
    ∃ names : List String, (run r ds w).data = kept ++ names.filterMap r.payload? ∧
      (∀ k, k ∈ names ↔ (r.payload? k).isSome ∧ k ∉ kept.map Prod.fst ∧ gains r k ds) ∧
      names.Pairwise (fun a b => gainPlace r a ds < gainPlace r b ds) := by
  intro kept
  obtain ⟨names, run, spec⟩ := r.dataLedger.run_eq ds w.data
  refine ⟨names, by rw [run_data hooks, run]; rfl, ?_, spec.ordered⟩
  intro k
  have free : kept.any (·.1 == k) = false ↔ k ∉ kept.map Prod.fst := by
    rw [← Bool.not_eq_true, List.any_eq_true, List.mem_map]
    simp only [beq_iff_eq]
  rw [← free]
  exact spec.mem_iff k

end Working

namespace Registry

/-- The tags that were there and are not revoked, and then those that are granted after their last
revoke, in the order of these grants. -/
theorem set_tags (r : Registry) (hr : r.WordNames) (s : Subject) (e : String) :
    let ds := parseAll e
    let kept := (TagList.firsts (words s.tags)).filter fun t =>
      ds.all fun d => !d.revokes r (lowercase t)
    ∃ gained : List String,
      (r.set s e).tags = " ".intercalate (kept ++ gained) ∧
      (∀ k, k ∈ gained ↔ k ∉ kept.map lowercase ∧ gains r k ds) ∧
      gained.Pairwise (fun a b => gainPlace r a ds < gainPlace r b ds) ∧
      words (r.set s e).tags = kept ++ gained ∧
      ((words (r.set s e).tags).map lowercase).Nodup ∧
      (∀ k ∈ gained, ∃ token t, grant token ∈ ds ∧ r.find? token = some t ∧ t.name = k) ∧
      (∀ t ∈ words s.tags, (∀ d ∈ ds, d.revokes r (lowercase t) = false) →
        ∃ u ∈ words (r.set s e).tags, lowercase u = lowercase t) := by
  intro ds kept
  obtain ⟨gained, list, mem_iff, ordered⟩ :=
    Working.exists_run_list ds (Working.ofSubject s)
  have start : (Working.ofSubject s).list.tags = TagList.firsts (words s.tags) :=
    TagList.tags_ofText s.tags
  rw [start] at list mem_iff
  have tags : words (r.set s e).tags = kept ++ gained := (words_tags_set hr s e).trans list
  refine ⟨gained, ?_, mem_iff, ordered, tags, ?_, ?_, ?_⟩
  · exact congrArg (" ".intercalate ·) list
  · rw [tags, ← list]
    exact TagList.distinct _
  · intro k hk
    exact exists_grant_of_gains ((mem_iff k).1 hk).2
  · intro t ht untouched
    obtain ⟨u, hu, same⟩ := TagList.exists_mem_firsts ht
    refine ⟨u, ?_, same⟩
    rw [tags, List.mem_append]
    left
    exact List.mem_filter.2 ⟨hu, by simpa [same] using untouched⟩

theorem set_tags_clinic : clinic.WordNames ∧
    (clinic.set nurse handover).tags = "Nurse staff idle ärzt" ∧
    ((words (clinic.set nurse handover).tags).map lowercase).Nodup := by
  have names : clinic.WordNames := by decide +kernel
  obtain ⟨gained, -, -, -, -, distinct, -⟩ := set_tags clinic names nurse handover
  exact ⟨names, by decide +kernel, distinct⟩

/-- The data that was there and is not revoked, as it was, and then that of the tags granted after
their last revoke, in the order of these grants. -/
theorem set_data (r : Registry) (hooks : r.HookFree) (s : Subject) (e : String) :
    let ds := parseAll e
    let kept := s.data.filter fun m => ds.all fun d => !d.revokes r (lowercase m.1)
    ∃ gained : DataBag,
      (r.set s e).data = kept ++ gained ∧
      (∀ k v, (k, v) ∈ gained ↔
        (∃ t ∈ r.tags, t.name = k ∧ ∃ members, t.data = some members ∧ v = .obj members) ∧
          k ∉ kept.map Prod.fst ∧ gains r k ds) ∧
      gained.Pairwise (fun a b => gainPlace r a.1 ds < gainPlace r b.1 ds) := by
  intro ds kept
  obtain ⟨names, data, mem_iff, ordered⟩ :=
    Working.exists_run_data hooks ds (Working.ofSubject s)
  refine ⟨names.filterMap r.payload?, data, ?_, ?_⟩
  · intro k v
    simp only [List.mem_filterMap, payload?_eq_some_iff]
    constructor
    · rintro ⟨name, hname, t, ht, rfl, members, hm, eq⟩
      obtain ⟨rfl, rfl⟩ := Prod.mk.inj eq
      exact ⟨⟨t, ht, rfl, members, hm, rfl⟩, ((mem_iff _).1 hname).2⟩
    · rintro ⟨⟨t, ht, rfl, members, hm, rfl⟩, settled⟩
      have made := (payload?_eq_some_iff).2 ⟨t, ht, rfl, members, hm, rfl⟩
      exact ⟨t.name, (mem_iff _).2 ⟨by rw [made]; rfl, settled⟩, t, ht, rfl, members, hm, rfl⟩
  · rw [List.pairwise_filterMap]
    apply ordered.imp
    intro a b before m hm n hn
    rw [fst_of_payload? hm, fst_of_payload? hn]
    exact before

theorem set_data_clinic : clinic.HookFree ∧
    (clinic.set nurse handover).data.map Prod.fst = ["Idle", "idle", "ärzt"] ∧
    ∃ gained : DataBag,
      (clinic.set nurse handover).data.map Prod.fst = "Idle" :: gained.map Prod.fst ∧
      gained.Pairwise fun a b => gainPlace clinic a.1 (parseAll handover) <
        gainPlace clinic b.1 (parseAll handover) := by
  have hooks : clinic.HookFree := by decide +kernel
  obtain ⟨gained, data, -, ordered⟩ := set_data clinic hooks nurse handover
  have kept : (nurse.data.filter fun m =>
      (parseAll handover).all fun d => !d.revokes clinic (lowercase m.1)).map Prod.fst =
        ["Idle"] := by decide +kernel
  refine ⟨hooks, by decide +kernel, gained, ?_, ordered⟩
  rw [data, List.map_append, kept]
  rfl

end Registry

end TagRights
