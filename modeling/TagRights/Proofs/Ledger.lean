import TagRights.Proofs.Directive
import TagRights.Proofs.Registry

namespace TagRights

/-- Entries that are made from names, and go by them, can be filtered by them. -/
theorem filter_filterMap_of_key {α : Type} {make? : String → Option α} {key : α → String}
    {names : List String} (h : ∀ n ∈ names, ∀ a, make? n = some a → key a = n)
    (p : String → Bool) : (names.filterMap make?).filter (fun a => p (key a)) =
      (names.filter p).filterMap make? := by
  rw [List.filter_filterMap, List.filterMap_filter]
  apply List.filterMap_congr
  intro n hn
  cases made : make? n with
  | none => simp
  | some a => simp [Option.filter, h n hn a made]

/-- What a list of entries goes by under a registry. The entries of a tag must be known by its name
and keep out another entry of it. -/
structure Ledger (r : Registry) (α : Type) where
  /-- A revoke of this key strikes the entry. -/
  key : α → String
  /-- Whether the entry keeps out one of the tag with this name. -/
  blocks : String → α → Bool
  /-- The entry of the tag with this name, if it makes one. -/
  fresh? : String → Option α
  key_of_blocks : ∀ t ∈ r.tags, ∀ a, blocks t.name a → key a = t.name
  key_fresh : ∀ t ∈ r.tags, ∀ a ∈ fresh? t.name, key a = t.name
  blocks_fresh : ∀ t ∈ r.tags, ∀ a ∈ fresh? t.name, blocks t.name a

namespace Ledger

open Directive

variable {r : Registry} {α : Type} (l : Ledger r α)

def enter (name : String) (entries : List α) : List α :=
  match l.fresh? name with
  | some a => if entries.any (l.blocks name) then entries else entries ++ [a]
  | none => entries

def step (entries : List α) : Directive → List α
  | .grant token =>
    match r.find? token with
    | some t => l.enter t.name entries
    | none => entries
  | .revoke name => entries.filter fun a => !(revoke name).revokes r (l.key a)

/-- The entries that none of the directives revokes. -/
def kept (ds : List Directive) (entries : List α) : List α :=
  entries.filter fun a => ds.all fun d => !d.revokes r (l.key a)

/-- The names of the tags whose entries directives add to those that are kept, in order: each is
granted after its last revoke, and they go by the first such grant. -/
structure Gained (ds : List Directive) (kept : List α) (names : List String) : Prop where
  mem_iff : ∀ k, k ∈ names ↔
    (l.fresh? k).isSome ∧ kept.any (l.blocks k) = false ∧ gains r k ds
  ordered : names.Pairwise fun a b => gainPlace r a ds < gainPlace r b ds

theorem exists_tag_of_gains {k : String} {ds : List Directive} (h : gains r k ds) :
    ∃ t ∈ r.tags, t.name = k := by
  obtain ⟨token, t, -, meant, name⟩ := exists_grant_of_gains h
  exact ⟨t, Registry.mem_of_find? meant, name⟩

theorem kept_concat (ds : List Directive) (d : Directive) (entries : List α) :
    l.kept (ds ++ [d]) entries =
      (l.kept ds entries).filter fun a => !d.revokes r (l.key a) := by
  rw [kept, kept, List.filter_filter]
  apply List.filter_congr
  intro a _
  simp [Bool.and_comm]

namespace Gained

variable {l} {ds : List Directive} {kept : List α} {names : List String} {d : Directive}

theorem tag (h : l.Gained ds kept names) {k : String} (hk : k ∈ names) :
    ∃ t ∈ r.tags, t.name = k :=
  exists_tag_of_gains ((h.mem_iff k).1 hk).2.2

theorem nodup (h : l.Gained ds kept names) : names.Nodup :=
  h.ordered.imp fun before same => absurd (same ▸ before) (lt_irrefl _)

/-- Of the entries that were added, only that of the tag itself keeps out another. -/
theorem any_blocks_iff (h : l.Gained ds kept names) {t : Tag} (ht : t ∈ r.tags)
    (makes : (l.fresh? t.name).isSome) :
    (names.filterMap l.fresh?).any (l.blocks t.name) ↔ t.name ∈ names := by
  simp only [List.any_eq_true, List.mem_filterMap]
  constructor
  · rintro ⟨a, ⟨k, hk, made⟩, blocks⟩
    obtain ⟨u, hu, rfl⟩ := h.tag hk
    rw [← l.key_of_blocks t ht a blocks, l.key_fresh u hu a made]
    exact hk
  · intro hk
    obtain ⟨a, made⟩ := Option.isSome_iff_exists.1 makes
    exact ⟨a, ⟨t.name, hk, made⟩, l.blocks_fresh t ht a made⟩

theorem ordered_concat (h : l.Gained ds kept names) {rest : List String} (part : rest.Sublist names)
    (same : ∀ k ∈ rest, d.revokes r k = false) :
    rest.Pairwise fun a b => gainPlace r a (ds ++ [d]) < gainPlace r b (ds ++ [d]) := by
  have place : ∀ k ∈ rest, gainPlace r k (ds ++ [d]) = gainPlace r k ds := fun k hk =>
    gainPlace_concat_of_gains ((h.mem_iff k).1 (part.mem hk)).2.2 (same k hk)
  apply (h.ordered.sublist part).imp_of_mem
  intro a b ha hb before
  rw [place a ha, place b hb]
  exact before

/-- A directive that revokes nothing, and grants no tag whose entry is yet to be made, changes
nothing. -/
theorem idle (h : l.Gained ds kept names) (hd : ∀ k, d.revokes r k = false)
    (old : ∀ k, d.grants r k → (l.fresh? k).isSome → kept.any (l.blocks k) = false →
      gains r k ds) : l.Gained (ds ++ [d]) kept names := by
  refine ⟨fun k => ?_, h.ordered_concat (.refl _) fun k _ => hd k⟩
  rw [h.mem_iff, gains_concat, hd]
  constructor
  · rintro ⟨makes, free, gained⟩
    exact ⟨makes, free, by simp [gained]⟩
  · rintro ⟨makes, free, gained⟩
    refine ⟨makes, free, ?_⟩
    rcases (show gains r k ds ∨ d.grants r k by simpa using gained) with gained | granted
    · exact gained
    · exact old k granted makes free

/-- A key that is granted and has room comes last. -/
theorem enter (h : l.Gained ds kept names) {k : String} (hd : ∀ j, d.grants r j ↔ k = j)
    (makes : (l.fresh? k).isSome) (free : kept.any (l.blocks k) = false)
    (new : gains r k ds = false) : l.Gained (ds ++ [d]) kept (names ++ [k]) := by
  have keeps := revokes_eq_false_of_grants ((hd k).2 rfl)
  constructor
  · intro j
    rw [List.mem_append, List.mem_singleton, h.mem_iff, gains_concat, keeps]
    by_cases own : k = j
    · subst own
      simp [makes, free, (hd k).2 rfl]
    · have other : d.grants r j = false := by simpa using mt (hd j).1 own
      simp [other, Ne.symm own]
  · rw [List.pairwise_append]
    refine ⟨h.ordered_concat (.refl _) fun j _ => keeps j, by simp, ?_⟩
    intro a ha b hb
    have gained := ((h.mem_iff a).1 ha).2.2
    rw [List.mem_singleton.1 hb, gainPlace_concat_of_grants new ((hd k).2 rfl),
      gainPlace_concat_of_gains gained (keeps a)]
    exact gainPlace_lt gained

/-- A revoke takes its keys out of what was kept and out of what was gained. -/
theorem strike (h : l.Gained ds kept names) (hd : ∀ k, d.grants r k = false) :
    l.Gained (ds ++ [d]) (kept.filter fun a => !d.revokes r (l.key a))
      (names.filter fun k => !d.revokes r k) := by
  constructor
  · intro k
    rw [List.mem_filter, h.mem_iff, gains_concat, hd, Bool.or_false]
    cases gained : gains r k ds with
    | false => simp
    | true =>
      cases struck : d.revokes r k with
      | true => simp
      | false =>
        obtain ⟨t, ht, rfl⟩ := exists_tag_of_gains gained
        have same : (kept.filter fun a => !d.revokes r (l.key a)).any (l.blocks t.name) =
            kept.any (l.blocks t.name) := by
          rw [List.any_filter]
          congr 1
          funext a
          cases blocks : l.blocks t.name a with
          | false => simp
          | true => simp [l.key_of_blocks t ht a blocks, struck]
        simp [same]
  · apply h.ordered_concat List.filter_sublist
    intro k hk
    simpa using (List.mem_filter.1 hk).2

/-- What a key brings in has this key. -/
theorem key_of_fresh (h : l.Gained ds kept names) {k : String} (hk : k ∈ names) {a : α}
    (made : l.fresh? k = some a) : l.key a = k := by
  obtain ⟨t, ht, rfl⟩ := h.tag hk
  exact l.key_fresh t ht a made

/-- The entries that are added go by the names that they were made from. -/
theorem map_key (h : l.Gained ds kept names) : (names.filterMap l.fresh?).map l.key = names := by
  calc (names.filterMap l.fresh?).map l.key
      = names.filterMap fun k => (l.fresh? k).map l.key := List.map_filterMap
    _ = names.filterMap some := by
        apply List.filterMap_congr
        intro k hk
        obtain ⟨a, made⟩ := Option.isSome_iff_exists.1 ((h.mem_iff k).1 hk).1
        rw [made, Option.map_some, h.key_of_fresh hk made]
    _ = names := List.filterMap_some

/-- A grant adds the entry of its tag at the end, or finds it made or kept out. -/
theorem grant (h : l.Gained ds kept names) (token : String) :
    ∃ names', l.step (kept ++ names.filterMap l.fresh?) (.grant token) =
        kept ++ names'.filterMap l.fresh? ∧
      l.Gained (ds ++ [.grant token]) kept names' := by
  cases meant : r.find? token with
  | none =>
    exact ⟨names, by simp [step, meant],
      h.idle (fun _ => rfl) fun k granted => by simp [grants, meant] at granted⟩
  | some t =>
    have ht := Registry.mem_of_find? meant
    have only : ∀ k, (Directive.grant token).grants r k ↔ t.name = k := by simp [grants, meant]
    cases made : l.fresh? t.name with
    | none =>
      refine ⟨names, by simp [step, meant, Ledger.enter, made], h.idle (fun _ => rfl) ?_⟩
      intro k granted makes
      rw [← (only k).1 granted, made] at makes
      simp at makes
    | some a =>
      have makes : (l.fresh? t.name).isSome := by simp [made]
      by_cases taken : (kept ++ names.filterMap l.fresh?).any (l.blocks t.name)
      · refine ⟨names, by simp only [step, meant, Ledger.enter, made, if_pos taken],
          h.idle (fun _ => rfl) ?_⟩
        intro k granted _ free
        rw [← (only k).1 granted] at free ⊢
        rw [List.any_append, free, Bool.false_or, h.any_blocks_iff ht makes] at taken
        exact ((h.mem_iff _).1 taken).2.2
      · have last : [t.name].filterMap l.fresh? = [a] := by simp [made]
        refine ⟨names ++ [t.name], ?_, ?_⟩
        · simp only [step, meant, Ledger.enter, made, if_neg taken, List.filterMap_append, last,
            List.append_assoc]
        · rw [List.any_append, Bool.or_eq_true, not_or, h.any_blocks_iff ht makes] at taken
          have free : kept.any (l.blocks t.name) = false := by simpa using taken.1
          refine h.enter only makes free (Bool.eq_false_iff.2 fun gained => ?_)
          exact taken.2 ((h.mem_iff _).2 ⟨makes, free, gained⟩)

end Gained

/-- What directives leave of a ledger: the entries that they do not revoke, and behind them the
entries of the tags that they grant to the end. -/
theorem run_eq (ds : List Directive) (entries : List α) :
    ∃ names, ds.foldl l.step entries = l.kept ds entries ++ names.filterMap l.fresh? ∧
      l.Gained ds (l.kept ds entries) names := by
  -- The last directive is taken off, since what it does is told by `kept` and `Gained` before it.
  induction ds using List.reverseRecOn with
  | nil => exact ⟨[], by simp [kept], by simp [gains, sinceRevoke], .nil⟩
  | append_singleton ds d ih =>
    obtain ⟨names, run, gained⟩ := ih
    rw [List.foldl_append, List.foldl_cons, List.foldl_nil, run, kept_concat]
    cases d with
    | revoke name =>
      refine ⟨_, ?_, gained.strike fun _ => rfl⟩
      have entries := filter_filterMap_of_key (fun _ hk _ made => gained.key_of_fresh hk made)
        fun k => !(revoke name).revokes r k
      rw [step, List.filter_append, entries]
    | grant token =>
      have all : (l.kept ds entries).filter (fun a => !(grant token).revokes r (l.key a)) =
          l.kept ds entries := List.filter_eq_self.2 fun _ _ => rfl
      rw [all]
      exact gained.grant token

end Ledger

end TagRights
