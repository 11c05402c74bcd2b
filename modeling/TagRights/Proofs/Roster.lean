import Mathlib.Data.List.Fold
import Mathlib.Data.List.Nodup
import TagRights.Proofs.Condition.Conjunction
import TagRights.Proofs.Subject.Composition

namespace TagRights

open Text

namespace Working

variable {r : Registry} {w : Working}

/-- A directive brings nothing but names of tags into the list. -/
theorem named_step (h : ∀ n ∈ w.list.tags, n ∈ r.names) (d : Directive) :
    ∀ n ∈ (step r w d).list.tags, n ∈ r.names := by
  intro n hn
  cases d with
  | grant token =>
    cases meant : r.find? token with
    | none =>
      rw [step_grant_of_unknown meant] at hn
      exact h n hn
    | some t =>
      rw [step_grant_list meant] at hn
      rcases TagList.mem_insert hn with old | rfl
      · exact h n old
      · exact List.mem_map_of_mem (Registry.mem_of_find? meant)
  | revoke name =>
    apply h
    cases meant : r.find? name with
    | none =>
      rw [step_revoke_list_of_unknown meant] at hn
      exact (List.mem_filter.1 hn).1
    | some t =>
      rw [step_revoke_list meant] at hn
      exact (List.mem_filter.1 (List.mem_filter.1 hn).1).1

/-- Directives bring nothing but names of tags into the list. -/
theorem named_run (h : ∀ n ∈ w.list.tags, n ∈ r.names) (ds : List Directive) :
    ∀ n ∈ (run r ds w).list.tags, n ∈ r.names := by
  induction ds generalizing w with
  | nil => exact h
  | cons d ds ih => exact ih (named_step h d)

theorem not_mem_step_revoke {name : String} {t : Tag} (meant : r.find? name = some t) :
    t.name ∉ (step r w (.revoke name)).list.tags := by
  rw [step_revoke_list meant]
  exact TagList.not_mem_remove _ t.name

end Working

/-- The tags that a list comes to: it names each of them, they are registered, and they alone make
up its codes, its level and its standing against thresholds. -/
structure Held (r : Registry) (list : String) (held : List Tag) : Prop where
  names : held.map Tag.name = words list
  registered : ∀ t ∈ held, t ∈ r.tags ∧ r.find? t.name = some t
  codes : r.codes list = String.join (held.map Tag.code)
  level : r.level list = (held.map Tag.level).max?.getD 0
  threshold : ∀ token base t, IsWord token → Clause.IsThreshold token base →
    r.find? base = some t →
      r.check list token = .ok (decide (t.level ≤ (held.map Tag.level).max?.getD 0))

theorem foldr_max_eq (ns : List Nat) : ns.foldr max 0 = ns.max?.getD 0 := by
  rw [← List.foldl_eq_foldr, List.foldl_max, Nat.zero_max]

namespace Registry

variable {r : Registry} {list : String}

theorem find?_of_mem_names (hr : r.WordNames) {name : String}
    (mem : name ∈ r.names) : ∃ t ∈ r.tags, t.name = name ∧ r.find? name = some t := by
  obtain ⟨t, ht, rfl⟩ := List.mem_map.1 mem
  exact ⟨t, ht, rfl, find?_of_mem ht (hr t ht).1⟩

theorem map_name_filterMap_find? (hr : r.WordNames) {ns : List String}
    (named : ∀ n ∈ ns, n ∈ r.names) : (ns.filterMap r.find?).map Tag.name = ns := by
  induction ns with
  | nil => rfl
  | cons n ns ih =>
    obtain ⟨t, -, own, meant⟩ := find?_of_mem_names hr (named n List.mem_cons_self)
    rw [List.filterMap_cons_some meant, List.map_cons, own,
      ih fun m hm => named m (List.mem_cons_of_mem _ hm)]

/-- A list with names of tags only comes to the tags that its words mean. -/
theorem held_resolve (hr : r.WordNames) (named : ∀ n ∈ words list, n ∈ r.names) :
    Held r list (r.resolve list) := by
  have level : r.level list = ((r.resolve list).map Tag.level).max?.getD 0 := foldr_max_eq _
  refine ⟨map_name_filterMap_find? hr named, ?_, rfl, level, ?_⟩
  · intro t ht
    obtain ⟨n, -, meant⟩ := List.mem_filterMap.1 ht
    have mem := mem_of_find? meant
    exact ⟨mem, find?_of_mem mem (hr t mem).1⟩
  · intro token base t word threshold meant
    rw [check_of_isThreshold word threshold meant, level]

end Registry

/-- A registry and a tag list beside it. -/
structure Roster where
  registry : Registry
  list : String

namespace Roster

/-- What can happen to a roster. -/
inductive Event where
  | add (d : Definition)
  | extend (ds : List Definition)
  /-- An expression on the list, with whatever data beside it. -/
  | set (data : DataBag) (expression : String)

/-- Whether the names that are defined can stand in a tag list. -/
def Event.WordNames : Event → Prop
  | add d => IsWord d.name
  | extend ds => ∀ d ∈ ds, IsWord d.name
  | set _ _ => True

instance (e : Event) : Decidable e.WordNames :=
  match e with
  | .add d => inferInstanceAs (Decidable (IsWord d.name))
  | .extend ds => inferInstanceAs (Decidable (∀ d ∈ ds, IsWord d.name))
  | .set _ _ => inferInstanceAs (Decidable True)

def step (s : Roster) : Event → Roster
  | .add d => { s with registry := s.registry.add d }
  | .extend ds => { s with registry := s.registry.extend ds }
  | .set data e => { s with list := (s.registry.set ⟨s.list, data⟩ e).tags }

/-- The roster after some events. At first there is nothing. -/
def run (events : List Event) : Roster :=
  events.foldl step ⟨.empty, ""⟩

/-- The list holds names of registered tags, each once. -/
structure Sound (s : Roster) : Prop where
  wordNames : s.registry.WordNames
  distinct : (words s.list).Nodup
  named : ∀ n ∈ words s.list, n ∈ s.registry.names

namespace Sound

variable {s : Roster}

theorem add (h : s.Sound) {d : Definition} (hd : IsWord d.name) :
    Sound { s with registry := s.registry.add d } where
  wordNames := h.wordNames.add hd
  distinct := h.distinct
  named n hn := Registry.mem_names_add_iff.2 (.inl (h.named n hn))

theorem extend (h : s.Sound) {ds : List Definition} (hds : ∀ d ∈ ds, IsWord d.name) :
    Sound { s with registry := s.registry.extend ds } := by
  induction ds generalizing s with
  | nil => exact h
  | cons d ds ih =>
    have first := h.add (hds d List.mem_cons_self)
    exact ih first fun e he => hds e (List.mem_cons_of_mem _ he)

theorem set (h : s.Sound) (data : DataBag) (e : String) :
    Sound { s with list := (s.registry.set ⟨s.list, data⟩ e).tags } := by
  have result := Registry.words_tags_set h.wordNames ⟨s.list, data⟩ e
  have start : ∀ n ∈ (Working.ofSubject ⟨s.list, data⟩).list.tags, n ∈ s.registry.names := by
    intro n hn
    rw [Working.ofSubject, TagList.tags_ofText] at hn
    exact h.named n ((TagList.firsts_sublist _).mem hn)
  refine ⟨h.wordNames, ?_, ?_⟩
  · rw [result]
    exact List.Nodup.of_map lowercase (TagList.distinct _)
  · rw [result]
    exact Working.named_run start _

/-- Events that define words only keep the list to names of tags, each once. -/
theorem step (h : s.Sound) {e : Event} (he : e.WordNames) : (s.step e).Sound := by
  cases e with
  | add d => exact h.add he
  | extend ds => exact h.extend he
  | set data e => exact h.set data e

theorem foldl (h : s.Sound) {events : List Event} (he : ∀ e ∈ events, e.WordNames) :
    (events.foldl Roster.step s).Sound := by
  induction events generalizing s with
  | nil => exact h
  | cons e events ih =>
    exact ih (h.step (he e List.mem_cons_self)) fun d hd => he d (List.mem_cons_of_mem _ hd)

theorem empty : Sound ⟨.empty, ""⟩ :=
  ⟨by simp [Registry.WordNames, Registry.empty], by simp [words_empty],
    by simp [words_empty]⟩

theorem held (h : s.Sound) : Held s.registry s.list (s.registry.resolve s.list) :=
  Registry.held_resolve h.wordNames h.named

/-- If the last directive revokes a tag, no word of the list means it afterwards. -/
theorem find?_ne_of_revoke (h : s.Sound) (data : DataBag) {e name : String} {t : Tag}
    (last : (Directive.parseAll e).getLast? = some (.revoke name))
    (meant : s.registry.find? name = some t) :
    ∀ n ∈ words (s.registry.set ⟨s.list, data⟩ e).tags, s.registry.find? n ≠ some t := by
  intro n hn found
  -- A word that still meant the tag would be its name, and that was struck.
  have named := (h.set data e).named n hn
  obtain ⟨u, -, own, foundOwn⟩ := Registry.find?_of_mem_names h.wordNames named
  have same : u = t := Option.some.inj (foundOwn.symm.trans found)
  obtain ⟨ds, directives⟩ := List.getLast?_eq_some_iff.1 last
  rw [Registry.words_tags_set h.wordNames, directives, Working.run, List.foldl_append,
    List.foldl_cons, List.foldl_nil, ← own, same] at hn
  exact Working.not_mem_step_revoke meant hn

end Sound

/-- Whatever happens to a roster, its words are distinct, each is the name of a registered tag and
means it, and the list comes to these tags, none left out. A revoke at the end of an expression
takes its tag out of all that. -/
theorem held_run (events : List Event) (h : ∀ e ∈ events, e.WordNames) :
    let r := (run events).registry
    let list := (run events).list
    (words list).Nodup ∧
    (∀ n ∈ words list, ∃ t ∈ r.tags, t.name = n ∧ lowercase n = n ∧ r.find? n = some t ∧
      ∀ u ∈ r.tags, u.name = n → u = t) ∧
    (∃ held, Held r list held) ∧
    ∀ data e name t, (Directive.parseAll e).getLast? = some (.revoke name) →
      r.find? name = some t →
        let after := (r.set ⟨list, data⟩ e).tags
        (∀ n ∈ words after, r.find? n ≠ some t) ∧ ∃ held, Held r after held ∧ t ∉ held := by
  intro r list
  have sound : (run events).Sound := Sound.empty.foldl h
  refine ⟨sound.distinct, ?_, ⟨_, sound.held⟩, ?_⟩
  · intro n hn
    obtain ⟨t, ht, rfl, meant⟩ :=
      Registry.find?_of_mem_names sound.wordNames (sound.named n hn)
    exact ⟨t, ht, rfl, r.lowercase_name t ht, meant,
      fun u hu same => Registry.eq_of_name_eq hu ht same⟩
  · intro data e name t last meant after
    have gone := sound.find?_ne_of_revoke data last meant
    refine ⟨gone, r.resolve after, (sound.set data e).held, ?_⟩
    intro mem
    obtain ⟨n, hn, found⟩ := List.mem_filterMap.1 mem
    exact gone n hn found

/-- A code that becomes the name of another tag, a name that becomes a code, and codes that go out
of use. -/
def turns : List Event :=
  [.add { name := "Ärzt", code := "ä", level := some 4 },
   .extend [{ name := "staff", code := "s", level := some 5 }],
   .set [] "s ä ghost",
   .add { name := "Idle", code := "staff", level := some 9 },
   .extend [{ name := "STAFF", code := "idle", level := some 2 }],
   .set [("Idle", .null)] "!s idle !ä Ärzt"]

theorem held_run_turns :
    (∀ e ∈ turns, e.WordNames) ∧ (run turns).list = "staff idle ärzt" ∧
    (words (run turns).list).Nodup ∧
    (∃ held, Held (run turns).registry (run turns).list held) ∧
    ∃ t, (run turns).registry.find? "STAFF" = some t ∧
      ∃ held, Held (run turns).registry
        ((run turns).registry.set ⟨(run turns).list, []⟩ "ä !STAFF").tags held ∧ t ∉ held := by
  have names : ∀ e ∈ turns, e.WordNames := by decide +kernel
  have known : ((run turns).registry.find? "STAFF").isSome := by decide +kernel
  have last : (Directive.parseAll "ä !STAFF").getLast? = some (.revoke "STAFF") := by
    decide +kernel
  obtain ⟨t, meant⟩ := Option.isSome_iff_exists.1 known
  obtain ⟨distinct, -, held, revoked⟩ := held_run turns names
  exact ⟨names, by decide +kernel, distinct, held, t, meant, (revoked [] _ _ t last meant).2⟩

end Roster

end TagRights
