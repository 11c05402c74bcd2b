import TagRights.Proofs.Lookup
import TagRights.Proofs.Subject.Composition

namespace TagRights

open Text

/-- What granting the tag does to the data. -/
def Tag.grantData (t : Tag) (bag : DataBag) : DataBag :=
  t.onGrant.getD id <|
    match t.data with
    | some members => if bag.has t.name then bag else bag.put t.name (.obj members)
    | none => bag

/-- What makes up the meaning of tokens: levels, data, locks and hooks are left out. -/
def Tag.label (t : Tag) : String × String :=
  (t.name, t.code)

namespace Directive

/-- The directive as it is for the tag list alone. A tag that is meant counts by its name. -/
def onList (r : Registry) (list : TagList) : Directive → TagList
  | grant token => ((r.find? token).map Tag.name).elim list list.insert
  | revoke name => ((r.find? name).map Tag.name).elim (list.remove name) (list.remove name).remove

/-- The directive as it is for the data alone. -/
def onData (r : Registry) (bag : DataBag) : Directive → DataBag
  | grant token =>
    match r.find? token with
    | some t => t.grantData bag
    | none => bag
  | revoke name =>
    match r.find? name with
    | some t => t.onRevoke.getD id ((bag.without name).without t.name)
    | none => bag.without name

end Directive

namespace Working

open Directive

theorem runHook_eq (hook : Option Hook) (w : Working) :
    runHook hook w = ⟨w.list, hook.getD id w.data⟩ := by
  cases hook <;> rfl

theorem grant_eq (w : Working) (t : Tag) :
    w.grant t = ⟨w.list.insert t.name, t.grantData w.data⟩ := by
  rw [grant, runHook_eq, addData_list, Tag.grantData, addData]
  cases t.data with
  | none => rfl
  | some members => cases w.data.has t.name <;> rfl

/-- A directive does one thing to the list and another to the data. -/
theorem step_eq (r : Registry) (w : Working) (d : Directive) :
    step r w d = ⟨onList r w.list d, onData r w.data d⟩ := by
  cases d with
  | grant token =>
    cases meant : r.find? token with
    | none => simp only [step, onList, onData, meant, Option.map_none, Option.elim_none]
    | some t => simp only [step, onList, onData, meant, grant_eq, Option.map_some, Option.elim_some]
  | revoke name =>
    cases meant : r.find? name with
    | none => simp only [step, onList, onData, meant, drop, Option.map_none, Option.elim_none]
    | some t =>
      simp only [step, onList, onData, meant, drop, runHook_eq, Option.map_some, Option.elim_some]

theorem run_halves (r : Registry) (ds : List Directive) (w : Working) :
    run r ds w = ⟨ds.foldl (onList r) w.list, ds.foldl (onData r) w.data⟩ := by
  induction ds generalizing w with
  | nil => rfl
  | cons d ds ih => rw [run, List.foldl_cons, step_eq]; exact ih _

end Working

namespace Registry

variable {r r' : Registry}

theorem tags_set (r : Registry) (s : Subject) (e : String) : (r.set s e).tags =
    ((Directive.parseAll e).foldl (Directive.onList r) (TagList.ofText s.tags)).text := by
  rw [set_eq, Working.run_halves]
  rfl

theorem data_set (r : Registry) (s : Subject) (e : String) :
    (r.set s e).data = (Directive.parseAll e).foldl (Directive.onData r) s.data := by
  rw [set_eq, Working.run_halves]
  rfl

/-- The labels of the tags are enough for a scan to find the label. -/
theorem map_label_scan? (tags : List Tag) (token : String) : (scan? tags token).map Tag.label =
    if token = "" then none
    else ((tags.map Tag.label).find? (·.1 == lowercase token)).or
      ((tags.map Tag.label).find? (·.2 == token)) := by
  rw [scan?, List.find?_map, List.find?_map]
  split
  · rfl
  · exact Option.map_or

/-- The labels of the tags decide which name a token means. -/
theorem map_name_find?_congr
    (labels : r.tags.map Tag.label = r'.tags.map Tag.label) (token : String) :
    (r.find? token).map Tag.name = (r'.find? token).map Tag.name := by
  have same : (r.find? token).map Tag.label = (r'.find? token).map Tag.label := by
    rw [find?_eq_scan?, find?_eq_scan?, map_label_scan?, map_label_scan?, labels]
  have names := congrArg (Option.map Prod.fst) same
  rw [Option.map_map, Option.map_map] at names
  exact names

theorem onList_congr
    (names : ∀ token, (r.find? token).map Tag.name = (r'.find? token).map Tag.name) :
    Directive.onList r = Directive.onList r' := by
  funext list d
  cases d with
  | grant token => rw [Directive.onList, Directive.onList, names]
  | revoke name => rw [Directive.onList, Directive.onList, names]

/-- The tags that an expression leaves depend neither on the data nor on anything in the registry
but names and codes. The data does not depend on the tags: each directive does the same to it,
whatever is held. -/
theorem set_halves (r : Registry) (list : String) (data : DataBag) (e : String) :
    (r.set ⟨list, data⟩ e).tags = (r.set ⟨list, []⟩ e).tags ∧
    (r.set ⟨list, data⟩ e).data = (r.set ⟨"", data⟩ e).data ∧
    (r.set ⟨list, data⟩ e).data = (Directive.parseAll e).foldl (Directive.onData r) data ∧
    ∀ r' : Registry, r.tags.map Tag.label = r'.tags.map Tag.label →
      ∀ data', (r.set ⟨list, data⟩ e).tags = (r'.set ⟨list, data'⟩ e).tags := by
  refine ⟨?_, ?_, data_set r _ e, ?_⟩
  · rw [tags_set, tags_set]
  · rw [data_set, data_set]
  · intro r' labels data'
    rw [tags_set, tags_set, onList_congr (map_name_find?_congr labels)]

/-- The names and codes of the watched clinic, with other levels and nothing else. -/
def bareClinic : Registry := ofDefinitions
  [{ name := "Ärzt", code := "ä" }, { name := "staff", code := "s", level := some 9 },
   { name := "Idle", code := "i" }]

/-- The idle tag is held before it is granted, and yet there is its data and what its hook put. -/
theorem set_halves_watchedClinic :
    watchedClinic.tags.map Tag.label = bareClinic.tags.map Tag.label ∧
    (watchedClinic.set nurse handover).tags = (bareClinic.set ⟨nurse.tags, []⟩ handover).tags ∧
    (bareClinic.set ⟨nurse.tags, []⟩ handover).tags = "Nurse idle staff ärzt" ∧
    (watchedClinic.set nurse handover).tags = (watchedClinic.set ⟨nurse.tags, []⟩ handover).tags ∧
    (watchedClinic.set ⟨"IDLE", []⟩ "i").data = (watchedClinic.set ⟨"", []⟩ "i").data ∧
    (watchedClinic.set ⟨"IDLE", []⟩ "i").data.map Prod.fst = ["idle", "afk"] := by
  have labels : watchedClinic.tags.map Tag.label = bareClinic.tags.map Tag.label := by
    decide +kernel
  obtain ⟨own, -, -, tags⟩ := set_halves watchedClinic nurse.tags nurse.data handover
  obtain ⟨-, data, -, -⟩ := set_halves watchedClinic "IDLE" [] "i"
  exact ⟨labels, tags bareClinic labels [], by decide +kernel, own, data, by decide +kernel⟩

end Registry

end TagRights
