import TagRights.Command
import TagRights.Proofs.Subject.Composition

namespace TagRights

namespace Json

/-- Whether the value has no name twice, if it is an object. -/
def Keyed (v : Json) : Prop :=
  ∀ members : Members Json, v = .obj members → members.Keyed

theorem keyed_obj {members : Members Json} (h : members.Keyed) : (obj members).Keyed := by
  intro others same
  rw [← Json.obj.inj same]
  exact h

/-- A number is no object. -/
theorem keyed_of_number {word : List Char} {v : Json} (read : number? word = some v) :
    v.Keyed := by
  intro members same
  rw [same, number?, Option.bind_eq_bind, Option.bind_eq_some_iff] at read
  obtain ⟨t, -, made⟩ := read
  dsimp only [NumberText.toJson?] at made
  split at made
  · split at made
    · simp at made
    · split at made <;> simp at made
  · simp at made

def Frame.Keyed : Frame → Prop
  | arr _ => True
  | obj members _ => members.Keyed

theorem Frame.keyed_arr {items : List Json} : (arr items).Keyed :=
  trivial

namespace Due

/-- Whether no name stands twice in what was read so far. -/
def Keyed : Due → Prop
  | value outer | itemOrEnd outer | keyOrEnd outer | afterItem _ outer => ∀ f ∈ outer, f.Keyed
  | key members outer | colon members _ outer | afterMember members outer =>
    members.Keyed ∧ ∀ f ∈ outer, f.Keyed
  | nothing v => v.Keyed

variable {v : Json} {outer : List Frame} {due next : Due} {l : Lexeme}

/-- A value that is complete goes under its name, in place of an earlier one. -/
theorem keyed_complete (hv : v.Keyed) (h : ∀ f ∈ outer, f.Keyed) : (complete v outer).Keyed := by
  cases outer with
  | nil => exact hv
  | cons f outer =>
    obtain ⟨own, others⟩ := List.forall_mem_cons.1 h
    cases f with
    | arr items => exact others
    | obj members name => exact ⟨Members.Keyed.put own name v, others⟩

theorem keyed_of_scalar {word : List Char} (read : scalar? word = some v) : v.Keyed := by
  unfold scalar? at read
  split at read
  · simp [← Option.some.inj read, Json.Keyed]
  · split at read
    · simp [← Option.some.inj read, Json.Keyed]
    · split at read
      · simp [← Option.some.inj read, Json.Keyed]
      · exact keyed_of_number read

theorem keyed_of_open (h : ∀ f ∈ outer, f.Keyed) (opened : open? outer l = some next) :
    next.Keyed := by
  unfold open? at opened
  split at opened
  · split at opened
    · rw [← Option.some.inj opened]
      exact h
    · contradiction
  · split at opened
    · rw [← Option.some.inj opened]
      exact h
    · contradiction
  · contradiction
  next body =>
    obtain ⟨cs, -, made⟩ := Option.bind_eq_some_iff.1 opened
    rw [← Option.some.inj made]
    exact keyed_complete (by simp [Json.Keyed]) h
  next word =>
    obtain ⟨read, scalar, made⟩ := Option.bind_eq_some_iff.1 opened
    rw [← Option.some.inj made]
    exact keyed_complete (keyed_of_scalar scalar) h

theorem keyed_of_openKey {members : Members Json} (own : members.Keyed)
    (h : ∀ f ∈ outer, f.Keyed) (opened : openKey? members outer l = some next) : next.Keyed := by
  unfold openKey? at opened
  split at opened
  · obtain ⟨cs, -, made⟩ := Option.bind_eq_some_iff.1 opened
    rw [← Option.some.inj made]
    exact ⟨own, h⟩
  · contradiction

/-- No lexeme makes a name stand twice. -/
theorem Keyed.step (h : due.Keyed) (step : step? due l = some next) : next.Keyed := by
  -- The cases are the lines of `step?`, in their order.
  unfold step? at step
  split at step
  case h_1 => exact keyed_of_open h step
  case h_2 =>
    rw [← Option.some.inj step]
    exact keyed_complete (by simp [Json.Keyed]) h
  case h_3 => exact keyed_of_open (List.forall_mem_cons.2 ⟨Frame.keyed_arr, h⟩) step
  case h_4 =>
    rw [← Option.some.inj step]
    exact keyed_complete (keyed_obj .nil) h
  case h_5 => exact keyed_of_openKey .nil h step
  case h_6 => exact keyed_of_openKey h.1 h.2 step
  case h_7 =>
    rw [← Option.some.inj step]
    exact List.forall_mem_cons.2 h
  case h_8 =>
    rw [← Option.some.inj step]
    exact List.forall_mem_cons.2 ⟨Frame.keyed_arr, h⟩
  case h_9 =>
    rw [← Option.some.inj step]
    exact keyed_complete (by simp [Json.Keyed]) h
  case h_10 =>
    rw [← Option.some.inj step]
    exact h
  case h_11 =>
    rw [← Option.some.inj step]
    exact keyed_complete (keyed_obj h.1) h.2
  case h_12 => contradiction

theorem Keyed.run (h : due.Keyed) {ls : List Lexeme} (run : ls.foldlM step? due = some next) :
    next.Keyed := by
  induction ls generalizing due with
  | nil =>
    rw [← Option.some.inj run]
    exact h
  | cons l ls ih =>
    rw [List.foldlM_cons] at run
    obtain ⟨first, step, others⟩ := Option.bind_eq_some_iff.1 run
    exact ih (h.step step) others

end Due

/-- Of a name that a text repeats only one value stays. -/
theorem keyed_of_ofText {s : String} {v : Json} (read : ofText? s = some v) : v.Keyed := by
  obtain ⟨ls, -, made⟩ := Option.bind_eq_some_iff.1 read
  unfold ofLexemes? at made
  split at made
  next value run =>
    have start : (Due.value []).Keyed := List.forall_mem_nil _
    rw [← Option.some.inj made]
    exact start.run run
  · contradiction

end Json

theorem DataBag.keyed_of_ofText {s : String} {bag : DataBag} (read : DataBag.ofText s = .ok bag) :
    bag.Keyed := by
  unfold DataBag.ofText at read
  split at read
  · contradiction
  next members parsed =>
    rw [← Except.ok.inj read]
    exact Json.keyed_of_ofText parsed members rfl
  · contradiction

theorem BagEdit.keyed_apply {bag : DataBag} (h : bag.Keyed) (edit : BagEdit) :
    (edit.apply bag).Keyed := by
  cases edit with
  | put name value => exact Members.Keyed.put h name value
  | erase name => exact h.filter _
  | append name value =>
    simp only [apply]
    split <;> exact Members.Keyed.put h name _
  | putInside name member value =>
    simp only [apply]
    split
    · exact Members.Keyed.put h name _
    · exact h

theorem Hook.keyed_ofEdits (edits : List BagEdit) {bag : DataBag} (h : bag.Keyed) :
    (Hook.ofEdits edits bag).Keyed := by
  induction edits generalizing bag with
  | nil => exact h
  | cons edit edits ih => exact ih (edit.keyed_apply h)

/-- Whether no tag has a hook that makes a name stand twice. -/
def Registry.HooksKeyed (r : Registry) : Prop :=
  ∀ t ∈ r.tags, ∀ hook, t.onGrant = some hook ∨ t.onRevoke = some hook →
    ∀ bag : DataBag, bag.Keyed → (hook bag).Keyed

theorem Registry.hooksKeyed_of_edits {r : Registry} (h : ∀ t ∈ r.tags, ∀ hook,
    t.onGrant = some hook ∨ t.onRevoke = some hook → ∃ edits, hook = Hook.ofEdits edits) :
    r.HooksKeyed := by
  intro t ht hook own bag keyed
  obtain ⟨edits, rfl⟩ := h t ht hook own
  exact Hook.keyed_ofEdits edits keyed

namespace Working

variable {r : Registry} {w : Working}

theorem keyed_runHook {hook : Option Hook}
    (keeps : ∀ run, hook = some run → ∀ bag : DataBag, bag.Keyed → (run bag).Keyed)
    (h : w.data.Keyed) : (runHook hook w).data.Keyed := by
  cases hook with
  | none => exact h
  | some run => exact keeps run rfl w.data h

theorem keyed_addData (t : Tag) (h : w.data.Keyed) : (addData t w).data.Keyed := by
  unfold addData
  split
  · split
    · exact h
    · exact Members.Keyed.put h _ _
  · exact h

/-- No directive makes a name stand twice in the data. -/
theorem keyed_step (hooks : r.HooksKeyed) (h : w.data.Keyed) (d : Directive) :
    (step r w d).data.Keyed := by
  cases d with
  | grant token =>
    cases meant : r.find? token with
    | none => simpa only [step, meant] using h
    | some t =>
      have keeps := hooks t (Registry.mem_of_find? meant)
      simp only [step, meant, grant]
      exact keyed_runHook (fun run granted => keeps run (.inl granted)) (keyed_addData t h)
  | revoke name =>
    cases meant : r.find? name with
    | none =>
      simp only [step, meant]
      exact h.filter _
    | some t =>
      have keeps := hooks t (Registry.mem_of_find? meant)
      simp only [step, meant]
      exact keyed_runHook (fun run revoked => keeps run (.inr revoked)) ((h.filter _).filter _)

theorem keyed_run (hooks : r.HooksKeyed) (ds : List Directive) (h : w.data.Keyed) :
    (run r ds w).data.Keyed := by
  induction ds generalizing w with
  | nil => exact h
  | cons d ds ih => exact ih (keyed_step hooks h d)

end Working

namespace Registry

/-- An expression leaves no name in the data twice, as long as the hooks make none. -/
theorem keyed_set {r : Registry} (hooks : r.HooksKeyed) {s : Subject} (h : s.data.Keyed)
    (e : String) : (r.set s e).data.Keyed :=
  Working.keyed_run hooks _ h

/-- Whatever text was handed in, the data that is printed has no name twice. -/
theorem keyed_setFrom {r : Registry} (hooks : r.HooksKeyed) {tags e : String}
    {data : Option String} {s : Subject} (answer : r.setFrom tags e data = .ok s) :
    s.data.Keyed := by
  unfold setFrom at answer
  cases data with
  | none =>
    rw [← Except.ok.inj answer]
    exact keyed_set hooks Members.Keyed.nil e
  | some text =>
    cases read : DataBag.ofText text with
    | error f =>
      simp only [read] at answer
      contradiction
    | ok bag =>
      simp only [read] at answer
      rw [← Except.ok.inj answer]
      exact keyed_set hooks (DataBag.keyed_of_ofText read) e

end Registry

end TagRights
