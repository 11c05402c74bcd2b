import TagRights.Proofs.Directive
import TagRights.Proofs.Registry
import TagRights.Proofs.TagList

namespace TagRights

open Text

namespace Working

/-- The subject as an expression finds it. -/
def ofSubject (s : Subject) : Working :=
  ⟨TagList.ofText s.tags, s.data⟩

/-- The subject as an expression leaves it. -/
def subject (w : Working) : Subject :=
  ⟨w.list.text, w.data⟩

def run (r : Registry) (ds : List Directive) (w : Working) : Working :=
  ds.foldl (step r) w

@[simp] theorem runHook_list (hook : Option Hook) (w : Working) :
    (runHook hook w).list = w.list := by
  cases hook <;> rfl

@[simp] theorem addData_list (t : Tag) (w : Working) : (addData t w).list = w.list := by
  unfold addData
  split
  · split <;> rfl
  · rfl

section

variable {r : Registry} {w : Working} {token name : String} {t : Tag}

/-- A grant inserts the name of the tag, not the token. -/
theorem step_grant_list (meant : r.find? token = some t) :
    (step r w (.grant token)).list = w.list.insert t.name := by
  simp only [step, meant, grant, runHook_list, addData_list]

theorem step_grant_of_unknown (unknown : r.find? token = none) : step r w (.grant token) = w := by
  simp only [step, unknown]

/-- A revoke takes out what is written and the name of the tag that it means. -/
theorem step_revoke_list (meant : r.find? name = some t) :
    (step r w (.revoke name)).list = (w.list.remove name).remove t.name := by
  simp only [step, meant, runHook_list, drop]

theorem step_revoke_list_of_unknown (unknown : r.find? name = none) :
    (step r w (.revoke name)).list = w.list.remove name := by
  simp only [step, unknown, drop]

end

theorem ofWords_step {r : Registry} {w : Working} (h : w.list.OfWords) {d : Directive}
    (hd : ∀ k, d.grants r k → IsWord k) : (step r w d).list.OfWords := by
  cases d with
  | grant token =>
    cases meant : r.find? token with
    | none =>
      rw [step_grant_of_unknown meant]
      exact h
    | some t =>
      have name : IsWord t.name := hd t.name (Directive.grants_iff.2 ⟨token, t, rfl, meant, rfl⟩)
      rw [step_grant_list meant]
      exact h.insert name
  | revoke name =>
    cases meant : r.find? name with
    | none =>
      rw [step_revoke_list_of_unknown meant]
      exact h.remove name
    | some t =>
      rw [step_revoke_list meant]
      exact (h.remove name).remove t.name

theorem ofWords_run_of_grants {r : Registry} {w : Working} (h : w.list.OfWords)
    {ds : List Directive} (hds : ∀ d ∈ ds, ∀ k, d.grants r k → IsWord k) :
    (run r ds w).list.OfWords := by
  induction ds generalizing w with
  | nil => exact h
  | cons d ds ih =>
    have first := ofWords_step h (hds d List.mem_cons_self)
    exact ih first fun e he => hds e (List.mem_cons_of_mem _ he)

theorem ofWords_run {r : Registry} (hr : r.WordNames) {w : Working} (h : w.list.OfWords)
    (ds : List Directive) : (run r ds w).list.OfWords := by
  apply ofWords_run_of_grants h
  intro d _ k granted
  obtain ⟨token, t, rfl, meant, rfl⟩ := Directive.grants_iff.1 granted
  exact hr t (Registry.mem_of_find? meant)

/-- A list of words outlives being written out and read. -/
theorem ofSubject_subject {w : Working} (h : w.list.OfWords) : ofSubject w.subject = w := by
  rw [ofSubject, subject, TagList.ofText_text h]

end Working

theorem Directive.parseAll_append (a b : String) :
    parseAll (a ++ " " ++ b) = parseAll a ++ parseAll b := by
  simp [parseAll, words_append_space]

namespace Registry

theorem set_eq (r : Registry) (s : Subject) (e : String) :
    r.set s e = (Working.run r (Directive.parseAll e) (Working.ofSubject s)).subject := rfl

/-- What an expression leaves can be read back as it was. -/
theorem ofSubject_set {r : Registry} (hr : r.WordNames) (s : Subject) (e : String) :
    Working.ofSubject (r.set s e) = Working.run r (Directive.parseAll e) (Working.ofSubject s) :=
  Working.ofSubject_subject (Working.ofWords_run hr (TagList.ofWords_ofText s.tags) _)

theorem words_tags_set {r : Registry} (hr : r.WordNames) (s : Subject) (e : String) :
    words (r.set s e).tags =
      (Working.run r (Directive.parseAll e) (Working.ofSubject s)).list.tags :=
  TagList.words_text (Working.ofWords_run hr (TagList.ofWords_ofText s.tags) _)

/-- Two expressions, one after the other, do what they do as one. -/
theorem set_set (r : Registry) (hr : r.WordNames) (s : Subject) (e₁ e₂ : String) :
    r.set (r.set s e₁) e₂ = r.set s (e₁ ++ " " ++ e₂) := by
  calc r.set (r.set s e₁) e₂
      = (Working.run r (Directive.parseAll e₂) (Working.ofSubject (r.set s e₁))).subject := rfl
    _ = (Working.run r (Directive.parseAll e₂)
          (Working.run r (Directive.parseAll e₁) (Working.ofSubject s))).subject := by
        rw [ofSubject_set hr]
    _ = (Working.run r (Directive.parseAll (e₁ ++ " " ++ e₂)) (Working.ofSubject s)).subject := by
        rw [Directive.parseAll_append, Working.run, Working.run, Working.run, List.foldl_append]
    _ = r.set s (e₁ ++ " " ++ e₂) := rfl

/-- A name outside ASCII, tags with and without data, and a code that is another tag's name. -/
def clinic : Registry := ofDefinitions
  [{ name := "Ärzt", code := "ä", level := some 4, data := some [("ward", .int 3)] },
   { name := "staff", code := "s", level := some 5 },
   { name := "Idle", code := "staff", data := some [("since", .int 0)] }]

/-- The clinic once the idle tag has hooks. -/
def watchedClinic : Registry := clinic.add
  { name := "IDLE", code := "i", onGrant := some (Hook.ofEdits [.put "afk" (.bool true)]),
    onRevoke := some (Hook.ofEdits [.erase "afk"]) }

def nurse : Subject :=
  ⟨"ÄRZT Nurse  nurse staff", [("Staff", .int 1), ("Idle", .int 1), ("Ärzt", .int 3)]⟩

/-- Grants and revokes by name and by code, of tags held and not held, one of them unknown. -/
def handover : String := "s !s ä !ärzt i staff idle !GHOST ärzt"

theorem set_set_watchedClinic : watchedClinic.WordNames ∧
    (watchedClinic.set nurse handover).tags = "Nurse idle staff ärzt" ∧
    (watchedClinic.set nurse handover).data.map Prod.fst = ["Idle", "idle", "afk", "ärzt"] ∧
    watchedClinic.set (watchedClinic.set nurse handover) "!IDLE Ärzt i" =
      watchedClinic.set nurse (handover ++ " " ++ "!IDLE Ärzt i") ∧
    (watchedClinic.set nurse (handover ++ " " ++ "!IDLE Ärzt i")).tags =
      "Nurse staff ärzt idle" ∧
    (watchedClinic.set nurse (handover ++ " " ++ "!IDLE Ärzt i")).data.map Prod.fst =
      ["ärzt", "idle", "afk"] := by
  have names : watchedClinic.WordNames := by decide +kernel
  exact ⟨names, by decide +kernel, by decide +kernel,
    set_set watchedClinic names nurse handover "!IDLE Ärzt i", by decide +kernel,
    by decide +kernel⟩

end Registry

end TagRights
