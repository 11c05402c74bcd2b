import TagRights.Proofs.Failure

namespace TagRights

open Text Failure

namespace Invocation

/-- Why the registry is not loaded: its file is not located, or what is read there makes none. -/
inductive LoadFails (inv : Invocation) (s : Surroundings) : Failure → Prop
  | notLocated {reason : String} (unnamed : inv.registry = none) (unset : s.namedPath = none)
    (fault : s.directoryFault = some reason) : LoadFails inv s (.io reason)
  | notRead {path : SystemText} {f : Failure} (located : inv.locate s = .ok path)
    (failed : (s.read path).Fails path f) : LoadFails inv s f

/-- Why there is no answer. The command is tried on a registry that was loaded. -/
inductive Fails (inv : Invocation) (s : Surroundings) : Failure → Prop
  | load {f : Failure} (failed : inv.LoadFails s f) : Fails inv s f
  | command {r : Registry} {f : Failure} (loaded : inv.load s = .ok r)
    (failed : inv.command.Fails r f) : Fails inv s f

/-- A quiet check does not hold. -/
def Refuses (inv : Invocation) (s : Surroundings) : Prop :=
  ∃ r list e, inv.load s = .ok r ∧ inv.command = .check list e true ∧ r.check list e = .ok false

/-- A name or a code is too long for the columns of a listing. -/
def BreaksDown (inv : Invocation) (s : Surroundings) : Prop :=
  ∃ r, inv.load s = .ok r ∧ inv.command = .list ∧
    ∃ t ∈ r.tags, 65535 < t.name.utf8ByteSize ∨ 65535 < t.code.utf8ByteSize

/-- The standard error takes nothing, and there is a warning or an error message for it. -/
def Stifled (inv : Invocation) (s : Surroundings) : Prop :=
  s.hearsErrors = false ∧ (s.logFilter.2 ≠ [] ∨ ∃ f, inv.Fails s f)

variable {inv : Invocation} {s : Surroundings} {f : Failure} {a : Answer}

/-- A registry is not located only if no path is given and the directory is unknown. -/
theorem locate_eq_error_iff : inv.locate s = .error f ↔ inv.registry = none ∧
    s.namedPath = none ∧ ∃ reason, s.directoryFault = some reason ∧ f = .io reason := by
  rw [locate]
  cases inv.registry <;> cases s.namedPath <;> cases s.directoryFault <;> simp [eq_comm]

theorem load_eq_error_iff : inv.load s = .error f ↔ inv.LoadFails s f := by
  rw [load, bind_eq_error_iff, locate_eq_error_iff]
  simp only [Reading.registry_eq_error_iff]
  constructor
  · intro h
    rcases h with ⟨unnamed, unset, reason, fault, rfl⟩ | ⟨path, located, failed⟩
    · exact .notLocated unnamed unset fault
    · exact .notRead located failed
  · intro h
    cases h with
    | notLocated unnamed unset fault => exact .inl ⟨unnamed, unset, _, fault, rfl⟩
    | notRead located failed => exact .inr ⟨_, located, failed⟩

/-- An invocation fails in the ways of `Fails` and in no other. -/
theorem answer_eq_error_iff : inv.answer s = .error f ↔ inv.Fails s f := by
  rw [answer, bind_eq_error_iff, load_eq_error_iff]
  simp only [Command.answer_eq_error_iff]
  constructor
  · intro h
    rcases h with failed | ⟨r, loaded, failed⟩
    · exact .load failed
    · exact .command loaded failed
  · intro h
    cases h with
    | load failed => exact .inl failed
    | command loaded failed => exact .inr ⟨_, loaded, failed⟩

theorem answer_of_refuses (h : inv.Refuses s) : inv.answer s = .ok (.silent false) := by
  obtain ⟨r, list, e, loaded, quiet, verdict⟩ := h
  rw [answer, loaded, quiet]
  simp only [bind, Except.bind, Command.answer, verdict]
  rfl

theorem answer_of_breaksDown (h : inv.BreaksDown s) : inv.answer s = .ok .breakdown := by
  obtain ⟨r, loaded, listed, t, ht, long⟩ := h
  have wide : ¬Listing.fits r.tags := by
    rw [Listing.fits_iff]
    intro fits
    have within := fits t ht
    rw [Listing.maxWidth] at within
    omega
  rw [answer, loaded, listed]
  simp only [bind, Except.bind, Command.answer, listing?, if_neg wide]

/-- The answers that there are: a line, those of a quiet check, and that of a breakdown. -/
theorem answer_cases (h : inv.answer s = .ok a) :
    ((∃ t, a = .line t) ∧ ¬inv.command.IsQuiet) ∨ a = .silent true ∨
    (a = .silent false ∧ inv.Refuses s) ∨ (a = .breakdown ∧ inv.BreaksDown s) := by
  obtain ⟨r, loaded, answered⟩ := bind_eq_ok_iff.1 h
  rcases Command.answer_cases answered with
    ⟨line, loud⟩ | ⟨list, e, holds, quiet, verdict, rfl⟩ | ⟨listed, wide, rfl⟩
  · exact .inl ⟨line, fun ⟨list, e, quiet⟩ => loud list e quiet⟩
  · cases holds with
    | true => exact .inr (.inl rfl)
    | false => exact .inr (.inr (.inl ⟨rfl, r, list, e, loaded, quiet, verdict⟩))
  · rw [Listing.fits_iff] at wide
    push Not at wide
    obtain ⟨t, ht, long⟩ := wide
    rw [Listing.maxWidth] at long
    exact .inr (.inr (.inr ⟨rfl, r, loaded, listed, t, ht, by omega⟩))

theorem not_isError_preamble : ¬∃ m ∈ inv.preamble s, m.isError := by
  intro h
  obtain ⟨m, hm, error⟩ := h
  rcases List.mem_append.1 hm with hm | hm
  · obtain ⟨w, -, rfl⟩ := List.mem_map.1 hm
    contradiction
  · obtain ⟨r, -, rfl⟩ := List.mem_map.1 hm
    contradiction

theorem exists_isOwed_preamble_iff :
    (∃ m ∈ inv.preamble s, m.isOwed) ↔ s.logFilter.2 ≠ [] := by
  simp only [preamble, List.mem_append, List.mem_map]
  constructor
  · intro h
    obtain ⟨m, ⟨w, hw, rfl⟩ | ⟨r, -, rfl⟩, owed⟩ := h
    · exact List.ne_nil_of_mem hw
    · contradiction
  · intro some
    obtain ⟨w, rest, cons⟩ := List.exists_cons_of_ne_nil some
    exact ⟨.warning w, .inl ⟨w, cons ▸ List.mem_cons_self, rfl⟩, rfl⟩

/-- What a run says, if anybody hears it. -/
def heard (s : Surroundings) (said : List Message) : List Message :=
  if s.hearsErrors then said else []

/-- What cannot be written to the standard error breaks the program down. -/
theorem run_of_stifled (h : inv.Stifled s) : inv.run s = ⟨101, "", []⟩ := by
  obtain ⟨unheard, owed⟩ := h
  have said : (inv.plainRun s).messages.any Message.isOwed := by
    rw [List.any_eq_true]
    rcases owed with warned | ⟨f, fails⟩
    · obtain ⟨m, hm, owed⟩ := exists_isOwed_preamble_iff.2 warned
      refine ⟨m, ?_, owed⟩
      rw [plainRun]
      split <;> exact List.mem_append_left _ hm
    · refine ⟨.failure f, ?_, rfl⟩
      rw [plainRun, answer_eq_error_iff.2 fails]
      exact List.mem_append_right _ (List.mem_singleton_self _)
  rw [run, unheard, if_neg Bool.false_ne_true, Outcome.muted, if_pos said]

/-- A failure is reported last and prints nothing. -/
theorem run_of_fails (h : inv.Fails s f) (free : ¬inv.Stifled s) :
    inv.run s = ⟨f.exitStatus, "", inv.preamble s ++ [.failure f]⟩ := by
  have hears : s.hearsErrors := by
    by_contra unheard
    exact free ⟨Bool.eq_false_iff.2 unheard, .inr ⟨f, h⟩⟩
  rw [run, if_pos hears, plainRun, answer_eq_error_iff.2 h]

theorem run_of_answer (h : inv.answer s = .ok a) (free : ¬inv.Stifled s) :
    inv.run s = ⟨a.status, a.output,
      heard s (inv.preamble s ++ if a.broken then [Message.breakdown] else [])⟩ := by
  rw [run, plainRun, h, heard]
  cases hears : s.hearsErrors with
  | true => rfl
  | false =>
    -- Nothing is owed: no warning, since the run is not stifled, and no error message.
    have none : ¬(inv.preamble s ++ if a.broken then [Message.breakdown] else []).any
        Message.isOwed := by
      rw [List.any_eq_true]
      intro h
      obtain ⟨m, hm, owed⟩ := h
      rcases List.mem_append.1 hm with hm | hm
      · exact free ⟨hears, .inl (exists_isOwed_preamble_iff.1 ⟨m, hm, owed⟩)⟩
      · split at hm
        · rw [List.mem_singleton.1 hm] at owed
          contradiction
        · contradiction
    rw [if_neg Bool.false_ne_true, Outcome.muted, if_neg none]
    rfl

theorem status_of_refuses (h : inv.Refuses s) (free : ¬inv.Stifled s) :
    (inv.run s).status = 1 := by
  rw [run_of_answer (answer_of_refuses h) free]
  rfl

theorem status_of_fails (h : inv.Fails s f) (free : ¬inv.Stifled s) :
    (inv.run s).status = f.exitStatus := by
  rw [run_of_fails h free]

theorem status_of_breaksDown (h : inv.BreaksDown s) : (inv.run s).status = 101 := by
  by_cases stifled : inv.Stifled s
  · rw [run_of_stifled stifled]
  · rw [run_of_answer (answer_of_breaksDown h) stifled]
    rfl

theorem not_stifled_of_hearsErrors (hears : s.hearsErrors) : ¬inv.Stifled s := by
  intro h
  have unheard := h.1
  rw [hears] at unheard
  contradiction

/-- The ways in which a run can end, each with what comes of it. -/
inductive Ending (inv : Invocation) (s : Surroundings) (o : Outcome) : Prop
  | stifled (h : inv.Stifled s) (status : o.status = 101) (output : o.output = "")
    (messages : o.messages = [])
  | failed {f : Failure} (fails : inv.Fails s f) (hears : s.hearsErrors)
    (status : o.status = f.exitStatus) (output : o.output = "")
    (messages : o.messages = inv.preamble s ++ [.failure f])
  | refused (refuses : inv.Refuses s) (free : ¬inv.Stifled s) (status : o.status = 1)
    (output : o.output = "") (messages : o.messages = heard s (inv.preamble s))
  | broken (breaksDown : inv.BreaksDown s) (status : o.status = 101) (output : o.output = "")
    (messages : o.messages = heard s (inv.preamble s ++ [.breakdown]))
  | answered (status : o.status = 0) (output : inv.command.IsQuiet → o.output = "")
    (messages : o.messages = heard s (inv.preamble s))

theorem ending (inv : Invocation) (s : Surroundings) : Ending inv s (inv.run s) := by
  by_cases stifled : inv.Stifled s
  · rw [run_of_stifled stifled]
    exact .stifled stifled rfl rfl rfl
  · cases answered : inv.answer s with
    | error f =>
      have fails := answer_eq_error_iff.1 answered
      have hears : s.hearsErrors := by
        by_contra unheard
        exact stifled ⟨Bool.eq_false_iff.2 unheard, .inr ⟨f, fails⟩⟩
      rw [run_of_fails fails stifled]
      exact .failed fails hears rfl rfl rfl
    | ok a =>
      rw [run_of_answer answered stifled]
      rcases answer_cases answered with
        ⟨⟨t, rfl⟩, loud⟩ | rfl | ⟨rfl, refuses⟩ | ⟨rfl, breaksDown⟩
      · exact .answered rfl (fun quiet => absurd quiet loud) (by simp [Answer.line])
      · exact .answered rfl (fun _ => rfl) (by simp [Answer.silent])
      · exact .refused refuses stifled rfl rfl (by simp [Answer.silent])
      · exact .broken breaksDown rfl rfl rfl

/-- Where the registry is not loaded the command leaves no trace. -/
theorem fullJournal_of_load (h : inv.load s = .error f) (c : Command) :
    ({ inv with command := c }).fullJournal s = inv.fullJournal s := by
  rcases bind_eq_error_iff.1 h with unlocated | ⟨path, located, unread⟩
  · have same : ({ inv with command := c }).locate s = .error f := unlocated
    simp only [fullJournal, unlocated, same]
  · have same : ({ inv with command := c }).locate s = .ok path := located
    simp only [fullJournal, located, same, unread]

/-- A registry that is not loaded fails alike under every command. -/
theorem run_of_load (h : inv.load s = .error f) (c : Command) :
    ({ inv with command := c }).run s = inv.run s := by
  have same : ({ inv with command := c }).load s = .error f := h
  simp only [run, plainRun, preamble, answer, h, same, fullJournal_of_load h c]
  rfl

theorem exists_isError_heard_iff {said : List Message} :
    (∃ m ∈ heard s said, m.isError) ↔ (∃ m ∈ said, m.isError) ∧ s.hearsErrors := by
  rw [heard]
  cases s.hearsErrors <;> simp

theorem errorOutput_ne_empty {o : Outcome} {m : Message} (h : m ∈ o.messages) (error : m.isError)
    (w : Wording) : o.errorOutput w ≠ "" := by
  have text : m.text w ≠ "" := by
    cases m with
    | warning | record => contradiction
    | breakdown => exact w.breakdown_ne_empty
    | failure f => simp [Message.text]
  intro empty
  obtain ⟨before, after, parts⟩ := List.append_of_mem h
  simp [Outcome.errorOutput, parts, text] at empty

/-- Only a quiet check has the status 1. -/
theorem status_eq_one_iff : (inv.run s).status = 1 ↔ inv.Refuses s ∧ ¬inv.Stifled s := by
  constructor
  · intro one
    cases ending inv s with
    | refused refuses free => exact ⟨refuses, free⟩
    | @failed f _ _ status =>
      have range := f.exitStatus_range
      omega
    | stifled _ status | broken _ status | answered status => omega
  · intro h
    exact status_of_refuses h.1 h.2

theorem status_eq_most_iff : (inv.run s).status = 101 ↔ inv.BreaksDown s ∨ inv.Stifled s := by
  constructor
  · intro most
    cases ending inv s with
    | stifled h => exact .inr h
    | broken breaksDown => exact .inl breaksDown
    | @failed f _ _ status =>
      have range := f.exitStatus_range
      omega
    | refused _ _ status | answered status => omega
  · intro h
    rcases h with breaksDown | stifled
    · exact status_of_breaksDown breaksDown
    · rw [run_of_stifled stifled]

theorem status_eq_zero_iff : (inv.run s).status = 0 ↔
    (∀ f, ¬inv.Fails s f) ∧ ¬inv.Refuses s ∧ ¬inv.BreaksDown s ∧ ¬inv.Stifled s := by
  constructor
  · intro zero
    have free : ¬inv.Stifled s := by
      intro h
      have most := status_eq_most_iff.2 (.inr h)
      omega
    refine ⟨fun f fails => ?_, fun refuses => ?_, fun breaksDown => ?_, free⟩
    · have status := status_of_fails fails free
      have range := f.exitStatus_range
      omega
    · have one := status_of_refuses refuses free
      omega
    · have most := status_of_breaksDown breaksDown
      omega
  · intro h
    obtain ⟨sound, holds, fits, free⟩ := h
    cases ending inv s with
    | stifled h => exact absurd h free
    | failed fails => exact absurd fails (sound _)
    | refused refuses => exact absurd refuses holds
    | broken breaksDown => exact absurd breaksDown fits
    | answered status => exact status

/-- The status tells whether something is printed: nothing is unless it is 0. -/
theorem output_eq_empty (h : (inv.run s).status ≠ 0 ∨ inv.command.IsQuiet) :
    (inv.run s).output = "" := by
  cases ending inv s with
  | stifled _ _ output | failed _ _ _ output | refused _ _ _ output | broken _ _ output =>
    exact output
  | answered status output => exact output (h.resolve_left (absurd status))

/-- The status tells whether there is an error message: there is from 2 on. -/
theorem exists_isError_iff :
    (∃ m ∈ (inv.run s).messages, m.isError) ↔ 2 ≤ (inv.run s).status ∧ s.hearsErrors := by
  cases ending inv s with
  | stifled h status _ messages => simp [status, messages, h.1]
  | failed fails hears status _ messages =>
    simp [status, messages, hears, (exitStatus_range _).1]
  | refused _ _ status _ messages | answered status _ messages =>
    simp [status, messages, exists_isError_heard_iff, not_isError_preamble]
  | broken _ status _ messages => simp [status, messages, exists_isError_heard_iff]

/-- How runs end. The status is 1 for a quiet check that does not hold, that of the failure where
there is one, from 2 to 6, and otherwise 0; it is 101 where a listing breaks down or where what must
be said cannot be. Whatever keeps the registry from being loaded comes before the command. Only with
the status 0 is anything printed, and an error message is given from the status 2 on. -/
theorem run_status (inv : Invocation) (s : Surroundings) :
    let o := inv.run s
    (o.status = 1 ↔ inv.Refuses s ∧ ¬inv.Stifled s) ∧
    (o.status = 101 ↔ inv.BreaksDown s ∨ inv.Stifled s) ∧
    (o.status = 0 ↔
      (∀ f, ¬inv.Fails s f) ∧ ¬inv.Refuses s ∧ ¬inv.BreaksDown s ∧ ¬inv.Stifled s) ∧
    (∀ f, inv.Fails s f → ¬inv.Stifled s →
      o.status = f.exitStatus ∧ 2 ≤ o.status ∧ o.status ≤ 6) ∧
    (∀ f, inv.LoadFails s f → ∀ c, ({ inv with command := c }).Fails s f ∧
      ({ inv with command := c }).run s = o) ∧
    (o.status ≠ 0 ∨ inv.command.IsQuiet → o.output = "") ∧
    ((∃ m ∈ o.messages, m.isError) ↔ 2 ≤ o.status ∧ s.hearsErrors) ∧
    (∀ f, inv.Fails s f → s.hearsErrors →
      ∃ said, o.messages = said ++ [.failure f] ∧ ∀ m ∈ said, ¬m.isError) ∧
    ∀ w, 2 ≤ o.status → s.hearsErrors → o.errorOutput w ≠ "" := by
  intro o
  refine ⟨status_eq_one_iff, status_eq_most_iff, status_eq_zero_iff, fun f fails free => ?fails,
    fun f failed c => ?first, output_eq_empty, exists_isError_iff, fun f fails hears => ?last,
    fun w high hears => ?text⟩
  case fails =>
    rw [status_of_fails fails free]
    exact ⟨rfl, f.exitStatus_range⟩
  case first =>
    have unloaded : inv.load s = .error f := load_eq_error_iff.2 failed
    have same : ({ inv with command := c }).load s = .error f := unloaded
    exact ⟨.load (load_eq_error_iff.1 same), run_of_load unloaded c⟩
  case last =>
    have ran : o = _ := run_of_fails fails (not_stifled_of_hearsErrors hears)
    rw [ran]
    exact ⟨inv.preamble s, rfl, fun m hm error => not_isError_preamble ⟨m, hm, error⟩⟩
  case text =>
    obtain ⟨m, hm, error⟩ := exists_isError_iff.2 ⟨high, hears⟩
    exact errorOutput_ne_empty hm error w

/-- A text of `n` characters that are all the same. -/
def letters (n : Nat) : String :=
  String.ofList (List.replicate n 'a')

/-- Surroundings without settings. The registry file has one tag, with a name of `n` characters. -/
def archive (n : Nat) : Surroundings where
  registryVariable := none
  logVariable := none
  directory := .ofString "/"
  read _ := .bytes (TagFile.oneLine (letters n) "x").toUTF8

theorem length_letters (n : Nat) : (letters n).length = n := by
  rw [letters, String.length_ofList, List.length_replicate]

theorem letters_ne_empty {n : Nat} (positive : 0 < n) : letters n ≠ "" := by
  intro empty
  have count := length_letters n
  rw [empty, String.length_empty] at count
  omega

theorem eq_of_mem_letters {n : Nat} {c : Char} (h : c ∈ (letters n).toList) : c = 'a' := by
  rw [letters, String.toList_ofList] at h
  exact List.eq_of_mem_replicate h

theorem quotable_letters {n : Nat} (positive : 0 < n) : Toml.Quotable (letters n) := by
  refine ⟨letters_ne_empty positive, fun c hc => ?_⟩
  rw [eq_of_mem_letters hc]
  rfl

theorem isToken_letters {n : Nat} (positive : 0 < n) : TagFile.isToken (letters n) := by
  refine (TagFile.isToken_iff _).2 ⟨letters_ne_empty positive, fun c hc => ?_⟩
  rw [eq_of_mem_letters hc]
  rfl

theorem lowercase_letters (n : Nat) : lowercase (letters n) = letters n := by
  have low : ∀ c ∈ (letters n).toList, IsLower c := by
    intro c hc
    rw [eq_of_mem_letters hc]
    decide +kernel
  rw [lowercase, lowerFrom_of_isLower low, String.ofList_toList]

/-- The registry with a name of `n` letters is read for every `n`. -/
theorem load_archive {inv : Invocation} (unnamed : inv.registry = none) {n : Nat}
    (positive : 0 < n) :
    inv.load (archive n) = .ok (.ofDefinitions [{ name := letters n, code := "x" }]) := by
  have located : inv.locate (archive n) = .ok (archive n).defaultPath := by
    rw [locate, registryPath, unnamed]
    rfl
  have quotable : Toml.Quotable "x" := ⟨by decide, by simp [Toml.isPlain]⟩
  exact bind_eq_ok_iff.2 ⟨_, located, Reading.registry_oneLine (quotable_letters positive) quotable
    (isToken_letters positive) rfl⟩

theorem breaksDown_archive {n : Nat} (long : 65535 < n) :
    (⟨none, 0, .list⟩ : Invocation).BreaksDown (archive n) := by
  let d : Definition := { name := letters n, code := "x" }
  have named : lowercase d.name ∈ (Registry.ofDefinitions [d]).names :=
    Registry.mem_names_ofDefinitions_iff.2 ⟨d, List.mem_singleton_self d, rfl⟩
  obtain ⟨t, ht, name⟩ := List.mem_map.1 named
  have count : d.name.length ≤ t.name.utf8ByteSize := by
    rw [name, lowercase_letters]
    exact length_le_utf8ByteSize _
  rw [length_letters] at count
  exact ⟨_, load_archive rfl (by omega), rfl, t, ht, .inl (by omega)⟩

/-- A listing can end with a status of its own, although nothing fails and nothing is checked. -/
theorem status_list_archive : let inv : Invocation := ⟨none, 0, .list⟩
    let s := archive 65536
    Invocation.ofArguments [.ofString "list"] = .ok inv ∧ s.hearsErrors ∧
      (∀ f, ¬inv.Fails s f) ∧ ¬inv.Refuses s ∧ (inv.run s).status ≠ 0 := by
  intro inv s
  have breaksDown : inv.BreaksDown s := breaksDown_archive (by decide)
  have broken := answer_of_breaksDown breaksDown
  have status := status_of_breaksDown breaksDown
  refine ⟨by rfl, rfl, fun f fails => ?_, fun refuses => ?_, by omega⟩
  · cases (answer_eq_error_iff.2 fails).symm.trans broken
  · have same := Except.ok.inj ((answer_of_refuses refuses).symm.trans broken)
    exact absurd (congrArg Answer.status same) (by decide)

end Invocation

end TagRights
