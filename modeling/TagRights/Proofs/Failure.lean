import TagRights.Program
import TagRights.Proofs.Condition.Conjunction
import TagRights.Proofs.Listing
import TagRights.Proofs.TagFile
import TagRights.Proofs.Validation

namespace TagRights

open Text

namespace Failure

theorem exitStatus_range (f : Failure) : 2 ≤ f.exitStatus ∧ f.exitStatus ≤ 6 := by
  cases f <;> simp [exitStatus]

section

variable {α β : Type} {x : Except Failure α} {next : α → Except Failure β}

theorem bind_eq_error_iff {f : Failure} :
    x >>= next = .error f ↔ x = .error f ∨ ∃ a, x = .ok a ∧ next a = .error f := by
  cases x <;> simp [bind, Except.bind]

theorem bind_eq_ok_iff {b : β} : x >>= next = .ok b ↔ ∃ a, x = .ok a ∧ next a = .ok b := by
  cases x <;> simp [bind, Except.bind]

end

end Failure

open Failure

namespace Command

/-- Why a command fails on a registry. -/
inductive Fails (r : Registry) : Command → Failure → Prop
  | unknownToken {token : String} (unknown : r.find? token = none) :
    Fails r (find token) (.tagNotFound token)
  | unknownThreshold {list e base : String} {quiet : Bool}
    (first : r.FirstUnknown (words e) base) :
    Fails r (check list e quiet) (.unknownThreshold base)
  | notJson {tags e json : String} (unread : Json.ofText? json = none) :
    Fails r (set tags e (some json)) (.malformedJson json)
  | notObject {tags e json : String} {j : Json} (read : Json.ofText? json = some j)
    (other : ∀ members, j ≠ .obj members) :
    Fails r (set tags e (some json))
      (.configuration s!"--data must be a JSON object, got: {j.text}")

variable {r : Registry} {c : Command} {f : Failure} {a : Answer}

theorem fails_check {list e : String} {quiet : Bool} (h : r.check list e = .error f) :
    Fails r (check list e quiet) f := by
  rcases r.knows_or_exists_firstUnknown (words e) with known | ⟨base, first⟩
  · obtain ⟨holds, verdict, -⟩ := Registry.check_of_knows known list
    rw [h] at verdict
    contradiction
  · rw [Registry.check_of_firstUnknown first list] at h
    cases h
    exact .unknownThreshold first

theorem fails_set {tags e json : String} (h : DataBag.ofText json = .error f) :
    Fails r (set tags e (some json)) f := by
  rw [DataBag.ofText] at h
  split at h
  next unread =>
    cases h
    exact .notJson unread
  next => cases h
  next j other read =>
    cases h
    exact .notObject read other

theorem fails_of_answer (h : c.answer r = .error f) : c.Fails r f := by
  cases c with
  | find token =>
    rcases bind_eq_error_iff.1 h with unknown | ⟨t, -, none⟩
    · rw [Registry.require] at unknown
      split at unknown
      next => cases unknown
      next unknown' =>
        cases unknown
        exact .unknownToken unknown'
    · cases none
  | level tags => cases h
  | codes tags => cases h
  | check list e quiet =>
    rcases bind_eq_error_iff.1 h with failed | ⟨holds, -, none⟩
    · exact fails_check failed
    · cases none
  | set tags e data =>
    rcases bind_eq_error_iff.1 h with failed | ⟨s, -, none⟩
    · cases data with
      | none => cases failed
      | some json =>
        rw [Registry.setFrom] at failed
        rcases bind_eq_error_iff.1 failed with failed | ⟨bag, -, none⟩
        · exact fails_set failed
        · cases none
    · cases none
  | list =>
    rw [answer] at h
    split at h <;> cases h

theorem answer_of_fails (h : c.Fails r f) : c.answer r = .error f := by
  cases h with
  | unknownToken unknown =>
    rw [answer, Registry.require, unknown]
    rfl
  | unknownThreshold first =>
    rw [answer, Registry.check_of_firstUnknown first]
    rfl
  | notJson unread =>
    simp only [answer, Registry.setFrom, DataBag.ofText, unread]
    rfl
  | notObject read other =>
    simp only [answer, Registry.setFrom, DataBag.ofText, read]
    rfl

/-- A command fails in the ways of `Fails` and in no other. -/
theorem answer_eq_error_iff : c.answer r = .error f ↔ c.Fails r f :=
  ⟨fails_of_answer, answer_of_fails⟩

/-- An answer is a line, or else the silent one of a quiet check or the breakdown of a listing. -/
theorem answer_cases (h : c.answer r = .ok a) :
    ((∃ s, a = .line s) ∧ ∀ list e, c ≠ check list e true) ∨
    (∃ list e holds, c = check list e true ∧ r.check list e = .ok holds ∧ a = .silent holds) ∨
    (c = list ∧ ¬Listing.fits r.tags ∧ a = .breakdown) := by
  cases c with
  | find token =>
    obtain ⟨t, -, line⟩ := bind_eq_ok_iff.1 h
    cases line
    exact .inl ⟨⟨_, rfl⟩, by simp⟩
  | level tags =>
    cases h
    exact .inl ⟨⟨_, rfl⟩, by simp⟩
  | codes tags =>
    cases h
    exact .inl ⟨⟨_, rfl⟩, by simp⟩
  | check list e quiet =>
    obtain ⟨holds, verdict, answered⟩ := bind_eq_ok_iff.1 h
    cases answered
    cases quiet with
    | false => exact .inl ⟨⟨_, rfl⟩, by simp⟩
    | true => exact .inr (.inl ⟨list, e, holds, rfl, verdict, rfl⟩)
  | set tags e data =>
    obtain ⟨s, -, line⟩ := bind_eq_ok_iff.1 h
    cases line
    exact .inl ⟨⟨_, rfl⟩, by simp⟩
  | list =>
    rw [answer, listing?] at h
    by_cases fits : Listing.fits r.tags
    · rw [if_pos fits] at h
      cases h
      exact .inl ⟨⟨_, rfl⟩, by simp⟩
    · rw [if_neg fits] at h
      cases h
      exact .inr (.inr ⟨rfl, fits, rfl⟩)

/-- A check that answers by the exit status alone. -/
def IsQuiet (c : Command) : Prop :=
  ∃ list e, c = check list e true

end Command

namespace Reading

/-- Why what was read at a path makes no registry: there is no file, it is not read, decoded or
parsed, or what it defines is not valid. -/
inductive Fails (path : SystemText) : Reading → Failure → Prop
  | missing : Fails path missing (.registryNotFound path)
  | refused (reason : String) : Fails path (refused reason) (.io reason)
  | notText {content : ByteArray} (notUtf8 : String.fromUTF8? content = none) :
    Fails path (bytes content) (.io "stream did not contain valid UTF-8")
  | notParsed {content : ByteArray} {text : String}
    (decoded : String.fromUTF8? content = some text)
    (unread : (Toml.document? text).bind TagFile.definitions? = none) :
    Fails path (bytes content) (.malformedToml text)
  | notValid {content : ByteArray} {text : String} {ds : List Definition} {f : Failure}
    (decoded : String.fromUTF8? content = some text)
    (read : (Toml.document? text).bind TagFile.definitions? = some ds)
    (invalid : TagFile.Invalid ds f) : Fails path (bytes content) f

variable {path : SystemText} {reading : Reading} {f : Failure}

theorem registry_of_read {content : ByteArray} {text : String} {ds : List Definition}
    (decoded : String.fromUTF8? content = some text)
    (read : (Toml.document? text).bind TagFile.definitions? = some ds) :
    (bytes content).registry path = TagFile.register ds := by
  rw [registry, definitions, decoded]
  simp only [TagFile.read, read, Option.elim_some]
  rfl

theorem registry_of_unread {content : ByteArray} {text : String}
    (decoded : String.fromUTF8? content = some text)
    (unread : (Toml.document? text).bind TagFile.definitions? = none) :
    (bytes content).registry path = .error (.malformedToml text) := by
  rw [registry, definitions, decoded]
  simp only [TagFile.read, unread, Option.elim_none]
  rfl

/-- The reading of a registry fails in the ways of `Fails` and in no other. -/
theorem registry_eq_error_iff : reading.registry path = .error f ↔ reading.Fails path f := by
  constructor
  · intro h
    cases reading with
    | missing =>
      cases h
      exact .missing
    | refused reason =>
      cases h
      exact .refused reason
    | bytes content =>
      cases decoded : String.fromUTF8? content with
      | none =>
        rw [registry, definitions, decoded] at h
        cases h
        exact .notText decoded
      | some text =>
        cases read : (Toml.document? text).bind TagFile.definitions? with
        | none =>
          rw [registry_of_unread decoded read] at h
          cases h
          exact .notParsed decoded read
        | some ds =>
          rw [registry_of_read decoded read] at h
          exact .notValid decoded read (TagFile.register_eq_error_iff.1 h)
  · intro h
    cases h with
    | missing => rfl
    | refused reason => rfl
    | notText notUtf8 =>
      rw [registry, definitions, notUtf8]
      rfl
    | notParsed decoded unread => exact registry_of_unread decoded unread
    | notValid decoded read invalid =>
      rw [registry_of_read decoded read]
      exact TagFile.register_eq_error_iff.2 invalid

/-- A file with one tag in one line is read, however long its name and code are. -/
theorem registry_oneLine {name code : String} (hname : Toml.Quotable name)
    (hcode : Toml.Quotable code) (named : TagFile.isToken name) (coded : TagFile.isToken code) :
    (bytes (TagFile.oneLine name code).toUTF8).registry path =
      .ok (.ofDefinitions [{ name, code }]) := by
  have decoded : String.fromUTF8? (TagFile.oneLine name code).toUTF8 =
      some (TagFile.oneLine name code) := dif_pos (TagFile.oneLine name code).isValidUTF8
  rw [registry_of_read decoded (TagFile.definitions?_oneLine hname hcode)]
  exact TagFile.register_eq_ok_iff.2 ⟨by simp [named, coded], rfl⟩

end Reading

end TagRights
