import TagRights.TagFile
import TagRights.Proofs.Redefinition
import TagRights.Proofs.Subject.Fulfilment

namespace TagRights

open Text

namespace TagFile

theorem isToken_iff (s : String) :
    isToken s ↔ s ≠ "" ∧ ∀ c ∈ s.toList, isReserved c = false := by
  simp [isToken, isReserved, and_assoc]

/-- Definitions are valid if all names and codes can be spoken of. -/
theorem validate_eq_ok_iff {ds : List Definition} :
    validate ds = .ok () ↔ ∀ d ∈ ds, isToken d.name ∧ isToken d.code := by
  induction ds with
  | nil => simp [validate]
  | cons d ds ih =>
    rw [validate, List.forall_mem_cons, ← ih]
    cases isToken d.name with
    | false => simp
    | true => cases isToken d.code <;> simp

/-- Of the definitions that are not valid the first counts, and of its texts the name. -/
inductive Invalid : List Definition → Failure → Prop
  | name {d : Definition} {ds : List Definition} (bad : ¬isToken d.name) :
    Invalid (d :: ds) (.invalidTag s!"name '{d.name}'")
  | code {d : Definition} {ds : List Definition} (named : isToken d.name)
    (bad : ¬isToken d.code) : Invalid (d :: ds) (.invalidTag s!"code '{d.code}' of tag '{d.name}'")
  | later {d : Definition} {ds : List Definition} {f : Failure} (named : isToken d.name)
    (coded : isToken d.code) (h : Invalid ds f) : Invalid (d :: ds) f

/-- The first name or code that cannot be spoken of is what is wrong. -/
theorem validate_eq_error_iff {ds : List Definition} {f : Failure} :
    validate ds = .error f ↔ Invalid ds f := by
  induction ds with
  | nil => exact ⟨nofun, nofun⟩
  | cons d ds ih =>
    rw [validate]
    by_cases named : isToken d.name
    · by_cases coded : isToken d.code
      · rw [if_neg (by simp [named]), if_neg (by simp [coded]), ih]
        refine ⟨.later named coded, fun h => ?_⟩
        cases h with
        | name bad | code _ bad => contradiction
        | later _ _ h => exact h
      · rw [if_neg (by simp [named]), if_pos (by simp [coded])]
        constructor
        · rintro ⟨⟩
          exact .code named coded
        · intro h
          cases h with
          | name | later => contradiction
          | code => rfl
    · rw [if_pos (by simp [named])]
      constructor
      · rintro ⟨⟩
        exact .name named
      · intro h
        cases h with
        | name => rfl
        | code | later => contradiction

theorem register_eq_error_iff {ds : List Definition} {f : Failure} :
    register ds = .error f ↔ Invalid ds f := by
  rw [← validate_eq_error_iff, register]
  cases validate ds <;> simp [bind, Except.bind, pure, Except.pure]

theorem register_eq_ok_iff {ds : List Definition} {r : Registry} :
    register ds = .ok r ↔
      (∀ d ∈ ds, isToken d.name ∧ isToken d.code) ∧ r = .ofDefinitions ds := by
  rw [← validate_eq_ok_iff, register]
  cases validate ds with
  | error f => simp [bind, Except.bind]
  | ok u => simp [bind, Except.bind, pure, Except.pure, eq_comm]

variable {s : String}

theorem isWord_of_isToken (h : isToken s) : IsWord s := by
  obtain ⟨nonempty, free⟩ := (isToken_iff s).1 h
  refine ⟨nonempty, fun c hc => ?_⟩
  have apart := free c hc
  simp only [isReserved, Bool.or_eq_false_iff] at apart
  exact apart.1.1.1

theorem not_mem_of_isToken (h : isToken s) {c : Char} (hc : isReserved c) : c ∉ s.toList := by
  intro mem
  rw [((isToken_iff s).1 h).2 c mem] at hc
  contradiction

theorem isLiteral_of_isToken (h : isToken s) : IsLiteral s where
  isWord := isWord_of_isToken h
  bar := not_mem_of_isToken h rfl
  bang := fun head => not_mem_of_isToken h rfl (List.mem_of_head? head)
  plus := fun last => not_mem_of_isToken h rfl (List.mem_of_getLast? last)

/-- Lower case brings no reserved character into a name. -/
theorem isToken_lowercase (h : isToken s) : isToken (lowercase s) := by
  obtain ⟨nonempty, free⟩ := (isToken_iff s).1 h
  exact (isToken_iff _).2 ⟨mt (lowercase_eq_empty_iff s).1 nonempty,
    fun _ hc => not_of_mem_lowercase (fun _ => id) free hc⟩

end TagFile

namespace Registry

/-- What it takes for `w` to stand for the tag everywhere. -/
structure Usable (r : Registry) (t : Tag) (w : String) : Prop where
  found : r.find? w = some t
  level : r.level w = t.level
  codes : r.codes w = t.code
  member : Condition.parse w = ⟨[.member ⟨lowercase w, false⟩]⟩
  absent : Condition.parse ("!" ++ w) = ⟨[.member ⟨lowercase w, true⟩]⟩
  threshold : Condition.parse (w ++ "+") = ⟨[.atLeast w]⟩
  check : ∀ list, r.check list (w ++ "+") = .ok (decide (t.level ≤ r.level list))
  granted : ∀ s, (r.set s w).has t.name ∧
    (r.set s w).tagNames = ((TagList.ofText s.tags).insert t.name).tags
  revoked : ∀ s, ¬(r.set s ("!" ++ w)).has t.name ∧
    (r.set s ("!" ++ w)).tagNames = ((TagList.ofText s.tags).remove t.name).tags

variable {r : Registry}

theorem codes_of_isWord {token : String} {t : Tag} (h : IsWord token)
    (meant : r.find? token = some t) : r.codes token = t.code := by
  simp [codes, resolve, words_of_isWord h, meant]

theorem exists_find?_code {t : Tag} (ht : t ∈ r.tags) (nonempty : t.code ≠ "") :
    ∃ u, r.find? t.code = some u := by
  rw [find?, if_neg nonempty]
  cases r.named? (lowercase t.code) with
  | some u => exact ⟨u, rfl⟩
  | none =>
    rw [Option.none_or, ← Option.isSome_iff_exists, List.find?_isSome]
    exact ⟨t, ht, beq_self_eq_true _⟩

section

variable {t : Tag} {w : String} (hr : r.WordNames) (found : r.find? w = some t)
  (own : lowercase w = t.name)

include hr found

theorem set_of_grant (word : IsWord w) (head : w.toList.head? ≠ some '!') (s : Subject) :
    (r.set s w).tagNames = ((TagList.ofText s.tags).insert t.name).tags := by
  have directives : Directive.parseAll w = [.grant w] := by
    rw [Directive.parseAll, words_of_isWord word, List.map_singleton,
      Directive.parse_eq_grant_iff.2 ⟨rfl, head⟩]
  rw [Subject.tagNames, words_tags_set hr, directives, Working.run, List.foldl_cons, List.foldl_nil,
    Working.step_grant_list found]
  rfl

include own

theorem set_of_revoke (low : lowercase t.name = t.name) (word : IsWord w) (s : Subject) :
    (r.set s ("!" ++ w)).tagNames = ((TagList.ofText s.tags).remove t.name).tags := by
  have directives : Directive.parseAll ("!" ++ w) = [.revoke w] := by
    rw [Directive.parseAll, words_of_isWord (isWord_bang word.2), List.map_singleton,
      Directive.parse_bang]
  have same : lowercase w = lowercase t.name := own.trans low.symm
  rw [Subject.tagNames, words_tags_set hr, directives, Working.run, List.foldl_cons, List.foldl_nil,
    Working.step_revoke_list found, TagList.remove_congr same, TagList.remove_remove]
  rfl

end

/-- A name that is one word without signs can be used everywhere. -/
theorem usable_of_isToken (hr : r.WordNames) {t : Tag} (ht : t ∈ r.tags)
    {w : String} (token : TagFile.isToken w) (own : lowercase w = t.name) : r.Usable t w := by
  have literal := TagFile.isLiteral_of_isToken token
  have word := literal.isWord
  have found := find?_of_lowercase_eq ht word.1 own
  have low := r.lowercase_name t ht
  have bangBar : '|' ∉ ("!" ++ w).toList := by simpa using literal.bar
  have bangPlus := mt (getLast?_bang_iff w).1 literal.plus
  have threshold : Clause.IsThreshold (w ++ "+") w := ⟨by simpa using literal.bar, rfl⟩
  have inserted := set_of_grant hr found word literal.bang
  have removed := set_of_revoke hr found own low word
  refine ⟨found, level_of_isWord word found, codes_of_isWord word found, ?member, ?absent,
    ?threshold, check_of_isThreshold (isWord_plus word.2) threshold found,
    fun s => ⟨?granted, inserted s⟩, fun s => ⟨?revoked, removed s⟩⟩
  case member =>
    rw [Condition.parse_of_isWord word, Clause.parse_of_getLast?_ne literal.bar literal.plus,
      Term.parse_of_head?_ne literal.bang]
  case absent =>
    rw [Condition.parse_of_isWord (isWord_bang word.2),
      Clause.parse_of_getLast?_ne bangBar bangPlus, Term.parse_bang]
  case threshold =>
    rw [Condition.parse_of_isWord (isWord_plus word.2), Clause.parse_of_isThreshold threshold]
  case granted =>
    rw [Subject.has_iff, inserted s]
    exact TagList.lowercase_mem_insert _ _
  case revoked =>
    rw [Subject.has_iff, removed s]
    exact TagList.lowercase_not_mem_remove _ _

/-- In a registry that was made from a file, each name of the file means its tag, as it is written
there and in lower case, in every list, condition and directive, and the tag's code means a tag
too. -/
theorem usable_of_register (ds : List Definition) (r : Registry) (h : TagFile.register ds = .ok r)
    (d : Definition) (hd : d ∈ ds) :
    ∃ t ∈ r.tags, t.name = lowercase d.name ∧ (∀ u ∈ r.tags, u.name = lowercase d.name → u = t) ∧
      r.Usable t d.name ∧ r.Usable t t.name ∧ ∃ u, r.find? t.code = some u := by
  obtain ⟨valid, rfl⟩ := TagFile.register_eq_ok_iff.1 h
  have names := wordNames_ofDefinitions fun e he => TagFile.isWord_of_isToken (valid e he).1
  obtain ⟨t, ht, own⟩ := List.mem_map.1 (mem_names_ofDefinitions_iff.2 ⟨d, hd, rfl⟩)
  have token := (valid d hd).1
  have lower : TagFile.isToken t.name := own ▸ TagFile.isToken_lowercase token
  obtain ⟨e, he, code⟩ := exists_code_of_mem ht
  have nonempty : t.code ≠ "" := code ▸ (TagFile.isWord_of_isToken (valid e he).2).1
  -- The code may be the name of another tag, so the tag that it means need not be this one.
  exact ⟨t, ht, own, fun u hu same => eq_of_name_eq hu ht (same.trans own.symm),
    usable_of_isToken names ht token own.symm,
    usable_of_isToken names ht lower (lowercase_name _ t ht),
    exists_find?_code ht nonempty⟩

/-- A name that is written in two cases, one whose lower case depends on where a letter stands, and
codes that are names of other tags. -/
def rota : List Definition :=
  [{ name := "ΟΔΟΣ", code := "staff", level := some 2 },
   { name := "Staff", code := "s", level := some 5 },
   { name := "STAFF", code := "οδος", level := some 7 }]

theorem usable_of_register_rota : ∃ r, TagFile.register rota = .ok r ∧
    ∃ t ∈ r.tags, t.name = "οδος" ∧ r.Usable t "ΟΔΟΣ" ∧ r.Usable t "οδος" ∧
      (r.set ⟨"Οδος x X", []⟩ "!ΟΔΟΣ").tagNames = ["x"] ∧ ∃ u, r.find? "staff" = some u := by
  have valid : (rota.all fun d => TagFile.isToken d.name && TagFile.isToken d.code) = true := by
    decide +kernel
  have made : TagFile.register rota = .ok (ofDefinitions rota) :=
    TagFile.register_eq_ok_iff.2 ⟨by simpa using valid, rfl⟩
  have low : lowercase "ΟΔΟΣ" = "οδος" := by decide +kernel
  obtain ⟨t, ht, name, -, written, lower, -⟩ :=
    usable_of_register rota _ made { name := "ΟΔΟΣ", code := "staff", level := some 2 } (.head _)
  rw [low] at name
  rw [name] at lower
  have left := (written.revoked ⟨"Οδος x X", []⟩).2
  rw [name] at left
  refine ⟨_, made, t, ht, name, written, lower, left.trans (by decide +kernel), ?_⟩
  exact Option.isSome_iff_exists.1 (by decide +kernel)

end Registry

end TagRights
