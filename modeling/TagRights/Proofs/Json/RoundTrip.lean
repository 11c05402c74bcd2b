import TagRights.Json.Text
import TagRights.Proofs.Json.Lexeme
import TagRights.Proofs.Json.Number

namespace TagRights.Json

mutual

/-- How many containers are open at once in the text of a value. -/
def depth : Json → Nat
  | arr items => itemsDepth items + 1
  | obj members => membersDepth members + 1
  | _ => 0

def itemsDepth : List Json → Nat
  | [] => 0
  | item :: items => max item.depth (itemsDepth items)

def membersDepth : List (String × Json) → Nat
  | [] => 0
  | (_, value) :: members => max value.depth (membersDepth members)

end

/-- No floating-point number, only integers of 64 bits, and no name twice in an object. -/
inductive IsExact : Json → Prop
  | null : IsExact .null
  | bool (b : Bool) : IsExact (.bool b)
  | int {n : Int} (low : -Decimal.twoPow 63 ≤ n) (high : n < Decimal.twoPow 64) : IsExact (.int n)
  | str (s : String) : IsExact (.str s)
  | arr {items : List Json} (h : ∀ item ∈ items, IsExact item) : IsExact (.arr items)
  | obj {members : List (String × Json)} (distinct : (members.map Prod.fst).Nodup)
    (h : ∀ m ∈ members, IsExact m.2) : IsExact (.obj members)

section

open Lexeme

theorem isBare_of_mem_intChars {n : Int} {c : Char} (h : c ∈ intChars n) : isBare c := by
  rw [intChars_eq, List.mem_append] at h
  rcases h with h | h
  · by_cases negative : n < 0
    · simp only [sign, negative, decide_true, if_true, List.mem_singleton] at h
      exact h ▸ rfl
    · simp [sign, negative] at h
  · simp [isBare, Char.isAlphanum, isDigit_of_mem_toDigits h]

theorem intChars_ne_nil (n : Int) : intChars n ≠ [] := by
  simp [intChars_eq, Nat.toDigits_ne_nil]

theorem clean_stringLexeme (s : String) : (stringLexeme s).Clean :=
  .quoted s.toList

variable {as : List Lexeme}

theorem Printable.append_items {items : List Json} (ha : Printable as)
    (h : ∀ item ∈ items, Printable item.lexemes) :
    Printable (as ++ (itemLexemes items ++ [.mark ']'])) := by
  induction items generalizing as with
  | nil => exact ha.append_mark rfl ⟨by simp, .nil⟩
  | cons item items ih =>
    have more : Printable (as ++ .mark ',' :: item.lexemes) :=
      ha.append_mark rfl (h item List.mem_cons_self)
    have all := ih more fun i hi => h i (List.mem_cons_of_mem _ hi)
    simpa only [itemLexemes, List.append_assoc, List.cons_append] using all

theorem Printable.member {value : Json} (key : String) (h : Printable value.lexemes) :
    Printable (stringLexeme key :: .mark ':' :: value.lexemes) :=
  (singleton (clean_stringLexeme key)).append_mark rfl h

theorem Printable.append_members {members : List (String × Json)} (ha : Printable as)
    (h : ∀ m ∈ members, Printable m.2.lexemes) :
    Printable (as ++ (memberLexemes members ++ [.mark '}'])) := by
  induction members generalizing as with
  | nil => exact ha.append_mark rfl ⟨by simp, .nil⟩
  | cons m members ih =>
    obtain ⟨key, value⟩ := m
    have more : Printable (as ++ .mark ',' :: stringLexeme key :: .mark ':' :: value.lexemes) :=
      ha.append_mark rfl (member key (h (key, value) List.mem_cons_self))
    have all := ih more fun n hn => h n (List.mem_cons_of_mem _ hn)
    simpa only [memberLexemes, List.append_assoc, List.cons_append] using all

/-- The lexemes of an exact value can be told apart with nothing between them. -/
theorem printable_lexemes {v : Json} (h : v.IsExact) : Printable v.lexemes := by
  induction h with
  | null => exact .singleton (.bare (by decide) (List.all_eq_true.1 rfl))
  | bool b => cases b <;> exact .singleton (.bare (by decide) (List.all_eq_true.1 rfl))
  | int => exact .singleton (.bare (intChars_ne_nil _) fun _ => isBare_of_mem_intChars)
  | str s => exact .singleton (clean_stringLexeme s)
  | @arr items _ ih =>
    cases items with
    | nil => exact .mark_cons rfl (.singleton (.mark rfl))
    | cons item items =>
      have first : Printable (.mark '[' :: item.lexemes) := .mark_cons rfl (ih item (by simp))
      have all := first.append_items fun i hi => ih i (List.mem_cons_of_mem _ hi)
      simpa only [lexemes, List.append_assoc, List.cons_append] using all
  | @obj members _ _ ih =>
    cases members with
    | nil => exact .mark_cons rfl (.singleton (.mark rfl))
    | cons m members =>
      obtain ⟨key, value⟩ := m
      have first : Printable (.mark '{' :: stringLexeme key :: .mark ':' :: value.lexemes) :=
        .mark_cons rfl (.member key (ih (key, value) (by simp)))
      have all := first.append_members fun n hn => ih n (List.mem_cons_of_mem _ hn)
      simpa only [lexemes, List.append_assoc, List.cons_append] using all

end

namespace Due

variable {due next : Due} {outer : List Frame}

theorem foldlM_cons_of_step? {l : Lexeme} (h : due.step? l = some next) (ls : List Lexeme) :
    (l :: ls).foldlM step? due = ls.foldlM step? next := by
  rw [List.foldlM_cons, h]
  rfl

theorem foldlM_append_of_ite {as : List Lexeme} {p : Prop} [Decidable p]
    (h : as.foldlM step? due = if p then some next else none) (bs : List Lexeme) :
    (as ++ bs).foldlM step? due = if p then bs.foldlM step? next else none := by
  rw [List.foldlM_append, h]
  by_cases hp : p
  · rw [if_pos hp, if_pos hp]
    rfl
  · rw [if_neg hp, if_neg hp]
    rfl

/-- A value is taken from its lexemes if there is room for the containers in it. -/
def Takes (v : Json) : Prop :=
  ∀ outer : List Frame, outer.length ≤ maxDepth → v.lexemes.foldlM step? (value outer) =
    if outer.length + v.depth ≤ maxDepth then some (complete v outer) else none

theorem takes_of_step? {v : Json} {l : Lexeme} (lexeme : v.lexemes = [l]) (flat : v.depth = 0)
    (h : ∀ outer, step? (value outer) l = some (complete v outer)) : Takes v := by
  intro outer room
  rw [lexeme, foldlM_cons_of_step? (h outer), flat, Nat.add_zero, if_pos room]
  rfl

theorem openKey?_stringLexeme (members : Members Json) (key : String) (outer : List Frame) :
    openKey? members outer (stringLexeme key) = some (colon members key outer) := by
  rw [stringLexeme, openKey?, unescape?_escape]
  exact congrArg (fun s => some (colon members s outer)) String.ofList_toList

theorem scalar?_intChars {n : Int} (low : -Decimal.twoPow 63 ≤ n) (high : n < Decimal.twoPow 64) :
    scalar? (intChars n) = some (.int n) := by
  -- Each of the three literals has a letter that no number has.
  have other : ∀ c ∈ intChars n, c ≠ 'u' ∧ c ≠ 'l' := by
    intro c hc
    rw [intChars_eq, List.mem_append] at hc
    rcases hc with hc | hc
    · by_cases negative : n < 0 <;> simp_all [sign]
    · have digit := isDigit_of_mem_toDigits hc
      constructor <;> rintro rfl <;> exact absurd digit (by decide)
  have notNull : intChars n ≠ "null".toList := fun eq => (other 'u' (eq ▸ by decide)).1 rfl
  have notTrue : intChars n ≠ "true".toList := fun eq => (other 'u' (eq ▸ by decide)).1 rfl
  have notFalse : intChars n ≠ "false".toList := fun eq => (other 'l' (eq ▸ by decide)).2 rfl
  rw [scalar?, if_neg notNull, if_neg notTrue, if_neg notFalse, number?_intChars low high]

/-- No value begins with the end of an array. -/
theorem foldlM_itemOrEnd (v : Json) (rest : List Lexeme) (outer : List Frame) :
    (v.lexemes ++ rest).foldlM step? (itemOrEnd outer) =
      (v.lexemes ++ rest).foldlM step? (value (.arr [] :: outer)) := by
  cases v with
  | bool b => cases b <;> rfl
  | arr items => cases items <;> rfl
  | obj members =>
    cases members with
    | nil => rfl
    | cons m members => rfl
  | _ => rfl

/-- Items are taken one after the other up to the end of their array. -/
theorem foldlM_items {items : List Json} (h : ∀ item ∈ items, Takes item) (soFar : List Json)
    (room : outer.length + 1 ≤ maxDepth) (rest : List Lexeme) :
    (itemLexemes items ++ .mark ']' :: rest).foldlM step? (afterItem soFar outer) =
      if outer.length + 1 + itemsDepth items ≤ maxDepth then
        rest.foldlM step? (complete (.arr (soFar.reverse ++ items)) outer)
      else none := by
  induction items generalizing soFar with
  | nil =>
    rw [itemsDepth, Nat.add_zero, if_pos room, List.append_nil]
    exact foldlM_cons_of_step? rfl rest
  | cons item items ih =>
    have comma : step? (afterItem soFar outer) (.mark ',') =
      some (value (.arr soFar :: outer)) := rfl
    have first := h item List.mem_cons_self (.arr soFar :: outer) room
    have others := ih (fun i hi => h i (List.mem_cons_of_mem _ hi)) (item :: soFar)
    rw [itemLexemes, List.cons_append, List.cons_append, List.append_assoc,
      foldlM_cons_of_step? comma, foldlM_append_of_ite first, complete, others, ← ite_and,
      List.reverse_cons, List.append_assoc, List.singleton_append]
    refine if_congr ?_ rfl rfl
    rw [itemsDepth, List.length_cons]
    omega

/-- A member is taken wherever its name may stand. -/
theorem foldlM_member {v : Json} (h : Takes v) {members : Members Json} {name : String}
    (named : due.step? (stringLexeme name) = some (colon members name outer))
    (new : members.has name = false) (room : outer.length + 1 ≤ maxDepth) (rest : List Lexeme) :
    (stringLexeme name :: .mark ':' :: (v.lexemes ++ rest)).foldlM step? due =
      if outer.length + 1 + v.depth ≤ maxDepth then
        rest.foldlM step? (afterMember (members ++ [(name, v)]) outer)
      else none := by
  have colonMark : step? (colon members name outer) (.mark ':') =
    some (value (.obj members name :: outer)) := rfl
  have taken := h (.obj members name :: outer) room
  rw [foldlM_cons_of_step? named, foldlM_cons_of_step? colonMark, foldlM_append_of_ite taken,
    complete, Members.put_of_not_has new, List.length_cons]

/-- Members with distinct names are taken in order up to the end of their object. -/
theorem foldlM_members {members : Members Json} (h : ∀ m ∈ members, Takes m.2)
    (soFar : Members Json) (distinct : ((soFar ++ members).map Prod.fst).Nodup)
    (room : outer.length + 1 ≤ maxDepth) (rest : List Lexeme) :
    (memberLexemes members ++ .mark '}' :: rest).foldlM step? (afterMember soFar outer) =
      if outer.length + 1 + membersDepth members ≤ maxDepth then
        rest.foldlM step? (complete (.obj (soFar ++ members)) outer)
      else none := by
  induction members generalizing soFar with
  | nil =>
    rw [membersDepth, Nat.add_zero, if_pos room, List.append_nil]
    exact foldlM_cons_of_step? rfl rest
  | cons m members ih =>
    obtain ⟨name, v⟩ := m
    have first : Takes v := h (name, v) List.mem_cons_self
    have comma : step? (afterMember soFar outer) (.mark ',') = some (key soFar outer) := rfl
    have named : step? (key soFar outer) (stringLexeme name) = some (colon soFar name outer) :=
      openKey?_stringLexeme soFar name outer
    have new : soFar.has name = false := by
      rw [List.map_append, List.nodup_append] at distinct
      have apart := fun n hn => distinct.2.2 n hn name List.mem_cons_self
      simpa [Members.has] using apart
    have moved : soFar ++ (name, v) :: members = soFar ++ [(name, v)] ++ members := by simp
    have others := ih (fun n hn => h n (List.mem_cons_of_mem _ hn)) (soFar ++ [(name, v)])
      (moved ▸ distinct)
    have parts : memberLexemes ((name, v) :: members) ++ .mark '}' :: rest =
        .mark ',' :: stringLexeme name :: .mark ':' ::
          (v.lexemes ++ (memberLexemes members ++ .mark '}' :: rest)) := by
      simp only [memberLexemes, List.cons_append, List.append_assoc]
    rw [parts, foldlM_cons_of_step? comma,
      foldlM_member first named new room, others, ← ite_and, ← moved]
    refine if_congr ?_ rfl rfl
    rw [membersDepth]
    omega

/-- A container is opened if one more may be open. -/
theorem takes_of_open? {v : Json} {c : Char} {ls : List Lexeme} {inside : List Frame → Due}
    (lexemes : v.lexemes = .mark c :: ls) (nested : 0 < v.depth)
    (opening : ∀ outer, open? outer (.mark c) =
      if outer.length < maxDepth then some (inside outer) else none)
    (h : ∀ outer : List Frame, outer.length + 1 ≤ maxDepth → ls.foldlM step? (inside outer) =
      if outer.length + v.depth ≤ maxDepth then some (complete v outer) else none) : Takes v := by
  intro outer room
  have first : step? (value outer) (.mark c) = open? outer (.mark c) := rfl
  rw [lexemes, List.foldlM_cons, first, opening]
  by_cases space : outer.length < maxDepth
  · rw [if_pos space]
    exact h outer space
  · rw [if_neg space, if_neg (show ¬outer.length + v.depth ≤ maxDepth by omega)]
    rfl

theorem takes_arr {items : List Json} (h : ∀ item ∈ items, Takes item) : Takes (.arr items) := by
  cases items with
  | nil =>
    refine takes_of_open? rfl (by decide) (fun _ => rfl) fun outer room => ?_
    rw [depth, itemsDepth, if_pos room]
    exact foldlM_cons_of_step? rfl []
  | cons item items =>
    have parts : (Json.arr (item :: items)).lexemes =
        .mark '[' :: (item.lexemes ++ (itemLexemes items ++ [.mark ']'])) := by
      simp only [lexemes, List.cons_append, List.append_assoc]
    refine takes_of_open? parts (Nat.succ_pos _) (fun _ => rfl) fun outer room => ?_
    have first := h item List.mem_cons_self (.arr [] :: outer) room
    have others := foldlM_items (fun i hi => h i (List.mem_cons_of_mem _ hi)) [item] room []
    rw [foldlM_itemOrEnd, foldlM_append_of_ite first, complete, others, ← ite_and]
    refine if_congr ?_ rfl rfl
    rw [depth, itemsDepth, List.length_cons]
    omega

theorem takes_obj {members : Members Json} (distinct : (members.map Prod.fst).Nodup)
    (h : ∀ m ∈ members, Takes m.2) : Takes (.obj members) := by
  cases members with
  | nil =>
    refine takes_of_open? rfl (by decide) (fun _ => rfl) fun outer room => ?_
    rw [depth, membersDepth, if_pos room]
    exact foldlM_cons_of_step? rfl []
  | cons m members =>
    obtain ⟨name, v⟩ := m
    have first : Takes v := h (name, v) List.mem_cons_self
    have parts : (Json.obj ((name, v) :: members)).lexemes = .mark '{' :: stringLexeme name ::
        .mark ':' :: (v.lexemes ++ (memberLexemes members ++ [.mark '}'])) := by
      simp only [lexemes, List.cons_append, List.append_assoc]
    refine takes_of_open? parts (Nat.succ_pos _) (fun _ => rfl) fun outer room => ?_
    have named : step? (keyOrEnd outer) (stringLexeme name) = some (colon [] name outer) :=
      openKey?_stringLexeme [] name outer
    have others := foldlM_members (fun n hn => h n (List.mem_cons_of_mem _ hn)) [(name, v)]
      distinct room []
    rw [foldlM_member first named rfl room, List.nil_append, others, ← ite_and]
    refine if_congr ?_ rfl rfl
    rw [depth, membersDepth]
    omega

/-- An exact value is read back, unless it is too deep. -/
theorem takes_of_isExact {v : Json} (h : v.IsExact) : Takes v := by
  induction h with
  | null => exact takes_of_step? rfl rfl fun _ => rfl
  | bool b => cases b <;> exact takes_of_step? rfl rfl fun _ => rfl
  | int low high =>
    refine takes_of_step? rfl rfl fun outer => ?_
    rw [step?, open?, scalar?_intChars low high]
    rfl
  | str s =>
    refine takes_of_step? rfl rfl fun outer => ?_
    rw [stringLexeme, step?, open?, unescape?_escape]
    exact congrArg (fun s => some (complete (.str s) outer)) String.ofList_toList
  | arr _ ih => exact takes_arr ih
  | obj distinct _ ih => exact takes_obj distinct ih

end Due

/-- A value that JSON text can hold exactly is read back, unless it is nested too deeply. -/
theorem ofText?_text {v : Json} (h : v.IsExact) :
    ofText? v.text = if v.depth ≤ maxDepth then some v else none := by
  have found : scan? .between v.text.toList = some v.lexemes := by
    rw [text, String.toList_ofList]
    exact scan?_flatMap_chars (printable_lexemes h)
  have taken := Due.takes_of_isExact h [] (Nat.zero_le _)
  rw [List.length_nil, Nat.zero_add] at taken
  have read : ofText? v.text = ofLexemes? v.lexemes := by
    rw [ofText?, found]
    rfl
  rw [read, ofLexemes?, taken]
  by_cases shallow : v.depth ≤ maxDepth
  · rw [if_pos shallow, if_pos shallow]
    rfl
  · rw [if_neg shallow, if_neg shallow]

theorem newline_not_mem_text {v : Json} (h : v.IsExact) : '\n' ∉ v.text.toList := by
  rw [text, String.toList_ofList]
  exact (printable_lexemes h).newline_not_mem

end TagRights.Json
