import Mathlib.Data.List.Chain
import TagRights.Json.Lexeme

namespace TagRights.Json

variable {rest : List Char}

theorem scan?_of_step? {mode next : Mode} {c : Char} {done : List Lexeme}
    (h : mode.step? c = some (done, next)) (cs : List Char) :
    scan? mode (c :: cs) = (scan? next cs).map (done ++ ·) := by
  have onwards : scan? mode (c :: cs) = (scan? next cs).bind fun ls => some (done ++ ls) := by
    rw [scan?, h]
    rfl
  rw [onwards, Option.map_eq_bind]
  rfl

theorem scan?_of_step?_none {mode : Mode} {c : Char} (h : mode.step? c = none) (cs : List Char) :
    scan? mode (c :: cs) = none := by
  rw [scan?, h]
  rfl

/-- A step that completes nothing. -/
theorem scan?_of_step?_nil {mode next : Mode} {c : Char} (h : mode.step? c = some ([], next))
    (cs : List Char) : scan? mode (c :: cs) = scan? next cs := by
  rw [scan?_of_step? h]
  exact Option.map_id_apply

theorem not_isBare_of_isMark {c : Char} (h : isMark c) : isBare c = false := by
  simp only [isMark, Bool.or_eq_true, beq_iff_eq] at h
  rcases h with ((((rfl | rfl) | rfl) | rfl) | rfl) | rfl <;> rfl

theorem scan?_mark {c : Char} (h : isMark c) :
    scan? .between (c :: rest) = (scan? .between rest).map (.mark c :: ·) := by
  have step : Mode.between.step? c = some ([.mark c], .between) := by
    simp only [isMark, Bool.or_eq_true, beq_iff_eq] at h
    rcases h with ((((rfl | rfl) | rfl) | rfl) | rfl) | rfl <;> rfl
  exact scan?_of_step? step rest

section quoted

variable {soFar : List Char}

theorem scan?_quoted_plain {c : Char} (notQuote : c ≠ '"') (notBackslash : c ≠ '\\') :
    scan? (.quoted soFar) (c :: rest) = scan? (.quoted (c :: soFar)) rest :=
  scan?_of_step?_nil (by simp only [Mode.step?, notQuote, notBackslash, if_false]) rest

theorem scan?_quoted_backslash (c : Char) :
    scan? (.quoted soFar) ('\\' :: c :: rest) = scan? (.quoted (c :: '\\' :: soFar)) rest := by
  rw [scan?_of_step?_nil (show (Mode.quoted soFar).step? '\\' = some ([], .escaped soFar) from rfl),
    scan?_of_step?_nil rfl]

theorem digitChar_plain {n : Nat} (h : n < 16) : n.digitChar ≠ '"' ∧ n.digitChar ≠ '\\' :=
  (by decide : ∀ n : Fin 16, Nat.digitChar n ≠ '"' ∧ Nat.digitChar n ≠ '\\') ⟨n, h⟩

/-- An escaped character stays inside its string. -/
theorem scan?_escapeChar (c : Char) : scan? (.quoted soFar) (escapeChar c ++ rest) =
    scan? (.quoted ((escapeChar c).reverse ++ soFar)) rest := by
  unfold escapeChar
  split
  case h_1 letter _ => exact scan?_quoted_backslash letter
  case h_2 plain =>
    split
    case isTrue control =>
      have high := digitChar_plain (show c.toNat / 16 < 16 by omega)
      have low := digitChar_plain (show c.toNat % 16 < 16 by omega)
      simp only [List.cons_append, List.nil_append]
      rw [scan?_quoted_backslash, scan?_quoted_plain (by decide) (by decide),
        scan?_quoted_plain (by decide) (by decide), scan?_quoted_plain high.1 high.2,
        scan?_quoted_plain low.1 low.2]
      rfl
    case isFalse _ =>
      obtain ⟨notQuote, notBackslash⟩ := plain_of_escapeLetter?_eq_none plain
      exact scan?_quoted_plain notQuote notBackslash

/-- Escapes keep a quoted string from ending early. -/
theorem scan?_escape (s : List Char) : scan? (.quoted soFar) (escape s ++ '"' :: rest) =
    (scan? .between rest).map (.quoted (soFar.reverse ++ escape s) :: ·) := by
  induction s generalizing soFar with
  | nil =>
    have closing : (Mode.quoted soFar).step? '"' = some ([.quoted soFar.reverse], .between) := rfl
    rw [escape, List.flatMap_nil, List.append_nil]
    exact scan?_of_step? closing rest
  | cons c cs ih =>
    have parts : escape (c :: cs) = escapeChar c ++ escape cs := rfl
    rw [parts, List.append_assoc, scan?_escapeChar, ih, List.reverse_append, List.reverse_reverse,
      List.append_assoc]

end quoted

section bare

variable {soFar word : List Char}

theorem scan?_bare_append (h : ∀ c ∈ word, isBare c) :
    scan? (.bare soFar) (word ++ rest) = scan? (.bare (word.reverse ++ soFar)) rest := by
  induction word generalizing soFar with
  | nil => rfl
  | cons c word ih =>
    have step : (Mode.bare soFar).step? c = some ([], .bare (c :: soFar)) := by
      simp only [Mode.step?, h c List.mem_cons_self, if_true]
    rw [List.cons_append, scan?_of_step?_nil step, ih fun d hd => h d (List.mem_cons_of_mem _ hd),
      List.reverse_cons, List.append_assoc]
    rfl

/-- A bare word ends before any other character. -/
theorem scan?_bare_end (h : ∀ c ∈ rest.head?, isBare c = false) :
    scan? (.bare soFar) rest = (scan? .between rest).map (.bare soFar.reverse :: ·) := by
  cases rest with
  | nil => rfl
  | cons c cs =>
    have other : isBare c = false := h c rfl
    have enter : Mode.between.step? c = Mode.start? c := rfl
    cases start : Mode.start? c with
    | none =>
      have leave : (Mode.bare soFar).step? c = none := by
        simp only [Mode.step?, other, Bool.false_eq_true, if_false, start, Option.map_none]
      rw [scan?_of_step?_none leave, scan?_of_step?_none (enter.trans start)]
      rfl
    | some found =>
      obtain ⟨done, next⟩ := found
      have leave : (Mode.bare soFar).step? c = some (.bare soFar.reverse :: done, next) := by
        simp only [Mode.step?, other, Bool.false_eq_true, if_false, start, Option.map_some]
      rw [scan?_of_step? leave, scan?_of_step? (enter.trans start), Option.map_map]
      rfl

theorem start?_of_isBare {c : Char} (h : isBare c) : Mode.start? c = some ([], .bare [c]) := by
  have notSpace : isSpace c = false := by
    rw [← Bool.not_eq_true]
    intro space
    simp only [isSpace, Bool.or_eq_true, beq_iff_eq] at space
    rcases space with ((rfl | rfl) | rfl) | rfl <;> exact absurd h (by decide)
  have notQuote : c ≠ '"' := by
    rintro rfl
    exact absurd h (by decide)
  have notMark : isMark c = false := by
    rw [← Bool.not_eq_true]
    intro mark
    rw [not_isBare_of_isMark mark] at h
    contradiction
  simp only [Mode.start?, notSpace, notQuote, notMark, h, if_true, if_false, Bool.false_eq_true]

/-- A run of bare characters is one lexeme if none follows it. -/
theorem scan?_bare (nonempty : word ≠ []) (h : ∀ c ∈ word, isBare c)
    (apart : ∀ c ∈ rest.head?, isBare c = false) :
    scan? .between (word ++ rest) = (scan? .between rest).map (.bare word :: ·) := by
  obtain ⟨c, cs, rfl⟩ := List.exists_cons_of_ne_nil nonempty
  have start : Mode.between.step? c = some ([], .bare [c]) :=
    start?_of_isBare (h c List.mem_cons_self)
  rw [List.cons_append, scan?_of_step?_nil start,
    scan?_bare_append fun d hd => h d (List.mem_cons_of_mem _ hd), scan?_bare_end apart,
    List.reverse_append, List.reverse_reverse]
  rfl

end bare

namespace Lexeme

/-- What a printer may write: a mark, an escaped string in quotes, or a bare word. -/
inductive Clean : Lexeme → Prop
  | mark {c : Char} (h : isMark c) : Clean (.mark c)
  | quoted (s : List Char) : Clean (.quoted (escape s))
  | bare {word : List Char} (nonempty : word ≠ []) (h : ∀ c ∈ word, isBare c) : Clean (.bare word)

/-- Two bare words would run together. -/
def Apart : Lexeme → Lexeme → Prop
  | .bare _, .bare _ => False
  | _, _ => True

/-- A lexeme that is apart from a bare word begins with another character. -/
theorem not_isBare_of_apart {word : List Char} {l : Lexeme} (clean : l.Clean)
    (h : Apart (.bare word) l) (rest : List Char) :
    ∀ c ∈ (l.chars ++ rest).head?, isBare c = false := by
  intro c hc
  cases clean with
  | mark mark =>
    simp only [chars, List.singleton_append, List.head?_cons, Option.mem_def, Option.some.injEq]
      at hc
    exact hc ▸ not_isBare_of_isMark mark
  | quoted s =>
    simp only [chars, List.cons_append, List.head?_cons, Option.mem_def, Option.some.injEq] at hc
    subst hc
    decide
  | bare => exact h.elim

/-- Line feeds inside strings are escaped. -/
theorem newline_not_mem_escape (s : List Char) : '\n' ∉ escape s := by
  intro mem
  obtain ⟨c, -, mem⟩ := List.mem_flatMap.1 mem
  unfold escapeChar at mem
  split at mem
  case h_1 letter h =>
    have inverse := (escapedChar?_of_escapeLetter? h).1
    simp only [List.mem_cons, Char.reduceEq, List.not_mem_nil, or_false, false_or] at mem
    rw [← mem] at inverse
    simp [escapedChar?] at inverse
  case h_2 plain =>
    split at mem
    case isTrue control =>
      have digits : ∀ n : Fin 16, '\n' ≠ Nat.digitChar n := by decide
      have high := digits ⟨c.toNat / 16, by omega⟩
      have low := digits ⟨c.toNat % 16, by omega⟩
      simp [high, low] at mem
    case isFalse control =>
      rw [List.mem_singleton] at mem
      subst mem
      exact control (by decide)

theorem Clean.newline_not_mem {l : Lexeme} (h : l.Clean) : '\n' ∉ l.chars := by
  intro mem
  cases h with
  | mark mark =>
    rw [chars, List.mem_singleton] at mem
    subst mem
    exact absurd mark (by decide)
  | quoted s =>
    simp [chars, newline_not_mem_escape] at mem
  | bare _ h => exact absurd (h _ mem) (by decide)

end Lexeme

open Lexeme

/-- Lexemes that can be printed: each is clean, and no two bare words meet. -/
structure Printable (ls : List Lexeme) : Prop where
  clean : ∀ l ∈ ls, l.Clean
  apart : ls.IsChain Apart

namespace Printable

variable {as bs ls : List Lexeme} {l : Lexeme} {c : Char}

theorem singleton (h : l.Clean) : Printable [l] :=
  ⟨by simpa using h, .singleton l⟩

theorem tail (h : Printable (l :: ls)) : Printable ls :=
  ⟨fun k hk => h.clean k (List.mem_cons_of_mem _ hk), h.apart.of_cons⟩

/-- A mark may stand anywhere. -/
theorem append_mark (ha : Printable as) (hc : isMark c) (hb : Printable bs) :
    Printable (as ++ .mark c :: bs) := by
  have follow : (.mark c :: bs).IsChain Apart := by
    cases bs with
    | nil => exact .singleton _
    | cons b bs => exact .cons_cons trivial hb.apart
  constructor
  · intro l hl
    rcases List.mem_append.1 hl with hl | hl
    · exact ha.clean l hl
    · rcases List.mem_cons.1 hl with rfl | hl
      · exact .mark hc
      · exact hb.clean l hl
  · refine List.isChain_append.2 ⟨ha.apart, follow, ?_⟩
    intro l _ m hm
    rw [List.head?_cons, Option.mem_def, Option.some.injEq] at hm
    subst hm
    cases l <;> trivial

theorem mark_cons (hc : isMark c) (h : Printable ls) : Printable (.mark c :: ls) :=
  append_mark ⟨by simp, .nil⟩ hc h

theorem newline_not_mem (h : Printable ls) : '\n' ∉ ls.flatMap chars := by
  intro mem
  obtain ⟨l, hl, mem⟩ := List.mem_flatMap.1 mem
  exact (h.clean l hl).newline_not_mem mem

end Printable

/-- Lexemes are found again in the text that they make. -/
theorem scan?_flatMap_chars {ls : List Lexeme} (h : Printable ls) :
    scan? .between (ls.flatMap Lexeme.chars) = some ls := by
  induction ls with
  | nil => rfl
  | cons l ls ih =>
    have others : scan? .between (ls.flatMap chars) = some ls := ih h.tail
    rw [List.flatMap_cons]
    cases h.clean l List.mem_cons_self with
    | mark mark =>
      rw [chars, List.singleton_append, scan?_mark mark, others]
      rfl
    | quoted s =>
      have opening : Mode.between.step? '"' = some ([], .quoted []) := rfl
      rw [chars, List.append_assoc, List.cons_append, scan?_of_step?_nil opening,
        List.singleton_append, scan?_escape, others]
      rfl
    | bare nonempty word =>
      have after : ∀ c ∈ (ls.flatMap chars).head?, isBare c = false := by
        cases ls with
        | nil => simp
        | cons k ls =>
          rw [List.flatMap_cons]
          exact not_isBare_of_apart (h.clean k (by simp)) h.apart.rel _
      rw [chars, scan?_bare nonempty word after, others]
      rfl

end TagRights.Json
