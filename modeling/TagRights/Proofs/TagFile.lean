import TagRights.TagFile

namespace TagRights

namespace Reader

variable {α β : Type} {r : Reader α} {cs rest last : List Char} {a : α} {as : List α}

theorem bind_of_some (h : r cs = some (a, rest)) (next : α → Reader β) :
    (r >>= next) cs = next a rest := by
  simp only [bind, StateT.bind, h]
  rfl

theorem bind_of_none (h : r cs = none) (next : α → Reader β) : (r >>= next) cs = none := by
  simp only [bind, StateT.bind, h]
  rfl

theorem char_of_ne {c d : Char} (h : d ≠ c) : char c (d :: cs) = none := by
  have refused : satisfying (· == c) (d :: cs) = none := by
    rw [satisfying, if_neg (by simpa using h)]
  change (satisfying (· == c) (d :: cs) >>= fun (_, rest) => pure ((), rest)) = none
  rw [refused]
  rfl

theorem seqLeft_of_some {b : β} {after : Reader β} (h : r cs = some (a, rest))
    (next : after rest = some (b, last)) : (r <* after) cs = some (a, last) :=
  (bind_of_some h _).trans ((bind_of_some next _).trans rfl)

theorem seqRight_of_some {after : Reader β} (h : r cs = some (a, rest)) :
    (r *> after) cs = after rest :=
  bind_of_some h _

theorem orElse_of_some (h : r cs = some (a, rest)) (other : Reader α) :
    (r <|> other) cs = some (a, rest) := by
  change (r cs <|> other cs) = _
  rw [h]
  rfl

theorem orElse_of_none {other : Reader α} (h : r cs = none) : (r <|> other) cs = other cs := by
  change (r cs <|> other cs) = _
  rw [h]
  rfl

theorem map_of_some (h : r cs = some (a, rest)) (f : α → β) :
    (f <$> r) cs = some (f a, rest) := by
  change (r cs >>= fun (a, rest) => pure (f a, rest)) = _
  rw [h]
  rfl

theorem optional_of_some (h : r cs = some (a, rest)) : optional r cs = some (some a, rest) :=
  orElse_of_some (map_of_some h some) _

/-- A run ends where a character does not belong to it. -/
theorem run_append_cons {p : Char → Bool} {c : Char} (h : ∀ d ∈ cs, p d) (hc : ¬p c) :
    run p (cs ++ c :: rest) = some (cs, c :: rest) := by
  rw [run, List.takeWhile_append_of_pos h, List.dropWhile_append_of_pos h,
    List.takeWhile_cons_of_neg hc, List.dropWhile_cons_of_neg hc, List.append_nil]

theorem many_of_none (h : r cs = none) : many r cs = some ([], cs) := by
  rw [many, upTo, h]

theorem many_of_some (h : r cs = some (a, rest)) (shorter : rest.length < cs.length)
    (more : many r rest = some (as, last)) : many r cs = some (a :: as, last) := by
  rw [many, Option.some.injEq] at more
  rw [many, upTo, h]
  simp only [if_pos shorter, more]

theorem separated_of_some {separator : Reader Unit} (h : r cs = some (a, rest))
    (more : many (separator *> r) rest = some (as, last)) :
    separated r separator cs = some (a :: as, last) :=
  (bind_of_some h _).trans ((bind_of_some more _).trans rfl)

end Reader

namespace Toml

open Reader

/-- A text that can stand between single quotes. -/
def Quotable (s : String) : Prop :=
  s ≠ "" ∧ ∀ c ∈ s.toList, (isPlain c && c != '\'') = true

/-- A text between single quotes. -/
def quote (s : String) : List Char :=
  '\'' :: (s.toList ++ ['\''])

section

variable {s : String} (h : Quotable s) (rest : List Char)

include h

/-- A text in single quotes is read back as it is. -/
theorem literalString_quote : literalString (quote s ++ rest) = some (s, rest) := by
  have chars : quote s ++ rest = '\'' :: (s.toList ++ '\'' :: rest) := by simp [quote]
  have opening : char '\'' (quote s ++ rest) = some ((), s.toList ++ '\'' :: rest) := by
    rw [chars]
    rfl
  have body : run (fun c => isPlain c && c != '\'') (s.toList ++ '\'' :: rest) =
      some (s.toList, '\'' :: rest) := run_append_cons h.2 (by decide)
  rw [literalString, bind_of_some opening, bind_of_some body]
  change some (String.ofList s.toList, rest) = _
  rw [String.ofList_toList]

omit h in
theorem multiline_of_none {q : Char} {cs : List Char} (none : word [q, q, q] cs = none)
    (piece : Reader (List Char)) : multiline q piece cs = .none :=
  bind_of_none none _

/-- The quotes around a text of several lines are three, and here there is one. -/
theorem quoted_quote : quoted (quote s ++ rest) = some (s, rest) := by
  obtain ⟨c, cs, chars⟩ := List.exists_cons_of_ne_nil (mt String.toList_eq_nil_iff.1 h.1)
  have other : c ≠ '\'' := by
    have plain := h.2 c (chars ▸ List.mem_cons_self)
    simp only [Bool.and_eq_true, bne_iff_ne] at plain
    exact plain.2
  have start : quote s ++ rest = '\'' :: c :: (cs ++ '\'' :: rest) := by simp [quote, chars]
  have single : word ['\'', '\'', '\''] (quote s ++ rest) = none := by
    have opening : char '\'' (quote s ++ rest) = some ((), c :: (cs ++ '\'' :: rest)) := by
      rw [start]
      rfl
    rw [word, bind_of_some opening]
    exact bind_of_none (char_of_ne other) _
  have double : word ['"', '"', '"'] (quote s ++ rest) = none := by
    rw [start]
    rfl
  have basic : basicString (quote s ++ rest) = none := by
    rw [start]
    rfl
  rw [quoted, orElse_of_none (multiline_of_none double _), orElse_of_none basic,
    orElse_of_none (multiline_of_none single _), literalString_quote h]

theorem value_quote (depth : Nat) : value depth (quote s ++ rest) = some (.text s, rest) := by
  have scalar : scalar (quote s ++ rest) = some (.text s, rest) :=
    orElse_of_some (map_of_some (quoted_quote h rest) _) _
  cases depth with
  | zero => exact scalar
  | succ depth => exact orElse_of_some scalar _

end

theorem filler_of_none {cs : List Char}
    (h : (discard (run1 isGap) <|> newline <|> (comment <* newline)) cs = none) :
    filler cs = some ((), cs) :=
  map_of_some (many_of_none h) _

theorem arrayOf_of_separated {item : Reader Value} {cs rest : List Char} {vs : List Value}
    (start : filler cs = some ((), cs))
    (items : separated (item <* filler) (char ',' *> filler) cs = some (vs, ']' :: rest)) :
    arrayOf item ('[' :: cs) = some (.array vs, rest) := by
  have opening : char '[' ('[' :: cs) = some ((), cs) := rfl
  rw [arrayOf, bind_of_some opening, bind_of_some start, bind_of_some (optional_of_some items)]
  rfl

theorem value_of_arrayOf {depth : Nat} {cs rest : List Char} {v : Value}
    (h : arrayOf (value depth) ('[' :: cs) = some (v, rest)) :
    value (depth + 1) ('[' :: cs) = some (v, rest) := by
  have scalar : scalar ('[' :: cs) = none := rfl
  rw [value, orElse_of_none scalar, orElse_of_some h]

section

variable {name code : String} (hname : Quotable name) (hcode : Quotable code)

include hname hcode

/-- Two quoted texts in brackets are an array of them. -/
theorem arrayOf_quotes (depth : Nat) (rest : List Char) :
    arrayOf (value depth) ('[' :: (quote name ++ ',' :: (quote code ++ ']' :: rest))) =
      some (.array [.text name, .text code], rest) := by
  have first : (value depth <* filler) (quote name ++ ',' :: (quote code ++ ']' :: rest)) =
      some (.text name, ',' :: (quote code ++ ']' :: rest)) :=
    seqLeft_of_some (value_quote hname _ depth) (filler_of_none rfl)
  have second : (value depth <* filler) (quote code ++ ']' :: rest) =
      some (.text code, ']' :: rest) :=
    seqLeft_of_some (value_quote hcode _ depth) (filler_of_none rfl)
  have comma : (char ',' *> filler) (',' :: (quote code ++ ']' :: rest)) =
      some ((), quote code ++ ']' :: rest) :=
    (seqRight_of_some rfl).trans (filler_of_none rfl)
  have others : many ((char ',' *> filler) *> (value depth <* filler))
      (',' :: (quote code ++ ']' :: rest)) = some ([.text code], ']' :: rest) :=
    many_of_some ((seqRight_of_some comma).trans second) (by simp [quote]; omega)
      (many_of_none rfl)
  exact arrayOf_of_separated (filler_of_none rfl) (separated_of_some first others)

/-- What stands after the equals sign: an array of one tag. -/
theorem value_entry (depth : Nat) :
    value (depth + 2) ('[' :: '[' :: (quote name ++ ',' :: (quote code ++ [']', ']']))) =
      some (.array [.array [.text name, .text code]], []) := by
  have entry : value (depth + 1) ('[' :: (quote name ++ ',' :: (quote code ++ [']', ']']))) =
      some (.array [.text name, .text code], [']']) :=
    value_of_arrayOf (arrayOf_quotes hname hcode depth [']'])
  have only : separated (value (depth + 1) <* filler) (char ',' *> filler)
      ('[' :: (quote name ++ ',' :: (quote code ++ [']', ']']))) =
        some ([.array [.text name, .text code]], [']']) :=
    separated_of_some (seqLeft_of_some entry (filler_of_none rfl)) (many_of_none rfl)
  exact value_of_arrayOf (arrayOf_of_separated (filler_of_none rfl) only)

end

theorem dottedKey_tag (cs : List Char) :
    dottedKey ('t' :: 'a' :: 'g' :: '=' :: cs) = some (([], "tag"), '=' :: cs) := by
  have parts : separated (gap *> simpleKey <* gap) (char '.') ('t' :: 'a' :: 'g' :: '=' :: cs) =
      some (["tag"], '=' :: cs) := separated_of_some rfl (many_of_none rfl)
  rw [dottedKey, bind_of_some parts]
  rfl

theorem assignment_tag {value : Reader Value} {cs rest : List Char} {v : Value}
    (start : gap cs = some ((), cs)) (h : value cs = some (v, rest)) :
    assignment value ('t' :: 'a' :: 'g' :: '=' :: cs) = some ((([], "tag"), v), rest) := by
  have equals : char '=' ('=' :: cs) = some ((), cs) := rfl
  rw [assignment, bind_of_some (dottedKey_tag cs), bind_of_some equals, bind_of_some start,
    bind_of_some h]
  rfl

/-- A document of one assignment, which ends without a line end. -/
theorem statements_tag {cs : List Char} {v : Value} (start : gap cs = some ((), cs))
    (h : value maxDepth cs = some (v, [])) :
    statements ('t' :: 'a' :: 'g' :: '=' :: cs) = some ([.assign [] "tag" v], []) := by
  let line : Reader (Option Statement) :=
    some <$> (gap *> statement <* lineEnd) <|> (fun _ => none) <$> emptyLine
  have assigned : statement ('t' :: 'a' :: 'g' :: '=' :: cs) = some (.assign [] "tag" v, []) := by
    rw [statement, orElse_of_none rfl, orElse_of_none rfl,
      bind_of_some (assignment_tag start h)]
    rfl
  have indented : (gap *> statement) ('t' :: 'a' :: 'g' :: '=' :: cs) =
      some (.assign [] "tag" v, []) := (seqRight_of_some rfl).trans assigned
  have read : line ('t' :: 'a' :: 'g' :: '=' :: cs) = some (some (.assign [] "tag" v), []) :=
    orElse_of_some (map_of_some (seqLeft_of_some indented rfl) some) _
  have lines : many line ('t' :: 'a' :: 'g' :: '=' :: cs) =
      some ([some (.assign [] "tag" v)], []) :=
    many_of_some read (by simp) (many_of_none rfl)
  have unmarked : discard (optional (char '\uFEFF')) ('t' :: 'a' :: 'g' :: '=' :: cs) =
      some ((), 't' :: 'a' :: 'g' :: '=' :: cs) := rfl
  rw [statements, bind_of_some unmarked, bind_of_some lines]
  rfl

end Toml

namespace TagFile

open Toml

/-- A registry file with this tag. -/
def oneLine (name code : String) : String :=
  "tag=[['" ++ name ++ "','" ++ code ++ "']]"

/-- The document in one line has the one tag, with its name and its code. -/
theorem document?_oneLine {name code : String} (hname : Quotable name) (hcode : Quotable code) :
    document? (oneLine name code) =
      some [("tag", .array [.array [.text name, .text code]])] := by
  have chars : (oneLine name code).toList =
      't' :: 'a' :: 'g' :: '=' :: '[' :: '[' ::
        (quote name ++ ',' :: (quote code ++ [']', ']'])) := by
    simp [oneLine, quote]
  have read : statements (oneLine name code).toList =
      some ([.assign [] "tag" (.array [.array [.text name, .text code]])], []) := by
    rw [chars]
    exact statements_tag rfl (value_entry hname hcode _)
  have whole : statements.all? (oneLine name code) =
      some [.assign [] "tag" (.array [.array [.text name, .text code]])] := by
    rw [Reader.all?, Reader.seqLeft_of_some read rfl]
    rfl
  rw [document?, whole]
  rfl

/-- Nothing is said of the level, the data and the condition. -/
theorem definitions?_oneLine {name code : String} (hname : Quotable name)
    (hcode : Quotable code) :
    (document? (oneLine name code)).bind definitions? = some [{ name, code }] := by
  rw [document?_oneLine hname hcode]
  rfl

end TagFile

end TagRights
