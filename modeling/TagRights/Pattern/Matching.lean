import TagRights.Pattern.Basic
import TagRights.Unicode.Alphabet

namespace TagRights

/-- A place between the characters of a text, or at one of its ends. -/
structure Place where
  before : Option Char
  after : Option Char

namespace Place

/-- The places of a text that follows `before`, one more than it has characters. -/
def ofText (before : Option Char) : List Char → List Place
  | [] => [⟨before, none⟩]
  | c :: cs => ⟨before, some c⟩ :: ofText (some c) cs

/-- A line neither starts nor ends within a carriage return and its line feed. -/
def startsLine (carriageReturns : Bool) (p : Place) : Bool :=
  match p.before with
  | none | some '\n' => true
  | some '\r' => carriageReturns && p.after != some '\n'
  | _ => false

def endsLine (carriageReturns : Bool) (p : Place) : Bool :=
  match p.after with
  | none => true
  | some '\n' => !carriageReturns || p.before != some '\r'
  | some '\r' => carriageReturns
  | _ => false

end Place

def isWordChar (unicode : Bool) (c : Char) : Bool :=
  if c.toNat < 0x80 then c.isAlphanum || c == '_' else unicode && Unicode.wordChars.contains c

def Assertion.holds (p : Place) : Assertion → Bool
  | textStart => p.before.isNone
  | textEnd => p.after.isNone
  | lineStart carriageReturns => p.startsLine carriageReturns
  | lineEnd carriageReturns => p.endsLine carriageReturns
  | word unicode edge =>
    edge.holds (p.before.any (isWordChar unicode)) (p.after.any (isWordChar unicode))

namespace Pattern

/-- For each place of a text, in order, whether it is in a set. -/
abbrev Marks := List Bool

/-- The places after the characters in `s` that begin at a marked place. -/
def advance (places : List Place) (s : CharSet) (marks : Marks) : Marks :=
  false :: List.zipWith (fun p marked => marked && p.after.any s.contains) places.dropLast marks

def both (m n : Marks) : Marks :=
  List.zipWith (· || ·) m n

/-- `f` applied `n` times, or as often as it makes a difference. -/
def times (f : Marks → Marks) : Nat → Marks → Marks
  | 0, marks => marks
  | n + 1, marks =>
    let next := f marks
    if next = marks then marks else times f n next

/-- The places that are reached by up to `n` applications of `f`. -/
def upTo (f : Marks → Marks) : Nat → Marks → Marks
  | 0, marks => marks
  | n + 1, marks =>
    let reached := both marks (f marks)
    if reached = marks then marks else upTo f n reached

/-- Whether every place is a match, whatever stands around it. -/
def isOptional : Pattern → Bool
  | empty => true
  | group _ p => p.isOptional
  | repeated p least _ _ => least == 0 || p.isOptional
  | seq p q => p.isOptional && q.isOptional
  | alt p q => p.isOptional || q.isOptional
  | _ => false

/-- The places where the pattern can end if it begins in a marked one. Of repetitions there need be
no more than there are places: among more than that, one takes no character and can be left out.

What stands in a loop, which goes on until there are no new places, need not repeat itself, and two
optional parts of it need not follow each other: the loop does that. So loops within loops are not
gone through again and again. -/
def ends (places : List Place) (inLoop : Bool) : Pattern → Marks → Marks
  | empty, marks => marks
  | literal cs, marks => cs.foldl (fun marks c => advance places (.single c) marks) marks
  | set s _, marks => advance places s marks
  | assertion a, marks => List.zipWith (fun p marked => marked && a.holds p) places marks
  | group _ p, marks => ends places inLoop p marks
  | seq p q, marks =>
    if inLoop && p.isOptional && q.isOptional then
      both (ends places true p marks) (ends places true q marks)
    else
      ends places (inLoop && p.isOptional) q (ends places (inLoop && q.isOptional) p marks)
  | alt p q, marks => both (ends places inLoop p marks) (ends places inLoop q marks)
  | repeated p least most _, marks =>
    if inLoop && least ≤ 1 then ends places true p marks
    else
      let reached := times (ends places false p) (min least places.length) marks
      match most with
      | none => upTo (ends places true p) places.length reached
      | some n => upTo (ends places false p) (min (n - least) places.length) reached

def occursIn (p : Pattern) (s : String) : Bool :=
  let places := Place.ofText none s.toList
  (ends places false p (places.map fun _ => true)).any id

end Pattern

end TagRights
