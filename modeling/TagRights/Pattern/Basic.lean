import TagRights.CharSet

namespace TagRights

/-- What can be asked about the words on the two sides of a place. -/
inductive WordEdge where
  | boundary
  | inside
  | start
  | stop
  /-- No word character before the place. -/
  | startHalf
  /-- No word character after the place. -/
  | stopHalf
  deriving DecidableEq

def WordEdge.holds (before after : Bool) : WordEdge → Bool
  | boundary => before != after
  | inside => before == after
  | start => !before && after
  | stop => before && !after
  | startHalf => !before
  | stopHalf => !after

/-- What a pattern can ask about a place between the characters. -/
inductive Assertion where
  | textStart
  | textEnd
  /-- Lines may end in a line feed alone, or in a carriage return with or without one. -/
  | lineStart (carriageReturns : Bool)
  | lineEnd (carriageReturns : Bool)
  /-- Words may have all word characters or only those of ASCII. -/
  | word (unicode : Bool) (edge : WordEdge)
  deriving DecidableEq

/-- A text matches if some part of it has the shape that the pattern describes. -/
inductive Pattern where
  | empty
  /-- One character after the other. There is at least one. -/
  | literal (cs : List Char)
  /-- One character of a set. A set of bytes counts as another than the same one of characters. -/
  | set (s : CharSet) (bytes : Bool)
  | assertion (a : Assertion)
  /-- Groups are counted from the left. -/
  | group (index : Nat) (p : Pattern)
  /-- From `least` to `most` times in a row. Without `most` there is no limit. A greedy repetition
  would rather take more than less, which makes no difference to whether a text matches. -/
  | repeated (p : Pattern) (least : Nat) (most : Option Nat) (greedy : Bool)
  | seq (p q : Pattern)
  | alt (p q : Pattern)
  deriving DecidableEq

namespace Pattern

/-- The least number of bytes that a text with the shape can have, if any text has it. -/
def minLength? : Pattern → Option Nat
  | empty | assertion _ => some 0
  | literal cs => some (cs.foldl (fun n c => n + c.utf8Size) 0)
  | set s _ => s.intervals.head?.map (·.1.utf8Size)
  | group _ p => p.minLength?
  | repeated p least _ _ => p.minLength?.map (· * least)
  | seq p q => do return (← p.minLength?) + (← q.minLength?)
  | alt p q => do return min (← p.minLength?) (← q.minLength?)

/-- The greatest number of bytes that a text with the shape can have, if there is one. -/
def maxLength? : Pattern → Option Nat
  | empty | assertion _ => some 0
  | literal cs => some (cs.foldl (fun n c => n + c.utf8Size) 0)
  | set s _ => s.intervals.getLast?.map (·.2.utf8Size)
  | group _ p => p.maxLength?
  | repeated p _ most _ => do return (← p.maxLength?) * (← most)
  | seq p q => do return (← p.maxLength?) + (← q.maxLength?)
  | alt p q => do return max (← p.maxLength?) (← q.maxLength?)

/-- Whether no character can be taken. -/
def takesNothing (p : Pattern) : Bool :=
  p.maxLength? == some 0

/-- Whether some character has to be taken. -/
def takesSomething (p : Pattern) : Bool :=
  p.minLength?.any (0 < ·)

/-- Whether a match has to begin where the text does. -/
def startsText : Pattern → Bool
  | assertion .textStart => true
  | group _ p => p.startsText
  | repeated p least _ _ => 0 < least && p.startsText
  | seq p q => p.startsText || (p.takesNothing && q.startsText)
  | alt p q => p.startsText && q.startsText
  | _ => false

/-- Whether a match has to end where the text does. -/
def endsText : Pattern → Bool
  | assertion .textEnd => true
  | group _ p => p.endsText
  | repeated p least _ _ => 0 < least && p.endsText
  | seq p q => q.endsText || (p.endsText && q.takesNothing)
  | alt p q => p.endsText && q.endsText
  | _ => false

/-- A set with one character only is a literal, and without any it is one of bytes. -/
def ofSet (s : CharSet) (bytes : Bool) : Pattern :=
  if s.isEmpty then set s true
  else match s.single? with
    | some c => literal [c]
    | none => set s bytes

/-- What stands side by side in a pattern. -/
def parts : Pattern → List Pattern
  | empty => []
  | seq p q => p.parts ++ q.parts
  | p => [p]

def branches : Pattern → List Pattern
  | alt p q => p.branches ++ q.branches
  | p => [p]

/-- Literals side by side are one literal. -/
def joinLiterals : List Pattern → List Pattern
  | [] => []
  | p :: rest =>
    match p, joinLiterals rest with
    | literal cs, literal ds :: others => literal (cs ++ ds) :: others
    | p, others => p :: others

def row : List Pattern → Pattern
  | [] => empty
  | [p] => p
  | p :: rest => seq p (row rest)

def ofParts (ps : List Pattern) : Pattern :=
  row (joinLiterals (ps.flatMap parts))

def choice : List Pattern → Pattern
  | [] => ofSet .empty true
  | [p] => p
  | p :: rest => alt p (choice rest)

def char? : Pattern → Option Char
  | literal [c] => some c
  | _ => none

def set? : Pattern → Option CharSet
  | set s _ => some s
  | _ => none

/-- Alternatives that are all characters, or all sets, are a set. -/
def ofAlternatives (ps : List Pattern) : Pattern :=
  match ps.flatMap branches with
  | [] => choice []
  | [p] => p
  | ps =>
    match ps.mapM char?, ps.mapM set? with
    | some cs, _ => ofSet (.ofChars cs) false
    | none, some sets => ofSet (.unionAll sets) false
    | none, none => choice ps

/-- What two lists begin with. -/
def commonStart : List Pattern → List Pattern → List Pattern
  | p :: ps, q :: qs => if p = q then p :: commonStart ps qs else []
  | _, _ => []

/-- What all the rows begin with, if each has more than one part. -/
def sharedStart : List (List Pattern) → List Pattern
  | [] => []
  | ps :: rows =>
    if (ps :: rows).all (1 < ·.length) then rows.foldl commonStart ps else []

def ofBranches (ps : List Pattern) : Pattern :=
  let rows := (ps.flatMap branches).map parts
  match sharedStart rows with
  | [] => ofAlternatives ps
  | start =>
    let rests := rows.map fun row => ofParts (row.drop start.length)
    ofParts (start ++ [ofAlternatives rests])

/-- The repetition of a pattern. What takes no character need not be repeated. -/
def repetition (p : Pattern) (least : Nat) (most : Option Nat) (greedy : Bool) : Pattern :=
  let (least, most) :=
    if p.takesNothing then (min least 1, some (min (most.getD 1) 1)) else (least, most)
  if most = some 0 then empty
  else if least = 1 ∧ most = some 1 then p
  else repeated p least most greedy

end Pattern

end TagRights
