import TagRights.Pattern.Size
import TagRights.Pattern.Bracket
import TagRights.Pattern.Basic
import TagRights.Unicode.Case

namespace TagRights.Pattern

open Reader

/-- One of the things that stand side by side. -/
inductive Item where
  | pattern (n : Nested Pattern)
  | changeOfFlags

def Item.nested : Item → Nested Pattern
  | pattern n => n
  | changeOfFlags => .leaf .empty

/-- What has been read of a group, or of the whole pattern. -/
structure Part where
  /-- The number of the group, if it has one. -/
  index : Option Nat := none
  /-- The flags that held before the group. -/
  outerFlags : Flags := {}
  /-- The alternatives that are complete, the last first. -/
  branches : List (Nested Pattern) := []
  /-- What stands side by side in the alternative that is not, the last first. -/
  items : List Item := []

namespace Part

def add (p : Part) (i : Item) : Part :=
  { p with items := i :: p.items }

def branch (p : Part) : Nested Pattern :=
  Nested.join ofParts (p.items.reverse.map Item.nested)

/-- All that has been read, within the group. -/
def value (p : Part) : Nested Pattern :=
  Nested.join ofBranches (p.branch :: p.branches).reverse

/-- The group itself. -/
def grouped (p : Part) : Nested Pattern :=
  p.value.wrap fun q => match p.index with
    | none => q
    | some n => group n q

def nextBranch (p : Part) : Part :=
  { p with branches := p.branch :: p.branches, items := [] }

/-- Repeats the last item, which there must be. -/
def repeatLast? (p : Part) (least : Nat) (most : Option Nat) (greedy : Bool) : Option Part :=
  match p.items with
  | [] | .changeOfFlags :: _ => none
  | .pattern n :: rest =>
    some { p with items := .pattern (n.wrap (repetition · least most greedy)) :: rest }

end Part

structure Progress where
  flags : Flags := {}
  /-- The names of groups, none of which may be given twice. -/
  names : List (List Char) := []
  /-- How many groups with a number there are so far. -/
  groups : Nat := 0
  inner : Part := {}
  outer : List Part := []

namespace Progress

def add (p : Progress) (n : Nested Pattern) : Progress :=
  { p with inner := p.inner.add (.pattern n) }

def addSet (p : Progress) (s : CharSet) : Progress :=
  p.add (.leaf (ofSet s !p.flags.unicode))

def addAssertion (p : Progress) (a : Assertion) : Progress :=
  p.add (.leaf (.assertion a))

def addLiteral (p : Progress) (c : Char) : Progress :=
  if p.flags.anyCase then p.addSet ((CharSet.single c).anyCase p.flags.unicode)
  else p.add (.leaf (.literal [c]))

/-- Changes the flags for what follows in the group. -/
def changeFlags (p : Progress) (f : Flags) : Progress :=
  { p with flags := f, inner := p.inner.add .changeOfFlags }

/-- Begins a group in which `f` holds. -/
def opened (p : Progress) (f : Flags) : Progress :=
  { p with flags := f, inner := { outerFlags := p.flags }, outer := p.inner :: p.outer }

/-- Begins a group that has a number. -/
def openedGroup (p : Progress) : Progress :=
  let n := p.groups + 1
  { p with
    groups := n
    inner := { outerFlags := p.flags, index := some n }
    outer := p.inner :: p.outer }

/-- Ends the innermost group. -/
def closed? (p : Progress) : Option Progress :=
  match p.outer with
  | [] => none
  | o :: rest =>
    some { p with
      flags := p.inner.outerFlags
      inner := o.add (.pattern p.inner.grouped)
      outer := rest }

/-- Any character, or any other than those that end a line. -/
def dot (f : Flags) : CharSet :=
  if f.dotAll then .all
  else if f.carriageReturns then (CharSet.ofChars ['\n', '\r']).not
  else (CharSet.single '\n').not

def lineStart (f : Flags) : Assertion :=
  if f.eachLine then .lineStart f.carriageReturns else .textStart

def lineEnd (f : Flags) : Assertion :=
  if f.eachLine then .lineEnd f.carriageReturns else .textEnd

end Progress

def isNameStart (c : Char) : Bool :=
  c == '_' || Unicode.alphabetic.contains c || Unicode.newLetters.contains c

def isNameChar (c : Char) : Bool :=
  isNameStart c || c == '.' || c == '[' || c == ']' || Unicode.numbers.contains c ||
    Unicode.newNumbers.contains c

/-- A group after its opening parenthesis, or a change of flags. A group that only looks ahead or
behind is refused. -/
def openGroup (p : Progress) : Reader Progress := do
  skip p.flags
  match ← optional (Reader.char '?') with
  | none => return p.openedGroup
  | some _ =>
    let marked ← optional (word ['P', '<'] <|> Reader.char '<')
    match marked with
    | some _ =>
      let name ← run isNameChar
      Reader.char '>'
      guard (name.head?.any isNameStart && !p.names.contains name)
      return { p with names := name :: p.names }.openedGroup
    | none =>
      let letters ← run fun c => c != ':' && c != ')'
      match p.flags.change? letters with
      | none => failure
      | some f =>
        match ← satisfying fun _ => true with
        | ':' => return p.opened f
        | _ =>
          guard !letters.isEmpty
          return p.changeFlags f

/-- The greatest number that a repetition can have. -/
def maxCount : Nat := 4294967295

/-- A number, with space around it. -/
def count (f : Flags) : Reader Nat := do
  discard <| run Text.isBlank
  let digits ← many (symbol f Char.isDigit)
  discard <| many (symbol f Text.isBlank)
  guard !digits.isEmpty
  let n := Nat.ofDigitChars 10 digits 0
  guard (n ≤ maxCount)
  return n

/-- How often the last item is repeated, after an opening brace. -/
def counts (f : Flags) : Reader (Nat × Option Nat) := do
  skip f
  let least ← count f
  let bounds ←
    if (← peek) = some ',' then do
      discard <| symbol f (· == ',')
      if (← peek) = some '}' then pure (least, none)
      else do
        let most ← count f
        guard (least ≤ most)
        pure (least, some most)
    else pure (least, some least)
  discard <| symbol f (· == '}')
  return bounds

/-- Repeats the last item. A question mark after the repetition turns around whether it is
greedy. -/
def repeatLast (p : Progress) (least : Nat) (most : Option Nat) : Reader Progress := do
  let mark ← optional (Reader.char '?')
  match p.inner.repeatLast? least most (mark.isSome == p.flags.lazy) with
  | none => failure
  | some part => return { p with inner := part }

/-- One step, up to the end of the text. -/
def step (p : Progress) : Reader (Progress ⊕ Nested Pattern) := do
  skip p.flags
  match ← optional (satisfying fun _ => true) with
  | none =>
    guard p.outer.isEmpty
    return .inr p.inner.value
  | some c =>
    match c with
    | '(' => return .inl (← openGroup p)
    | ')' =>
      match p.closed? with
      | none => failure
      | some p => return .inl p
    | '|' => return .inl { p with inner := p.inner.nextBranch }
    | '[' =>
      let n ← bracketed p.flags
      return .inl (p.add (n.map (ofSet · !p.flags.unicode)))
    | '?' => return .inl (← repeatLast p 0 (some 1))
    | '*' => return .inl (← repeatLast p 0 none)
    | '+' => return .inl (← repeatLast p 1 none)
    | '{' =>
      let (least, most) ← counts p.flags
      return .inl (← repeatLast p least most)
    | '.' =>
      guard p.flags.unicode
      return .inl (p.addSet (Progress.dot p.flags))
    | '^' => return .inl (p.addAssertion (Progress.lineStart p.flags))
    | '$' => return .inl (p.addAssertion (Progress.lineEnd p.flags))
    | '\\' =>
      match ← escape p.flags with
      | .literal c => return .inl (p.addLiteral c)
      | .set s => return .inl (p.addSet s)
      | .assertion a => return .inl (p.addAssertion a)
    | c => return .inl (p.addLiteral c)

/-- The pattern that `s` writes. Patterns that are too deep or too large are refused. -/
def ofText? (s : String) : Option Pattern := do
  let (n, _) ← loop step {} s.toList
  guard (n.height ≤ maxHeight && n.value.fits)
  return n.value

end TagRights.Pattern
