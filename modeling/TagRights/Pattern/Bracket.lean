import TagRights.Pattern.Escape

namespace TagRights.Pattern

structure Nested (α : Type) where
  value : α
  height : Nat

namespace Nested

variable {α β : Type}

def leaf (a : α) : Nested α := ⟨a, 0⟩

def map (f : α → β) (n : Nested α) : Nested β := ⟨f n.value, n.height⟩

/-- One level around a part. -/
def wrap (f : α → β) (n : Nested α) : Nested β := ⟨f n.value, n.height + 1⟩

/-- One level around two parts. -/
def pair (f : α → α → β) (m n : Nested α) : Nested β :=
  ⟨f m.value n.value, max m.height n.height + 1⟩

/-- One level around several parts. One part needs no level around it. -/
def join (f : List α → α) : List (Nested α) → Nested α
  | [] => leaf (f [])
  | [n] => n
  | ns => ⟨f (ns.map value), ns.foldl (fun h n => max h n.height) 0 + 1⟩

end Nested

def maxHeight : Nat := 250

open Reader

/-- An open bracket. -/
structure Bracket where
  negated : Bool
  /-- What stands before the last operation, which waits for what follows it. -/
  waiting : Option (Nested CharSet × (CharSet → CharSet → CharSet)) := none
  /-- The items since then, the last first. -/
  items : List (Nested CharSet) := []

namespace Bracket

def add (b : Bracket) (s : Nested CharSet) : Bracket :=
  { b with items := s :: b.items }

def folded (f : Flags) (s : CharSet) : CharSet :=
  if f.anyCase then s.anyCase f.unicode else s

/-- The set so far, after the operation that was waiting. -/
def value (f : Flags) (b : Bracket) : Nested CharSet :=
  let union := Nested.join CharSet.unionAll b.items.reverse
  match b.waiting with
  | none => union
  | some (left, op) => left.pair (fun s t => op (folded f s) (folded f t)) union

/-- The items are complete and `op` waits for further ones. -/
def operate (f : Flags) (b : Bracket) (op : CharSet → CharSet → CharSet) : Bracket :=
  { b with waiting := some (b.value f, op), items := [] }

/-- Without Unicode a set is one of bytes, which must be ASCII. -/
def check (f : Flags) (s : CharSet) : Reader Unit :=
  guard (f.unicode || s.isAscii)

/-- The set of a bracket that closes. Case is ignored before the set is turned around. -/
def close (f : Flags) (b : Bracket) : Reader (Nested CharSet) := do
  let n := (b.value f).wrap fun s => if b.negated then (folded f s).not else folded f s
  check f n.value
  return n

/-- What follows an opening bracket: perhaps a sign that turns the set around, and hyphens or else a
closing bracket that stand for themselves. -/
def start (f : Flags) : Reader Bracket := do
  skip f
  let negated ← optional (symbol f (· == '^'))
  let hyphens ← many (symbol f (· == '-'))
  let closing ← if hyphens.isEmpty then optional (symbol f (· == ']')) else pure none
  let items := (hyphens ++ closing.toList).map fun c => .leaf (.single c)
  return { negated := negated.isSome, items }

/-- An ASCII class after its opening bracket. -/
def asciiClass (f : Flags) : Reader CharSet := do
  Reader.char ':'
  let negated ← optional (Reader.char '^')
  let name ← run (· != ':')
  word [':', ']']
  match CharSet.asciiNamed? (String.ofList name) with
  | none => failure
  | some s => return if negated.isSome then (folded f s).not else folded f s

/-- An item that begins with `c`. A set in brackets takes no assertions. -/
def item (f : Flags) (c : Char) : Reader Atom := do
  let atom ← if c = '\\' then escape f else pure (.literal c)
  match atom with
  | .literal c => guard (f.unicode || c.toNat < 0x80)
  | .set _ => pure ()
  | .assertion _ => failure
  return atom

/-- The first character that is no space, nor the sign that begins a comment. The words of a comment
are not left out. -/
def firstSolid (inComment : Bool) : List Char → Option Char
  | [] => none
  | c :: cs =>
    if Text.isBlank c || (!inComment && c == '#') then firstSolid (inComment || c == '#') cs
    else some c

/-- What stands after a hyphen and decides what it means. At the end of the pattern space counts. -/
def afterHyphen (f : Flags) (rest : List Char) : Option Char :=
  (if f.spaced then firstSolid false rest else none).or rest.head?

/-- Whether a hyphen follows that makes an interval. Before a closing bracket it stands for itself,
and before a hyphen it is an operation. -/
def intervalFollows (f : Flags) : Reader Bool := fun cs =>
  let follows := match cs with
    | '-' :: rest => afterHyphen f rest != some ']' && afterHyphen f rest != some '-'
    | _ => false
  some (follows, cs)

/-- An item, or the interval between two characters. -/
def itemOrInterval (f : Flags) (c : Char) : Reader CharSet := do
  let first ← item f c
  skip f
  if ← intervalFollows f then
    discard <| symbol f (· == '-')
    match first, ← item f (← satisfying fun _ => true) with
    | .literal a, .literal b =>
      guard (a ≤ b)
      return .interval a b
    | _, _ => failure
  else match first with
    | .literal c => return .single c
    | .set s => return s
    | .assertion _ => failure

/-- One step within brackets, from the innermost and those around it, up to the end of the last. -/
def step (f : Flags) : Bracket × List Bracket → Reader (Bracket × List Bracket ⊕ Nested CharSet)
  | (b, outer) => do
    skip f
    let c ← satisfying fun _ => true
    let twice := (← peek) == some c
    match c with
    | '[' =>
      match ← optional (asciiClass f) with
      | some s => do
        check f s
        return .inl (b.add (.leaf s), outer)
      | none => return .inl (← start f, b :: outer)
    | ']' =>
      let s ← b.close f
      match outer with
      | [] => return .inr s
      | o :: rest => return .inl (o.add s, rest)
    | _ =>
      let op : Option (CharSet → CharSet → CharSet) :=
        if !twice then none
        else match c with
          | '&' => some .inter
          | '-' => some .diff
          | '~' => some .symmDiff
          | _ => none
      match op with
      | some op => do
        Reader.char c
        return .inl (b.operate f op, outer)
      | none => do return .inl (b.add (.leaf (← itemOrInterval f c)), outer)

end Bracket

/-- A set after its opening bracket. -/
def bracketed (f : Flags) : Reader (Nested CharSet) := do
  loop (Bracket.step f) (← Bracket.start f, [])

end TagRights.Pattern
