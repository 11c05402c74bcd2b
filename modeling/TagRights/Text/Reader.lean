namespace TagRights

/-- What takes as much as it can from the front of a text, or fails. -/
abbrev Reader := StateT (List Char) Option

namespace Reader

variable {α : Type}

def satisfying (p : Char → Bool) : Reader Char := fun
  | [] => none
  | c :: cs => if p c then some (c, cs) else none

def char (c : Char) : Reader Unit := do
  discard <| satisfying (· == c)

/-- The longest run of characters in `p`, which may be empty. -/
def run (p : Char → Bool) : Reader (List Char) := fun cs =>
  some (cs.takeWhile p, cs.dropWhile p)

def run1 (p : Char → Bool) : Reader (List Char) := do
  let cs ← run p
  guard (!cs.isEmpty)
  return cs

def word : List Char → Reader Unit
  | [] => pure ()
  | c :: cs => do
    char c
    word cs

def atEnd : Reader Unit := fun
  | [] => some ((), [])
  | _ => none

/-- Reads until `r` fails or takes nothing. -/
def upTo (r : Reader α) (cs : List Char) : List α × List Char :=
  match r cs with
  | none => ([], cs)
  | some (a, rest) =>
    if rest.length < cs.length then
      let (as, last) := upTo r rest
      (a :: as, last)
    else ([], cs)
termination_by cs.length

def many (r : Reader α) : Reader (List α) := fun cs =>
  some (upTo r cs)

/-- Steps from state to state, each of which takes something, up to a last one. -/
def loop {σ : Type} (step : σ → Reader (σ ⊕ α)) (s : σ) : Reader α := fun cs =>
  match step s cs with
  | none => none
  | some (.inr a, rest) => some (a, rest)
  | some (.inl s, rest) => if rest.length < cs.length then loop step s rest else none
termination_by cs => cs.length

/-- One or more, with something between every two of them. -/
def separated (r : Reader α) (separator : Reader Unit) : Reader (List α) := do
  let first ← r
  let others ← many (separator *> r)
  return first :: others

end Reader

/-- The whole of `s`, as `r` reads it. -/
def Reader.all? {α : Type} (r : Reader α) (s : String) : Option α :=
  ((r <* atEnd) s.toList).map (·.1)

namespace Text

def isHexDigit (c : Char) : Bool :=
  c.isDigit || ('a' ≤ c && c ≤ 'f') || ('A' ≤ c && c ≤ 'F')

def hexDigit (c : Char) : Nat :=
  if c.isDigit then c.toNat - '0'.toNat else c.toLower.toNat - 'a'.toNat + 10

end Text

end TagRights
