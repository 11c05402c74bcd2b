import TagRights.Pattern.Basic
import TagRights.Text.Reader
import TagRights.Text.Words
import TagRights.Unicode.Case
import TagRights.Unicode.Property

namespace TagRights.Pattern

structure Flags where
  anyCase : Bool := false
  /-- Whether the marks for start and end mean those of each line. -/
  eachLine : Bool := false
  /-- Whether a dot stands for line ends too. -/
  dotAll : Bool := false
  carriageReturns : Bool := false
  unicode : Bool := true
  /-- Whether repetitions are greedy only with a question mark. -/
  lazy : Bool := false
  /-- Whether space and comments in the pattern are passed over. -/
  spaced : Bool := false

namespace Flags

def set (on : Bool) (f : Flags) : Char → Flags
  | 'i' => { f with anyCase := on }
  | 'm' => { f with eachLine := on }
  | 's' => { f with dotAll := on }
  | 'R' => { f with carriageReturns := on }
  | 'U' => { f with lazy := on }
  | 'u' => { f with unicode := on }
  | 'x' => { f with spaced := on }
  | _ => f

def letters : List Char := ['i', 'm', 's', 'U', 'u', 'R', 'x']

/-- The flags after `cs`, which switches off those after a hyphen. Nothing stands there twice, and
something follows the hyphen. -/
def change? (f : Flags) (cs : List Char) : Option Flags :=
  if cs.all ('-' :: letters).contains ∧ cs.Nodup ∧ cs.getLast? ≠ some '-' then
    let switchedOn := (cs.takeWhile (· != '-')).foldl (set true) f
    some ((cs.dropWhile (· != '-')).foldl (set false) switchedOn)
  else none

end Flags

/-- What follows the space and the comments, each of which ends with its line. -/
def afterSpace (inComment : Bool) : List Char → List Char
  | [] => []
  | c :: cs =>
    if inComment then afterSpace (c != '\n') cs
    else if Text.isBlank c then afterSpace false cs
    else if c = '#' then afterSpace true cs
    else c :: cs

def skip (f : Flags) : Reader Unit := fun cs =>
  some ((), if f.spaced then afterSpace false cs else cs)

/-- A character in `p`, with the space after it. -/
def symbol (f : Flags) (p : Char → Bool) : Reader Char :=
  Reader.satisfying p <* skip f

/-- The next character, if there is one. It is not taken. -/
def peek : Reader (Option Char) := fun cs =>
  some (cs.head?, cs)

open Reader
open Text (isHexDigit hexDigit)

/-- The smallest parts of a pattern. -/
inductive Atom where
  | literal (c : Char)
  | set (s : CharSet)
  | assertion (a : Assertion)

def ofCode (digits : List Char) : Reader Char :=
  let code := digits.foldl (fun n c => n * 16 + hexDigit c) 0
  if code.isValidChar then pure (Char.ofNat code) else failure

def fixedDigits (f : Flags) : Nat → Reader (List Char)
  | 0 => pure []
  | n + 1 => do
    let c ← symbol f isHexDigit
    return c :: (← fixedDigits f n)

/-- The code point of a character, in braces or with exactly `n` digits. Where patterns are not of
Unicode, two digits stand for a byte, which must be ASCII. -/
def codePoint (f : Flags) (n : Nat) : Reader Char := do
  skip f
  if (← peek) = some '{' then
    discard <| symbol f (· == '{')
    let digits ← many (symbol f isHexDigit)
    guard !digits.isEmpty
    discard <| symbol f (· == '}')
    ofCode digits
  else
    let c ← ofCode (← fixedDigits f n)
    guard (f.unicode || n != 2 || c.toNat < 0x80)
    return c

/-- The property after a `p`, a letter or a name in braces. -/
def property (f : Flags) (negated : Bool) : Reader CharSet := do
  guard f.unicode
  skip f
  let name ←
    if (← peek) = some '{' then do
      discard <| symbol f (· == '{')
      let name ← many (symbol f (· != '}'))
      Reader.char '}'
      pure name
    else do
      let c ← symbol f (· != '\\')
      pure [c]
  match CharSet.named? name with
  | none => failure
  | some (s, others) =>
    let s := if f.anyCase then s.anyCase true else s
    return if negated != others then s.not else s

/-- One of the three classes with a letter of their own. Its complement would have bytes that are no
characters where patterns are not of Unicode. -/
def letterClass (f : Flags) (c : Char) : Reader CharSet := do
  let s := match c.toLower with
    | 'd' => Unicode.digits
    | 's' => Unicode.whiteSpace
    | _ => Unicode.wordChars
  if f.unicode then return if c.isUpper then s.not else s
  guard c.isLower
  return s.inter (.interval '\x00' '\x7f')

def edgeNamed? (name : List Char) : Option WordEdge :=
  match String.ofList name with
  | "start" => some .start
  | "end" => some .stop
  | "start-half" => some .startHalf
  | "end-half" => some .stopHalf
  | _ => none

def isEdgeLetter (c : Char) : Bool :=
  c.isAlpha || c == '-'

/-- What follows a `b`: the name of an edge in braces, or nothing that belongs to it. Braces with a
number are a repetition. -/
def wordEdge (f : Flags) : Reader WordEdge := do
  let named ← optional do
    discard <| symbol f (· == '{')
    let next ← peek
    guard (next.all isEdgeLetter)
  match named with
  | none => return .boundary
  | some _ =>
    let name ← many (symbol f isEdgeLetter)
    Reader.char '}'
    match edgeNamed? name with
    | some edge => return edge
    | none => failure

/-- Whether a backslash before `c` makes no difference, or takes away the meaning that `c` has. -/
def isPlainWhenEscaped (c : Char) : Bool :=
  c.toNat < 0x80 && !c.isAlphanum && c != '<' && c != '>'

def escape (f : Flags) : Reader Atom := do
  let c ← satisfying fun _ => true
  match c with
  | 'x' => return .literal (← codePoint f 2)
  | 'u' => return .literal (← codePoint f 4)
  | 'U' => return .literal (← codePoint f 8)
  | 'p' | 'P' => return .set (← property f (c == 'P'))
  | 'd' | 's' | 'w' | 'D' | 'S' | 'W' => return .set (← letterClass f c)
  | 'a' => return .literal '\x07'
  | 'f' => return .literal '\x0c'
  | 't' => return .literal '\t'
  | 'n' => return .literal '\n'
  | 'r' => return .literal '\r'
  | 'v' => return .literal '\x0b'
  | 'A' => return .assertion .textStart
  | 'z' => return .assertion .textEnd
  | 'b' => return .assertion (.word f.unicode (← wordEdge f))
  | 'B' => return .assertion (.word f.unicode .inside)
  | '<' => return .assertion (.word f.unicode .start)
  | '>' => return .assertion (.word f.unicode .stop)
  | _ => if isPlainWhenEscaped c then return .literal c else failure

end TagRights.Pattern
