namespace TagRights.Json

/-- A bracket or separator, a quoted string, or a run of what numbers and literals are made of. The
body of a quoted string stands between its quotes, with its escapes. -/
inductive Lexeme where
  | mark (c : Char)
  | quoted (body : List Char)
  | bare (word : List Char)
  deriving DecidableEq

def Lexeme.chars : Lexeme → List Char
  | .mark c => [c]
  | .quoted body => '"' :: body ++ ['"']
  | .bare word => word

def isSpace (c : Char) : Bool :=
  c == ' ' || c == '\t' || c == '\n' || c == '\r'

def isMark (c : Char) : Bool :=
  c == '[' || c == ']' || c == '{' || c == '}' || c == ',' || c == ':'

def isBare (c : Char) : Bool :=
  c.isAlphanum || c == '+' || c == '-' || c == '.'

/-- What a scan is in the middle of, with the characters so far in reverse. -/
inductive Mode where
  | between
  | bare (soFar : List Char)
  | quoted (soFar : List Char)
  | escaped (soFar : List Char)

namespace Mode

/-- A character outside any lexeme. -/
def start? (c : Char) : Option (List Lexeme × Mode) :=
  if isSpace c then some ([], between)
  else if c = '"' then some ([], quoted [])
  else if isMark c then some ([.mark c], between)
  else if isBare c then some ([], bare [c])
  else none

/-- The lexemes that `c` completes, and what follows it. A backslash takes the next character along
whatever it is. -/
def step? : Mode → Char → Option (List Lexeme × Mode)
  | between, c => start? c
  | bare soFar, c =>
    if isBare c then some ([], bare (c :: soFar))
    else (start? c).map fun (done, mode) => (.bare soFar.reverse :: done, mode)
  | quoted soFar, c =>
    if c = '"' then some ([.quoted soFar.reverse], between)
    else if c = '\\' then some ([], escaped soFar)
    else some ([], quoted (c :: soFar))
  | escaped soFar, c => some ([], quoted (c :: '\\' :: soFar))

def finish? : Mode → Option (List Lexeme)
  | between => some []
  | bare soFar => some [.bare soFar.reverse]
  | quoted _ | escaped _ => none

end Mode

def scan? (mode : Mode) : List Char → Option (List Lexeme)
  | [] => mode.finish?
  | c :: cs => do
    let (done, next) ← mode.step? c
    return done ++ (← scan? next cs)

/-- The letter that stands for `c` after a backslash. -/
def escapeLetter? (c : Char) : Option Char :=
  match c with
  | '"' | '\\' => some c
  | '\x08' => some 'b'
  | '\x0c' => some 'f'
  | '\n' => some 'n'
  | '\r' => some 'r'
  | '\t' => some 't'
  | _ => none

/-- Quotes, backslashes and control characters are escaped, the latter by number where there is no
letter. All else stands for itself. -/
def escapeChar (c : Char) : List Char :=
  match escapeLetter? c with
  | some letter => ['\\', letter]
  | none =>
    if c.toNat < 0x20 then
      ['\\', 'u', '0', '0', Nat.digitChar (c.toNat / 16), Nat.digitChar (c.toNat % 16)]
    else [c]

def escape (s : List Char) : List Char :=
  s.flatMap escapeChar

def hexDigit? (c : Char) : Option Nat :=
  if '0' ≤ c ∧ c ≤ '9' then some (c.toNat - '0'.toNat)
  else if 'a' ≤ c ∧ c ≤ 'f' then some (c.toNat - 'a'.toNat + 10)
  else if 'A' ≤ c ∧ c ≤ 'F' then some (c.toNat - 'A'.toNat + 10)
  else none

def codeUnit? (a b c d : Char) : Option Nat := do
  return ((← hexDigit? a) * 16 + (← hexDigit? b)) * 256 + ((← hexDigit? c) * 16 + (← hexDigit? d))

/-- The character that a backslash and `c` stand for. A slash may be escaped too. -/
def escapedChar? (c : Char) : Option Char :=
  match c with
  | '"' | '\\' | '/' => some c
  | 'b' => some '\x08'
  | 'f' => some '\x0c'
  | 'n' => some '\n'
  | 'r' => some '\r'
  | 't' => some '\t'
  | _ => none

def isHighSurrogate (n : Nat) : Bool := 0xD800 ≤ n && n < 0xDC00

def isLowSurrogate (n : Nat) : Bool := 0xDC00 ≤ n && n < 0xE000

/-- The character with these two surrogates. -/
def pairedChar (high low : Nat) : Char :=
  Char.ofNat (0x10000 + (high - 0xD800) * 0x400 + (low - 0xDC00))

/-- Inverts `escape`, and takes any other escape of the grammar. A character outside the first plane
needs both its surrogates; control characters and quotes must be escaped. -/
def unescape? : List Char → Option (List Char)
  | [] => some []
  | '\\' :: 'u' :: a :: b :: c :: d :: rest =>
    match codeUnit? a b c d with
    | none => none
    | some unit =>
      if isHighSurrogate unit then
        match rest with
        | '\\' :: 'u' :: e :: f :: g :: h :: rest =>
          match codeUnit? e f g h with
          | none => none
          | some low =>
            if isLowSurrogate low then (unescape? rest).map (pairedChar unit low :: ·) else none
        | _ => none
      else if isLowSurrogate unit then none
      else (unescape? rest).map (Char.ofNat unit :: ·)
  | '\\' :: c :: rest =>
    match escapedChar? c with
    | none => none
    | some char => (unescape? rest).map (char :: ·)
  | c :: rest =>
    if c.toNat < 0x20 ∨ c = '"' ∨ c = '\\' then none else (unescape? rest).map (c :: ·)

theorem escapedChar?_of_escapeLetter? {c letter : Char} (h : escapeLetter? c = some letter) :
    escapedChar? letter = some c ∧ letter ≠ 'u' := by
  unfold escapeLetter? at h
  split at h <;> simp at h <;> subst h <;> simp [escapedChar?]

theorem plain_of_escapeLetter?_eq_none {c : Char} (h : escapeLetter? c = none) :
    c ≠ '"' ∧ c ≠ '\\' := by
  constructor <;> rintro rfl <;> simp [escapeLetter?] at h

theorem codeUnit?_control {n : Nat} (h : n < 0x20) :
    codeUnit? '0' '0' (Nat.digitChar (n / 16)) (Nat.digitChar (n % 16)) = some n :=
  (by decide : ∀ n : Fin 0x20,
    codeUnit? '0' '0' (Nat.digitChar (n / 16)) (Nat.digitChar (n % 16)) = some n.1) ⟨n, h⟩

theorem unescape?_escapeChar (c : Char) (rest : List Char) :
    unescape? (escapeChar c ++ rest) = (unescape? rest).map (c :: ·) := by
  unfold escapeChar
  split
  case h_1 letter h =>
    obtain ⟨inverse, notUnit⟩ := escapedChar?_of_escapeLetter? h
    rw [List.cons_append, List.singleton_append, unescape?, inverse]
    simp [notUnit]
  case h_2 h =>
    obtain ⟨notQuote, notBackslash⟩ := plain_of_escapeLetter?_eq_none h
    split
    case isTrue control =>
      have high : isHighSurrogate c.toNat = false := by simp [isHighSurrogate]; omega
      have low : isLowSurrogate c.toNat = false := by simp [isLowSurrogate]; omega
      simp only [List.cons_append, List.nil_append, unescape?, codeUnit?_control control]
      simp [high, low]
    case isFalse control =>
      rw [List.singleton_append, unescape?]
      · simp [notQuote, notBackslash, control]
      all_goals simp [notBackslash]

/-- Escapes are read back. -/
theorem unescape?_escape (s : List Char) : unescape? (escape s) = some s := by
  induction s with
  | nil => rfl
  | cons c cs ih =>
    rw [show escape (c :: cs) = escapeChar c ++ escape cs from rfl, unescape?_escapeChar, ih]
    rfl

end TagRights.Json
