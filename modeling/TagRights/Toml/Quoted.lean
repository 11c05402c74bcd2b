import TagRights.Text.Reader

namespace TagRights.Toml

def isGap (c : Char) : Bool :=
  c == ' ' || c == '\t'

/-- The characters of comments and of literal strings, quotes apart: no control characters other
than the tab. -/
def isPlain (c : Char) : Bool :=
  c == '\t' || (0x20 ≤ c.toNat && c.toNat != 0x7F)

def gap : Reader Unit := do
  discard <| Reader.run isGap

def newline : Reader Unit :=
  Reader.char '\n' <|> Reader.word ['\r', '\n']

def comment : Reader Unit := do
  Reader.char '#'
  discard <| Reader.run isPlain

/-- The end of a line, with a comment before it or not. -/
def lineEnd : Reader Unit := do
  gap
  discard <| optional comment
  newline <|> Reader.atEnd

/-- Space, comments and line ends between the items of an array. -/
def filler : Reader Unit := do
  discard <| Reader.many (discard (Reader.run1 isGap) <|> newline <|> (comment <* newline))

open Reader
open Text (isHexDigit hexDigit)

/-- A character by exactly `n` hexadecimal digits of its code point. -/
def codePoint (n : Nat) : Reader Char := do
  let code ← digits n 0
  if code.isValidChar then return Char.ofNat code else failure
where
  digits : Nat → Nat → Reader Nat
    | 0, code => pure code
    | n + 1, code => do
      let c ← satisfying isHexDigit
      digits n (code * 16 + hexDigit c)

def escaped : Reader Char := do
  char '\\'
  match ← satisfying fun _ => true with
  | 'b' => return '\x08'
  | 'f' => return '\x0c'
  | 'n' => return '\n'
  | 'r' => return '\r'
  | 't' => return '\t'
  | '"' => return '"'
  | '\\' => return '\\'
  | 'u' => codePoint 4
  | 'U' => codePoint 8
  | _ => failure

def basicPiece : Reader (List Char) :=
  run1 (fun c => isPlain c && c != '"' && c != '\\') <|> (fun c => [c]) <$> escaped

def basicString : Reader String := do
  char '"'
  let pieces ← many basicPiece
  char '"'
  return String.ofList pieces.flatten

def literalString : Reader String := do
  char '\''
  let body ← run fun c => isPlain c && c != '\''
  char '\''
  return String.ofList body

/-- A backslash at the end of a line, which joins it to the next text. -/
def lineJoin : Reader (List Char) := do
  char '\\'
  gap
  newline
  discard <| many (discard (run1 isGap) <|> newline)
  return []

/-- A string between three quotes, over several lines. A line end right after the opening quotes is
dropped. One or two quotes may stand inside, and also right before the closing quotes. -/
def multiline (quote : Char) (piece : Reader (List Char)) : Reader String := do
  word [quote, quote, quote]
  discard <| optional newline
  let pieces ← many (piece <|> (fun _ => ['\n']) <$> newline <|> quotesInside)
  let quotes ← run (· == quote)
  guard (3 ≤ quotes.length && quotes.length ≤ 5)
  return String.ofList (pieces.flatten ++ quotes.drop 3)
where
  quotesInside : Reader (List Char) := do
    let quotes ← run1 (· == quote)
    guard (quotes.length < 3)
    return quotes

def quoted : Reader String :=
  multiline '"' (basicPiece <|> lineJoin) <|> basicString <|>
  multiline '\'' (run1 fun c => isPlain c && c != '\'') <|> literalString

end TagRights.Toml
