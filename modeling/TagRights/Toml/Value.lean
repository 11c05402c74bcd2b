import TagRights.Decimal
import TagRights.Json.Basic
import TagRights.Toml.Quoted

namespace TagRights.Toml

/-- How a table came to be, on which it depends whether it may still be extended: written between
braces, opened by a header of its own, implied by the header of a table inside it, or implied by a
dotted key. -/
inductive Origin where
  | inline
  | header
  | implied
  | dotted
  deriving DecidableEq

/-- Dates and times are kept as text. The elements of `tables` were opened by headers, one each. -/
inductive Value where
  | text (s : String)
  | integer (n : Int)
  | float (x : Float)
  | boolean (b : Bool)
  | moment (s : String)
  | array (items : List Value)
  | table (origin : Origin) (entries : List (String × Value))
  | tables (elements : List (List (String × Value)))

instance : Inhabited Value := ⟨.boolean false⟩

abbrev Table := Members Value

open Reader
open Text (isHexDigit hexDigit)

/-- One or more digits, with single underscores between them where they are liked. -/
def digits (p : Char → Bool) : Reader (List Char) := do
  let first ← satisfying p
  let others ← many (satisfying p <|> char '_' *> satisfying p)
  return first :: others

def decimalDigits : Reader (List Char) := do
  let ds ← digits Char.isDigit
  guard (ds.length == 1 || ds.head? != some '0')
  return ds

/-- Whether a minus sign was read. -/
def sign : Reader Bool :=
  (fun _ => true) <$> char '-' <|> (fun _ => false) <$> optional (char '+')

def signed (negative : Bool) (n : Nat) : Int :=
  if negative then -n else n

def radixInteger (radix : Nat) (mark : Char) (p : Char → Bool) : Reader Int := do
  word ['0', mark]
  let ds ← digits p
  return (ds.foldl (fun n c => n * radix + hexDigit c) 0 : Nat)

def decimalInteger : Reader Int := do
  let negative ← sign
  let ds ← decimalDigits
  return signed negative (Nat.ofDigitChars 10 ds 0)

def integer : Reader Int := do
  let n ← radixInteger 16 'x' isHexDigit <|> radixInteger 8 'o' (fun c => '0' ≤ c && c ≤ '7') <|>
    radixInteger 2 'b' (fun c => c == '0' || c == '1') <|> decimalInteger
  guard (-Decimal.twoPow 63 ≤ n && n < Decimal.twoPow 63)
  return n

def fraction : Reader (List Char) :=
  char '.' *> digits Char.isDigit

def exponent : Reader Int := do
  char 'e' <|> char 'E'
  let negative ← sign
  let ds ← digits Char.isDigit
  return signed negative (Nat.ofDigitChars 10 ds 0)

/-- A number with a fraction, an exponent or both. It must not be too great; a negative number that
is too great in magnitude is minus infinity. -/
def finiteFloat : Reader Float := do
  let negative ← sign
  let whole ← decimalDigits
  let decimals ← optional fraction
  let power ← optional exponent
  guard (decimals.isSome || power.isSome)
  let decimals := decimals.getD []
  let x := Decimal.nearestFloat (Nat.ofDigitChars 10 (whole ++ decimals) 0)
    (power.getD 0 - decimals.length)
  guard (negative || !x.isInf)
  return if negative then -x else x

def specialFloat : Reader Float := do
  let negative ← sign
  let x ← (fun _ => 1 / 0) <$> word "inf".toList <|> (fun _ => 0 / 0) <$> word "nan".toList
  return if negative then -x else x

open Reader

/-- A number of exactly `n` digits. -/
def fixedNumber (n : Nat) : Reader Nat := do
  let ds ← go n
  return Nat.ofDigitChars 10 ds 0
where
  go : Nat → Reader (List Char)
    | 0 => pure []
    | n + 1 => do
      let d ← satisfying Char.isDigit
      return d :: (← go n)

def fixedText (n value : Nat) : String :=
  let ds := Nat.toDigits 10 value
  String.ofList (List.replicate (n - ds.length) '0' ++ ds)

def isLeapYear (year : Nat) : Bool :=
  year % 4 == 0 && (year % 100 != 0 || year % 400 == 0)

def daysIn (year month : Nat) : Nat :=
  if month = 2 then (if isLeapYear year then 29 else 28)
  else if month = 4 ∨ month = 6 ∨ month = 9 ∨ month = 11 then 30
  else 31

def date : Reader String := do
  let year ← fixedNumber 4
  char '-'
  let month ← fixedNumber 2
  guard (1 ≤ month && month ≤ 12)
  char '-'
  let day ← fixedNumber 2
  guard (1 ≤ day && day ≤ daysIn year month)
  return fixedText 4 year ++ "-" ++ fixedText 2 month ++ "-" ++ fixedText 2 day

def secondFraction : Reader String := do
  char '.'
  let ds ← run1 Char.isDigit
  let significant := ((ds.take 9).reverse.dropWhile (· == '0')).reverse
  return if significant.isEmpty then "" else String.ofList ('.' :: significant)

/-- The second may be 60, for leap seconds. -/
def timeOfDay : Reader String := do
  let hour ← fixedNumber 2
  guard (hour ≤ 23)
  char ':'
  let minute ← fixedNumber 2
  guard (minute ≤ 59)
  char ':'
  let second ← fixedNumber 2
  guard (second ≤ 60)
  let part ← optional secondFraction
  return fixedText 2 hour ++ ":" ++ fixedText 2 minute ++ ":" ++ fixedText 2 second ++ part.getD ""

/-- An offset of no minutes counts as positive. -/
def zoneOffset : Reader String :=
  (fun _ => "Z") <$> (char 'Z' <|> char 'z') <|> do
    let negative ← (fun _ => true) <$> char '-' <|> (fun _ => false) <$> char '+'
    let hour ← fixedNumber 2
    guard (hour ≤ 23)
    char ':'
    let minute ← fixedNumber 2
    guard (minute ≤ 59)
    let mark := if negative && 0 < hour + minute then "-" else "+"
    return mark ++ fixedText 2 hour ++ ":" ++ fixedText 2 minute

/-- A date, a time or both, in the normal text: `T` before the time, and in the fraction of a second
at most nine digits and no zeros at the end. -/
def moment : Reader String :=
  (do
    let day ← date
    let time ← optional do
      char 'T' <|> char 't' <|> char ' '
      let time ← timeOfDay
      let zone ← optional zoneOffset
      return "T" ++ time ++ zone.getD ""
    return day ++ time.getD "") <|> timeOfDay

end TagRights.Toml
