import TagRights.Text.Reader
import TagRights.Text.Words

namespace TagRights

/-- A set of characters as intervals in ascending order, which neither overlap nor touch. -/
structure CharSet where
  intervals : List (Char × Char)
  deriving DecidableEq

namespace CharSet

def empty : CharSet := ⟨[]⟩

def interval (first last : Char) : CharSet := ⟨[(first, last)]⟩

def single (c : Char) : CharSet := interval c c

def lastChar : Char := Char.ofNat 0x10FFFF

def all : CharSet := interval '\x00' lastChar

def isEmpty (s : CharSet) : Bool :=
  s.intervals.isEmpty

def contains (s : CharSet) (c : Char) : Bool :=
  s.intervals.any fun (first, last) => first ≤ c && c ≤ last

/-- Whether all members are ASCII. -/
def isAscii (s : CharSet) : Bool :=
  s.intervals.all (·.2.toNat < 0x80)

/-- The only member, where there is one. -/
def single? (s : CharSet) : Option Char :=
  match s.intervals with
  | [(first, last)] => if first = last then some first else none
  | _ => none

/-- The character after `c`. Surrogates are no characters. -/
def next (c : Char) : Char :=
  if c = '\uD7FF' then '\uE000' else Char.ofNat (c.toNat + 1)

/-- The character before `c`. -/
def previous (c : Char) : Char :=
  if c = '\uE000' then '\uD7FF' else Char.ofNat (c.toNat - 1)

/-- Joins `first` to `last` with those of the intervals after it that overlap or touch it. -/
def join (first last : Char) : List (Char × Char) → List (Char × Char)
  | [] => [(first, last)]
  | (c, d) :: rest =>
    if c.toNat ≤ last.toNat + 1 then join first (if last < d then d else last) rest
    else (first, last) :: join c d rest

def startsBefore (x y : Char × Char) : Bool :=
  x.1 ≤ y.1

/-- The set of intervals that are in the order of their starts. -/
def ofAscending : List (Char × Char) → CharSet
  | [] => empty
  | (first, last) :: rest => ⟨join first last rest⟩

def ofIntervals (xs : List (Char × Char)) : CharSet :=
  ofAscending (xs.mergeSort startsBefore)

def ofChars (cs : List Char) : CharSet :=
  ofIntervals (cs.map fun c => (c, c))

def union (s t : CharSet) : CharSet :=
  ofAscending (s.intervals.merge t.intervals startsBefore)

def unionAll (sets : List CharSet) : CharSet :=
  ofIntervals (sets.flatMap intervals)

/-- What lies between two ends. Where nothing but surrogates does, the ends themselves count. -/
def between (last first : Char) : Char × Char :=
  if next last ≤ previous first then (next last, previous first)
  else (previous first, next last)

/-- What lies after `last` and between the intervals. -/
def gaps (last : Char) : List (Char × Char) → List (Char × Char)
  | [] => if last < lastChar then [(next last, lastChar)] else []
  | (first, end') :: rest => between last first :: gaps end' rest

/-- The characters that are not in `s`. -/
def not (s : CharSet) : CharSet :=
  match s.intervals with
  | [] => all
  | (first, last) :: rest =>
    ⟨if '\x00' < first then ('\x00', previous first) :: gaps last rest else gaps last rest⟩

def commonIntervals : List (Char × Char) → List (Char × Char) → List (Char × Char)
  | [], _ | _, [] => []
  | (a, b) :: xs, (c, d) :: ys =>
    let rest :=
      if b < d then commonIntervals xs ((c, d) :: ys) else commonIntervals ((a, b) :: xs) ys
    let (first, last) := (if a < c then c else a, if b < d then b else d)
    if first ≤ last then (first, last) :: rest else rest
termination_by xs ys => xs.length + ys.length

def inter (s t : CharSet) : CharSet :=
  ⟨commonIntervals s.intervals t.intervals⟩

def withoutIntervals : List (Char × Char) → List (Char × Char) → List (Char × Char)
  | [], _ => []
  | xs, [] => xs
  | (a, b) :: xs, (c, d) :: ys =>
    if d < a then withoutIntervals ((a, b) :: xs) ys
    else if b < c then (a, b) :: withoutIntervals xs ((c, d) :: ys)
    else
      let rest :=
        if d < b then withoutIntervals ((next d, b) :: xs) ys
        else withoutIntervals xs ((c, d) :: ys)
      if a < c then (a, previous c) :: rest else rest
termination_by xs ys => xs.length + ys.length

def diff (s t : CharSet) : CharSet :=
  ⟨withoutIntervals s.intervals t.intervals⟩

def symmDiff (s t : CharSet) : CharSet :=
  (s.union t).diff (s.inter t)

/-- The members in ascending order. -/
def toList (s : CharSet) : List Char :=
  s.intervals.flatMap fun (first, last) =>
    (List.range (last.toNat + 1 - first.toNat)).map fun n => Char.ofNat (first.toNat + n)

open Reader

def codePoint : Reader Char := do
  let digits ← run1 Text.isHexDigit
  return Char.ofNat (digits.foldl (fun n c => n * 16 + Text.hexDigit c) 0)

def everySecond (first last : Char) : List (Char × Char) :=
  (List.range ((last.toNat - first.toNat) / 2 + 1)).map fun n =>
    let c := Char.ofNat (first.toNat + 2 * n)
    (c, c)

def entry : Reader (List (Char × Char)) := do
  let first ← codePoint
  let last ← optional (char '-' *> codePoint)
  let step ← optional (word ['/', '2'])
  return match last, step with
    | none, _ => [(first, first)]
    | some last, none => [(first, last)]
    | some last, some _ => everySecond first last

/-- The set that a table lists: code points in hexadecimal, alone or as the two ends of an interval,
with blanks between them. After an interval, `/2` says that every second character counts. -/
def ofTable (table : String) : CharSet :=
  ofIntervals ((Text.words table).flatMap fun w => (entry.all? w).getD [])

end CharSet

end TagRights
