import Std.Data.HashMap
import TagRights.CharSet

namespace TagRights.CharSet

/-- The least and the greatest of some bytes. -/
abbrev ByteInterval := UInt8 × UInt8

/-- The last code point before the surrogates, and the greatest ones of each number of bytes. -/
def borders : List Nat := [0xD7FF, 0x7F, 0x7FF, 0xFFFF]

/-- Where an interval of characters of one length is cut: `block` is how many characters have all
bytes in common but for the last ones. -/
def blockCut? (first last block : Nat) : Option Nat :=
  if first / block = last / block then none
  else if first % block ≠ 0 then some (first / block * block + (block - 1))
  else if last % block ≠ block - 1 then some (last / block * block - 1)
  else none

/-- The last code point of the first part, if an interval has to be cut. -/
def cut? (first last : Nat) : Option Nat :=
  match borders.find? fun n => first ≤ n && n < last with
  | some n => some n
  | none => if last < 0x80 then none else [64, 4096, 262144].findSome? (blockCut? first last)

def codeAfter (n : Nat) : Nat :=
  if n = 0xD7FF then 0xE000 else n + 1

theorem lt_codeAfter (n : Nat) : n < codeAfter n := by
  unfold codeAfter
  split <;> omega

/-- The parts that need no further cut. -/
def uncut (first last : Nat) : List (Nat × Nat) :=
  match cut? first last with
  | none => [(first, last)]
  | some n =>
    if _ : first ≤ n ∧ n < last then uncut first n ++ uncut (codeAfter n) last else [(first, last)]
termination_by last - first
decreasing_by
  all_goals have := lt_codeAfter n; omega

def bytesBetween (first last : Nat) : List ByteInterval :=
  (String.utf8EncodeChar (Char.ofNat first)).zip (String.utf8EncodeChar (Char.ofNat last))

def byteSequences (s : CharSet) : List (List ByteInterval) :=
  s.intervals.flatMap fun (first, last) =>
    (uncut first.toNat last.toNat).map fun (m, n) => bytesBetween m n

end TagRights.CharSet

namespace TagRights.Pattern.Automaton

structure Size where
  states : Nat := 0
  /-- The bytes that the ways between the states take besides. -/
  ways : Nat := 0

def Size.bytes (s : Size) : Nat :=
  32 * s.states + s.ways

/-- Ten mebibytes. To build a larger automaton fails. -/
def maxBytes : Nat := 10485760

abbrev Build := StateT Size Option

def grow (states ways : Nat) : Build Unit := fun s =>
  let s : Size := ⟨s.states + states, s.ways + ways⟩
  if s.bytes ≤ maxBytes then some ((), s) else none

/-- A new state, which is known by how many there were before. -/
def newState (ways : Nat) : Build Nat := fun s =>
  (grow 1 ways s).map fun (_, t) => (s.states, t)

/-- The bytes of a way to another state. -/
def wayBytes : Nat := 4

/-- The bytes of a way that is open to an interval of bytes. -/
def labelledWayBytes : Nat := 8

/-- What the last state of a part is. A fork keeps a list of its ways, and another state has one for
which there is room in it. -/
inductive End where
  | single
  | fork

/-- A way on from the last state of a part. -/
def leave : End → Build Unit
  | .single => pure ()
  | .fork => grow 0 wayBytes

/-- States one after the other. -/
def chain (states : Nat) : Build End := do
  grow states 0
  return .single

/-- A part with a way on from it. -/
def andOn (b : Build End) : Build Unit := do
  leave (← b)

def both (a b : Build End) : Build End := do
  andOn a
  b

/-- `n` copies one after the other, or an empty state. -/
def copies (b : Build End) (n : Nat) : Build End := fun s =>
  match n with
  | 0 => chain 1 s
  | 1 => b s
  | n + 2 =>
    match andOn b s with
    | none => none
    | some (_, s) => copies b (n + 1) s

/-- The last of the alternatives, whose first two are built. -/
def others : List (Build End) → Build Unit
  | [] => pure ()
  | b :: bs => do
    andOn b
    grow 0 wayBytes
    others bs

/-- A fork to each of the parts, which all lead to one state. -/
def alternatives : List (Build End) → Build End
  | [] => chain 1
  | [b] => b
  | b :: c :: bs => do
    andOn b
    andOn c
    grow 2 (2 * wayBytes)
    others bs
    return .single

/-- Up to `n` copies, each after a fork that can leave them out, from a part with the end `e`. -/
def options (b : Build End) (n : Nat) (e : End) : Build End := fun s =>
  match n with
  | 0 => (do leave e; return .single : Build End) s
  | n + 1 =>
    match (do leave e; grow 1 (2 * wayBytes); b : Build End) s with
    | none => none
    | some (e, s) => options b n e s

def optional (b : Build End) : Build End := do
  grow 1 0
  let e ← b
  grow 1 (2 * wayBytes)
  leave e
  return .single

/-- A loop that can be left out. Where the part may take nothing, it is a loop within an option. -/
def loop (b : Build End) (takesSomething : Bool) : Build End := do
  if takesSomething then
    grow 1 0
    let e ← b
    grow 0 wayBytes
    leave e
    return .fork
  else
    let e ← b
    grow 3 (4 * wayBytes)
    leave e
    return .single

/-- `n` copies or more, at least one. The last of them is a loop. -/
def loopAfter (b : Build End) (n : Nat) : Build End := do
  if n ≠ 1 then andOn (copies b (n - 1))
  let e ← b
  grow 1 wayBytes
  leave e
  return .fork

def repetition (b : Build End) (takesSomething : Bool) (least : Nat) (most : Option Nat) :
    Build End :=
  match least, most with
  | 0, some 1 => optional b
  | 0, none => loop b takesSomething
  | least, none => loopAfter b least
  | least, some most =>
    if least = most then copies b least
    else do
      let e ← copies b least
      grow 1 0
      options b (most - least) e

/-- Whether an automaton goes through a text from its start or from its end. -/
inductive Direction where
  | forwards
  | backwards

/-- States with what leads on from them, in slots by its hash. -/
abbrev Memory := Std.HashMap UInt64 (List Nat × Nat)

/-- The hash FNV-1a. -/
def hash (key : List Nat) : UInt64 :=
  key.foldl (fun h n => (h ^^^ n.toUInt64) * 1099511628211) 14695981039346656037

/-- The state with a key, which is built if it is not remembered. It takes its slot from the state
that was there. -/
def shared (slots : UInt64) (ways : Nat) (key : List Nat) : StateT Memory Build Nat := do
  let slot := hash key % slots
  match (← get)[slot]? with
  | some (known, state) => if known = key then return state
  | none => pure ()
  let state ← newState ways
  modify (·.insert slot (key, state))
  return state

/-- Sequences side by side that begin alike are taken together. -/
def byFirst : List (List CharSet.ByteInterval) →
    List (CharSet.ByteInterval × List (List CharSet.ByteInterval))
  | [] | [] :: _ => []
  | (b :: bytes) :: rest =>
    match byFirst rest with
    | (c, tails) :: groups =>
      if b = c then (b, bytes :: tails) :: groups else (b, [bytes]) :: (c, tails) :: groups
    | [] => [(b, [bytes])]

/-- The state from which sequences of up to `n` bytes lead to `last`. States from which the same
sequences do so are shared. -/
def startOf (last : Nat) (sequences : List (List CharSet.ByteInterval)) (n : Nat) :
    StateT Memory Build Nat :=
  match n with
  | 0 => pure last
  | n + 1 =>
    if sequences.all (·.isEmpty) then pure last
    else do
      let ways ← (byFirst sequences).mapM fun (b, tails) => do
        return [b.1.toNat, b.2.toNat, ← startOf last tails n]
      shared 10000 (labelledWayBytes * ways.length) ways.flatten

/-- The state to which a sequence leads from `first` if it is read backwards. States after the same
end of a sequence are shared. -/
def endOf (first : Nat) : List CharSet.ByteInterval → StateT Memory Build Nat
  | [] => pure first
  | b :: bytes => do
    let next ← shared 1000 0 [first, b.1.toNat, b.2.toNat]
    endOf next bytes

/-- The greatest number of bytes of a character. -/
def charBytes : Nat := 4

def nonAscii (d : Direction) (sequences : List (List CharSet.ByteInterval)) : Build End := do
  match d with
  | .forwards =>
    let last ← newState 0
    discard <| (startOf last sequences charBytes).run {}
  | .backwards =>
    grow 1 0
    let last ← newState 0
    let fork : StateT Memory Build Unit := sequences.forM fun sequence => do
      discard <| endOf last sequence
      grow 0 wayBytes
    discard <| fork.run {}
  return .single

def ofSet (d : Direction) (s : CharSet) : Build End :=
  if s.isAscii then do
    grow 2 (labelledWayBytes * s.intervals.length)
    return .single
  else
    let sequences := s.byteSequences
    nonAscii d sequences

end TagRights.Pattern.Automaton
