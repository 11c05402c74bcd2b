import TagRights.Pattern.Automaton
import TagRights.Pattern.Basic

namespace TagRights.Pattern

namespace Automaton

/-- The words taken apart where one of them ends, as an empty rest. Further empty rests at the very
beginning make no difference. -/
def chunks (words : List (List UInt8)) : List (List (List UInt8)) :=
  let rec cut (chunk : List (List UInt8)) : List (List UInt8) → List (List (List UInt8))
    | [] => [chunk.reverse]
    | [] :: rest => chunk.reverse :: cut [] rest
    | word :: rest => cut (word :: chunk) rest
  match words.span (·.isEmpty) with
  | ([], words) => cut [] words
  | (_, words) => [] :: cut [] words

/-- Puts what follows the first byte of a word to that of the words with the same one. -/
def insertWord (groups : List (UInt8 × List (List UInt8))) (byte : UInt8) (rest : List UInt8) :
    List (UInt8 × List (List UInt8)) :=
  match groups with
  | [] => [(byte, [rest])]
  | (b, rests) :: others =>
    if b = byte then (b, rests ++ [rest]) :: others else (b, rests) :: insertWord others byte rest

def byFirstByte (words : List (List UInt8)) : List (UInt8 × List (List UInt8)) :=
  words.foldl (fun groups word => match word with
    | [] => groups
    | byte :: rest => insertWord groups byte rest) []

/-- The states for the rests of words of up to `n` bytes: for each chunk one that leads on by the
first bytes, and a fork to all of them and to the end of the words between them. -/
def branching (words : List (List UInt8)) (n : Nat) : Build Unit :=
  match n with
  | 0 => pure ()
  | n + 1 =>
    if words.all (·.isEmpty) then pure ()
    else do
      let chunks := chunks words
      chunks.forM fun chunk => do
        let groups := byFirstByte chunk
        groups.forM fun (_, rests) => branching rests n
        match groups.length with
        | 0 => pure ()
        | 1 => grow 1 0
        | ways => grow 1 (labelledWayBytes * ways)
      let full := chunks.filter (!·.isEmpty)
      grow 1 (wayBytes * (full.length + (chunks.length - 1)))

def ofWords (words : List (List UInt8)) : Build End := do
  grow 1 0
  branching words (words.foldl (fun n word => max n word.length) 0)
  return .single

def bytes (cs : List Char) : List UInt8 :=
  cs.flatMap String.utf8EncodeChar

/-- The words between which a pattern has the choice, if they are at least two and it is nothing
else. -/
def words? : Pattern → Option (List (List UInt8))
  | .alt (.literal cs) (.literal ds) => some [bytes cs, bytes ds]
  | .alt (.literal cs) q => (words? q).map (bytes cs :: ·)
  | _ => none

/-- The automaton of a pattern whose branches have the automata `bs`. -/
def ofBranches (d : Direction) (p : Pattern) (bs : List (Build End)) : Build End :=
  match words? p, d with
  | some words, .forwards => ofWords words
  | some words, .backwards => ofWords (words.map List.reverse)
  | none, _ => alternatives bs

/-- Where a group begins and where it ends is only noted on the way from the start. -/
def grouped (d : Direction) (b : Build End) : Build End :=
  match d with
  | .forwards => both (both (chain 1) b) (chain 1)
  | .backwards => b

/-- The automata of the branches of a pattern, most of which have one. -/
def ofPattern (d : Direction) : Pattern → List (Build End)
  | .empty | .assertion _ => [chain 1]
  | .literal cs => [chain (bytes cs).length]
  | .set s _ => [ofSet d s]
  | .group _ p => [grouped d (ofBranches d p (ofPattern d p))]
  | .repeated p least most _ =>
    [repetition (ofBranches d p (ofPattern d p)) p.takesSomething least most]
  | .seq p q =>
    let a := ofBranches d p (ofPattern d p)
    let b := ofBranches d q (ofPattern d q)
    match d with
    | .forwards => [both a b]
    | .backwards => [both b a]
  | .alt p q => ofBranches d p (ofPattern d p) :: ofPattern d q

/-- The automaton of a whole pattern. Unless it has to begin where its way does, it goes on by a
loop over all bytes. -/
def whole (d : Direction) (p : Pattern) : Build Unit := do
  let fixed := match d with
    | .forwards => p.startsText
    | .backwards => p.endsText
  if fixed then grow 1 0 else grow 3 (labelledWayBytes + 2 * wayBytes)
  andOn (grouped d (ofBranches d p (ofPattern d p)))
  grow 1 0

end Automaton

/-- Whether both automata of a pattern can be built. -/
def fits (p : Pattern) : Bool :=
  (Automaton.whole .forwards p {}).isSome && (Automaton.whole .backwards p {}).isSome

end TagRights.Pattern
