import TagRights.Decimal
import TagRights.Json.Basic
import TagRights.Json.Lexeme
import TagRights.Json.Number

namespace TagRights.Json

/-- Floating-point numbers are written plainly from 0.00001 up to 16 whole digits. -/
def floatLayout : Decimal.Layout := ⟨-5, 15⟩

def intChars (n : Int) : List Char :=
  if n < 0 then '-' :: Nat.toDigits 10 n.natAbs else Nat.toDigits 10 n.natAbs

def stringLexeme (s : String) : Lexeme :=
  .quoted (escape s.toList)

mutual

def lexemes : Json → List Lexeme
  | null => [.bare "null".toList]
  | bool true => [.bare "true".toList]
  | bool false => [.bare "false".toList]
  | int n => [.bare (intChars n)]
  | float x => [.bare (floatLayout.writeFloat x)]
  | str s => [stringLexeme s]
  | arr [] => [.mark '[', .mark ']']
  | arr (item :: items) => .mark '[' :: item.lexemes ++ itemLexemes items ++ [.mark ']']
  | obj [] => [.mark '{', .mark '}']
  | obj ((key, value) :: members) =>
    .mark '{' :: stringLexeme key :: .mark ':' :: value.lexemes ++ memberLexemes members ++
      [.mark '}']

/-- Items after the first, each with its comma. -/
def itemLexemes : List Json → List Lexeme
  | [] => []
  | item :: items => .mark ',' :: item.lexemes ++ itemLexemes items

/-- Members after the first, each with its comma. -/
def memberLexemes : List (String × Json) → List Lexeme
  | [] => []
  | (key, value) :: members =>
    .mark ',' :: stringLexeme key :: .mark ':' :: value.lexemes ++ memberLexemes members

end

def text (value : Json) : String :=
  String.ofList (value.lexemes.flatMap Lexeme.chars)

/-- An open container and what it holds so far: the items in reverse, or the members and the name
whose value is due. -/
inductive Frame where
  | arr (items : List Json)
  | obj (members : Members Json) (name : String)

/-- What may come next. -/
inductive Due where
  | value (outer : List Frame)
  | itemOrEnd (outer : List Frame)
  | keyOrEnd (outer : List Frame)
  | key (members : Members Json) (outer : List Frame)
  | colon (members : Members Json) (name : String) (outer : List Frame)
  | afterItem (items : List Json) (outer : List Frame)
  | afterMember (members : Members Json) (outer : List Frame)
  | nothing (value : Json)

/-- The greatest number of containers that may be open at once. -/
def maxDepth : Nat := 127

namespace Due

/-- Hands a complete value to the innermost open container. Of a repeated key the last value
counts. -/
def complete (value : Json) : List Frame → Due
  | [] => nothing value
  | .arr items :: outer => afterItem (value :: items) outer
  | .obj members name :: outer => afterMember (members.put name value) outer

def scalar? (word : List Char) : Option Json :=
  if word = "null".toList then some .null
  else if word = "true".toList then some (.bool true)
  else if word = "false".toList then some (.bool false)
  else number? word

/-- The first lexeme of a value. -/
def open? (outer : List Frame) : Lexeme → Option Due
  | .mark '[' => if outer.length < maxDepth then some (itemOrEnd outer) else none
  | .mark '{' => if outer.length < maxDepth then some (keyOrEnd outer) else none
  | .mark _ => none
  | .quoted body => do return complete (.str (String.ofList (← unescape? body))) outer
  | .bare word => do return complete (← scalar? word) outer

def openKey? (members : Members Json) (outer : List Frame) : Lexeme → Option Due
  | .quoted body => do return colon members (String.ofList (← unescape? body)) outer
  | _ => none

def step? : Due → Lexeme → Option Due
  | value outer, l => open? outer l
  | itemOrEnd outer, .mark ']' => some (complete (.arr []) outer)
  | itemOrEnd outer, l => open? (.arr [] :: outer) l
  | keyOrEnd outer, .mark '}' => some (complete (.obj []) outer)
  | keyOrEnd outer, l => openKey? [] outer l
  | key members outer, l => openKey? members outer l
  | colon members name outer, .mark ':' => some (value (.obj members name :: outer))
  | afterItem items outer, .mark ',' => some (value (.arr items :: outer))
  | afterItem items outer, .mark ']' => some (complete (.arr items.reverse) outer)
  | afterMember members outer, .mark ',' => some (key members outer)
  | afterMember members outer, .mark '}' => some (complete (.obj members) outer)
  | _, _ => none

end Due

def ofLexemes? (ls : List Lexeme) : Option Json :=
  match ls.foldlM Due.step? (Due.value []) with
  | some (.nothing value) => some value
  | _ => none

/-- The value that `s` writes, if `s` is one JSON value with optional space around it. -/
def ofText? (s : String) : Option Json := do
  ofLexemes? (← scan? .between s.toList)

end TagRights.Json
