import TagRights.Toml.Value

namespace TagRights.Toml

namespace Table

/-- Changes the table that lies at the end of `path`, by a change that knows the table's origin.
Tables missing on the way are made, with the origin `fresh`. An array of tables stands for its last
element. A dotted key does not lead into a table with a header. -/
def change? (fresh : Origin) (f : Origin → Table → Option Table) :
    List String → Origin → Table → Option Table
  | [], origin, t => f origin t
  | key :: path, _, t =>
    match t.get? key with
    | none => do return t.put key (.table fresh (← change? fresh f path fresh []))
    | some (.table origin sub) =>
      if origin = .inline ∨ (fresh = .dotted ∧ origin = .header) then none
      else do return t.put key (.table origin (← change? fresh f path origin sub))
    | some (.tables elements) =>
      match elements.getLast? with
      | none => none
      | some last => do
        return t.put key (.tables (elements.dropLast ++ [← change? fresh f path .header last]))
    | some _ => none

/-- Adds an entry under a dotted key: `path` and then `key`, which must be new. Only a table that
dotted keys have made is extended by a dotted key. -/
def assign? (path : List String) (key : String) (value : Value) : Origin → Table → Option Table :=
  change? .dotted (fun origin t =>
    if path ≠ [] ∧ origin ≠ .dotted ∨ t.has key then none else some (t.put key value)) path

/-- Opens the table `key`. One that headers of its own tables have implied keeps its entries and
moves to the end. -/
def openTable? (key : String) (_ : Origin) (t : Table) : Option Table :=
  match t.get? key with
  | none => some (t.put key (.table .header []))
  | some (.table .implied entries) => some ((t.erase key).put key (.table .header entries))
  | some _ => none

/-- Opens one more element of the array of tables `key`. -/
def openElement? (key : String) (_ : Origin) (t : Table) : Option Table :=
  match t.get? key with
  | none => some (t.put key (.tables [[]]))
  | some (.tables elements) => some (t.put key (.tables (elements ++ [[]])))
  | some _ => none

end Table

open Reader

/-- The greatest number of parts of a dotted key. -/
def maxKeyParts : Nat := 79

/-- The greatest number of arrays and inline tables inside each other. -/
def maxDepth : Nat := 79

def isBareKey (c : Char) : Bool :=
  c.isAlphanum || c == '_' || c == '-'

def simpleKey : Reader String :=
  String.ofList <$> run1 isBareKey <|> basicString <|> literalString

/-- A dotted key, as the parts before the last and the last. -/
def dottedKey : Reader (List String × String) := do
  let parts ← separated (gap *> simpleKey <* gap) (char '.')
  guard (parts.length ≤ maxKeyParts)
  match parts.getLast? with
  | some last => return (parts.dropLast, last)
  | none => failure

def boolean : Reader Bool :=
  (fun _ => true) <$> word "true".toList <|> (fun _ => false) <$> word "false".toList

def scalar : Reader Value :=
  .text <$> quoted <|> .boolean <$> boolean <|> .moment <$> moment <|> .float <$> finiteFloat <|>
  .float <$> specialFloat <|> .integer <$> integer

/-- Items may stand on lines of their own, and a comma may follow the last. -/
def arrayOf (item : Reader Value) : Reader Value := do
  char '['
  filler
  let items ← optional (separated (item <* filler) (char ',' *> filler))
  if items.isSome then discard <| optional (char ',' *> filler)
  char ']'
  return .array (items.getD [])

def assignment (value : Reader Value) : Reader ((List String × String) × Value) := do
  let key ← dottedKey
  char '='
  gap
  return (key, ← value)

def inlineTable (value : Reader Value) : Reader Value := do
  char '{'
  let entries ← optional (separated (assignment value <* gap) (char ','))
  gap
  char '}'
  let build := fun (t : Table) ((path, key), v) => Table.assign? path key v .inline t
  .table .inline <$> ((entries.getD []).foldlM build [] : Option Table)

/-- A value with at most `depth` arrays and inline tables inside each other. -/
def value : Nat → Reader Value
  | 0 => scalar
  | depth + 1 => scalar <|> arrayOf (value depth) <|> inlineTable (value depth)

inductive Statement where
  | assign (path : List String) (key : String) (value : Value)
  | openTable (path : List String) (key : String)
  | openElement (path : List String) (key : String)

def statement : Reader Statement :=
  (do
    word ['[', '[']
    let (path, key) ← dottedKey
    word [']', ']']
    return .openElement path key) <|>
  (do
    char '['
    let (path, key) ← dottedKey
    char ']'
    return .openTable path key) <|>
  (do
    let ((path, key), v) ← assignment (value maxDepth)
    return .assign path key v)

/-- A line without a statement. -/
def emptyLine : Reader Unit := do
  gap
  discard <| optional comment
  newline

def statements : Reader (List Statement) := do
  discard <| optional (char '\uFEFF')
  let lines ← many (some <$> (gap *> statement <* lineEnd) <|> (fun _ => none) <$> emptyLine)
  lineEnd
  return lines.filterMap id

/-- A document in the making, and the path of the table that assignments go to. -/
structure Building where
  root : Table
  current : List String

namespace Building

def step? (b : Building) : Statement → Option Building
  | .assign path key value => do
    let root ← Table.change? .implied (Table.assign? path key value) b.current .header b.root
    return { b with root }
  | .openTable path key => do
    let root ← Table.change? .implied (Table.openTable? key) path .header b.root
    return ⟨root, path ++ [key]⟩
  | .openElement path key => do
    let root ← Table.change? .implied (Table.openElement? key) path .header b.root
    return ⟨root, path ++ [key]⟩

end Building

/-- The table that `s` writes, if `s` is a TOML document. -/
def document? (s : String) : Option Table := do
  let built ← (← statements.all? s).foldlM Building.step? ⟨[], []⟩
  return built.root

end TagRights.Toml
