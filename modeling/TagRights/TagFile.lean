import TagRights.Failure
import TagRights.Journal
import TagRights.Toml.Document

namespace TagRights

namespace Toml

/-- The member that holds the text of a date or time in JSON. -/
def momentKey : String := "$__toml_private_datetime"

mutual

/-- The JSON form. It has no infinities and no NaN. -/
def Value.toJson : Value → Json
  | .text s => .str s
  | .integer n => .int n
  | .float x => if x.isFinite then .float x else .null
  | .boolean b => .bool b
  | .moment s => .obj [(momentKey, .str s)]
  | .array items => .arr (itemsToJson items)
  | .table _ entries => .obj (entriesToJson entries)
  | .tables elements => .arr (elementsToJson elements)

def itemsToJson : List Value → List Json
  | [] => []
  | v :: vs => v.toJson :: itemsToJson vs

def entriesToJson : List (String × Value) → List (String × Json)
  | [] => []
  | (key, v) :: rest => (key, v.toJson) :: entriesToJson rest

def elementsToJson : List (List (String × Value)) → List Json
  | [] => []
  | t :: ts => .obj (entriesToJson t) :: elementsToJson ts

end

end Toml

namespace TagFile

open Toml (Value)

def string? : Value → Option String
  | .text s => some s
  | _ => none

def level? : Value → Option Nat
  | .integer n => if 0 ≤ n ∧ n < Decimal.twoPow 32 then some n.toNat else none
  | _ => none

/-- A table, or a date or time in its JSON form. -/
def data? (v : Value) : Option DataBag :=
  match v with
  | .table .. | .moment _ =>
    match v.toJson with
    | .obj members => some members
    | _ => none
  | _ => none

/-- The definition with these five fields, of which the last three may be missing. -/
def ofFields? (name code level data lock : Option Value) : Option Definition := do
  return {
    name := ← string? (← name)
    code := ← string? (← code)
    level := ← level.mapM level?
    data := ← data.mapM data?
    lock := ← lock.mapM string? }

/-- Fields go by name in a table and by position in an array. Others are passed over. -/
def definition? : Value → Option Definition
  | .table _ entries =>
    let field := Members.get? entries
    ofFields? (field "name") (field "code") (field "lvl") (field "data") (field "lock")
  | .array items => ofFields? items[0]? items[1]? items[2]? items[3]? items[4]?
  | _ => none

def elements? : Value → Option (List Value)
  | .array items => some items
  | .tables elements => some (elements.map (.table .header ·))
  | _ => none

/-- The definitions in a document, which may have none. -/
def definitions? (document : Toml.Table) : Option (List Definition) :=
  match document.get? "tag" with
  | none => some []
  | some v => do (← elements? v).mapM definition?

/-- The definitions in the text of a registry file. They stand under `tag`, each a table or an
array. -/
def read (s : String) : Except Failure (List Definition) :=
  ((Toml.document? s).bind definitions?).elim (.error (.malformedToml s)) .ok

/-- Whether conditions and directives can speak of `s`: it is one word without their signs, and so
matches the pattern `^[^\s!|+]+$`. -/
def isToken (s : String) : Bool :=
  !s.isEmpty && s.toList.all fun c => !Text.isBlank c && c != '!' && c != '|' && c != '+'

def validate : List Definition → Except Failure Unit
  | [] => .ok ()
  | d :: ds =>
    if !isToken d.name then .error (.invalidTag s!"name '{d.name}'")
    else if !isToken d.code then .error (.invalidTag s!"code '{d.code}' of tag '{d.name}'")
    else validate ds

def register (ds : List Definition) : Except Failure Registry := do
  validate ds
  return Registry.ofDefinitions ds

def journal (ds : List Definition) : List Journal.Record :=
  match validate ds with
  | .ok _ =>
    ⟨.debug, .definitions, s!"loading {ds.length} tag definitions"⟩ :: Journal.ofExtend .empty ds
  | .error _ => []

end TagFile

end TagRights
