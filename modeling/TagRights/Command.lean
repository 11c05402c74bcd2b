import TagRights.Json.Text
import TagRights.Subject
import TagRights.TagFile

namespace TagRights

def Tag.summary (t : Tag) : String :=
  s!"{t.name} {t.code} {t.level}"

namespace Listing

/-- `s` and spaces up to `width` characters. -/
def padded (width : Nat) (s : String) : String :=
  s ++ String.ofList (List.replicate (width - s.length) ' ')

/-- A column is as wide as its longest entry in UTF-8. -/
def columnWidth (column : List String) : Nat :=
  (column.map (·.utf8ByteSize)).foldr max 0

def row (nameWidth codeWidth : Nat) (t : Tag) : String :=
  padded nameWidth t.name ++ "  " ++ padded codeWidth t.code ++ "  " ++ toString t.level ++ "\n"

/-- The greatest width that a column can be given. -/
def maxWidth : Nat := 65535

/-- Whether the columns of these tags can be given the widths that they need. -/
def fits (tags : List Tag) : Bool :=
  columnWidth (tags.map (·.name)) ≤ maxWidth && columnWidth (tags.map (·.code)) ≤ maxWidth

end Listing

/-- One line for each tag, with aligned names, codes and levels. -/
def listing (tags : List Tag) : String :=
  if tags.isEmpty then "No tags registered"
  else
    let nameWidth := Listing.columnWidth (tags.map (·.name))
    let codeWidth := Listing.columnWidth (tags.map (·.code))
    String.join (tags.map (Listing.row nameWidth codeWidth))

/-- The listing of tags that fit. For others there is none. -/
def listing? (tags : List Tag) : Option String :=
  if Listing.fits tags then some (listing tags) else none

/-- The tag list and below it the data bag. -/
def Subject.text (s : Subject) : String :=
  s.tags ++ "\n" ++ (Json.obj s.data).text

namespace Registry

/-- The tag that a token means, which must exist. -/
def require (r : Registry) (token : String) : Except Failure Tag :=
  match r.find? token with
  | some tag => .ok tag
  | none => .error (.tagNotFound token)

end Registry

/-- The data bag that a JSON text writes. -/
def DataBag.ofText (s : String) : Except Failure DataBag :=
  match Json.ofText? s with
  | none => .error (.malformedJson s)
  | some (.obj members) => .ok members
  | some other => .error (.configuration s!"--data must be a JSON object, got: {other.text}")

/-- As `Registry.set`, with the data bag as JSON text, or empty. -/
def Registry.setFrom (r : Registry) (tags expression : String) (data : Option String) :
    Except Failure Subject := do
  let bag ← match data with
    | some s => DataBag.ofText s
    | none => .ok []
  return r.set ⟨tags, bag⟩ expression

inductive Command where
  | find (token : String)
  | level (tags : String)
  | codes (tags : String)
  | check (tags expression : String) (quiet : Bool)
  | set (tags expression : String) (data : Option String)
  | list
  deriving DecidableEq

/-- What a command comes to: an exit status and the text for the standard output. -/
structure Answer where
  status : Nat
  output : String
  /-- Whether the program breaks down over something that is not foreseen as a failure. -/
  broken : Bool := false
  deriving DecidableEq

namespace Answer

def line (s : String) : Answer := { status := 0, output := s ++ "\n" }

/-- The answer in the exit status alone. -/
def silent (holds : Bool) : Answer := { status := if holds then 0 else 1, output := "" }

def breakdown : Answer := { status := 101, output := "", broken := true }

end Answer

namespace Command

def answer (r : Registry) : Command → Except Failure Answer
  | find token => do return .line (← r.require token).summary
  | level tags => .ok (.line (toString (r.level tags)))
  | codes tags => .ok (.line (r.codes tags))
  | check tags expression quiet => do
    let holds ← r.check tags expression
    return if quiet then .silent holds else .line (toString holds)
  | set tags expression data => do return .line (← r.setFrom tags expression data).text
  | list =>
    match listing? r.tags with
    | some s => .ok (.line (Text.trimEnd s))
    | none => .ok .breakdown

def journal (r : Registry) : Command → List Journal.Record
  | check tags expression _ => Journal.ofCheck r tags expression
  | set tags expression data =>
    match r.setFrom tags expression data with
    | .ok _ => Journal.ofSet r expression
    | .error _ => []
  | _ => []

end Command

end TagRights
