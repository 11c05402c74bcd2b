import TagRights.Condition
import TagRights.Subject
import TagRights.Text.ControlSequence

namespace TagRights.Journal

inductive Level where
  | error
  | warn
  | info
  | debug
  | trace
  deriving DecidableEq

def Level.name : Level → String
  | error => "ERROR"
  | warn => "WARN"
  | info => "INFO"
  | debug => "DEBUG"
  | trace => "TRACE"

/-- The part of the program that a record comes from. -/
inductive Source where
  | program
  | definitions
  | registry
  | condition
  deriving DecidableEq

def Source.path : Source → String
  | program => "tagkit"
  | definitions => "tagkit::infrastructure::config"
  | registry => "tagkit::domain::registry"
  | condition => "tagkit::domain::expr"

/-- What an operation leaves in the journal. It depends only on what the operation is given, so each
journal is a function beside its operation. -/
structure Record where
  level : Level
  source : Source
  message : String
  deriving DecidableEq

def Record.text (r : Record) : String :=
  s!"{r.level.name} {r.source.path} {r.message}"

/-- A record on a line of its own, as a terminal may show it. Where the message has line ends, what
follows them is indented. -/
def Record.line (r : Record) : String :=
  Text.withoutControls ("\n    ".intercalate (Text.splitAt '\n' r.text) ++ "\n")

def registering (verb : String) (t : Tag) : Record :=
  ⟨.debug, .registry, s!"{verb} tag '{t.name}' (code '{t.code}', lvl {t.level})"⟩

def ofAdd (r : Registry) (d : Definition) : Record :=
  match r.named? (Text.lowercase d.name) with
  | some old => registering "updated" (old.redefine d)
  | none => registering "registered" (Tag.ofDefinition d)

def ofExtend (r : Registry) : List Definition → List Record
  | [] => []
  | d :: ds => ofAdd r d :: ofExtend (r.add d) ds

def ofDirective (r : Registry) : Directive → List Record
  | .grant token =>
    match r.find? token with
    | some tag => [⟨.debug, .registry, s!"granted tag '{tag.name}'"⟩]
    | none => [⟨.debug, .registry, s!"ignoring unknown tag '{token}'"⟩]
  | .revoke name =>
    match r.find? name with
    | some tag => [⟨.debug, .registry, s!"revoked tag '{tag.name}'"⟩]
    | none => []

def ofSet (r : Registry) (expression : String) : List Record :=
  (Directive.parseAll expression).flatMap (ofDirective r)

/-- Only a threshold without a tag is worth a warning. -/
def ofCheck (r : Registry) (list expression : String) : List Record :=
  match r.check list expression with
  | .error (.unknownThreshold base) =>
    [⟨.warn, .condition, s!"threshold clause '{base}+' names an unregistered tag"⟩]
  | _ => []

end TagRights.Journal
