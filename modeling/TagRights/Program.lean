import TagRights.Invocation
import TagRights.LogFilter

namespace TagRights

/-- The definitions in a file that was read. -/
def Reading.definitions (path : SystemText) : Reading → Except Failure (List Definition)
  | missing => .error (.registryNotFound path)
  | refused reason => .error (.io reason)
  | bytes content =>
    match String.fromUTF8? content with
    | some s => TagFile.read s
    | none => .error (.io "stream did not contain valid UTF-8")

def Reading.registry (path : SystemText) (reading : Reading) : Except Failure Registry := do
  TagFile.register (← reading.definitions path)

def Reading.journal (path : SystemText) (reading : Reading) : List Journal.Record :=
  match reading.definitions path with
  | .ok ds => TagFile.journal ds
  | .error _ => []

/-- What the program sees of its surroundings. The standard output takes whatever is written. -/
structure Surroundings where
  /-- The environment variable that names the registry file. -/
  registryVariable : Option SystemText
  /-- The environment variable with the log filter. -/
  logVariable : Option SystemText
  directory : SystemText
  /-- Why the system does not tell the directory, if it does not. -/
  directoryFault : Option String := none
  /-- Whether the standard error takes all that is written, or else nothing. -/
  hearsErrors : Bool := true
  read : SystemText → Reading

namespace Surroundings

/-- The file that the environment names. A value with parts that are no characters counts for
nothing. -/
def namedPath (s : Surroundings) : Option SystemText :=
  s.registryVariable.filter (·.toString?.isSome)

/-- The registry file where the arguments name none. -/
def defaultPath (s : Surroundings) : SystemText :=
  s.namedPath.getD (s.directory.join (.ofString "tags.toml"))

/-- The log filter, and what is wrong with how it is written. -/
def logFilter (s : Surroundings) : LogFilter × List String :=
  LogFilter.read ((s.logVariable.bind SystemText.toString?).getD "")

end Surroundings

/-- What the standard error is told. -/
inductive Message where
  /-- A part of the log filter is wrong. -/
  | warning (text : String)
  | record (r : Journal.Record)
  | failure (f : Failure)
  | breakdown
  deriving DecidableEq

namespace Message

def text (w : Wording) : Message → String
  | warning text => text ++ "\n"
  | record r => r.line
  | failure f => "Error: " ++ f.help w ++ "\n"
  | breakdown => w.breakdown

def isError : Message → Bool
  | failure _ | breakdown => true
  | warning _ | record _ => false

@[simp] theorem isError_failure (f : Failure) : (failure f).isError = true := rfl

@[simp] theorem isError_breakdown : breakdown.isError = true := rfl

/-- Whether the program breaks down where it cannot say this. Records are passed over then. -/
def isOwed : Message → Bool
  | warning _ | failure _ => true
  | record _ | breakdown => false

end Message

/-- What a run leaves behind. -/
structure Outcome where
  status : Nat
  output : String
  messages : List Message

namespace Outcome

/-- The text for the standard error. -/
def errorOutput (w : Wording) (o : Outcome) : String :=
  String.join (o.messages.map (·.text w))

/-- The outcome where nothing can be said. -/
def muted (o : Outcome) : Outcome :=
  if o.messages.any Message.isOwed then ⟨101, "", []⟩ else { o with messages := [] }

end Outcome

namespace Invocation

def registryPath (inv : Invocation) (s : Surroundings) : SystemText :=
  inv.registry.getD s.defaultPath

/-- The registry file is looked for in the directory only where nothing names it. -/
def locate (inv : Invocation) (s : Surroundings) : Except Failure SystemText :=
  match inv.registry.or s.namedPath, s.directoryFault with
  | none, some reason => .error (.io reason)
  | _, _ => .ok (inv.registryPath s)

/-- The registry that the command is about. -/
def load (inv : Invocation) (s : Surroundings) : Except Failure Registry := do
  let path ← inv.locate s
  (s.read path).registry path

/-- The registry is loaded first, so the command does not matter where that fails. -/
def answer (inv : Invocation) (s : Surroundings) : Except Failure Answer := do
  inv.command.answer (← inv.load s)

def fullJournal (inv : Invocation) (s : Surroundings) : List Journal.Record :=
  match inv.locate s with
  | .error _ => []
  | .ok path =>
    let reading := s.read path
    let ofCommand := match reading.registry path with
      | .ok r => inv.command.journal r
      | .error _ => []
    ⟨.debug, .program, s!"using registry {path.display}"⟩ :: reading.journal path ++ ofCommand

/-- What is said before the answer. -/
def preamble (inv : Invocation) (s : Surroundings) : List Message :=
  let shown := (inv.fullJournal s).filter (s.logFilter.1.withVerbosity inv.verbosity).shows
  s.logFilter.2.map .warning ++ shown.map .record

/-- The outcome of a run that can say all it has to. -/
def plainRun (inv : Invocation) (s : Surroundings) : Outcome :=
  match inv.answer s with
  | .ok a => ⟨a.status, a.output, inv.preamble s ++ if a.broken then [.breakdown] else []⟩
  | .error failure => ⟨failure.exitStatus, "", inv.preamble s ++ [.failure failure]⟩

def run (inv : Invocation) (s : Surroundings) : Outcome :=
  if s.hearsErrors then inv.plainRun s else (inv.plainRun s).muted

end Invocation

def versionLine : String := "tagkit 0.1.0\n"

end TagRights
