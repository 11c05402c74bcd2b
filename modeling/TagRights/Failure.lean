import TagRights.Text.Words

namespace TagRights

/-- A part of a text as the system hands it over: a character, or bytes that make none. -/
inductive Piece where
  | char (c : Char)
  | undecoded (bytes : List UInt8)
  deriving DecidableEq

/-- A text as the system hands it over: an argument, a path, the value of a variable. -/
abbrev SystemText := List Piece

namespace SystemText

def ofString (s : String) : SystemText :=
  s.toList.map .char

def char? : Piece → Option Char
  | .char c => some c
  | .undecoded _ => none

/-- The text, if all of it is characters. -/
def toString? (t : SystemText) : Option String :=
  (t.mapM char?).map String.ofList

/-- The text as it is shown, with a sign in place of what is no character. -/
def display (t : SystemText) : String :=
  String.ofList (t.map fun piece => (char? piece).getD '\uFFFD')

/-- A path inside a directory. An absolute path does not depend on the directory. -/
def join (directory path : SystemText) : SystemText :=
  if path.head? = some (.char '/') then path
  else if directory.getLast?.all (· == .char '/') then directory ++ path
  else directory ++ .char '/' :: path

end SystemText

/-- The outcome of reading a file. -/
inductive Reading where
  | missing
  | refused (reason : String)
  | bytes (content : ByteArray)

/-- What the program passes on in the words of others: what is wrong with a text that is not read as
TOML or as JSON, and what is said of a breakdown. -/
structure Wording where
  toml : String → String
  json : String → String
  breakdown : String
  breakdown_ne_empty : breakdown ≠ ""

/-- The ways in which a request can fail. -/
inductive Failure where
  | registryNotFound (path : SystemText)
  | unknownThreshold (base : String)
  | tagNotFound (token : String)
  | invalidTag (detail : String)
  | io (reason : String)
  | configuration (detail : String)
  /-- The text is not one of a registry file. -/
  | malformedToml (text : String)
  | malformedJson (text : String)
  deriving DecidableEq

namespace Failure

def message (w : Wording) : Failure → String
  | registryNotFound path => s!"Registry file not found: {path.display}"
  | unknownThreshold base => s!"Unknown threshold tag: {base}"
  | tagNotFound token => s!"Tag not found: {token}"
  | invalidTag detail => s!"Invalid tag definition: {detail}"
  | io reason => s!"IO error: {reason}"
  | configuration detail => s!"Configuration error: {detail}"
  | malformedToml text => s!"TOML deserialization error: {w.toml text}"
  | malformedJson text => s!"JSON error: {w.json text}"

/-- The message with suggestions on what to do, where there are any. -/
def help (w : Wording) : Failure → String
  | registryNotFound path =>
    s!"Registry file not found: {path.display}\n\n" ++
    "Suggestions:\n" ++
    "• Create a tags.toml with one [[tag]] table per tag\n" ++
    "• Pass the file explicitly with --registry <PATH>\n" ++
    "• Set TAGKIT_REGISTRY environment variable to your registry path"
  | unknownThreshold base =>
    s!"Unknown threshold tag: '{base}'\n\n" ++
    "A clause ending in '+' compares levels, so its tag must be registered.\n" ++
    "Suggestions:\n" ++
    "• Run 'tagkit list' to see registered tags\n" ++
    s!"• Add a [[tag]] entry named '{base}' with a lvl\n" ++
    "• Drop the trailing '+' for a plain membership test" ++
    if (Text.afterFirst? '!' base).isSome then
      s!"\n• '!' does not negate a threshold: '{base}+' looks up a tag named '{base}'"
    else ""
  | tagNotFound token =>
    s!"No tag matches '{token}'\n\n" ++
    "Suggestions:\n" ++
    "• Names are case-insensitive, codes are matched exactly\n" ++
    "• Run 'tagkit list' to see registered tags"
  | invalidTag detail =>
    s!"Invalid tag definition: {detail}\n\n" ++
    "Names and codes must be non-empty and may not contain\n" ++
    "whitespace or the reserved symbols '!', '|', '+'"
  | failure => failure.message w

/-- Status 1 is left to a quiet check that does not hold. -/
def exitStatus : Failure → Nat
  | registryNotFound _ => 2
  | unknownThreshold _ => 3
  | tagNotFound _ => 4
  | invalidTag _ => 5
  | io _ | configuration _ | malformedToml _ | malformedJson _ => 6

end Failure

end TagRights
