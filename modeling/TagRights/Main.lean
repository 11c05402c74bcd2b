import TagRights.Program

namespace TagRights

def usage : String :=
  "Tag registry and permission expression evaluator\n\n" ++
  "Usage: tagkit [OPTIONS] <COMMAND>\n\n" ++
  "Commands:\n" ++
  "  exists <TOKEN>            Look up a tag by name or code\n" ++
  "  lvl <TAGS>                Print the highest level in a tag list\n" ++
  "  codes <TAGS>              Print the code string of a tag list\n" ++
  "  check [-q] <TAGS> <EXPR>  Test a tag list against an expression\n" ++
  "  set <TAGS> <EXPR>         Apply grants and revokes to a tag list [-d <JSON>]\n" ++
  "  list                      List registered tags\n\n" ++
  "Options:\n" ++
  "  -r, --registry <PATH>     Registry file (default: $TAGKIT_REGISTRY, then ./tags.toml)\n" ++
  "  -v, --verbose             Increase log verbosity (-v debug, -vv trace)\n" ++
  "  -h, --help                Print help\n" ++
  "  -V, --version             Print version\n"

/-- The text of a system error by its number, which may come negated. -/
def systemMessage (code : UInt32) (details : String) : String :=
  let number := if code < 0x80000000 then code else 0 - code
  let text := match number with
    | 13 => "Permission denied"
    | 20 => "Not a directory"
    | 21 => "Is a directory"
    | 36 => "File name too long"
    | _ => details
  s!"{text} (os error {number})"

/-- What is said where a text is not of its format. -/
def wording : Wording where
  toml _ := "not a registry file"
  json _ := "not a JSON value"
  breakdown := "A column of the listing is too wide.\n"
  breakdown_ne_empty := by decide

def systemReason : IO.Error → String
  | .noFileOrDirectory .. => "No such file or directory (os error 2)"
  | .inappropriateType _ code details | .permissionDenied _ code details
  | .invalidArgument _ code details => systemMessage code details
  | e => toString e

def readFile (path : String) : IO Reading := do
  try
    return .bytes (← IO.FS.readBinFile path)
  catch
    | .noFileOrDirectory .. => return .missing
    | e => return .refused (systemReason e)

/-- The surroundings, apart from the files. -/
def lookAround : IO Surroundings := do
  let known : Surroundings := {
    registryVariable := (← IO.getEnv "TAGKIT_REGISTRY").map .ofString
    logVariable := (← IO.getEnv "RUST_LOG").map .ofString
    directory := []
    read := fun _ => .missing }
  try
    return { known with directory := .ofString (← IO.currentDir).toString }
  catch e =>
    return { known with directoryFault := some (systemReason e) }

def runInvocation (inv : Invocation) : IO UInt32 := do
  let surroundings ← lookAround
  let reading ← match inv.locate surroundings with
    | .ok path => readFile path.display
    | .error _ => pure .missing
  let outcome := inv.run { surroundings with read := fun _ => reading }
  IO.print outcome.output
  IO.eprint (outcome.errorOutput wording)
  return UInt32.ofNat outcome.status

end TagRights

open TagRights in
def main (args : List String) : IO UInt32 := do
  match Invocation.ofArguments (args.map .ofString) with
  | .ok inv => runInvocation inv
  | .error .version =>
    IO.print versionLine
    return 0
  | .error .help =>
    IO.print usage
    return 0
  | .error .usageError =>
    IO.eprint ("error: invalid arguments\n\n" ++ usage)
    return 2
