import TagRights.Command

namespace TagRights

/-- What the arguments ask for. -/
structure Invocation where
  registry : Option SystemText
  verbosity : Nat
  command : Command
  deriving DecidableEq

namespace Invocation

/-- Why no command is run: the arguments are wrong, or ask about the program itself. -/
inductive Stop where
  | usageError
  | version
  | help
  deriving DecidableEq

inductive Flag where
  | registry
  | verbose
  | quiet
  | data
  | version
  | help
  deriving DecidableEq

namespace Flag

def short : Flag → Char
  | registry => 'r'
  | verbose => 'v'
  | quiet => 'q'
  | data => 'd'
  | version => 'V'
  | help => 'h'

def long : Flag → String
  | registry => "registry"
  | verbose => "verbose"
  | quiet => "quiet"
  | data => "data"
  | version => "version"
  | help => "help"

def takesValue : Flag → Bool
  | registry | data => true
  | _ => false

end Flag

inductive Verb where
  | find
  | level
  | codes
  | check
  | set
  | list
  deriving DecidableEq

namespace Verb

def ofName? (s : String) : Option Verb :=
  match s with
  | "exists" => some find
  | "lvl" => some level
  | "codes" => some codes
  | "check" => some check
  | "set" => some set
  | "list" => some list
  | _ => none

def flags : Verb → List Flag
  | check => [.registry, .verbose, .help, .quiet]
  | set => [.registry, .verbose, .help, .data]
  | _ => [.registry, .verbose, .help]

/-- How many words follow the command. -/
def wordCount : Verb → Nat
  | list => 0
  | find | level | codes => 1
  | check | set => 2

end Verb

/-- The options and words that were read at one level, before or after the command. -/
structure Given where
  registry : Option SystemText := none
  verbosity : Option Nat := none
  quiet : Bool := false
  data : Option String := none
  words : List String := []

namespace Given

/-- A flag without a value. A quiet check is asked for once. -/
def raise (g : Given) : Flag → Except Stop Given
  | .verbose => .ok { g with verbosity := some (g.verbosity.getD 0 + 1) }
  | .quiet => if g.quiet then .error .usageError else .ok { g with quiet := true }
  | .version => .error .version
  | .help => .error .help
  | .registry | .data => .error .usageError

/-- A flag with its value. Each is given once, and a registry path is not empty. Other values are
characters throughout. -/
def assign (g : Given) (value : SystemText) : Flag → Except Stop Given
  | .registry =>
    if g.registry.isSome ∨ value = [] then .error .usageError
    else .ok { g with registry := some value }
  | .data =>
    match value.toString? with
    | some s => if g.data.isSome then .error .usageError else .ok { g with data := some s }
    | none => .error .usageError
  | _ => .error .usageError

/-- The flags of an argument after its hyphen. One that takes a value takes the rest of the
argument, less an equals sign, or else waits for the next argument. -/
def readShort (flags : List Flag) (g : Given) : SystemText → Except Stop (Given × Option Flag)
  | [] => .ok (g, none)
  | .undecoded _ :: _ => .error .usageError
  | .char c :: rest =>
    match flags.find? (·.short == c) with
    | none => .error .usageError
    | some flag =>
      if flag.takesValue then
        match rest with
        | [] => .ok (g, some flag)
        | .char '=' :: value => do return (← g.assign value flag, none)
        | value => do return (← g.assign value flag, none)
      else do readShort flags (← g.raise flag) rest

/-- The flag of an argument after its two hyphens. -/
def readLong (flags : List Flag) (g : Given) (t : SystemText) :
    Except Stop (Given × Option Flag) :=
  let name := SystemText.toString? (t.takeWhile (· != .char '='))
  match flags.find? (some ·.long == name), t.dropWhile (· != .char '=') with
  | none, _ => .error .usageError
  | some flag, [] =>
    if flag.takesValue then .ok (g, some flag) else do return (← g.raise flag, none)
  | some flag, _ :: value => do return (← g.assign value flag, none)

end Given

/-- The forms of an argument. A lone hyphen is a word. -/
inductive Argument where
  | word (t : SystemText)
  | short (flags : SystemText)
  | long (flag : SystemText)
  | wordsOnly

def Argument.ofText : SystemText → Argument
  | [.char '-', .char '-'] => wordsOnly
  | .char '-' :: .char '-' :: flag => long flag
  | [.char '-'] => word [.char '-']
  | .char '-' :: flags => short flags
  | t => word t

/-- The arguments after a command, perhaps with a flag whose value is due. A value does not look
like a flag. A word too many, or one that is not characters throughout, ends the reading, so that no
later flag counts. -/
def readWords (verb : Verb) (g : Given) : Option Flag → List SystemText → Except Stop Given
  | none, [] => .ok g
  | some _, [] => .error .usageError
  | some flag, arg :: args =>
    match Argument.ofText arg with
    | .word value => do readWords verb (← g.assign value flag) none args
    | _ => .error .usageError
  | none, arg :: args =>
    match Argument.ofText arg with
    | .word t =>
      match t.toString? with
      | some s =>
        if g.words.length < verb.wordCount then
          readWords verb { g with words := g.words ++ [s] } none args
        else .error .usageError
      | none => .error .usageError
    | .short flags => do
      let (g, waiting) ← g.readShort verb.flags flags
      readWords verb g waiting args
    | .long flag => do
      let (g, waiting) ← g.readLong verb.flags flag
      readWords verb g waiting args
    | .wordsOnly =>
      match args.mapM SystemText.toString? with
      | some words => .ok { g with words := g.words ++ words }
      | none => .error .usageError

/-- The command with its words, of which there must be the right number. -/
def commandOf (verb : Verb) (g : Given) : Except Stop Command :=
  match verb, g.words with
  | .find, [token] => .ok (.find token)
  | .level, [tags] => .ok (.level tags)
  | .codes, [tags] => .ok (.codes tags)
  | .check, [tags, expression] => .ok (.check tags expression g.quiet)
  | .set, [tags, expression] => .ok (.set tags expression g.data)
  | .list, [] => .ok .list
  | _, _ => .error .usageError

/-- Options after the command override those before it. -/
def finish (verb : Verb) (before after : Given) : Except Stop Invocation := do
  return {
    registry := after.registry.or before.registry
    verbosity := (after.verbosity.or before.verbosity).getD 0
    command := ← commandOf verb after }

def verb? (t : SystemText) : Option Verb :=
  t.toString?.bind Verb.ofName?

/-- The arguments up to the command and, by way of `readWords`, those after it. -/
def readCommand (g : Given) : Option Flag → List SystemText → Except Stop Invocation
  | _, [] => .error .usageError
  | some flag, arg :: args =>
    match Argument.ofText arg with
    | .word value => do readCommand (← g.assign value flag) none args
    | _ => .error .usageError
  | none, arg :: args =>
    match Argument.ofText arg with
    | .word t =>
      match verb? t with
      | some verb => do finish verb g (← readWords verb {} none args)
      | none =>
        let known := args = [] ∨ (args.length = 1 ∧ (args.head?.bind verb?).isSome)
        if t = .ofString "help" ∧ known then .error .help else .error .usageError
    | .short flags => do
      let (g, waiting) ← g.readShort [.registry, .verbose, .version, .help] flags
      readCommand g waiting args
    | .long flag => do
      let (g, waiting) ← g.readLong [.registry, .verbose, .version, .help] flag
      readCommand g waiting args
    | .wordsOnly => .error .usageError

def ofArguments (args : List SystemText) : Except Stop Invocation :=
  readCommand {} none args

end Invocation

end TagRights
