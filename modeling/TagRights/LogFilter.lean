import TagRights.Journal
import TagRights.Pattern.Matching
import TagRights.Pattern.Reader

namespace TagRights

open Journal (Level Source Record)

/-- How much detail a level stands for. -/
def Journal.Level.rank : Level → Nat
  | error => 1
  | warn => 2
  | info => 3
  | debug => 4
  | trace => 5

structure LogFilter.Rule where
  /-- The beginning of the sources it is for; a rule without a name is for all. -/
  name : Option String
  /-- The greatest rank shown. -/
  rank : Nat
  deriving DecidableEq

/-- It is written as rules between commas, as in `warn,tagkit::domain=debug`, and may end in a slash
and a pattern that messages must match. -/
structure LogFilter where
  rules : List LogFilter.Rule
  pattern : Option Pattern

namespace LogFilter

def Rule.length (rule : Rule) : Nat :=
  (rule.name.map (·.utf8ByteSize)).getD 0

def Rule.appliesTo (rule : Rule) (source : Source) : Bool :=
  match rule.name with
  | none => true
  | some name => name.toList.isPrefixOf source.path.toList

def rank? (s : String) : Option Nat :=
  match String.ofList (s.toList.map Char.toLower) with
  | "off" => some 0
  | "error" => some 1
  | "warn" => some 2
  | "info" => some 3
  | "debug" => some 4
  | "trace" => some 5
  | _ => none

def maxRank : Nat := 5

def trim (s : String) : String :=
  String.ofList ((Text.trimEnd s).toList.dropWhile Text.isBlank)

/-- A rule for the same name replaces the earlier one in its place. -/
def insert (rules : List Rule) (rule : Rule) : List Rule :=
  if rules.any (·.name == rule.name) then
    rules.map fun old => if old.name = rule.name then rule else old
  else rules ++ [rule]

/-- The rule that is written, or the part that is wrong. -/
def readRule (s : String) : Except String Rule :=
  match Text.splitAt '=' s with
  | [part] =>
    match rank? part with
    | some rank => .ok ⟨none, rank⟩
    | none => .ok ⟨some part, maxRank⟩
  | [name, level] =>
    let level := trim level
    if level = "" then .ok ⟨some name, maxRank⟩
    else match rank? level with
      | some rank => .ok ⟨some name, rank⟩
      | none => .error level
  | _ => .error s

/-- Rules that are wrong are left out, each with a warning. -/
def readRules (s : String) : List Rule × List String :=
  let parts := ((Text.splitAt ',' s).map trim).filter (· ≠ "")
  let read := fun (rules, warnings) part =>
    match readRule part with
    | .ok rule => (insert rules rule, warnings)
    | .error wrong =>
      (rules, warnings ++ [s!"warning: invalid logging spec '{wrong}', ignoring it"])
  parts.foldl read ([], [])

/-- The filter that is written, with the warnings about it. -/
def read (s : String) : LogFilter × List String :=
  match Text.splitAt '/' s with
  | [rules] =>
    let (rules, warnings) := readRules rules
    (⟨rules, none⟩, warnings)
  | [rules, pattern] =>
    let (rules, warnings) := readRules rules
    match Pattern.ofText? pattern with
    | some p => (⟨rules, some p⟩, warnings)
    | none =>
      (⟨rules, none⟩, warnings ++ [s!"warning: invalid regex filter - {pattern}, ignoring it"])
  | _ =>
    (⟨[], none⟩, [s!"warning: invalid logging spec '{s}' (too many '/'s), ignoring it"])

/-- Verbosity sets the rule without a name. -/
def withVerbosity (f : LogFilter) (verbosity : Nat) : LogFilter :=
  if verbosity = 0 then f
  else { f with rules := insert f.rules ⟨none, if verbosity = 1 then 4 else 5⟩ }

/-- Of the rules for a source the longest name counts, and of equally long ones the last. Without
any rules errors are shown. -/
def ruleFor (f : LogFilter) (source : Source) : Option Rule :=
  let rules := if f.rules.isEmpty then [⟨none, 1⟩] else f.rules
  (rules.filter (·.appliesTo source)).foldl (fun best rule =>
    match best with
    | none => some rule
    | some b => if b.length ≤ rule.length then some rule else some b) none

def shows (f : LogFilter) (record : Record) : Bool :=
  match f.ruleFor record.source with
  | none => false
  | some rule =>
    record.level.rank ≤ rule.rank && f.pattern.all (·.occursIn record.message)

end LogFilter

end TagRights
