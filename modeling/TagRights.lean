import TagRights.CharSet
import TagRights.Command
import TagRights.Condition
import TagRights.Decimal
import TagRights.Failure
import TagRights.Invocation
import TagRights.Journal
import TagRights.Json.Basic
import TagRights.Json.Lexeme
import TagRights.Json.Number
import TagRights.Json.Text
import TagRights.LogFilter
import TagRights.Main
import TagRights.Pattern.Automaton
import TagRights.Pattern.Basic
import TagRights.Pattern.Bracket
import TagRights.Pattern.Escape
import TagRights.Pattern.Matching
import TagRights.Pattern.Reader
import TagRights.Pattern.Size
import TagRights.Program
import TagRights.Registry
import TagRights.Subject
import TagRights.Tag
import TagRights.TagFile
import TagRights.Text.CaseMapping
import TagRights.Text.ControlSequence
import TagRights.Text.Lowercase
import TagRights.Text.Reader
import TagRights.Text.Words
import TagRights.Toml.Document
import TagRights.Toml.Quoted
import TagRights.Toml.Value
import TagRights.Unicode.Age
import TagRights.Unicode.Alphabet
import TagRights.Unicode.Boundary
import TagRights.Unicode.Case
import TagRights.Unicode.Category
import TagRights.Unicode.Grapheme
import TagRights.Unicode.Letter
import TagRights.Unicode.Property
import TagRights.Unicode.Script
import TagRights.Unicode.ScriptTable
import TagRights.Proofs.Agreement
import TagRights.Proofs.Condition.Conjunction
import TagRights.Proofs.Condition.Laws
import TagRights.Proofs.Condition.Monotonicity
import TagRights.Proofs.Condition.Parsing
import TagRights.Proofs.Condition.RoundTrip
import TagRights.Proofs.Directive
import TagRights.Proofs.Editing
import TagRights.Proofs.Failure
import TagRights.Proofs.Frame
import TagRights.Proofs.Json.Lexeme
import TagRights.Proofs.Json.Number
import TagRights.Proofs.Json.RoundTrip
import TagRights.Proofs.Ledger
import TagRights.Proofs.Listing
import TagRights.Proofs.Lookup
import TagRights.Proofs.Program
import TagRights.Proofs.Redefinition
import TagRights.Proofs.Registration
import TagRights.Proofs.Registry
import TagRights.Proofs.Reordering
import TagRights.Proofs.Roster
import TagRights.Proofs.Subject.Composition
import TagRights.Proofs.Subject.Exchange
import TagRights.Proofs.Subject.Fulfilment
import TagRights.Proofs.Subject.Halves
import TagRights.Proofs.Subject.Keys
import TagRights.Proofs.Subject.Ledgers
import TagRights.Proofs.Subject.Outcome
import TagRights.Proofs.Subject.Pairing
import TagRights.Proofs.Subject.Replay
import TagRights.Proofs.Subject.Spelling
import TagRights.Proofs.TagList
import TagRights.Proofs.Text.Layout
import TagRights.Proofs.Text.Signs
import TagRights.Proofs.Text.Words
import TagRights.Proofs.Token
import TagRights.Proofs.Validation
