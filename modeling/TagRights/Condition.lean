import TagRights.Failure
import TagRights.Registry
import TagRights.Text.Lowercase
import TagRights.Text.Words

namespace TagRights

/-- A test for one tag. The name is in lower case. -/
structure Term where
  name : String
  negated : Bool
  deriving DecidableEq

namespace Term

def parse (token : String) : Term :=
  match Text.afterFirst? '!' token with
  | some name => ⟨Text.lowercase name, true⟩
  | none => ⟨Text.lowercase token, false⟩

def text (t : Term) : String :=
  if t.negated then "!" ++ t.name else t.name

end Term

/-- One of several terms, as in `a|!b|c`, a threshold, as in `staff+`, or a single term. -/
inductive Clause where
  | anyOf (terms : List Term)
  /-- The base is kept as written, since it may be a code. -/
  | atLeast (base : String)
  | member (term : Term)
  deriving DecidableEq

namespace Clause

/-- A bar makes alternatives, whatever else there is; then a final plus makes a threshold. -/
def parse (token : String) : Clause :=
  if token.toList.contains '|' then .anyOf ((Text.splitAt '|' token).map Term.parse)
  else match Text.beforeLast? '+' token with
    | some base => .atLeast base
    | none => .member (Term.parse token)

def text : Clause → String
  | anyOf terms => "|".intercalate (terms.map Term.text)
  | atLeast base => base ++ "+"
  | member term => term.text

end Clause

/-- The words of a condition are clauses that must all hold. -/
structure Condition where
  clauses : List Clause
  deriving DecidableEq

namespace Condition

/-- Every text is a condition. -/
def parse (expression : String) : Condition :=
  ⟨(Text.words expression).map Clause.parse⟩

def text (c : Condition) : String :=
  " ".intercalate (c.clauses.map Clause.text)

def isEmpty (c : Condition) : Bool :=
  c.clauses.isEmpty

end Condition

/-- What a condition can ask of a tag list: its words in lower case and its highest level. -/
structure Active where
  names : List String
  level : Nat

def Registry.active (r : Registry) (list : String) : Active :=
  ⟨(Text.words list).map Text.lowercase, r.level list⟩

def Term.holds (t : Term) (active : Active) : Bool :=
  active.names.contains t.name != t.negated

def Clause.evaluate (r : Registry) (active : Active) : Clause → Except Failure Bool
  | anyOf terms => .ok (terms.any (·.holds active))
  | atLeast base =>
    match r.find? base with
    | some tag => .ok (tag.level ≤ active.level)
    | none => .error (.unknownThreshold base)
  | member term => .ok (term.holds active)

/-- Every clause is looked at, so an unknown threshold is reported even behind a clause that does
not hold. -/
def Clause.evaluateAll (r : Registry) (active : Active) : List Clause → Except Failure Bool
  | [] => .ok true
  | c :: cs => do
    let first ← c.evaluate r active
    let others ← evaluateAll r active cs
    return first && others

namespace Registry

/-- Whether the tag list meets the condition. -/
def check (r : Registry) (list expression : String) : Except Failure Bool :=
  Clause.evaluateAll r (r.active list) (Condition.parse expression).clauses

end Registry

end TagRights
