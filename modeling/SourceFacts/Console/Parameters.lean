import SourceFacts.Term.Reading
import SourceFacts.Term.Value
import SourceFacts.Text.Numeric

/-!
# Parameters of an action

A tag such as `[@press=open('a', 1)]` names an action with parameters. The parameters are a literal:
a number, a text, `True`, `False` or `None`, or a tuple, a set or a dictionary of such.
-/

namespace SourceFacts.Console

/-- Why parameters cannot be read. -/
inductive ParameterError where
  /-- They are no term. -/
  | fault (f : Term.Fault)
  /-- They are a term without a value. -/
  | value (e : Term.ValueError)
  /-- Reading them takes too many rules at once. -/
  | tooDeep
  /-- They are a term with too many levels. -/
  | tooManyLevels
  | nullByte

/-- The report of an error. -/
def ParameterError.message : ParameterError → String
  | .fault f => f.message
  | .value e => e.message
  | .tooDeep => ""
  | .tooManyLevels => "maximum recursion depth exceeded during ast construction"
  | .nullByte => "source code string cannot contain null bytes"

/-- The parameters are no term, so the report shows them. -/
def ParameterError.isFault : ParameterError → Bool
  | .fault _ => true
  | _ => false

/-- The most levels that a term may have. -/
def maxLevels : Nat := 2890

/-- Checks that a text is a literal. -/
def checkLiteral (cs : List Char) : Except ParameterError Unit := do
  if cs.contains (Char.ofNat 0) then throw .nullByte
  let term ← (Term.read cs).mapError fun
    | .fault f => .fault f
    | .tooDeep => .tooDeep
  if maxLevels < term.depth then throw .tooManyLevels
  let _ ← (Term.valueOf term).mapError .value

/-- What is wrong with parameters. -/
def parameterError? (text : String) : Option ParameterError :=
  match checkLiteral (text.toList.dropWhile fun c => c == ' ' || c == '\t') with
  | .error e => some e
  | .ok _ => none

/-- The parameters of an action: what stands in brackets after its name, or none; anything else is
taken as it is. -/
def actionParameters (text : String) : String :=
  let rest := text.toList.dropWhile fun c => Text.isWordChar c || c == '.'
  if rest.isEmpty then "()"
  else if rest.head? == some '(' && rest.getLast? == some ')' && !rest.contains '\n' then
    String.ofList rest
  else text

end SourceFacts.Console
