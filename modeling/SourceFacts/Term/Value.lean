import SourceFacts.Number.Binary64
import SourceFacts.Term.Tree

/-!
# Values of terms

Only literals have a value: constants, tuples, sets and dictionaries of such, numbers with a sign,
and the sum of a number and an imaginary one. Members of a set and keys of a dictionary must not
change, so they cannot be sets or dictionaries.
-/

namespace SourceFacts.Term

/-- A value, as far as it matters for other values. -/
inductive Value where
  | int (n : Int)
  | float
  | complex
  /-- Any other value, with what in it may change. -/
  | other (changing : Option String)

/-- Why a term has no value. -/
inductive ValueError where
  | malformed
  /-- A dictionary is unpacked into another one. -/
  | unpacked
  | changing (kind : String)
  /-- A number is too large to be added to an imaginary one. -/
  | tooLarge

/-- The report of an error. -/
def ValueError.message : ValueError → String
  | .malformed => "malformed node or string"
  | .unpacked => "malformed node or string: None"
  | .changing kind => s!"unhashable type: '{kind}'"
  | .tooLarge => "int too large to convert to float"

namespace Value

/-- What in a value may change. -/
def changing? : Value → Option String
  | .other changing => changing
  | _ => none

/-- The value with the other sign. -/
def negated : Value → Value
  | .int n => .int (-n)
  | v => v

/-- The value of a constant. -/
def ofConstant : Constant → Value
  | .int n => .int n
  | .float => .float
  | .complex => .complex
  | _ => .other none

end Value

/-- The value of a number. -/
def numberValue : Tree → Except ValueError Value
  | .constant c =>
    match Value.ofConstant c with
    | .other _ => .error .malformed
    | v => .ok v
  | _ => .error .malformed

/-- The value of a number that may have a sign. -/
def signedValue : Tree → Except ValueError Value
  | .node (.unary mark) [operand] =>
    if mark == "+" then numberValue operand
    else if mark == "-" then (numberValue operand).map Value.negated
    else .error .malformed
  | t => numberValue t

/-- The value of the sum of two numbers: the second one is imaginary. -/
def sumValue (left right : Tree) : Except ValueError Value := do
  let left ← signedValue left
  let right ← numberValue right
  match left, right with
  | .int n, .complex =>
    if n ≠ 0 ∧ Number.fractionBits n.natAbs 1 = Number.infinityBits then .error .tooLarge
    else .ok .complex
  | .float, .complex => .ok .complex
  | _, _ => .error .malformed

/-- Checks that a value does not change. -/
def checkLasting (v : Value) : Except ValueError Unit :=
  match v.changing? with
  | some kind => .error (.changing kind)
  | none => .ok ()

mutual

/-- The value of a term. -/
def valueOf : Tree → Except ValueError Value
  | .constant c => .ok (Value.ofConstant c)
  | .node .tuple parts => do
    return .other ((← valuesOf parts).findSome? Value.changing?)
  | .node .set parts => do
    checkMembers parts
    return .other (some "set")
  | .node .dict parts => do
    checkEntries parts
    return .other (some "dict")
  | .node .call [.name name, .node .row [], .node .row []] =>
    if name == "set" then .ok (.other (some "set")) else .error .malformed
  | .node (.binary mark) [left, right] =>
    if mark == "+" || mark == "-" then sumValue left right else .error .malformed
  | t => signedValue t

/-- The values of terms. -/
def valuesOf : List Tree → Except ValueError (List Value)
  | [] => .ok []
  | t :: rest => do
    let v ← valueOf t
    return v :: (← valuesOf rest)

/-- Checks the members of a set one after the other. -/
def checkMembers : List Tree → Except ValueError Unit
  | [] => .ok ()
  | t :: rest => do
    checkLasting (← valueOf t)
    checkMembers rest

/-- Checks the entries of a dictionary one after the other. -/
def checkEntries : List Tree → Except ValueError Unit
  | [] => .ok ()
  | .node .pair [key, value] :: rest => do
    match key with
    | .node .absent _ => throw .unpacked
    | _ =>
      let k ← valueOf key
      let _ ← valueOf value
      checkLasting k
      checkEntries rest
  | _ :: _ => .error .malformed

end

end SourceFacts.Term
