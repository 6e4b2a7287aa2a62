import SourceFacts.Term.Token

/-!
# Terms

A term is a tree of constants and names. Rows of terms and the tokens between them are trees as
well, so that every part of the grammar gives a tree.
-/

namespace SourceFacts.Term

/-- A constant. Of the numbers only whole ones are told apart. -/
inductive Constant where
  | none
  | bool (b : Bool)
  | ellipsis
  | int (n : Nat)
  | float
  | complex
  | text
  | bytes

/-- What an inner node of a tree is. -/
inductive Label where
  | member
  | starred
  | tuple
  | set
  | dict
  /-- A key and its value; a dictionary that is unpacked has no key. -/
  | pair
  | lambda
  /-- A function, the row of its arguments and the row of its named arguments. -/
  | call
  /-- A named argument, or one that is unpacked. -/
  | keyword (unpacked : Bool)
  | boolean
  | binary (mark : String)
  | unary (mark : String)
  /-- A comparison, with the mark of its first part. -/
  | comparison (first : String)
  | conditional
  | named
  | generator
  | setComprehension
  | dictComprehension
  | yield
  | await
  | template
  | row
  | absent

/-- A tree. -/
inductive Tree where
  | token (t : Token)
  | constant (c : Constant)
  | name (s : String)
  | node (label : Label) (parts : List Tree)
deriving Inhabited

namespace Tree

/-- Nothing. -/
def absent : Tree := .node .absent []

/-- Trees in a row. -/
def row (l : List Tree) : Tree := .node .row l

/-- The trees of a row. -/
def items : Tree → List Tree
  | .node .row l => l
  | _ => []

/-- What kind of expression a term is, in a report. -/
def kindName : Tree → String
  | .token _ => "expression"
  | .name _ => "name"
  | .constant c =>
    match c with
    | .none => "None"
    | .bool true => "True"
    | .bool false => "False"
    | .ellipsis => "ellipsis"
    | _ => "literal"
  | .node label _ =>
    match label with
    | .member => "attribute"
    | .starred => "starred"
    | .tuple => "tuple"
    | .lambda => "lambda"
    | .call => "function call"
    | .boolean | .binary _ | .unary _ => "expression"
    | .generator => "generator expression"
    | .yield => "yield expression"
    | .await => "await expression"
    | .setComprehension => "set comprehension"
    | .dictComprehension => "dict comprehension"
    | .dict => "dict literal"
    | .set => "set display"
    | .template => "f-string expression"
    | .comparison _ => "comparison"
    | .conditional => "conditional expression"
    | .named => "named expression"
    | .pair | .keyword _ | .row | .absent => "expression"

mutual

/-- The first part of a target of a loop that nothing can be assigned to. -/
def badTarget? : Tree → Option Tree
  | .name _ => none
  | .node .tuple parts => badTargets? parts
  | .node .starred parts => badTargets? parts
  | .node .member _ => none
  | .node (.comparison first) parts =>
    match parts with
    | left :: _ => if first == "in" then badTarget? left else none
    | [] => none
  | t => some t

/-- The first of some parts that nothing can be assigned to. -/
def badTargets? : List Tree → Option Tree
  | [] => none
  | t :: rest =>
    match badTarget? t with
    | some bad => some bad
    | none => badTargets? rest

end

/-- The label is of a term, not of terms in a row or of a part of a term. -/
def isTermLabel : Label → Bool
  | .row | .pair | .absent => false
  | _ => true

mutual

/-- How many terms stand in one another. -/
def depth : Tree → Nat
  | .token _ => 0
  | .constant _ => 1
  | .name _ => 1
  | .node label parts => (if isTermLabel label then 1 else 0) + deepest parts

/-- The greatest depth of some trees. -/
def deepest : List Tree → Nat
  | [] => 0
  | t :: rest => max (depth t) (deepest rest)

end

end Tree

end SourceFacts.Term
