import SourceFacts.Term.Form
import SourceFacts.Text.PlainLetter

/-!
# The grammar of terms

The expressions of Python, without those that need square brackets. After the rules for terms come
the rules that describe faults.
-/

namespace SourceFacts.Term

/-- The rules. -/
inductive Rule where
  | whole
  | inTemplate
  | expressions
  | expression
  | yieldTerm
  | starredTerms
  | starredTerm
  | starredNamedTerms
  | starredNamedTerm
  | assignment
  | namedTerm
  | disjunction
  | conjunction
  | inversion
  | comparison
  | comparisonPart
  | comparisonWith (mark : String)
  | bitOr
  | bitXor
  | bitAnd
  | shift
  | sum
  | product
  | factor
  | power
  | awaited
  | primary
  | atom
  | group
  | lambda
  | parameters
  | parameterList
  | slashPlain
  | slashDefault
  | starParameters
  | doubleStarParameter
  | plainParameter
  | defaultParameter
  | anyParameter
  | parameter
  | default
  | texts
  | tuple
  | set
  | dict
  | entries
  | entry
  | pair
  | clauses
  | clause
  | setComprehension
  | generator
  | dictComprehension
  | arguments
  | argumentList
  | keywordList
  | starredArgument
  | keywordOrStarred
  | keywordOrDoubleStarred
  | targets
  | targetTuple
  | target
  | targetAtom
  | targetName
  | targetPrimary
  | targetLookahead
  | plainExpression
  | faultyExpression
  | faultyPrint
  | faultyNamed
  | faultyArguments
  | faultyKeyword
  | faultyComprehension
  | faultyDictComprehension
  | faultyDefault
  | faultyParameters
  | faultyParametersStart
  | faultyStarParameters
  | faultyDoubleStarParameter
  | faultyTarget
  | faultyGroup
  | faultyEntries
  | faultyEntry
deriving DecidableEq, Hashable

namespace Rule

/-- What is asked of tokens. -/
abbrev Part := Form Rule

/-- An alternative. -/
abbrev Choice := Alternative Rule

/-- The tree of the part at a place. -/
def part (trees : List Tree) (place : Nat) : Tree :=
  trees[place]?.getD .absent

/-- A mark. -/
def mk (s : String) : Part := .mark s

/-- A rule. -/
def ru (r : Rule) : Part := .rule r

/-- Some marks of which one is there. -/
def oneOf (l : List String) : Part :=
  .group (l.map fun s => .mk false [.mark s] fun trees => .tree (part trees 0))

/-- Parts that make a tree. -/
def alt (parts : List Part) (make : List Tree → Tree) : Choice :=
  .mk false parts fun trees => .tree (make trees)

/-- A single part. -/
def only (p : Part) : Choice :=
  alt [p] fun trees => part trees 0

/-- Parts of which the tree at a place counts. -/
def pick (place : Nat) (parts : List Part) : Choice :=
  alt parts fun trees => part trees place

/-- Parts that make a node of all their trees. -/
def node (label : Label) (parts : List Part) : Choice :=
  alt parts fun trees => .node label trees

/-- Parts whose trees do not count. -/
def skip (parts : List Part) : Choice :=
  alt parts fun _ => .absent

/-- A rule that describes faults. -/
def faulty (r : Rule) : Choice :=
  .mk true [.rule r] fun trees => .tree (part trees 0)

/-- Parts that are a fault. -/
def blame (parts : List Part) (f : Fault) : Choice :=
  .mk false parts fun _ => .fault f

/-- Parts of which one, at a place, decides on the fault. -/
def blameAt (place : Nat) (parts : List Part) (f : Tree → Option Fault) : Choice :=
  .mk false parts fun trees =>
    match f (part trees place) with
    | some fault => .fault fault
    | none => .refused

/-- Two operands with a mark between them. -/
def binary (left : Rule) (mark : String) (right : Rule) : Choice :=
  alt [ru left, mk mark, ru right] fun trees =>
    .node (.binary mark) [part trees 0, part trees 2]

/-- An operand after a mark. -/
def unary (mark : String) (operand : Rule) : Choice :=
  alt [mk mark, ru operand] fun trees => .node (.unary mark) (trees.drop 1)

/-- An operand with further ones after a word, or alone. -/
def chained (operand : Rule) (word : String) : List Choice :=
  [node .boolean [ru operand, .many 1 (.group [pick 1 [mk word, ru operand]])], only (ru operand)]

/-- The name that a token is, in plain letters. -/
def nameOf : Tree → Tree
  | .token t => .name (String.ofList (Text.plainForm t.chars))
  | t => t

/-- A name. -/
def name : Part := .token .name

/-- A tuple of the first tree and of those in a row. -/
def tupleOf (first rest : Tree) : Tree :=
  .node .tuple (first :: rest.items)

/-- Trees with commas between them as a tuple, or one of them alone. -/
def tuples (item : Rule) : List Choice :=
  [alt [ru item, .many 1 (.group [pick 1 [mk ",", ru item]]), .optional (mk ",")] fun trees =>
     tupleOf (part trees 0) (part trees 1),
   alt [ru item, mk ","] fun trees => .node .tuple (trees.take 1),
   only (ru item)]

/-- The marks of comparisons. -/
def comparisonMarks : List String :=
  ["==", "!=", "<=", "<", ">=", ">", "not in", "in", "is not", "is"]

/-- The label of a comparison with parts. -/
def comparisonOf (parts : Tree) : Label :=
  match parts.items with
  | .token t :: _ => .comparison (String.ofList t.chars)
  | .node _ (.token t :: _) :: _ => .comparison (String.ofList t.chars)
  | _ => .comparison ""

/-- The arguments of a call: those by place and those by name. -/
structure CallParts where
  positional : List Tree := []
  named : List Tree := []

/-- The arguments in a tree. -/
def callParts : Tree → CallParts
  | .node .call [_, positional, named] => { positional := positional.items, named := named.items }
  | _ => {}

/-- A call of a function with some arguments. -/
def callOf (function : Tree) (parts : CallParts) : Tree :=
  .node .call [function, .row parts.positional, .row parts.named]

/-- The argument is given by its name. -/
def isNamed : Tree → Bool
  | .node (.keyword _) _ => true
  | _ => false

/-- The arguments by place, and those after them. -/
def argumentsOf (positional further : List Tree) : Tree :=
  callOf .absent
    { positional := positional ++ further.filter fun t => !isNamed t
      named := further.filter isNamed }

/-- A positional argument, starred or not. -/
def positionalArgument : Part :=
  .group
    [only (ru .starredArgument),
     pick 0 [.group [only (ru .assignment), pick 0 [ru .expression, .ahead false (mk ":=")]],
       .ahead false (mk "=")]]

/-- A term that an argument may be, without a mark for assignment after it. -/
def assignmentOrTerm : Part :=
  .group [only (ru .assignment), pick 0 [ru .expression, .ahead false (mk ":=")]]

/-- The parameter before a comma, or before the colon. -/
def parameterBefore (parts : List Part) : List Choice :=
  [skip (parts ++ [mk ","]), skip (parts ++ [.ahead true (mk ":")])]

/-- The names of statements that were calls later. -/
def oldStatements : List String := ["print", "exec"]

/-- The tree is the name of an old statement. -/
def isOldStatement : Tree → Bool
  | .name s => oldStatements.contains s
  | _ => false

/-- The words that are names unless a statement starts with them. -/
def softWords : List String := ["_", "case", "match"]

/-- Parts of which the first one, unless it is an old statement, lacks a comma after it. -/
def withoutComma (parts : List Part) : Choice :=
  .mk false parts fun trees =>
    if isOldStatement (part trees 0) then .refused else .faultInBrackets .missingComma

/-- A condition and its choices. -/
def conditional : Choice :=
  node .conditional [ru .disjunction, mk "if", ru .disjunction, mk "else", ru .expression]

/-- A clause of a comprehension after its first word. -/
def clauseFrom (start : List Part) : Choice :=
  skip (start ++ [ru .targets, mk "in", .cut, ru .disjunction,
    .many 0 (.group [pick 1 [mk "if", ru .disjunction]])])

/-- A word that is a constant. -/
def constantWord (s : String) (c : Constant) : Choice :=
  alt [mk s] fun _ => .constant c

/-- Parameters before a slash. -/
def beforeSlash (parts : List Part) : List Choice :=
  [skip (parts ++ [mk "/", mk ","]), skip (parts ++ [mk "/", .ahead true (mk ":")])]

/-- The parameters with a slash. -/
def withSlash : Part :=
  .group [only (ru .slashPlain), only (ru .slashDefault)]

/-- A parameter without default, or nothing, before a comma. -/
def plainOrComma : Part :=
  .group [only (ru .plainParameter), only (mk ",")]

/-- No mark for assignment follows. -/
def noAssignment : Part :=
  .ahead false (oneOf ["=", ":="])

/-- An argument with its name. -/
def namedArgument : Choice :=
  alt [name, mk "=", ru .expression] fun trees => .node (.keyword false) (trees.drop 2)

/-- The starred term after its mark. -/
def starredOf (r : Rule) : Choice :=
  alt [mk "*", ru r] fun trees => .node .starred (trees.drop 1)

/-- The alternatives of a rule, those for terms first. -/
def alternatives : Rule → List Choice
  | .whole => [pick 0 [ru .expressions, .many 0 (.token .newline), .token .finish]]
  | .inTemplate => [only (ru .starredTerms)]
  | .expressions => tuples .expression
  | .expression =>
    [faulty .faultyExpression, faulty .faultyPrint, conditional, only (ru .disjunction),
     only (ru .lambda)]
  | .yieldTerm =>
    [node .yield [mk "yield", mk "from", ru .expression],
     node .yield [mk "yield", .optional (ru .starredTerms)]]
  | .starredTerms => tuples .starredTerm
  | .starredTerm => [starredOf .bitOr, only (ru .expression)]
  | .starredNamedTerms => [pick 0 [.separated "," (ru .starredNamedTerm), .optional (mk ",")]]
  | .starredNamedTerm => [starredOf .bitOr, only (ru .namedTerm)]
  | .assignment => [node .named [name, mk ":=", .cut, ru .expression]]
  | .namedTerm =>
    [only (ru .assignment), faulty .faultyNamed, pick 0 [ru .expression, .ahead false (mk ":=")]]
  | .disjunction => chained .conjunction "or"
  | .conjunction => chained .inversion "and"
  | .inversion => [unary "not" .inversion, only (ru .comparison)]
  | .comparison =>
    [alt [ru .bitOr, .many 1 (ru .comparisonPart)] fun trees =>
       .node (comparisonOf (part trees 1)) (trees.take 1),
     only (ru .bitOr)]
  | .comparisonPart => comparisonMarks.map fun m => only (ru (.comparisonWith m))
  | .comparisonWith m =>
    if m = "not in" then [pick 0 [mk "not", mk "in", ru .bitOr]]
    else if m = "is not" then [pick 0 [mk "is", mk "not", ru .bitOr]]
    else if m = "!=" then [pick 0 [oneOf [m], ru .bitOr]]
    else [pick 0 [mk m, ru .bitOr]]
  | .bitOr => [binary .bitOr "|" .bitXor, only (ru .bitXor)]
  | .bitXor => [binary .bitXor "^" .bitAnd, only (ru .bitAnd)]
  | .bitAnd => [binary .bitAnd "&" .shift, only (ru .shift)]
  | .shift => [binary .shift "<<" .sum, binary .shift ">>" .sum, only (ru .sum)]
  | .sum => [binary .sum "+" .product, binary .sum "-" .product, only (ru .product)]
  | .product =>
    (["*", "/", "//", "%", "@"].map fun m => binary .product m .factor) ++ [only (ru .factor)]
  | .factor => (["+", "-", "~"].map fun m => unary m .factor) ++ [only (ru .power)]
  | .power => [binary .awaited "**" .factor, only (ru .awaited)]
  | .awaited => [node .await [mk "await", ru .primary], only (ru .primary)]
  | .primary =>
    [node .member [ru .primary, mk ".", name],
     alt [ru .primary, ru .generator] fun trees =>
       callOf (part trees 0) { positional := trees.drop 1 },
     alt [ru .primary, mk "(", .optional (ru .arguments), mk ")"] fun trees =>
       callOf (part trees 0) (callParts (part trees 2)),
     only (ru .atom)]
  | .atom =>
    [alt [name] fun trees => nameOf (part trees 0),
     constantWord "True" (.bool true), constantWord "False" (.bool false),
     constantWord "None" .none,
     pick 0 [.ahead true (.token .text), ru .texts],
     .mk false [.token .number] fun trees =>
       match trees with
       | [.token t] => .number t
       | _ => .refused,
     pick 0 [.ahead true (mk "("),
       .group [only (ru .tuple), only (ru .group), only (ru .generator)]],
     pick 0 [.ahead true (mk "\x7b"),
       .group [only (ru .dict), only (ru .set), only (ru .dictComprehension),
         only (ru .setComprehension)]],
     constantWord "..." .ellipsis]
  | .group =>
    [pick 1 [mk "(", .group [only (ru .yieldTerm), only (ru .namedTerm)], mk ")"],
     faulty .faultyGroup]
  | .lambda =>
    [node .lambda [mk "lambda", .optional (ru .parameters), mk ":", ru .expression]]
  | .parameters => [faulty .faultyParameters, only (ru .parameterList)]
  | .parameterList =>
    [skip [ru .slashPlain, .many 0 (ru .plainParameter), .many 0 (ru .defaultParameter),
       .optional (ru .starParameters)],
     skip [ru .slashDefault, .many 0 (ru .defaultParameter), .optional (ru .starParameters)],
     skip [.many 1 (ru .plainParameter), .many 0 (ru .defaultParameter),
       .optional (ru .starParameters)],
     skip [.many 1 (ru .defaultParameter), .optional (ru .starParameters)],
     skip [ru .starParameters]]
  | .slashPlain => beforeSlash [.many 1 (ru .plainParameter)]
  | .slashDefault => beforeSlash [.many 0 (ru .plainParameter), .many 1 (ru .defaultParameter)]
  | .starParameters =>
    [faulty .faultyStarParameters,
     skip [mk "*", ru .plainParameter, .many 0 (ru .anyParameter),
       .optional (ru .doubleStarParameter)],
     skip [mk "*", mk ",", .many 1 (ru .anyParameter), .optional (ru .doubleStarParameter)],
     skip [ru .doubleStarParameter]]
  | .doubleStarParameter =>
    [faulty .faultyDoubleStarParameter, skip [mk "**", ru .plainParameter]]
  | .plainParameter => parameterBefore [ru .parameter]
  | .defaultParameter => parameterBefore [ru .parameter, ru .default]
  | .anyParameter => parameterBefore [ru .parameter, .optional (ru .default)]
  | .parameter => [only name]
  | .default => [pick 1 [mk "=", ru .expression], faulty .faultyDefault]
  | .texts =>
    [.mk false [.many 1 (.token .text)] fun trees =>
      .texts ((part trees 0).items.filterMap fun
        | .token t => some t
        | _ => none)]
  | .tuple =>
    [alt [mk "(",
       .optional (.group [alt [ru .starredNamedTerm, mk ",", .optional (ru .starredNamedTerms)]
         fun trees => .row (part trees 0 :: (part trees 2).items)]),
       mk ")"] fun trees => .node .tuple (part trees 1).items]
  | .set =>
    [alt [mk "\x7b", ru .starredNamedTerms, mk "\x7d"] fun trees =>
      .node .set (part trees 1).items]
  | .dict =>
    [alt [mk "\x7b", .optional (ru .entries), mk "\x7d"] fun trees =>
       .node .dict (part trees 1).items,
     skip [mk "\x7b", ru .faultyEntries, mk "\x7d"]]
  | .entries => [pick 0 [.separated "," (ru .entry), .optional (mk ",")]]
  | .entry =>
    [alt [mk "**", ru .bitOr] fun trees => .node .pair [.absent, part trees 1],
     only (ru .pair)]
  | .pair =>
    [alt [ru .expression, mk ":", ru .expression] fun trees =>
      .node .pair [part trees 0, part trees 2]]
  | .clauses => [pick 0 [.many 1 (ru .clause)]]
  | .clause =>
    [clauseFrom [mk "async", mk "for"], clauseFrom [mk "for"], faulty .faultyTarget]
  | .setComprehension =>
    [node .setComprehension [mk "\x7b", ru .namedTerm, ru .clauses, mk "\x7d"],
     faulty .faultyComprehension]
  | .generator =>
    [node .generator [mk "(", assignmentOrTerm, ru .clauses, mk ")"], faulty .faultyComprehension]
  | .dictComprehension =>
    [node .dictComprehension [mk "\x7b", ru .pair, ru .clauses, mk "\x7d"],
     faulty .faultyDictComprehension]
  | .arguments =>
    [pick 0 [ru .argumentList, .optional (mk ","), .ahead true (mk ")")], faulty .faultyArguments]
  | .argumentList =>
    [alt [.separated "," positionalArgument, .optional (.group [pick 1 [mk ",", ru .keywordList]])]
       fun trees => argumentsOf (part trees 0).items (part trees 1).items,
     alt [ru .keywordList] fun trees => argumentsOf [] (part trees 0).items]
  | .keywordList =>
    [alt [.separated "," (ru .keywordOrStarred), mk ",", .separated "," (ru .keywordOrDoubleStarred)]
       fun trees => .row ((part trees 0).items ++ (part trees 2).items),
     pick 0 [.separated "," (ru .keywordOrStarred)],
     pick 0 [.separated "," (ru .keywordOrDoubleStarred)]]
  | .starredArgument => [starredOf .expression]
  | .keywordOrStarred => [faulty .faultyKeyword, namedArgument, only (ru .starredArgument)]
  | .keywordOrDoubleStarred =>
    [faulty .faultyKeyword, namedArgument,
     alt [mk "**", ru .expression] fun trees => .node (.keyword true) (trees.drop 1)]
  | .targets =>
    [pick 0 [ru .target, .ahead false (mk ",")],
     skip [ru .target, .many 0 (.group [pick 1 [mk ",", ru .target]]), .optional (mk ",")]]
  | .targetTuple =>
    [skip [ru .target, .many 1 (.group [pick 1 [mk ",", ru .target]]), .optional (mk ",")],
     skip [ru .target, mk ","]]
  | .target =>
    [skip [mk "*", .group [pick 0 [.ahead false (mk "*"), ru .target]]], only (ru .targetAtom)]
  | .targetAtom =>
    [skip [ru .targetPrimary, mk ".", name, .ahead false (ru .targetLookahead)],
     only (ru .targetName)]
  | .targetName =>
    [only name, skip [mk "(", ru .targetAtom, mk ")"],
     skip [mk "(", .optional (ru .targetTuple), mk ")"]]
  | .targetPrimary =>
    [skip [ru .targetPrimary, mk ".", name, .ahead true (ru .targetLookahead)],
     skip [ru .targetPrimary, ru .generator, .ahead true (ru .targetLookahead)],
     skip [ru .targetPrimary, mk "(", .optional (ru .arguments), mk ")",
       .ahead true (ru .targetLookahead)],
     skip [ru .atom, .ahead true (ru .targetLookahead)]]
  | .targetLookahead => [only (mk "("), only (mk "["), only (mk ".")]
  | .plainExpression => [conditional, only (ru .disjunction), only (ru .lambda)]
  | .faultyExpression =>
    [withoutComma
       [.ahead false (.group [skip [name, .token .text], only (.word softWords)]),
        ru .disjunction, ru .plainExpression],
     blame [ru .disjunction, mk "if", ru .disjunction, .ahead false (oneOf ["else", ":"])]
       .missingElse]
  | .faultyPrint =>
    [blameAt 0 [name, .ahead false (mk "("), ru .starredTerms] fun t =>
      match nameOf t with
      | .name s => if oldStatements.contains s then some (.missingParentheses s) else none
      | _ => none]
  | .faultyNamed =>
    [blameAt 0 [ru .expression, mk ":=", ru .expression] fun t => some (.namedAssignment t.kindName),
     blame [name, mk "=", ru .bitOr, noAssignment] .assignmentInExpression,
     blameAt 0
       [.ahead false (.group [only (ru .tuple), only (ru .generator), only (mk "True"),
          only (mk "None"), only (mk "False")]),
        ru .bitOr, mk "=", ru .bitOr, noAssignment]
       fun t => some (.assignment t.kindName)]
  | .faultyArguments =>
    [blame [ru .argumentList, mk ",", mk "*"] .starredAfterKeywords,
     blame [ru .expression, ru .clauses, mk ",",
         .optional (.group [only (ru .argumentList), skip [ru .expression, ru .clauses]])]
       .unparenthesizedGenerator,
     blame [name, mk "=", ru .expression, ru .clauses] .assignmentInExpression,
     blameAt 0 [ru .argumentList, ru .clauses] fun t =>
       if (callParts t).positional.length ≤ 1 then none else some .unparenthesizedGenerator,
     blame [ru .argumentList, mk ",", ru .expression, ru .clauses] .unparenthesizedGenerator,
     blameAt 0 [ru .argumentList, mk ",", ru .argumentList] fun t =>
       some (.positionalAfterKeyword ((callParts t).named.any fun
         | .node (.keyword unpacked) _ => unpacked
         | _ => false))]
  | .faultyKeyword =>
    [blameAt 0 [oneOf ["True", "False", "None"], mk "="] fun
       | .token t => some (.keywordConstant (String.ofList t.chars))
       | _ => none,
     blame [name, mk "=", ru .expression, ru .clauses] .assignmentInExpression,
     blame [.ahead false (.group [skip [name, mk "="]]), ru .expression, mk "="] .keywordExpression]
  | .faultyComprehension =>
    [blame [oneOf ["[", "(", "\x7b"], ru .starredArgument, ru .clauses] .starredInComprehension,
     blame [oneOf ["[", "\x7b"], ru .starredNamedTerm, mk ",", ru .starredNamedTerms, ru .clauses]
       .unparenthesizedTarget,
     blame [oneOf ["[", "\x7b"], ru .starredNamedTerm, mk ",", ru .clauses] .unparenthesizedTarget]
  | .faultyDictComprehension =>
    [blame [mk "\x7b", mk "**", ru .bitOr, ru .clauses, mk "\x7d"] .doubleStarredInComprehension]
  | .faultyDefault => [blame [mk "=", .ahead true (oneOf [")", ","])] .noDefault]
  | .faultyParameters =>
    [blame [.many 0 (ru .plainParameter), ru .faultyParametersStart, ru .plainParameter]
       .plainAfterDefault,
     blame [.many 0 (ru .plainParameter), mk "(", .separated "," (ru .parameter),
         .optional (mk ","), mk ")"] .parenthesizedParameters,
     blame [mk "/", mk ","] .nothingBeforeSlash,
     blame [withSlash, .many 0 (ru .anyParameter), mk "/"] .secondSlash,
     blame [.optional withSlash, .many 0 (ru .anyParameter), mk "*",
         .group [only (mk ","), only (ru .plainParameter)], .many 0 (ru .anyParameter), mk "/"]
       .slashAfterStar,
     blame [.many 1 (ru .anyParameter), mk "/", mk "*"] .noCommaAfterSlash]
  | .faultyParametersStart => [only (ru .slashDefault), only (.many 1 (ru .defaultParameter))]
  | .faultyStarParameters =>
    [blame [mk "*", .group [only (mk ":"), pick 1 [mk ",", oneOf [":", "**"]]]] .nothingAfterStar,
     blame [mk "*", ru .parameter, mk "="] .starDefault,
     blame [mk "*", plainOrComma, .many 0 (ru .anyParameter), mk "*", plainOrComma] .secondStar]
  | .faultyDoubleStarParameter =>
    [blame [mk "**", ru .parameter, mk "="] .doubleStarDefault,
     blame [mk "**", ru .parameter, mk ",", ru .parameter] .afterDoubleStar,
     blame [mk "**", ru .parameter, mk ",", oneOf ["*", "**", "/"]] .afterDoubleStar]
  | .faultyTarget =>
    [blameAt 2 [.optional (mk "async"), mk "for", ru .starredTerms] fun t =>
      t.badTarget?.map fun bad => .badTarget bad.kindName]
  | .faultyGroup =>
    [blame [mk "(", ru .starredArgument, mk ")"] .starred,
     blame [mk "(", mk "**", ru .expression, mk ")"] .doubleStarred]
  | .faultyEntries =>
    [skip [.separated "," (ru .entry), mk ",", ru .faultyEntry],
     blame [ru .expression, mk ":", mk "*", ru .bitOr] .starredDictValue,
     blame [ru .expression, mk ":", .ahead true (oneOf ["\x7d", ","])] .noDictValue]
  | .faultyEntry =>
    [blame [ru .expression, .ahead false (mk ":")] .noColon,
     blame [ru .expression, mk ":", mk "*", ru .bitOr] .starredDictValue,
     blame [ru .expression, mk ":", .ahead true (oneOf ["\x7d", ","])] .noDictValue]

/-- What is remembered of a rule. -/
def keeping : Rule → Keeping
  | .expression | .starredTerm | .disjunction | .conjunction | .inversion | .factor | .awaited
  | .texts | .arguments | .target | .targetAtom | .faultyNamed => .result
  | .bitOr | .bitXor | .bitAnd | .shift | .sum | .product | .primary | .targetPrimary => .growth
  | .plainExpression => .plain
  | _ => .nothing

/-- The grammar of terms. -/
def grammar : Grammar Rule where
  alternatives := alternatives
  keeping := keeping

end Rule

end SourceFacts.Term
