import SourceFacts.Term.Grammar
import SourceFacts.Term.Template

/-!
# Reading a term

A text is read once to find its term. If it has none, it is read a second time to describe what is
wrong with it. A fault in the tokens further on may be reported instead.
-/

namespace SourceFacts.Term

/-- The number that the digits of a token stand for. -/
def numberTree (t : Token) : Except Fault Tree :=
  let cs := t.chars.filter (· != '_')
  let based (base : Nat) : Tree :=
    .constant (.int (((cs.drop 2).map fun c => (Text.hexValue? c).getD 0).foldl
      (fun n d => n * base + d) 0))
  let mark := (cs[1]?.map Char.toLower).getD ' '
  if cs.head? == some '0' && mark == 'x' then .ok (based 16)
  else if cs.head? == some '0' && mark == 'o' then .ok (based 8)
  else if cs.head? == some '0' && mark == 'b' then .ok (based 2)
  else if cs.any fun c => c == 'j' || c == 'J' then .ok (.constant .complex)
  else if cs.all Char.isDigit then
    if cs.all (· == '0') then .ok (.constant (.int 0))
    else if Number.decimalLimit < cs.length then .error (.longNumber cs.length)
    else .ok (.constant (.int (cs.foldl (fun n c => n * 10 + (c.toNat - 48)) 0)))
  else .ok (.constant .float)

/-- The faults that a template adds its own words to. -/
def framed (inTemplate : Bool) (f : Fault) : Fault :=
  if inTemplate then .inTemplate f else f

/-- The fault that is reported instead of one that was found after a number of tokens. -/
def laterFault (inTemplate : Bool) (ts : Tokens) (reached : Nat) (f : Fault) : Fault :=
  match ts.halt with
  | none => f
  | some halt =>
    if halt.isLoud then halt.fault
    else
      match halt.bracket with
      | none => f
      | some (c, line) =>
        let here := (ts.list[reached - 1]?.map Token.line).getD 0
        if line < here then framed inTemplate (.neverClosed c) else f

/-- Why a text is not read. -/
inductive ReadError where
  | fault (f : Fault)
  | tooDeep

/-- The fault that is reported instead of a described one: the one itself if the end of the text was
seen already. -/
def laterFaultUnlessEnded (inTemplate : Bool) (ts : Tokens) (reached : Nat) (f : Fault) : Fault :=
  if ts.list[reached - 1]?.any Token.seesEnd then f else laterFault inTemplate ts reached f

/-- What is reported where reading ends early. -/
def failureError (inTemplate : Bool) (ts : Tokens) (reached : Nat) : Failure → ReadError
  | .tooDeep => .tooDeep
  | .halt f => .fault (if ts.halt.any (·.isLoud) then f else framed inTemplate f)
  | .inner f => .fault (laterFaultUnlessEnded inTemplate ts reached f)
  | .fault f => .fault (laterFaultUnlessEnded inTemplate ts reached (framed inTemplate f))

/-- What is reported for a text in which no fault was described; `first` tokens were looked at when
it was read for the first time. -/
def plainFault (inTemplate : Bool) (ts : Tokens) (first reached : Nat) : Fault :=
  match ts.list[first - 1]?.map Token.kind with
  | some .indent => framed inTemplate .unexpectedIndent
  | some .unindent => framed inTemplate .unexpectedUnindent
  | _ => laterFault inTemplate ts reached (framed inTemplate .malformed)

/-- Reads tokens by a rule. -/
def readTokens (inTemplate : Bool) (ts : Tokens) (texts : List Token → Except Failure Tree) :
    Except ReadError Tree :=
  let reader : Reader Rule :=
    { grammar := Rule.grammar
      tokens := ts.list
      halt := (ts.halt.map (·.fault)).getD .endOfText
      number := numberTree
      texts }
  let start : Rule := if inTemplate then .inTemplate else .whole
  let fuel := 64 * (maxDepth + ts.list.size)
  match reader.runRule fuel 0 start 0 {} with
  | (.found t _, _) => .ok t
  | (.failed f, m) => .error (failureError inTemplate ts m.reached f)
  | (.missing, m) =>
    match reader.runRule fuel 0 start 0 { reached := m.reached, describing := true } with
    | (.failed f, m) => .error (failureError inTemplate ts m.reached f)
    | (_, m') => .error (.fault (plainFault inTemplate ts m.reached m'.reached))

/-- Reads a text, in which templates may be nested up to a depth. -/
def readNested : (depth : Nat) → (inTemplate : Bool) → List Char → Except ReadError Tree
  | 0, _, _ => .error .tooDeep
  | depth + 1, inTemplate, cs =>
    readTokens inTemplate (lex cs) (textsTree fun inner =>
      (readNested depth true inner).mapError fun
        | .fault f => .inner f
        | .tooDeep => .tooDeep)

/-- Reads a text. -/
def read (cs : List Char) : Except ReadError Tree :=
  readNested (cs.length + 1) false cs

end SourceFacts.Term
