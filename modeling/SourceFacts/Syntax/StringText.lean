import SourceFacts.Syntax.Source
import SourceFacts.Text.Case
import SourceFacts.Text.Dotted

/-!
# String literals

The content of a string is kept as written: escapes are not resolved, and the placeholders of a
template stand in it with their braces. Adjacent literals form one string.
-/

namespace SourceFacts

/-- A string literal in its parts: the letters before the quote, what stands between the quotes, and
whether that has placeholders. -/
structure StringParts where
  letters : String
  content : String
  isTemplate : Bool

/-- The content of a string expression, and whether it has placeholders. -/
structure StringText where
  content : String
  isTemplate : Bool

/-- The letters that may stand before the quote of a string. -/
def stringLetters : List Char := ['r', 'R', 'b', 'B', 'u', 'U', 'f', 'F']

/-- The quotes of strings; a triple quote is tried before a single one. -/
def stringQuotes : List (List Char) :=
  [['"', '"', '"'], ['\'', '\'', '\''], ['"'], ['\'']]

/-- The characters begin and end with the quote, and the two do not overlap. -/
def isQuotedBy (cs quote : List Char) : Bool :=
  quote.isPrefixOf cs && quote.isSuffixOf cs && decide (2 * quote.length ≤ cs.length)

/-- The characters without the first of the quotes that surrounds them. -/
def unquote (cs : List Char) : List Char :=
  match stringQuotes.find? (isQuotedBy cs) with
  | some quote => (cs.drop quote.length).take (cs.length - 2 * quote.length)
  | none => cs

/-- The parts of a string read off its whole text. -/
def StringParts.ofText (raw : String) : StringParts :=
  let letters := raw.toList.takeWhile stringLetters.contains
  let content := unquote (raw.toList.dropWhile stringLetters.contains)
  { letters := String.ofList letters
    content := String.ofList content
    isTemplate := (letters.contains 'f' || letters.contains 'F') && content.contains '\x7b' }

/-- The parts of a string read off its children: the last opening mark gives the letters, all but
the quotes is content. `none` without an opening mark. -/
def StringParts.ofChildren? (src : Source) (cs : List Node) : Option StringParts :=
  match (cs.filter fun c => c.kind == "string_start").getLast? with
  | none => none
  | some opening =>
    let pieces := cs.filter fun c => c.kind != "string_start" && c.kind != "string_end"
    some
      { letters := String.ofList
          ((src.text opening).toList.reverse.dropWhile fun c => c == '"' || c == '\'').reverse
        content := String.join (pieces.map src.text)
        isTemplate := cs.any fun c => c.kind == "interpolation" }

/-- The parts of a string node. -/
def Node.stringParts (src : Source) (n : Node) : StringParts :=
  match StringParts.ofChildren? src n.children with
  | some parts => parts
  | none => StringParts.ofText (src.text n)

/-- Two strings written one after the other. -/
def StringText.append (a b : StringText) : StringText :=
  ⟨a.content ++ b.content, a.isTemplate || b.isTemplate⟩

mutual

/-- The string that an expression spells: a literal, adjacent literals, or one in parentheses. -/
def stringText? (src : Source) : Node → Option StringText
  | .node l cs =>
    if l.kind == "string" then
      let parts := (Node.node l cs).stringParts src
      some ⟨parts.content, parts.isTemplate⟩
    else if l.kind == "concatenated_string" then joinedText? src cs
    else if l.kind == "parenthesized_expression" then
      if (cs.filter Node.isContent).length = 1 then innerText? src cs else none
    else none

/-- The strings of all content among the nodes, joined. -/
def joinedText? (src : Source) : List Node → Option StringText
  | [] => some ⟨"", false⟩
  | n :: ns =>
    if n.isContent then
      match stringText? src n, joinedText? src ns with
      | some a, some b => some (a.append b)
      | _, _ => none
    else joinedText? src ns

/-- The string of the first content among the nodes. -/
def innerText? (src : Source) : List Node → Option StringText
  | [] => none
  | n :: ns => if n.isContent then stringText? src n else innerText? src ns

end

/-- The node is a string, or several adjacent ones. -/
def Node.isStringLiteral (n : Node) : Bool :=
  n.kind == "string" || n.kind == "concatenated_string"

end SourceFacts
