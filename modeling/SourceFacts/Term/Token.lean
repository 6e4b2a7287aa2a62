/-!
# Tokens

A written term is a row of tokens.
-/

namespace SourceFacts.Term

/-- What a token is. -/
inductive TokenKind where
  | name
  | number
  /-- A text in quotes, with the letters before them. -/
  | text
  /-- An operator, a bracket or a word with a meaning of its own. -/
  | mark
  | newline
  | indent
  | unindent
  | finish
deriving DecidableEq

/-- A token. -/
structure Token where
  kind : TokenKind
  chars : List Char := []
  /-- The number of brackets that are open after the token. -/
  level : Nat := 0
  line : Nat := 1
  /-- The end of the text was seen when the token was cut off. -/
  seesEnd : Bool := false

/-- The token is the given mark. -/
def Token.isMark (t : Token) (s : String) : Bool :=
  t.kind == .mark && t.chars == s.toList

/-- The words with a meaning of their own. -/
def keywords : List String :=
  ["if", "as", "in", "is", "or", "and", "del", "def", "for", "try", "not", "from", "elif", "else",
   "with", "pass", "None", "True", "False", "while", "break", "class", "raise", "yield", "return",
   "import", "lambda", "global", "except", "assert", "finally", "nonlocal", "continue", "async",
   "await"]

/-- The marks of two and three characters. -/
def longMarks : List String :=
  ["**=", "...", "//=", "<<=", ">>=", "!=", "%=", "&=", "**", "*=", "+=", "-=", "->", "//", "/=",
   ":=", "<<", "<=", "<>", "==", ">=", ">>", "@=", "^=", "|="]

end SourceFacts.Term
