import SourceFacts.Number.Integer
import SourceFacts.Text.Hex

/-!
# Faults of a written term

A text that is no term has a fault, which is reported in words. Some faults are seen already when the
text is cut into tokens, the others when the tokens are put together.
-/

namespace SourceFacts.Term

/-- What is wrong with a text that is no term. -/
inductive Fault where
  /-- A number of the named kind. -/
  | badNumber (kind : String)
  | badDigit (c : Char) (kind : String)
  | leadingZeros
  | openText (line : Nat)
  | openLongText (line : Nat)
  | unmatched (closing : Char)
  /-- Brackets that do not belong together, with the line of the opening one if it is another. -/
  | mismatched (closing opening : Char) (line : Option Nat)
  | tooManyBrackets
  | badCharacter (c : Char)
  | hiddenCharacter (c : Char)
  | strayBackslash
  | endOfText
  | neverClosed (opening : Char)
  | badUnindent
  | badTabs
  | tooManyIndents
  | longNumber (digits : Nat)
  | mixedTexts
  | foreignByte
  /-- A place in a text where an escape is wrong, from its first to its last character. -/
  | badEscape (first last : Nat) (reason : String)
  /-- A place in a text of bytes where an escape is wrong. -/
  | badByte (place : Nat)
  | templateBackslash
  | templateComment
  | templateSingleBrace
  | templateEmpty
  | templateNothingBefore (c : Char)
  | templateUnmatched (c : Char)
  | templateMismatched (closing opening : Char)
  | templateTooManyBrackets
  | templateOpenText
  | templateOpen
  | templateConversion
  | templateTooDeep
  | templateEnd
  | malformed
  | unexpectedIndent
  | unexpectedUnindent
  | missingComma
  | missingElse
  | missingParentheses (name : String)
  | assignmentInExpression
  | assignment (kind : String)
  | namedAssignment (kind : String)
  | starred
  | doubleStarred
  | starredInComprehension
  | doubleStarredInComprehension
  | unparenthesizedTarget
  | badTarget (kind : String)
  | noColon
  | starredDictValue
  | noDictValue
  | starredAfterKeywords
  | unparenthesizedGenerator
  | positionalAfterKeyword (unpacking : Bool)
  | keywordConstant (word : String)
  | keywordExpression
  | noDefault
  | plainAfterDefault
  | parenthesizedParameters
  | nothingBeforeSlash
  | secondSlash
  | slashAfterStar
  | noCommaAfterSlash
  | nothingAfterStar
  | starDefault
  | secondStar
  | doubleStarDefault
  | afterDoubleStar
  /-- The fault of a term inside a template. -/
  | inTemplate (f : Fault)

/-- A character between quotes. -/
def inQuotes (c : Char) : String :=
  String.ofList ['\'', c, '\'']

/-- A code point as it is reported. -/
def codePoint (c : Char) : String :=
  let places := (Nat.toDigits 16 c.toNat).length
  "U+" ++ String.ofList ((Text.hexPlaces (max 4 places) c.toNat).map Char.toUpper)

/-- The report of a fault. -/
def Fault.message : Fault → String
  | .badNumber kind => s!"invalid {kind} literal"
  | .badDigit c kind => "invalid digit " ++ inQuotes c ++ s!" in {kind} literal"
  | .leadingZeros =>
    "leading zeros in decimal integer literals are not permitted; " ++
      "use an 0o prefix for octal integers"
  | .openText line => s!"unterminated string literal (detected at line {line})"
  | .openLongText line => s!"unterminated triple-quoted string literal (detected at line {line})"
  | .unmatched c => "unmatched " ++ inQuotes c
  | .mismatched closing opening line =>
    "closing parenthesis " ++ inQuotes closing ++ " does not match opening parenthesis " ++
      inQuotes opening ++ (match line with
        | some n => s!" on line {n}"
        | none => "")
  | .tooManyBrackets => "too many nested parentheses"
  | .badCharacter c => "invalid character " ++ inQuotes c ++ " (" ++ codePoint c ++ ")"
  | .hiddenCharacter c => "invalid non-printable character " ++ codePoint c
  | .strayBackslash => "unexpected character after line continuation character"
  | .endOfText => "unexpected EOF while parsing"
  | .neverClosed c => inQuotes c ++ " was never closed"
  | .badUnindent => "unindent does not match any outer indentation level"
  | .badTabs => "inconsistent use of tabs and spaces in indentation"
  | .tooManyIndents => "too many levels of indentation"
  | .longNumber digits =>
    (Number.DecimalError.tooLong digits).message ++
      " - Consider hexadecimal for huge integer literals to avoid decimal conversion limits."
  | .mixedTexts => "cannot mix bytes and nonbytes literals"
  | .foreignByte => "bytes can only contain ASCII literal characters"
  | .badEscape first last reason =>
    s!"(unicode error) 'unicodeescape' codec can't decode bytes in position {first}-{last}: " ++
      reason
  | .badByte place => s!"(value error) invalid \\x escape at position {place}"
  | .templateBackslash => "f-string expression part cannot include a backslash"
  | .templateComment => "f-string expression part cannot include '#'"
  | .templateSingleBrace => "f-string: single '\x7d' is not allowed"
  | .templateEmpty => "f-string: empty expression not allowed"
  | .templateNothingBefore c => "f-string: expression required before " ++ inQuotes c
  | .templateUnmatched c => "f-string: unmatched " ++ inQuotes c
  | .templateMismatched closing opening =>
    "f-string: closing parenthesis " ++ inQuotes closing ++
      " does not match opening parenthesis " ++ inQuotes opening
  | .templateTooManyBrackets => "f-string: too many nested parenthesis"
  | .templateOpenText => "f-string: unterminated string"
  | .templateOpen => "f-string: expecting '\x7d'"
  | .templateConversion => "f-string: invalid conversion character: expected 's', 'r', or 'a'"
  | .templateTooDeep => "f-string: expressions nested too deeply"
  | .templateEnd => "f-string: unexpected end of string"
  | .malformed => "invalid syntax"
  | .unexpectedIndent => "unexpected indent"
  | .unexpectedUnindent => "unexpected unindent"
  | .missingComma => "invalid syntax. Perhaps you forgot a comma?"
  | .missingElse => "expected 'else' after 'if' expression"
  | .missingParentheses name =>
    s!"Missing parentheses in call to '{name}'. Did you mean {name}(...)?"
  | .assignmentInExpression =>
    "invalid syntax. Maybe you meant '==' or ':=' instead of '='?"
  | .assignment kind => s!"cannot assign to {kind} here. Maybe you meant '==' instead of '='?"
  | .namedAssignment kind => s!"cannot use assignment expressions with {kind}"
  | .starred => "cannot use starred expression here"
  | .doubleStarred => "cannot use double starred expression here"
  | .starredInComprehension => "iterable unpacking cannot be used in comprehension"
  | .doubleStarredInComprehension => "dict unpacking cannot be used in dict comprehension"
  | .unparenthesizedTarget => "did you forget parentheses around the comprehension target?"
  | .badTarget kind => s!"cannot assign to {kind}"
  | .noColon => "':' expected after dictionary key"
  | .starredDictValue => "cannot use a starred expression in a dictionary value"
  | .noDictValue => "expression expected after dictionary key and ':'"
  | .starredAfterKeywords =>
    "iterable argument unpacking follows keyword argument unpacking"
  | .unparenthesizedGenerator => "Generator expression must be parenthesized"
  | .positionalAfterKeyword unpacking =>
    if unpacking then "positional argument follows keyword argument unpacking"
    else "positional argument follows keyword argument"
  | .keywordConstant word => s!"cannot assign to {word}"
  | .keywordExpression => "expression cannot contain assignment, perhaps you meant \"==\"?"
  | .noDefault => "expected default value expression"
  | .plainAfterDefault => "non-default argument follows default argument"
  | .parenthesizedParameters => "Lambda expression parameters cannot be parenthesized"
  | .nothingBeforeSlash => "at least one argument must precede /"
  | .secondSlash => "/ may appear only once"
  | .slashAfterStar => "/ must be ahead of *"
  | .noCommaAfterSlash => "expected comma between / and *"
  | .nothingAfterStar => "named arguments must follow bare *"
  | .starDefault => "var-positional argument cannot have default value"
  | .secondStar => "* argument may appear only once"
  | .doubleStarDefault => "var-keyword argument cannot have default value"
  | .afterDoubleStar => "arguments cannot follow var-keyword argument"
  | .inTemplate f => "f-string: " ++ f.message

end SourceFacts.Term
