import SourceFacts.Console.Colour

/-!
# Styles

A style is written as a list of words: attributes such as `bold`, which `not` takes away, a colour, a
colour of the ground after `on`, and an address after `link`. Two ways to write the same style have
the same normal form.
-/

namespace SourceFacts.Console

/-- The attributes of text, in the order of the normal form. -/
def attributeNames : List String :=
  ["bold", "dim", "italic", "underline", "blink", "blink2", "reverse", "conceal", "strike",
   "underline2", "frame", "encircle", "overline"]

/-- Short names of attributes. -/
def shortAttributes : List (String × String) :=
  [("d", "dim"), ("b", "bold"), ("i", "italic"), ("u", "underline"), ("r", "reverse"),
   ("c", "conceal"), ("s", "strike"), ("uu", "underline2"), ("o", "overline")]

/-- The attribute that a word names. -/
def attribute? (word : String) : Option String :=
  if attributeNames.contains word then some word else shortAttributes.lookup word

/-- A style. -/
structure Style where
  /-- The attributes that are given or taken away; of several entries the last counts. -/
  attributes : List (String × Bool) := []
  colour : Option String := none
  ground : Option String := none
  link : Option String := none

/-- The normal form of a style. -/
def Style.text (s : Style) : String :=
  let given := attributeNames.filterMap fun name =>
    (s.attributes.reverse.lookup name).map fun on => if on then name else "not " ++ name
  let parts := given ++ s.colour.toList ++ (s.ground.map ("on " ++ ·)).toList ++
    (s.link.map ("link " ++ ·)).toList
  if parts.isEmpty then "none" else Text.joinWith " " parts

/-- Why a text is no style. -/
inductive StyleError where
  | colourExpected
  | attributeExpected (word : String)
  | addressExpected
  | ground (word : String) (e : ColourError)
  | colour (word : String) (e : ColourError)

/-- The report of an error. -/
def StyleError.message : StyleError → String
  | .colourExpected => "color expected after 'on'"
  | .attributeExpected word => s!"expected style attribute after 'not', found {Text.quoted word}"
  | .addressExpected => "URL expected after 'link'"
  | .ground word e => s!"unable to parse {Text.quoted word} as background color; {e.message}"
  | .colour word e => s!"unable to parse {Text.quoted word} as color; {e.message}"

/-- The number that is none and makes the reading of the style break down. -/
def StyleError.badNumber? : StyleError → Option Number.DecimalError
  | .ground _ (.number e) | .colour _ (.number e) => some e
  | _ => none

/-- Reads the words of a style on top of what was read before. -/
def readStyleWords : Style → List String → Except StyleError Style
  | s, [] => .ok s
  | s, [word] => do
    let small := Text.lower word
    if small == "on" then throw .colourExpected
    else if small == "not" then throw (.attributeExpected "")
    else if small == "link" then throw .addressExpected
    else
      match attribute? small with
      | some name => return { s with attributes := s.attributes ++ [(name, true)] }
      | none => return { s with colour := some (← (readColour small).mapError (.colour small)) }
  | s, word :: next :: rest => do
    let small := Text.lower word
    if small == "on" then
      let ground ← (readColour next).mapError (.ground next)
      readStyleWords { s with ground := some ground } rest
    else if small == "not" then
      match attribute? next with
      | some name => readStyleWords { s with attributes := s.attributes ++ [(name, false)] } rest
      | none => throw (.attributeExpected next)
    else if small == "link" then readStyleWords { s with link := some next } rest
    else
      match attribute? small with
      | some name =>
        readStyleWords { s with attributes := s.attributes ++ [(name, true)] } (next :: rest)
      | none =>
        let colour ← (readColour small).mapError (.colour small)
        readStyleWords { s with colour := some colour } (next :: rest)

/-- The words of a text. -/
def styleWords (text : String) : List String :=
  ((Text.splitChars ' ' (text.toList.map fun c => if Text.isBlank c then ' ' else c)).filter
    fun word => !word.isEmpty).map String.ofList

/-- Reads a style. -/
def readStyle (text : String) : Except StyleError Style :=
  if Text.strip text == "none" then .ok {} else readStyleWords {} (styleWords text)

/-- The normal form of what is written for a style; what is no style is taken as a name. The only
error is a number that is none. -/
def normalStyle (text : String) : Except Number.DecimalError String :=
  match readStyle text with
  | .ok s => .ok s.text
  | .error e =>
    match e.badNumber? with
    | some number => .error number
    | none => .ok (Text.lower (Text.strip text))

/-- The number that is none and stands in what is written for a style. -/
def styleFault? (text : String) : Option Number.DecimalError :=
  match readStyle text with
  | .ok _ => none
  | .error e => e.badNumber?

/-- The styles that have a name of their own. -/
def namedStyles : List String :=
  ["bar.back", "bar.complete", "bar.finished", "bar.pulse", "black", "blink", "blink2", "bold",
   "bright", "code", "cyan", "dim", "emphasize", "green", "inspect.async_def", "inspect.attr",
   "inspect.attr.dunder", "inspect.callable", "inspect.class", "inspect.def", "inspect.doc",
   "inspect.equals", "inspect.error", "inspect.help", "inspect.value.border", "iso8601.date",
   "iso8601.time", "iso8601.timezone", "italic", "json.bool_false", "json.bool_true", "json.brace",
   "json.key", "json.null", "json.number", "json.str", "layout.tree.column", "layout.tree.row",
   "live.ellipsis", "log.level", "log.message", "log.path", "log.time", "logging.keyword",
   "logging.level.critical", "logging.level.debug", "logging.level.error", "logging.level.info",
   "logging.level.notset", "logging.level.warning", "magenta", "markdown.block_quote",
   "markdown.code", "markdown.code_block", "markdown.em", "markdown.emph", "markdown.h1",
   "markdown.h1.border", "markdown.h2", "markdown.h3", "markdown.h4", "markdown.h5", "markdown.h6",
   "markdown.h7", "markdown.hr", "markdown.item", "markdown.item.bullet", "markdown.item.number",
   "markdown.link", "markdown.link_url", "markdown.list", "markdown.paragraph", "markdown.s",
   "markdown.strong", "markdown.table.border", "markdown.table.header", "markdown.text", "none",
   "pretty", "progress.data.speed", "progress.description", "progress.download", "progress.elapsed",
   "progress.filesize", "progress.filesize.total", "progress.percentage", "progress.remaining",
   "progress.spinner", "prompt", "prompt.choices", "prompt.default", "prompt.invalid",
   "prompt.invalid.choice", "red", "repr.attrib_equal", "repr.attrib_name", "repr.attrib_value",
   "repr.bool_false", "repr.bool_true", "repr.brace", "repr.call", "repr.comma", "repr.ellipsis",
   "repr.error", "repr.eui48", "repr.eui64", "repr.filename", "repr.indent", "repr.ipv4",
   "repr.ipv6", "repr.none", "repr.number", "repr.number_complex", "repr.path", "repr.str",
   "repr.tag_contents", "repr.tag_end", "repr.tag_name", "repr.tag_start", "repr.url", "repr.uuid",
   "reset", "reverse", "rule.line", "rule.text", "scope.border", "scope.equals", "scope.key",
   "scope.key.special", "status.spinner", "strike", "strong", "table.caption", "table.cell",
   "table.footer", "table.header", "table.title", "traceback.border",
   "traceback.border.syntax_error", "traceback.error", "traceback.error_range",
   "traceback.exc_type", "traceback.exc_value", "traceback.group.border", "traceback.note",
   "traceback.offset", "traceback.text", "traceback.title", "tree", "tree.line", "underline", "white",
   "yellow"]

/-- The text names a style or is one. -/
def checkStyle (text : String) : Except StyleError Unit :=
  if namedStyles.contains text then .ok () else (readStyle text).map fun _ => ()

end SourceFacts.Console
