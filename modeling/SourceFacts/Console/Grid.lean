import SourceFacts.Console.Highlight
import SourceFacts.Console.Markup
import SourceFacts.Console.Wrap
import SourceFacts.Document
import SourceFacts.Misfit

/-!
# Boxes on the console

Tables and panels in a rounded frame. A column is as wide as the widest line in it. Where a table is
wider than the console, its widest columns give way, and their texts are broken into lines.
-/

namespace SourceFacts.Console

/-- The columns of the console. -/
def consoleWidth : Nat := 200

/-- A number of dashes. -/
def dashes (n : Nat) : List Char :=
  List.replicate n '─'

/-- A text, or a value of another kind that was given in its place. -/
inductive Cell where
  | text (markup : String)
  /-- The kind of the value, and how it is written. -/
  | foreign (kind shown : String)

instance : Coe String Cell where
  coe := .text

/-- A column of a table. Its style does not show, but has to be one. -/
structure Column where
  header : Cell := .text ""
  justify : Justify := .left
  style : Cell := .text ""

/-- The cell that a value makes; nothing is an empty text. -/
def Cell.ofDocument : Document → Cell
  | .null => .text ""
  | .text s => .text s
  | d => .foreign d.kindName d.quoted

/-- The cell that a value makes where nothing is a value like others. -/
def Cell.ofAny : Document → Cell
  | .null => .foreign Document.null.kindName Document.null.quoted
  | d => .ofDocument d

/-- The title that a value makes, if it makes one. -/
def titleOf (d : Document) : Option Cell :=
  if d.isEmpty then none else some (Cell.ofDocument d)

/-- The place in the column that a word asks for. -/
def Justify.ofName : String → Justify
  | "left" => .left
  | "center" => .center
  | "right" => .right
  | "full" => .full
  | _ => .none

/-- A table with a title. Titles, headers and cells are marked up. -/
structure Grid where
  title : Option Cell
  columns : List Column
  rows : List (List Cell) := []

/-- Why a table or a panel cannot be shown. -/
inductive ShowError where
  | markup (e : MarkupError)
  | style (name : String) (e : StyleError)
  /-- The kind of a style that is no text. -/
  | styleKind (kind : String)
  /-- The kind of a cell that is no text. -/
  | cell (kind : String)
  /-- A header that is no text. -/
  | header (shown : String)
  /-- A title that is no text. -/
  | title (shown : String)
  /-- A column is described by fewer than three values. -/
  | fewValues (count : Nat)
  | manyValues
  /-- A panel is given no values. -/
  | noPanelValues
  /-- A panel is given more than three values. -/
  | manyPanelValues (count : Nat)
  /-- The kind of a count that is no number. -/
  | count (kind : String)
  /-- A count is a text. -/
  | textCount

/-- The report of an error. -/
def ShowError.message : ShowError → String
  | .markup e => e.message
  | .style name e =>
    match e.badNumber? with
    | some number => number.message
    | none => s!"Failed to get style {Text.quoted name}; {e.message}"
  | .styleKind kind =>
    if kind == "list" || kind == "dict" then s!"unhashable type: '{kind}'"
    else ({ kind, asked := "strip" } : Lack).message
  | .cell kind => s!"unable to render {kind}; a string or other renderable object is required"
  | .header shown =>
    s!"Unable to get render width for {shown}; " ++
      "a str, Segment, or object with __rich_console__ method is required"
  | .title shown =>
    s!"Unable to render {shown}; " ++
      "A str, Segment or object with __rich_console__ method is required"
  | .fewValues n => s!"not enough values to unpack (expected 3, got {n})"
  | .manyValues => "too many values to unpack (expected 3)"
  | .noPanelValues => "create_header_panel() missing 1 required positional argument: 'title'"
  | .manyPanelValues n =>
    s!"create_header_panel() takes from 1 to 3 positional arguments but {n} were given"
  | .count kind => s!"unsupported format string passed to {kind}.__format__"
  | .textCount => "Cannot specify ',' with 's'."

/-- The column that a header, a place and a style describe. -/
def Column.ofValues : List Document → Except ShowError Column
  | [header, justify, style] =>
    .ok {
      header := .ofAny header
      justify := .ofName (justify.text?.getD "")
      style := if style.isEmpty then .text "" else .ofDocument style }
  | values => .error (if values.length < 3 then .fewValues values.length else .manyValues)

/-- The value is a style. -/
def checkStyleCell : Cell → Except ShowError Unit
  | .text name => (checkStyle name).mapError (.style name)
  | .foreign kind _ => .error (.styleKind kind)

/-! ## Segments -/

/-- The start of some segments with a number of columns. -/
def cropSegments : (room : Nat) → List (List Char) → List (List Char)
  | _, [] => []
  | room, s :: rest =>
    if Text.columns s < room then s :: cropSegments (room - Text.columns s) rest
    else [Text.fitColumns room s]

/-- The columns that segments take. -/
def segmentsWidth (l : List (List Char)) : Nat :=
  totalWidth (l.map Text.columns)

/-- Segments cut or filled up to a width. -/
def fitSegments (width : Nat) (l : List (List Char)) : List (List Char) :=
  let used := segmentsWidth l
  if used < width then l ++ [blanks (width - used)]
  else if width < used then cropSegments width l
  else l

/-- The line that segments make on the console. -/
def lineOf (l : List (List Char)) : String :=
  let kept := if consoleWidth < segmentsWidth l then cropSegments consoleWidth l else l
  String.ofList kept.flatten

/-! ## Columns -/

/-- The character ends a line when a text is measured. -/
def isLineEnd (c : Char) : Bool :=
  (10 ≤ c.toNat && c.toNat ≤ 13) || (28 ≤ c.toNat && c.toNat ≤ 30) || c.toNat == 0x85 ||
    c.toNat == 0x2028 || c.toNat == 0x2029

/-- The width of the widest line of a text. -/
def widestLine (t : Styled) : Nat :=
  let lines := Text.splitChars '\n' (t.chars.map fun c => if isLineEnd c then '\n' else c)
  (lines.map Text.columns).foldl max 0

/-- The blanks on both sides of a cell. -/
def padding : Nat := 2

/-- The width of a column whose widest line has a width, where it has some room. -/
def columnWidth (room widest : Nat) : Nat :=
  if room ≤ padding then room else min (widest + padding) room

/-- A quotient rounded to the nearest number, to the even one of two. -/
def roundedQuotient (num den : Nat) : Nat :=
  let floor := num / den
  let twice := 2 * (num % den)
  if twice < den then floor
  else if den < twice then floor + 1
  else floor + floor % 2

/-- Takes a total from the values that give way, evenly and at most `most` from each; `sharing` of
them give way. -/
def reduceValues (most : Nat → Nat) (gives : Nat → Bool) :
    (total sharing : Nat) → List Nat → List Nat
  | _, _, [] => []
  | total, sharing, v :: rest =>
    if gives v && 0 < sharing && 0 < most v then
      let share := min (most v) (roundedQuotient total sharing)
      (v - share) :: reduceValues most gives (total - share) (sharing - 1) rest
    else v :: reduceValues most gives total sharing rest

/-- Takes columns from the widest ones until they fit, in at most `steps` steps. -/
def collapseWidths : (steps : Nat) → (room : Nat) → List Nat → List Nat
  | 0, _, widths => widths
  | steps + 1, room, widths =>
    let excess := totalWidth widths - room
    let widest := widths.foldl max 0
    let second := (widths.filter (· != widest)).foldl max 0
    if excess = 0 ∨ widest = second then widths
    else
      let most := min excess (widest - second)
      let sharing := (widths.filter (· == widest)).length
      collapseWidths steps room
        (reduceValues (fun _ => most) (fun v => v == widest) excess sharing widths)

/-- The widths of columns whose widest lines have the given widths, in some room. -/
def columnWidths (room : Nat) (widest : List Nat) : List Nat :=
  let wanted := widest.map fun w => max 1 (columnWidth room w)
  if totalWidth wanted ≤ room then wanted
  else
    let collapsed := collapseWidths (totalWidth wanted) room wanted
    let sharing := (collapsed.filter (0 < ·)).length
    let reduced :=
      if room < totalWidth collapsed then
        reduceValues (fun v => v) (fun _ => true) (totalWidth collapsed - room) sharing collapsed
      else collapsed
    (reduced.zip widest).map fun (room, w) => columnWidth room w

/-! ## Frames -/

/-- The lines of a text in a width, from one edge of a style to the next. -/
def segmentLines (t : Styled) (width : Nat) (justify : Justify) (overflow : Overflow) :
    Except ShowError (List (List (List Char))) := do
  let lines ← (checkStyles (t.wrap width justify overflow)).mapError .markup
  return lines.map Styled.segments

/-- The lines of a text with a blank on both sides, in a width; none where there is no room. -/
def paddedLines (t : Styled) (width : Nat) (justify : Justify) (overflow : Overflow) :
    Except ShowError (List (List (List Char))) := do
  if width ≤ padding then return []
  let lines ← segmentLines t (width - padding) justify overflow
  return lines.map fun line =>
    fitSegments width ([' '] :: fitSegments (width - padding) line ++ [[' ']])

/-- A line of the frame. -/
def frameLine (left middle right : Char) (widths : List Nat) : List (List Char) :=
  let rec joined : List Nat → List Char
    | [] => []
    | [w] => dashes w
    | w :: rest => dashes w ++ middle :: joined rest
  [left :: joined widths ++ [right]]

/-- Cells side by side, with a line between them. -/
def betweenBars : List (List (List Char)) → List (List Char)
  | [] => [['│']]
  | cell :: rest => ['│'] :: cell ++ betweenBars rest

/-- The lines of a row of cells with the given widths; `below` says where lines are added to cells
with fewer of them. -/
def rowLines (below : Bool) (cells : List (Nat × List (List (List Char)))) :
    List (List (List Char)) :=
  let height := (cells.map fun c => c.2.length).foldl max 1
  let filled := cells.map fun (width, lines) =>
    let missing := List.replicate (height - lines.length) [blanks width]
    if below then lines ++ missing else missing ++ lines
  (List.range height).map fun k => betweenBars (filled.map fun lines => lines[k]?.getD [])

namespace Grid

/-- The columns, with one more for each cell of a row beyond them. -/
def allColumns (g : Grid) : List Column :=
  let count := (g.rows.map List.length).foldl max g.columns.length
  g.columns ++ List.replicate (count - g.columns.length) ({} : Column)

/-- The first cell that is no text. -/
def cellError? (g : Grid) : Option ShowError :=
  g.rows.flatten.findSome? fun
    | .foreign kind _ => some (.cell kind)
    | .text _ => none

/-- What a header or a cell shows. -/
def readCell : Cell → Except ShowError Styled
  | .text markup => (readMarkup markup).mapError .markup
  | .foreign _ shown => .error (.header shown)

/-- What the header and the cells of a column show. -/
def readColumn (g : Grid) (index : Nat) (column : Column) : Except ShowError (List Styled) := do
  checkStyleCell column.style
  (column.header :: g.rows.map fun row => row[index]?.getD (.text "")).mapM readCell

/-- The lines of the title over a table of some width. -/
def titleLines (g : Grid) (width : Nat) : Except ShowError (List (List (List Char))) :=
  match g.title with
  | none => .ok []
  | some (.foreign _ shown) => .error (.title shown)
  | some (.text markup) => do
    if markup.isEmpty then return []
    let t ← (readMarkup markup).mapError .markup
    segmentLines t width .center .fold

/-- The lines of a table. -/
def render (g : Grid) : Except ShowError (List String) := do
  if let some e := g.cellError? then throw e
  let columns := g.allColumns
  if columns.isEmpty then return [""]
  let cells ← columns.zipIdx.mapM fun (column, index) => g.readColumn index column
  let bars := columns.length + 1
  let widths := columnWidths (consoleWidth - bars)
    (cells.map fun column => (column.map widestLine).foldl max 0)
  let title ← g.titleLines (totalWidth widths + bars)
  let row (below : Bool) (k : Nat) : Except ShowError (List (List (List Char))) := do
    let parts ← (columns.zip (widths.zip cells)).mapM fun (column, width, shown) => do
      return (width, ← paddedLines (shown[k]?.getD {}) width column.justify .ellipsis)
    return rowLines below parts
  let header ← row false 0
  let rows ← (List.range g.rows.length).mapM fun k => row true (k + 1)
  let lines := title ++
    [frameLine '╭' '┬' '╮' widths] ++ header ++ [frameLine '├' '┼' '┤' widths] ++ rows.flatten ++
    [frameLine '╰' '┴' '╯' widths]
  return lines.map lineOf

end Grid

/-- The lines of a panel around a marked-up text, with a style for its frame. -/
def panel (style : Cell) (content : String) : Except ShowError (List String) := do
  checkStyleCell style
  let t ← (readMarkup content).mapError .markup
  let width := columnWidth (consoleWidth - 2) (widestLine t)
  let inner := (← paddedLines t width .none .fold).map fun line => ['│'] :: line ++ [['│']]
  let lines := [frameLine '╭' '─' '╮' [width]] ++ inner ++ [frameLine '╰' '─' '╯' [width]]
  return lines.map lineOf

/-- The lines of a panel with a title and, if it is not empty, a line below it. -/
def headerPanel (title subtitle : String) (style : Cell := "cyan") :
    Except ShowError (List String) :=
  let head := "[bold cyan]" ++ title ++ "[/bold cyan]"
  panel style (if subtitle.isEmpty then head else head ++ "\n" ++ subtitle)

/-- The lines of the panel that a title, a line below it and a style describe. -/
def panelOfValues : List Document → Except ShowError (List String)
  | [] => .error .noPanelValues
  | [title] => headerPanel title.inText ""
  | [title, below] => headerPanel title.inText (lineBelow below)
  | [title, below, style] => headerPanel title.inText (lineBelow below) (.ofAny style)
  | values => .error (.manyPanelValues values.length)
where
  /-- An empty value gives no line. -/
  lineBelow (d : Document) : String :=
    if d.isEmpty then "" else d.inText

/-- The lines of a marked-up text. -/
def shownLines (markup : String) : Except ShowError (List String) := do
  let t ← (readMarkup markup).mapError .markup
  return (← segmentLines t.highlighted consoleWidth .none .fold).map lineOf

end SourceFacts.Console
