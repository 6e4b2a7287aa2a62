import SourceFacts.Syntax.Node
import SourceFacts.Text.Utf8

/-!
# Source text

The bytes of a file. A node's text is the part of the bytes under its span; lines are counted from
one and end at a line feed, columns are counted in bytes from zero.
-/

namespace SourceFacts

/-- The bytes of a source file. -/
structure Source where
  bytes : List UInt8

namespace Source

/-- The bytes from one offset to another. -/
def slice (src : Source) (start stop : Nat) : List UInt8 :=
  (src.bytes.take stop).drop start

/-- The text of a node. -/
def text (src : Source) (n : Node) : String :=
  Text.Utf8.decode (src.slice n.start n.stop)

/-- The text of a node that may be absent; an absent node has none. -/
def textOf (src : Source) : Option Node → String
  | some n => src.text n
  | none => ""

/-- The code of a line feed. -/
def lineFeed : UInt8 := 10

/-- The number of the line that holds an offset. -/
def lineAt (src : Source) (offset : Nat) : Nat :=
  (src.bytes.take offset).count lineFeed + 1

/-- The distance in bytes of an offset from the start of its line. -/
def columnAt (src : Source) (offset : Nat) : Nat :=
  let before := src.bytes.take offset
  let lineStart := before.length - (before.reverse.takeWhile (· != lineFeed)).length
  offset - lineStart

/-- The line on which a node starts. -/
def line (src : Source) (n : Node) : Nat := src.lineAt n.start

/-- The line on which a node ends. -/
def endLine (src : Source) (n : Node) : Nat := src.lineAt n.stop

/-- The column at which a node starts. -/
def column (src : Source) (n : Node) : Nat := src.columnAt n.start

end Source

end SourceFacts
