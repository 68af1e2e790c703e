import TagContext.Text.Width
import TagContext.Document.Position

namespace TagContext

inductive SourceError where
  | lineOutOfRange (line lineCount : Nat)
  deriving DecidableEq, Repr

def SourceError.message : SourceError → String
  | .lineOutOfRange line count =>
    "line " ++ toString line ++ " is out of range (document has " ++ toString count ++ " lines)"

-- Where each line of a text begins and how long the text is, in bytes. The offsets are counted
-- in Nat where the source keeps them in u32: the two agree for a text under 4 GiB with fewer than
-- 2^32 - 1 line feeds, past which the source's offsets wrap and its line count stays at u32::MAX.
structure LineIndex where
  lineStarts : List Nat
  length : Nat
  deriving DecidableEq, Repr

namespace LineIndex

-- The offsets just past each line feed of `cs`, read from `pos` bytes into the text.
def breaks (pos : Nat) : List Char → List Nat
  | [] => []
  | c :: cs => if c = '\n' then (pos + c.utf8Size) :: breaks (pos + c.utf8Size) cs else breaks (pos + c.utf8Size) cs

def ofText (text : String) : LineIndex := ⟨0 :: breaks 0 text.toList, Text.width text.toList⟩

def lineCount (ix : LineIndex) : Nat := ix.lineStarts.length

-- The bytes of line `n`, its terminator included: up to the next line's start, or to the end of the
-- text for the last line.
def bounds (ix : LineIndex) (n : Nat) : Option (Nat × Nat) :=
  match ix.lineStarts[n]? with
  | some start => some (start, ix.lineStarts[n + 1]?.getD ix.length)
  | none => none

end LineIndex

def dropTrailing (c : Char) (cs : List Char) : List Char :=
  if cs.getLast? = some c then cs.dropLast else cs

structure Document where
  content : String
  deriving DecidableEq, Repr

namespace Document

def ofLines (lines : List String) : Document := ⟨"\n".intercalate lines⟩

def index (d : Document) : LineIndex := LineIndex.ofText d.content

def lineCount (d : Document) : Nat := d.index.lineCount

-- Line `n` without its terminator: its bytes less a final line feed, then less one carriage return.
def lineText (d : Document) (n : Nat) : Option String :=
  match d.index.bounds n with
  | some (start, stop) =>
    some (String.ofList (dropTrailing '\r' (dropTrailing '\n' (Text.slice d.content start stop).toList)))
  | none => none

def lines (d : Document) : List String := (List.range d.lineCount).map fun n => (d.lineText n).getD ""

def lineOrEmpty (d : Document) (n : Nat) : String := d.lines.getD n ""

def checkPosition (d : Document) (p : Position) : Except SourceError Unit :=
  if p.line < d.lineCount then .ok () else .error (.lineOutOfRange p.line d.lineCount)

def byteColumn (d : Document) (n k : Nat) : Nat := Text.columnOfIndex (d.lineOrEmpty n) k

-- The start of the position's line plus its column, clamped to the line's text and moved back to a
-- character boundary.
def offset (d : Document) (p : Position) : Option Nat :=
  match d.index.bounds p.line, d.lineText p.line with
  | some (start, _), some text => some (start + Text.column text p.character)
  | _, _ => none

def replace (d : Document) (r : Range) (text : String) : Except SourceError Document := do
  d.checkPosition r.start
  d.checkPosition r.stop
  match d.offset r.start, d.offset r.stop with
  | some a, some b =>
    let lo := min a b
    let hi := max a b
    let cs := d.content.toList
    pure ⟨String.ofList (Text.takeWidth lo cs ++ text.toList ++ Text.dropWidth hi cs)⟩
  | _, _ => pure d

end Document

end TagContext
