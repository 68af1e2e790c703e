import TagContext.Text.Width
import TagContext.Markup.Outline
import TagContext.Tag.Qualifier
import TagContext.Document.Position

namespace TagContext.Markup.Outline

def runsOn (o : Outline) (name : String) (n : Nat) (parts : List String) : Bool :=
  match (o.constructs n).getLast? with
  | none => false
  | some last =>
    if !last.isOpening || last.isTerminated || last.name != name then false
    else
      let joined := Text.startingAt (o.text n) last.start ++ String.join (parts.map ("\n" ++ ·))
      match (Markup.constructs joined false).head? with
      | some c => c.isOpening && !c.isTerminated && c.extent == joined.utf8ByteSize
      | none => false

def continuesAbove (o : Outline) (name : String) : Nat → List String → Bool
  | 0, _ => false
  | n + 1, parts =>
    if (o.constructs n).isEmpty then continuesAbove o name n (o.text n :: parts)
    else o.runsOn name n parts

def isOpenAt (o : Outline) (pos : Position) (q : Qualifier) (t : Tag) : Bool :=
  let text := o.text pos.line
  let cursor := Text.column text pos.character
  let name := q.qualify t.localName
  let before := (o.constructs pos.line).takeWhile (·.start < cursor)
  if before.isEmpty then
    pos.line < o.count && o.continuesAbove name pos.line [Text.upTo text cursor]
  else
    match (before.filter fun c => c.opens name && c.start + 1 + name.utf8ByteSize ≤ cursor).getLast? with
    | some c => c.containsCursor cursor
    | none => false

def openTag? (o : Outline) (pos : Position) (q : Qualifier) : Option Tag :=
  Tag.openPriority.find? (o.isOpenAt pos q)

end TagContext.Markup.Outline
