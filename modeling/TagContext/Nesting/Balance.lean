import TagContext.Markup.Outline
import TagContext.Tag.Qualifier
import TagContext.Document.Position

namespace TagContext.Markup

def tally (name : String) (cs : List Construct) : Nat × Nat :=
  cs.foldl (fun (opens, closes) c =>
    if c.name != name then (opens, closes)
    else match c.kind with
      | .opening => (opens + 1, closes)
      | .closing => (opens, closes + 1)
      | _ => (opens, closes)) (0, 0)

def Unmatched (t : Nat × Nat) : Bool := t.2 < t.1

namespace Outline

def openedAtOrAbove (o : Outline) (line : Nat) (name : String) : Bool :=
  (List.range (min line (o.count - 1) + 1)).any fun n =>
    !o.dense n && (o.constructs n).any (·.opens name)

def sparseConstructs (o : Outline) : List Construct :=
  (o.lines.filter fun l => !l.dense).flatMap (·.constructs)

def unclosed? (o : Outline) (pos : Position) (q : Qualifier) : Option Tag :=
  if o.dense pos.line then
    let cursor := Text.column (o.text pos.line) pos.character
    let cs := o.constructs pos.line
    Tag.balanceOrder.find? fun t =>
      let name := q.qualify t.localName
      cs.any (fun c => c.opens name && c.start < cursor) && Unmatched (tally name cs)
  else
    Tag.balanceOrder.find? fun t =>
      let name := q.qualify t.localName
      o.openedAtOrAbove pos.line name && Unmatched (tally name o.sparseConstructs)

end Outline

end TagContext.Markup
