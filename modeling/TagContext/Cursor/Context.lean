import TagContext.Resolve

namespace TagContext

def isBraceMark (c : Char) : Bool := c = '{' || c = '}' || c = '<' || c = '>'

def lastBraceMark (cs : List Char) : Option Char := cs.reverse.find? isBraceMark

def isBraceOpen (lines : List String) (pos : Position) : Bool :=
  let text := lines.getD pos.line ""
  let typed := Text.takeWidth pos.character text.toList
  match (typed :: (lines.take pos.line).reverse.map String.toList).findSome? lastBraceMark with
  | some c => c = '{'
  | none => false

open Markup

structure CursorContext where
  position : Position
  qualifier : Qualifier
  itemsOnLine : Nat
  density : Density
  nearestOpen : Option Tag
  enclosing : Option Location
  enclosingClose : Option Location
  unmatched : Option Tag
  braceOpen : Bool
  deriving Repr

def CursorContext.analyze (d : Document) (pos : Position) (q : Qualifier) :
    Except ScanFault CursorContext := do
  let o ← d.outline
  let lines := d.lines
  let items ← Markup.itemsOnLine (lines.getD pos.line "")
  let enclosing := o.enclosing? pos q
  pure {
    position := pos
    qualifier := q
    itemsOnLine := items
    density := Density.ofItems items
    nearestOpen := o.openTag? pos q
    enclosing := enclosing
    enclosingClose := enclosing.bind fun l => o.closeOf? q l.tag l.line l.character
    unmatched := o.unclosed? pos q
    braceOpen := isBraceOpen lines pos }

end TagContext
