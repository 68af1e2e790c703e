import TagContext.Resolve
import TagContext.Cursor.Context
import TagContext.Cursor.Variables
import TagContext.Completion.Item

namespace TagContext

open Markup

structure Completion where
  label : String
  snippet : String
  documentation : String
  deriving DecidableEq, Repr

def Item.completion (q : Qualifier) (names : List String) (item : Item) : Completion :=
  ⟨item.label q, item.snippet q names, item.documentation⟩

def completionsAt (d : Document) (pos : Position) (q : Qualifier) :
    Except ScanFault (List Completion) :=
  if isBraceOpen d.lines pos then .ok []
  else do
    let o ← d.outline
    if (o.openTag? pos q).isSome then return []
    match o.enclosing? pos q with
    | none => return []
    | some loc =>
      let items := loc.tag.childItems
      let names := if items.contains .setVariable then Variables.defined d.lines else []
      return items.map (Item.completion q names)

end TagContext
