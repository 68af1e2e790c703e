import TagContext.Json
import TagContext.Cursor.Context
import TagContext.Completion.Basic
import TagContext.Edit.AutoClose

namespace TagContext

open Markup

def Markup.Kind.label : Kind → String
  | .opening => "open"
  | .selfClosing => "self_closing"
  | .closing => "close"
  | .comment => "comment"

def Markup.Construct.toJson (c : Construct) : Json :=
  .obj [("kind", .str c.kind.label), ("name", .str c.name), ("start", .num c.start),
    ("end", Json.ofOption .num c.finish), ("extent", .num c.extent)]

def Markup.Density.label : Density → String
  | .sparse => "sparse"
  | .dense => "dense"

def Tag.toJson (t : Tag) : Json := .str t.name

def Tag.orNone : Option Tag → Json
  | some t => t.toJson
  | none => .str "none"

def Location.toJson (l : Location) : Json :=
  .obj [("tag", l.tag.toJson), ("line", .num l.line), ("character", .num l.character)]

def Position.toJson (p : Position) : Json :=
  .obj [("line", .num p.line), ("character", .num p.character)]

def Range.toJson (r : Range) : Json :=
  .obj [("start", r.start.toJson), ("end", r.stop.toJson)]

def SnippetEdit.toJson (e : SnippetEdit) : Json :=
  .obj [("range", e.range.toJson), ("snippet", .str e.snippet)]

def Completion.toJson (c : Completion) : Json :=
  .obj [("label", .str c.label), ("snippet", .str c.snippet),
    ("documentation", .str c.documentation)]

def CursorContext.toJson (c : CursorContext) : Json :=
  .obj [("position", c.position.toJson), ("prefix", .str c.qualifier.text),
    ("items_on_line", .num c.itemsOnLine), ("density", .str c.density.label),
    ("nearest_open", Tag.orNone c.nearestOpen),
    ("enclosing", Json.ofOption Location.toJson c.enclosing),
    ("enclosing_close", Json.ofOption Location.toJson c.enclosingClose),
    ("unmatched", Tag.orNone c.unmatched), ("brace_open", .bool c.braceOpen)]

end TagContext
