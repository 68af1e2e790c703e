import TagContext.Resolve
import TagContext.Text.Blank
import TagContext.Snippet.Render

namespace TagContext

structure SnippetEdit where
  range : Range
  snippet : String
  deriving DecidableEq, Repr

def Document.apply (d : Document) (e : SnippetEdit) : Except SourceError Document :=
  d.replace e.range (Snippet.render e.snippet)

open Markup

def Tag.closable : Tag → Bool
  | .element | .group | .sequence | .simpleType | .choice | .defineVariable | .setVariable => true
  | _ => false

def isReferenceOpening (typed : String) (q : Qualifier) (t : Tag) : Except ScanFault Bool :=
  match t.referenceVariant? with
  | none => .ok false
  | some v => do
    let name := q.qualify v.localName
    let cs ← scan typed false
    match (cs.filter (·.opens name)).getLast? with
    | none => return false
    | some c =>
      let stop := match c.finish with
        | some e => e + 1
        | none => c.extent
      return (Text.asciiWords (Text.slice typed c.start stop)).any (·.startsWith "ref=")

def singleClose (typed : String) (q : Qualifier) (t : Tag) : Except ScanFault String := do
  if ← isReferenceOpening typed q t then return Snippet.selfClose
  match t with
  | .defineVariable | .setVariable => return Snippet.variableClose q t
  | _ => return Snippet.blockClose q t (Text.leadingBlank typed)

def severalClose (typed : String) (q : Qualifier) (t : Tag) : Except ScanFault (Option String) := do
  let name := q.qualify t.localName
  let cs ← scan typed false
  match lastWhere (·.opens name) cs with
  | none => return none
  | some (c, rest) =>
    if c.kind == .opening && !rest.any (fun d => d.kind == .closing && d.name == name) then
      return some (Snippet.inlineClose q t)
    else return none

def Markup.Outline.closeElement (o : Outline) (pos : Position) (q : Qualifier) :
    Except ScanFault (Option SnippetEdit) := do
  let text := o.text pos.line
  let cursor := Text.column text pos.character
  let typed := Text.upTo text cursor
  if !typed.endsWith ">" then return none
  let some t := o.unclosed? pos q | return none
  let openings ← itemsOnLine typed
  if !t.closable && openings != 0 then return none
  let snippet ← match openings with
    | 0 => pure (if Text.contains typed "</" then none else some (Snippet.inlineClose q t))
    | 1 => if Text.contains typed "</" then pure none else some <$> singleClose typed q t
    | _ => severalClose typed q t
  match snippet with
  | none => return none
  | some s =>
    let stop : Position := ⟨pos.line, cursor⟩
    return some ⟨⟨stop.back 1, stop⟩, s⟩

def Document.closeElement (d : Document) (pos : Position) (q : Qualifier) :
    Except ScanFault (Option SnippetEdit) :=
  let text := d.lineOrEmpty pos.line
  if (Text.upTo text (Text.column text pos.character)).endsWith ">" then
    do let o ← d.outline; o.closeElement pos q
  else .ok none

end TagContext
