import TagContext.Nesting.Close
import TagContext.Nesting.Nearest
import TagContext.Document.Position

namespace TagContext.Markup.Outline

def between (o : Outline) (pos : Position) (q : Qualifier) (loc : Location) : Bool :=
  if o.count ≤ loc.line then false
  else
    let name := q.qualify loc.tag.localName
    match firstWhere (fun c => c.start == loc.character && c.opens name) (o.constructs loc.line) with
    | none => false
    | some (op, rest) =>
      let cursor := Text.column (o.text pos.line) pos.character
      let sameLine := pos.line == loc.line
      if sameLine && o.dense loc.line then
        if op.kind == .selfClosing then op.containsCursor cursor
        else match op.finish with
          | some e =>
            e < cursor && match findClose name 1 rest with
              | .found c => !(c < cursor)
              | .pending _ => true
          | none => false
      else if op.kind == .selfClosing then sameLine && op.containsCursor cursor
      else if pos.line < loc.line || (sameLine && cursor ≤ op.lastColumn) then false
      else if loc.line < pos.line &&
          (o.constructs pos.line).any (fun c => c.kind == .closing && c.name == name && cursor ≤ c.start)
        then true
      else match o.closeOf? q loc.tag loc.line loc.character with
        | some c => decide ((⟨pos.line, cursor⟩ : Position) ≤ c.position)
        | none => false

def betweenFrom (o : Outline) (pos : Position) (q : Qualifier) (t : Tag) (line : Nat) : Bool :=
  if o.count ≤ line then false
  else
    let text := o.text line
    let name := q.qualify t.localName
    let limit := if line == pos.line then Text.column text pos.character else text.utf8ByteSize
    match ((o.constructs line).filter fun c => c.opens name && c.start < limit).getLast? with
    | some c => o.between pos q ⟨t, line, c.start⟩
    | none => false

def enclosingFrom (o : Outline) (pos : Position) (q : Qualifier) (cand : Location) :
    Option Location :=
  if o.between pos q cand then some cand
  else match found : o.nearest? q cand.line cand.character with
    | none => none
    | some next =>
      have := nearest?_lt found
      o.enclosingFrom pos q next
termination_by (cand.line, cand.character)
decreasing_by
  rcases this with h1 | ⟨h1, h2⟩
  · exact Prod.Lex.left _ _ h1
  · rw [h1]; exact Prod.Lex.right _ h2

def enclosing? (o : Outline) (pos : Position) (q : Qualifier) : Option Location :=
  match o.nearest? q pos.line pos.character with
  | none => none
  | some cand => o.enclosingFrom pos q cand

end TagContext.Markup.Outline
