import TagContext.Markup.Outline
import TagContext.Tag.Qualifier
import TagContext.Tag.Basic

namespace TagContext.Markup

inductive CloseWalk where
  | found (column : Nat)
  | pending (depth : Nat)
  deriving DecidableEq, Repr

def findClose (name : String) : Nat → List Construct → CloseWalk
  | depth, [] => .pending depth
  | depth, c :: cs =>
    if c.name != name then findClose name depth cs
    else match c.kind with
      | .opening => findClose name (depth + 1) cs
      | .closing => if depth - 1 = 0 then .found c.start else findClose name (depth - 1) cs
      | _ => findClose name depth cs

def closeBelow (name : String) : Nat → Nat → List ScannedLine → Option (Nat × Nat)
  | _, _, [] => none
  | depth, n, l :: ls =>
    if l.dense then closeBelow name depth (n + 1) ls
    else match findClose name depth l.constructs with
      | .found c => some (n, c)
      | .pending d => closeBelow name d (n + 1) ls

namespace Outline

def openingFrom (o : Outline) (name : String) (line col : Nat) :
    Option (Construct × List Construct) :=
  let cs := o.constructs line
  match firstWhere (fun c => c.start == col && c.opens name) cs with
  | some r => some r
  | none => firstWhere (fun c => col ≤ c.start && c.opens name) cs

def closeOf? (o : Outline) (q : Qualifier) (t : Tag) (line col : Nat) : Option Location :=
  if o.count ≤ line then none
  else
    let name := q.qualify t.localName
    match o.openingFrom name line col with
    | none => none
    | some (op, rest) =>
      if op.kind == .selfClosing then some ⟨t, line, op.start⟩
      else match findClose name 1 rest with
        | .found c => some ⟨t, line, c⟩
        | .pending d =>
          (closeBelow name d (line + 1) (o.lines.drop (line + 1))).map fun (l, c) => ⟨t, l, c⟩

end Outline

end TagContext.Markup
