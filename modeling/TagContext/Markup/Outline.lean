import TagContext.Text.Width
import TagContext.Markup.Scan

namespace TagContext.Markup

inductive Density where
  | sparse
  | dense
  deriving DecidableEq, Repr

def Density.ofItems (n : Nat) : Density := if 1 < n then .dense else .sparse

def itemCount (text : String) (cs : List Construct) : Nat :=
  if Text.contains text "schema" then 1 else (cs.filter Construct.isOpening).length

def itemsOnLine (text : String) : Except ScanFault Nat :=
  if Text.contains text "schema" then .ok 1
  else (scan text false).map fun cs => (cs.filter Construct.isOpening).length

structure ScannedLine where
  text : String
  startsInComment : Bool
  constructs : List Construct
  deriving Repr, Inhabited

def ScannedLine.dense (l : ScannedLine) : Bool := 1 < itemCount l.text l.constructs

def endsInComment (cs : List Construct) : Bool :=
  match cs.getLast? with
  | some c => c.isOpenComment
  | none => false

def scanLines (inComment : Bool) : List String → Except ScanFault (List ScannedLine)
  | [] => .ok []
  | t :: ts => do
    let cs ← scan t inComment
    let rest ← scanLines (endsInComment cs) ts
    pure (⟨t, inComment, cs⟩ :: rest)

structure Outline where
  lines : List ScannedLine
  deriving Repr, Inhabited

namespace Outline

def ofLines (texts : List String) : Except ScanFault Outline := (scanLines false texts).map (⟨·⟩)

def count (o : Outline) : Nat := o.lines.length

def text (o : Outline) (n : Nat) : String := match o.lines[n]? with
  | some l => l.text
  | none => ""

def startsInComment (o : Outline) (n : Nat) : Bool := match o.lines[n]? with
  | some l => l.startsInComment
  | none => false

def constructs (o : Outline) (n : Nat) : List Construct := match o.lines[n]? with
  | some l => l.constructs
  | none => []

def dense (o : Outline) (n : Nat) : Bool := match o.lines[n]? with
  | some l => l.dense
  | none => false

end Outline

end TagContext.Markup
