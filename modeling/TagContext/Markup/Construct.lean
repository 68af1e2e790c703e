namespace TagContext.Markup

inductive Kind where
  | opening
  | selfClosing
  | closing
  | comment
  deriving DecidableEq, Repr

structure Construct where
  kind : Kind
  name : String
  start : Nat
  finish : Option Nat
  extent : Nat
  deriving DecidableEq, Repr

namespace Construct

def isOpening (c : Construct) : Bool := c.kind == .opening || c.kind == .selfClosing

def isTerminated (c : Construct) : Bool := c.finish.isSome

def isOpenComment (c : Construct) : Bool := c.kind == .comment && c.finish.isNone

def lastColumn (c : Construct) : Nat := c.finish.getD c.extent

def containsCursor (c : Construct) (cursor : Nat) : Bool :=
  c.start < cursor && cursor ≤ c.lastColumn

def opens (c : Construct) (q : String) : Bool := c.isOpening && c.name == q

end Construct

def firstWhere (p : Construct → Bool) : List Construct → Option (Construct × List Construct)
  | [] => none
  | c :: cs => if p c then some (c, cs) else firstWhere p cs

def lastWhere (p : Construct → Bool) : List Construct → Option (Construct × List Construct)
  | [] => none
  | c :: cs => match lastWhere p cs with
    | some r => some r
    | none => if p c then some (c, cs) else none

end TagContext.Markup
