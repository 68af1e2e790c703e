import TagContext.Document.Basic
import TagContext.Nesting.Open
import TagContext.Nesting.Close
import TagContext.Nesting.Between
import TagContext.Nesting.Balance

namespace TagContext.Document

open Markup

def outline (d : Document) : Except ScanFault Outline := Outline.ofLines d.lines

def isOpenAt (d : Document) (pos : Position) (q : Qualifier) (t : Tag) : Except ScanFault Bool :=
  d.outline.map (·.isOpenAt pos q t)

def openTag? (d : Document) (pos : Position) (q : Qualifier) : Except ScanFault (Option Tag) :=
  d.outline.map (·.openTag? pos q)

def nearest? (d : Document) (q : Qualifier) (line col : Nat) : Except ScanFault (Option Location) :=
  d.outline.map (·.nearest? q line col)

def closeOf? (d : Document) (q : Qualifier) (t : Tag) (line col : Nat) :
    Except ScanFault (Option Location) :=
  if d.lineCount ≤ line then .ok none else d.outline.map (·.closeOf? q t line col)

def between (d : Document) (pos : Position) (q : Qualifier) (loc : Location) :
    Except ScanFault Bool :=
  if d.lineCount ≤ loc.line then .ok false else d.outline.map (·.between pos q loc)

def betweenFrom (d : Document) (pos : Position) (q : Qualifier) (t : Tag) (line : Nat) :
    Except ScanFault Bool :=
  if d.lineCount ≤ line then .ok false else d.outline.map (·.betweenFrom pos q t line)

def unclosed? (d : Document) (pos : Position) (q : Qualifier) : Except ScanFault (Option Tag) :=
  d.outline.map (·.unclosed? pos q)

def enclosing? (d : Document) (pos : Position) (q : Qualifier) : Except ScanFault (Option Location) :=
  d.outline.map (·.enclosing? pos q)

def qualifierAt (d : Document) (pos : Position) (default : String) : Qualifier :=
  Qualifier.resolve d.lines pos.line default

end TagContext.Document
