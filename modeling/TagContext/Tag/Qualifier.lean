import TagContext.Text.Blank
import TagContext.Tag.Basic

namespace TagContext

structure Qualifier where
  text : String
  deriving DecidableEq, Repr, Inhabited

namespace Qualifier

def ofString (s : String) : Qualifier :=
  let t := Text.trim s
  if t.isEmpty || t.endsWith ":" then ⟨t⟩ else ⟨t ++ ":"⟩

def defaultName : String := "xs"

def qualify (q : Qualifier) (localName : String) : String := q.text ++ localName

def findQualified (vocabulary : List Tag) (q : Qualifier) (n : String) : Option Tag :=
  if q.text.toList.isPrefixOf n.toList then
    let rest := String.ofList (n.toList.drop q.text.length)
    vocabulary.find? (·.localName == rest)
  else none

def lastSchemaColon (i : Nat) : List Char → Option Nat
  | [] => none
  | c :: cs =>
    if c = ' ' then none
    else match lastSchemaColon (i + 1) cs with
      | some j => some j
      | none => if c = ':' && 1 ≤ i && "schema".toList.isPrefixOf cs then some i else none

def schemaName (body : List Char) : Option (List Char) :=
  if "schema".toList.isPrefixOf body then some []
  else (lastSchemaColon 0 body).map fun j => body.take (j + 1)

def schemaOnLine : List Char → Option (List Char)
  | [] => none
  | c :: cs =>
    if c = '<' then
      let closing := match cs with
        | '/' :: body => schemaName body
        | _ => none
      match closing with
      | some p => some p
      | none => match schemaName cs with
        | some p => some p
        | none => schemaOnLine cs
    else schemaOnLine cs

def resolve (lines : List String) (line : Nat) (default : String) : Qualifier :=
  if line = 0 then ofString default
  else match (lines.take (line + 1)).findSome? (schemaOnLine ·.toList) with
    | some p => ofString (String.ofList p)
    | none => ofString default

end Qualifier

end TagContext
