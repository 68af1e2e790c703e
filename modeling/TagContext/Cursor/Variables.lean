import TagContext.Text.Blank
import TagContext.Text.Word

namespace TagContext.Variables

def opener : List Char := "<dfdl:defineVariable".toList

def attributeValue (cs : List Char) : Option (List Char × Nat) :=
  if "name".toList.isPrefixOf cs then
    match (cs.drop 4).dropWhile Text.isBlank with
    | '=' :: rest =>
      match rest.dropWhile Text.isBlank with
      | '"' :: value =>
        let v := value.takeWhile (· ≠ '"')
        if v.length < value.length then some (v, cs.length - (value.length - v.length - 1))
        else none
      | _ => none
    | _ => none
  else none

def findName (prev : Char) (i : Nat) : List Char → Option (List Char × Nat)
  | [] => none
  | c :: cs =>
    let here := if Text.isWordChar prev then none else attributeValue (c :: cs)
    match here with
    | some (v, n) => some (v, i + n)
    | none => if c = '>' then none else findName c (i + 1) cs

def matchAt (cs : List Char) : Option (List Char × Nat) :=
  if opener.isPrefixOf cs then
    let body := cs.drop opener.length
    let boundary := match body with
      | [] => true
      | b :: _ => !Text.isWordChar b
    if boundary then (findName 'e' 0 body).map fun (v, n) => (v, opener.length + n) else none
  else none

def onLine : Nat → List Char → List (List Char)
  | _, [] => []
  | skip + 1, _ :: cs => onLine skip cs
  | 0, c :: cs =>
    match matchAt (c :: cs) with
    | some (v, n) => v :: onLine (n - 1) cs
    | none => onLine 0 cs

def defined (lines : List String) : List String :=
  (lines.flatMap fun l => (onLine 0 l.toList).map String.ofList).foldl
    (fun known name => if name.isEmpty || known.contains name then known else known ++ [name]) []

end TagContext.Variables
