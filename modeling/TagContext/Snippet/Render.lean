import TagContext.Tag.Qualifier

namespace TagContext.Snippet

-- A snippet is text with tab stops: `$1`, `${1}`, `${1:default}`, `${1|one,two|}`. Placeholders
-- nest and all their text goes to the one output, so the reader needs only how many are open.
inductive Reading where
  | text (depth : Nat)
  | escape (depth : Nat)
  | dollar (depth : Nat)
  | stopDigits (depth : Nat)
  | braceDigits (depth : Nat)
  | choice (depth : Nat) (first : Bool)
  | choiceEscape (depth : Nat) (first : Bool)
  | choiceBar (depth : Nat) (first : Bool)
  deriving DecidableEq, Repr

namespace Reading

def textStep (depth : Nat) (c : Char) : List Char × Reading :=
  if 0 < depth && c = '}' then ([], .text (depth - 1))
  else if c = '\\' then ([], .escape depth)
  else if c = '$' then ([], .dollar depth)
  else ([c], .text depth)

def choiceStep (depth : Nat) (first : Bool) (c : Char) : List Char × Reading :=
  if c = '\\' then ([], .choiceEscape depth first)
  else if c = '|' then ([], .choiceBar depth first)
  else if c = ',' then ([], .choice depth false)
  else (if first then [c] else [], .choice depth first)

def step : Reading → Char → List Char × Reading
  | .text d, c => textStep d c
  | .escape d, c => ([c], .text d)
  | .dollar d, c =>
    if c.isDigit then ([], .stopDigits d)
    else if c = '{' then ([], .braceDigits d)
    else
      let (out, r) := textStep d c
      ('$' :: out, r)
  | .stopDigits d, c => if c.isDigit then ([], .stopDigits d) else textStep d c
  | .braceDigits d, c =>
    if c.isDigit then ([], .braceDigits d)
    else if c = ':' then ([], .text (d + 1))
    else if c = '|' then ([], .choice d true)
    else ([], .text d)
  | .choice d first, c => choiceStep d first c
  | .choiceEscape d first, c => (if first then [c] else [], .choice d first)
  | .choiceBar d first, c =>
    if c = '}' then ([], .text d)
    else
      let (out, r) := choiceStep d first c
      ((if first then ['|'] else []) ++ out, r)

def atEnd : Reading → List Char
  | .dollar _ => ['$']
  | .choiceBar _ first => if first then ['|'] else []
  | _ => []

def run : Reading → List Char → List Char
  | r, [] => r.atEnd
  | r, c :: cs =>
    let (out, next) := r.step c
    out ++ next.run cs

end Reading

def render (snippet : String) : String := String.ofList ((Reading.text 0).run snippet.toList)

def choice (n : Nat) (values : List String) : String :=
  let plain (v : String) : String :=
    String.ofList (v.toList.flatMap fun c =>
      if c = '\\' || c = ',' || c = '|' || c = '$' || c = '}' then ['\\', c] else [c])
  "$" ++ "\x7b" ++ toString n ++ "|" ++ ",".intercalate (values.map plain) ++ "|" ++ "\x7d"

def inlineClose (q : Qualifier) (t : Tag) : String :=
  "></" ++ q.qualify t.localName ++ ">$0"

def variableClose (q : Qualifier) (t : Tag) : String :=
  ">$0</" ++ q.qualify t.localName ++ ">"

def selfClose : String := " />\n$0"

def blockClose (q : Qualifier) (t : Tag) (indent : String) : String :=
  ">\n" ++ indent ++ "\t$0\n" ++ indent ++ "</" ++ q.qualify t.localName ++ ">"

end TagContext.Snippet
