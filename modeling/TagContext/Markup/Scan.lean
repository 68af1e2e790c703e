import TagContext.Text.Blank
import TagContext.Markup.Construct

namespace TagContext.Markup

def endsName (c : Char) : Bool :=
  Text.isAsciiBlank c || c = '>' || c = '/' || c = '<' || c = '"' || c = '\'' || c = '='

-- One step per character, and no look at another line: a tag or comment still open at the end
-- comes back unterminated. Inside a comment body the scan moves byte by byte and cannot stand
-- inside a multi-byte character, so such a line is refused (`ScanFault.wideInComment`).
inductive Mode where
  | outside
  | openName (start : Nat) (name : String)
  | opening (start : Nat) (name : String) (quote : Option Char) (slash : Bool)
  | closeName (start : Nat) (name : String)
  | closing (start : Nat) (name : String)
  | comment (start : Nat) (dashes : Nat)
  deriving DecidableEq, Repr

structure Step where
  mode : Mode
  out : Option Construct
  wide : Bool
  deriving DecidableEq, Repr

def Step.go (m : Mode) : Step := ⟨m, none, false⟩

def openingStep (start : Nat) (name : String) (pos : Nat) (c : Char) :
    Option Char → Bool → Step
  | some q, _ => .go (.opening start name (if c = q then none else some q) (c = '/'))
  | none, slash =>
    if c = '"' || c = '\'' then .go (.opening start name (some c) false)
    else if c = '>' then
      ⟨.outside, some ⟨if slash then .selfClosing else .opening, name, start, some pos, pos + 1⟩,
        false⟩
    else if c = '<' then ⟨.openName pos "", some ⟨.opening, name, start, none, pos⟩, false⟩
    else .go (.opening start name none (c = '/'))

def closingStep (start : Nat) (name : String) (pos : Nat) (c : Char) : Step :=
  if c = '>' then ⟨.outside, some ⟨.closing, name, start, some pos, pos + 1⟩, false⟩
  else if c = '<' then ⟨.openName pos "", some ⟨.closing, name, start, none, pos⟩, false⟩
  else .go (.closing start name)

def Mode.feed (m : Mode) (pos : Nat) (c : Char) : Step :=
  match m with
  | .outside => if c = '<' then .go (.openName pos "") else .go .outside
  | .openName start name =>
    if name.isEmpty && c = '/' then .go (.closeName start "")
    else if name == "!-" && c = '-' then .go (.comment start 0)
    else if endsName c then openingStep start name pos c none false
    else .go (.openName start (name.push c))
  | .opening start name quote slash => openingStep start name pos c quote slash
  | .closeName start name =>
    if endsName c then closingStep start name pos c else .go (.closeName start (name.push c))
  | .closing start name => closingStep start name pos c
  | .comment start dashes =>
    if c = '>' && 2 ≤ dashes then ⟨.outside, some ⟨.comment, "", start, some pos, pos + 1⟩, false⟩
    else if c = '-' then .go (.comment start (dashes + 1))
    else ⟨.comment start 0, none, 1 < c.utf8Size⟩

def Mode.atEnd (m : Mode) (pos : Nat) : Option Construct :=
  match m with
  | .outside => none
  | .openName start name | .opening start name _ _ => some ⟨.opening, name, start, none, pos⟩
  | .closeName start name | .closing start name => some ⟨.closing, name, start, none, pos⟩
  | .comment start _ => some ⟨.comment, "", start, none, pos⟩

def Mode.run (m : Mode) (pos : Nat) : List Char → List Construct
  | [] => (m.atEnd pos).toList
  | c :: cs =>
    let s := m.feed pos c
    s.out.toList ++ s.mode.run (pos + c.utf8Size) cs

def Mode.firstWide (m : Mode) (pos : Nat) : List Char → Option Nat
  | [] => none
  | c :: cs =>
    let s := m.feed pos c
    if s.wide then some pos else s.mode.firstWide (pos + c.utf8Size) cs

def Mode.initial (inComment : Bool) : Mode := if inComment then .comment 0 0 else .outside

def Mode.after (m : Mode) (pos : Nat) : List Char → Mode
  | [] => m
  | c :: cs => (m.feed pos c).mode.after (pos + c.utf8Size) cs

inductive ScanFault where
  | wideInComment (column : Nat)
  deriving DecidableEq, Repr

def constructs (line : String) (inComment : Bool) : List Construct :=
  (Mode.initial inComment).run 0 line.toList

def scan (line : String) (inComment : Bool) : Except ScanFault (List Construct) :=
  match (Mode.initial inComment).firstWide 0 line.toList with
  | some column => .error (.wideInComment column)
  | none => .ok (constructs line inComment)

end TagContext.Markup
