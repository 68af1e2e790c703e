import TagContext.Decimal.Shortest

namespace TagContext.Toml

-- How a table came to be. A header may define an implicit table once; dotted keys may extend
-- tables that dotted keys made and implicit ones, which then count as dotted, so no header
-- defines them later; inline tables and arrays are closed.
inductive Origin where
  | header
  | implicit
  | dotted
  | inline
  deriving DecidableEq, Repr

inductive Value where
  | string (s : String)
  | integer (n : Int)
  | float (shown : String)
  | boolean (b : Bool)
  | datetime (text : String)
  | array (items : List Value) (ofTables : Bool)
  | table (origin : Origin) (fields : List (String × Value))
  deriving Repr, Inhabited

abbrev Fields := List (String × Value)

abbrev Reader (α : Type) := List Char → Option (α × List Char)

def isBlank (c : Char) : Bool := c = ' ' || c = '\t'

def isBareKeyChar (c : Char) : Bool := c.isAlphanum || c = '_' || c = '-'

def isControl (c : Char) : Bool := (c.toNat < 0x20 && c ≠ '\t') || c.toNat = 0x7F

def hexValue (c : Char) : Option Nat :=
  if c.isDigit then some (c.toNat - 48)
  else if 'a' ≤ c && c ≤ 'f' then some (c.toNat - 87)
  else if 'A' ≤ c && c ≤ 'F' then some (c.toNat - 55)
  else none

def codePoint (ds : List Char) : Option Char := do
  let v ← ds.foldlM (fun acc c => (hexValue c).map (acc * 16 + ·)) 0
  if v < 0xD800 || (0xDFFF < v && v < 0x110000) then some (Char.ofNat v) else none

def simpleEscape : Char → Option Char
  | 'b' => some '\x08'
  | 't' => some '\t'
  | 'n' => some '\n'
  | 'f' => some '\x0C'
  | 'r' => some '\r'
  | '"' => some '"'
  | '\\' => some '\\'
  | 'e' => some '\x1B'
  | _ => none

def basicString (acc : List Char) : Reader String
  | [] => none
  | '"' :: rest => some (String.ofList acc.reverse, rest)
  | '\\' :: 'u' :: a :: b :: c :: d :: rest =>
    match codePoint [a, b, c, d] with
    | some ch => basicString (ch :: acc) rest
    | none => none
  | '\\' :: 'U' :: a :: b :: c :: d :: e :: f :: g :: h :: rest =>
    match codePoint [a, b, c, d, e, f, g, h] with
    | some ch => basicString (ch :: acc) rest
    | none => none
  | '\\' :: 'x' :: a :: b :: rest =>
    match codePoint [a, b] with
    | some ch => basicString (ch :: acc) rest
    | none => none
  | '\\' :: e :: rest =>
    match simpleEscape e with
    | some ch => basicString (ch :: acc) rest
    | none => none
  | c :: rest => if isControl c then none else basicString (c :: acc) rest

def literalString (acc : List Char) : Reader String
  | [] => none
  | '\'' :: rest => some (String.ofList acc.reverse, rest)
  | c :: rest => if isControl c then none else literalString (c :: acc) rest

def skipFolded : List Char → List Char
  | '\r' :: '\n' :: rest => skipFolded rest
  | c :: rest => if isBlank c || c = '\n' then skipFolded rest else c :: rest
  | [] => []

theorem skipFolded_length_le (cs : List Char) : (skipFolded cs).length ≤ cs.length := by
  fun_induction skipFolded cs <;> simp_all <;> omega

def endsLine : List Char → Bool
  | c :: rest => if isBlank c then endsLine rest else c = '\n' || (c = '\r' && rest.head? = some '\n')
  | [] => false

def mlBasicString (acc : List Char) : Reader String
  | [] => none
  | '"' :: '"' :: '"' :: '"' :: '"' :: '"' :: _ => none
  | '"' :: '"' :: '"' :: '"' :: '"' :: rest => some (String.ofList ('"' :: '"' :: acc).reverse, rest)
  | '"' :: '"' :: '"' :: '"' :: rest => some (String.ofList ('"' :: acc).reverse, rest)
  | '"' :: '"' :: '"' :: rest => some (String.ofList acc.reverse, rest)
  | '\\' :: 'u' :: a :: b :: c :: d :: rest =>
    match codePoint [a, b, c, d] with
    | some ch => mlBasicString (ch :: acc) rest
    | none => none
  | '\\' :: 'U' :: a :: b :: c :: d :: e :: f :: g :: h :: rest =>
    match codePoint [a, b, c, d, e, f, g, h] with
    | some ch => mlBasicString (ch :: acc) rest
    | none => none
  | '\\' :: 'x' :: a :: b :: rest =>
    match codePoint [a, b] with
    | some ch => mlBasicString (ch :: acc) rest
    | none => none
  | '\\' :: e :: rest =>
    if endsLine (e :: rest) then
      match h : skipFolded (e :: rest) with
      | [] => none
      | x :: xs =>
        have : (x :: xs).length ≤ (e :: rest).length := h ▸ skipFolded_length_le (e :: rest)
        mlBasicString acc (x :: xs)
    else match simpleEscape e with
      | some ch => mlBasicString (ch :: acc) rest
      | none => none
  | '\r' :: '\n' :: rest => mlBasicString ('\n' :: acc) rest
  | c :: rest => if c = '\n' || !isControl c then mlBasicString (c :: acc) rest else none
termination_by cs => cs.length
decreasing_by
  all_goals simp_wf
  all_goals (try simp only [List.length_cons] at *); omega

def mlLiteralString (acc : List Char) : Reader String
  | [] => none
  | '\'' :: '\'' :: '\'' :: '\'' :: '\'' :: '\'' :: _ => none
  | '\'' :: '\'' :: '\'' :: '\'' :: '\'' :: rest =>
    some (String.ofList ('\'' :: '\'' :: acc).reverse, rest)
  | '\'' :: '\'' :: '\'' :: '\'' :: rest => some (String.ofList ('\'' :: acc).reverse, rest)
  | '\'' :: '\'' :: '\'' :: rest => some (String.ofList acc.reverse, rest)
  | '\r' :: '\n' :: rest => mlLiteralString ('\n' :: acc) rest
  | c :: rest => if c = '\n' || !isControl c then mlLiteralString (c :: acc) rest else none

def dropFirstBreak : List Char → List Char
  | '\n' :: rest => rest
  | '\r' :: '\n' :: rest => rest
  | cs => cs

def digitRun (isDigit : Char → Bool) : List Char → Bool
  | [] => false
  | c :: rest =>
    isDigit c && match rest with
      | [] => true
      | '_' :: more => digitRun isDigit more
      | more => digitRun isDigit more

def digitsOf (cs : List Char) : List Char := cs.filter (· ≠ '_')

def valueIn (b : Nat) (cs : List Char) : Nat :=
  cs.foldl (fun acc c => acc * b + (hexValue c).getD 0) 0

def decimalRun (cs : List Char) : Bool :=
  digitRun Char.isDigit cs && match cs with
    | '0' :: _ :: _ => false
    | _ => true

def fitsInt64 (n : Int) : Bool := -9223372036854775808 ≤ n && n ≤ 9223372036854775807

def integerOf (cs : List Char) : Option Int :=
  let n : Option Int := match cs with
    | '0' :: 'x' :: ds => if digitRun (fun c => (hexValue c).isSome) ds then some (valueIn 16 (digitsOf ds)) else none
    | '0' :: 'o' :: ds => if digitRun (fun c => '0' ≤ c && c ≤ '7') ds then some (valueIn 8 (digitsOf ds)) else none
    | '0' :: 'b' :: ds => if digitRun (fun c => c = '0' || c = '1') ds then some (valueIn 2 (digitsOf ds)) else none
    | '+' :: ds => if decimalRun ds then some (valueIn 10 (digitsOf ds)) else none
    | '-' :: ds => if decimalRun ds then some (-(valueIn 10 (digitsOf ds) : Int)) else none
    | ds => if decimalRun ds then some (valueIn 10 (digitsOf ds)) else none
  n.bind fun v => if fitsInt64 v then some v else none

def exponentOf : List Char → Option Int
  | '+' :: ds => if digitRun Char.isDigit ds then some (valueIn 10 (digitsOf ds)) else none
  | '-' :: ds => if digitRun Char.isDigit ds then some (-(valueIn 10 (digitsOf ds) : Int)) else none
  | ds => if digitRun Char.isDigit ds then some (valueIn 10 (digitsOf ds)) else none

def floatOf (cs : List Char) : Option String :=
  let (negative, body) := match cs with
    | '+' :: rest => (false, rest)
    | '-' :: rest => (true, rest)
    | rest => (false, rest)
  let sign := if negative then "-" else ""
  match body with
  | ['i', 'n', 'f'] => some (sign ++ "inf")
  | ['n', 'a', 'n'] => some "NaN"
  | _ =>
    let (intPart, rest) := body.span fun c => c.isDigit || c = '_'
    if !decimalRun intPart then none
    else
      let (frac, rest) : Option (List Char) × List Char := match rest with
        | '.' :: more =>
          let (f, r) := more.span fun c => c.isDigit || c = '_'
          (some f, r)
        | r => (none, r)
      let fracOk := frac.all (digitRun Char.isDigit)
      let exp : Option (Option Int) := match rest with
        | [] => some none
        | 'e' :: more | 'E' :: more => (exponentOf more).map some
        | _ => none
      match exp with
      | none => none
      | some e =>
        if !fracOk || (frac.isNone && e.isNone) then none
        else
          let f := digitsOf (frac.getD [])
          let digits := digitsOf intPart ++ f
          let e10 := e.getD 0 - f.length
          let significant := (digits.dropWhile (· = '0')).length
          -- far outside the doubles the value is settled without computing it
          if significant = 0 then some (sign ++ "0")
          else if 310 < significant + e10 then none
          else if significant + e10 < -330 then some (sign ++ "0")
          else match (Decimal.Dec.mk (valueIn 10 digits) e10).toBinary? with
            | none => none
            | some b => some (b.shortest.positional negative)

def digitsN (n : Nat) (cs : List Char) : Bool := cs.length = n && cs.all Char.isDigit

def isLeapYear (year : Nat) : Bool := year % 4 = 0 && (year % 100 ≠ 0 || year % 400 = 0)

def daysInMonth (year month : Nat) : Nat :=
  match month with
  | 2 => if isLeapYear year then 29 else 28
  | 4 | 6 | 9 | 11 => 30
  | _ => 31

def isDate (cs : List Char) : Bool :=
  match cs with
  | [y1, y2, y3, y4, '-', m1, m2, '-', d1, d2] =>
    let month := valueIn 10 [m1, m2]
    let day := valueIn 10 [d1, d2]
    digitsN 4 [y1, y2, y3, y4] && digitsN 2 [m1, m2] && digitsN 2 [d1, d2] &&
      (1 ≤ month && month ≤ 12) &&
      (1 ≤ day && day ≤ daysInMonth (valueIn 10 [y1, y2, y3, y4]) month)
  | _ => false

def fractionDigits (ds : List Char) : List Char :=
  match ((ds.take 9).reverse.dropWhile (· = '0')).reverse with
  | [] => ['0']
  | kept => kept

def secondsOf : List Char → Option (List Char)
  | s1 :: s2 :: frac =>
    if digitsN 2 [s1, s2] && valueIn 10 [s1, s2] ≤ 60 then
      match frac with
      | [] => some [':', s1, s2]
      | '.' :: ds =>
        if !ds.isEmpty && ds.all Char.isDigit then some ([':', s1, s2, '.'] ++ fractionDigits ds)
        else none
      | _ => none
    else none
  | _ => none

def timeOf (cs : List Char) : Option String :=
  match cs with
  | h1 :: h2 :: ':' :: m1 :: m2 :: rest =>
    if digitsN 2 [h1, h2] && digitsN 2 [m1, m2] &&
        valueIn 10 [h1, h2] < 24 && valueIn 10 [m1, m2] < 60 then
      let base := [h1, h2, ':', m1, m2]
      match rest with
      | [] => some (String.ofList base)
      | ':' :: more => (secondsOf more).map fun secs => String.ofList (base ++ secs)
      | _ => none
    else none
  | _ => none

def timeWithOffset (cs : List Char) : Option String :=
  match cs.reverse with
  | 'Z' :: rest | 'z' :: rest => (timeOf rest.reverse).map (· ++ "Z")
  | m2 :: m1 :: ':' :: h2 :: h1 :: s :: rest =>
    if (s = '+' || s = '-') && digitsN 2 [h1, h2] && digitsN 2 [m1, m2] then
      let hours := valueIn 10 [h1, h2]
      let minutes := valueIn 10 [m1, m2]
      if hours < 24 && minutes < 60 then
        let s := if hours = 0 && minutes = 0 then '+' else s
        (timeOf rest.reverse).map (· ++ String.ofList [s, h1, h2, ':', m1, m2])
      else none
    else timeOf cs
  | _ => timeOf cs

def datetimeOf (cs : List Char) : Option String :=
  if isDate cs then some (String.ofList cs)
  else match cs with
    | y1 :: y2 :: y3 :: y4 :: '-' :: m1 :: m2 :: '-' :: d1 :: d2 :: sep :: time =>
      let date := [y1, y2, y3, y4, '-', m1, m2, '-', d1, d2]
      if isDate date && (sep = 'T' || sep = 't' || sep = ' ') then
        (timeWithOffset time).map fun t => String.ofList date ++ "T" ++ t
      else none
    | _ => timeOf cs

def isTokenChar (c : Char) : Bool :=
  c.isAlphanum || c = '_' || c = '+' || c = '-' || c = '.' || c = ':'

def scalar (cs : List Char) : Option (Value × List Char) :=
  let (tok, rest) := cs.span isTokenChar
  let (tok, rest) := match rest with
    | ' ' :: a :: b :: ':' :: more =>
      if isDate tok && a.isDigit && b.isDigit then
        let (t2, r2) := (a :: b :: ':' :: more).span isTokenChar
        (tok ++ ' ' :: t2, r2)
      else (tok, rest)
    | _ => (tok, rest)
  if tok.isEmpty then none
  else if tok = "true".toList then some (.boolean true, rest)
  else if tok = "false".toList then some (.boolean false, rest)
  else match integerOf tok with
    | some n => some (.integer n, rest)
    | none => match floatOf tok with
      | some f => some (.float f, rest)
      | none => (datetimeOf tok).map fun d => (.datetime d, rest)

def simpleKey : Reader String
  | '"' :: rest => basicString [] rest
  | '\'' :: rest => literalString [] rest
  | cs =>
    let (k, rest) := cs.span isBareKeyChar
    if k.isEmpty then none else some (String.ofList k, rest)

def skipBlanks (cs : List Char) : List Char := cs.dropWhile isBlank

def dottedKey : Nat → Reader (List String)
  | 0, _ => none
  | fuel + 1, cs => do
    let (k, rest) ← simpleKey cs
    match skipBlanks rest with
    | '.' :: more =>
      let (ks, rest') ← dottedKey fuel (skipBlanks more)
      pure (k :: ks, rest')
    | _ => pure ([k], rest)

def skipComment : List Char → Option (List Char)
  | [] => some []
  | '\n' :: rest => some ('\n' :: rest)
  | '\r' :: '\n' :: rest => some ('\r' :: '\n' :: rest)
  | c :: rest => if isControl c then none else skipComment rest

def skipArraySpace : Nat → List Char → Option (List Char)
  | 0, _ => none
  | fuel + 1, cs =>
    match skipBlanks cs with
    | '\n' :: rest => skipArraySpace fuel rest
    | '\r' :: '\n' :: rest => skipArraySpace fuel rest
    | '#' :: rest => do skipArraySpace fuel (← skipComment rest)
    | rest => some rest

inductive Way where
  | header
  | dotted
  deriving DecidableEq, Repr

def Way.fresh : Way → Origin
  | .header => .implicit
  | .dotted => .dotted

def Way.enter (w : Way) : Value → Option (Fields × (Fields → Value))
  | .table o fs =>
    match w, o with
    | _, .inline => none
    | .dotted, .header => none
    | .dotted, _ => some (fs, .table .dotted)
    | .header, o => some (fs, .table o)
  | .array items true =>
    if w = .dotted then none
    else match items.getLast? with
      | some (.table o fs) => some (fs, fun fs' => .array (items.dropLast ++ [.table o fs']) true)
      | _ => none
  | _ => none

def setField (fs : Fields) (k : String) (v : Value) : Fields :=
  fs.map fun (k', v') => if k' = k then (k', v) else (k', v')

def Way.under (w : Way) (f : Fields → Option Fields) : List String → Fields → Option Fields
  | [], fs => f fs
  | k :: ks, fs =>
    match fs.lookup k with
    | none => do
      let inner ← w.under f ks []
      pure (fs ++ [(k, .table w.fresh inner)])
    | some v => do
      let (sub, rebuild) ← w.enter v
      let inner ← w.under f ks sub
      pure (setField fs k (rebuild inner))

def addNew (k : String) (v : Value) (fs : Fields) : Option Fields :=
  if (fs.lookup k).isSome then none else some (fs ++ [(k, v)])

def assign (cur ks : List String) (v : Value) (root : Fields) : Option Fields :=
  match ks.getLast? with
  | none => none
  | some k => Way.header.under (Way.dotted.under (addNew k v) ks.dropLast) cur root

def addTable (ks : List String) (root : Fields) : Option Fields :=
  match ks.getLast? with
  | none => none
  | some k => Way.header.under (fun fs =>
      match fs.lookup k with
      | none => some (fs ++ [(k, .table .header [])])
      | some (.table .implicit sub) => some (setField fs k (.table .header sub))
      | _ => none) ks.dropLast root

def addArrayTable (ks : List String) (root : Fields) : Option Fields :=
  match ks.getLast? with
  | none => none
  | some k => Way.header.under (fun fs =>
      match fs.lookup k with
      | none => some (fs ++ [(k, .array [.table .header []] true)])
      | some (.array items true) => some (setField fs k (.array (items ++ [.table .header []]) true))
      | _ => none) ks.dropLast root

-- Nested values are read with a budget of steps: each step reads at least one character, so a
-- budget of the characters left plus one never runs out first.
mutual
def value : Nat → Reader Value
  | 0, _ => none
  | fuel + 1, cs =>
    match cs with
    | '"' :: '"' :: '"' :: rest => (mlBasicString [] (dropFirstBreak rest)).map fun (s, r) => (.string s, r)
    | '"' :: rest => (basicString [] rest).map fun (s, r) => (.string s, r)
    | '\'' :: '\'' :: '\'' :: rest =>
      (mlLiteralString [] (dropFirstBreak rest)).map fun (s, r) => (.string s, r)
    | '\'' :: rest => (literalString [] rest).map fun (s, r) => (.string s, r)
    | '[' :: rest => arrayItems fuel [] rest
    | '\x7b' :: rest => inlineTable fuel [] rest
    | _ => scalar cs

def arrayItems : Nat → List Value → Reader Value
  | 0, _, _ => none
  | fuel + 1, acc, cs => do
    let cs ← skipArraySpace (cs.length + 1) cs
    match cs with
    | ']' :: rest => pure (.array acc.reverse false, rest)
    | _ =>
      let (v, rest) ← value fuel cs
      let rest ← skipArraySpace (rest.length + 1) rest
      match rest with
      | ',' :: more => arrayItems fuel (v :: acc) more
      | ']' :: more => pure (.array (v :: acc).reverse false, more)
      | _ => none

def inlineTable : Nat → Fields → Reader Value
  | 0, _, _ => none
  | fuel + 1, fields, cs => do
    match ← skipArraySpace (cs.length + 1) cs with
    | '\x7d' :: rest => pure (.table .inline fields, rest)
    | line =>
      let (ks, r) ← dottedKey (line.length + 1) line
      match skipBlanks r with
      | '=' :: r2 =>
        let (v, r3) ← value fuel (skipBlanks r2)
        let fields ← match ks.getLast? with
          | some k => Way.dotted.under (addNew k v) ks.dropLast fields
          | none => none
        match ← skipArraySpace (r3.length + 1) r3 with
        | ',' :: more => inlineTable fuel fields more
        | '\x7d' :: more => pure (.table .inline fields, more)
        | _ => none
      | _ => none
end

def lineEnd (cs : List Char) : Option (List Char) :=
  let afterBreak : List Char → Option (List Char)
    | [] => some []
    | '\n' :: rest => some rest
    | '\r' :: '\n' :: rest => some rest
    | _ => none
  match skipBlanks cs with
  | '#' :: rest => skipComment rest >>= afterBreak
  | rest => afterBreak rest

def statements : Nat → List String → Fields → List Char → Option Fields
  | 0, _, _, _ => none
  | fuel + 1, cur, root, cs =>
    match skipBlanks cs with
    | [] => some root
    | '\n' :: rest => statements fuel cur root rest
    | '\r' :: '\n' :: rest => statements fuel cur root rest
    | '#' :: rest => do statements fuel cur root (← lineEnd ('#' :: rest))
    | '[' :: '[' :: rest => do
      let (ks, r) ← dottedKey (rest.length + 1) (skipBlanks rest)
      match skipBlanks r with
      | ']' :: ']' :: r2 => statements fuel ks (← addArrayTable ks root) (← lineEnd r2)
      | _ => none
    | '[' :: rest => do
      let (ks, r) ← dottedKey (rest.length + 1) (skipBlanks rest)
      match skipBlanks r with
      | ']' :: r2 => statements fuel ks (← addTable ks root) (← lineEnd r2)
      | _ => none
    | line => do
      let (ks, r) ← dottedKey (line.length + 1) line
      match skipBlanks r with
      | '=' :: r2 =>
        let (v, r3) ← value (2 * r2.length + 2) (skipBlanks r2)
        statements fuel cur (← assign cur ks v root) (← lineEnd r3)
      | _ => none

def dropByteOrderMark : List Char → List Char
  | '\uFEFF' :: rest => rest
  | cs => cs

def parse (s : String) : Option Fields :=
  statements (s.length + 1) [] [] (dropByteOrderMark s.toList)

end TagContext.Toml
