namespace TagContext.Text

-- Two sets of blanks: the five ASCII ones end a tag name and split attribute words, and Unicode
-- `White_Space` trims a prefix and measures an indent. Core's `Char.isWhitespace` is neither.
def isAsciiBlank (c : Char) : Bool :=
  c = ' ' || c = '\t' || c = '\n' || c = '\x0C' || c = '\r'

def isBlank (c : Char) : Bool :=
  let n := c.toNat
  (0x09 ≤ n && n ≤ 0x0D) || n = 0x20 || n = 0x85 || n = 0xA0 || n = 0x1680 ||
    (0x2000 ≤ n && n ≤ 0x200A) || n = 0x2028 || n = 0x2029 || n = 0x202F || n = 0x205F ||
    n = 0x3000

def trimStart (s : String) : String := String.ofList (s.toList.dropWhile isBlank)

def trim (s : String) : String :=
  String.ofList ((s.toList.dropWhile isBlank).reverse.dropWhile isBlank).reverse

def leadingBlank (s : String) : String := String.ofList (s.toList.takeWhile isBlank)

def wordsFrom (word : List Char) : List Char → List (List Char)
  | [] => if word.isEmpty then [] else [word.reverse]
  | c :: cs =>
    if isAsciiBlank c then
      if word.isEmpty then wordsFrom [] cs else word.reverse :: wordsFrom [] cs
    else wordsFrom (c :: word) cs

def asciiWords (s : String) : List String := (wordsFrom [] s.toList).map String.ofList

end TagContext.Text
