namespace TagContext.Text

def width : List Char → Nat
  | [] => 0
  | c :: cs => c.utf8Size + width cs

@[simp] theorem width_nil : width [] = 0 := rfl

@[simp] theorem width_cons (c : Char) (cs : List Char) :
    width (c :: cs) = c.utf8Size + width cs := rfl

@[simp] theorem width_append (xs ys : List Char) : width (xs ++ ys) = width xs + width ys := by
  induction xs with
  | nil => simp
  | cons c cs ih => simp [ih, Nat.add_assoc]

def takeWidth : Nat → List Char → List Char
  | _, [] => []
  | n, c :: cs => if c.utf8Size ≤ n then c :: takeWidth (n - c.utf8Size) cs else []

def dropWidth : Nat → List Char → List Char
  | _, [] => []
  | n, c :: cs => if c.utf8Size ≤ n then dropWidth (n - c.utf8Size) cs else c :: cs

theorem takeWidth_append_dropWidth (n : Nat) (cs : List Char) :
    takeWidth n cs ++ dropWidth n cs = cs := by
  induction cs generalizing n with
  | nil => rfl
  | cons c cs ih =>
    unfold takeWidth dropWidth
    split <;> simp [ih]

theorem width_takeWidth_le (n : Nat) (cs : List Char) : width (takeWidth n cs) ≤ n := by
  induction cs generalizing n with
  | nil => simp [takeWidth]
  | cons c cs ih =>
    unfold takeWidth
    split
    · have := ih (n - c.utf8Size)
      simp only [width_cons]
      omega
    · simp

def column (s : String) (n : Nat) : Nat := width (takeWidth n s.toList)

def columnOfIndex (s : String) (k : Nat) : Nat := width (s.toList.take k)

def upTo (s : String) (n : Nat) : String := String.ofList (takeWidth n s.toList)

def startingAt (s : String) (n : Nat) : String := String.ofList (dropWidth n s.toList)

def slice (s : String) (a b : Nat) : String :=
  String.ofList (takeWidth (b - a) (dropWidth a s.toList))

def occursIn (pat : List Char) : List Char → Bool
  | [] => pat.isEmpty
  | c :: cs => pat.isPrefixOf (c :: cs) || occursIn pat cs

def contains (s pat : String) : Bool := occursIn pat.toList s.toList

end TagContext.Text
