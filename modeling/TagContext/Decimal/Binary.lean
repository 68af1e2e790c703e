namespace TagContext.Decimal

-- Double-precision values as exact numbers: a finite non-negative double is `m × 2 ^ q`, and every
-- comparison multiplies both sides out over the naturals.

-- A decimal number `digits × 10 ^ exp`.
structure Dec where
  digits : Nat
  exp : Int
  deriving Repr, DecidableEq

structure Binary where
  m : Nat
  q : Int
  deriving Repr, DecidableEq

def Dec.num (x : Dec) : Nat := x.digits * Nat.pow 10 x.exp.toNat

def Dec.den (x : Dec) : Nat := Nat.pow 10 (-x.exp).toNat

-- `n / d` rounded to the nearest natural number, a tie going to the even one.
def roundHalfEven (n d : Nat) : Nat :=
  let r := n % d
  if 2 * r < d then n / d
  else if d < 2 * r then n / d + 1
  else if (n / d) % 2 = 0 then n / d else n / d + 1

def powTwoLe (k : Int) (n d : Nat) : Bool :=
  if 0 ≤ k then Nat.pow 2 k.toNat * d ≤ n else d ≤ n * Nat.pow 2 (-k).toNat

-- The greatest `k` with `2 ^ k ≤ n / d`: the binary lengths of `n` and `d` fix it up to one.
def log2Ratio (n d : Nat) : Int :=
  let k : Int := (n.log2 : Int) - d.log2
  if powTwoLe k n d then k else k - 1

def mantissaLimit : Nat := Nat.pow 2 53

-- The double nearest to `x`, a tie going to the even mantissa; none when `x` rounds to `2 ^ 1024`
-- or beyond.
def Dec.toBinary? (x : Dec) : Option Binary :=
  let n := x.num
  let d := x.den
  if n = 0 then some ⟨0, -1074⟩
  else
    let q := max (log2Ratio n d - 52) (-1074)
    let m := if 0 ≤ q then roundHalfEven n (d * Nat.pow 2 q.toNat)
      else roundHalfEven (n * Nat.pow 2 (-q).toNat) d
    -- rounding up to the next power of two moves to the next exponent
    let (m, q) := if m = mantissaLimit then (mantissaLimit / 2, q + 1) else (m, q)
    if 971 < q then none else some ⟨m, q⟩

def cmpScaled (a : Nat) (i : Int) (n : Nat) (j : Int) : Ordering :=
  compare (a * Nat.pow 10 i.toNat * Nat.pow 2 (-j).toNat) (n * Nat.pow 2 j.toNat * Nat.pow 10 (-i).toNat)

-- Whether the decimal `d` reads back as `x`: it lies between the midpoints from `x` to its
-- neighbours, the ends included when `m` is even. Below a power of two with a smaller exponent
-- under it, the neighbour below is half as far as the one above.
def Binary.readsBack (x : Binary) (d : Dec) : Bool :=
  let narrow := x.m = mantissaLimit / 2 && -1074 < x.q
  let lo := if narrow then 4 * x.m - 1 else 4 * x.m - 2
  let hi := 4 * x.m + 2
  let incl := x.m % 2 == 0
  let cl := cmpScaled d.digits d.exp lo (x.q - 2)
  let ch := cmpScaled d.digits d.exp hi (x.q - 2)
  (cl == .gt || (incl && cl == .eq)) && (ch == .lt || (incl && ch == .eq))

end TagContext.Decimal
