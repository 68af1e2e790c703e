import TagContext.Decimal.Binary

namespace TagContext.Decimal

def decimalLength (n : Nat) : Nat := (Nat.toDigits 10 n).length

def Binary.belowPowTen (x : Binary) (k : Int) : Bool := cmpScaled 1 k x.m x.q == .gt

-- The least `k` with `x < 10 ^ k`: the decimal lengths of the numerator and denominator of `x` fix
-- it up to one.
def Binary.scale (x : Binary) : Int :=
  let num := x.m * Nat.pow 2 x.q.toNat
  let den := Nat.pow 2 (-x.q).toNat
  let k : Int := (decimalLength num : Int) - decimalLength den
  if x.belowPowTen k then k else k + 1

-- The grid point of `10 ^ t` below `x`, and whether `x` lies at or past the midpoint to the one above.
def Binary.neighbours (x : Binary) (t : Int) : Nat × Bool :=
  let num := x.m * Nat.pow 2 x.q.toNat * Nat.pow 10 (-t).toNat
  let den := Nat.pow 2 (-x.q).toNat * Nat.pow 10 t.toNat
  (num / den, den ≤ 2 * (num % den))

def Binary.onGrid (x : Binary) (t : Int) : Option Dec :=
  let (c, upper) := x.neighbours t
  let down : Dec := ⟨c, t⟩
  let up : Dec := ⟨c + 1, t⟩
  match x.readsBack down, x.readsBack up with
  | true, true => some (if upper then up else down)
  | true, false => some down
  | false, true => some up
  | false, false => none

def Binary.exact (x : Binary) : Dec :=
  if 0 ≤ x.q then ⟨x.m * Nat.pow 2 x.q.toNat, 0⟩ else ⟨x.m * Nat.pow 5 (-x.q).toNat, x.q⟩

-- For `10 ^ (k - 1) ≤ x < 10 ^ k` the grids `10 ^ (k - n)` are tried for `n = 1, 2, …, 17` digits:
-- on each only the two neighbours of `x` can read back, and the first grid with a hit wins.
-- Seventeen digits always read back; should none be found, the exact value stands.
def Binary.shortest (x : Binary) : Dec :=
  if x.m = 0 then ⟨0, 0⟩
  else
    let k := x.scale
    match (List.range 17).findSome? fun i => x.onGrid (k - (i + 1 : Nat)) with
    | some d => d
    | none => x.exact

-- Positional notation with no exponent: a point only before a fraction, no trailing zeros after it.
def Dec.positional (negative : Bool) (d : Dec) : String :=
  let sign := if negative then "-" else ""
  let ds := Nat.toDigits 10 d.digits
  if d.digits = 0 then sign ++ "0"
  else
    -- trailing zeros move into the exponent
    let trailing := (ds.reverse.takeWhile (· = '0')).length
    let core := ds.take (ds.length - trailing)
    let exp := d.exp + trailing
    if 0 ≤ exp then sign ++ String.ofList core ++ "".pushn '0' exp.toNat
    else
      let fracLen := (-exp).toNat
      if fracLen < core.length then
        sign ++ String.ofList (core.take (core.length - fracLen)) ++ "." ++
          String.ofList (core.drop (core.length - fracLen))
      else sign ++ "0." ++ "".pushn '0' (fracLen - core.length) ++ String.ofList core

end TagContext.Decimal
