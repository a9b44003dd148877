import EventHeader.Number.Binary64

/- The shortest decimal text of a floating-point number. Of all decimal numbers
   that are nearer to the number than to any other floating-point number, those
   with the fewest digits are taken, and of these the one nearest to the number
   itself. The text is positional where the point falls within sixteen digits
   after or four zeros before the first digit, and has an exponent elsewhere. -/
namespace EventHeader.Number

/-- A positive decimal number: `digits`, read as `0.d₁d₂…`, times `10 ^ point`. -/
structure Decimal where
  digits : List Char
  point : Int
  deriving DecidableEq, Repr

namespace Binary64

/-- The number of decimal digits before the point of `num / den`, counted below
zero as the zeros that follow the point. -/
def decimalPoint (num den : Nat) : Int :=
  if den ≤ num then (Nat.toDigits 10 (num / den)).length
  else
    let width := (Nat.toDigits 10 (den / num)).length
    if num * Nat.pow 10 (width - 1) = den then 2 - (width : Int) else 1 - (width : Int)

def scaleTen (num den : Nat) (p : Int) : Nat × Nat :=
  if 0 ≤ p then (num, den * Nat.pow 10 p.toNat) else (num * Nat.pow 10 (-p).toNat, den)

/-- What reading a decimal number back needs to know: the number `four * unit` and
the two ends of the interval that is read as it, on a common grid, and whether
the ends belong to the interval. -/
structure Interval where
  low : Nat
  value : Nat
  high : Nat
  den : Nat
  closed : Bool

/-- The interval of a positive number. Below a power of two the neighbour is only
half as far away as above it. -/
def interval (x : Binary64) : Interval :=
  let m := x.mantissa
  let below := if x.fractionBits = 0 ∧ 1 < x.exponentBits then 1 else 2
  let q := x.exponent - 2
  let unit := Nat.pow 2 q.toNat
  ⟨(4 * m - below) * unit, 4 * m * unit, (4 * m + 2) * unit, Nat.pow 2 (-q).toNat, m % 2 == 0⟩

/-- Whether `c * 10 ^ p` lies in an interval. -/
def Interval.contains (i : Interval) (p : Int) (c : Nat) : Bool :=
  let (low, den) := scaleTen i.low i.den p
  let (high, _) := scaleTen i.high i.den p
  if i.closed then low ≤ c * den && c * den ≤ high else low < c * den && c * den < high

/-- The multiples of `10 ^ p` next to the value that lie in the interval: the
nearer one, or the only one. -/
def Interval.onGrid? (i : Interval) (p : Int) : Option Nat :=
  let (value, den) := scaleTen i.value i.den p
  let below := value / den
  let upNearer := 2 * (value % den) > den ∨ (2 * (value % den) = den ∧ below % 2 = 1)
  match i.contains p below, i.contains p (below + 1) with
  | true, true => some (if upNearer then below + 1 else below)
  | true, false => some below
  | false, true => some (below + 1)
  | false, false => none

/-- The first hit among the grids of `used`, `used + 1`, … digits; the finest of
`fuel` grids holds the value closely enough in any case. -/
def Interval.shortest (i : Interval) (point : Int) : Nat → Nat → Nat × Int
  | 0, used => (0, point - used)
  | fuel + 1, used =>
    match i.onGrid? (point - used) with
    | some c => (c, point - used)
    | none => i.shortest point fuel (used + 1)

def trimZeros (ds : List Char) : List Char := (ds.reverse.dropWhile (· == '0')).reverse

/-- The shortest decimal number that is read back as a finite number other than zero. -/
def shortestDecimal (x : Binary64) : Decimal :=
  let i := x.interval
  let (c, p) := i.shortest (decimalPoint i.value i.den) 17 1
  let ds := Nat.toDigits 10 c
  ⟨trimZeros ds, ds.length + p⟩

/-- The exponent of a decimal text: a sign and at least two digits. -/
def exponentText (e : Int) : List Char :=
  let ds := Nat.toDigits 10 e.natAbs
  'e' :: (if e < 0 then '-' else '+') :: (if ds.length < 2 then '0' :: ds else ds)

/-- The text of a decimal number: positional from four zeros after the point to
sixteen digits before it. -/
def Decimal.text (d : Decimal) : List Char :=
  let n := d.digits.length
  if -4 < d.point ∧ d.point ≤ 0 then
    '0' :: '.' :: List.replicate (-d.point).toNat '0' ++ d.digits
  else if 0 < d.point ∧ d.point ≤ 16 then
    let k := d.point.toNat
    if n ≤ k then d.digits ++ List.replicate (k - n) '0' ++ ['.', '0']
    else d.digits.take k ++ '.' :: d.digits.drop k
  else
    match d.digits with
    | [] => []
    | [c] => c :: exponentText (d.point - 1)
    | c :: cs => c :: '.' :: cs ++ exponentText (d.point - 1)

def text (x : Binary64) : String :=
  if x.isNaN then "nan"
  else
    let sign := if x.isNegative then "-" else ""
    if !x.isFinite then sign ++ "inf"
    else if x.mantissa = 0 then sign ++ "0.0"
    else sign ++ String.ofList (Decimal.text x.shortestDecimal)

end Binary64
end EventHeader.Number
