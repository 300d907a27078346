import FieldRules.Number.Binary64

/-! # Shortest decimal digits of a binary64 value

A finite nonzero value `m · 2 ^ e` is written with the fewest significant decimal digits that
read back to it: for `n = 1, 2, …, 17` the value's two neighbours on the grid of `n`-digit
decimals are tested, the first grid with a neighbour that reads back wins, and of two such
neighbours the nearer one, an exact tie going to the even one. Seventeen digits always read
back, so the search ends. The layout of the digits (where positional notation stops, how the
exponent is written) is a separate record, `FloatLayout`. -/

namespace FieldRules.Number

/-- Significant decimal digits `d₁ d₂ … dₙ` and a point position `p`: the value
  `0.d₁d₂…dₙ · 10 ^ p`. -/
structure DecimalDigits where
  digits : List Nat
  point : Int
deriving Repr, BEq, Inhabited

/-- The decimal digits of a natural number, most significant first. -/
def natDigits (n : Nat) : List Nat :=
  if n < 10 then [n] else natDigits (n / 10) ++ [n % 10]
termination_by n
decreasing_by omega

/-- The number of decimal digits of a natural number (one for zero). The binary length gives
  the count to within one: `k` below is at most the decimal logarithm and at least that less
  one. -/
def digitLength (n : Nat) : Nat :=
  let k := n.log2 * 1292913986 / Nat.pow 2 32
  if n < Nat.pow 10 (k + 1) then k + 1 else k + 2

/-- The decimal text of a natural number, splitting a long one into the halves of its digits so
  that the work is a few large divisions rather than one step per digit; `fuel` bounds the depth
  of the splitting. -/
def natTextWith : Nat → Nat → String
  | 0, n => toString n
  | fuel + 1, n =>
    if n < Nat.pow 10 36 then toString n
    else
      let half := digitLength n / 2
      let unit := Nat.pow 10 half
      let lo := natTextWith fuel (n % unit)
      natTextWith fuel (n / unit) ++ String.ofList (List.replicate (half - lo.length) '0') ++ lo

/-- The decimal text of a natural number. -/
def natText (n : Nat) : String := natTextWith 64 n

/-- The decimal text of an integer, with a minus sign when it is negative. -/
def intText (i : Int) : String := if i < 0 then "-" ++ natText i.natAbs else natText i.toNat

/-- Drops trailing zeros of a digit list. -/
def dropTrailingZeros (ds : List Nat) : List Nat :=
  (ds.reverse.dropWhile (· == 0)).reverse

/-- Whether `10 ^ p ≤ num / den`. -/
def powTenLe (p : Int) (num den : Nat) : Bool :=
  if 0 ≤ p then den * Nat.pow 10 p.toNat ≤ num else den ≤ num * Nat.pow 10 (-p).toNat

/-- Climbs from an estimate to the exponent `p` with `10 ^ p ≤ num / den < 10 ^ (p + 1)`,
  in at most `fuel` steps each way. -/
def adjustDecimalExponent (num den : Nat) : Nat → Int → Int
  | 0, p => p
  | fuel + 1, p =>
    if !powTenLe p num den then adjustDecimalExponent num den fuel (p - 1)
    else if powTenLe (p + 1) num den then adjustDecimalExponent num den fuel (p + 1)
    else p

/-- The exponent `p` with `10 ^ p ≤ num / den < 10 ^ (p + 1)`, for `num, den > 0`. -/
def decimalExponent (num den : Nat) : Int :=
  let estimate : Int := Int.ofNat (natDigits num).length - Int.ofNat (natDigits den).length
  adjustDecimalExponent num den 4 estimate

/-- `num / (den · 10 ^ k)` as quotient, remainder and divisor. -/
def quotientAtTen (num den : Nat) (k : Int) : Nat × Nat × Nat :=
  if 0 ≤ k then
    let d := den * Nat.pow 10 k.toNat
    (num / d, num % d, d)
  else
    let n := num * Nat.pow 10 (-k).toNat
    (n / den, n % den, den)

/-- Whether the decimal `c · 10 ^ k` reads back as the value with the given bits. -/
def readsBack (bits c : Nat) (k : Int) : Bool :=
  if 0 ≤ k then nearestBits (c * Nat.pow 10 k.toNat) 1 == bits
  else nearestBits c (Nat.pow 10 (-k).toNat) == bits

/-- The digits chosen on the grid of `n`-digit decimals, if a neighbour there reads back. -/
def gridChoice (num den bits : Nat) (p : Int) (n : Nat) : Option (Nat × Int) :=
  let k := p - Int.ofNat n + 1
  let (q, r, d) := quotientAtTen num den k
  if r == 0 then
    (if readsBack bits q k then some (q, k) else none)
  else
    let lo := readsBack bits q k
    let hi := readsBack bits (q + 1) k
    if lo && hi then
      if 2 * r < d then some (q, k)
      else if 2 * r > d then some (q + 1, k)
      else if q % 2 == 0 then some (q, k) else some (q + 1, k)
    else if lo then some (q, k)
    else if hi then some (q + 1, k)
    else none

/-- Tries the grids of `n, n + 1, …` digits, at most `fuel` of them. -/
def firstGrid (num den bits : Nat) (p : Int) : Nat → Nat → Option (Nat × Int)
  | 0, _ => none
  | fuel + 1, n =>
    match gridChoice num den bits p n with
    | some r => some r
    | none => firstGrid num den bits p fuel (n + 1)

/-- The shortest digits of the positive value `m · 2 ^ e` (for `m > 0`). -/
def shortestDigits (m : Nat) (e : Int) : DecimalDigits :=
  let (num, den) := scaleByTwo m 1 e
  let bits := nearestBits num den
  let p := decimalExponent num den
  match firstGrid num den bits p 17 1 with
  | some (c, k) =>
    let ds := natDigits c
    { digits := dropTrailingZeros ds, point := k + Int.ofNat ds.length }
  | none =>
    let ds := natDigits m
    { digits := dropTrailingZeros ds, point := Int.ofNat ds.length }

/-- How a float is laid out as text once its shortest digits are known. -/
structure FloatLayout where
  /-- Point positions `p` with `positionalAbove < p ≤ positionalUpTo` are positional. -/
  positionalAbove : Int
  positionalUpTo : Int
  /-- The mark before the exponent. -/
  exponentMark : String
  /-- Whether a nonnegative exponent carries a plus sign. -/
  exponentPlus : Bool
  /-- The least number of exponent digits. -/
  exponentDigits : Nat
  /-- Whether an integral positional value ends in `.0`. -/
  pointZero : Bool
  nanText : String
  infText : String

/-- The text of a digit list. -/
def digitText (ds : List Nat) : String :=
  String.ofList (ds.map fun d => Char.ofNat (48 + d))

/-- Pads a text on the left with zeros up to a width. -/
def padZeros (width : Nat) (s : String) : String :=
  String.ofList (List.replicate (width - s.length) '0') ++ s

/-- Lays out shortest digits (without sign) by a layout record. -/
def FloatLayout.digitsText (L : FloatLayout) (d : DecimalDigits) : String :=
  let n := d.digits.length
  if L.positionalAbove < d.point && d.point ≤ L.positionalUpTo then
    if d.point ≤ 0 then
      "0." ++ String.ofList (List.replicate (-d.point).toNat '0') ++ digitText d.digits
    else if d.point.toNat ≥ n then
      digitText d.digits ++ String.ofList (List.replicate (d.point.toNat - n) '0') ++
        (if L.pointZero then ".0" else "")
    else
      digitText (d.digits.take d.point.toNat) ++ "." ++ digitText (d.digits.drop d.point.toNat)
  else
    let x := d.point - 1
    let mant := match d.digits with
      | [] => "0"
      | [a] => digitText [a]
      | a :: rest => digitText [a] ++ "." ++ digitText rest
    let sign := if x < 0 then "-" else if L.exponentPlus then "+" else ""
    mant ++ L.exponentMark ++ sign ++ padZeros L.exponentDigits (toString x.natAbs)

/-- The text of a float under a layout. -/
def FloatLayout.render (L : FloatLayout) (x : Float) : String :=
  match Binary64.ofFloat x with
  | .nan => L.nanText
  | .inf neg => (if neg then "-" else "") ++ L.infText
  | .finite neg m e =>
    let sign := if neg then "-" else ""
    if m == 0 then sign ++ (if L.pointZero then "0.0" else "0")
    else sign ++ L.digitsText (shortestDigits m e)

end FieldRules.Number
