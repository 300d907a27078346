import FieldRules.Number.Shortest
import FieldRules.Text.Digit
import FieldRules.Text.Blank

/-! # Float text

Floats are written with the fewest digits that read back. A value whose point position `p`
(the value is `0.d₁d₂… · 10 ^ p`) satisfies `-4 < p ≤ 16` is written positionally and keeps a
`.0` when integral; any other is written as `d.ddd` followed by `e`, a sign and at least two
exponent digits. NaN is `nan` and the infinities `inf` and `-inf`.

Reading is the converse for decimal text: an optional sign, digits with an optional point and
fraction, an optional exponent, digits of any script, single underscores between digits, and
blanks around; or one of the words `inf`, `infinity`, `nan` in any case. The value is the
nearest float, ties to even. -/

namespace FieldRules.Number

/-- The layout of float text: positional for `-4 < p ≤ 16`, exponent as `e+XX`. -/
def FloatLayout.standard : FloatLayout where
  positionalAbove := -4
  positionalUpTo := 16
  exponentMark := "e"
  exponentPlus := true
  exponentDigits := 2
  pointZero := true
  nanText := "nan"
  infText := "inf"

/-- The text of a float. -/
def floatText (x : Float) : String := FloatLayout.standard.render x

/-- Reads a run of digits (underscores allowed between two digits), returning the digit values
  and the rest of the text. -/
def readDigitRun : List Char → List Nat × List Char
  | [] => ([], [])
  | c :: rest =>
    match Text.digitValue? c with
    | none => ([], c :: rest)
    | some d =>
      match rest with
      | '_' :: c' :: rest' =>
        if (Text.digitValue? c').isSome then
          let (ds, r) := readDigitRun (c' :: rest')
          (d :: ds, r)
        else ([d], '_' :: c' :: rest')
      | rest =>
        let (ds, r) := readDigitRun rest
        (d :: ds, r)
termination_by cs => cs.length

/-- The number that a list of decimal digit values denotes. -/
def digitsValue (ds : List Nat) : Nat := ds.foldl (fun acc d => acc * 10 + d) 0

/-- Reads an optional sign. -/
def readSign : List Char → Bool × List Char
  | '-' :: rest => (true, rest)
  | '+' :: rest => (false, rest)
  | cs => (false, cs)

/-- Reads unsigned decimal text: significand digits, scale and what is left. -/
def readUnsignedDecimal (cs : List Char) : Option (Nat × Int × List Char) :=
  let (intDs, rest) := readDigitRun cs
  let (fracDs, rest) := match rest with
    | '.' :: r => readDigitRun r
    | r => ([], r)
  if intDs.isEmpty && fracDs.isEmpty then none
  else
    let mant := digitsValue (intDs ++ fracDs)
    let scale : Int := -Int.ofNat fracDs.length
    match rest with
    | c :: r =>
      if c == 'e' || c == 'E' then
        let (eneg, r) := readSign r
        let (eds, r) := readDigitRun r
        if eds.isEmpty then none
        else
          let ev := Int.ofNat (digitsValue eds)
          some (mant, scale + (if eneg then -ev else ev), r)
      else some (mant, scale, c :: r)
    | [] => some (mant, scale, [])

/-- Lower-cases ASCII letters. -/
def asciiLower (cs : List Char) : List Char := cs.map Char.toLower

/-- Reads float text as described in the module header. -/
def parseFloat? (s : String) : Option Float :=
  let cs := (Text.trimBlank s).toList
  let (neg, body) := readSign cs
  let word := String.ofList (asciiLower body)
  if word == "inf" || word == "infinity" then
    some (if neg then -(1.0 / 0.0) else 1.0 / 0.0)
  else if word == "nan" then some (0.0 / 0.0)
  else
    match readUnsignedDecimal body with
    | some (m, k, []) =>
      let width := Int.ofNat (digitLength m)
      if m == 0 then some (floatOfDecimal neg 0 0)
      else if k + width > 400 then some (if neg then -(1.0 / 0.0) else 1.0 / 0.0)
      else if k + width < -400 then some (floatOfDecimal neg 0 0)
      else some (floatOfDecimal neg m k)
    | _ => none

end FieldRules.Number
