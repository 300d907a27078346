import FieldRules.Number.Shortest
import FieldRules.Text.Printable

/-! # Quoted text

Text written between quotes, as messages show names and values: single quotes unless the text
holds a single quote and no double quote; a backslash, the chosen quote, tab, line feed and
carriage return are escaped, and other characters that are not printable are written as
`\xhh`, `\uhhhh` or `\Uhhhhhhhh`. -/

namespace FieldRules.Text

/-- Lower-case hexadecimal digits of a number, padded to a width. -/
def hexDigits (width : Nat) (n : Nat) : String :=
  Number.padZeros width (String.ofList (Nat.toDigits 16 n))

/-- The escape of one character inside quoted text with quote `q`. -/
def escapeInQuotes (q : Char) (c : Char) : String :=
  if c == '\\' then "\\\\"
  else if c == q then "\\" ++ String.singleton c
  else if c == '\t' then "\\t"
  else if c == '\n' then "\\n"
  else if c == '\r' then "\\r"
  else if isPrintable c then String.singleton c
  else
    let n := c.toNat
    if n < 0x100 then "\\x" ++ hexDigits 2 n
    else if n < 0x10000 then "\\u" ++ hexDigits 4 n
    else "\\U" ++ hexDigits 8 n

/-- The quote that quoted text uses: double only when the text holds a single quote and no
  double quote. -/
def chooseQuote (hasSingle hasDouble : Bool) : Char :=
  if hasSingle && !hasDouble then '"' else '\''

/-- Text written in quotes. -/
def quoteText (s : String) : String :=
  let q := chooseQuote (s.toList.contains '\'') (s.toList.contains '"')
  String.singleton q ++ String.join (s.toList.map (escapeInQuotes q)) ++ String.singleton q

end FieldRules.Text
