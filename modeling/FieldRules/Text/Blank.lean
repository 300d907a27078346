/-! # Blank characters

The blank characters are the Unicode whitespace: the ASCII tab, line feed, vertical tab,
form feed and carriage return, the four information separators `U+001C`..`U+001F`, the
space, next line, no-break space, and the space separators, line separator and paragraph
separator of the other blocks. Trimming text, splitting rule text into tokens and the
pattern escape for blanks all use this one class. -/

namespace FieldRules.Text

/-- Whether the character is Unicode whitespace. -/
def isBlank (c : Char) : Bool :=
  let n := c.toNat
  (0x09 ≤ n && n ≤ 0x0D) || (0x1C ≤ n && n ≤ 0x20) || n == 0x85 || n == 0xA0 ||
    n == 0x1680 || (0x2000 ≤ n && n ≤ 0x200A) || n == 0x2028 || n == 0x2029 ||
    n == 0x202F || n == 0x205F || n == 0x3000

/-- Removes blank characters from both ends. -/
def trimBlank (s : String) : String :=
  String.ofList ((s.toList.dropWhile isBlank).reverse.dropWhile isBlank).reverse

end FieldRules.Text
