/-!
# Blanks

The characters that separate words and that stand at the ends of a text without belonging to it.
-/

namespace LogRelay.Text

/-- Whether a character is a blank: the space characters of Unicode, the line and paragraph
separators, and the controls that move the print position or separate records. -/
def isBlank (char : Char) : Bool :=
  let code := char.toNat
  (9 ≤ code && code ≤ 13) || (28 ≤ code && code ≤ 32) || code == 0x85 || code == 0xA0 ||
    code == 0x1680 || (0x2000 ≤ code && code ≤ 0x200A) || code == 0x2028 || code == 0x2029 ||
    code == 0x202F || code == 0x205F || code == 0x3000

/-- Whether a character is a blank that a number may have around it: a space, a tabulator or a
control that ends a line or a page. -/
def isPlainBlank (char : Char) : Bool :=
  char == ' ' || (9 ≤ char.toNat && char.toNat ≤ 13)

/-- Removes the characters of a class from both ends. -/
def trim (isOuter : Char → Bool) (chars : List Char) : List Char :=
  ((chars.dropWhile isOuter).reverse.dropWhile isOuter).reverse

/-- Removes the blanks from both ends of a text. -/
def trimBlanks (text : String) : String :=
  String.ofList (trim isBlank text.toList)

end LogRelay.Text
