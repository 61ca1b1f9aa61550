/-!
# Blanks and lines

Which characters are blank, and how a text falls into lines.
-/

namespace ProviderRouting

/-- The characters with the property White_Space. -/
def isBlank (character : Char) : Bool :=
  let code := character.toNat
  (0x9 ≤ code && code ≤ 0xD) || code == 0x20 || code == 0x85 || code == 0xA0 ||
    code == 0x1680 || (0x2000 ≤ code && code ≤ 0x200A) || code == 0x2028 || code == 0x2029 ||
    code == 0x202F || code == 0x205F || code == 0x3000

/-- The text without the blanks at its ends. -/
def trimBlanks (text : List Char) : List Char :=
  ((text.dropWhile isBlank).reverse.dropWhile isBlank).reverse

/-- The lines of a text without their ends, read from a line begun in reverse. -/
def linesFrom (begun : List Char) : List Char → List (List Char)
  | [] => if begun.isEmpty then [] else [begun.reverse]
  | '\n' :: rest =>
    let line := match begun with
      | '\r' :: before => before.reverse
      | _ => begun.reverse
    line :: linesFrom [] rest
  | character :: rest => linesFrom (character :: begun) rest

/-- The lines of a text.  A line feed ends a line, and a carriage return before it belongs to
the line end; nothing after the last line feed is no line. -/
def textLines (text : String) : List String :=
  (linesFrom [] text.toList).map .ofList

end ProviderRouting
