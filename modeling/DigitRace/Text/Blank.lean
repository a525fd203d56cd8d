import DigitRace.Text.Block

/-!
# Blanks around a text

The blank characters are the controls that move the position, the separators
`U+001C` to `U+001F`, and the spaces of every script. `trimBlanks` drops them from
both ends; a caller may spare some of them.
-/

namespace DigitRace.Text

/-- The blocks of blank code points. -/
def blankBlocks : Blocks :=
  [(0x9, 0xd), (0x1c, 0x20), (0x85, 0x85), (0xa0, 0xa0), (0x1680, 0x1680), (0x2000, 0x200a),
   (0x2028, 0x2029), (0x202f, 0x202f), (0x205f, 0x205f), (0x3000, 0x3000)]

/-- Whether a character is blank. -/
def isBlank (c : Char) : Bool :=
  blankBlocks.cover c

/-- The characters without those at either end that satisfy `drop`. -/
def trim (drop : Char → Bool) (s : List Char) : List Char :=
  ((s.dropWhile drop).reverse.dropWhile drop).reverse

/-- A text without the blanks at its ends. -/
def trimBlanks (s : String) : String :=
  String.ofList (trim isBlank s.toList)

end DigitRace.Text
