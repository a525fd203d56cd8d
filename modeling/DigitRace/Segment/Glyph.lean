import DigitRace.Segment.Pattern

/-!
# Glyphs

The pattern that draws a character. Ten digits, the letters and three signs have a
glyph; letters that seven bars cannot render, and all other characters, are blank.
-/

namespace DigitRace.Glyph

/-- The digits from 0 on. -/
def digits : List String :=
  ["abcdef", "bc", "abdeg", "abcdg", "bcfg", "acdfg", "acdefg", "abc", "abcdefg", "abcdfg"]

/-- The capital letters from A on. -/
def capitals : List String :=
  ["abcefg", "cdefg", "adef", "bcdeg", "adefg", "aefg", "acdef", "bcefg", "ef", "bcde", "", "def",
   "abcef", "ceg", "abcdef", "abefg", "abcfg", "eg", "acdfg", "defg", "bcdef", "", "", "", "bcdfg",
   ""]

/-- The small letters from a on. -/
def smalls : List String :=
  ["abcefg", "cdefg", "deg", "bcdeg", "adefg", "aefg", "acdef", "cefg", "e", "bcde", "", "def",
   "abcef", "ceg", "cdeg", "abefg", "abcfg", "eg", "acdfg", "defg", "cde", "", "", "", "bcdfg", ""]

/-- The ranges of characters that have a row of glyphs, each with its row. -/
def rows : List (Char × Char × List String) :=
  [('0', '9', digits), ('A', 'Z', capitals), ('a', 'z', smalls)]

/-- The glyphs of the signs. -/
def sign : Char → String
  | '-' => "g"
  | '_' => "d"
  | '.' => "p"
  | _ => ""

/-- The glyph of a character. -/
def ofChar (c : Char) : String :=
  match rows.find? fun (first, last, _) => first ≤ c && c ≤ last with
  | some (first, _, row) => (row[c.toNat - first.toNat]?).getD ""
  | none => sign c

/-- The glyph of the first character of a text, blank for the empty text. -/
def ofText (s : String) : String :=
  match s.toList with
  | [] => ""
  | c :: _ => ofChar c

/-- The glyph of a text that stands where a single character belongs. A longer text is refused if
it sorts into one of the rows, and blank otherwise. -/
def ofItem : Value → Except Fault String
  | .text s => match s.toList with
    | [] => .ok ""
    | [c] => .ok (ofChar c)
    | c :: _ :: _ =>
      if rows.any fun (first, last, _) => first ≤ c && c < last then .error (.unsuitable (.text s))
      else .ok ""
  | other => .error (.unsuitable other)

/-- The glyph of whatever is given as a character. A list stands for its first item, and a value
that counts as false is blank. -/
def ofValue (value : Value) : Except Fault String :=
  if !value.truthy then .ok ""
  else match value with
    | .text s => .ok (ofText s)
    | .list (item :: _) => ofItem item
    | other => .error (.unsuitable other)

end DigitRace.Glyph
