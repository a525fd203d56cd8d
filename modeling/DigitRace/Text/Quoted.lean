import DigitRace.Text.Block

/-!
# Quoted text

A text is quoted with single quotes, or with double quotes when it holds a single
quote and no double one. The backslash and the quote in use are escaped, and so is
every character that has no printed form.
-/

namespace DigitRace.Text

/-- Blocks of code points outside ASCII that have no printed form: controls, blanks other
than the space, separators, format characters, surrogates and private use. -/
def unprintedBlocks : Blocks :=
  [(0x7f, 0xa0), (0xad, 0xad), (0x600, 0x605), (0x61c, 0x61c), (0x6dd, 0x6dd), (0x70f, 0x70f),
   (0x890, 0x891), (0x8e2, 0x8e2), (0x1680, 0x1680), (0x180e, 0x180e), (0x2000, 0x200f),
   (0x2028, 0x202f), (0x205f, 0x206f), (0x3000, 0x3000), (0xd800, 0xf8ff), (0xfeff, 0xfeff),
   (0xfff9, 0xfffb), (0xfffe, 0xffff), (0x110bd, 0x110bd), (0x110cd, 0x110cd),
   (0x13430, 0x13438), (0x1bca0, 0x1bca3), (0x1d173, 0x1d17a), (0xe0000, 0xe00ff),
   (0xe01f0, 0x10ffff)]

/-- Whether a character is written as itself. -/
def isPrinted (c : Char) : Bool :=
  0x20 ≤ c.toNat && !unprintedBlocks.cover c

/-- The hexadecimal digits of `n`, at least `width` of them. -/
def hexPadded (width n : Nat) : String :=
  let digits := Nat.toDigits 16 n
  String.ofList (List.replicate (width - digits.length) '0' ++ digits)

/-- How one character is written between quotes of the kind `quote`. -/
def escape (quote c : Char) : String :=
  if c == quote || c == '\\' then String.ofList ['\\', c]
  else if c == '\n' then "\\n"
  else if c == '\r' then "\\r"
  else if c == '\t' then "\\t"
  else if isPrinted c then String.singleton c
  else if c.toNat < 0x100 then "\\x" ++ hexPadded 2 c.toNat
  else if c.toNat < 0x10000 then "\\u" ++ hexPadded 4 c.toNat
  else "\\U" ++ hexPadded 8 c.toNat

/-- The quote that a text is written with. -/
def quoteFor (s : String) : Char :=
  if s.toList.contains '\'' && !s.toList.contains '"' then '"' else '\''

/-- A text as it is written inside a message. -/
def quoted (s : String) : String :=
  let quote := quoteFor s
  quote.toString ++ String.join (s.toList.map (escape quote)) ++ quote.toString

end DigitRace.Text
