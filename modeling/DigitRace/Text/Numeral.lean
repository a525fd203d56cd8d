import DigitRace.Text.Blank

/-!
# Integer literals

A literal is an optional sign and decimal digits of any script, where one underscore
may stand between two digits. Blanks around it are ignored, the four information
separators apart, which no literal admits.
-/

namespace DigitRace.Text

/-- The zeros of all scripts with decimal digits; each is followed by its nine fellows. -/
def decimalZeros : List Nat :=
  [0x30, 0x660, 0x6f0, 0x7c0, 0x966, 0x9e6, 0xa66, 0xae6, 0xb66, 0xbe6, 0xc66, 0xce6, 0xd66,
   0xde6, 0xe50, 0xed0, 0xf20, 0x1040, 0x1090, 0x17e0, 0x1810, 0x1946, 0x19d0, 0x1a80, 0x1a90,
   0x1b50, 0x1bb0, 0x1c40, 0x1c50, 0xa620, 0xa8d0, 0xa900, 0xa9d0, 0xa9f0, 0xaa50, 0xabf0,
   0xff10, 0x104a0, 0x10d30, 0x11066, 0x110f0, 0x11136, 0x111d0, 0x112f0, 0x11450, 0x114d0,
   0x11650, 0x116c0, 0x11730, 0x118e0, 0x11950, 0x11c50, 0x11d50, 0x11da0, 0x16a60, 0x16ac0,
   0x16b50, 0x1d7ce, 0x1d7d8, 0x1d7e2, 0x1d7ec, 0x1d7f6, 0x1e140, 0x1e2f0, 0x1e950, 0x1fbf0]

/-- The worth of a decimal digit of any script. -/
def digit? (c : Char) : Option Nat :=
  (decimalZeros.find? fun first => first ≤ c.toNat && c.toNat < first + 10).map (c.toNat - ·)

/-- Reads digits onto `value`; after an underscore, a digit has to follow. -/
def readDigits (value : Nat) : List Char → Option Nat
  | [] => some value
  | '_' :: c :: rest => (digit? c).bind fun d => readDigits (10 * value + d) rest
  | c :: rest => (digit? c).bind fun d => readDigits (10 * value + d) rest

/-- Reads digits and underscores that begin with a digit. -/
def readMagnitude : List Char → Option Nat
  | [] => none
  | c :: rest => (digit? c).bind fun d => readDigits d rest

/-- Whether a blank may stand beside a literal. -/
def isLiteralBlank (c : Char) : Bool :=
  isBlank c && !(0x1c ≤ c.toNat && c.toNat ≤ 0x1f)

/-- The whole number that a literal stands for. -/
def integer? (s : String) : Option Int :=
  match trim isLiteralBlank s.toList with
  | '-' :: rest => (readMagnitude rest).map fun n => -(n : Int)
  | '+' :: rest => (readMagnitude rest).map fun n => (n : Int)
  | chars => (readMagnitude chars).map fun n => (n : Int)

end DigitRace.Text
