import DigitRace.Fault
import DigitRace.Text.Numeral

/-!
# What a value can serve as

A whole number is cut out of a double and read out of a text; comparisons are exact,
whatever the kinds of the two numbers; text and lists give their items.
-/

namespace DigitRace.Value

/-- The whole number that a value stands for. The places of a double behind the point are
dropped, and a text has to be an integer literal. -/
def whole : Value → Except Fault Int
  | flag b => .ok (if b then 1 else 0)
  | int n => .ok n
  | real x =>
    if x.isNaN then .error .notANumber
    else if x.isInf then .error .infinite
    else .ok (Decimal.truncated (Decimal.exact x))
  | text s => match Text.integer? s with
    | some n => .ok n
    | none => .error (.badLiteral s)
  | value => .error (.notNumeric value)

/-- The exact number that a value is. -/
def number : Value → Except Fault Rat
  | flag b => .ok (if b then 1 else 0)
  | int n => .ok n
  | real x => .ok (Decimal.exact x)
  | value => .error (.unsuitable value)

/-- The values that a value is made of: the characters of a text or the items of a list. -/
def items : Value → Except Fault (List Value)
  | text s => .ok (s.toList.map fun c => text c.toString)
  | list items => .ok items
  | value => .error (.unsuitable value)

/-- A number lessened by one. Other values stay as they are. -/
def pred : Value → Value
  | flag b => int (if b then 0 else -1)
  | int n => int (n - 1)
  | real x => real (x - 1)
  | value => value

/-- The smaller of a number and a bound. -/
def atMost (value : Value) (bound : Nat) : Except Fault Value := do
  let q ← value.number
  return if (bound : Rat) < q then int bound else value

@[simp] theorem whole_int (n : Int) : (int n).whole = .ok n := rfl

@[simp] theorem number_int (n : Int) : (int n).number = .ok (n : Rat) := rfl

@[simp] theorem pred_int (n : Int) : (int n).pred = int (n - 1) := rfl

end DigitRace.Value
