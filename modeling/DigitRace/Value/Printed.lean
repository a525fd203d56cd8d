import DigitRace.Value
import DigitRace.Decimal.Shortest
import DigitRace.Text.Quoted

/-!
# Values in messages

`printed` writes a value so that its kind shows: texts are quoted and lists bracketed.
`plain` writes it as running text, where a text stands for itself. There may be a limit to
the digits of a whole number that is written; `fits` says which values keep to it.
-/

namespace DigitRace.Value

mutual

/-- A value as it is written inside a message. -/
def printed : Value → String
  | nothing => "None"
  | flag b => if b then "True" else "False"
  | int n => toString n
  | real x => Decimal.text x
  | text s => Text.quoted s
  | list items => "[" ++ ", ".intercalate (printedAll items) ++ "]"

/-- The items of a list as they are written inside it. -/
def printedAll : List Value → List String
  | [] => []
  | item :: items => printed item :: printedAll items

end

mutual

/-- Whether no whole number in a value has more than so many digits. -/
def fits (digits : Nat) : Value → Bool
  | int n => n.natAbs < Nat.pow 10 digits
  | list items => allFit digits items
  | _ => true

/-- Whether no whole number in the items of a list has more than so many digits. -/
def allFit (digits : Nat) : List Value → Bool
  | [] => true
  | item :: items => fits digits item && allFit digits items

end

theorem fits_int {digits : Nat} {n : Int} :
    (int n).fits digits = true ↔ n.natAbs < Nat.pow 10 digits := by
  simp only [fits, decide_eq_true_eq]

/-- A number of one digit fits wherever any number does. -/
theorem fits_of_lt_ten {digits : Nat} {n : Int} (hdigits : 0 < digits) (hn : n.natAbs < 10) :
    (int n).fits digits = true :=
  fits_int.mpr (Nat.lt_of_lt_of_le hn (Nat.le_self_pow (Nat.ne_of_gt hdigits) 10))

/-- A power of ten has one digit more than its exponent says. -/
theorem not_fits_pow (digits : Nat) : (int (Nat.pow 10 digits : Nat)).fits digits = false :=
  Bool.eq_false_iff.mpr fun hfits => Nat.lt_irrefl _ (fits_int.mp hfits)

/-- The digits that a whole number may have to be written, if nothing else is set. -/
def digitLimit : Nat := 4300

/-- A value as running text. -/
def plain : Value → String
  | text s => s
  | value => value.printed

end DigitRace.Value
