import DigitRace.Circuit.Defect
import DigitRace.Value.Printed

/-!
# Faults

A fault is the cause of a failed operation. `kind` gives the class of the fault and
`message` its wording; both are part of what the journal records.
-/

namespace DigitRace

namespace Circuit.Defect

/-- What an objection quotes of the circuit. -/
def quoted : Defect → List Value
  | badSegment _ value | notInstruction _ value | targetOutOfRange _ value => [value]
  | _ => []

/-- The wording of an objection to a circuit. -/
def wording : Defect → String
  | empty => "empty program"
  | badSegment address segment => s!"address {address}: bad segment {segment.printed}"
  | runsPastEnd address => s!"address {address}: program runs past its end"
  | notInstruction address entry => s!"address {address}: not an instruction: {entry.printed}"
  | targetOutOfRange address target => s!"address {address}: target {target.plain} out of range"
  | endlessJumps address => s!"address {address}: endless jump chain"

/-- What is said in place of a wording that needs a number of too many digits. -/
def tooLong (digits : Nat) : String :=
  s!"Exceeds the limit ({digits} digits) for integer string conversion; " ++
    "use sys.set_int_max_str_digits() to increase the limit"

/-- What is said about a circuit, where there may be a limit to the digits of a whole number that
is written. An objection that quotes a longer one cannot be worded. -/
def message (limit : Option Nat) (defect : Defect) : String :=
  match limit with
  | none => defect.wording
  | some digits =>
    if defect.quoted.all (Value.fits digits) then defect.wording else tooLong digits

end Circuit.Defect

/-- Why an operation failed. -/
inductive Fault where
  /-- A value that is no number and no text was to become a whole number. -/
  | notNumeric (value : Value)
  /-- A value that is no whole number was to stand for an address. -/
  | notAddress (value : Value)
  /-- A value of this kind has no place in the operation. -/
  | unsuitable (value : Value)
  /-- An operation was called with a wrong number of arguments. -/
  | wrongArguments
  /-- A value has no part that the operation asks for. -/
  | lacksPart (part : String)
  /-- An address lies outside the circuit. -/
  | outOfRange
  /-- An opcode has no letter. -/
  | noSuchLetter
  /-- Nothing goes by this name. -/
  | unknownName (name : String)
  /-- A quotient is too large for a double. -/
  | quotientTooLarge
  /-- A whole number is too large for a double. -/
  | tooLargeForDouble
  /-- An infinite double was to become a whole number. -/
  | infinite
  /-- A double that is no number was to become a whole number. -/
  | notANumber
  | divisionByZero
  /-- A text is no integer literal. -/
  | badLiteral (text : String)
  /-- A segment is not among the letters of the display. -/
  | segmentNotFound
  /-- A circuit does not pass the check. -/
  | rejected (defect : Circuit.Defect)
  /-- Jumps go round without reaching an instruction that takes a tick. -/
  | endlessDrive
  /-- There is no loop to wait in. -/
  | noLoop
  /-- The launcher for desktops was used elsewhere. -/
  | desktopOnly (platform : String)
  /-- The drawing library is missing. -/
  | noLibrary
  /-- A redraw failed. -/
  | drawFailed
  /-- A listener failed on purpose. -/
  | raised (kind : String) (text : String)
  deriving BEq

namespace Fault

/-- The class that a fault belongs to. -/
def kind : Fault → String
  | notNumeric _ | notAddress _ | unsuitable _ | wrongArguments => "TypeError"
  | lacksPart _ => "AttributeError"
  | outOfRange | noSuchLetter => "IndexError"
  | unknownName _ => "KeyError"
  | quotientTooLarge | tooLargeForDouble | infinite => "OverflowError"
  | divisionByZero => "ZeroDivisionError"
  | notANumber | badLiteral _ | segmentNotFound | rejected _ => "ValueError"
  | endlessDrive => "RecursionError"
  | noLoop | desktopOnly _ | noLibrary | drawFailed => "RuntimeError"
  | raised kind _ => kind

/-- The wording of a fault. -/
def message : Fault → String
  | notNumeric value =>
    "int() argument must be a string, a bytes-like object or a real number, not "
      ++ Text.quoted value.kindName
  | notAddress value => s!"tuple indices must be integers or slices, not {value.kindName}"
  | unsuitable value => s!"unsuitable value {value.printed}"
  | wrongArguments => "wrong number of arguments"
  | lacksPart part => s!"object has no attribute {Text.quoted part}"
  | outOfRange => "tuple index out of range"
  | noSuchLetter => "string index out of range"
  | unknownName name => name
  | quotientTooLarge => "integer division result too large for a float"
  | tooLargeForDouble => "int too large to convert to float"
  | infinite => "cannot convert float infinity to integer"
  | notANumber => "cannot convert float NaN to integer"
  | divisionByZero => "division by zero"
  | badLiteral text => s!"invalid literal for int() with base 10: {Text.quoted text}"
  | segmentNotFound => "substring not found"
  | rejected defect => defect.message (some Value.digitLimit)
  | endlessDrive => "endless jump chain"
  | noLoop => "no running event loop"
  | desktopOnly platform =>
    s!"This code requires desktop CPython environment. Current platform: {platform}"
  | noLibrary => "PyGame not installed. Install with: pip install pygame"
  | drawFailed => "draw failed"
  | raised _ text => text

/-- A fault as the journal writes it: its class and its wording. The wording of an unknown name is
the name, quoted. -/
def summary (fault : Fault) : String :=
  let text := if fault.kind == "KeyError" then Text.quoted fault.message else fault.message
  s!"{fault.kind}: {text}"

end Fault

end DigitRace
