import DigitRace.Fault

/-!
# The journal

Parts of the game write down what happens, each under its own name and at a level.
-/

namespace DigitRace

/-- How serious a record is. -/
inductive Level where
  | debug
  | info
  | error
  deriving DecidableEq

namespace Level

/-- The level as a word. -/
def name : Level → String
  | debug => "DEBUG"
  | info => "INFO"
  | error => "ERROR"

/-- The level as a number by which records are kept or dropped. -/
def rank : Level → Int
  | debug => 10
  | info => 20
  | error => 40

end Level

/-- One record of the journal. -/
structure Record where
  level : Level
  /-- The part of the game that wrote the record. -/
  source : String
  message : String
  /-- The fault that was caught, if one was. -/
  fault : Option Fault := none

end DigitRace
