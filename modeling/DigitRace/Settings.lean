import DigitRace.Fault
import DigitRace.Text.Blank
import DigitRace.Text.Case

/-!
# Settings

Two settings come from the environment: the level below which records are dropped, and
the self test to be run in place of the game. The platform decides how the game is
launched.
-/

namespace DigitRace

/-- Where the game runs. -/
inductive Platform where
  | desktop
  | browser
  deriving DecidableEq

namespace Platform

/-- The platform as a word. -/
def name : Platform → String
  | desktop => "desktop"
  | browser => "browser"

/-- Fails anywhere but on a desktop. -/
def requireDesktop : Platform → Except Fault Unit
  | desktop => .ok ()
  | browser => .error (.desktopOnly browser.name)

end Platform

namespace Settings

/-- The ranks of the levels that have a name. -/
def levelRanks : List (String × Int) :=
  [("DEBUG", 10), ("INFO", 20), ("WARNING", 30), ("WARN", 30), ("ERROR", 40), ("CRITICAL", 50),
   ("FATAL", 50), ("NOTSET", 0)]

/-- The rank of an unknown level, and of none. -/
def defaultRank : Int := 20

/-- The rank of the level that a setting names, whatever the case of its letters. -/
def levelRank (setting : Option Value) : Except Fault Int :=
  match setting with
  | none => .ok defaultRank
  | some (.text s) =>
    .ok ((levelRanks.lookup (Text.toAsciiCapitals (Text.trimBlanks s))).getD defaultRank)
  | some _ => .error (.lacksPart "strip")

/-- The name of the self test that a setting asks for, in small letters, if it asks for one. -/
def testName (setting : Option Value) : Except Fault (Option String) :=
  match setting with
  | none => .ok none
  | some (.text s) =>
    let name := Text.toSmall (Text.trimBlanks s)
    .ok (if name.isEmpty then none else some name)
  | some _ => .error (.lacksPart "strip")

end Settings

end DigitRace
