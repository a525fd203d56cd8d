/-!
# Plain values

A tick count, a pattern or a circuit may come from outside and hold anything. A
`Value` is what can come: nothing at all, a truth value, a whole number, a double,
a text, or a list of such. The rest of the library asks a value for what it needs
and says why when the value has nothing of that kind.
-/

namespace DigitRace

/-- A plain value from outside. -/
inductive Value where
  | nothing
  | flag (b : Bool)
  | int (n : Int)
  | real (x : Float)
  | text (s : String)
  | list (items : List Value)
  deriving Inhabited, BEq

namespace Value

/-- Nothing, zero and whatever is empty count as false, all else as true. -/
def truthy : Value → Bool
  | nothing => false
  | flag b => b
  | int n => n != 0
  | real x => !(x == 0)
  | text s => !s.isEmpty
  | list items => !items.isEmpty

/-- The whole number that can stand for a place in a sequence: a truth value counts as
0 or 1, and nothing else but a whole number will do. -/
def index? : Value → Option Int
  | flag b => some (if b then 1 else 0)
  | int n => some n
  | _ => none

/-- The word for the kind of a value, as failure texts write it. -/
def kindName : Value → String
  | nothing => "NoneType"
  | flag _ => "bool"
  | int _ => "int"
  | real _ => "float"
  | text _ => "str"
  | list _ => "list"

@[simp] theorem index?_int (n : Int) : (int n).index? = some n := rfl

@[simp] theorem truthy_int (n : Int) : (int n).truthy = (n != 0) := rfl

end Value

end DigitRace
