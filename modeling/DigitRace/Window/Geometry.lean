import DigitRace.Value.Conversion

/-!
# The geometry of the window

The digit fills a box on the left, the switch is a square on the right, and margins are
between and around them. All measures are for scale 1 and are multiplied by the scale;
the rim of the switch alone keeps its width.
-/

namespace DigitRace.Window

/-- A colour by its red, green and blue parts. -/
structure Colour where
  red : Nat
  green : Nat
  blue : Nat
  deriving DecidableEq

/-- The colour behind everything. -/
def background : Colour := ⟨0, 0, 0⟩

/-- The colour of a segment that is lit. -/
def segmentOn : Colour := ⟨255, 0, 0⟩

/-- The colour of a segment that is dark. -/
def segmentOff : Colour := ⟨40, 0, 0⟩

/-- The colour of the face of the switch while it is up. -/
def switchUp : Colour := ⟨128, 128, 128⟩

/-- The colour of the face of the switch while it is down. -/
def switchDown : Colour := ⟨90, 90, 90⟩

/-- The colour of the rim of the switch. -/
def switchRim : Colour := ⟨0, 0, 0⟩

/-- A point of the window. -/
structure Point where
  x : Int
  y : Int
  deriving DecidableEq

/-- A rectangle: its upper left corner, its width and its height. -/
structure Rect where
  x : Int
  y : Int
  width : Int
  height : Int
  deriving DecidableEq

/-- Whether a rectangle covers a point. The right and the lower edge are outside. -/
def Rect.covers (rect : Rect) (x y : Rat) : Bool :=
  rect.x ≤ x && x < (rect.x + rect.width : Int) && rect.y ≤ y && y < (rect.y + rect.height : Int)

/-- The width of the box of the digit. -/
def digitWidth : Int := 210

/-- The height of the box of the digit. -/
def digitHeight : Int := 320

/-- The outlines of the bars inside the box of the digit. -/
def outlines : List (Char × List Point) :=
  [('a', [⟨45, 32⟩, ⟨60, 17⟩, ⟨150, 17⟩, ⟨165, 32⟩, ⟨150, 47⟩, ⟨60, 47⟩]),
   ('b', [⟨169, 36⟩, ⟨184, 51⟩, ⟨184, 141⟩, ⟨169, 156⟩, ⟨154, 141⟩, ⟨154, 51⟩]),
   ('c', [⟨169, 164⟩, ⟨184, 179⟩, ⟨184, 269⟩, ⟨169, 284⟩, ⟨154, 269⟩, ⟨154, 179⟩]),
   ('d', [⟨165, 288⟩, ⟨150, 303⟩, ⟨60, 303⟩, ⟨45, 288⟩, ⟨60, 273⟩, ⟨150, 273⟩]),
   ('e', [⟨41, 284⟩, ⟨26, 269⟩, ⟨26, 179⟩, ⟨41, 164⟩, ⟨56, 179⟩, ⟨56, 269⟩]),
   ('f', [⟨41, 156⟩, ⟨26, 141⟩, ⟨26, 51⟩, ⟨41, 36⟩, ⟨56, 51⟩, ⟨56, 141⟩]),
   ('g', [⟨45, 160⟩, ⟨60, 145⟩, ⟨150, 145⟩, ⟨165, 160⟩, ⟨150, 175⟩, ⟨60, 175⟩])]

/-- The centre of the point inside the box of the digit. -/
def dotCentre : Point := ⟨190, 288⟩

/-- The radius of the point. -/
def dotRadius : Int := 10

/-- The width of the margins. -/
def margin : Int := 20

/-- The side of the square of the switch. -/
def switchSize : Int := 110

/-- The width of the rim of the switch at every scale. -/
def rimWidth : Int := 5

/-- How far the face of the switch gives way when it is down. -/
def switchInset : Int := 2

/-- The width of the window. -/
def windowWidth : Int := digitWidth + switchSize + 3 * margin

/-- The height of the window. -/
def windowHeight : Int := digitHeight + 2 * margin

/-- Where a point of the box of the digit lies in the window. -/
def place (scale : Int) (p : Point) : Point :=
  ⟨(margin + p.x) * scale, (margin + p.y) * scale⟩

/-- The square of the switch. -/
def switchRect (scale : Int) : Rect where
  x := (2 * margin + digitWidth) * scale
  y := (windowHeight - switchSize) / 2 * scale
  width := switchSize * scale
  height := switchSize * scale

/-- The switch with its rim. -/
def rimRect (scale : Int) : Rect :=
  let r := switchRect scale
  ⟨r.x - rimWidth, r.y - rimWidth, r.width + 2 * rimWidth, r.height + 2 * rimWidth⟩

/-- The face of the switch. -/
def faceRect (scale : Int) (pressed : Bool) : Rect :=
  let r := switchRect scale
  let inset := if pressed then switchInset * scale else 0
  ⟨r.x + inset, r.y + inset, r.width - 2 * inset, r.height - 2 * inset⟩

/-- Whether the pointer is on the switch. The upright place is only looked at if the other fits. -/
def onSwitch (scale : Int) (x y : Value) : Except Fault Bool := do
  let r := switchRect scale
  let across ← x.number
  if (r.x : Rat) ≤ across ∧ across < ((r.x + r.width : Int) : Rat) then
    let down ← y.number
    return r.covers across down
  else return false

end DigitRace.Window
