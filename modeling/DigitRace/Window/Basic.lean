import DigitRace.Act
import DigitRace.Segment.Pattern
import DigitRace.Settings
import DigitRace.Window.Geometry

/-!
# The window

The window draws the digit and the switch by calls to a drawing library, and turns what
the user does into edges of the key. It remembers the pattern and the position of the
switch, so that it can draw itself again at any time.
-/

namespace DigitRace

/-- A call to the drawing library. -/
inductive Window.Drawing where
  | init
  | quitMixer
  | caption (title : String)
  | setMode (width height : Int)
  | flip
  | quit
  | fill (colour : Window.Colour)
  | polygon (colour : Window.Colour) (points : List Window.Point)
  | circle (colour : Window.Colour) (centre : Window.Point) (radius : Int)
  | rect (colour : Window.Colour) (rect : Window.Rect)
  deriving DecidableEq

/-- What is on the screen: the segments that are lit, and whether the switch is down. -/
structure Window.Frame where
  lit : List Bool
  pressed : Bool
  deriving DecidableEq

/-- What the window runs on. -/
structure Window.Equipment where
  platform : Platform := .desktop
  /-- Whether there is a drawing library. -/
  library : Bool := true
  /-- Whether the library has a mixer. -/
  mixer : Bool := true
  /-- The redraw that fails, counted from 1, if one does. -/
  failingRedraw : Option Int := none

/-- The window of the game. -/
structure Window where
  scale : Int := 1
  equipment : Window.Equipment := {}
  /-- The library was found. -/
  attached : Bool := false
  /-- There is a screen to draw on. -/
  hasScreen : Bool := false
  /-- The window is open. -/
  isOpen : Bool := false
  /-- Something was drawn that is not shown yet. -/
  dirty : Bool := false
  pattern : Value := .text ""
  pressed : Bool := false
  /-- The left mouse button went down on the switch. -/
  mouseHeld : Bool := false
  /-- How often a redraw was begun. -/
  redraws : Nat := 0
  drawings : Array Window.Drawing := #[]
  /-- What the last redraw that was completed has drawn. -/
  drawn : Option Window.Frame := none

namespace Window

/-- What the user does. -/
inductive Event where
  | keyDown (code : Int)
  | keyUp (code : Int)
  | mouseDown (button : Int) (x y : Value)
  | mouseUp (button : Int) (x y : Value)
  /-- The window is to be closed. -/
  | quit
  /-- The window has to be drawn again. -/
  | expose
  | other

/-- The code of the space bar, which is the key of the game. -/
def spaceCode : Int := 32

/-- The code of the key that closes the window. -/
def escapeCode : Int := 27

/-- The mouse button that moves the switch. -/
def leftButton : Int := 1

/-- A window at a scale, which has to stand for a whole number. -/
def new (scale : Value) (equipment : Equipment) : Except Fault Window := do
  return { scale := ← scale.whole, equipment }

/-- Makes a call to the library. -/
def emit (drawing : Drawing) : Act Window Unit :=
  modify fun window => { window with drawings := window.drawings.push drawing }

/-- The colour of a segment. -/
def segmentColour (lit : Bool) : Colour :=
  if lit then segmentOn else segmentOff

/-- Draws all segments, and tells which of them are lit. -/
def drawDigit : Act Window (List Bool) := do
  let window ← get
  let bars ← outlines.mapM fun (id, outline) => do
    let lit ← Segment.lights window.pattern id
    emit (.polygon (segmentColour lit) (outline.map (place window.scale)))
    return lit
  let dot ← Segment.lights window.pattern 'p'
  emit (.circle (segmentColour dot) (place window.scale dotCentre) (dotRadius * window.scale))
  return bars ++ [dot]

/-- Draws the switch. -/
def drawSwitch : Act Window Unit := do
  let window ← get
  emit (.rect switchRim (rimRect window.scale))
  emit (.rect (if window.pressed then switchDown else switchUp)
    (faceRect window.scale window.pressed))

/-- Draws everything anew if there is a screen. -/
def redraw : Act Window Unit := do
  if (← get).hasScreen then
    modify fun window => { window with redraws := window.redraws + 1 }
    let window ← get
    if window.equipment.failingRedraw = some (window.redraws : Int) then throw .drawFailed
    emit (.fill background)
    let lit ← drawDigit
    drawSwitch
    modify fun w => { w with dirty := true, drawn := some { lit, pressed := w.pressed } }

/-- Opens the window and draws it, unless it is open. -/
def start : Act Window Unit := do
  let window ← get
  if !window.isOpen then
    if !window.equipment.library then throw .noLibrary
    modify fun window => { window with attached := true }
    emit .init
    if window.equipment.platform = .browser ∧ window.equipment.mixer then emit .quitMixer
    emit (.caption "Seg Racer")
    emit (.setMode (windowWidth * window.scale) (windowHeight * window.scale))
    modify fun window => { window with hasScreen := true, isOpen := true }
    redraw

/-- Closes the window if it is open. -/
def stop : Act Window Unit := do
  if (← get).isOpen then
    emit .quit
    modify fun window => { window with isOpen := false }

/-- Takes a pattern over and draws it. -/
def showPattern (pattern : Value) : Act Window Unit := do
  modify fun window => { window with pattern }
  redraw

/-- Takes the position of the switch over and draws it. -/
def showSwitch (pressed : Bool) : Act Window Unit := do
  modify fun window => { window with pressed }
  redraw

/-- Brings what was drawn onto the screen. Tells whether there was anything new. -/
def present : Act Window Bool := do
  let window ← get
  if window.hasScreen && window.dirty then
    emit .flip
    modify fun window => { window with dirty := false }
    return true
  else return false

/-- What an event comes to. -/
inductive Response where
  | close
  | edge (pressed : Bool)
  | redraw
  | nothing
  deriving DecidableEq

/-- What an event comes to when the key is down or up. A press is only made while the key is up and
a release only while it is down; the mouse releases only what it has pressed. -/
def respond (keyDown : Bool) (event : Event) : Act Window Response := do
  match event with
  | .quit => return .close
  | .keyDown code =>
    if code = escapeCode then return .close
    else if code = spaceCode ∧ !keyDown then return .edge true
    else return .nothing
  | .keyUp code => return if code = spaceCode ∧ keyDown then .edge false else .nothing
  | .mouseDown button x y =>
    if button = leftButton then
      if (← onSwitch (← get).scale x y) && !keyDown then
        modify fun window => { window with mouseHeld := true }
        return .edge true
    return .nothing
  | .mouseUp button _ _ =>
    if button = leftButton ∧ (← get).mouseHeld then
      modify fun window => { window with mouseHeld := false }
      return if keyDown then .edge false else .nothing
    else return .nothing
  | .expose => return .redraw
  | .other => return .nothing

variable {σ : Type}

/-- Responds to events in turn until one closes the window. Tells whether none did. -/
def respondAll (window : Part σ Window) (keyDown : σ → Bool) (move : Bool → Act σ Unit) :
    List Event → Act σ Bool
  | [] => return true
  | event :: rest => do
    match ← window.run (respond (keyDown (← get)) event) with
    | .close => return false
    | .edge pressed => move pressed
    | .redraw => window.run redraw
    | .nothing => pure ()
    respondAll window keyDown move rest

/-- Responds to the events of the user, if the library was found. Tells whether the window stays. -/
def poll (window : Part σ Window) (keyDown : σ → Bool) (move : Bool → Act σ Unit)
    (events : List Event) : Act σ Bool := do
  if (window.get (← get)).attached then respondAll window keyDown move events
  else return true

end Window

end DigitRace
