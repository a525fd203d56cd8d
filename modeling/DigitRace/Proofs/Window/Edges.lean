import DigitRace.Proofs.Window.Redraw
import DigitRace.Window.Bench
import Mathlib.Data.List.Chain
import Mathlib.Data.List.Infix

/-!
# Edges from two hands

The space bar and the left mouse button move one key. The window makes an edge only when the
key is in the other position, and remembers of the mouse only that it has pressed the switch.
The edges that the key receives alternate all the same, and a key that is down is held by one hand
or the other. The edges are those of the program itself, which is run with someone watching what is
done to the key.
-/

namespace DigitRace

open Act

/-- Where the hands of a user have left the key and the mouse, and how large the window is. -/
structure Grip where
  down : Bool
  mouseHeld : Bool
  scale : Int

/-- The grip on a key and a window. -/
def Grip.on {σ ι υ : Type} (window : Part σ Window) (key : Part σ (Key ι υ)) (s : σ) : Grip where
  down := (key.get s).pressed
  mouseHeld := (window.get s).mouseHeld
  scale := (window.get s).scale

/-- A window and a key in a larger state, and what is done by those who are told of an edge. They
may do whatever they like, but they leave the grip of the user alone. -/
structure Desk (σ ι υ : Type) where
  window : Part σ Window
  key : Part σ (Key ι υ)
  update : υ → Bool → Act σ Unit
  tell : ι → Bool → Act σ Unit
  window_put : ∀ w s, window.get (window.put w s) = w
  window_key : ∀ k s, window.get (key.put k s) = window.get s
  key_put : ∀ k s, key.get (key.put k s) = k
  key_window : ∀ w s, key.get (window.put w s) = key.get s
  update_still : ∀ updater pressed grip,
    Keeps (fun s => Grip.on window key s = grip) (update updater pressed)
  tell_still : ∀ listener pressed grip,
    Keeps (fun s => Grip.on window key s = grip) (tell listener pressed)

/-- A state, and the edges that the key has received so far. -/
structure Watched (σ : Type) where
  state : σ
  received : List Bool := []

/-- An event that was handled, and the edges that the key received meanwhile. -/
structure Stroke where
  event : Window.Event
  received : List Bool

/-- Where an event leaves the space bar, if it moves it. -/
def Window.Event.spaceBar : Window.Event → Option Bool
  | .keyDown code => if code = spaceCode then some true else none
  | .keyUp code => if code = spaceCode then some false else none
  | _ => none

/-- Where an event leaves the left mouse button, if it moves it. -/
def Window.Event.leftMouse : Window.Event → Option Bool
  | .mouseDown button _ _ => if button = leftButton then some true else none
  | .mouseUp button _ _ => if button = leftButton then some false else none
  | _ => none

namespace Stroke

/-- The edges that the key has received, in their order. -/
def edges (past : List Stroke) : List Bool :=
  past.flatMap received

/-- The space bar was moved last when it went down. -/
def SpaceHeld (past : List Stroke) : Prop :=
  (past.filterMap fun stroke => stroke.event.spaceBar).getLast? = some true

/-- The left mouse button was moved last when it went down. -/
def LeftHeld (past : List Stroke) : Prop :=
  (past.filterMap fun stroke => stroke.event.leftMouse).getLast? = some true

/-- Since the left mouse button came up last, it went down on the switch and pressed the key. -/
def Clicked (scale : Int) (past : List Stroke) : Prop :=
  ∃ before after x y, past = before ++ ⟨.mouseDown Window.leftButton x y, [true]⟩ :: after ∧
    Window.onSwitch scale x y = .ok true ∧
    ∀ stroke ∈ after, stroke.event.leftMouse ≠ some false

theorem edges_concat (past : List Stroke) (stroke : Stroke) :
    edges (past ++ [stroke]) = edges past ++ stroke.received := by
  simp [edges]

/-- An event that does not move the space bar leaves it where it was. -/
theorem spaceHeld_concat {past : List Stroke} {stroke : Stroke}
    (h : stroke.event.spaceBar = none) : SpaceHeld (past ++ [stroke]) ↔ SpaceHeld past := by
  simp [SpaceHeld, h]

/-- An event that moves the space bar decides whether it is held. -/
theorem spaceHeld_concat_some {past : List Stroke} {stroke : Stroke} {down : Bool}
    (h : stroke.event.spaceBar = some down) : SpaceHeld (past ++ [stroke]) ↔ down = true := by
  simp [SpaceHeld, h]

theorem Clicked.concat {scale : Int} {past : List Stroke} (h : Clicked scale past) {stroke : Stroke}
    (hleft : stroke.event.leftMouse ≠ some false) : Clicked scale (past ++ [stroke]) := by
  obtain ⟨before, after, x, y, rfl, hswitch, hafter⟩ := h
  refine ⟨before, after ++ [stroke], x, y, by simp, hswitch, fun later hmem => ?_⟩
  rcases List.mem_append.mp hmem with hbefore | hlast
  · exact hafter later hbefore
  · rw [List.mem_singleton.mp hlast]
    exact hleft

/-- A button that has pressed the key since it came up last is down. -/
theorem Clicked.leftHeld {scale : Int} {past : List Stroke} (h : Clicked scale past) :
    LeftHeld past := by
  obtain ⟨before, after, x, y, rfl, -, hafter⟩ := h
  have hmoves : ∀ moves : List Bool, (∀ move ∈ moves, move = true) →
      (true :: moves).getLast? = some true := by
    intro moves hmoves
    rw [List.getLast?_eq_some_getLast (List.cons_ne_nil _ _)]
    have hlast := List.getLast_mem (List.cons_ne_nil true moves)
    rcases List.mem_cons.mp hlast with hfirst | hlater
    · rw [hfirst]
    · rw [hmoves _ hlater]
  have hdown : ∀ move ∈ after.filterMap fun stroke => stroke.event.leftMouse, move = true := by
    intro move hmem
    obtain ⟨stroke, hstroke, hmove⟩ := List.mem_filterMap.mp hmem
    have hnot := hafter stroke hstroke
    cases move with
    | true => rfl
    | false => exact absurd hmove hnot
  have hclick := hmoves _ hdown
  simpa [LeftHeld, List.filterMap_append, Window.Event.leftMouse, List.getLast?_append] using hclick

end Stroke

namespace Window

/-- The edge that a response asks for. -/
def Response.edge? : Response → Option Bool
  | .edge pressed => some pressed
  | .close | .redraw | .nothing => none

/-- The edge that an event makes of a key that is up or down. -/
def edge? (keyDown : Bool) (event : Event) (window : Window) : Option Bool :=
  ((respond keyDown event).result window).1.toOption.bind Response.edge?

/-- The window after its response to an event. -/
def responded (keyDown : Bool) (event : Event) (window : Window) : Window :=
  ((respond keyDown event).result window).2

/-- All that an event can do to a window: the edge that it makes, and the window after it. -/
inductive Answers (keyDown : Bool) (window : Window) : Event → Option Bool → Window → Prop
  /-- The space bar presses a key that is up. -/
  | press : keyDown = false → Answers keyDown window (.keyDown spaceCode) (some true) window
  /-- The space bar releases a key that is down, whoever has pressed it. -/
  | release : keyDown = true → Answers keyDown window (.keyUp spaceCode) (some false) window
  /-- The mouse presses a key that is up. -/
  | click {x y : Value} : keyDown = false → onSwitch window.scale x y = .ok true →
      Answers keyDown window (.mouseDown leftButton x y) (some true)
        { window with mouseHeld := true }
  /-- The mouse releases what it has pressed, if the space bar has not done so before. -/
  | letGo {x y : Value} : window.mouseHeld = true →
      Answers keyDown window (.mouseUp leftButton x y) (if keyDown then some false else none)
        { window with mouseHeld := false }
  /-- An event that comes to no edge releases nothing that is held. -/
  | idle {event : Event} : (event.spaceBar = some false → keyDown = false) →
      (event.leftMouse = some false → window.mouseHeld = false) →
      Answers keyDown window event none window

variable {keyDown : Bool} {event : Event} {window after : Window}

/-- An answer that a response gives. -/
theorem Answers.of_ok (response : Response) (h : respond keyDown event window = .ok response after)
    (hanswer : Answers keyDown window event response.edge? after) :
    Answers keyDown window event (edge? keyDown event window) (responded keyDown event window) := by
  simpa [edge?, responded, result_of_ok h, Except.toOption] using hanswer

/-- The mouse comes to a press where it goes down on the switch of a key that is up. -/
private theorem answers_mouseDown (keyDown : Bool) (button : Int) (x y : Value) (window : Window) :
    Answers keyDown window (.mouseDown button x y)
      (edge? keyDown (.mouseDown button x y) window)
      (responded keyDown (.mouseDown button x y) window) := by
  have hidle : Answers keyDown window (.mouseDown button x y) none window :=
    .idle (by simp [Event.spaceBar]) (by simp [Event.leftMouse])
  by_cases hleft : button = leftButton
  · subst hleft
    cases hswitch : onSwitch window.scale x y with
    | error fault =>
      have hfault : respond keyDown (.mouseDown leftButton x y) window = .error fault window := by
        simp [respond, hswitch]
      simpa [edge?, responded, result_of_error hfault, Except.toOption] using hidle
    | ok covered =>
      by_cases hclick : (covered && !keyDown) = true
      · obtain ⟨rfl, hup⟩ : covered = true ∧ keyDown = false := by simpa using hclick
        exact .of_ok (.edge true) (by simp [respond, hswitch, hup])
          (.click hup hswitch)
      · refine .of_ok .nothing ?_ hidle
        cases covered <;> cases keyDown <;> simp_all [respond]
  · exact .of_ok .nothing (by simp [respond, hleft]) hidle

/-- Whatever happens is one of the answers. -/
theorem answers (keyDown : Bool) (event : Event) (window : Window) :
    Answers keyDown window event (edge? keyDown event window) (responded keyDown event window) := by
  cases event with
  | keyDown code =>
    have hidle : Answers keyDown window (.keyDown code) none window :=
      .idle (by simp [Event.spaceBar]) (by simp [Event.leftMouse])
    by_cases hescape : code = escapeCode
    · exact .of_ok .close (by simp [respond, hescape]) hidle
    by_cases hpress : code = spaceCode ∧ (!keyDown) = true
    · obtain ⟨rfl, hup⟩ := hpress
      exact .of_ok (.edge true) (by simp [respond, hescape, hup])
        (.press (by simpa using hup))
    · refine .of_ok .nothing ?_ hidle
      simp only [respond, if_neg hescape, if_neg hpress]
      rfl
  | keyUp code =>
    by_cases hrelease : code = spaceCode ∧ keyDown = true
    · obtain ⟨rfl, hdown⟩ := hrelease
      exact .of_ok (.edge false) (by simp [respond, hdown]) (.release hdown)
    · refine .of_ok .nothing (by simp [respond, if_neg hrelease]) (.idle ?_ ?_)
      · simpa [Event.spaceBar] using hrelease
      · simp [Event.leftMouse]
  | mouseDown button x y => exact answers_mouseDown keyDown button x y window
  | mouseUp button x y =>
    by_cases hrelease : button = leftButton ∧ window.mouseHeld = true
    · obtain ⟨rfl, hheld⟩ := hrelease
      have hletGo : Answers keyDown window (.mouseUp leftButton x y) _ _ := .letGo hheld
      refine .of_ok (if keyDown then .edge false else .nothing) (by simp [respond, hheld]; rfl) ?_
      cases keyDown <;> exact hletGo
    · refine .of_ok .nothing ?_ (.idle ?_ ?_)
      · simp [respond, if_neg hrelease]
      · simp [Event.spaceBar]
      · simpa [Event.leftMouse] using hrelease
  | quit => exact .of_ok .close rfl (.idle nofun nofun)
  | expose => exact .of_ok .redraw rfl (.idle nofun nofun)
  | other => exact .of_ok .nothing rfl (.idle nofun nofun)

/-- Events are handled one after the other, up to one that closes the window or stops with a
fault. -/
theorem respondAll_cons {σ : Type} {window : Part σ Window} {keyDown : σ → Bool}
    {move : Bool → Act σ Unit} (event : Event) (rest : List Event) (s : σ) :
    respondAll window keyDown move (event :: rest) s =
      match respondAll window keyDown move [event] s with
      | .ok true s' => respondAll window keyDown move rest s'
      | .ok false s' => .ok false s'
      | .error fault s' => .error fault s' := by
  simp only [respondAll, bind_apply, get_apply, run_apply]
  cases respond (keyDown s) event (window.get s) with
  | error fault w => rfl
  | ok response w =>
    cases response with
    | close | nothing => rfl
    | edge pressed =>
      simp only [bind_apply]
      cases move pressed (window.put w s) <;> rfl
    | redraw =>
      simp only [bind_apply]
      cases window.run redraw (window.put w s) <;> rfl

section

variable {σ : Type} {window : Part σ Window} {keyDown : σ → Bool} {move : Bool → Act σ Unit}
  {event : Event} {s s' : σ}

/-- After an event that leaves the window open the others are handled. -/
theorem result_respondAll_cons (h : (respondAll window keyDown move [event]).result s =
      (.ok true, s')) (rest : List Event) :
    (respondAll window keyDown move (event :: rest)).result s =
      (respondAll window keyDown move rest).result s' := by
  have hfirst := of_result_ok h
  unfold result
  rw [respondAll_cons, hfirst]

/-- After any other event none is. -/
theorem result_respondAll_stop {outcome : Except Fault Bool}
    (h : (respondAll window keyDown move [event]).result s = (outcome, s'))
    (hstop : outcome ≠ .ok true) (rest : List Event) :
    (respondAll window keyDown move (event :: rest)).result s = (outcome, s') := by
  unfold result
  rw [respondAll_cons]
  cases outcome with
  | error fault => rw [of_result_error h]
  | ok stays =>
    cases stays with
    | true => exact absurd rfl hstop
    | false => rw [of_result_ok h]

end

end Window

namespace Desk

variable {σ ι υ : Type} (desk : Desk σ ι υ)

/-- The key is down. -/
def down (s : σ) : Bool :=
  (desk.key.get s).pressed

/-- Moves the key and tells of the edge. -/
def move (pressed : Bool) : Act σ Unit :=
  Key.edge desk.key desk.update desk.tell pressed

/-- Responds to the events of the user. -/
def poll (events : List Window.Event) : Act σ Bool :=
  Window.poll desk.window desk.down desk.move events

/-- Responds to an event. Tells whether the window stays open. -/
def handle (event : Window.Event) : Act σ Bool :=
  Window.respondAll desk.window desk.down desk.move [event]

/-- The state of a watched desk. -/
def stateOf : Part (Watched σ) σ where
  get := Watched.state
  put state watched := { watched with state }

/-- The window of a watched desk. -/
def watchedWindow : Part (Watched σ) Window where
  get watched := desk.window.get watched.state
  put window watched := { watched with state := desk.window.put window watched.state }

/-- Moves the key of a watched desk: the key receives the edge. -/
def receive (pressed : Bool) : Act (Watched σ) Unit := do
  modify fun watched => { watched with received := watched.received ++ [pressed] }
  stateOf.run (desk.move pressed)

/-- Handles events at a watched desk, up to one that closes the window. -/
def respondWatched (events : List Window.Event) : Act (Watched σ) Bool :=
  Window.respondAll desk.watchedWindow (fun watched => desk.down watched.state) desk.receive events

/-- Responds to the events of the user at a watched desk. -/
def pollWatched (events : List Window.Event) : Act (Watched σ) Bool :=
  Window.poll desk.watchedWindow (fun watched => desk.down watched.state) desk.receive events

/-- An event that is handled in some state, and the edges that the key receives there. -/
def strokeAt (s : σ) (event : Window.Event) : Stroke where
  event
  received := ((desk.respondWatched [event]).result { state := s }).2.received

/-- From a state on, events were handled one after the other. -/
inductive Strikes (first : σ) : List Stroke → σ → Prop
  | start : Strikes first [] first
  | stroke {past : List Stroke} {s : σ} (event : Window.Event) : Strikes first past s →
      Strikes first (past ++ [desk.strokeAt s event]) ((desk.handle event).result s).2

/-- The events that are handled of those that are given, up to one that closes the window or stops
with a fault. -/
def strokes : List Window.Event → σ → List Stroke
  | [], _ => []
  | event :: rest, s =>
    desk.strokeAt s event ::
      match (desk.handle event).result s with
      | (.ok true, s') => strokes rest s'
      | _ => []

/-- What is handled when the user is attended to: nothing as long as there is no library. -/
def handled (events : List Window.Event) (s : σ) : List Stroke :=
  if (desk.window.get s).attached then desk.strokes events s else []

/-- The state after the user was attended to, once for each list of events. -/
def afterPolls : List (List Window.Event) → σ → σ
  | [], s => s
  | events :: rest, s => afterPolls rest ((desk.poll events).result s).2

/-- A watched desk after the same. -/
def afterPollsWatched : List (List Window.Event) → Watched σ → Watched σ
  | [], watched => watched
  | events :: rest, watched => afterPollsWatched rest ((desk.pollWatched events).result watched).2

/-- All that was handled meanwhile. -/
def history : List (List Window.Event) → σ → List Stroke
  | [], _ => []
  | events :: rest, s => desk.handled events s ++ history rest ((desk.poll events).result s).2

/-! ## What becomes of the grip -/

/-- The grip on the key and the window of a desk. -/
def grip (s : σ) : Grip :=
  Grip.on desk.window desk.key s

variable {desk} {s : σ}

theorem grip_put (w : Window) (s : σ) :
    desk.grip (desk.window.put w s) = ⟨desk.down s, w.mouseHeld, w.scale⟩ := by
  simp only [grip, Grip.on, desk.window_put, desk.key_window, down]

/-- Whoever is told of an edge, the key stays where the edge has put it. -/
theorem grip_move (pressed : Bool) (s : σ) :
    desk.grip ((desk.move pressed).result s).2 = { desk.grip s with down := pressed } := by
  let moved (s' : σ) : Prop :=
    Grip.on desk.window desk.key s' = { desk.grip s with down := pressed }
  have hlisteners : Keeps moved (do
      (desk.key.get (← get)).listeners.forM fun listener => desk.tell listener pressed) :=
    .get_bind fun s' => Keeps.forM _ (fun listener _ => desk.tell_still listener pressed _) s'
  change moved ((desk.move pressed).result s).2
  unfold move Key.edge
  refine Keeps.update_bind (?_ : Keeps moved _) ?_
  · refine .get_bind fun s' => ?_
    split
    · exact ((desk.update_still _ _ _).bind fun _ => hlisteners) s'
    · exact hlisteners s'
  · simp only [moved, grip, Grip.on, desk.key_put, desk.window_key]

/-- The answer to an act does not change the state that the act has left. -/
theorem result_answer {act : Act σ Unit} {handled : Act σ Bool} {s' : σ}
    (h : handled s = (do act; return true : Act σ Bool) s') :
    (handled.result s).2 = (act.result s').2 := by
  rw [bind_apply] at h
  cases hact : act s' with
  | ok _ after =>
    rw [result_of_ok hact, result_of_ok (h.trans (by rw [hact]; rfl))]
  | error fault after =>
    rw [result_of_error hact, result_of_error (h.trans (by rw [hact]))]

theorem redraw_still (grip : Grip) :
    Keeps (fun s => desk.grip s = grip) (desk.window.run Window.redraw) := by
  have hstill : Window.Steadfast fun w => w.mouseHeld = grip.mouseHeld ∧ w.scale = grip.scale :=
    ⟨fun _ _ _ _ h => h, fun _ _ _ h => h⟩
  refine .run fun s hs => ?_
  obtain rfl := hs
  obtain ⟨hheld, hscale⟩ := hstill.keeps_redraw (desk.window.get s) ⟨rfl, rfl⟩
  rw [grip_put, hheld, hscale]
  rfl

/-- After an event the key is where the edge has put it, if there was one, and of the window only
the answer is seen. -/
theorem grip_handle (event : Window.Event) (s : σ) :
    desk.grip ((desk.handle event).result s).2 =
      ⟨(Window.edge? (desk.down s) event (desk.window.get s)).getD (desk.down s),
        (Window.responded (desk.down s) event (desk.window.get s)).mouseHeld,
        (Window.responded (desk.down s) event (desk.window.get s)).scale⟩ := by
  simp only [Window.edge?, Window.responded]
  cases hrespond : Window.respond (desk.down s) event (desk.window.get s) with
  | error fault w =>
    have hhandle : desk.handle event s = .error fault (desk.window.put w s) := by
      simp [handle, Window.respondAll, hrespond]
    rw [result_of_error hrespond, result_of_error hhandle, grip_put]
    rfl
  | ok response w =>
    rw [result_of_ok hrespond]
    have hstill (answer : Bool) (h : desk.handle event s = .ok answer (desk.window.put w s)) :
        desk.grip ((desk.handle event).result s).2 = ⟨desk.down s, w.mouseHeld, w.scale⟩ := by
      rw [result_of_ok h, grip_put]
    cases response with
    | close => exact hstill false (by simp [handle, Window.respondAll, hrespond])
    | nothing => exact hstill true (by simp [handle, Window.respondAll, hrespond])
    | edge pressed =>
      have hhandle : desk.handle event s =
          (do desk.move pressed; return true : Act σ Bool) (desk.window.put w s) := by
        simp [handle, Window.respondAll, hrespond]
      rw [result_answer hhandle, grip_move, grip_put]
      rfl
    | redraw =>
      have hhandle : desk.handle event s =
          (do desk.window.run Window.redraw; return true : Act σ Bool) (desk.window.put w s) := by
        simp [handle, Window.respondAll, hrespond]
      rw [result_answer hhandle]
      exact redraw_still _ _ (grip_put w s)

/-! ## What the key receives -/

/-- Nobody notices that a desk is watched while it handles an event, and the key receives the edge
that the window makes, if it makes one. -/
theorem result_respondWatched_singleton (event : Window.Event) (s : σ) (received : List Bool) :
    (desk.respondWatched [event]).result ⟨s, received⟩ =
      (((desk.handle event).result s).1, ⟨((desk.handle event).result s).2,
        received ++ (Window.edge? (desk.down s) event (desk.window.get s)).toList⟩) := by
  simp only [Window.edge?]
  cases hrespond : Window.respond (desk.down s) event (desk.window.get s) with
  | error fault w =>
    simp [handle, respondWatched, Window.respondAll, watchedWindow, hrespond, result,
      Except.toOption]
  | ok response w =>
    cases response with
    | close | nothing =>
      simp [handle, respondWatched, Window.respondAll, watchedWindow, hrespond, result,
        Except.toOption, Window.Response.edge?]
    | edge pressed =>
      cases hmove : desk.move pressed (desk.window.put w s) <;>
        simp [handle, respondWatched, Window.respondAll, watchedWindow, receive, stateOf, hrespond,
          result, hmove, Except.toOption, Window.Response.edge?]
    | redraw =>
      cases hredraw : Window.redraw (desk.window.get (desk.window.put w s)) <;>
        simp [handle, respondWatched, Window.respondAll, watchedWindow, hrespond,
          result, hredraw, Except.toOption, Window.Response.edge?]

theorem strokeAt_eq (s : σ) (event : Window.Event) : desk.strokeAt s event =
    ⟨event, (Window.edge? (desk.down s) event (desk.window.get s)).toList⟩ := by
  simp [strokeAt, result_respondWatched_singleton]

/-! ## The hands on the key -/

variable {past : List Stroke}

/-- The edges have alternated so far, the key is where the last one has put it, and if it is down,
the space bar is down or the mouse has pressed the switch and not let it go since. -/
structure Held (scale : Int) (past : List Stroke) (grip : Grip) : Prop where
  scale_eq : grip.scale = scale
  alternate : (false :: Stroke.edges past).IsChain (· ≠ ·)
  last : (false :: Stroke.edges past).getLast? = some grip.down
  hands : grip.down = true →
    Stroke.SpaceHeld past ∨ Stroke.Clicked scale past ∧ grip.mouseHeld = true

/-- An edge that puts the key into the other position goes on with the alternation. -/
theorem Held.alternate_concat {scale : Int} {grip : Grip} (h : Held scale past grip)
    (event : Window.Event) (pressed : Bool) (hother : pressed ≠ grip.down) :
    (false :: Stroke.edges (past ++ [⟨event, [pressed]⟩])).IsChain (· ≠ ·) ∧
      (false :: Stroke.edges (past ++ [⟨event, [pressed]⟩])).getLast? = some pressed := by
  have hedges : false :: Stroke.edges (past ++ [⟨event, [pressed]⟩]) =
      (false :: Stroke.edges past) ++ [pressed] := by
    rw [Stroke.edges_concat]
    rfl
  rw [hedges, List.getLast?_concat]
  refine ⟨List.isChain_append.mpr ⟨h.alternate, List.isChain_singleton _, ?_⟩, rfl⟩
  intro last hlast next hnext
  obtain rfl : grip.down = last := by simpa [h.last] using hlast
  obtain rfl : pressed = next := by simpa using hnext
  exact hother.symm

/-- Whatever a window does with an event, the hands stay on the key. -/
theorem Held.concat {grip : Grip} {window after : Window} {event : Window.Event}
    {edge : Option Bool} (h : Held window.scale past grip)
    (hmouse : window.mouseHeld = grip.mouseHeld)
    (hanswers : Window.Answers grip.down window event edge after) :
    Held window.scale (past ++ [⟨event, edge.toList⟩])
      ⟨edge.getD grip.down, after.mouseHeld, after.scale⟩ := by
  have hnone (event : Window.Event) :
      Stroke.edges (past ++ [⟨event, []⟩]) = Stroke.edges past := by
    simp [Stroke.edges_concat]
  cases hanswers with
  | press hup =>
    obtain ⟨halternate, hlast⟩ :=
      h.alternate_concat (.keyDown Window.spaceCode) true (by simp [hup])
    exact ⟨rfl, halternate, hlast, fun _ => .inl ((Stroke.spaceHeld_concat_some rfl).mpr rfl)⟩
  | release hdown =>
    obtain ⟨halternate, hlast⟩ :=
      h.alternate_concat (.keyUp Window.spaceCode) false (by simp [hdown])
    exact ⟨rfl, halternate, hlast, nofun⟩
  | @click x y hup hswitch =>
    obtain ⟨halternate, hlast⟩ :=
      h.alternate_concat (.mouseDown Window.leftButton x y) true (by simp [hup])
    exact ⟨rfl, halternate, hlast, fun _ => .inr ⟨⟨past, [], x, y, rfl, hswitch, nofun⟩, rfl⟩⟩
  | @letGo x y hheld =>
    cases hdown : grip.down with
    | true =>
      obtain ⟨halternate, hlast⟩ :=
        h.alternate_concat (.mouseUp Window.leftButton x y) false (by simp [hdown])
      exact ⟨rfl, halternate, hlast, nofun⟩
    | false =>
      exact ⟨rfl, hnone _ ▸ h.alternate, (hnone _ ▸ h.last).trans (congrArg some hdown), nofun⟩
  | idle hspace hleft =>
    refine ⟨rfl, hnone _ ▸ h.alternate, hnone _ ▸ h.last, fun hdown => ?_⟩
    cases hbar : event.spaceBar with
    | some down =>
      cases down with
      | true => exact .inl ((Stroke.spaceHeld_concat_some hbar).mpr rfl)
      | false => exact absurd (hspace hbar) (by simpa using hdown)
    | none =>
      rcases h.hands hdown with hspaceHeld | ⟨hclicked, hheld⟩
      · exact .inl ((Stroke.spaceHeld_concat hbar).mpr hspaceHeld)
      · refine .inr ⟨hclicked.concat fun hup => ?_, hmouse.trans hheld⟩
        exact absurd (hleft hup) (by simp [hmouse, hheld])

/-- From a key that is up on, the hands are on the key whenever it is down. -/
theorem Strikes.held {first : σ} (hup : desk.down first = false) (h : desk.Strikes first past s) :
    Held (desk.window.get first).scale past (desk.grip s) := by
  induction h with
  | start =>
    refine ⟨rfl, List.isChain_singleton _, congrArg some hup.symm, fun hdown => ?_⟩
    exact absurd (hup.symm.trans hdown) Bool.false_ne_true
  | @stroke past s event hpast ih =>
    have hanswers := Window.answers (desk.down s) event (desk.window.get s)
    rw [grip_handle, strokeAt_eq]
    have hscale : (desk.window.get s).scale = (desk.window.get first).scale := ih.scale_eq
    rw [← hscale] at ih ⊢
    exact ih.concat rfl hanswers

/-! ## Polls -/

theorem respondAll_cons (event : Window.Event) (rest : List Window.Event) (s : σ) :
    Window.respondAll desk.window desk.down desk.move (event :: rest) s =
      match desk.handle event s with
      | .ok true s' => Window.respondAll desk.window desk.down desk.move rest s'
      | .ok false s' => .ok false s'
      | .error fault s' => .error fault s' :=
  Window.respondAll_cons event rest s

/-- The key receives the edges of the events that are handled, and nothing else. -/
theorem result_respondWatched (events : List Window.Event) (s : σ) (received : List Bool) :
    (desk.respondWatched events).result ⟨s, received⟩ =
      (((Window.respondAll desk.window desk.down desk.move events).result s).1,
        ⟨((Window.respondAll desk.window desk.down desk.move events).result s).2,
          received ++ Stroke.edges (desk.strokes events s)⟩) := by
  induction events generalizing s received with
  | nil => simp [respondWatched, Window.respondAll, strokes, Stroke.edges, result]
  | cons event rest ih =>
    have hwatched : (desk.respondWatched [event]).result ⟨s, received⟩ = _ :=
      result_respondWatched_singleton event s received
    unfold Desk.strokes
    obtain ⟨⟨outcome, s'⟩, hhandle⟩ : ∃ next, (desk.handle event).result s = next := ⟨_, rfl⟩
    rw [hhandle] at hwatched ⊢
    by_cases hstays : outcome = .ok true
    · subst hstays
      rw [Window.result_respondAll_cons hhandle, respondWatched,
        Window.result_respondAll_cons hwatched]
      refine (ih s' _).trans ?_
      simp [Stroke.edges, strokeAt_eq]
    · rw [Window.result_respondAll_stop hhandle hstays, respondWatched,
        Window.result_respondAll_stop hwatched hstays]
      cases outcome with
      | error fault => simp [Stroke.edges, strokeAt_eq]
      | ok stays =>
        cases stays with
        | true => exact absurd rfl hstays
        | false => simp [Stroke.edges, strokeAt_eq]

theorem Strikes.strokes {first : σ} (events : List Window.Event) (h : desk.Strikes first past s) :
    desk.Strikes first (past ++ desk.strokes events s)
      ((Window.respondAll desk.window desk.down desk.move events).result s).2 := by
  induction events generalizing past s with
  | nil =>
    rw [Desk.strokes, List.append_nil]
    exact h
  | cons event rest ih =>
    have hnext := h.stroke event
    cases hhandle : desk.handle event s with
    | error fault s' =>
      rw [result_of_error hhandle] at hnext
      rw [result_of_error (by rw [respondAll_cons, hhandle])]
      simpa only [Desk.strokes, result_of_error hhandle] using hnext
    | ok stays s' =>
      rw [result_of_ok hhandle] at hnext
      cases stays with
      | false =>
        rw [result_of_ok (by rw [respondAll_cons, hhandle])]
        simpa only [Desk.strokes, result_of_ok hhandle] using hnext
      | true =>
        have hrest : (Window.respondAll desk.window desk.down desk.move (event :: rest)).result s =
            (Window.respondAll desk.window desk.down desk.move rest).result s' := by
          simp only [result, respondAll_cons, hhandle]
        rw [hrest, Desk.strokes, result_of_ok hhandle, List.append_cons]
        exact ih hnext

/-- Attending to the user is handling events one after the other. -/
theorem Strikes.poll {first : σ} (events : List Window.Event) (h : desk.Strikes first past s) :
    desk.Strikes first (past ++ desk.handled events s) ((desk.poll events).result s).2 := by
  unfold handled
  split
  next hattached =>
    have hpoll : (desk.poll events).result s =
        (Window.respondAll desk.window desk.down desk.move events).result s := by
      simp [Desk.poll, Window.poll, result, hattached]
    rw [hpoll]
    exact h.strokes events
  next hattached =>
    have hpoll : desk.poll events s = .ok true s := by simp [Desk.poll, Window.poll, hattached]
    rw [result_of_ok hpoll, List.append_nil]
    exact h

theorem Strikes.polls {first : σ} (polls : List (List Window.Event))
    (h : desk.Strikes first past s) :
    desk.Strikes first (past ++ desk.history polls s) (desk.afterPolls polls s) := by
  induction polls generalizing past s with
  | nil =>
    rw [history, List.append_nil]
    exact h
  | cons events rest ih =>
    have hrest := ih (h.poll events)
    rwa [List.append_assoc] at hrest

theorem result_pollWatched (events : List Window.Event) (s : σ) (received : List Bool) :
    ((desk.pollWatched events).result ⟨s, received⟩).2 =
      ⟨((desk.poll events).result s).2, received ++ Stroke.edges (desk.handled events s)⟩ := by
  have hrespond : ((desk.respondWatched events).result ⟨s, received⟩).2 = _ :=
    congrArg Prod.snd (result_respondWatched events s received)
  by_cases hattached : (desk.window.get s).attached = true
  · have hwatched : (desk.pollWatched events).result ⟨s, received⟩ =
        (desk.respondWatched events).result ⟨s, received⟩ := by
      simp [pollWatched, respondWatched, Window.poll, watchedWindow, result, hattached]
    have hplain : (desk.poll events).result s =
        (Window.respondAll desk.window desk.down desk.move events).result s := by
      simp [Desk.poll, Window.poll, result, hattached]
    rw [hwatched, hplain, handled, if_pos hattached]
    exact hrespond
  · simp [pollWatched, Desk.poll, Window.poll, watchedWindow, handled, result, hattached,
      Stroke.edges]

/-- Nobody notices that a desk is watched, and the key receives the edges of all that is handled. -/
theorem afterPollsWatched_eq (polls : List (List Window.Event)) (s : σ) (received : List Bool) :
    desk.afterPollsWatched polls ⟨s, received⟩ =
      ⟨desk.afterPolls polls s, received ++ Stroke.edges (desk.history polls s)⟩ := by
  induction polls generalizing s received with
  | nil => simp [afterPollsWatched, afterPolls, history, Stroke.edges]
  | cons events rest ih =>
    rw [afterPollsWatched, result_pollWatched, ih]
    simp [afterPolls, history, Stroke.edges]

/-- What was handled up to some moment was handled one after the other. -/
theorem Strikes.upTo {first : σ} (h : desk.Strikes first past s) {earlier : List Stroke}
    (hearlier : earlier <+: past) : ∃ s', desk.Strikes first earlier s' := by
  induction h with
  | start => exact ⟨first, List.prefix_nil.mp hearlier ▸ .start⟩
  | @stroke past s event hpast ih =>
    rcases List.prefix_concat_iff.mp hearlier with rfl | hshorter
    · exact ⟨_, hpast.stroke event⟩
    · exact ih hshorter

/-- **Two hands move the key without a redundant edge and without leaving it down.** The key is up
at first, and the user is attended to any number of times, with any events, while someone watches
the key and is not noticed. The edges that the key receives alternate, a press first. All that is
handled is handled one event after the other, and each edge is received during one of these events.
After each event the key is where the last edge has put it. If it is down, the space bar was moved
last when it went down, or the left mouse button went down last and has pressed the key on the
switch since it came up; if neither the bar nor the button is held, the key is up. -/
theorem edges_alternate {first : σ} (hup : desk.down first = false)
    (polls : List (List Window.Event)) :
    (desk.afterPollsWatched polls { state := first }).state = desk.afterPolls polls first ∧
      (false :: (desk.afterPollsWatched polls { state := first }).received).IsChain (· ≠ ·) ∧
      (desk.afterPollsWatched polls { state := first }).received =
        Stroke.edges (desk.history polls first) ∧
      desk.Strikes first (desk.history polls first) (desk.afterPolls polls first) ∧
      ∀ past, past <+: desk.history polls first → ∃ s, desk.Strikes first past s ∧
        (false :: Stroke.edges past).getLast? = some (desk.down s) ∧
        (desk.down s = true → Stroke.SpaceHeld past ∨
          Stroke.LeftHeld past ∧ Stroke.Clicked (desk.window.get first).scale past) ∧
        (¬Stroke.SpaceHeld past → ¬Stroke.LeftHeld past → desk.down s = false) := by
  have hall : desk.Strikes first (desk.history polls first) (desk.afterPolls polls first) :=
    Strikes.start.polls polls
  rw [afterPollsWatched_eq, List.nil_append]
  refine ⟨rfl, (hall.held hup).alternate, rfl, hall, fun past hpast => ?_⟩
  obtain ⟨s, hstrikes⟩ := hall.upTo hpast
  have hhands : desk.down s = true → Stroke.SpaceHeld past ∨
      Stroke.LeftHeld past ∧ Stroke.Clicked (desk.window.get first).scale past := by
    intro hdown
    rcases (hstrikes.held hup).hands hdown with hspace | ⟨hclicked, -⟩
    · exact .inl hspace
    · exact .inr ⟨hclicked.leftHeld, hclicked⟩
  refine ⟨s, hstrikes, (hstrikes.held hup).last, hhands, fun hspace hleft => ?_⟩
  by_contra hnot
  rcases hhands (by simpa using hnot) with hheld | ⟨hheld, -⟩
  · exact hspace hheld
  · exact hleft hheld

end Desk

/-- The desk of a window on the bench. -/
def WindowBench.desk : Desk WindowBench Unit Unit where
  window := windowOf
  key := keyOf
  update _ pressed := windowOf.run (Window.showSwitch pressed)
  tell _ pressed := modify fun bench => { bench with edges := bench.edges ++ [pressed] }
  window_put _ _ := rfl
  window_key _ _ := rfl
  key_put _ _ := rfl
  key_window _ _ := rfl
  update_still _ pressed grip := .run fun bench hbench => by
    let still (window : Window) : Prop :=
      (⟨bench.key.pressed, window.mouseHeld, window.scale⟩ : Grip) = grip
    have hstill : Window.Steadfast still := ⟨fun _ _ _ _ h => h, fun _ _ _ h => h⟩
    have hswitch : Keeps still (Window.showSwitch pressed) := by
      unfold Window.showSwitch
      refine Keeps.bind (Keeps.modify ?_) fun _ => hstill.keeps_redraw
      exact fun _ h => h
    exact hswitch bench.window hbench
  tell_still _ _ _ := .modify fun _ h => h

/-- The mouse goes down on the switch while the space bar has the key down, and the other way
round. -/
def WindowBench.overlap : List (List Window.Event) :=
  [[.keyDown 32, .mouseDown 1 (.int 300) (.int 180)],
   [.keyUp 32, .mouseUp 1 (.int 0) (.int 0), .mouseDown 1 (.int 300) (.int 180), .keyDown 32],
   [.keyUp 32, .keyDown 32, .mouseUp 1 (.int 0) (.int 0), .keyUp 32]]

/-- Six edges are received and told to the listener of the bench. -/
theorem Desk.edges_alternate_of_overlap :
    ∃ bench : WindowBench, WindowBench.desk.down bench = false ∧
      (WindowBench.desk.afterPollsWatched WindowBench.overlap { state := bench }).received =
        [true, false, true, false, true, false] ∧
      (WindowBench.desk.afterPolls WindowBench.overlap bench).edges =
        [true, false, true, false, true, false] ∧
      (false :: (WindowBench.desk.afterPollsWatched WindowBench.overlap
        { state := bench }).received).IsChain (· ≠ ·) :=
  ⟨{ window := { attached := true }, key := { listeners := [()] } }, rfl, by decide +kernel,
    by decide +kernel, (edges_alternate rfl WindowBench.overlap).2.1⟩

end DigitRace
