import DigitRace.Proofs.Segment.Canonical
import DigitRace.Proofs.Session.Opening
import Mathlib.Data.List.DropRight

/-!
# The window mirrors the game

Patterns reach the window by way of a shadow that drops those that change nothing, while edges of
the key and requests to draw again reach it at any time. What is on the window is the frame of
the pattern and the key all the same, as if every pattern were drawn at once.
-/

namespace DigitRace

open Act

namespace Window

open Segment

variable {p q : String}

/-- Patterns that light the same segments have the same frame. -/
theorem Frame.of_congr (h : Alike p q) (pressed : Bool) : Frame.of p pressed = Frame.of q pressed :=
  congrArg (Frame.mk · pressed) (List.map_congr_left fun _ hid => h.contains hid)

/-- Patterns that light the same segments are drawn by the same calls. -/
theorem frameCalls_congr (h : Alike p q) (scale : Int) (pressed : Bool) :
    frameCalls scale p pressed = frameCalls scale q pressed := by
  have hbars : barCalls scale p outlines = barCalls scale q outlines :=
    List.map_congr_left fun bar hbar => by rw [h.contains (outlines_ids hbar)]
  rw [frameCalls, frameCalls, hbars, h.contains (by decide : 'p' ∈ ids)]

end Window

namespace Session

open Cabinet Window

/-- What can be done to a display, a key and a window that are wired up. -/
inductive Touch where
  /-- A pattern is written to the display. -/
  | write (pattern : String)
  /-- The key is moved. -/
  | edge (pressed : Bool)
  /-- The window has to be drawn again. -/
  | expose
  /-- What was drawn is brought onto the screen. -/
  | present

/-- Does something to the session, in some surroundings. -/
def Touch.act (around : Surroundings Front) : Touch → Play Front Unit
  | .write pattern => Cabinet.showPattern around pattern
  | .edge pressed => move around pressed
  | .expose => do
    let _ ← poll windowOf (fun session => session.key.pressed) (move around) [.expose]
  | .present => do
    let _ ← windowOf.run Window.present

/-- The pattern that is on the display afterwards. -/
def Touch.pattern (before : String) : Touch → String
  | .write pattern => pattern
  | .edge _ | .expose | .present => before

/-- Where the key is afterwards. -/
def Touch.pressed (before : Bool) : Touch → Bool
  | .edge pressed => pressed
  | .write _ | .expose | .present => before

/-- The pattern that was written last. -/
def lastWrite (touches : List Touch) : Option String :=
  (touches.filterMap fun | .write pattern => some pattern | _ => none).getLast?

/-- Surroundings without a shadow: every pattern is drawn. -/
def direct : Surroundings Front where
  observe pattern := windowOf.run (Window.showPattern (.text pattern))
  showEdge := around.showEdge
  clock := around.clock

/-- The last frame was drawn by these calls, and after them at most presented. -/
def LastDrawn (calls : List Drawing) (window : Window) : Prop :=
  ∃ before flips, window.drawings.toList = before ++ calls ++ flips ∧ ∀ call ∈ flips, call = .flip

/-- The window is wired up, nobody listens to the key, no redraw fails, and the window shows what
the display and the key are at. -/
structure Mirrors (scale : Int) (session : Session) : Prop where
  observed : session.display.observer = some ()
  updated : session.key.updater = some ()
  unheard : session.key.listeners = []
  attached : session.outside.window.attached = true
  hasScreen : session.outside.window.hasScreen = true
  works : session.outside.window.equipment.failingRedraw = none
  scale_eq : session.outside.window.scale = scale
  pattern : ∃ shown, session.outside.window.pattern = .text shown ∧
    Segment.Alike shown session.display.pattern
  pressed : session.outside.window.pressed = session.key.pressed
  drawn : session.outside.window.drawn =
    some (Frame.of session.display.pattern session.key.pressed)
  calls : ∃ before, session.outside.window.drawings.toList =
    before ++ frameCalls scale session.display.pattern session.key.pressed ++
      if session.outside.window.dirty then [] else [.flip]

variable {scale : Int} {session : Session}

/-- A window of the make of another. -/
structure Akin (window other : Window) : Prop where
  equipment : window.equipment = other.equipment
  attached : window.attached = other.attached
  hasScreen : window.hasScreen = other.hasScreen
  scale : window.scale = other.scale

/-- What a touch leads to, in a session that mirrors the game. -/
structure Reaches (scale : Int) (touch : Touch) (session after : Session) : Prop where
  mirrors : Mirrors scale after
  pattern : after.display.pattern = touch.pattern session.display.pattern
  pressed : after.key.pressed = touch.pressed session.key.pressed

variable {window : Window} {shown : String}

/-- A window that has taken a pattern and a position of the key over can be redrawn. -/
theorem Mirrors.redraw_apply (h : Mirrors scale session)
    (hakin : Akin window session.outside.window) (hshown : window.pattern = .text shown) :
    Window.redraw window = .ok ⟨⟩ (window.redrawn shown) := by
  refine Window.redraw_apply (hakin.hasScreen.trans h.hasScreen) hshown ?_
  rw [hakin.equipment, h.works]
  exact nofun

/-- Once it is redrawn, it shows them. -/
theorem Mirrors.redrawn {pattern : String} {pressed : Bool} (h : Mirrors scale session)
    (hakin : Akin window session.outside.window) (hshown : window.pattern = .text shown)
    (halike : Segment.Alike shown pattern) (hpressed : window.pressed = pressed)
    (shadow : Shadow) :
    Mirrors scale { session with
      display := { session.display with pattern }
      key := { session.key with pressed }
      outside := { session.outside with shadow, window := window.redrawn shown } } where
  observed := h.observed
  updated := h.updated
  unheard := h.unheard
  attached := hakin.attached.trans h.attached
  hasScreen := hakin.hasScreen.trans h.hasScreen
  works := (congrArg Equipment.failingRedraw hakin.equipment).trans h.works
  scale_eq := hakin.scale.trans h.scale_eq
  pattern := ⟨shown, hshown, halike⟩
  pressed := hpressed
  drawn := congrArg some (hpressed ▸ Frame.of_congr halike window.pressed)
  calls := ⟨window.drawings.toList, by
    simp [Window.redrawn, hakin.scale, h.scale_eq, hpressed, frameCalls_congr halike]⟩

variable (around' : Surroundings Front)

theorem Mirrors.edge (h : Mirrors scale session) (hedge : around'.showEdge = around.showEdge)
    (pressed : Bool) :
    ∃ after, (Touch.edge pressed).act around' session = .ok ⟨⟩ after ∧
      Reaches scale (.edge pressed) session after ∧
      after.outside.shadow = session.outside.shadow := by
  obtain ⟨shown, hshown, halike⟩ := h.pattern
  have hakin : Akin { session.outside.window with pressed } session.outside.window :=
    ⟨rfl, rfl, rfl, rfl⟩
  have hredraw := h.redraw_apply hakin hshown
  refine ⟨_, ?_, ⟨h.redrawn hakin hshown halike rfl session.outside.shadow, rfl, rfl⟩, rfl⟩
  simp [Touch.act, move, Key.edge, keyOf, h.updated, h.unheard, hedge, around, windowOf,
    Window.showSwitch, hredraw]

theorem Mirrors.expose (h : Mirrors scale session) :
    ∃ after, Touch.expose.act around' session = .ok ⟨⟩ after ∧
      Reaches scale .expose session after ∧ after.outside.shadow = session.outside.shadow := by
  obtain ⟨shown, hshown, halike⟩ := h.pattern
  have hakin : Akin session.outside.window session.outside.window := ⟨rfl, rfl, rfl, rfl⟩
  have hredraw := h.redraw_apply hakin hshown
  refine ⟨_, ?_, ⟨h.redrawn hakin hshown halike h.pressed session.outside.shadow, rfl, rfl⟩, rfl⟩
  simp [Touch.act, poll, respondAll, Window.respond, windowOf, h.attached, hredraw]

theorem Mirrors.present_apply (h : Mirrors scale session) :
    Window.present session.outside.window =
      .ok session.outside.window.dirty session.outside.window.presented := by
  rw [Window.present_apply, h.hasScreen, Bool.true_and]

/-- A flip is the call that presents what was drawn. -/
theorem Mirrors.presented_drawings (h : Mirrors scale session) :
    session.outside.window.presented.drawings = session.outside.window.drawings ++
      if session.outside.window.dirty then #[.flip] else #[] := by
  rw [presented, h.hasScreen, Bool.true_and]
  cases session.outside.window.dirty <;> simp

/-- The session once what was drawn is on the screen. -/
def presentedOn (session : Session) : Session :=
  { session with outside := { session.outside with window := session.outside.window.presented } }

theorem Mirrors.presented (h : Mirrors scale session) : Mirrors scale (presentedOn session) := by
  unfold presentedOn
  cases hdirty : session.outside.window.dirty with
  | false =>
    rw [Window.presented, hdirty, Bool.and_false]
    exact h
  | true =>
    obtain ⟨before, hcalls⟩ := h.calls
    rw [Window.presented, if_pos (by simp [h.hasScreen, hdirty])]
    exact { h with calls := ⟨before, by simp [hcalls, hdirty]⟩ }

theorem Mirrors.present (h : Mirrors scale session) :
    ∃ after, Touch.present.act around' session = .ok ⟨⟩ after ∧
      Reaches scale .present session after ∧ after.outside.shadow = session.outside.shadow :=
  ⟨presentedOn session, by simp [Touch.act, windowOf, h.present_apply, presentedOn],
    ⟨h.presented, rfl, rfl⟩, rfl⟩

theorem Mirrors.write_direct (h : Mirrors scale session) (pattern : String) :
    ∃ after, (Touch.write pattern).act direct session = .ok ⟨⟩ after ∧
      Reaches scale (.write pattern) session after := by
  have hakin : Akin { session.outside.window with pattern := .text pattern }
      session.outside.window := ⟨rfl, rfl, rfl, rfl⟩
  have hredraw := h.redraw_apply hakin rfl
  refine ⟨_, ?_, ⟨h.redrawn hakin rfl (.refl pattern) h.pressed session.outside.shadow, rfl, rfl⟩⟩
  simp [Touch.act, Cabinet.showPattern, Display.showing, displayOf, h.observed, direct, windowOf,
    Window.showPattern, hredraw]

/-! ## Through the shadow -/

/-- A pattern lights other segments than the last one that was written, or is the first. -/
def Renews (past : List Touch) (pattern : String) : Prop :=
  ∀ last ∈ lastWrite past, ¬Segment.Alike pattern last

instance (past : List Touch) (pattern : String) : Decidable (Renews past pattern) :=
  inferInstanceAs (Decidable (∀ last ∈ lastWrite past, ¬Segment.Alike pattern last))

/-- The window mirrors the game, and the shadow is that of the last pattern that was written. -/
structure Follows (scale : Int) (past : List Touch) (session : Session) : Prop
    extends Mirrors scale session where
  shadow : session.outside.shadow = (lastWrite past).map Segment.canonical
  written : ∀ last ∈ lastWrite past, session.display.pattern = last

/-- The pattern is on the display, and the window is not told yet. -/
def taken (pattern : String) (session : Session) : Session :=
  { session with display := { session.display with pattern } }

/-- The pattern was passed on and drawn in its canonical form. -/
def renewed (pattern : String) (session : Session) : Session :=
  let window := { session.outside.window with pattern := .text (Segment.canonical pattern) }
  { taken pattern session with
    outside := { session.outside with
      shadow := some (Segment.canonical pattern)
      window := window.redrawn (Segment.canonical pattern) } }

/-- A window that mirrors a pattern mirrors every pattern that is alike. -/
theorem Mirrors.taken {pattern : String} (h : Mirrors scale session)
    (halike : Segment.Alike pattern session.display.pattern) :
    Mirrors scale (taken pattern session) := by
  obtain ⟨shown, hshown, hsame⟩ := h.pattern
  obtain ⟨before, hcalls⟩ := h.calls
  exact { h with
    pattern := ⟨shown, hshown, hsame.trans halike.symm⟩
    drawn := h.drawn.trans (congrArg some (Frame.of_congr halike.symm _))
    calls := ⟨before, hcalls.trans (by rw [frameCalls_congr halike.symm]; rfl)⟩ }

/-- Draws a canonical pattern. -/
def drawLit (pattern : String) : Play Front Unit :=
  windowOf.run (Window.showPattern (.text pattern))

variable {past : List Touch}

theorem lastWrite_concat (past : List Touch) (touch : Touch) :
    lastWrite (past ++ [touch]) =
      match touch with
      | .write pattern => some pattern
      | _ => lastWrite past := by
  cases touch <;> simp [lastWrite]

theorem write_of_offer {pattern : String} {passed : Bool} {after : Session}
    (hobserved : session.display.observer = some ())
    (hoffer : Shadow.offer shadowOf drawLit (Segment.canonical pattern) (taken pattern session) =
      .ok passed after) :
    (Touch.write pattern).act around session = .ok ⟨⟩ after := by
  have htold : around.observe pattern (taken pattern session) = .ok ⟨⟩ after := by
    change (do let _ ← Shadow.offer shadowOf drawLit (Segment.canonical pattern) : Play Front Unit)
      (taken pattern session) = _
    simp [hoffer]
  simpa [Touch.act, Cabinet.showPattern, Display.showing, displayOf, hobserved, taken] using htold

/-- The shadow passes a pattern on just if it renews the last one, and the window mirrors it. -/
theorem Follows.offer (h : Follows scale past session) (pattern : String) :
    ∃ after, Shadow.offer shadowOf drawLit (Segment.canonical pattern) (taken pattern session) =
        .ok (decide (Renews past pattern)) after ∧
      (Touch.write pattern).act around session = .ok ⟨⟩ after ∧
      Reaches scale (.write pattern) session after ∧
      after.outside.shadow = some (Segment.canonical pattern) := by
  by_cases hrenews : Renews past pattern
  · -- The shadow holds another pattern, or none.
    have hother : session.outside.shadow ≠ some (Segment.canonical pattern) := by
      rw [h.shadow]
      intro hsame
      obtain ⟨last, hlast, hcanonical⟩ := Option.map_eq_some_iff.mp hsame
      exact hrenews last hlast (Segment.canonical_eq_iff.mp hcanonical).symm
    have hakin : Akin { session.outside.window with pattern := .text (Segment.canonical pattern) }
        session.outside.window := ⟨rfl, rfl, rfl, rfl⟩
    have hmirrors : Mirrors scale (renewed pattern session) :=
      h.redrawn hakin rfl (Segment.alike_canonical pattern) h.pressed _
    have hoffer : Shadow.offer shadowOf drawLit (Segment.canonical pattern)
        (taken pattern session) = .ok (decide (Renews past pattern)) (renewed pattern session) := by
      simp [Shadow.offer, shadowOf, taken, hother, drawLit, windowOf, Window.showPattern,
        h.redraw_apply hakin rfl, hrenews, renewed]
    exact ⟨_, hoffer, write_of_offer h.observed hoffer, ⟨hmirrors, rfl, rfl⟩, rfl⟩
  · -- The shadow holds the canonical form already, and the window a pattern that is alike.
    obtain ⟨last, hlast, halike⟩ : ∃ last ∈ lastWrite past, Segment.Alike pattern last := by
      simpa [Renews] using hrenews
    have hsame : session.outside.shadow = some (Segment.canonical pattern) := by
      rw [h.shadow, Option.mem_def.mp hlast, Segment.canonical_eq_iff.mpr halike]
      rfl
    have hmirrors : Mirrors scale (taken pattern session) :=
      h.toMirrors.taken (h.written last hlast ▸ halike)
    have hoffer : Shadow.offer shadowOf drawLit (Segment.canonical pattern)
        (taken pattern session) = .ok (decide (Renews past pattern)) (taken pattern session) := by
      simp [Shadow.offer, shadowOf, taken, hsame, hrenews]
    exact ⟨_, hoffer, write_of_offer h.observed hoffer, ⟨hmirrors, rfl, rfl⟩, hsame⟩

/-- What writes nothing leaves the shadow where it was. -/
theorem Follows.still (h : Follows scale past session) {touch : Touch} {after : Session}
    (hreaches : Reaches scale touch session after)
    (hlast : lastWrite (past ++ [touch]) = lastWrite past)
    (hpattern : touch.pattern session.display.pattern = session.display.pattern)
    (hshadow : after.outside.shadow = session.outside.shadow) :
    Follows scale (past ++ [touch]) after where
  toMirrors := hreaches.mirrors
  shadow := by rw [hlast, hshadow, h.shadow]
  written := by rw [hlast, hreaches.pattern, hpattern]; exact h.written

/-- The window goes on mirroring the game, whatever is done. -/
theorem Follows.act (h : Follows scale past session) (touch : Touch) :
    ∃ after, touch.act around session = .ok ⟨⟩ after ∧ Follows scale (past ++ [touch]) after ∧
      Reaches scale touch session after := by
  cases touch with
  | write pattern =>
    obtain ⟨after, -, hact, hreaches, hshadow⟩ := h.offer pattern
    refine ⟨after, hact, ⟨hreaches.mirrors, ?_, ?_⟩, hreaches⟩
    · rw [hshadow, lastWrite_concat]
      rfl
    · rw [lastWrite_concat, hreaches.pattern]
      simp [Touch.pattern]
  | edge pressed =>
    obtain ⟨after, hact, hreaches, hshadow⟩ := h.edge around rfl pressed
    exact ⟨after, hact, h.still hreaches (lastWrite_concat ..) rfl hshadow, hreaches⟩
  | expose =>
    obtain ⟨after, hact, hreaches, hshadow⟩ := h.expose around
    exact ⟨after, hact, h.still hreaches (lastWrite_concat ..) rfl hshadow, hreaches⟩
  | present =>
    obtain ⟨after, hact, hreaches, hshadow⟩ := h.present around
    exact ⟨after, hact, h.still hreaches (lastWrite_concat ..) rfl hshadow, hreaches⟩

theorem Mirrors.act_direct (h : Mirrors scale session) (touch : Touch) :
    ∃ after, touch.act direct session = .ok ⟨⟩ after ∧ Reaches scale touch session after := by
  cases touch with
  | write pattern => exact h.write_direct pattern
  | edge pressed =>
    obtain ⟨after, hact, hreaches, -⟩ := h.edge direct rfl pressed
    exact ⟨after, hact, hreaches⟩
  | expose =>
    obtain ⟨after, hact, hreaches, -⟩ := h.expose direct
    exact ⟨after, hact, hreaches⟩
  | present =>
    obtain ⟨after, hact, hreaches, -⟩ := h.present direct
    exact ⟨after, hact, hreaches⟩

/-- A game on two windows, one behind the shadow and one without it. -/
structure Twins (scale : Int) (past : List Touch) (shown plain : Session) : Prop where
  follows : Follows scale past shown
  mirrors : Mirrors scale plain
  pattern : shown.display.pattern = plain.display.pattern
  pressed : shown.key.pressed = plain.key.pressed

theorem Twins.acts {shown plain : Session} (h : Twins scale past shown plain)
    (touches : List Touch) :
    ∃ shown' plain', touches.forM (Touch.act around) shown = .ok ⟨⟩ shown' ∧
      touches.forM (Touch.act direct) plain = .ok ⟨⟩ plain' ∧
      Twins scale (past ++ touches) shown' plain' := by
  induction touches generalizing past shown plain with
  | nil => exact ⟨shown, plain, rfl, rfl, by rwa [List.append_nil]⟩
  | cons touch rest ih =>
    obtain ⟨shown₁, hshown, hfollows, hreaches⟩ := h.follows.act touch
    obtain ⟨plain₁, hplain, hdirect⟩ := h.mirrors.act_direct touch
    have hnext : Twins scale (past ++ [touch]) shown₁ plain₁ :=
      ⟨hfollows, hdirect.mirrors, by rw [hreaches.pattern, hdirect.pattern, h.pattern],
        by rw [hreaches.pressed, hdirect.pressed, h.pressed]⟩
    obtain ⟨shown', plain', hshown', hplain', htwins⟩ := ih hnext
    refine ⟨shown', plain', ?_, ?_, by rwa [List.append_assoc] at htwins⟩
    · rw [forM_cons_apply, hshown]
      exact hshown'
    · rw [forM_cons_apply, hplain]
      exact hplain'

/-! ## From the start -/

variable {equipment : Equipment} {events : Nat → List Event} {chances : Chances} {opened : Session}

/-- A new session that is wired up mirrors a blank digit and a key that is up. -/
theorem follows_of_wire (hnew : Session.new equipment events chances = .ok session)
    (hworks : equipment.failingRedraw = none) (hopened : wire session = .ok ⟨⟩ opened) :
    Follows 1 [] opened := by
  obtain ⟨window, hstart, rfl⟩ := wire_eq_ok_iff.mp hopened
  obtain ⟨race, rfl⟩ := new_eq hnew
  obtain ⟨hlibrary, -⟩ := (Window.start_eq_ok_iff rfl).mp hstart
  rw [start_new hnew hlibrary (by simp [hworks])] at hstart
  obtain ⟨-, rfl⟩ := EStateM.Result.ok.inj hstart
  exact {
    observed := rfl, updated := rfl, unheard := rfl, attached := rfl, hasScreen := rfl
    works := hworks, scale_eq := rfl, pattern := ⟨"", rfl, .refl ""⟩, pressed := rfl, drawn := rfl
    calls := ⟨_, Array.toList_append.trans (List.append_nil _).symm⟩, shadow := rfl
    written := nofun }

/-- A redraw was begun since what was drawn was presented last. -/
def DrawnSinceFlip (window : Window) : Prop :=
  .fill background ∈ window.drawings.toList.rtakeWhile (· ≠ .flip)

instance (window : Window) : Decidable (DrawnSinceFlip window) :=
  inferInstanceAs (Decidable (_ ∈ _))

theorem frameCalls_ne_flip {pattern : String} {pressed : Bool} :
    ∀ call ∈ frameCalls scale pattern pressed, call ≠ .flip := by
  simp only [frameCalls, barCalls, List.mem_cons, List.mem_append, List.mem_map, List.not_mem_nil,
    or_false]
  rintro call (rfl | ⟨bar, -, rfl⟩ | rfl | rfl | rfl) <;> simp

/-- The window keeps account of what is not presented yet. -/
theorem Mirrors.dirty_iff (h : Mirrors scale session) :
    session.outside.window.dirty = true ↔ DrawnSinceFlip session.outside.window := by
  obtain ⟨before, hcalls⟩ := h.calls
  rw [DrawnSinceFlip, hcalls]
  cases session.outside.window.dirty with
  | true =>
    simp only [if_true, List.append_nil, List.rtakeWhile, List.mem_reverse, List.reverse_append,
      true_iff]
    rw [List.takeWhile_append_of_pos fun call hcall => by
      simpa using frameCalls_ne_flip call (List.mem_reverse.mp hcall)]
    simp [frameCalls]
  | false => simp [List.rtakeWhile]

theorem Mirrors.lastDrawn (h : Mirrors scale session) :
    LastDrawn (frameCalls scale session.display.pattern session.key.pressed)
      session.outside.window := by
  obtain ⟨before, hcalls⟩ := h.calls
  refine ⟨before, _, hcalls, fun call hcall => ?_⟩
  split at hcall
  · exact absurd hcall List.not_mem_nil
  · exact List.mem_singleton.mp hcall

/-- A pattern is written in two orders, the second time while the key is down. -/
def turnedPattern : List Touch :=
  [.write "ab", .edge true, .write "ba", .expose, .present]

end Session

end DigitRace
