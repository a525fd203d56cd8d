import DigitRace.Proofs.Upkeep
import DigitRace.Window.Basic

/-!
# Redrawing

A redraw makes the calls of one frame, which the pattern, the position of the switch and the
scale determine. Of the window it changes nothing but the account of what was drawn, also when
it fails. Responding to an event draws nothing: it only remembers what the mouse holds.
-/

namespace DigitRace.Window

open Act

/-- A call that draws something. -/
def Drawing.Draws : Drawing → Prop
  | fill _ | polygon _ _ | circle _ _ _ | rect _ _ => True
  | init | quitMixer | caption _ | setMode _ _ | flip | quit => False

/-- A property of a window that drawing cannot change. -/
structure Steadfast (holds : Window → Prop) : Prop where
  account : ∀ window redraws dirty drawn, holds window →
    holds { window with redraws, dirty, drawn }
  draws : ∀ window (drawing : Drawing), drawing.Draws → holds window →
    holds { window with drawings := window.drawings.push drawing }

namespace Steadfast

variable {holds : Window → Prop}

theorem keeps_emit (h : Steadfast holds) {drawing : Drawing} (hdraws : drawing.Draws) :
    Keeps holds (emit drawing) :=
  .modify fun window => h.draws window drawing hdraws

theorem keeps_drawDigit (h : Steadfast holds) : Keeps holds drawDigit := by
  refine .get_bind fun window => ?_
  refine (Keeps.mapM outlines fun bar _ => ?_).bind (fun bars => ?_) window
  · obtain ⟨id, outline⟩ := bar
    exact (Keeps.lift _).bind fun lit => (h.keeps_emit (by trivial)).bind fun _ => .pure _
  · exact (Keeps.lift _).bind fun dot => (h.keeps_emit (by trivial)).bind fun _ => .pure _

theorem keeps_drawSwitch (h : Steadfast holds) : Keeps holds drawSwitch :=
  .get_bind fun window =>
    ((h.keeps_emit (by trivial)).bind fun _ => h.keeps_emit (by trivial)) window

/-- Redrawing draws, and keeps account of it. -/
theorem keeps_redraw (h : Steadfast holds) : Keeps holds redraw := by
  refine .get_bind fun window => Keeps.ite (fun _ => ?_) (fun _ => .pure _) window
  refine Keeps.bind (.modify fun w hw => h.account w _ _ _ hw) fun _ => .get_bind fun begun => ?_
  refine Keeps.ite (fun _ => .throw _) (fun _ => ?_) begun
  exact (h.keeps_emit (by trivial)).bind fun _ => h.keeps_drawDigit.bind fun lit =>
    h.keeps_drawSwitch.bind fun _ => .modify fun w hw => h.account w _ _ _ hw

end Steadfast

/-- Responding to an event changes nothing of a window but what the mouse holds. -/
theorem keeps_respond {holds : Window → Prop}
    (hmouse : ∀ window held, holds window → holds { window with mouseHeld := held })
    (keyDown : Bool) (event : Event) : Keeps holds (respond keyDown event) := by
  have hheld (held : Bool) : Keeps holds
      (modify fun window => { window with mouseHeld := held } : Act Window PUnit) :=
    .modify fun window h => hmouse window held h
  cases event with
  | quit | expose | other => exact .pure _
  | keyDown code => exact .ite (fun _ => .pure _) fun _ => .ite (fun _ => .pure _) fun _ => .pure _
  | keyUp code => exact .pure _
  | mouseDown button x y =>
    refine .ite (fun _ => .get_bind fun window => ?_) fun _ => .pure _
    refine Keeps.bind (.lift _) (fun covered => ?_) window
    exact .ite (fun _ => (hheld true).bind fun _ => .pure _) fun _ => .pure _
  | mouseUp button x y =>
    refine .get_bind fun window => ?_
    exact Keeps.ite (fun _ => (hheld false).bind fun _ => .pure _) (fun _ => .pure _) window

/-! ## What a redraw draws -/

/-- The frame of a pattern and a position of the switch. -/
def Frame.of (pattern : String) (pressed : Bool) : Frame where
  lit := Segment.ids.map pattern.toList.contains
  pressed

/-- The outlines of bars, each in the colour of a lit or a dark one. -/
def barCalls (scale : Int) (pattern : String) (bars : List (Char × List Point)) : List Drawing :=
  bars.map fun bar =>
    .polygon (segmentColour (pattern.toList.contains bar.1)) (bar.2.map (place scale))

/-- The calls of a redraw. -/
def frameCalls (scale : Int) (pattern : String) (pressed : Bool) : List Drawing :=
  .fill background :: (barCalls scale pattern outlines ++
    [.circle (segmentColour (pattern.toList.contains 'p')) (place scale dotCentre)
        (dotRadius * scale),
      .rect switchRim (rimRect scale),
      .rect (if pressed then switchDown else switchUp) (faceRect scale pressed)])

/-- The window once a redraw is complete. -/
def redrawn (pattern : String) (window : Window) : Window :=
  { window with
    redraws := window.redraws + 1
    drawings := window.drawings ++ (frameCalls window.scale pattern window.pressed).toArray
    dirty := true
    drawn := some (Frame.of pattern window.pressed) }

theorem outlines_ids {bar : Char × List Point} (h : bar ∈ outlines) : bar.1 ∈ Segment.ids := by
  have hall : ∀ bar ∈ outlines, bar.1 ∈ Segment.ids := by decide
  exact hall bar h

/-- A value serves as a pattern: it lights the known segments that a text names. -/
def LitAs (pattern : Value) (text : String) : Prop :=
  ∀ id ∈ Segment.ids, Segment.lights pattern id = .ok (text.toList.contains id)

theorem litAs_text (text : String) : LitAs (.text text) text := fun _ _ => rfl

/-- What cannot serve as a pattern fails at whatever segment is asked for. -/
theorem litAs_or_unsuitable (pattern : Value) :
    (∃ text, LitAs pattern text) ∨ ∃ fault, ∀ id, Segment.lights pattern id = .error fault := by
  cases pattern with
  | text s => exact .inl ⟨s, litAs_text s⟩
  | list items =>
    refine .inl ⟨String.ofList (Segment.ids.filter fun id =>
      items.any fun item => item == .text id.toString), fun id hid => ?_⟩
    refine congrArg Except.ok (Bool.eq_iff_iff.mpr ?_)
    simp [hid]
  | nothing | flag _ | int _ | real _ => exact .inr ⟨_, fun _ => rfl⟩

/-- Bars are drawn one after the other. -/
theorem drawBars_apply {pattern : Value} {text : String} (scale : Int)
    (bars : List (Char × List Point)) (window : Window)
    (hlit : ∀ bar ∈ bars, Segment.lights pattern bar.1 = .ok (text.toList.contains bar.1)) :
    (bars.mapM fun (id, outline) => do
      let lit ← Segment.lights pattern id
      emit (.polygon (segmentColour lit) (outline.map (place scale)))
      return lit : Act Window (List Bool)) window =
      .ok (bars.map fun bar => text.toList.contains bar.1)
        { window with drawings := window.drawings ++ (barCalls scale text bars).toArray } := by
  induction bars generalizing window with
  | nil => simp [barCalls]
  | cons bar rest ih =>
    have hrest := fun drawn => ih drawn fun later hlater =>
      hlit later (List.mem_cons_of_mem _ hlater)
    rw [List.mapM_cons]
    simp only [hlit bar List.mem_cons_self, bind_apply, lift_ok_apply, emit, modify_apply,
      pure_apply]
    simp only [emit] at hrest
    rw [hrest]
    simp [barCalls]

theorem drawDigit_apply (window : Window) {text : String} (hlit : LitAs window.pattern text) :
    drawDigit window = .ok (Segment.ids.map text.toList.contains)
      { window with
        drawings := window.drawings ++ (barCalls window.scale text outlines ++
          [Drawing.circle (segmentColour (text.toList.contains 'p'))
            (place window.scale dotCentre) (dotRadius * window.scale)]).toArray } := by
  have hids : (outlines.map fun bar => text.toList.contains bar.1) ++
      [text.toList.contains 'p'] = Segment.ids.map text.toList.contains := rfl
  have hbars := drawBars_apply window.scale outlines window fun bar hbar =>
    hlit bar.1 (outlines_ids hbar)
  have hdot := hlit 'p' (by decide)
  simp only [drawDigit, bind_apply, get_apply]
  rw [hbars, ← hids]
  simp [hdot, emit]

theorem drawSwitch_apply (window : Window) : drawSwitch window = .ok ⟨⟩
    { window with
      drawings := window.drawings ++ [Drawing.rect switchRim (rimRect window.scale),
        Drawing.rect (if window.pressed then switchDown else switchUp)
          (faceRect window.scale window.pressed)].toArray } := by
  simp only [drawSwitch, emit, bind_apply, get_apply, modify_apply]
  congr 2

/-- A redraw on a screen makes the calls of its frame. -/
theorem redraw_of_litAs {window : Window} {text : String} (hscreen : window.hasScreen = true)
    (hlit : LitAs window.pattern text)
    (hworks : window.equipment.failingRedraw ≠ some ((window.redraws + 1 : Nat) : Int)) :
    redraw window = .ok ⟨⟩ (window.redrawn text) := by
  have hdigit := drawDigit_apply { window with
    redraws := window.redraws + 1
    drawings := window.drawings.push (.fill background) } hlit
  simp only [redraw, bind_apply, get_apply, if_pos hscreen, modify_apply, if_neg hworks, emit]
  rw [hdigit]
  simp only [drawSwitch_apply, redrawn, frameCalls, Frame.of]
  congr 2

theorem redraw_apply {window : Window} {pattern : String} (hscreen : window.hasScreen = true)
    (hpattern : window.pattern = .text pattern)
    (hworks : window.equipment.failingRedraw ≠ some ((window.redraws + 1 : Nat) : Int)) :
    redraw window = .ok ⟨⟩ (window.redrawn pattern) :=
  redraw_of_litAs hscreen (hpattern ▸ litAs_text pattern) hworks

/-- Whatever the window shows, a redraw makes calls of its frame from the first one on, and all of
them if there is a screen and nothing fails. -/
theorem redraw_draws (window : Window) : ∃ pattern calls,
    (redraw.result window).2.drawings = window.drawings ++ calls.toArray ∧
    calls <+: frameCalls window.scale pattern window.pressed ∧
    (window.hasScreen = true → (redraw.result window).1 = .ok ⟨⟩ →
      calls = frameCalls window.scale pattern window.pressed) := by
  by_cases hscreen : window.hasScreen = true
  · by_cases hworks : window.equipment.failingRedraw = some ((window.redraws + 1 : Nat) : Int)
    · have hfails : redraw window = .error .drawFailed
          { window with redraws := window.redraws + 1 } := by
        simp only [redraw, bind_apply, get_apply, if_pos hscreen, modify_apply, if_pos hworks,
          throw_apply]
      rw [result_of_error hfails]
      exact ⟨"", [], by simp, List.nil_prefix, nofun⟩
    · obtain ⟨text, hlit⟩ | ⟨fault, hfault⟩ := litAs_or_unsuitable window.pattern
      · rw [result_of_ok (redraw_of_litAs hscreen hlit hworks)]
        exact ⟨text, _, rfl, List.prefix_rfl, fun _ _ => rfl⟩
      · have hfails : redraw window = .error fault { window with
            redraws := window.redraws + 1
            drawings := window.drawings.push (.fill background) } := by
          simp only [redraw, bind_apply, get_apply, if_pos hscreen, modify_apply, if_neg hworks,
            emit, drawDigit, outlines, List.mapM_cons, hfault, lift_error_apply]
        rw [result_of_error hfails]
        exact ⟨"", [.fill background], by simp, ⟨_, rfl⟩, nofun⟩
  · have hidle : redraw window = .ok ⟨⟩ window := by
      simp only [redraw, bind_apply, get_apply, if_neg hscreen, pure_apply]
    rw [result_of_ok hidle]
    exact ⟨"", [], by simp, List.nil_prefix, fun h => absurd h hscreen⟩

/-- The window once what was drawn is on the screen. -/
def presented (window : Window) : Window :=
  if window.hasScreen && window.dirty then
    { window with drawings := window.drawings.push .flip, dirty := false }
  else window

/-- What was drawn is presented once. -/
theorem present_apply (window : Window) :
    present window = .ok (window.hasScreen && window.dirty) window.presented := by
  simp only [present, bind_apply, get_apply, presented]
  cases window.hasScreen && window.dirty <;> rfl

end DigitRace.Window
