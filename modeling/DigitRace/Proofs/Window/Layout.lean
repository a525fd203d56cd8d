import DigitRace.Proofs.Window.Redraw
import Mathlib.Data.Rat.Floor

/-!
# The picture in its window

The window has a side for the digit and a side for the switch, and at every scale each keeps to its
own: nothing is drawn outside the window, and the rim of the switch touches no segment, though it is
as wide at a large scale as at a small one. The pointer is on the switch wherever its face is, and
at a larger scale it is if and only if it would be at the place that is drawn larger.
-/

namespace DigitRace.Window

open Act

/-! ## Rectangles -/

namespace Rect

/-- A rectangle lies inside another. -/
structure Within (r outer : Rect) : Prop where
  left : outer.x ≤ r.x
  top : outer.y ≤ r.y
  right : r.x + r.width ≤ outer.x + outer.width
  bottom : r.y + r.height ≤ outer.y + outer.height

/-- Two rectangles have no place in common. -/
def Apart (r other : Rect) : Prop :=
  ∀ x y : Rat, ¬(r.covers x y = true ∧ other.covers x y = true)

variable {r outer other around box : Rect} {points : List Point}

theorem covers_iff {x y : Rat} : r.covers x y = true ↔
    (r.x : Rat) ≤ x ∧ x < (r.x + r.width : Int) ∧ (r.y : Rat) ≤ y ∧ y < (r.y + r.height : Int) := by
  simp [covers, and_assoc]

theorem covers_intCast {x y : Int} : r.covers x y = true ↔
    r.x ≤ x ∧ x < r.x + r.width ∧ r.y ≤ y ∧ y < r.y + r.height := by
  simp only [covers_iff, Int.cast_le, Int.cast_lt]

theorem Within.trans (h : r.Within outer) (h' : outer.Within around) : r.Within around :=
  ⟨h'.left.trans h.left, h'.top.trans h.top, h.right.trans h'.right, h.bottom.trans h'.bottom⟩

theorem Within.covers {x y : Rat} (h : r.Within outer) (hr : r.covers x y = true) :
    outer.covers x y = true := by
  rw [covers_iff] at hr ⊢
  obtain ⟨hleft, hright, htop, hbottom⟩ := hr
  exact ⟨(Int.cast_le.mpr h.left).trans hleft, hright.trans_le (Int.cast_le.mpr h.right),
    (Int.cast_le.mpr h.top).trans htop, hbottom.trans_le (Int.cast_le.mpr h.bottom)⟩

/-- What lies inside of rectangles that have nothing in common has nothing in common. -/
theorem Apart.within (h : outer.Apart around) (hr : r.Within outer) (hother : other.Within around) :
    r.Apart other :=
  fun x y hboth => h x y ⟨hr.covers hboth.1, hother.covers hboth.2⟩

/-- The smallest rectangle around some places, if there are any. Its right and lower edges are
outside, so that it is larger by one than the places are apart. -/
def around? (points : List Point) : Option Rect := do
  let left ← (points.map Point.x).min?
  let right ← (points.map Point.x).max?
  let top ← (points.map Point.y).min?
  let bottom ← (points.map Point.y).max?
  return ⟨left, top, right - left + 1, bottom - top + 1⟩

/-- The smallest rectangle around a circle. -/
def ofCircle (centre : Point) (radius : Int) : Rect :=
  ⟨centre.x - radius, centre.y - radius, 2 * radius + 1, 2 * radius + 1⟩

theorem exists_around? (h : points ≠ []) : ∃ box, around? points = some box := by
  have hmap (f : Point → Int) : points.map f ≠ [] := by simpa using h
  obtain ⟨left, hleft⟩ :=
    Option.isSome_iff_exists.mp (List.isSome_min?_of_ne_nil (hmap Point.x))
  obtain ⟨right, hright⟩ :=
    Option.isSome_iff_exists.mp (List.isSome_max?_of_ne_nil (hmap Point.x))
  obtain ⟨top, htop⟩ := Option.isSome_iff_exists.mp (List.isSome_min?_of_ne_nil (hmap Point.y))
  obtain ⟨bottom, hbottom⟩ :=
    Option.isSome_iff_exists.mp (List.isSome_max?_of_ne_nil (hmap Point.y))
  exact ⟨⟨left, top, right - left + 1, bottom - top + 1⟩,
    by simp [around?, hleft, hright, htop, hbottom]⟩

theorem le_least_iff {f : Point → Int} {low a : Int} (h : (points.map f).min? = some low) :
    a ≤ low ↔ ∀ p ∈ points, a ≤ f p := by
  rw [List.le_min?_iff h, List.forall_mem_map]

theorem greatest_le_iff {f : Point → Int} {high a : Int} (h : (points.map f).max? = some high) :
    high ≤ a ↔ ∀ p ∈ points, f p ≤ a := by
  rw [List.max?_le_iff h, List.forall_mem_map]

/-- The smallest rectangle lies inside another if and only if all the places do. -/
theorem within_iff_of_around? (h : around? points = some box) :
    box.Within outer ↔ ∀ p ∈ points, outer.covers p.x p.y = true := by
  simp only [around?, Option.bind_eq_bind, Option.bind_eq_some_iff, Option.pure_def,
    Option.some.injEq] at h
  obtain ⟨left, hleft, right, hright, top, htop, bottom, hbottom, rfl⟩ := h
  simp only [covers_intCast]
  constructor
  · rintro ⟨hfromLeft, hfromTop, htoRight, htoBottom⟩ p hp
    dsimp only at htoRight htoBottom
    have hx : p.x ≤ right := (greatest_le_iff hright).mp le_rfl p hp
    have hy : p.y ≤ bottom := (greatest_le_iff hbottom).mp le_rfl p hp
    exact ⟨(le_least_iff hleft).mp hfromLeft p hp, by omega, (le_least_iff htop).mp hfromTop p hp,
      by omega⟩
  · intro hinside
    have hx : right ≤ outer.x + outer.width - 1 :=
      (greatest_le_iff hright).mpr fun p hp => Int.le_sub_one_of_lt (hinside p hp).2.1
    have hy : bottom ≤ outer.y + outer.height - 1 :=
      (greatest_le_iff hbottom).mpr fun p hp => Int.le_sub_one_of_lt (hinside p hp).2.2.2
    refine ⟨(le_least_iff hleft).mpr fun p hp => (hinside p hp).1,
      (le_least_iff htop).mpr fun p hp => (hinside p hp).2.2.1, ?_, ?_⟩
    · dsimp only
      omega
    · dsimp only
      omega

end Rect

/-! ## The two sides of the window -/

/-- The window, as large as it is opened. -/
def screenRect (scale : Int) : Rect :=
  ⟨0, 0, windowWidth * scale, windowHeight * scale⟩

/-- The side of the window that the digit keeps to. -/
def digitSide (scale : Int) : Rect :=
  ⟨0, 0, (margin + digitWidth) * scale, windowHeight * scale⟩

/-- The side of the window that the switch keeps to. -/
def switchSide (scale : Int) : Rect :=
  ⟨(margin + digitWidth) * scale, 0, (2 * margin + switchSize) * scale, windowHeight * scale⟩

variable {scale : Int}

theorem digitSide_within (hscale : 1 ≤ scale) : (digitSide scale).Within (screenRect scale) := by
  constructor <;> simp only [digitSide, screenRect, windowWidth, windowHeight, margin, digitWidth,
    digitHeight, switchSize] <;> omega

theorem switchSide_within (hscale : 1 ≤ scale) : (switchSide scale).Within (screenRect scale) := by
  constructor <;> simp only [switchSide, screenRect, windowWidth, windowHeight, margin, digitWidth,
    digitHeight, switchSize] <;> omega

theorem digitSide_apart (scale : Int) : (digitSide scale).Apart (switchSide scale) := by
  intro x y hboth
  simp only [Rect.covers_iff, digitSide, switchSide, zero_add] at hboth
  exact absurd hboth.2.1 (not_le.mpr hboth.1.2.1)

theorem rimRect_within (hscale : 1 ≤ scale) : (rimRect scale).Within (switchSide scale) := by
  constructor <;> simp only [rimRect, switchRect, rimWidth, switchSide, windowHeight, margin,
    digitWidth, digitHeight, switchSize] <;> omega

theorem faceRect_within (hscale : 1 ≤ scale) (pressed : Bool) :
    (faceRect scale pressed).Within (switchRect scale) := by
  cases pressed <;> constructor <;> simp only [faceRect, switchRect, switchInset, if_true] <;> omega

theorem switchRect_within (hscale : 1 ≤ scale) : (switchRect scale).Within (switchSide scale) := by
  constructor <;> simp only [switchRect, switchSide, windowHeight, margin,
    digitWidth, digitHeight, switchSize] <;> omega

/-! ## What is drawn -/

/-- The smallest rectangle around what a call draws of the digit and the switch. -/
def Drawing.box? : Drawing → Option Rect
  | polygon _ points => Rect.around? points
  | circle _ centre radius => some (Rect.ofCircle centre radius)
  | rect _ r => some r
  | _ => none

/-- A call that draws a segment or the point. -/
def Drawing.OnDigit : Drawing → Prop
  | polygon _ _ | circle _ _ _ => True
  | _ => False

/-- What lies in the box of the digit is drawn on its side. -/
theorem covers_place (hscale : 1 ≤ scale) {p : Point} (hx : 0 ≤ p.x ∧ p.x < digitWidth)
    (hy : 0 ≤ p.y ∧ p.y < digitHeight) :
    (digitSide scale).covers (place scale p).x (place scale p).y = true := by
  have hscale' : 0 < scale := hscale
  have hmargin : 0 ≤ margin := by decide
  rw [Rect.covers_intCast]
  simp only [digitSide, place, zero_add]
  refine ⟨mul_nonneg (by omega) hscale'.le, mul_lt_mul_of_pos_right (by omega) hscale',
    mul_nonneg (by omega) hscale'.le, mul_lt_mul_of_pos_right ?_ hscale'⟩
  rw [windowHeight]
  omega

/-- The outlines of the bars lie in the box of the digit. -/
theorem outlines_inside : ∀ bar ∈ outlines, bar.2 ≠ [] ∧ ∀ p ∈ bar.2,
    (0 ≤ p.x ∧ p.x < digitWidth) ∧ 0 ≤ p.y ∧ p.y < digitHeight := by
  decide

theorem box_of_outline (hscale : 1 ≤ scale) {bar : Char × List Point} (hbar : bar ∈ outlines) :
    ∃ box, Rect.around? (bar.2.map (place scale)) = some box ∧ box.Within (digitSide scale) := by
  obtain ⟨hne, hinside⟩ := outlines_inside bar hbar
  have hplaced : bar.2.map (place scale) ≠ [] := by simpa using hne
  obtain ⟨box, hbox⟩ := Rect.exists_around? hplaced
  refine ⟨box, hbox, (Rect.within_iff_of_around? hbox).mpr ?_⟩
  rw [List.forall_mem_map]
  exact fun p hp => covers_place hscale (hinside p hp).1 (hinside p hp).2

theorem dot_within (hscale : 1 ≤ scale) :
    (Rect.ofCircle (place scale dotCentre) (dotRadius * scale)).Within (digitSide scale) := by
  constructor <;> simp only [Rect.ofCircle, place, dotCentre, dotRadius, digitSide, windowHeight,
    margin, digitWidth, digitHeight] <;> omega

variable {pattern : String} {pressed : Bool} {call : Drawing}

/-- A frame is drawn on the two sides of the window, each part on its own. -/
theorem box_of_mem_frameCalls (hscale : 1 ≤ scale) (h : call ∈ frameCalls scale pattern pressed) :
    call = .fill background ∨
      (∃ box, call.box? = some box ∧ box.Within (digitSide scale)) ∨
      ¬call.OnDigit ∧ ∃ box, call.box? = some box ∧ box.Within (switchSide scale) := by
  simp only [frameCalls, barCalls, List.mem_cons, List.mem_append, List.mem_map, List.not_mem_nil,
    or_false] at h
  obtain rfl | ⟨bar, hbar, rfl⟩ | rfl | rfl | rfl := h
  · exact .inl rfl
  · exact .inr (.inl (box_of_outline hscale hbar))
  · exact .inr (.inl ⟨_, rfl, dot_within hscale⟩)
  · exact .inr (.inr ⟨id, _, rfl, rimRect_within hscale⟩)
  · have hface := (faceRect_within hscale pressed).trans (switchRect_within hscale)
    exact .inr (.inr ⟨id, _, rfl, hface⟩)

/-- Nothing of a frame is drawn outside the window. -/
theorem frameCalls_inside (hscale : 1 ≤ scale) (h : call ∈ frameCalls scale pattern pressed) :
    call = .fill background ∨ ∃ box, call.box? = some box ∧ box.Within (screenRect scale) := by
  obtain hfill | ⟨box, hbox, hwithin⟩ | ⟨-, box, hbox, hwithin⟩ := box_of_mem_frameCalls hscale h
  · exact .inl hfill
  · exact .inr ⟨box, hbox, hwithin.trans (digitSide_within hscale)⟩
  · exact .inr ⟨box, hbox, hwithin.trans (switchSide_within hscale)⟩

/-- The digit and the switch do not touch. -/
theorem frameCalls_apart (hscale : 1 ≤ scale) (h : call ∈ frameCalls scale pattern pressed)
    (hdigit : call.OnDigit) :
    ∃ box, call.box? = some box ∧ box.Apart (rimRect scale) := by
  obtain rfl | ⟨box, hbox, hwithin⟩ | ⟨hswitch, -⟩ := box_of_mem_frameCalls hscale h
  · exact hdigit.elim
  · exact ⟨box, hbox, (digitSide_apart scale).within hwithin (rimRect_within hscale)⟩
  · exact absurd hdigit hswitch

theorem faceRect_nonempty (hscale : 1 ≤ scale) (pressed : Bool) :
    0 < (faceRect scale pressed).width ∧ 0 < (faceRect scale pressed).height := by
  cases pressed <;> constructor <;>
    simp only [faceRect, switchRect, switchSize, switchInset, if_true] <;> omega

/-! ## The pointer -/

/-- The pointer is on the switch where the square of the switch is. -/
theorem onSwitch_int (scale x y : Int) :
    onSwitch scale (.int x) (.int y) = .ok ((switchRect scale).covers x y) := by
  simp only [onSwitch, Value.number_int]
  by_cases hacross : ((switchRect scale).x : Rat) ≤ x ∧
      (x : Rat) < ((switchRect scale).x + (switchRect scale).width : Int)
  · exact if_pos hacross
  · have hmisses : (switchRect scale).covers x y = false := by
      rw [← Bool.not_eq_true, Rect.covers_iff]
      exact fun hcovers => hacross ⟨hcovers.1, hcovers.2.1⟩
    rw [hmisses]
    exact if_neg hacross

theorem le_floor_div_iff (hscale : 1 ≤ scale) {a x : Int} :
    a ≤ ⌊(x : Rat) / scale⌋ ↔ a * scale ≤ x := by
  have hscale' : (0 : Rat) < scale := by exact_mod_cast hscale
  rw [Int.le_floor, le_div_iff₀ hscale']
  exact_mod_cast Iff.rfl

theorem floor_div_lt_iff (hscale : 1 ≤ scale) {x b : Int} :
    ⌊(x : Rat) / scale⌋ < b ↔ x < b * scale := by
  rw [← not_le, le_floor_div_iff hscale, not_le]

/-- The square of the switch covers a place if at scale 1 it covers what is drawn there. -/
theorem switchRect_covers_iff (hscale : 1 ≤ scale) (x y : Int) :
    (switchRect scale).covers x y = true ↔
      (switchRect 1).covers ⌊(x : Rat) / scale⌋ ⌊(y : Rat) / scale⌋ = true := by
  rw [Rect.covers_intCast, Rect.covers_intCast]
  simp only [switchRect, mul_one, ← add_mul, le_floor_div_iff hscale, floor_div_lt_iff hscale]

/-- Whatever the window shows, and at every scale, a redraw keeps to the window, each part of the
picture to its place in it.

The calls of a redraw are those of the frame from the first one on, all of them if it is completed.
What they draw lies inside the window, and the smallest rectangle around each segment and around the
point has nothing in common with the rim of the switch. The face of the switch is not empty, and the
pointer is on the switch wherever its face is. It is on the switch of a window that is scaled up if
and only if it is on that of scale 1 at the place that is drawn there. -/
theorem redraw_fits_window (window : Window) (hscale : 1 ≤ window.scale) :
    (∃ pattern calls, (redraw.result window).2.drawings = window.drawings ++ calls.toArray ∧
      calls <+: frameCalls window.scale pattern window.pressed ∧
      (window.hasScreen = true → (redraw.result window).1 = .ok ⟨⟩ →
        calls = frameCalls window.scale pattern window.pressed) ∧
      (∀ call ∈ calls, call = .fill background ∨
        ∃ box, call.box? = some box ∧ box.Within (screenRect window.scale)) ∧
      ∀ call ∈ calls, call.OnDigit →
        ∃ box, call.box? = some box ∧ box.Apart (rimRect window.scale)) ∧
    0 < (faceRect window.scale window.pressed).width ∧
    0 < (faceRect window.scale window.pressed).height ∧
    (∀ x y : Int, (faceRect window.scale window.pressed).covers x y = true →
      onSwitch window.scale (.int x) (.int y) = .ok true) ∧
    ∀ x y : Int, ∃ hit, onSwitch window.scale (.int x) (.int y) = .ok hit ∧
      onSwitch 1 (.int ⌊(x : Rat) / window.scale⌋) (.int ⌊(y : Rat) / window.scale⌋) = .ok hit := by
  obtain ⟨pattern, calls, hdrawn, hbegins, hall⟩ := redraw_draws window
  obtain ⟨hwidth, hheight⟩ := faceRect_nonempty hscale window.pressed
  refine ⟨⟨pattern, calls, hdrawn, hbegins, hall,
    fun call hcall => frameCalls_inside hscale (hbegins.subset hcall),
    fun call hcall => frameCalls_apart hscale (hbegins.subset hcall)⟩, hwidth, hheight, ?_, ?_⟩
  · intro x y hface
    rw [onSwitch_int, (faceRect_within hscale window.pressed).covers hface]
  · intro x y
    refine ⟨_, onSwitch_int _ _ _, ?_⟩
    rw [onSwitch_int, Bool.eq_iff_iff.mpr (switchRect_covers_iff hscale x y)]

/-- On a window three times as large, the lowest row of pixels of the switch is the third of those
that are drawn for row 234, and the next one is not on the switch. -/
theorem redraw_fits_window_threefold :
    let window : Window := { scale := 3, hasScreen := true, pattern := .text "ap", pressed := true }
    1 ≤ window.scale ∧ (redraw.result window).1 = .ok ⟨⟩ ∧
      (∃ pattern calls, (redraw.result window).2.drawings = window.drawings ++ calls.toArray ∧
        calls = frameCalls 3 pattern true ∧
        ∀ call ∈ calls, call.OnDigit → ∃ box, call.box? = some box ∧ box.Apart (rimRect 3)) ∧
      onSwitch 3 (.int 756) (.int 381) = .ok true ∧
      (∃ hit, onSwitch 3 (.int 750) (.int 704) = .ok hit ∧
        onSwitch 1 (.int ⌊((750 : Int) : Rat) / (3 : Int)⌋)
          (.int ⌊((704 : Int) : Rat) / (3 : Int)⌋) = .ok hit) ∧
      onSwitch 3 (.int 750) (.int 704) = .ok true ∧
      onSwitch 3 (.int 750) (.int 705) = .ok false := by
  intro window
  have hredraw : redraw window = .ok ⟨⟩ (window.redrawn "ap") := redraw_apply rfl rfl nofun
  have hok : (redraw.result window).1 = .ok ⟨⟩ := by rw [result_of_ok hredraw]
  obtain ⟨⟨pattern, calls, hdrawn, -, hall, -, hapart⟩, -, -, hface, hscaled⟩ :=
    redraw_fits_window window (by decide)
  refine ⟨by decide, hok, ⟨pattern, calls, hdrawn, hall rfl hok, hapart⟩,
    hface 756 381 (by decide +kernel), hscaled 750 704, ?_, ?_⟩
  · exact (onSwitch_int 3 750 704).trans (congrArg Except.ok (by decide +kernel))
  · exact (onSwitch_int 3 750 705).trans (congrArg Except.ok (by decide +kernel))

end DigitRace.Window
