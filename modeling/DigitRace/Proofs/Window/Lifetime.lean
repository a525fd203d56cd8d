import DigitRace.Proofs.Session.Closing
import DigitRace.Window.Bench
import Mathlib.Data.List.Chain

/-!
# While a window is open

The library is told to open the window and to close it in turn, whatever is called on the window
and in whatever order, and nothing is done on the screen before it was opened for the first time.
A window that was closed keeps its screen, however: what is called on it then is still done, and
only those who call nothing but starts and stops on a window that is closed have all of it done
while the window is open.
-/

namespace DigitRace

open Act

namespace Window

/-- A call that needs an open window: it draws something, or brings it onto the screen. -/
def Drawing.OnScreen (drawing : Drawing) : Prop :=
  drawing.Draws ∨ drawing = .flip

/-- Whether a call opens the window or closes it, if it does either. -/
def Drawing.turn? : Drawing → Option Bool
  | .init => some true
  | .quit => some false
  | _ => none

/-- The openings and closings among some calls, in their order. -/
def turns (drawings : List Drawing) : List Bool :=
  drawings.filterMap Drawing.turn?

/-- After these calls the window is open: it was opened, and not closed since. -/
def OpenAfter (drawings : List Drawing) : Prop :=
  (turns drawings).getLast? = some true

/-- Whatever is done on the screen is done after calls of a kind. -/
def OnlyAfter (kind : List Drawing → Prop) (drawings : List Drawing) : Prop :=
  ∀ before drawing later, drawings = before ++ drawing :: later → drawing.OnScreen → kind before

variable {kind : List Drawing → Prop} {drawings : List Drawing} {drawing : Drawing}
  {window : Window}

theorem turns_concat : turns (drawings ++ [drawing]) = turns drawings ++ drawing.turn?.toList := by
  cases hturn : drawing.turn? <;> simp [turns, hturn]

theorem Drawing.OnScreen.turn?_eq (h : drawing.OnScreen) : drawing.turn? = none := by
  rcases h with hdraws | rfl
  · cases drawing <;> first | rfl | cases hdraws
  · rfl

/-- One more call is to be made after calls of the kind, if it needs a window. -/
theorem OnlyAfter.concat (h : OnlyAfter kind drawings) (hkind : drawing.OnScreen → kind drawings) :
    OnlyAfter kind (drawings ++ [drawing]) := by
  intro before middle later hsplit hscreen
  rcases List.eq_nil_or_concat' later with rfl | ⟨rest, last, rfl⟩
  · obtain ⟨rfl, hlast⟩ := List.append_inj' hsplit rfl
    obtain rfl := List.singleton_inj.mp hlast
    exact hkind hscreen
  · rw [← List.cons_append, ← List.append_assoc] at hsplit
    exact h before middle rest (List.append_inj_left' hsplit rfl) hscreen

/-- A kind that begins when the window is opened and lasts at least until it is closed. -/
structure Lasts (kind : List Drawing → Prop) : Prop where
  opens : ∀ drawings, kind (drawings ++ [.init])
  stays : ∀ drawings drawing, drawing ≠ .quit → kind drawings → kind (drawings ++ [drawing])

theorem lasts_opened : Lasts (.init ∈ ·) :=
  ⟨fun _ => by simp, fun _ _ _ h => List.mem_append_left _ h⟩

theorem lasts_openAfter : Lasts OpenAfter := by
  refine ⟨fun drawings => by simp [OpenAfter, turns_concat, Drawing.turn?], ?_⟩
  intro drawings drawing hquit h
  have hturn : drawing.turn? = none ∨ drawing.turn? = some true := by
    cases drawing <;> simp [Drawing.turn?] at hquit ⊢
  unfold OpenAfter at h ⊢
  rcases hturn with hnone | hopens
  · rwa [turns_concat, hnone, Option.toList_none, List.append_nil]
  · rw [turns_concat, hopens, Option.toList_some, List.getLast?_concat]

/-- What lasts until the window is closed lasts while it is not closed. -/
theorem Lasts.append (hkind : Lasts kind) {more : List Drawing} (h : kind drawings)
    (hquit : .quit ∉ more) : kind (drawings ++ more) := by
  induction more generalizing drawings with
  | nil => rwa [List.append_nil]
  | cons drawing rest ih =>
    rw [List.mem_cons, not_or] at hquit
    rw [List.append_cons]
    exact ih (hkind.stays drawings drawing (Ne.symm hquit.1) h) hquit.2

/-! ## What the library is told -/

/-- The window was opened and closed in turn, and is open now or not. Whatever was done on the
screen was done after calls of a kind. -/
structure Told (kind : List Drawing → Prop) (isOpen : Bool) (drawings : List Drawing) : Prop where
  turned : (false :: turns drawings).IsChain (· ≠ ·)
  last : (false :: turns drawings).getLast? = some isOpen
  onScreen : OnlyAfter kind drawings

variable {isOpen : Bool}

/-- A call that neither opens nor closes the window leaves it as it is. -/
theorem Told.concat (h : Told kind isOpen drawings) (hturn : drawing.turn? = none)
    (hkind : drawing.OnScreen → kind drawings) : Told kind isOpen (drawings ++ [drawing]) := by
  have hturns : turns (drawings ++ [drawing]) = turns drawings := by
    rw [turns_concat, hturn, Option.toList_none, List.append_nil]
  constructor
  · rw [hturns]
    exact h.turned
  · rw [hturns]
    exact h.last
  · exact h.onScreen.concat hkind

/-- Calls that neither open nor close the window, and do not need it. -/
theorem Told.append (h : Told kind isOpen drawings) {more : List Drawing}
    (hmore : ∀ drawing ∈ more, drawing.turn? = none ∧ ¬ drawing.OnScreen) :
    Told kind isOpen (drawings ++ more) := by
  induction more generalizing drawings with
  | nil => rwa [List.append_nil]
  | cons drawing rest ih =>
    obtain ⟨hturn, hscreen⟩ := hmore drawing List.mem_cons_self
    rw [List.append_cons]
    exact ih (h.concat hturn fun hneeds => absurd hneeds hscreen) fun later hlater =>
      hmore later (List.mem_cons_of_mem _ hlater)

/-- A window that is closed is opened, and one that is open is closed. -/
theorem Told.turn (h : Told kind isOpen drawings) (hturn : drawing.turn? = some (!isOpen)) :
    Told kind (!isOpen) (drawings ++ [drawing]) := by
  have hturns : turns (drawings ++ [drawing]) = turns drawings ++ [!isOpen] := by
    rw [turns_concat, hturn, Option.toList_some]
  constructor
  · rw [hturns, ← List.cons_append]
    refine List.isChain_append.mpr ⟨h.turned, List.isChain_singleton _, ?_⟩
    intro last hlast next hnext
    obtain rfl : isOpen = last := by simpa [h.last] using hlast
    obtain rfl : (!isOpen) = next := by simpa using hnext
    cases isOpen <;> decide
  · rw [hturns, ← List.cons_append, List.getLast?_concat]
  · refine h.onScreen.concat fun hscreen => ?_
    rw [hscreen.turn?_eq] at hturn
    cases hturn

/-! ## What the window remembers -/

/-- A window knows whether it is open, and it has a screen only if it can be opened. -/
structure Sound (kind : List Drawing → Prop) (window : Window) : Prop where
  told : Told kind window.isOpen window.drawings.toList
  equipped : window.hasScreen = true → window.equipment.library = true

/-- What is called on a window will be done after calls of a kind. -/
structure Lives (kind : List Drawing → Prop) (window : Window) : Prop
    extends Sound kind window where
  begun : window.hasScreen = true → kind window.drawings.toList

/-- A new window was not opened yet. -/
theorem new_lives (kind : List Drawing → Prop) (scale : Int) (equipment : Equipment) :
    Lives kind { scale, equipment } :=
  ⟨⟨⟨List.isChain_singleton _, rfl, fun _ _ _ hsplit => by simp at hsplit⟩, nofun⟩, nofun⟩

/-- On a screen that is there, drawing is done after calls of the kind. -/
theorem lives_steadfast (hkind : Lasts kind) :
    Steadfast fun window => Lives kind window ∧ window.hasScreen = true := by
  refine ⟨fun window _ _ _ h => ⟨⟨⟨h.1.told, h.1.equipped⟩, h.1.begun⟩, h.2⟩, ?_⟩
  intro window drawing hdraws h
  have hscreen : drawing.OnScreen := .inl hdraws
  have hquit : drawing ≠ .quit := by
    rintro rfl
    exact hdraws
  have hbegun := h.1.begun h.2
  refine ⟨⟨⟨?_, h.1.equipped⟩, fun _ => ?_⟩, h.2⟩
  · rw [Array.toList_push]
    exact h.1.told.concat hscreen.turn?_eq fun _ => hbegun
  · rw [Array.toList_push]
    exact hkind.stays _ _ hquit hbegun

theorem keeps_lives_redraw (hkind : Lasts kind) : Keeps (Lives kind) redraw := by
  intro window h
  cases hscreen : window.hasScreen with
  | true => exact ((lives_steadfast hkind).keeps_redraw window ⟨h, hscreen⟩).1
  | false =>
    have hstays : redraw window = .ok ⟨⟩ window := by simp [redraw, hscreen]
    rwa [result_of_ok hstays]

theorem keeps_lives_showPattern (hkind : Lasts kind) (pattern : Value) :
    Keeps (Lives kind) (showPattern pattern) :=
  Keeps.bind (.modify fun _ h => ⟨⟨h.told, h.equipped⟩, h.begun⟩) fun _ => keeps_lives_redraw hkind

theorem keeps_lives_showSwitch (hkind : Lasts kind) (pressed : Bool) :
    Keeps (Lives kind) (showSwitch pressed) :=
  Keeps.bind (.modify fun _ h => ⟨⟨h.told, h.equipped⟩, h.begun⟩) fun _ => keeps_lives_redraw hkind

theorem keeps_lives_respond (keyDown : Bool) (event : Event) :
    Keeps (Lives kind) (respond keyDown event) :=
  keeps_respond (fun _ _ h => ⟨⟨h.told, h.equipped⟩, h.begun⟩) keyDown event

theorem keeps_lives_present (hkind : Lasts kind) : Keeps (Lives kind) present := by
  intro window h
  rw [result_of_ok (present_apply window), presented]
  split
  next hshows =>
    have hscreen : window.hasScreen = true := by
      rw [Bool.and_eq_true] at hshows
      exact hshows.1
    have hbegun := h.begun hscreen
    refine ⟨⟨?_, h.equipped⟩, fun _ => ?_⟩
    · rw [Array.toList_push]
      exact h.told.concat rfl fun _ => hbegun
    · rw [Array.toList_push]
      exact hkind.stays _ _ (by decide) hbegun
  next => exact h

/-- Once the window is opened, the other calls that make it are told at leisure. -/
theorem still_of_mem_startCalls (h : drawing ∈ window.startCalls.tail) :
    drawing.turn? = none ∧ ¬ drawing.OnScreen := by
  simp only [startCalls, List.tail_cons, List.mem_append, List.mem_cons] at h
  rcases h with hsilence | rfl | rfl | hnone
  · split at hsilence
    · obtain rfl := List.mem_singleton.mp hsilence
      exact ⟨rfl, by simp [Drawing.OnScreen, Drawing.Draws]⟩
    · cases hsilence
  · exact ⟨rfl, by simp [Drawing.OnScreen, Drawing.Draws]⟩
  · exact ⟨rfl, by simp [Drawing.OnScreen, Drawing.Draws]⟩
  · cases hnone

/-- A window that was just made is open. -/
theorem started_lives (hkind : Lasts kind) (h : Sound kind window) (hclosed : window.isOpen = false)
    (hlibrary : window.equipment.library = true) : Lives kind window.started := by
  have hcalls : window.started.drawings.toList =
      window.drawings.toList ++ [.init] ++ window.startCalls.tail := by
    simp [started, startCalls]
  have hopened : Told kind true (window.drawings.toList ++ [.init]) := by
    have htold := h.told
    rw [hclosed] at htold
    exact htold.turn rfl
  have hquit : .quit ∉ window.startCalls.tail := fun hmem => by
    cases (still_of_mem_startCalls hmem).1
  refine ⟨⟨?_, fun _ => hlibrary⟩, fun _ => ?_⟩
  · rw [hcalls]
    exact hopened.append fun _ => still_of_mem_startCalls
  · rw [hcalls]
    exact hkind.append (hkind.opens _) hquit

/-- To start a window that is closed opens it, unless there is no library. -/
theorem start_lives (hkind : Lasts kind) (h : Sound kind window) (hclosed : window.isOpen = false) :
    Lives kind (start.result window).2 := by
  cases hlibrary : window.equipment.library with
  | false =>
    have hstays : start window = .error .noLibrary window := by
      simp [start, hclosed, hlibrary]
    have hnone : ¬ window.hasScreen = true := fun hscreen => by
      simp [h.equipped hscreen] at hlibrary
    rw [result_of_error hstays]
    exact ⟨h, fun hscreen => absurd hscreen hnone⟩
  | true =>
    have hredraw := keeps_lives_redraw hkind _ (started_lives hkind h hclosed hlibrary)
    unfold Act.result at hredraw ⊢
    rwa [start_apply hclosed hlibrary]

theorem keeps_lives_start (hkind : Lasts kind) : Keeps (Lives kind) start := by
  intro window h
  cases hopen : window.isOpen with
  | true =>
    have hstays : start window = .ok ⟨⟩ window := by simp [start, hopen]
    rwa [result_of_ok hstays]
  | false => exact start_lives hkind h.toSound hopen

/-- To stop a window leaves it closed. -/
theorem stop_sound (h : Sound kind window) : Sound kind (stop.result window).2 ∧
    (stop.result window).2.isOpen = false := by
  cases hopen : window.isOpen with
  | true =>
    have hclosed : Told kind (!window.isOpen) (window.drawings.toList ++ [.quit]) :=
      h.told.turn (by rw [hopen]; rfl)
    rw [result_of_ok (stop_apply hopen)]
    refine ⟨⟨?_, h.equipped⟩, rfl⟩
    rw [Array.toList_push]
    rwa [hopen] at hclosed
  | false =>
    have hstays : stop window = .ok ⟨⟩ window := by simp [stop, hopen]
    rw [result_of_ok hstays]
    exact ⟨h, hopen⟩

theorem keeps_lives_stop (hquit : ∀ drawings, kind drawings → kind (drawings ++ [.quit])) :
    Keeps (Lives kind) stop := by
  intro window h
  refine ⟨(stop_sound h.toSound).1, ?_⟩
  cases hopen : window.isOpen with
  | true =>
    rw [result_of_ok (stop_apply hopen), Array.toList_push]
    exact fun hscreen => hquit _ (h.begun hscreen)
  | false =>
    have hstays : stop window = .ok ⟨⟩ window := by simp [stop, hopen]
    rw [result_of_ok hstays]
    exact h.begun

/-! ## Calls on the window -/

/-- What can be called on a window, one thing after the other. -/
inductive Call where
  | start
  | stop
  | pattern (pattern : Value)
  | switch (pressed : Bool)
  | present
  | redraw
  | respond (keyDown : Bool) (event : Event)

/-- The window after a call, also after one that has failed. -/
def called (window : Window) : Call → Window
  | .start => (start.result window).2
  | .stop => (stop.result window).2
  | .pattern pattern => ((showPattern pattern).result window).2
  | .switch pressed => ((showSwitch pressed).result window).2
  | .present => (present.result window).2
  | .redraw => (redraw.result window).2
  | .respond keyDown event => ((respond keyDown event).result window).2

/-- The window after one call after the other. -/
def afterCalls (calls : List Call) (window : Window) : Window :=
  calls.foldl called window

/-- Whatever is called on a window but to stop it, what is done next will be done after calls of the
kind. -/
theorem Lives.called (hkind : Lasts kind) {call : Call} (hcall : call ≠ .stop)
    (h : Lives kind window) : Lives kind (window.called call) := by
  cases call with
  | start => exact keeps_lives_start hkind window h
  | stop => exact absurd rfl hcall
  | pattern pattern => exact keeps_lives_showPattern hkind pattern window h
  | switch pressed => exact keeps_lives_showSwitch hkind pressed window h
  | present => exact keeps_lives_present hkind window h
  | redraw => exact keeps_lives_redraw hkind window h
  | respond keyDown event => exact keeps_lives_respond keyDown event window h

/-- What lasts when the window is closed lasts whatever is called. -/
theorem Lives.afterCalls (hkind : Lasts kind) {calls : List Call} (h : Lives kind window)
    (hcalls : .stop ∈ calls → ∀ drawings, kind drawings → kind (drawings ++ [.quit])) :
    Lives kind (window.afterCalls calls) := by
  induction calls generalizing window with
  | nil => exact h
  | cons call rest ih =>
    have hnext : Lives kind (window.called call) := by
      by_cases hstop : call = .stop
      · subst hstop
        exact keeps_lives_stop (hcalls List.mem_cons_self) window h
      · exact h.called hkind hstop
    exact ih hnext fun hmem => hcalls (List.mem_cons_of_mem _ hmem)

end Window

/-! ## A window and those around it -/

/-- A window in a larger state, with a key. Those who are told of its edges may do whatever they
like, but they do to the window nothing but what can be called on it. -/
structure Owner (σ : Type) where
  window : Part σ Window
  keyDown : σ → Bool
  move : Bool → Act σ Unit
  window_put : ∀ w s, window.get (window.put w s) = w
  move_calls : ∀ pressed s, ∃ calls,
    window.get ((move pressed).result s).2 = (window.get s).afterCalls calls

namespace Owner

variable {σ : Type} (owner : Owner σ)

/-- What an owner can do with the window. -/
inductive Deed where
  | start
  | stop
  | pattern (pattern : Value)
  | switch (pressed : Bool)
  | present
  | poll (events : List Window.Event)

/-- The state after a deed, also after one that has failed. -/
def did (s : σ) : Deed → σ
  | .start => ((owner.window.run Window.start).result s).2
  | .stop => ((owner.window.run Window.stop).result s).2
  | .pattern pattern => ((owner.window.run (Window.showPattern pattern)).result s).2
  | .switch pressed => ((owner.window.run (Window.showSwitch pressed)).result s).2
  | .present => ((owner.window.run Window.present).result s).2
  | .poll events => ((Window.poll owner.window owner.keyDown owner.move events).result s).2

/-- All calls of the library, after one deed after the other. -/
def drawings (deeds : List Deed) (s : σ) : List Window.Drawing :=
  (owner.window.get (deeds.foldl owner.did s)).drawings.toList

/-- After a stop there is nothing but another stop before the next start. -/
def Seemly : Bool → List Deed → Prop
  | _, [] => True
  | _, .start :: rest => Seemly false rest
  | _, .stop :: rest => Seemly true rest
  | stopped, _ :: rest => stopped = false ∧ Seemly false rest

/-- Those who are told of an edge never stop the window. -/
def Unstopped : Prop :=
  ∀ pressed s, ∃ calls, .stop ∉ calls ∧
    owner.window.get ((owner.move pressed).result s).2 = (owner.window.get s).afterCalls calls

variable {owner} {kind : List Window.Drawing → Prop}

/-- A property of the window is kept by what keeps it there. -/
theorem keeps_window {α : Type} {holds : Window → Prop} {act : Act Window α} (h : Keeps holds act) :
    Keeps (fun s => holds (owner.window.get s)) (owner.window.run act) :=
  .run fun s hs => by
    rw [owner.window_put]
    exact h _ hs

section

variable (hkind : Window.Lasts kind)
  (hmove : ∀ pressed, Keeps (fun s => Window.Lives kind (owner.window.get s)) (owner.move pressed))

include hkind hmove

/-- What is done next will be done after calls of the kind also once events were polled. -/
theorem keeps_lives_poll (events : List Window.Event) :
    Keeps (fun s => Window.Lives kind (owner.window.get s))
      (Window.poll owner.window owner.keyDown owner.move events) := by
  have hall : Keeps (fun s => Window.Lives kind (owner.window.get s))
      (Window.respondAll owner.window owner.keyDown owner.move events) := by
    induction events with
    | nil => exact .pure _
    | cons event rest ih =>
      refine .get_bind fun s => ?_
      refine (keeps_window (Window.keeps_lives_respond _ event)).bind (fun response => ?_) s
      cases response with
      | close => exact .pure _
      | edge pressed => exact (hmove pressed).bind fun _ => ih
      | redraw => exact (keeps_window (Window.keeps_lives_redraw hkind)).bind fun _ => ih
      | nothing => exact ih
  exact .get_bind fun s => Keeps.ite (fun _ => hall) (fun _ => .pure _) s

/-- Whatever the owner does but to stop the window. -/
theorem lives_did {deed : Deed} (hdeed : deed ≠ .stop) {s : σ}
    (h : Window.Lives kind (owner.window.get s)) :
    Window.Lives kind (owner.window.get (owner.did s deed)) := by
  cases deed with
  | start => exact keeps_window (Window.keeps_lives_start hkind) s h
  | stop => exact absurd rfl hdeed
  | pattern pattern => exact keeps_window (Window.keeps_lives_showPattern hkind pattern) s h
  | switch pressed => exact keeps_window (Window.keeps_lives_showSwitch hkind pressed) s h
  | present => exact keeps_window (Window.keeps_lives_present hkind) s h
  | poll events => exact keeps_lives_poll hkind hmove events s h

end

/-- Those who are told of an edge leave the window such that what is done on it next is done after
it was first opened. -/
theorem keeps_opened_move (pressed : Bool) :
    Keeps (fun s => Window.Lives (.init ∈ ·) (owner.window.get s)) (owner.move pressed) := by
  intro s h
  obtain ⟨calls, hcalls⟩ := owner.move_calls pressed s
  rw [hcalls]
  exact h.afterCalls Window.lasts_opened fun _ _ => List.mem_append_left _

/-- Whatever the owner does, what is done next is done after the window was first opened. -/
theorem opened_deeds (deeds : List Deed) {s : σ}
    (h : Window.Lives (.init ∈ ·) (owner.window.get s)) :
    Window.Lives (.init ∈ ·) (owner.window.get (deeds.foldl owner.did s)) := by
  induction deeds generalizing s with
  | nil => exact h
  | cons deed rest ih =>
    apply ih
    by_cases hstop : deed = .stop
    · subst hstop
      exact keeps_window (Window.keeps_lives_stop fun _ => List.mem_append_left _) s h
    · exact lives_did Window.lasts_opened keeps_opened_move hstop h

/-- A window that was not stopped is open whenever something is done on it next, and one that was
stopped is closed. -/
def Kempt : Bool → Window → Prop
  | false, window => Window.Lives Window.OpenAfter window
  | true, window => Window.Sound Window.OpenAfter window ∧ window.isOpen = false

theorem Kempt.sound {stopped : Bool} {window : Window} (h : Kempt stopped window) :
    Window.Sound Window.OpenAfter window := by
  cases stopped with
  | false => exact h.toSound
  | true => exact h.1

/-- To stop the window keeps it kempt as stopped. -/
theorem Kempt.stop {stopped : Bool} {s : σ} (h : Kempt stopped (owner.window.get s)) :
    Kempt true (owner.window.get (owner.did s .stop)) := by
  have hclosed := Window.stop_sound h.sound
  rw [did, result_run, owner.window_put]
  exact hclosed

/-- To start the window keeps it kempt as open. -/
theorem Kempt.start {stopped : Bool} {s : σ} (h : Kempt stopped (owner.window.get s)) :
    Kempt false (owner.window.get (owner.did s .start)) := by
  rw [did, result_run, owner.window_put]
  cases stopped with
  | false => exact Window.keeps_lives_start Window.lasts_openAfter _ h
  | true => exact Window.start_lives Window.lasts_openAfter h.1 h.2

/-- As long as it is seemly, nothing is done on a window that is closed. -/
theorem Kempt.deeds (hunstopped : owner.Unstopped) {deeds : List Deed} {stopped : Bool} {s : σ}
    (hseemly : Seemly stopped deeds) (h : Kempt stopped (owner.window.get s)) :
    Window.Sound Window.OpenAfter (owner.window.get (deeds.foldl owner.did s)) := by
  have hmove (pressed : Bool) :
      Keeps (fun s => Window.Lives Window.OpenAfter (owner.window.get s)) (owner.move pressed) := by
    intro s h
    obtain ⟨calls, hstop, hcalls⟩ := hunstopped pressed s
    rw [hcalls]
    exact h.afterCalls Window.lasts_openAfter fun hmem => absurd hmem hstop
  induction deeds generalizing stopped s with
  | nil => exact h.sound
  | cons deed rest ih =>
    -- Neither a start nor a stop: the window was not stopped.
    have hother (hdeed : deed ≠ .stop) (hrest : stopped = false ∧ Seemly false rest) :
        Window.Sound Window.OpenAfter (owner.window.get ((deed :: rest).foldl owner.did s)) := by
      obtain ⟨rfl, hrest⟩ := hrest
      exact ih hrest (lives_did Window.lasts_openAfter hmove hdeed h)
    cases deed with
    | start => exact ih hseemly h.start
    | stop => exact ih hseemly h.stop
    | pattern => exact hother nofun hseemly
    | switch => exact hother nofun hseemly
    | present => exact hother nofun hseemly
    | poll => exact hother nofun hseemly

/-- **The library opens and closes the window in turn.** Take a new window, with whatever key, and
whoever is told of its edges, and let its owner do anything with it in any order, failing or not.
The window is opened and closed in turn, first opened. Nothing is drawn or brought onto the screen
before it was first opened; and all of it is done while the window is open if the owner does nothing
with a window that was stopped before starting it again, and those who are told of an edge never
stop it. -/
theorem window_opened_and_closed_in_turn {s : σ} {scale : Int} {equipment : Window.Equipment}
    (hnew : owner.window.get s = { scale, equipment }) (deeds : List Deed) :
    (false :: Window.turns (owner.drawings deeds s)).IsChain (· ≠ ·) ∧
    Window.OnlyAfter (.init ∈ ·) (owner.drawings deeds s) ∧
    (Seemly false deeds → owner.Unstopped →
      Window.OnlyAfter Window.OpenAfter (owner.drawings deeds s)) := by
  have hopened : Window.Lives (.init ∈ ·) (owner.window.get s) := by
    rw [hnew]
    exact Window.new_lives _ scale equipment
  have hkempt : Kempt false (owner.window.get s) := by
    rw [hnew]
    exact Window.new_lives _ scale equipment
  have hall := opened_deeds deeds hopened
  exact ⟨hall.told.turned, hall.told.onScreen, fun hseemly hunstopped =>
    (hkempt.deeds hunstopped hseemly).told.onScreen⟩

end Owner

/-- An edge keeps what moving the key and telling those around it keep. -/
theorem Key.keeps_edge {σ ι υ : Type} {holds : σ → Prop} {key : Part σ (Key ι υ)}
    {update : υ → Bool → Act σ Unit} {tell : ι → Bool → Act σ Unit} {pressed : Bool}
    (hkey : ∀ k s, holds s → holds (key.put k s))
    (hupdate : ∀ updater, Keeps holds (update updater pressed))
    (htell : ∀ listener, Keeps holds (tell listener pressed)) :
    Keeps holds (Key.edge key update tell pressed) := by
  have hlisteners : Keeps holds (do
      (key.get (← get)).listeners.forM fun listener => tell listener pressed) :=
    .get_bind fun s => Keeps.forM _ (fun listener _ => htell listener) s
  unfold Key.edge
  refine Keeps.bind (Keeps.modify fun s h => hkey _ s h) fun _ => .get_bind fun s => ?_
  split
  · exact ((hupdate _).bind fun _ => hlisteners) s
  · exact hlisteners s

namespace WindowBench

theorem windowOf_get_put (window : Window) (bench : WindowBench) :
    windowOf.get (windowOf.put window bench) = window := rfl

/-- Whoever is told of an edge on the bench only moves the switch of the window. -/
theorem move_calls (pressed : Bool) (bench : WindowBench) : ∃ calls, .stop ∉ calls ∧
    windowOf.get ((move pressed).result bench).2 = (windowOf.get bench).afterCalls calls := by
  let switched (after : WindowBench) : Prop :=
    ∃ calls, .stop ∉ calls ∧ windowOf.get after = (windowOf.get bench).afterCalls calls
  have hswitch : Keeps switched (windowOf.run (Window.showSwitch pressed)) := by
    refine .run fun after h => ?_
    obtain ⟨calls, hstop, hcalls⟩ := h
    refine ⟨calls ++ [.switch pressed], by simpa using hstop, ?_⟩
    rw [Window.afterCalls, List.foldl_append]
    rw [Window.afterCalls] at hcalls
    rw [← hcalls]
    rfl
  have hkeeps : Keeps switched (move pressed) :=
    Key.keeps_edge (fun _ _ h => h) (fun _ => hswitch) fun _ => .modify fun _ h => h
  exact hkeeps bench ⟨[], List.not_mem_nil, rfl⟩

/-- The bench as the owner of its window. -/
def owner : Owner WindowBench where
  window := windowOf
  keyDown bench := bench.key.pressed
  move := move
  window_put := windowOf_get_put
  move_calls pressed bench := by
    obtain ⟨calls, -, hcalls⟩ := move_calls pressed bench
    exact ⟨calls, hcalls⟩

/-- A new window beside a key whose edges move its switch. -/
def fresh : WindowBench :=
  { window := {}, key := { listeners := [()], updater := some () } }

end WindowBench

/-- Between two openings a window is closed once, and everything is drawn while it is open, a press
of the space bar included. -/
theorem Owner.window_opened_and_closed_in_turn_twice :
    let deeds : List Owner.Deed :=
      [.start, .poll [.keyDown 32, .expose], .present, .stop, .start, .pattern (.text "a")]
    WindowBench.owner.window.get WindowBench.fresh = {} ∧ Owner.Seemly false deeds ∧
      WindowBench.owner.Unstopped ∧
      Window.turns (WindowBench.owner.drawings deeds WindowBench.fresh) = [true, false, true] ∧
      (false :: Window.turns (WindowBench.owner.drawings deeds WindowBench.fresh)).IsChain
        (· ≠ ·) ∧
      Window.OnlyAfter Window.OpenAfter
        (WindowBench.owner.drawings deeds WindowBench.fresh) := by
  intro deeds
  have hseemly : Owner.Seemly false deeds := ⟨rfl, rfl, rfl, trivial⟩
  have hunstopped : WindowBench.owner.Unstopped := WindowBench.move_calls
  have hnew : WindowBench.owner.window.get WindowBench.fresh = { scale := 1, equipment := {} } :=
    rfl
  obtain ⟨hturned, -, hopen⟩ := Owner.window_opened_and_closed_in_turn hnew deeds
  exact ⟨hnew, hseemly, hunstopped, by decide +kernel, hturned, hopen hseemly hunstopped⟩

/-- A window that was stopped is drawn on and brought onto the screen after it was closed. -/
theorem Owner.closed_window_drawn_on :
    let drawings := WindowBench.owner.drawings
      [.start, .stop, .pattern (.text "a"), .present] WindowBench.fresh
    drawings.getLast? = some .flip ∧ ¬ Window.OpenAfter drawings.dropLast ∧
      ¬ Window.OnlyAfter Window.OpenAfter drawings := by
  intro drawings
  have hlast : drawings.getLast? = some .flip := by decide +kernel
  have hclosed : ¬ Window.OpenAfter drawings.dropLast := by
    unfold Window.OpenAfter
    decide +kernel
  refine ⟨hlast, hclosed, fun honly => hclosed ?_⟩
  have hsplit : drawings = drawings.dropLast ++ .flip :: [] :=
    (List.dropLast_append_getLast? _ hlast).symm
  exact honly _ _ _ hsplit (.inr rfl)

end DigitRace
