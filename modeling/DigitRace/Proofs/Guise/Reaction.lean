import DigitRace.Proofs.Guise.Devices

/-!
# Watches in another guise

In another guise a watch has another number, and reacts in the same way: it shows the same, arms the
timer for the same ticks, and ends with the same answer.
-/

namespace DigitRace.Guise

open Cabinet

variable {ω : Type} {g : Guise ω} {around around' : Surroundings ω} {w : Nat} {kind : Watch.Kind}

/-! ## The watches of both games -/

theorem append_getElem? (watches : Array Watch) (w : Nat) :
    (g.watches ++ watches)[g.watch w]? = watches[w]? := by
  rw [Array.getElem?_append_right (by simp [watch]), watch, Nat.add_sub_cancel]

theorem append_modify (watches : Array Watch) (w : Nat) (change : Watch → Watch) :
    (g.watches ++ watches).modify (g.watch w) change = g.watches ++ watches.modify w change := by
  refine Array.ext_getElem? fun i => ?_
  rw [Array.getElem?_modify]
  by_cases hbefore : i < g.watches.size
  · have hother : g.watch w ≠ i := by unfold watch; omega
    rw [if_neg hother, Array.getElem?_append_left hbefore, Array.getElem?_append_left hbefore]
  · have hbound : g.watches.size ≤ i := Nat.le_of_not_lt hbefore
    have hsame : g.watch w = i ↔ w = i - g.watches.size := by unfold watch; omega
    rw [Array.getElem?_append_right hbound, Array.getElem?_append_right hbound,
      Array.getElem?_modify, if_congr hsame rfl rfl]

/-- A change of a watch that keeps what it is up to, or gives it something that fits. -/
theorem Fits.modifyWatch {c : Cabinet ω} (h : g.Fits c) (w : Nat) (change : Watch → Watch)
    (hchange : ∀ watch, g.KindFits watch.kind → g.KindFits (change watch).kind) :
    g.Fits { c with watches := c.watches.modify w change } := by
  refine ⟨h.pace, h.wait, fun watch hwatch => ?_, h.tasks, h.chances, h.draws⟩
  obtain ⟨i, hi⟩ := Array.mem_iff_getElem?.1 hwatch
  rw [Array.getElem?_modify] at hi
  split at hi
  · obtain ⟨before, hbefore, rfl⟩ := Option.map_eq_some_iff.1 hi
    exact hchange before (h.kinds _ (Array.mem_of_getElem? hbefore))
  · exact h.kinds _ (Array.mem_of_getElem? hi)

theorem echoes_openWatch (hkind : g.KindFits kind) :
    g.Echoes (fun w w' => w' = g.watch w) (openWatch kind : Play ω Nat) (openWatch kind) := by
  intro c start hfits
  let opened : Cabinet ω := { c with watches := c.watches.push { kind } }
  have hopened : g.Fits opened := by
    refine ⟨hfits.pace, hfits.wait, fun watch hwatch => ?_, hfits.tasks, hfits.chances,
      hfits.draws⟩
    obtain hold | rfl := Array.mem_push.1 hwatch
    · exact hfits.kinds _ hold
    · exact hkind
  have hact : openWatch kind c = .ok c.watches.size opened := rfl
  have hact' : openWatch kind (g.dress start c) =
      .ok (g.watch c.watches.size) (g.dress start opened) := by
    simp [openWatch, dress, opened, watch, Nat.add_comm]
  rw [hact, hact']
  exact Matches.ok (by rfl) hopened start

theorem echoes_setKind (w : Nat) (hkind : g.KindFits kind) :
    g.Echoes Eq (setKind w kind : Play ω Unit) (setKind (g.watch w) kind) :=
  .modify fun c start hfits =>
    ⟨hfits.modifyWatch w _ fun _ _ => hkind, start, by simp only [dress, append_modify]⟩

theorem echoes_conclude (w : Nat) (answer : Answer) :
    g.Echoes Eq (conclude w answer : Play ω Unit) (conclude (g.watch w) answer) := by
  refine .modify fun c start hfits => ?_
  have hwatch : (g.dress start c).watches[g.watch w]? = c.watches[w]? := append_getElem? _ w
  rw [hwatch]
  cases hfound : c.watches[w]? with
  | none => exact ⟨hfits, start, rfl⟩
  | some found =>
    obtain ⟨kind, ending, waiter⟩ := found
    cases ending with
    | some ending => exact ⟨hfits, start, rfl⟩
    | none =>
      have hended := hfits.modifyWatch w
        (fun w => { w with ending := some (.answered answer) }) fun _ h => h
      refine ⟨hended.congr rfl, start, ?_⟩
      cases waiter <;> simp [dress, append_modify, Agenda.callSoon, agenda]

theorem echoes_leave (w : Nat) (answer : Answer) :
    g.Echoes Eq (leave w answer : Play ω Unit) (leave (g.watch w) answer) :=
  (echoes_leaveKey w).bind_eq fun _ => (echoes_leaveTimer w).bind_eq fun _ =>
    echoes_conclude w answer

/-! ## Driving -/

theorem Suits.driveOn (h : g.Suits around around') :
    g.Echoes Eq (driveOn around) (driveOn around') :=
  h.tick.bind_eq fun _ => .get_bind fun _ _ hfits =>
    echoes_enable_small (hfits.wait.trans (by decide)) around around'

theorem Suits.demoOn (h : g.Suits around around') :
    g.Echoes Eq (demoOn around) (demoOn around') := by
  refine h.tick.bind_eq fun _ => .get_bind fun c _ hfits => echoes_enable_small ?_ around around'
  have hwait := hfits.wait
  unfold longestWait at hwait
  omega

theorem echoes_demoSteers (hwhole : g.whole) :
    g.Echoes Eq (demoSteers : Play ω Bool) demoSteers :=
  .get_bind fun _ _ _ => .ite (fun _ => (echoes_draw hwhole).bind_eq fun _ => .pure rfl)
    fun _ => .pure rfl

/-! ## Events of the timer -/

theorem Suits.countDown (h : g.Suits around around') (w : Nat) (count : Value) (flashes : Nat) :
    g.Echoes Eq (countDown around w count flashes)
      (countDown around' (g.watch w) count flashes) := by
  refine Echoes.bind_eq (echoes_setKind w trivial) fun _ => .ite (fun _ => ?_) fun _ => ?_
  · exact (echoes_enable_small (by decide) around around').bind_eq fun _ => h.showDigit _
  · refine (echoes_enable_small (by decide) around around').bind_eq fun _ =>
      (h.showCharacter _).bind_eq fun _ => Echoes.bind_eq (echoes_setKind w trivial) fun _ =>
        .ite (fun _ => ?_) fun _ => .pure rfl
    exact (echoes_leaveTimer w).bind_eq fun _ => echoes_conclude w _

theorem Suits.endFlashing (h : g.Suits around around') (w : Nat) :
    g.Echoes Eq (endFlashing around w) (endFlashing around' (g.watch w)) :=
  (echoes_leaveTimer w).bind_eq fun _ => h.darken.bind_eq fun _ => echoes_conclude w _

theorem Suits.flash (h : g.Suits around around') (w : Nat) (event : TimerEvent) (value : Value)
    (shown : Nat) :
    g.Echoes Eq (flash around w event value shown)
      (flash around' (g.watch w) event value shown) := by
  refine .get_bind fun c start _ => .ite (fun _ => h.endFlashing w) fun _ => ?_
  -- whichever face is shown, the watch goes on in the same way
  have hnext : g.Echoes Eq
      (do
        setKind w (.flashing value (shown + 1))
        if shown + 1 = flashCycles then Cabinet.endFlashing around w
        else enable around (.int flashTicks))
      (do
        setKind (g.watch w) (.flashing value (shown + 1))
        if shown + 1 = flashCycles then Cabinet.endFlashing around' (g.watch w)
        else enable around' (.int flashTicks)) :=
    Echoes.bind_eq (echoes_setKind w trivial) fun _ => .ite (fun _ => h.endFlashing w) fun _ =>
      echoes_enable_small (by decide) around around'
  exact .ite (fun _ => (h.showDigit value).bind_eq fun _ => hnext) fun _ =>
    (h.showCharacter _).bind_eq fun _ => hnext

theorem Suits.demoDrive (h : g.Suits around around') (hwhole : g.whole) (w : Nat) (steering : Bool)
    (loops : Nat) :
    g.Echoes Eq (demoDrive around w steering loops)
      (demoDrive around' (g.watch w) steering loops) := by
  refine Echoes.bind_eq (echoes_setKind w hwhole) fun _ => .ite (fun _ => h.demoOn) fun _ => ?_
  refine (echoes_demoSteers hwhole).bind_eq fun _ => .ite (fun _ => ?_) fun _ => ?_
  · refine h.steer.bind_eq fun taken => .ite (fun _ => echoes_leave w _) fun _ => ?_
    exact Echoes.bind_eq (echoes_setKind w hwhole) fun _ => .ite (fun _ => echoes_leave w _)
      fun _ => echoes_enable_small (by decide) around around'
  · exact echoes_enable_small (by decide) around around'

/-- A timer event reaches the watch of the same kind in both games. -/
theorem Suits.onEvent (h : g.Suits around around') (w : Nat) (event : TimerEvent) :
    g.Echoes Eq (onEvent around w event) (onEvent around' (g.watch w) event) := by
  refine .get_bind fun c start hfits => ?_
  have hwatch : (g.dress start c).watches[g.watch w]? = c.watches[w]? := append_getElem? _ w
  rw [hwatch]
  cases hfound : c.watches[w]? with
  | none => exact .pure rfl
  | some found =>
    have hkind : g.KindFits found.kind := hfits.kinds _ (Array.mem_of_getElem? hfound)
    obtain ⟨kind, ending, waiter⟩ := found
    cases kind with
    | event => exact (echoes_leaveTimer w).bind_eq fun _ => echoes_conclude w _
    | release | edge => exact .pure rfl
    | pressOrEvent => exact echoes_leave w _
    | countdown count flashes =>
      cases event with
      | disabled => exact (echoes_leaveTimer w).bind_eq fun _ => echoes_conclude w _
      | elapsed => exact h.countDown w count flashes
    | flashing value shown => exact h.flash w event value shown
    | demo steering loops =>
      cases event with
      | disabled => exact echoes_leave w _
      | elapsed => exact h.demoDrive hkind w steering loops
    | play =>
      cases event with
      | disabled => exact echoes_leave w _
      | elapsed => exact h.driveOn

/-! ## Edges of the key -/

/-- An edge reaches the watch of the same kind in both games. -/
theorem Suits.onEdge (h : g.Suits around around') (w : Nat) (pressed : Bool) :
    g.Echoes Eq (onEdge around w pressed) (onEdge around' (g.watch w) pressed) := by
  refine .get_bind fun c start hfits => ?_
  have hwatch : (g.dress start c).watches[g.watch w]? = c.watches[w]? := append_getElem? _ w
  rw [hwatch]
  cases c.watches[w]? with
  | none => exact .pure rfl
  | some found =>
    obtain ⟨kind, ending, waiter⟩ := found
    cases kind with
    | release =>
      exact .ite (fun _ => (echoes_leaveKey w).bind_eq fun _ => echoes_conclude w _)
        fun _ => .pure rfl
    | edge => exact (echoes_leaveKey w).bind_eq fun _ => echoes_conclude w _
    | pressOrEvent | demo => exact .ite (fun _ => echoes_leave w _) fun _ => .pure rfl
    | play =>
      exact .ite (fun _ => h.steer.bind_eq fun _ => .ite (fun _ => echoes_leave w _)
        fun _ => .pure rfl) fun _ => .pure rfl
    | event | countdown | flashing => exact .pure rfl

/-! ## What reaches all watches -/

/-- The watches on the timer are told of an event in the same order. -/
theorem Suits.notify (h : g.Suits around around') (event : TimerEvent) :
    g.Echoes Eq (notify around event) (notify around' event) :=
  .get_bind fun c _ _ => .forM g.watch c.timer.listeners
    fun w _ => (h.onEvent w event).tryCatch fun _ => echoes_note _

theorem Suits.countdownOver (h : g.Suits around around') :
    g.Echoes Eq (countdownOver around) (countdownOver around') :=
  echoes_ranOut.bind_eq fun _ => h.notify .elapsed

theorem Suits.disable (h : g.Suits around around') :
    g.Echoes Eq (disable around) (disable around') :=
  echoes_clear.bind_eq fun _ => h.notify .disabled

/-- An act that changes nothing can be left out. -/
private theorem quiet_bind {α : Type} {act : Play ω Unit} (hquiet : ∀ c, act c = .ok ⟨⟩ c)
    (next : Unit → Play ω α) : (act >>= next) = next ⟨⟩ := by
  funext c
  rw [Act.bind_apply, hquiet]

/-- The watches on the key are told of an edge in the same order. -/
theorem Suits.move (h : g.Suits around around') (pressed : Bool) :
    g.Echoes Eq (move around pressed) (move around' pressed) := by
  have hset : g.Echoes Eq (keyOf.update fun k => { k with pressed })
      (keyOf.update fun k => { k with pressed }) := echoes_updateKey fun _ => rfl
  have htell : g.Echoes Eq
      (do (keyOf.get (← get)).listeners.forM fun w => Cabinet.onEdge around w pressed)
      (do (keyOf.get (← get)).listeners.forM fun w => Cabinet.onEdge around' w pressed) :=
    .get_bind fun c _ _ => .forM g.watch c.key.listeners fun w _ => h.onEdge w pressed
  refine hset.bind_eq fun _ => .get_bind fun c start _ => ?_
  cases (keyOf.get c).updater <;> cases (keyOf.get (g.dress start c)).updater <;>
    simp only [quiet_bind (h.showEdge pressed), quiet_bind (h.showEdge' pressed)] <;>
    exact htell

end DigitRace.Guise
