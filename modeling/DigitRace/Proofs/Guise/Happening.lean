import DigitRace.Proofs.Guise.Run

/-!
# Happenings in another guise

What happens in the one game happens in the other at the time of its own clock, and nothing else
does. So two games that are the same in different guises take the same course as long as the same
happens to them.
-/

namespace DigitRace.Guise

open Cabinet

variable {ω : Type} {g : Guise ω} {around around' : Surroundings ω} {c c' : Cabinet ω}

/-- A happening by the other clock. -/
def happening (g : Guise ω) : Happening → Happening
  | .wait time => .wait (g.time time)
  | other => other

/-- Ticks that are armed from outside are in reach. -/
def HappeningFits (g : Guise ω) : Happening → Prop
  | .enable ticks => g.Reaches (.int ticks)
  | _ => True

theorem exists_time (t : Rat) : ∃ s, g.time s = t := by
  refine ⟨(t - g.shift) / g.scale, ?_⟩
  have hscale : g.scale ≠ 0 := g.scale_pos.ne'
  unfold time
  field_simp
  ring

theorem frame_eq_nextGame {f : Frame} {games : Value} {played : Nat}
    (h : g.frame f = .nextGame games played) : ∃ games played, f = .nextGame games played := by
  cases f with
  | nextGame games played => exact ⟨games, played, rfl⟩
  | _ => cases h

/-- A game is left in every guise at the same point. -/
theorem leavesGame_dress {start : Rat} : LeavesGame (g.dress start c) ↔ LeavesGame c := by
  constructor
  · rintro ⟨number, hactive, task', answer, games, played, rest, htask, hstate, hstack⟩
    rw [dress_tasks_getElem?, Option.map_eq_some_iff] at htask
    obtain ⟨⟨state, stack, cancelRequested⟩, htask, rfl⟩ := htask
    obtain ⟨f, rest, rfl, hf, -⟩ := List.map_eq_cons_iff.1 hstack
    obtain ⟨games, played, rfl⟩ := frame_eq_nextGame hf
    refine ⟨number, hactive, _, answer, games, played, rest, htask, ?_, rfl⟩
    cases state with
    | answering answer => exact hstate
    | _ => cases hstate
  · rintro ⟨number, hactive, task, answer, games, played, rest, htask, hstate, hstack⟩
    refine ⟨number, hactive, g.task task, answer, g.games games, played + g.played,
      rest.map g.frame, ?_, ?_, ?_⟩
    · rw [dress_tasks_getElem?, htask]
      rfl
    · simp [Guise.task, hstate, state]
    · simp [Guise.task, hstack, frame]

/-- A call that is made in the one game is made in the other. -/
theorem Suits.called (h : g.Suits around around') (hfits : g.Fits c) (hactive : c.active = none)
    (call : Call) (agenda : Agenda Call) (start : Rat) :
    g.Fits (Cabinet.perform around call { c with agenda }) ∧ ∃ start',
      Cabinet.perform around' call { g.dress start c with agenda := g.agenda agenda } =
        g.dress start' (Cabinet.perform around call { c with agenda }) := by
  have hagenda : { c with agenda } = { c with agenda, active := none } := by rw [← hactive]
  have hdress : { g.dress start c with agenda := g.agenda agenda } =
      g.dress start { c with agenda, active := none } := by
    rw [← hagenda]
    rfl
  rw [hagenda, hdress]
  exact h.perform call _ start (hfits.idle agenda)

/-- What happens in the one game happens in the other. -/
theorem Suits.happens (h : g.Suits around around') (hfits : g.Fits c)
    (hleaves : LeavesGame c → g.whole) {event : Happening} (hevent : g.HappeningFits event)
    (hhappens : Happens around c event c') (start : Rat) :
    g.Fits c' ∧ ∃ start', Happens around' (g.dress start c) (g.happening event)
      (g.dress start' c') := by
  cases hhappens with
  | @carry number hactive =>
    obtain ⟨hafter, start', hsame⟩ :=
      h.carryOn hfits (fun hnext => hleaves ⟨number, hactive, hnext⟩) start
    exact ⟨hafter, start', hsame ▸ .carry hactive⟩
  | @call horizon call agenda hactive hnext =>
    obtain ⟨hafter, start', hsame⟩ := h.called hfits hactive call agenda start
    have hnext' : (g.dress start c).agenda.next? (g.time horizon) =
        some (call, g.agenda agenda) := by
      change (g.agenda c.agenda).next? _ = _
      rw [agenda_next?, hnext]
      rfl
    refine ⟨hafter, start', ?_⟩
    rw [← hsame]
    exact Happens.call (c := g.dress start c) hactive hnext'
  | @due call agenda hactive hready hdue =>
    obtain ⟨hafter, start', hsame⟩ := h.called hfits hactive call agenda start
    have hdue' : (g.dress start c).agenda.overdue? = some (call, g.agenda agenda) := by
      change (g.agenda c.agenda).overdue? = _
      rw [agenda_overdue?, hdue]
      rfl
    refine ⟨hafter, start', ?_⟩
    rw [← hsame]
    exact Happens.due (c := g.dress start c) hactive hready hdue'
  | move pressed hactive =>
    obtain ⟨hafter, -, start', hsame⟩ := (h.move pressed).result hfits start
    exact ⟨hafter, start', hsame ▸ .move pressed hactive⟩
  | disable hactive =>
    obtain ⟨hafter, -, start', hsame⟩ := h.disable.result hfits start
    exact ⟨hafter, start', hsame ▸ .disable hactive⟩
  | enable ticks hactive =>
    obtain ⟨hafter, -, start', hsame⟩ :=
      (echoes_enable hevent around around').result hfits start
    exact ⟨hafter, start', hsame ▸ .enable ticks hactive⟩
  | @wait time hactive hready hnow hdue =>
    refine ⟨hfits.withAgenda _, start, Happens.wait hactive hready (time_le_iff.2 hnow) ?_⟩
    intro d hd
    obtain ⟨d₀, hd₀, rfl⟩ := List.mem_map.1 hd
    exact time_le_iff.2 (hdue d₀ hd₀)

/-- What happens in the other game is what happens in the one. -/
theorem exists_happening {start : Rat} {event : Happening} {c'' : Cabinet ω}
    (hhappens : Happens around' (g.dress start c) event c'') :
    ∃ event' c', event = g.happening event' ∧ Happens around c event' c' := by
  cases hhappens with
  | carry hactive => exact ⟨.carry, _, rfl, .carry hactive⟩
  | @call horizon call agenda hactive hnext =>
    obtain ⟨horizon, rfl⟩ := g.exists_time horizon
    change (g.agenda c.agenda).next? _ = _ at hnext
    rw [agenda_next?, Option.map_eq_some_iff] at hnext
    obtain ⟨next, hnext, hcall⟩ := hnext
    obtain ⟨rfl, -⟩ := Prod.mk.inj hcall
    exact ⟨.call next.1, _, rfl, .call hactive hnext⟩
  | due hactive hready hdue =>
    change (g.agenda c.agenda).overdue? = _ at hdue
    rw [agenda_overdue?, Option.map_eq_some_iff] at hdue
    obtain ⟨next, hdue, hcall⟩ := hdue
    obtain ⟨rfl, -⟩ := Prod.mk.inj hcall
    exact ⟨.due next.1, _, rfl, .due hactive hready hdue⟩
  | move pressed hactive => exact ⟨.move pressed, _, rfl, .move pressed hactive⟩
  | disable hactive => exact ⟨.disable, _, rfl, .disable hactive⟩
  | enable ticks hactive => exact ⟨.enable ticks, _, rfl, .enable ticks hactive⟩
  | @wait time hactive hready hnow hdue =>
    obtain ⟨time, rfl⟩ := g.exists_time time
    refine ⟨.wait time, _, rfl, .wait hactive hready (time_le_iff.1 hnow) fun d hd => ?_⟩
    exact time_le_iff.1 (hdue (g.deadline d) (List.mem_map_of_mem hd))

/-- What happens in the other game leads to what the same leads to in the one. -/
theorem Suits.happened (h : g.Suits around around') (hfits : g.Fits c)
    (hleaves : LeavesGame c → g.whole) (hevents : ∀ event, g.HappeningFits event) {start : Rat}
    {event : Happening} {c'' : Cabinet ω} (hhappens : Happens around' (g.dress start c) event c'') :
    ∃ event' c' start', event = g.happening event' ∧ Happens around c event' c' ∧ g.Fits c' ∧
      c'' = g.dress start' c' := by
  obtain ⟨event', c', rfl, hhappens'⟩ := exists_happening hhappens
  obtain ⟨hafter, start', hother⟩ := h.happens hfits hleaves (hevents event') hhappens' start
  exact ⟨event', c', start', rfl, hhappens', hafter, hhappens.unique hother⟩

/-! ## While a game lasts -/

/-- As long as the one game lasts, the same happens in the other. -/
theorem Suits.lasts (h : g.Suits around around') (hevents : ∀ event, g.HappeningFits event)
    {events : List Happening} (hlasts : Lasts around c events c') (hfits : g.Fits c) (start : Rat) :
    g.Fits c' ∧ ∃ start',
      Lasts around' (g.dress start c) (events.map g.happening) (g.dress start' c') := by
  induction hlasts generalizing start with
  | still => exact ⟨hfits, start, .still _⟩
  | @step c _ _ event _ hleaves hhappens _ ih =>
    obtain ⟨hbetween, start', hother⟩ :=
      h.happens hfits (fun h => (hleaves h).elim) (hevents event) hhappens start
    obtain ⟨hafter, start'', hrest⟩ := ih hbetween start'
    exact ⟨hafter, start'', .step (mt leavesGame_dress.1 hleaves) hother hrest⟩

/-- As long as the other game lasts, what happens in it happens in the one. -/
theorem Suits.lasted (h : g.Suits around around') (hevents : ∀ event, g.HappeningFits event)
    {events' : List Happening} {start : Rat} {c'' : Cabinet ω} (hfits : g.Fits c)
    (hlasts : Lasts around' (g.dress start c) events' c'') :
    ∃ events c' start', events' = events.map g.happening ∧ Lasts around c events c' ∧ g.Fits c' ∧
      c'' = g.dress start' c' := by
  generalize hfirst : g.dress start c = first at hlasts
  induction hlasts generalizing c start with
  | still => exact ⟨[], c, start, rfl, .still c, hfits, hfirst.symm⟩
  | step hleaves hhappens _ ih =>
    subst hfirst
    have hlasts' : ¬ LeavesGame c := mt leavesGame_dress.2 hleaves
    obtain ⟨event, between, start', rfl, hhappens', hbetween, rfl⟩ :=
      h.happened hfits (fun h => (hlasts' h).elim) hevents hhappens
    obtain ⟨rest, c', start'', rfl, hrest, hfits', rfl⟩ := ih hbetween rfl
    exact ⟨event :: rest, c', start'', rfl, .step hlasts' hhappens' hrest, hfits', rfl⟩

end DigitRace.Guise
