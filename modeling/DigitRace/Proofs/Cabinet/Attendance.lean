import DigitRace.Proofs.Cabinet.Watching
import DigitRace.Proofs.Upkeep

/-!
# Who attends to the devices

Any number of tasks can share the timer and the key. Whatever they do, the listeners of a device
are the open watches whose kind asks for it, each once, in the order in which they were opened. An
act of the game leaves watches and listeners alone, or opens one watch and puts it on its devices;
and a watch that is told of an event goes on as it is or leaves all devices and ends. Each of these
keeps the listeners in order.
-/

namespace DigitRace

/-- Whether a watch has not ended and asks for a device. -/
def Watch.attends (hears : Watch.Kind → Bool) (watch : Watch) : Bool :=
  watch.ending.isNone && hears watch.kind

namespace Cabinet

open Act

/-! ## Open watches -/

section

variable {hears : Watch.Kind → Bool} {watches : Array Watch} {w : Nat}

/-- The open watches that ask for a device, in the order in which they were opened. -/
def openOn (hears : Watch.Kind → Bool) (watches : Array Watch) : List Nat :=
  (List.range watches.size).filter fun w => (watches[w]?).any (Watch.attends hears)

theorem mem_openOn : w ∈ openOn hears watches ↔ ∃ watch, watches[w]? = some watch ∧
    watch.ending = none ∧ hears watch.kind = true := by
  have hsize {watch : Watch} (h : watches[w]? = some watch) : w < watches.size :=
    (Array.getElem?_eq_some_iff.mp h).1
  simp only [openOn, Watch.attends, List.mem_filter, List.mem_range, Option.any_eq_true,
    Bool.and_eq_true, Option.isNone_iff_eq_none]
  constructor
  · rintro ⟨-, watch, hwatch, hopen, hhears⟩
    exact ⟨watch, hwatch, hopen, hhears⟩
  · rintro ⟨watch, hwatch, hopen, hhears⟩
    exact ⟨hsize hwatch, watch, hwatch, hopen, hhears⟩

/-- No watch is on a device twice. -/
theorem nodup_openOn : (openOn hears watches).Nodup :=
  List.nodup_range.filter _

/-- A watch that is opened comes last. -/
theorem openOn_push (kind : Watch.Kind) : openOn hears (watches.push { kind }) =
    openOn hears watches ++ if hears kind then [watches.size] else [] := by
  have hearlier : (List.range watches.size).filter
      (fun w => ((watches.push { kind })[w]?).any (Watch.attends hears)) =
        openOn hears watches := by
    refine List.filter_congr fun w hw => ?_
    have hlt : w < watches.size := List.mem_range.mp hw
    rw [Array.getElem?_push_lt hlt, Array.getElem?_eq_getElem hlt]
  rw [openOn, Array.size_push, List.range_succ, List.filter_append, hearlier]
  cases hkind : hears kind <;> simp [Watch.attends, hkind]

/-- What does not change whether a watch is open leaves the open watches as they are. -/
theorem openOn_modify {change : Watch → Watch}
    (h : ∀ watch, watches[w]? = some watch →
      (change watch).attends hears = watch.attends hears) :
    openOn hears (watches.modify w change) = openOn hears watches := by
  rw [openOn, openOn, Array.size_modify]
  refine List.filter_congr fun v _ => ?_
  rw [Array.getElem?_modify]
  by_cases hvw : w = v
  · subst hvw
    cases hwatch : watches[w]? with
    | none => simp
    | some watch => simp [h watch hwatch]
  · rw [if_neg hvw]

/-- A watch that ends is no longer among the open ones. -/
theorem openOn_ended {change : Watch → Watch} (h : ∀ watch, (change watch).attends hears = false) :
    openOn hears (watches.modify w change) = (openOn hears watches).filter (· ≠ w) := by
  rw [openOn, openOn, Array.size_modify, List.filter_filter]
  refine List.filter_congr fun v _ => ?_
  rw [Array.getElem?_modify]
  by_cases hvw : w = v
  · subst hvw
    cases watches[w]? <;> simp [h]
  · have hne : v ≠ w := fun h => hvw h.symm
    simp [hvw, hne]

end

/-! ## Acts that leave watches and listeners alone -/

variable {ω α β : Type}

/-- The listeners of each device are the open watches that ask for it. -/
structure Attended (c : Cabinet ω) : Prop where
  timer : c.timer.listeners = openOn Watch.Kind.hearsTimer c.watches
  key : c.key.listeners = openOn Watch.Kind.hearsKey c.watches

/-- Watches, listeners and tasks are as they were. -/
structure Undisturbed (c c' : Cabinet ω) : Prop where
  watches : c'.watches = c.watches
  timer : c'.timer.listeners = c.timer.listeners
  key : c'.key.listeners = c.key.listeners
  tasks : c'.tasks = c.tasks
  active : c'.active = c.active

theorem Undisturbed.refl (c : Cabinet ω) : Undisturbed c c := ⟨rfl, rfl, rfl, rfl, rfl⟩

theorem Undisturbed.trans {c c₁ c' : Cabinet ω} (h : Undisturbed c c₁) (h' : Undisturbed c₁ c') :
    Undisturbed c c' where
  watches := h'.watches.trans h.watches
  timer := h'.timer.trans h.timer
  key := h'.key.trans h.key
  tasks := h'.tasks.trans h.tasks
  active := h'.active.trans h.active

theorem Undisturbed.attended {c c' : Cabinet ω} (h : Undisturbed c c') (hc : c.Attended) :
    c'.Attended where
  timer := by rw [h.timer, h.watches]; exact hc.timer
  key := by rw [h.key, h.watches]; exact hc.key

/-- An act leaves watches, listeners and tasks alone, whether it succeeds or fails. -/
def Quiet (act : Play ω α) : Prop :=
  ∀ c, Undisturbed c (act.result c).2

namespace Quiet

variable {act : Play ω α}

theorem of_keeps (h : ∀ c, Keeps (Undisturbed c) act) : Quiet act :=
  fun c => h c c (.refl c)

theorem keeps (h : Quiet act) (c : Cabinet ω) : Keeps (Undisturbed c) act :=
  fun c' hc' => hc'.trans (h c')

theorem ok (h : Quiet act) {a : α} {c c' : Cabinet ω} (hact : act c = .ok a c') :
    Undisturbed c c' := by
  have hquiet := h c
  rwa [result_of_ok hact] at hquiet

theorem error (h : Quiet act) {fault : Fault} {c c' : Cabinet ω}
    (hact : act c = .error fault c') : Undisturbed c c' := by
  have hquiet := h c
  rwa [result_of_error hact] at hquiet

theorem pure (a : α) : Quiet (Pure.pure a : Play ω α) := Undisturbed.refl

theorem get : Quiet (MonadState.get : Play ω (Cabinet ω)) := Undisturbed.refl

theorem lift (e : Except Fault α) : Quiet (liftM e : Play ω α) :=
  .of_keeps fun _ => .lift e

theorem bind {next : α → Play ω β} (h : Quiet act) (hnext : ∀ a, Quiet (next a)) :
    Quiet (act >>= next) :=
  .of_keeps fun c => (h.keeps c).bind fun a => (hnext a).keeps c

theorem ite {p : Prop} [Decidable p] {other : Play ω α} (h : Quiet act) (hother : Quiet other) :
    Quiet (if p then act else other) := by
  split
  · exact h
  · exact hother

theorem note (record : Record) : Quiet (note record : Play ω Unit) :=
  fun _ => ⟨rfl, rfl, rfl, rfl, rfl⟩

theorem raceOf (act : Act Race α) : Quiet (Cabinet.raceOf.run act : Play ω α) := by
  intro c
  rw [result_run]
  exact ⟨rfl, rfl, rfl, rfl, rfl⟩

theorem updateRace (change : Race → Race) :
    Quiet (Cabinet.raceOf.update change : Play ω PUnit) :=
  fun _ => ⟨rfl, rfl, rfl, rfl, rfl⟩

theorem resetRace (speed : Value) : Quiet (resetRace speed : Play ω Unit) := raceOf _

theorem enter (stage : Stage) : Quiet (enter stage : Play ω Unit) := by
  intro c
  rw [result_of_ok (enter_apply c stage)]
  exact ⟨rfl, rfl, rfl, rfl, rfl⟩

theorem draw : Quiet (draw : Play ω Float) :=
  fun _ => ⟨rfl, rfl, rfl, rfl, rfl⟩

theorem demoSteers : Quiet (demoSteers : Play ω Bool) :=
  get.bind fun _ => .ite (draw.bind fun _ => .pure _) (.pure _)

variable (eye : Onlooker ω)

theorem showPattern (pattern : String) : Quiet (showPattern eye.around pattern) := by
  intro c
  obtain ⟨outside, hshow⟩ := showPattern_apply eye c pattern
  rw [result_of_ok hshow]
  exact ⟨rfl, rfl, rfl, rfl, rfl⟩

theorem showCharacter (character : Value) : Quiet (showCharacter eye.around character) :=
  (lift _).bind fun _ => showPattern eye _

theorem showDigit (value : Value) : Quiet (showDigit eye.around value) :=
  (lift _).bind fun _ => showCharacter eye _

theorem showLastDigit (n : Int) : Quiet (showLastDigit eye.around n) :=
  showCharacter eye _

theorem darken : Quiet (darken eye.around) := showPattern eye _

theorem tick : Quiet (tick eye.around) := by
  refine (raceOf _).bind fun _ => get.bind fun c => ?_
  dsimp only
  split
  · exact (showPattern eye _).bind fun _ => updateRace _
  · exact (lift _).bind fun _ => note _

theorem steer : Quiet (steer eye.around) := by
  refine (raceOf _).bind fun taken => get.bind fun c => (lift _).bind fun _ => ?_
  split
  · exact (note _).bind fun _ => (tick eye).bind fun _ => .pure _
  · exact (note _).bind fun _ => .pure _

/-- The timer is armed without regard to who listens to it. -/
theorem enable (ticks : Value) : Quiet (enable eye.around ticks) := by
  have hlisteners (l : List Nat) (reading : Rat) :
      Keeps (fun pair : Timer Rat Nat × Agenda Call => pair.1.listeners = l)
        (Timer.enable true reading .countdownOver ticks) := by
    refine Keeps.bind (.modify fun _ h => h) fun _ => (Keeps.lift _).bind fun n =>
      Keeps.bind (.modify fun _ h => h) fun _ => .get_bind fun pair hpair => ?_
    cases hdelay : Timer.delay pair.1.count pair.1.rate with
    | ok span =>
      simp only [hdelay]
      exact hpair
    | error fault =>
      simp only [hdelay]
      exact hpair
  intro c
  change Undisturbed c ((tickingOf.run (Timer.enable true _ .countdownOver ticks)).result c).2
  rw [result_run]
  exact ⟨rfl, hlisteners _ _ (c.timer, c.agenda) rfl, rfl, rfl, rfl⟩

theorem driveOn : Quiet (driveOn eye.around) :=
  (tick eye).bind fun _ => get.bind fun _ => enable eye _

theorem demoOn : Quiet (demoOn eye.around) :=
  (tick eye).bind fun _ => get.bind fun _ => enable eye _

theorem resetClock : Quiet (resetClock eye.around) :=
  fun _ => ⟨rfl, rfl, rfl, rfl, rfl⟩

theorem readSeconds : Quiet (readSeconds eye.around) :=
  get.bind fun _ => lift _

end Quiet

end Cabinet

end DigitRace
