import DigitRace.Proofs.Cabinet.Entering

/-!
# Watches that are told

What happens to a device reaches the watches that are on it at that moment, and each of these goes
on as it is or leaves all devices as it ends. Whatever a watch does on the way, and even if it
fails, the watches on a device are the open ones that ask for it.
-/

namespace DigitRace

/-- What may become of a watch: its waiter and its devices stay, and if it is told of something, it
may end, once. -/
structure Watch.Goes (told : Prop) (before after : Watch) : Prop where
  waiter : after.waiter = before.waiter
  timer : after.kind.hearsTimer = before.kind.hearsTimer
  key : after.kind.hearsKey = before.kind.hearsKey
  ending : after.ending = before.ending ∨
    told ∧ before.ending = none ∧ ∃ answer, after.ending = some (.answered answer)

theorem Watch.Goes.refl (p : Prop) (watch : Watch) : Watch.Goes p watch watch :=
  ⟨rfl, rfl, rfl, .inl rfl⟩

theorem Watch.Goes.trans {p : Prop} {before between after : Watch} (h : Watch.Goes p before between)
    (h' : Watch.Goes p between after) : Watch.Goes p before after where
  waiter := h'.waiter.trans h.waiter
  timer := h'.timer.trans h.timer
  key := h'.key.trans h.key
  ending := by
    rcases h.ending with hsame | ⟨hp, hopen, answer, hended⟩
    · rw [← hsame]
      exact h'.ending
    · rcases h'.ending with hsame' | ⟨-, hopen', -⟩
      · exact .inr ⟨hp, hopen, answer, hsame'.trans hended⟩
      · rw [hended] at hopen'
        cases hopen'

/-- The watch with an answer, unless it has ended already. -/
def Watch.answered (answer : Answer) (watch : Watch) : Watch :=
  if watch.ending.isNone then { watch with ending := some (.answered answer) } else watch

theorem Watch.goes_answered {p : Prop} (hp : p) (answer : Answer) (watch : Watch) :
    Watch.Goes p watch (watch.answered answer) := by
  unfold Watch.answered
  split
  · rename_i hopen
    exact ⟨rfl, rfl, rfl, .inr ⟨hp, Option.isNone_iff_eq_none.mp hopen, answer, rfl⟩⟩
  · exact .refl p watch

theorem Watch.answered_attends (answer : Answer) (hears : Watch.Kind → Bool) (watch : Watch) :
    (watch.answered answer).attends hears = false := by
  by_cases hopen : watch.ending.isNone = true
  · simp [Watch.answered, Watch.attends, hopen]
  · simp [Watch.answered, Watch.attends, hopen]

namespace Cabinet

open Act

variable {ω : Type} {c c₀ c₁ c' : Cabinet ω} {told : List Nat} {w : Nat} {watch : Watch}

/-! ## What watches do when they are told -/

/-- What may become of a cabinet whose watches are told of something. -/
structure Reacted (told : List Nat) (c c' : Cabinet ω) : Prop where
  attended : c'.Attended
  tasks : c'.tasks = c.tasks
  active : c'.active = c.active
  size : c'.watches.size = c.watches.size
  goes : ∀ w before, c.watches[w]? = some before →
    ∃ after, c'.watches[w]? = some after ∧ Watch.Goes (w ∈ told) before after

theorem Undisturbed.reacted (h : Undisturbed c c') (hc : c.Attended) (told : List Nat) :
    Reacted told c c' where
  attended := h.attended hc
  tasks := h.tasks
  active := h.active
  size := by rw [h.watches]
  goes w before hw := ⟨before, by rw [h.watches, hw], .refl _ before⟩

theorem Reacted.trans (h : Reacted told c c₁) (h' : Reacted told c₁ c') : Reacted told c c' where
  attended := h'.attended
  tasks := h'.tasks.trans h.tasks
  active := h'.active.trans h.active
  size := h'.size.trans h.size
  goes w before hw := by
    obtain ⟨between, hbetween, hgoes⟩ := h.goes w before hw
    obtain ⟨after, hafter, hgoes'⟩ := h'.goes w between hbetween
    exact ⟨after, hafter, hgoes.trans hgoes'⟩

/-- One watch is changed to what it may become, and the devices stay in order. -/
theorem reacted_of_modify (change : Watch → Watch) (hattended : c'.Attended)
    (htasks : c'.tasks = c.tasks) (hactive : c'.active = c.active)
    (hwatches : c'.watches = c.watches.modify w change)
    (hgoes : ∀ watch, c.watches[w]? = some watch → Watch.Goes (w ∈ told) watch (change watch)) :
    Reacted told c c' := by
  refine ⟨hattended, htasks, hactive, by simp [hwatches], fun v before hv => ?_⟩
  rw [hwatches, Array.getElem?_modify, hv]
  by_cases hwv : w = v
  · subst hwv
    exact ⟨change before, by simp, hgoes before hv⟩
  · exact ⟨before, by simp [hwv], .refl _ before⟩

/-- A watch has left all devices, and has an answer if it had none. -/
structure Parted (w : Nat) (answer : Answer) (c c' : Cabinet ω) : Prop where
  watches : c'.watches = c.watches.modify w (Watch.answered answer)
  timer : c'.timer.listeners = c.timer.listeners.filter (· ≠ w)
  key : c'.key.listeners = c.key.listeners.filter (· ≠ w)
  tasks : c'.tasks = c.tasks
  active : c'.active = c.active

theorem Parted.reacted {answer : Answer} (h : Parted w answer c c') (hc : c.Attended)
    (hw : w ∈ told) : Reacted told c c' := by
  have hattended : c'.Attended := by
    constructor
    · rw [h.timer, h.watches, hc.timer, openOn_ended (Watch.answered_attends answer _)]
    · rw [h.key, h.watches, hc.key, openOn_ended (Watch.answered_attends answer _)]
  exact reacted_of_modify _ hattended h.tasks h.active h.watches
    fun watch _ => watch.goes_answered hw answer

/-- A watch that is ended has an answer, and only the agenda learns of it. -/
theorem conclude_apply (w : Nat) (answer : Answer) (c : Cabinet ω) : ∃ agenda,
    conclude w answer c = .ok ⟨⟩
      { c with watches := c.watches.modify w (Watch.answered answer), agenda } := by
  have hsame (h : ∀ watch, c.watches[w]? = some watch → watch.answered answer = watch) :
      c.watches.modify w (Watch.answered answer) = c.watches := by
    refine Array.ext_getElem? fun v => ?_
    rw [Array.getElem?_modify]
    by_cases hwv : w = v
    · subst hwv
      cases hwatch : c.watches[w]? with
      | none => simp
      | some watch => simp [h watch hwatch]
    · rw [if_neg hwv]
  cases hwatch : c.watches[w]? with
  | none =>
    refine ⟨c.agenda, ?_⟩
    rw [hsame fun watch h => by simp [hwatch] at h]
    simp [conclude, hwatch]
  | some watch =>
    obtain ⟨kind, ending, waiter⟩ := watch
    cases ending with
    | some ending =>
      refine ⟨c.agenda, ?_⟩
      rw [hsame fun watch h => by
        obtain rfl := Option.some.inj (hwatch.symm.trans h)
        rfl]
      simp [conclude, hwatch]
    | none =>
      have hended : c.watches.modify w (Watch.answered answer) =
          c.watches.modify w fun watch => { watch with ending := some (.answered answer) } := by
        refine Array.ext_getElem? fun v => ?_
        rw [Array.getElem?_modify, Array.getElem?_modify]
        by_cases hwv : w = v
        · subst hwv
          simp [hwatch, Watch.answered]
        · rw [if_neg hwv, if_neg hwv]
      cases waiter with
      | none => exact ⟨c.agenda, by simp only [conclude, modify_apply, hwatch, hended]⟩
      | some task =>
        exact ⟨c.agenda.callSoon (.task task), by
          simp only [conclude, modify_apply, hwatch, hended]⟩

theorem leave_parted (w : Nat) (answer : Answer) (c : Cabinet ω) :
    Parted w answer c ((leave w answer).result c).2 := by
  obtain ⟨agenda, hconclude⟩ := conclude_apply w answer
    { c with key := c.key.unregister w, timer := c.timer.unregister w }
  have hleave : leave w answer c = conclude w answer
      { c with key := c.key.unregister w, timer := c.timer.unregister w } := rfl
  rw [result_of_ok (hleave.trans hconclude)]
  exact ⟨rfl, rfl, rfl, rfl, rfl⟩

private theorem filter_absent {listeners : List Nat} (h : w ∉ listeners) :
    listeners.filter (· ≠ w) = listeners :=
  List.filter_eq_self.mpr fun v hv => by
    have hne : v ≠ w := fun heq => h (heq ▸ hv)
    simp [hne]

theorem leaveTimer_parted (answer : Answer) (h : w ∉ c.key.listeners) :
    Parted w answer c ((do leaveTimer w; conclude w answer : Play ω Unit).result c).2 := by
  obtain ⟨agenda, hconclude⟩ := conclude_apply w answer { c with timer := c.timer.unregister w }
  have hleave : (do leaveTimer w; conclude w answer : Play ω Unit) c =
      conclude w answer { c with timer := c.timer.unregister w } := rfl
  rw [result_of_ok (hleave.trans hconclude)]
  exact ⟨rfl, rfl, (filter_absent h).symm, rfl, rfl⟩

theorem leaveKey_parted (answer : Answer) (h : w ∉ c.timer.listeners) :
    Parted w answer c ((do leaveKey w; conclude w answer : Play ω Unit).result c).2 := by
  obtain ⟨agenda, hconclude⟩ := conclude_apply w answer { c with key := c.key.unregister w }
  have hleave : (do leaveKey w; conclude w answer : Play ω Unit) c =
      conclude w answer { c with key := c.key.unregister w } := rfl
  rw [result_of_ok (hleave.trans hconclude)]
  exact ⟨rfl, (filter_absent h).symm, rfl, rfl, rfl⟩

theorem endFlashing_parted (eye : Onlooker ω) (h : w ∉ c.key.listeners) :
    Parted w .nothing c ((endFlashing eye.around w).result c).2 := by
  let off : Cabinet ω := { c with timer := c.timer.unregister w }
  obtain ⟨outside, hdarken⟩ := darken_apply eye off
  obtain ⟨agenda, hconclude⟩ := conclude_apply w .nothing (off.shows "" outside)
  have hends : endFlashing eye.around w c = conclude w .nothing (off.shows "" outside) := by
    change (do darken eye.around; conclude w .nothing : Play ω Unit) off = _
    rw [bind_apply, hdarken]
  rw [result_of_ok (hends.trans hconclude)]
  exact ⟨rfl, rfl, (filter_absent h).symm, rfl, rfl⟩

/-! ### Acts of a watch -/

theorem Quiet.reacts {α : Type} {act : Play ω α} (h : Quiet act) :
    Keeps (Reacted told c₀) act :=
  fun c hc => hc.trans ((h c).reacted hc.attended told)

section

variable (hwatch : c₀.watches[w]? = some watch)

include hwatch

/-- A watch is not on the key as long as its kind does not ask for it. -/
theorem Reacted.not_mem_key (h : Reacted told c₀ c) (hkey : watch.kind.hearsKey = false) :
    w ∉ c.key.listeners := by
  intro hmem
  rw [h.attended.key] at hmem
  obtain ⟨after, hafter, -, hhears⟩ := mem_openOn.mp hmem
  obtain ⟨after', hafter', hgoes⟩ := h.goes w watch hwatch
  obtain rfl := Option.some.inj (hafter.symm.trans hafter')
  rw [hgoes.key, hkey] at hhears
  cases hhears

/-- A watch is not on the timer as long as its kind does not ask for it. -/
theorem Reacted.not_mem_timer (h : Reacted told c₀ c) (htimer : watch.kind.hearsTimer = false) :
    w ∉ c.timer.listeners := by
  intro hmem
  rw [h.attended.timer] at hmem
  obtain ⟨after, hafter, -, hhears⟩ := mem_openOn.mp hmem
  obtain ⟨after', hafter', hgoes⟩ := h.goes w watch hwatch
  obtain rfl := Option.some.inj (hafter.symm.trans hafter')
  rw [hgoes.timer, htimer] at hhears
  cases hhears

/-- A watch may be up to something else as long as its devices stay. -/
theorem setKind_reacts {kind : Watch.Kind} (htimer : kind.hearsTimer = watch.kind.hearsTimer)
    (hkey : kind.hearsKey = watch.kind.hearsKey) :
    Keeps (Reacted told c₀) (setKind w kind : Play ω Unit) := by
  intro c h
  have hears {now : Watch} (hnow : c.watches[w]? = some now) :
      kind.hearsTimer = now.kind.hearsTimer ∧ kind.hearsKey = now.kind.hearsKey := by
    obtain ⟨after, hafter, hgoes⟩ := h.goes w watch hwatch
    obtain rfl := Option.some.inj (hnow.symm.trans hafter)
    exact ⟨htimer.trans hgoes.timer.symm, hkey.trans hgoes.key.symm⟩
  refine h.trans ?_
  refine reacted_of_modify (w := w) (fun watch => { watch with kind }) ⟨?_, ?_⟩ rfl rfl
    rfl fun now hnow => ?_
  · have hsame :
        openOn Watch.Kind.hearsTimer (c.watches.modify w fun watch => { watch with kind }) =
          openOn Watch.Kind.hearsTimer c.watches :=
      openOn_modify fun now hnow => by simp [Watch.attends, (hears hnow).1]
    exact h.attended.timer.trans hsame.symm
  · have hsame : openOn Watch.Kind.hearsKey (c.watches.modify w fun watch => { watch with kind }) =
        openOn Watch.Kind.hearsKey c.watches :=
      openOn_modify fun now hnow => by simp [Watch.attends, (hears hnow).2]
    exact h.attended.key.trans hsame.symm
  · exact ⟨rfl, (hears hnow).1, (hears hnow).2, .inl rfl⟩

variable (hw : w ∈ told)

omit hwatch

theorem leave_reacts (hw : w ∈ told) (answer : Answer) :
    Keeps (Reacted told c₀) (leave w answer : Play ω Unit) :=
  fun c h => h.trans ((leave_parted w answer c).reacted h.attended hw)

include hwatch hw

theorem leaveTimer_reacts (hkey : watch.kind.hearsKey = false) (answer : Answer) :
    Keeps (Reacted told c₀) (do leaveTimer w; conclude w answer : Play ω Unit) :=
  fun _ h => h.trans
    ((leaveTimer_parted answer (h.not_mem_key hwatch hkey)).reacted h.attended hw)

theorem leaveKey_reacts (htimer : watch.kind.hearsTimer = false) (answer : Answer) :
    Keeps (Reacted told c₀) (do leaveKey w; conclude w answer : Play ω Unit) :=
  fun _ h => h.trans
    ((leaveKey_parted answer (h.not_mem_timer hwatch htimer)).reacted h.attended hw)

theorem endFlashing_reacts (eye : Onlooker ω) (hkey : watch.kind.hearsKey = false) :
    Keeps (Reacted told c₀) (endFlashing eye.around w) :=
  fun _ h => h.trans
    ((endFlashing_parted eye (h.not_mem_key hwatch hkey)).reacted h.attended hw)

theorem countDown_reacts (eye : Onlooker ω) {count : Value} {flashes : Nat} (count' : Value)
    (flashes' : Nat) (hkind : watch.kind = .countdown count flashes) :
    Keeps (Reacted told c₀) (countDown eye.around w count' flashes') := by
  have hset (count : Value) (flashes : Nat) : Keeps (Reacted told c₀)
      (setKind w (.countdown count flashes) : Play ω Unit) :=
    setKind_reacts hwatch (by rw [hkind]; rfl) (by rw [hkind]; rfl)
  refine (hset _ _).bind fun _ => .ite (fun _ => ?_) fun _ => ?_
  · exact (Quiet.enable eye _).reacts.bind fun _ => (Quiet.showDigit eye _).reacts
  · refine (Quiet.enable eye _).reacts.bind fun _ => (Quiet.showCharacter eye _).reacts.bind
      fun _ => (hset _ _).bind fun _ => .ite (fun _ => ?_) fun _ => .pure _
    exact leaveTimer_reacts hwatch hw (by rw [hkind]; rfl) _

theorem flash_reacts (eye : Onlooker ω) {value : Value} {shown : Nat} (event : TimerEvent)
    (value' : Value) (shown' : Nat) (hkind : watch.kind = .flashing value shown) :
    Keeps (Reacted told c₀) (flash eye.around w event value' shown') := by
  have hend : Keeps (Reacted told c₀) (endFlashing eye.around w) :=
    endFlashing_reacts hwatch hw eye (by rw [hkind]; rfl)
  have hset (value : Value) (shown : Nat) : Keeps (Reacted told c₀)
      (setKind w (.flashing value shown) : Play ω Unit) :=
    setKind_reacts hwatch (by rw [hkind]; rfl) (by rw [hkind]; rfl)
  refine Quiet.get.reacts.bind fun c => .ite (fun _ => hend) fun _ => ?_
  have hrest : Keeps (Reacted told c₀) (do
      setKind w (.flashing value' (shown' + 1))
      if shown' + 1 = flashCycles then endFlashing eye.around w
      else enable eye.around (.int flashTicks) : Play ω Unit) :=
    (hset _ _).bind fun _ => .ite (fun _ => hend) fun _ => (Quiet.enable eye _).reacts
  exact .ite (fun _ => (Quiet.showDigit eye _).reacts.bind fun _ => hrest) fun _ =>
    (Quiet.showCharacter eye _).reacts.bind fun _ => hrest

theorem demoDrive_reacts (eye : Onlooker ω) {steering : Bool} {loops : Nat} (steering' : Bool)
    (loops' : Nat) (hkind : watch.kind = .demo steering loops) :
    Keeps (Reacted told c₀) (demoDrive eye.around w steering' loops') := by
  have hset (steering : Bool) (loops : Nat) : Keeps (Reacted told c₀)
      (setKind w (.demo steering loops) : Play ω Unit) :=
    setKind_reacts hwatch (by rw [hkind]; rfl) (by rw [hkind]; rfl)
  refine (hset _ _).bind fun _ => .ite (fun _ => (Quiet.demoOn eye).reacts) fun _ => ?_
  refine Quiet.demoSteers.reacts.bind fun steers => .ite (fun _ => ?_) fun _ =>
    (Quiet.enable eye _).reacts
  refine (Quiet.steer eye).reacts.bind fun taken => .ite (fun _ => leave_reacts hw _) fun _ => ?_
  exact (hset _ _).bind fun _ => .ite (fun _ => leave_reacts hw _) fun _ =>
    (Quiet.enable eye _).reacts

end

/-! ### Events and edges -/

/-- A watch that is told of an event of the timer goes on, or it leaves all devices as it ends. -/
theorem onEvent_reacts (eye : Onlooker ω) (event : TimerEvent) (hw : w ∈ told) :
    Keeps (Reacted told c₀) (onEvent eye.around w event) := by
  refine .get_bind fun c h => ?_
  have hself : Reacted told c c := (Undisturbed.refl c).reacted h.attended told
  refine h.trans ?_
  cases hwatch : c.watches[w]? with
  | none => exact hself
  | some watch =>
    obtain ⟨kind, ending, waiter⟩ := watch
    cases kind with
    | event => exact leaveTimer_reacts hwatch hw rfl _ c hself
    | release => exact hself
    | edge => exact hself
    | pressOrEvent => exact leave_reacts hw _ c hself
    | countdown count flashes =>
      cases event with
      | disabled => exact leaveTimer_reacts hwatch hw rfl _ c hself
      | elapsed => exact countDown_reacts hwatch hw eye count flashes rfl c hself
    | flashing value shown => exact flash_reacts hwatch hw eye event value shown rfl c hself
    | demo steering loops =>
      cases event with
      | disabled => exact leave_reacts hw _ c hself
      | elapsed => exact demoDrive_reacts hwatch hw eye steering loops rfl c hself
    | play =>
      cases event with
      | disabled => exact leave_reacts hw _ c hself
      | elapsed => exact (Quiet.driveOn eye).reacts c hself

/-- A watch that is told of an edge of the key goes on, or it leaves all devices as it ends. -/
theorem onEdge_reacts (eye : Onlooker ω) (pressed : Bool) (hw : w ∈ told) :
    Keeps (Reacted told c₀) (onEdge eye.around w pressed) := by
  refine .get_bind fun c h => ?_
  have hself : Reacted told c c := (Undisturbed.refl c).reacted h.attended told
  have hpressed (answer : Answer) : Keeps (Reacted told c)
      (if pressed then leave w answer else pure () : Play ω Unit) :=
    .ite (fun _ => leave_reacts hw answer) fun _ => .pure _
  refine h.trans ?_
  cases hwatch : c.watches[w]? with
  | none => exact hself
  | some watch =>
    obtain ⟨kind, ending, waiter⟩ := watch
    cases kind with
    | release =>
      exact Keeps.ite (fun _ => leaveKey_reacts hwatch hw rfl _) (fun _ => .pure _) c hself
    | edge => exact leaveKey_reacts hwatch hw rfl _ c hself
    | pressOrEvent => exact hpressed _ c hself
    | demo steering loops => exact hpressed _ c hself
    | play =>
      exact Keeps.ite (fun _ => (Quiet.steer eye).reacts.bind fun taken =>
        .ite (fun _ => leave_reacts hw _) fun _ => .pure _) (fun _ => .pure _) c hself
    | event => exact hself
    | countdown => exact hself
    | flashing => exact hself

/-- An event of the timer is told to the watches that are on it. -/
theorem notify_reacted (eye : Onlooker ω) (event : TimerEvent) (hc : c.Attended) :
    Reacted c.timer.listeners c ((notify eye.around event).result c).2 := by
  have hself : Reacted c.timer.listeners c c := (Undisturbed.refl c).reacted hc _
  have htells : Keeps (Reacted c.timer.listeners c)
      (Timer.tellAll (fun w => onEvent eye.around w event)
        (fun _ fault => note (Timer.failure "?" event fault)) c.timer.listeners) :=
    .forM _ fun w hw => (onEvent_reacts eye event hw).tryCatch fun _ => (Quiet.note _).reacts
  exact htells c hself

theorem countdownOver_reacted (eye : Onlooker ω) (hc : c.Attended) :
    Reacted c.timer.listeners c ((countdownOver eye.around).result c).2 := by
  let late : Cabinet ω := { c with timer := c.timer.ranOut }
  have hlate : Undisturbed c late := ⟨rfl, rfl, rfl, rfl, rfl⟩
  exact (hlate.reacted hc _).trans (notify_reacted eye .elapsed (hlate.attended hc))

theorem disable_reacted (eye : Onlooker ω) (hc : c.Attended) :
    Reacted c.timer.listeners c ((disable eye.around).result c).2 := by
  let off := tickingOf.put (Timer.clear.result (c.timer, c.agenda)).2 c
  have hoff : Undisturbed c off := ⟨rfl, rfl, rfl, rfl, rfl⟩
  have hresult : (disable eye.around).result c = (notify eye.around .disabled).result off := rfl
  rw [hresult]
  have htold := notify_reacted eye .disabled (hoff.attended hc)
  rw [hoff.timer] at htold
  exact (hoff.reacted hc _).trans htold

/-- An edge of the key is told to the watches that are on it. -/
theorem move_reacted (eye : Onlooker ω) (pressed : Bool) (hc : c.Attended) :
    Reacted c.key.listeners c ((move eye.around pressed).result c).2 := by
  have hmoved : Undisturbed c (moved eye pressed c) := ⟨rfl, rfl, rfl, rfl, rfl⟩
  have htells : Keeps (Reacted c.key.listeners c)
      (c.key.listeners.forM fun w => onEdge eye.around w pressed) :=
    .forM _ fun w hw => onEdge_reacts eye pressed hw
  have hresult : (move eye.around pressed).result c =
      (c.key.listeners.forM fun w => onEdge eye.around w pressed).result (moved eye pressed c) := by
    simp only [result, moved_apply]
  rw [hresult]
  exact htells _ (hmoved.reacted hc _)

end Cabinet

end DigitRace
