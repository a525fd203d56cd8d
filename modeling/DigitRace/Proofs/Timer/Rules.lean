import DigitRace.Proofs.Scripts
import DigitRace.Proofs.Timer.History
import Mathlib.Algebra.Order.Group.Multiset
import Mathlib.Tactic.Abel

/-!
# The rules of a timer

When a countdown runs out or is called off, the timer announces it to the listeners that are
registered at that moment. In its turn a listener does what its script says: it may register
others, take them off, arm the timer, call it off, which is announced before the turn is over, let
a time pass, and fail. What begins at the timer meanwhile, and what is announced, within each other
to any depth, is told here by rules, without a bound on the depth. By the rules nothing begins at
the timer but what someone does to it and the end of a countdown that is due, and each of these is
one onset. They leave no choice where a time that passes is not over before every countdown that is
due by then has run out. The program keeps to the rules.
-/

namespace DigitRace.Script

open TimerRehearsal (ticking noted perform notify runUntil limit)

/-! ## What is announced and what begins -/

mutual

/-- An announcement of an event. -/
structure Announcement where
  event : TimerEvent
  /-- Who was registered when the announcement began. -/
  audience : List String
  /-- The turns that listeners had, in order. -/
  turns : List Turn

/-- The turn of a listener in an announcement. -/
structure Turn where
  listener : String
  time : Rat
  /-- What was announced before the turn was over. -/
  during : List Announcement
  outcome : Except Fault Unit

end

/-- What is written down of a turn that is over. -/
def Turn.records (event : TimerEvent) (turn : Turn) : List Record :=
  match turn.outcome with
  | .ok _ => []
  | .error fault => [Timer.failure turn.listener event fault]

/-- An action that announces nothing. -/
def TimerAction.isQuiet : TimerAction → Bool
  | .disable | .advance _ => false
  | _ => true

/-- Telling nobody. -/
def toNobody (_ : String) (_ : TimerEvent) : Act TimerRehearsal Unit :=
  pure ⟨⟩

/-- What begins at the timer when it is enabled. -/
def enabling (ticks : Value) (r : TimerRehearsal) : Onset :=
  match ticks.whole,
      ticking.run (Timer.enable r.device.inLoop r.device.clock () ticks) r with
  | .ok n, .ok _ _ => .armed r.device.agenda.now n
  | _, _ => .refused r.device.agenda.now

/-- What an action begins at the timer by itself. -/
def begins (r : TimerRehearsal) : TimerAction → List Onset
  | .enable ticks => [enabling ticks r]
  | .disable => [.disabled r.device.agenda.now]
  | _ => []

/-- The rehearsal once a turn is over and was written down if it failed. -/
def afterTurn (event : TimerEvent) (turn : Turn) (r : TimerRehearsal) : TimerRehearsal :=
  { r with journal := r.journal ++ turn.records event }

/-- The rehearsal once its countdown has run out, before anyone is told. -/
def ranOut (agenda : Agenda Unit) (r : TimerRehearsal) : TimerRehearsal :=
  ticking.put (r.device.timer.ranOut, agenda) r

/-- The rehearsal at another time. -/
def atTime (now : Rat) (r : TimerRehearsal) : TimerRehearsal :=
  ticking.put (r.device.timer, { r.device.agenda with now }) r

/-! ## The rules -/

mutual

/-- Deeds are done in turn, up to the first failure: what begins at the timer and what is announced
meanwhile, what they come to, and the rehearsal after them. -/
inductive Does (prompt : Prop) : List (Deed TimerAction) → TimerRehearsal → List Onset →
    List Announcement → Except Fault Unit → TimerRehearsal → Prop where
  | nothing {r : TimerRehearsal} : Does prompt [] r [] [] (.ok ⟨⟩) r
  | fails {kind text : String} {rest : List (Deed TimerAction)} {r : TimerRehearsal} :
      Does prompt (.fail kind text :: rest) r [] [] (.error (.raised kind text)) r
  | quiet {action : TimerAction} {rest : List (Deed TimerAction)} {r r₁ r₂ : TimerRehearsal}
      {log : List Onset} {made : List Announcement} {outcome : Except Fault Unit}
      (hquiet : action.isQuiet = true) (hact : perform toNobody action r = .ok ⟨⟩ r₁)
      (hrest : Does prompt rest r₁ log made outcome r₂) :
      Does prompt (.act action :: rest) r (begins r action ++ log) made outcome r₂
  | refused {action : TimerAction} {rest : List (Deed TimerAction)} {r r₁ : TimerRehearsal}
      {fault : Fault} (hquiet : action.isQuiet = true)
      (hact : perform toNobody action r = .error fault r₁) :
      Does prompt (.act action :: rest) r (begins r action) [] (.error fault) r₁
  /-- The countdown is called off, and that is announced. -/
  | disable {rest : List (Deed TimerAction)} {r r₁ r₂ r₃ : TimerRehearsal} {log later : List Onset}
      {turns : List Turn} {made : List Announcement} {outcome : Except Fault Unit}
      (hclear : ticking.run Timer.clear r = .ok ⟨⟩ r₁)
      (htells : Tells prompt .disabled r.device.timer.listeners r₁ log turns r₂)
      (hrest : Does prompt rest r₂ later made outcome r₃) : Does prompt (.act .disable :: rest) r
        (.disabled r.device.agenda.now :: (log ++ later))
        (⟨.disabled, r.device.timer.listeners, turns⟩ :: made) outcome r₃
  | advance {seconds : Rat} {rest : List (Deed TimerAction)} {r r₁ r₂ : TimerRehearsal}
      {log later : List Onset} {meanwhile made : List Announcement} {outcome : Except Fault Unit}
      (helapses : Elapses prompt (r.device.agenda.now + seconds) r log meanwhile r₁)
      (hrest : Does prompt rest (atTime (r.device.agenda.now + seconds) r₁) later made outcome r₂) :
      Does prompt (.act (.advance seconds) :: rest) r (log ++ later) (meanwhile ++ made) outcome r₂

/-- Countdowns that are due by a time run out one after the other, and each of these events is
announced. If time is `prompt`, this is not over before none is left. -/
inductive Elapses (prompt : Prop) : Rat → TimerRehearsal → List Onset → List Announcement →
    TimerRehearsal → Prop where
  | still {horizon : Rat} {r : TimerRehearsal}
      (hover : prompt → r.device.agenda.next? horizon = none) : Elapses prompt horizon r [] [] r
  | next {horizon : Rat} {agenda : Agenda Unit} {r r₁ r₂ : TimerRehearsal} {log later : List Onset}
      {turns : List Turn} {made : List Announcement}
      (hnext : r.device.agenda.next? horizon = some ((), agenda))
      (htells : Tells prompt .elapsed r.device.timer.listeners (ranOut agenda r) log turns r₁)
      (hrest : Elapses prompt horizon r₁ later made r₂) :
      Elapses prompt horizon r (.ranOut agenda.now r.device.timer.listeners :: (log ++ later))
        (⟨.elapsed, r.device.timer.listeners, turns⟩ :: made) r₂

/-- Listeners are told of an event, one after the other: each does what its script says, and a
failure is written down and does not concern the others. -/
inductive Tells (prompt : Prop) : TimerEvent → List String → TimerRehearsal → List Onset →
    List Turn → TimerRehearsal → Prop where
  | nobody {event : TimerEvent} {r : TimerRehearsal} : Tells prompt event [] r [] [] r
  | turn {event : TimerEvent} {listener : String} {rest : List String}
      {r r₁ r₂ : TimerRehearsal} {log later : List Onset} {during : List Announcement}
      {outcome : Except Fault Unit} {turns : List Turn}
      (hdoes : Does prompt (Rehearsal.nextEntry listener r)
        (Rehearsal.called noted listener event r) log during outcome r₁)
      (hrest : Tells prompt event rest
        (afterTurn event ⟨listener, r.device.agenda.now, during, outcome⟩ r₁) later turns r₂) :
      Tells prompt event (listener :: rest) r (log ++ later)
        (⟨listener, r.device.agenda.now, during, outcome⟩ :: turns) r₂

end

/-! ## The rules leave no choice -/

-- By induction on the rules by which the first account was made; the three kinds refer to each
-- other.
mutual

/-- What is done promptly, all that begins and is announced meanwhile is determined. -/
theorem Does.unique {deeds : List (Deed TimerAction)} {r r' r'' : TimerRehearsal}
    {log log' : List Onset} {made made' : List Announcement}
    {outcome outcome' : Except Fault Unit} :
    Does True deeds r log made outcome r' → Does True deeds r log' made' outcome' r'' →
      log = log' ∧ made = made' ∧ outcome = outcome' ∧ r' = r''
  | .nothing, h' => by cases h'; exact ⟨rfl, rfl, rfl, rfl⟩
  | .fails, h' => by cases h'; exact ⟨rfl, rfl, rfl, rfl⟩
  | .quiet hquiet hact hrest, h' => by
    cases h' with
    | quiet _ hact' hrest' =>
      obtain ⟨-, rfl⟩ := EStateM.Result.ok.inj (hact.symm.trans hact')
      obtain ⟨rfl, rfl, rfl, rfl⟩ := hrest.unique hrest'
      exact ⟨rfl, rfl, rfl, rfl⟩
    | refused _ hact' => cases hact.symm.trans hact'
    | disable => cases hquiet
    | advance => cases hquiet
  | .refused hquiet hact, h' => by
    cases h' with
    | quiet _ hact' => cases hact.symm.trans hact'
    | refused _ hact' =>
      obtain ⟨rfl, rfl⟩ := EStateM.Result.error.inj (hact.symm.trans hact')
      exact ⟨rfl, rfl, rfl, rfl⟩
    | disable => cases hquiet
    | advance => cases hquiet
  | .disable hclear htells hrest, h' => by
    cases h' with
    | quiet hquiet => cases hquiet
    | refused hquiet => cases hquiet
    | disable hclear' htells' hrest' =>
      obtain ⟨-, rfl⟩ := EStateM.Result.ok.inj (hclear.symm.trans hclear')
      obtain ⟨rfl, rfl, rfl⟩ := htells.unique htells'
      obtain ⟨rfl, rfl, rfl, rfl⟩ := hrest.unique hrest'
      exact ⟨rfl, rfl, rfl, rfl⟩
  | .advance helapses hrest, h' => by
    cases h' with
    | quiet hquiet => cases hquiet
    | refused hquiet => cases hquiet
    | advance helapses' hrest' =>
      obtain ⟨rfl, rfl, rfl⟩ := helapses.unique helapses'
      obtain ⟨rfl, rfl, rfl, rfl⟩ := hrest.unique hrest'
      exact ⟨rfl, rfl, rfl, rfl⟩

theorem Elapses.unique {horizon : Rat} {r r' r'' : TimerRehearsal} {log log' : List Onset}
    {made made' : List Announcement} :
    Elapses True horizon r log made r' → Elapses True horizon r log' made' r'' →
      log = log' ∧ made = made' ∧ r' = r''
  | .still hover, h' => by
    cases h' with
    | still => exact ⟨rfl, rfl, rfl⟩
    | next hnext => cases (hover trivial).symm.trans hnext
  | .next hnext htells hrest, h' => by
    cases h' with
    | still hover => cases (hover trivial).symm.trans hnext
    | next hnext' htells' hrest' =>
      obtain ⟨-, rfl⟩ := Prod.mk.inj (Option.some.inj (hnext.symm.trans hnext'))
      obtain ⟨rfl, rfl, rfl⟩ := htells.unique htells'
      obtain ⟨rfl, rfl, rfl⟩ := hrest.unique hrest'
      exact ⟨rfl, rfl, rfl⟩

theorem Tells.unique {event : TimerEvent} {listeners : List String} {r r' r'' : TimerRehearsal}
    {log log' : List Onset} {turns turns' : List Turn} :
    Tells True event listeners r log turns r' → Tells True event listeners r log' turns' r'' →
      log = log' ∧ turns = turns' ∧ r' = r''
  | .nobody, h' => by cases h'; exact ⟨rfl, rfl, rfl⟩
  | .turn hdoes hrest, h' => by
    cases h' with
    | turn hdoes' hrest' =>
      obtain ⟨rfl, rfl, rfl, rfl⟩ := hdoes.unique hdoes'
      obtain ⟨rfl, rfl, rfl⟩ := hrest.unique hrest'
      exact ⟨rfl, rfl, rfl⟩

end

/-! ## What the rules say of a history -/

variable {prompt : Prop} {r r' r₁ r₂ r₃ : TimerRehearsal} {log log₁ log₂ : List Onset}
  {told told₁ told₂ : Multiset String} {spent spent₁ spent₂ : Nat}

/-- The listeners that were told that a countdown ran out. -/
def heard (r : TimerRehearsal) : Multiset String :=
  ((r.calls.filter fun call => call.event = .elapsed).map TimerCall.listener : List String)

/-- The listeners that the countdowns of a history ran out before. -/
def audiences (log : List Onset) : Multiset String :=
  (log.flatMap Onset.audience : List String)

/-- The listeners who hear of a countdown that ran out when listeners are told of an event. -/
def hearing (event : TimerEvent) (listeners : List String) : Multiset String :=
  if event = .elapsed then (listeners : Multiset String) else 0

/-- The deeds that scripts hold. -/
def deedsLeft (scripts : List (Script TimerAction)) : Nat :=
  (scripts.flatMap Script.entries).flatten.length

/-- How many countdowns can still run out: the pending one, and one for each deed that the scripts
hold. -/
def potential (r : TimerRehearsal) : Nat :=
  deedsLeft r.scripts + if r.device.timer.armed then 1 else 0

/-- The state that an act leaves, whether it fails or not. -/
def after (act : Act TimerRehearsal Unit) (r : TimerRehearsal) : TimerRehearsal :=
  (act.result r).2

theorem after_of_ok {act : Act TimerRehearsal Unit} (h : act r = .ok ⟨⟩ r') : after act r = r' := by
  rw [after, Act.result_of_ok h]

theorem after_of_error {act : Act TimerRehearsal Unit} {fault : Fault}
    (h : act r = .error fault r') : after act r = r' := by
  rw [after, Act.result_of_error h]

@[simp] theorem audiences_nil : audiences [] = 0 := rfl

@[simp] theorem audiences_append : audiences (log₁ ++ log₂) = audiences log₁ + audiences log₂ := by
  simp [audiences]

theorem audiences_cons (onset : Onset) :
    audiences (onset :: log) = (onset.audience : Multiset String) + audiences log := by
  simp [audiences]

@[simp] theorem hearing_nil (event : TimerEvent) : hearing event [] = 0 := by
  simp [hearing]

theorem hearing_cons (event : TimerEvent) (listener : String) (rest : List String) :
    hearing event (listener :: rest) = hearing event [listener] + hearing event rest := by
  unfold hearing
  split_ifs
  · rw [Multiset.coe_add, List.singleton_append]
  · rfl

/-- A rehearsal goes on from `r` to `r'` with a history in which every countdown that runs out is
told to its audience, and beside them `told` hear of one. What can still run out grows by `spent` at
most, and the scripts hold no more entries than before. -/
structure Leads (told : Multiset String) (spent : Nat) (log : List Onset)
    (r r' : TimerRehearsal) : Prop where
  stirred : Stirred r log r'
  heard_eq : heard r' = heard r + told + audiences log
  potential_le : potential r' ≤ potential r + spent
  entriesLeft_le : r'.entriesLeft ≤ r.entriesLeft

namespace Leads

theorem refl : Leads 0 0 [] r r :=
  ⟨.refl, by simp, le_rfl, le_rfl⟩

theorem trans (h₁ : Leads told₁ spent₁ log₁ r₁ r₂) (h₂ : Leads told₂ spent₂ log₂ r₂ r₃) :
    Leads (told₁ + told₂) (spent₁ + spent₂) (log₁ ++ log₂) r₁ r₃ := by
  refine ⟨h₁.stirred.trans h₂.stirred, ?_, ?_, h₂.entriesLeft_le.trans h₁.entriesLeft_le⟩
  · rw [h₂.heard_eq, h₁.heard_eq, audiences_append]
    abel
  · have := h₁.potential_le
    have := h₂.potential_le
    omega

theorem weaken (h : Leads told spent₁ log r r') (hspent : spent₁ ≤ spent₂) :
    Leads told spent₂ log r r' :=
  ⟨h.stirred, h.heard_eq, h.potential_le.trans (Nat.add_le_add_left hspent _), h.entriesLeft_le⟩

/-- Something that concerns neither the countdown nor the scripts leads on with nothing told. -/
theorem apart (hhandle : r'.device.timer.handle = r.device.timer.handle)
    (helapsed : r'.device.timer.elapsed = r.device.timer.elapsed)
    (hrate : r'.device.timer.rate = r.device.timer.rate)
    (hagenda : r'.device.agenda = r.device.agenda) (hscripts : r'.scripts = r.scripts)
    (hcalls : r'.calls = r.calls) : Leads 0 0 [] r r' :=
  ⟨(Stirs.apart hhandle helapsed hrate hagenda).stirred, by simp [heard, hcalls],
    by simp only [potential, Timer.armed, hhandle, hscripts]; rfl,
    by simp only [Rehearsal.entriesLeft, hscripts]; rfl⟩

theorem begun_apart (h : Leads told spent log r₂ r₃) (hdevice : r₂.device = r₁.device)
    (hscripts : r₂.scripts = r₁.scripts) (hcalls : r₂.calls = r₁.calls) :
    Leads told spent log r₁ r₃ := by
  simpa using (Leads.apart (by rw [hdevice]) (by rw [hdevice]) (by rw [hdevice])
    (by rw [hdevice]) hscripts hcalls).trans h

/-- An onset that is told to nobody yet leads on, if the scripts stay. -/
theorem of_stirs (hstirs : Stirs r log r') (hcalls : r'.calls = r.calls)
    (hscripts : r'.scripts = r.scripts) (hsilent : audiences log = 0) :
    Leads 0 1 log r r' := by
  refine ⟨hstirs.stirred, by simp [heard, hcalls, hsilent], ?_, ?_⟩
  · unfold potential
    rw [hscripts]
    split_ifs <;> omega
  · simp only [Rehearsal.entriesLeft, hscripts]
    rfl

theorem atTime (h : Leads told spent log r r') (now : Rat) :
    Leads told spent log r (atTime now r') := by
  have hpasses : Stirred r (log ++ []) (Script.atTime now r') := h.stirred.next (.passes now)
  rw [List.append_nil] at hpasses
  exact ⟨hpasses, h.heard_eq, h.potential_le, h.entriesLeft_le⟩

end Leads

/-- An entry that is taken out of a script is no longer in it. -/
theorem deedsLeft_takeEntry (listener : String) (scripts : List (Script TimerAction)) :
    (Rehearsal.takeEntry listener scripts).1.length +
      deedsLeft (Rehearsal.takeEntry listener scripts).2 = deedsLeft scripts := by
  induction scripts with
  | nil => rfl
  | cons script rest ih =>
    unfold Rehearsal.takeEntry
    split_ifs with hlistener
    · cases hentries : script.entries <;> simp [deedsLeft, hentries]
    · simp only [deedsLeft, List.flatMap_cons, List.flatten_append, List.length_append] at ih ⊢
      omega

theorem potential_called (listener : String) (event : TimerEvent) (r : TimerRehearsal) :
    potential (Rehearsal.called noted listener event r) +
      (Rehearsal.nextEntry listener r).length = potential r := by
  unfold potential
  rw [← deedsLeft_takeEntry listener r.scripts, Nat.add_right_comm, Nat.add_comm (deedsLeft _)]
  rfl

/-- A call that is noted is heard. -/
theorem heard_called (listener : String) (event : TimerEvent) (r : TimerRehearsal) :
    heard (Rehearsal.called noted listener event r) = heard r + hearing event [listener] := by
  unfold hearing
  split_ifs with hevent
  · simp [heard, noted, Rehearsal.called, hevent, ← Multiset.coe_add]
  · simp [heard, noted, Rehearsal.called, hevent]

/-- A listener is called, and then does no more than what the next entry of its script says. -/
theorem Leads.turn {listener : String} {event : TimerEvent}
    (h : Leads 0 (Rehearsal.nextEntry listener r).length log
      (Rehearsal.called noted listener event r) r') :
    Leads (hearing event [listener]) 0 log r r' := by
  have hcalled : Stirs r [] (Rehearsal.called noted listener event r) := .apart rfl rfl rfl rfl
  have hentries := Rehearsal.called_cases noted listener event r
  refine ⟨hcalled.stirred.trans h.stirred, ?_, ?_, ?_⟩
  · rw [h.heard_eq, heard_called, add_zero]
  · exact h.potential_le.trans (potential_called listener event r).le
  · have hleft := h.entriesLeft_le
    omega

theorem whole_of_enable_ok {inLoop : Bool} {reading : Float} {ticks : Value}
    {pair pair' : Timer Float String × Agenda Unit}
    (h : Timer.enable inLoop reading () ticks pair = .ok ⟨⟩ pair') : ∃ n, ticks.whole = .ok n := by
  cases hwhole : ticks.whole with
  | ok n => exact ⟨n, rfl⟩
  | error fault => simp [Timer.enable, Timer.clear, hwhole] at h

/-- Enabling is one onset, whether it succeeds or not. -/
theorem stirs_enable (ticks : Value) (r : TimerRehearsal) :
    Stirs r [enabling ticks r]
      (after (ticking.run (Timer.enable r.device.inLoop r.device.clock () ticks)) r) := by
  cases henable : Timer.enable r.device.inLoop r.device.clock () ticks
      (r.device.timer, r.device.agenda) with
  | ok _ pair =>
    obtain ⟨n, hwhole⟩ := whole_of_enable_ok henable
    have hrun := ticking_run_ok henable
    rw [after_of_ok hrun, enabling, hwhole, hrun]
    exact .armed hwhole hrun
  | error fault pair =>
    have hrun := ticking_run_error henable
    rw [after_of_error hrun, enabling, hrun]
    cases ticks.whole <;> exact .refused hrun

@[simp] theorem audiences_enabling (ticks : Value) : audiences [enabling ticks r] = 0 := by
  unfold enabling
  split <;> rfl

/-- An act on the timer tells nobody and leaves the scripts alone. -/
theorem ticking_run_frame (act : Act (Timer Float String × Agenda Unit) Unit)
    (r : TimerRehearsal) :
    (after (ticking.run act) r).calls = r.calls ∧
      (after (ticking.run act) r).scripts = r.scripts := by
  cases hact : act (r.device.timer, r.device.agenda) with
  | ok _ pair =>
    rw [after_of_ok (ticking_run_ok hact)]
    exact ⟨rfl, rfl⟩
  | error fault pair =>
    rw [after_of_error (ticking_run_error hact)]
    exact ⟨rfl, rfl⟩

/-- An action that announces nothing begins what it says. -/
theorem leads_quiet {action : TimerAction} (hquiet : action.isQuiet = true) (r : TimerRehearsal) :
    Leads 0 1 (begins r action) r (after (perform toNobody action) r) := by
  cases action with
  | disable | advance => cases hquiet
  | register | unregister | resetClock | setClock =>
    refine Leads.weaken ?_ (Nat.zero_le 1)
    exact .apart rfl rfl rfl rfl rfl rfl
  | enable ticks =>
    obtain ⟨hcalls, hscripts⟩ := ticking_run_frame
      (Timer.enable r.device.inLoop r.device.clock () ticks) r
    exact .of_stirs (stirs_enable ticks r) hcalls hscripts (audiences_enabling ticks)

/-- So does calling the countdown off. -/
theorem leads_clear (hclear : ticking.run Timer.clear r = .ok ⟨⟩ r₁) :
    Leads 0 1 [.disabled r.device.agenda.now] r r₁ := by
  obtain ⟨hcalls, hscripts⟩ := ticking_run_frame Timer.clear r
  rw [after_of_ok hclear] at hcalls hscripts
  exact .of_stirs (.disabled hclear) hcalls hscripts rfl

/-- A countdown that runs out is told to its audience, and uses up what could run out. -/
theorem Leads.ranOut {agenda : Agenda Unit} {horizon : Rat}
    (hnext : r.device.agenda.next? horizon = some ((), agenda))
    (h : Leads (hearing .elapsed r.device.timer.listeners) 0 log (ranOut agenda r) r') :
    Leads 0 0 (.ranOut agenda.now r.device.timer.listeners :: log) r r' := by
  have hstirs : Stirs r [.ranOut agenda.now r.device.timer.listeners] (Script.ranOut agenda r) :=
    .ranOut hnext
  refine ⟨hstirs.stirred.trans h.stirred, ?_, ?_, h.entriesLeft_le⟩
  · rw [h.heard_eq, audiences_cons, add_zero, ← add_assoc]
    rfl
  · refine h.potential_le.trans ?_
    simp [potential, Script.ranOut, ticking, Timer.ranOut, Timer.armed]

-- By induction on the rules; the three kinds of rule refer to each other.
mutual

/-- Deeds lead on with what begins meanwhile, and each deed lets one countdown more run out at
most. -/
theorem Does.leads {deeds : List (Deed TimerAction)} {r r' : TimerRehearsal} {log : List Onset}
    {made : List Announcement} {outcome : Except Fault Unit} :
    Does prompt deeds r log made outcome r' → Leads 0 deeds.length log r r'
  | .nothing => .refl
  | .fails => Leads.refl.weaken (Nat.zero_le _)
  | .quiet hquiet hact hrest => by
    have hfirst := leads_quiet hquiet r
    rw [after_of_ok hact] at hfirst
    exact (hfirst.trans hrest.leads).weaken (by rw [List.length_cons, Nat.add_comm])
  | .refused hquiet hact => by
    have hfirst := leads_quiet hquiet r
    rw [after_of_error hact] at hfirst
    exact hfirst.weaken (by simp)
  | .disable hclear htells hrest => by
    have hafter := (leads_clear hclear).trans (htells.leads.trans hrest.leads)
    exact hafter.weaken (by simp [Nat.add_comm])
  | .advance helapses hrest => ((helapses.leads.atTime _).trans hrest.leads).weaken (by simp)

theorem Elapses.leads {horizon : Rat} {r r' : TimerRehearsal} {log : List Onset}
    {made : List Announcement} : Elapses prompt horizon r log made r' → Leads 0 0 log r r'
  | .still _ => .refl
  | .next hnext htells hrest => (htells.leads.ranOut hnext).trans hrest.leads

theorem Tells.leads {event : TimerEvent} {listeners : List String} {r r' : TimerRehearsal}
    {log : List Onset} {turns : List Turn} :
    Tells prompt event listeners r log turns r' → Leads (hearing event listeners) 0 log r r'
  | .nobody => by
    rw [hearing_nil]
    exact .refl
  | .turn hdoes hrest => by
    rw [hearing_cons]
    exact hdoes.leads.turn.trans (hrest.leads.begun_apart rfl rfl rfl)

end

end DigitRace.Script
