import DigitRace.Proofs.Cabinet.Happening
import DigitRace.Proofs.Cabinet.Likewise
import DigitRace.Proofs.Session.Opening

/-!
# How a session closes

A session closes because its task is over, because the user closes the window or because responding
to the user fails. Until then the window is open, and whatever the game does, it can only draw on
it. All ways lead to one end: the task is over, nobody is told of patterns or edges any more, and
the last thing that the library was told is to quit.

The loop is free in what it does next: a deadline that is due may be met ahead of what is ready, so
that the countdown can run out and draw while the end of a cancelled task is awaited, and time
passes as it likes. The steps of the program are one of the ways in which a session runs.
-/

namespace DigitRace

open Act

namespace Window

/-- The window is open, and the library was not told to quit. -/
structure Opened (window : Window) : Prop where
  isOpen : window.isOpen = true
  unquit : .quit ∉ window.drawings.toList

variable {keyDown : Bool} {event : Event} {window : Window}

theorem Opened.emit (h : Opened window) {drawing : Drawing}
    (hdrawing : drawing ≠ .quit) :
    Opened { window with drawings := window.drawings.push drawing } where
  isOpen := h.isOpen
  unquit := by simpa [hdrawing.symm] using h.unquit

/-- Drawing does not close a window. -/
theorem opened_steadfast : Steadfast Opened where
  account _ _ _ _ h := ⟨h.isOpen, h.unquit⟩
  draws _ drawing hdraws h := h.emit fun hquit => by
    subst hquit
    exact hdraws

theorem keeps_opened_showPattern (pattern : Value) : Keeps Opened (showPattern pattern) :=
  Keeps.bind (.modify fun _ h => ⟨h.isOpen, h.unquit⟩) fun _ => opened_steadfast.keeps_redraw

theorem keeps_opened_showSwitch (pressed : Bool) : Keeps Opened (showSwitch pressed) :=
  Keeps.bind (.modify fun _ h => ⟨h.isOpen, h.unquit⟩) fun _ => opened_steadfast.keeps_redraw

theorem keeps_opened_present : Keeps Opened present :=
  .get_bind fun window => Keeps.ite (fun _ => Keeps.bind (.modify fun _ h => h.emit nofun) fun _ =>
    Keeps.bind (.modify fun _ h => ⟨h.isOpen, h.unquit⟩) fun _ => .pure _) (fun _ => .pure _) window

theorem keeps_opened_respond : Keeps Opened (respond keyDown event) :=
  keeps_respond (fun _ _ h => ⟨h.isOpen, h.unquit⟩) keyDown event

theorem stop_apply (hopen : window.isOpen = true) :
    stop window = .ok ⟨⟩ { window with
      drawings := window.drawings.push .quit
      isOpen := false } := by
  simp [stop, hopen, emit]

end Window

/-- The fault that a front ends with, as far as it is known in a phase. -/
def Front.Phase.faults : Front.Phase → List Fault
  | .open => []
  | .closing fault | .called fault => fault.toList
  | .closed (.ok _) => []
  | .closed (.error fault) => [fault]

namespace Session

open Cabinet

/-- The record of a task that has failed. -/
def failureRecord (failure : Fault) : Record :=
  { level := .error, source, message := "game task failed", fault := some failure }

/-- The records that say that the task has failed. -/
def failures (journal : Array Record) : List Record :=
  journal.toList.filter fun record =>
    record.source = source ∧ record.message = "game task failed"

theorem failures_append (journal notes : Array Record) :
    failures (journal ++ notes) = failures journal ++ failures notes := by
  simp [failures]

/-- The front is in a phase, its window is open, and no failure of the task was written down. -/
structure Up (phase : Front.Phase) (session : Session) : Prop where
  phase_eq : session.outside.phase = phase
  opened : session.outside.window.Opened
  unlogged : failures session.journal = []

variable {phase : Front.Phase} {session : Session}

/-- The game writes nothing down under the name of the front. -/
theorem up_foreign (phase : Front.Phase) : Foreign (Up phase) where
  outward _ _ haside h := by
    obtain ⟨notes, hjournal, hsources⟩ := haside.journal
    refine ⟨haside.outside ▸ h.phase_eq, haside.outside ▸ h.opened, ?_⟩
    have hnone : failures notes = [] := by
      refine List.filter_eq_nil_iff.mpr fun record hrecord => ?_
      have hsource : record.source ≠ source := fun h =>
        absurd (h ▸ hsources record (Array.mem_toList_iff.mp hrecord)) (by decide)
      simp [hsource]
    rw [hjournal, failures_append, hnone, List.append_nil, h.unlogged]
  inside _ _ hinside h :=
    ⟨hinside.outside ▸ h.phase_eq, hinside.outside ▸ h.opened, hinside.journal ▸ h.unlogged⟩

/-- What keeps the window open keeps the session up. -/
theorem keeps_up_window {α : Type} {act : Act Window α} (h : Keeps Window.Opened act) :
    Keeps (Up phase) (windowOf.run act) :=
  .run fun _ hup => ⟨hup.phase_eq, h _ hup.opened, hup.unlogged⟩

theorem keeps_up_showPattern (pattern : String) :
    Keeps (Up phase) (Cabinet.showPattern around pattern) := by
  have hobserve : Keeps (Up phase) (around.observe pattern) := by
    refine Keeps.bind (.get_bind fun session => ?_) fun _ => .pure _
    refine Keeps.ite (fun _ => .pure _) (fun _ => ?_) session
    exact Keeps.bind (.modify fun _ h => ⟨h.phase_eq, h.opened, h.unlogged⟩) fun _ =>
      (keeps_up_window (Window.keeps_opened_showPattern _)).bind fun _ => .pure _
  refine Keeps.bind (.modify fun _ h => ⟨h.phase_eq, h.opened, h.unlogged⟩) fun _ =>
    .get_bind fun session => ?_
  split
  · exact hobserve session
  · exact fun h => h

theorem keeps_up_move (pressed : Bool) : Keeps (Up phase) (move around pressed) :=
  keeps_move (up_foreign phase).outward keeps_up_showPattern pressed
    (fun _ h => ⟨h.phase_eq, h.opened, h.unlogged⟩)
    (keeps_up_window (Window.keeps_opened_showSwitch pressed))

/-- Responding to the user, also when it fails, keeps the session up. -/
theorem keeps_up_respond : Keeps (Up phase) respond := by
  have hall (events : List Window.Event) : Keeps (Up phase)
      (Window.respondAll windowOf (fun session => session.key.pressed) (move around) events) := by
    induction events with
    | nil => exact .pure _
    | cons event rest ih =>
      refine .get_bind fun session => ?_
      refine (keeps_up_window Window.keeps_opened_respond).bind (fun response => ?_) session
      cases response with
      | close => exact .pure _
      | edge pressed => exact (keeps_up_move pressed).bind fun _ => ih
      | redraw => exact (keeps_up_window Window.opened_steadfast.keeps_redraw).bind fun _ => ih
      | nothing => exact ih
  refine .get_bind fun session => ?_
  refine Keeps.bind (.modify fun _ h => ⟨h.phase_eq, h.opened, h.unlogged⟩) (fun _ => ?_) session
  refine .get_bind fun session => Keeps.ite (fun _ => hall _) (fun _ => .pure _) session

/-! ## Taking the window down -/

/-- What is written down of the end of a task. -/
def failureRecords : Task.Ending → List Record
  | .failed failure => [failureRecord failure]
  | .returned _ | .cancelled => []

/-- The session is over and has left nothing behind: the task has ended, nobody is told of patterns
or edges, the last call was to quit and the only one, and a failure of the task, if it failed, was
written down once. -/
structure Down (outcome : Except Fault Unit) (session : Session) : Prop where
  phase_eq : session.outside.phase = .closed outcome
  ended : ∃ ending, taskEnding? session = some ending ∧
    failures session.journal = failureRecords ending
  unobserved : session.display.observer = none
  unwired : session.key.updater = none
  quit : ∃ before, session.outside.window.drawings.toList = before ++ [.quit] ∧ .quit ∉ before

/-- The outcome of a session that was closed with a fault or without one. -/
def outcomeOf (fault : Option Fault) : Except Fault Unit :=
  fault.elim (.ok ()) .error

/-- The session once everything is taken down. -/
def lowered (ending : Task.Ending) (fault : Option Fault) (session : Session) : Session :=
  { session with
    journal := session.journal ++ (failureRecords ending).toArray
    key := { session.key with updater := none }
    display := { session.display with observer := none }
    outside := { session.outside with
      phase := .closed (outcomeOf fault)
      window := { session.outside.window with
        drawings := session.outside.window.drawings.push .quit
        isOpen := false } } }

theorem takeDown_apply (hopen : session.outside.window.isOpen = true) (ending : Task.Ending)
    (fault : Option Fault) :
    takeDown ending fault session = .ok ⟨⟩ (lowered ending fault session) := by
  have hstop := Window.stop_apply hopen
  cases ending <;>
    simp [takeDown, note, keyOf, displayOf, windowOf, hstop, updateFront, lowered, failureRecords,
      failureRecord, outcomeOf]

/-- Whatever is taken down is down. -/
theorem Up.lowered (h : Up phase session) {ending : Task.Ending}
    (hending : taskEnding? session = some ending) (fault : Option Fault) :
    Down (outcomeOf fault) (lowered ending fault session) where
  phase_eq := rfl
  ended := by
    refine ⟨ending, hending, ?_⟩
    have hrecords : failures (failureRecords ending).toArray = failureRecords ending := by
      cases ending <;> simp [failures, failureRecords, failureRecord]
    change failures (session.journal ++ (failureRecords ending).toArray) = _
    rw [failures_append, h.unlogged, hrecords, List.nil_append]
  unobserved := rfl
  unwired := rfl
  quit := ⟨session.outside.window.drawings.toList, Array.toList_push, h.opened.unquit⟩

/-- A session is up or down. -/
inductive Fares (session : Session) : Prop
  | up {phase : Front.Phase} (h : Up phase session) (hphase : ∀ outcome, phase ≠ .closed outcome)
  | down {outcome : Except Fault Unit} (h : Down outcome session)

/-! ## Turns -/

/-- What responding to the user comes to in a turn, if the task is not over. -/
def turnResponse (session : Session) : Option (Except Fault Bool) :=
  match taskEnding? session with
  | some _ => none
  | none => some (respond.result session).1

/-- The fault of a response that failed. -/
def responseFaults : Option (Except Fault Bool) → List Fault
  | some (.error fault) => [fault]
  | some (.ok _) | none => []

theorem faults_outcomeOf (fault : Option Fault) :
    (Front.Phase.closed (outcomeOf fault)).faults = fault.toList := by
  cases fault <;> rfl

/-- The end of the task is awaited. -/
def awaiting (fault : Option Fault) (session : Session) : Session :=
  { session with outside := { session.outside with phase := .closing fault } }

/-- Closing takes everything down, or waits for the end of the task. -/
theorem Up.close (h : Up phase session) (fault : Option Fault) :
    ∃ after, close fault session = .ok ⟨⟩ after ∧ Fares after ∧
      after.outside.phase.faults = fault.toList := by
  have hcancelled : Up phase (cancel 0 session) := (up_foreign phase).inside _ _ (.cancel session) h
  cases hending : taskEnding? (cancel 0 session) with
  | some ending =>
    have htakeDown := takeDown_apply hcancelled.opened.isOpen ending fault
    exact ⟨_, by simpa [Session.close, hending] using htakeDown,
      .down (hcancelled.lowered hending fault), faults_outcomeOf fault⟩
  | none =>
    have hawaiting : Up (.closing fault) (awaiting fault (cancel 0 session)) :=
      ⟨rfl, hcancelled.opened, hcancelled.unlogged⟩
    exact ⟨_, by simp [Session.close, hending, updateFront, awaiting], .up hawaiting nofun, rfl⟩

/-- After a response the window presents what was drawn and pauses. -/
def afterResponse : Play Front Unit := do
  if ← windowOf.run Window.present then noteFlip
  modify fun session =>
    { session with agenda := (session.agenda.callLater framePause .pauseOver) }

theorem Up.afterResponse (h : Up .open session) :
    ∃ after, afterResponse session = .ok ⟨⟩ after ∧ Up .open after := by
  have hkeeps : Keeps (Up .open) Session.afterResponse := by
    refine (keeps_up_window Window.keeps_opened_present).bind fun flipped => ?_
    have hpause : Keeps (Up .open) (modify fun session : Session =>
        { session with agenda := session.agenda.callLater framePause .pauseOver }) :=
      .modify fun _ h => ⟨h.phase_eq, h.opened, h.unlogged⟩
    exact .ite (fun _ => Keeps.bind (.modify fun _ h => ⟨h.phase_eq, h.opened, h.unlogged⟩)
      fun _ => hpause) fun _ => hpause
  have hpresent := Window.present_apply session.outside.window
  obtain ⟨after, hafter⟩ : ∃ after, Session.afterResponse session = .ok ⟨⟩ after := by
    simp only [Session.afterResponse, bind_apply, windowOf, run_apply, hpresent]
    cases session.outside.window.hasScreen && session.outside.window.dirty
    · exact ⟨_, rfl⟩
    · exact ⟨_, rfl⟩
  exact ⟨after, hafter, hkeeps.ok hafter h⟩

/-- A turn goes by what responding to the user comes to. -/
theorem turn_apply (hending : taskEnding? session = none) :
    turn session = match respond session with
      | .error fault after => close (some fault) after
      | .ok false after => close none after
      | .ok true after => afterResponse after := by
  simp only [turn, bind_apply, get_apply, hending, tryCatch_apply]
  cases respond session with
  | error fault after => rfl
  | ok stays after => cases stays <;> rfl

/-- A turn never fails. It leaves the session up or down, and a response that failed is what it will
end with. -/
theorem Up.turn (h : Up .open session) :
    ∃ after, turn session = .ok ⟨⟩ after ∧ Fares after ∧
      after.outside.phase.faults = responseFaults (turnResponse session) := by
  unfold turnResponse
  cases hending : taskEnding? session with
  | some ending =>
    have htakeDown := takeDown_apply h.opened.isOpen ending none
    exact ⟨_, by simpa [Session.turn, hending] using htakeDown, .down (h.lowered hending none), rfl⟩
  | none =>
    cases hrespond : respond session with
    | error fault after =>
      obtain ⟨closed, hclose, hfares, hfaults⟩ :=
        (keeps_up_respond.error hrespond h).close (some fault)
      rw [turn_apply hending, hrespond]
      exact ⟨closed, hclose, hfares, by rw [hfaults, result_of_error hrespond]; rfl⟩
    | ok stays after =>
      have hafter := keeps_up_respond.ok hrespond h
      rw [turn_apply hending, hrespond, result_of_ok hrespond]
      cases stays with
      | false => exact hafter.close none
      | true =>
        obtain ⟨later, hlater, hup⟩ := hafter.afterResponse
        exact ⟨later, hlater, .up hup nofun, congrArg Front.Phase.faults hup.phase_eq⟩

/-! ## Steps -/

/-- What responding to the user comes to when the front goes on, if that is a turn. -/
def goOnResponse (session : Session) : Option (Except Fault Bool) :=
  match session.outside.phase with
  | .open => turnResponse session
  | .closing _ | .called _ | .closed _ => none

/-- What responding to the user comes to in a call, if it is one of the front. -/
def callResponse (call : Call) (session : Session) : Option (Except Fault Bool) :=
  match call with
  | .window => goOnResponse session
  | .task _ | .countdownOver | .move _ | .disable | .pauseOver => none

/-- What the loop can do with a session, and what responding to the user comes to in it, if it is a
turn. -/
inductive Proceeds (session : Session) : Option (Except Fault Bool) → Session → Prop
  /-- The active task is carried on. -/
  | carry {number : Nat} (hactive : session.active = some number) :
      Proceeds session none (callFront (carryOn around number session))
  /-- What is ready first is called. -/
  | call {call : Call} {rest : List Call} (hactive : session.active = none)
      (hready : session.agenda.ready = call :: rest) :
      Proceeds session
        (callResponse call { session with agenda := { session.agenda with ready := rest } })
        (callFront (perform call { session with agenda := { session.agenda with ready := rest } }))
  /-- A deadline is met, at any time at which it is due and whatever is ready. -/
  | meet {deadline : Deadline Call} {before later : List (Deadline Call)} {now : Rat}
      (hactive : session.active = none)
      (hdeadline : session.agenda.deadlines = before ++ deadline :: later)
      (hdue : deadline.due ≤ now) :
      Proceeds session
        (callResponse deadline.call
          { session with agenda := { session.agenda with now, deadlines := before ++ later } })
        (callFront (perform deadline.call
          { session with agenda := { session.agenda with now, deadlines := before ++ later } }))
  /-- Time passes. -/
  | wait {now : Rat} (hnow : session.agenda.now ≤ now) :
      Proceeds session none { session with agenda := { session.agenda with now } }

/-- The ways in which a session goes on until it is closed, and what the responses to the user come
to meanwhile. -/
inductive Runs (first : Session) : List (Except Fault Bool) → Session → Prop
  | start : Runs first [] first
  | next {notes : List (Except Fault Bool)} {response : Option (Except Fault Bool)}
      {session after : Session} (hruns : Runs first notes session)
      (hopen : ∀ outcome, session.outside.phase ≠ .closed outcome)
      (hproceeds : Proceeds session response after) :
      Runs first (notes ++ response.toList) after

/-- What responding to the user comes to in the next step, if that step is a turn. -/
def nextResponse (session : Session) : Option (Except Fault Bool) :=
  match session.active with
  | some _ => none
  | none => match session.agenda.next? (soonest session) with
    | some (call, agenda) => callResponse call { session with agenda }
    | none => none

/-- What the responses to the user come to in a number of steps. -/
def responses : Nat → Session → List (Except Fault Bool)
  | 0, _ => []
  | limit + 1, session =>
    match step? session with
    | some after => (nextResponse session).toList ++ responses limit after
    | none => []

/-- In a step without an active task, the next call is made. -/
theorem nextResponse_eq {call : Call} {agenda : Agenda Call} (hactive : session.active = none)
    (hnext : session.agenda.next? (soonest session) = some (call, agenda)) :
    nextResponse session = callResponse call { session with agenda } := by
  unfold nextResponse
  split
  · rename_i hcarried
    cases hactive.symm.trans hcarried
  · rw [hnext]

/-- A step of the program is something that the loop can do. -/
theorem proceeds_of_step? {after : Session} (hstep : step? session = some after) :
    (∀ outcome, session.outside.phase ≠ .closed outcome) ∧
      Proceeds session (nextResponse session) after := by
  unfold step? at hstep
  split at hstep
  · cases hstep
  · rename_i hopen
    refine ⟨hopen, ?_⟩
    split at hstep
    · rename_i number hactive
      obtain rfl := Option.some.inj hstep
      have hnone : nextResponse session = none := by simp [nextResponse, hactive]
      rw [hnone]
      exact .carry hactive
    · rename_i hactive
      split at hstep
      · rename_i call agenda hnext
        obtain rfl := Option.some.inj hstep
        rw [nextResponse_eq hactive hnext]
        rcases Agenda.next?_cases hnext with
          ⟨rest, hready, rfl⟩ | ⟨_, rest, -, hdeadlines, -, rfl, rfl⟩
        · exact .call hactive hready
        · have hfirst : session.agenda.deadlines = [] ++ _ :: rest := hdeadlines
          exact .meet hactive hfirst le_rfl
      · cases hstep

/-- The steps that the program takes go on with a run. -/
theorem Runs.run {first : Session} {notes : List (Except Fault Bool)} (h : Runs first notes session)
    (limit : Nat) : Runs first (notes ++ responses limit session) (run limit session) := by
  induction limit generalizing session notes with
  | zero => simpa [responses, Session.run] using h
  | succ limit ih =>
    unfold Session.run responses
    cases hstep : step? session with
    | none => simpa using h
    | some after =>
      obtain ⟨hopen, hproceeds⟩ := proceeds_of_step? hstep
      simpa using ih (h.next hopen hproceeds)

/-- The faults of the responses that failed. -/
def faultsOf (responses : List (Except Fault Bool)) : List Fault :=
  responses.flatMap fun response => responseFaults (some response)

theorem faultsOf_append (notes later : List (Except Fault Bool)) :
    faultsOf (notes ++ later) = faultsOf notes ++ faultsOf later :=
  List.flatMap_append

theorem faultsOf_toList (response : Option (Except Fault Bool)) :
    faultsOf response.toList = responseFaults response := by
  cases response <;> simp [faultsOf, responseFaults]

/-- The session goes on up or down, and what it will end with is what it would have ended with, or
the fault of a response. -/
structure Leads (session : Session) (response : Option (Except Fault Bool)) (after : Session) :
    Prop where
  fares : Fares after
  faults : after.outside.phase.faults = session.outside.phase.faults ++ responseFaults response

/-- What keeps the session up leads on without a response. -/
theorem Up.leads (h : Up phase session) (hphase : ∀ outcome, phase ≠ .closed outcome)
    {after : Session} (hafter : Up phase after) : Leads session none after where
  fares := .up hafter hphase
  faults := by
    rw [h.phase_eq, hafter.phase_eq]
    exact (List.append_nil _).symm

/-- The front is called to go on. -/
theorem Up.goOn (h : Up phase session) (hphase : ∀ outcome, phase ≠ .closed outcome) :
    Leads session (goOnResponse session) (goOn.result session).2 := by
  have hphase_eq := h.phase_eq
  cases phase with
  | «open» =>
    obtain ⟨after, hturn, hfares, hfaults⟩ := h.turn
    have hgoOn : Session.goOn session = .ok ⟨⟩ after := by
      simp [Session.goOn, hphase_eq, hturn]
    rw [result_of_ok hgoOn, goOnResponse, hphase_eq]
    exact ⟨hfares, by rw [hfaults, hphase_eq]; rfl⟩
  | closing fault =>
    have hgoOn : Session.goOn session = .ok ⟨⟩ session := by
      simp [Session.goOn, hphase_eq]
    rw [result_of_ok hgoOn, goOnResponse, hphase_eq]
    exact h.leads hphase h
  | called fault =>
    rw [goOnResponse, hphase_eq]
    cases hending : taskEnding? session with
    | none =>
      have hgoOn : Session.goOn session = .ok ⟨⟩ session := by
        simp [Session.goOn, hphase_eq, hending]
      rw [result_of_ok hgoOn]
      exact h.leads hphase h
    | some ending =>
      have hgoOn : Session.goOn session = .ok ⟨⟩ (Session.lowered ending fault session) := by
        simp [Session.goOn, hphase_eq, hending, takeDown_apply h.opened.isOpen]
      rw [result_of_ok hgoOn]
      refine ⟨.down (h.lowered hending fault), ?_⟩
      rw [hphase_eq]
      exact (faults_outcomeOf fault).trans (List.append_nil _).symm
  | closed outcome => exact absurd rfl (hphase outcome)

/-- The front is called once the end that it awaits has come. -/
theorem Leads.callFront {response : Option (Except Fault Bool)} {after : Session}
    (h : Leads session response after) : Leads session response (callFront after) := by
  unfold Session.callFront
  split
  next fault ending hclosing hending =>
    obtain ⟨hfares, hfaults⟩ := h
    cases hfares with
    | up hup hphase =>
      have hcalled : Up (.called fault) { after with
          agenda := after.agenda.callSoon .window
          outside := { after.outside with phase := .called fault } } :=
        ⟨rfl, hup.opened, hup.unlogged⟩
      refine ⟨.up hcalled nofun, ?_⟩
      rw [← hfaults, hclosing]
      rfl
    | down hdown => cases hclosing.symm.trans hdown.phase_eq
  next => exact h

/-- A call leaves the session up or down. -/
theorem Up.perform (h : Up phase session) (hphase : ∀ outcome, phase ≠ .closed outcome)
    (call : Call) :
    Leads session (callResponse call session) (Session.perform call session) := by
  have hforeign : Up phase (Cabinet.perform around call session) :=
    (up_foreign phase).perform keeps_up_showPattern keeps_up_move call h
  cases call with
  | window => exact h.goOn hphase
  | pauseOver => exact h.leads hphase ⟨h.phase_eq, h.opened, h.unlogged⟩
  | task | countdownOver | move | disable => exact h.leads hphase hforeign

/-- So does a call that is taken off the agenda. -/
theorem Up.called (h : Up phase session) (hphase : ∀ outcome, phase ≠ .closed outcome)
    (call : Call) (agenda : Agenda Call) :
    Leads session (callResponse call { session with agenda })
      (Session.callFront (Session.perform call { session with agenda })) := by
  have hup : Up phase { session with agenda } := ⟨h.phase_eq, h.opened, h.unlogged⟩
  obtain ⟨hfares, hfaults⟩ := (hup.perform hphase call).callFront
  exact ⟨hfares, hfaults⟩

/-- Whatever the loop does leaves the session up or down. -/
theorem Fares.proceeds (h : Fares session)
    (hopen : ∀ outcome, session.outside.phase ≠ .closed outcome)
    {response : Option (Except Fault Bool)} {after : Session}
    (hproceeds : Proceeds session response after) : Leads session response after := by
  cases h with
  | down hdown => exact absurd hdown.phase_eq (hopen _)
  | @up phase hup hphase =>
    cases hproceeds with
    | carry =>
      exact (hup.leads hphase ((up_foreign phase).carryOn keeps_up_showPattern hup)).callFront
    | call => exact hup.called hphase _ _
    | meet => exact hup.called hphase _ _
    | wait => exact hup.leads hphase ⟨hup.phase_eq, hup.opened, hup.unlogged⟩

/-- So does every run, and what the session will end with is the fault of a response. -/
theorem Fares.runs {first : Session} (h : Fares first) {notes : List (Except Fault Bool)}
    (hruns : Runs first notes session) :
    Fares session ∧
      session.outside.phase.faults = first.outside.phase.faults ++ faultsOf notes := by
  induction hruns with
  | start => exact ⟨h, (List.append_nil _).symm⟩
  | next _ hopen hproceeds ih =>
    obtain ⟨hfares, hfaults⟩ := ih
    obtain ⟨hlater, hlaterFaults⟩ := hfares.proceeds hopen hproceeds
    refine ⟨hlater, ?_⟩
    rw [hlaterFaults, hfaults, faultsOf_append, faultsOf_toList, List.append_assoc]

/-! ## From the opening to the end -/

/-- The session once something is written down. -/
def noting (record : Record) (session : Session) : Session :=
  { session with journal := session.journal.push record }

/-- What is written down under another heading is no failure of the task. -/
theorem failures_noting {record : Record} (hmessage : record.message ≠ "game task failed") :
    failures (noting record session).journal = failures session.journal := by
  rw [noting, ← Array.append_singleton, failures_append]
  simp [failures, hmessage]

theorem Up.noting (h : Up phase session) {record : Record}
    (hmessage : record.message ≠ "game task failed") : Up phase (noting record session) :=
  ⟨h.phase_eq, h.opened, (failures_noting hmessage).trans h.unlogged⟩

theorem Up.spawn (h : Up phase session) (routine : Routine) : Up phase (spawn routine session) :=
  ⟨h.phase_eq, h.opened, h.unlogged⟩

/-- A heading that begins with another letter is another heading. -/
theorem append_ne_of_head {begun rest heading : String} {first : Char}
    (hbegun : begun.toList.head? = some first) (hheading : heading.toList.head? ≠ some first) :
    begun ++ rest ≠ heading := by
  rintro rfl
  simp [hbegun] at hheading

/-- A name or nothing at all makes a task. -/
theorem Up.seat (h : Up phase session) {test : Value} (htest : ∀ items, test ≠ .list items) :
    ∃ seated, seat test session = .ok ⟨⟩ seated ∧ Up phase seated := by
  obtain ⟨chosen, hchosen⟩ : ∃ chosen, chosenTest test = .ok chosen := by
    cases test with
    | list items => exact absurd rfl (htest items)
    | _ => exact ⟨_, rfl⟩
  cases chosen with
  | some chosen =>
    let record : Record :=
      { level := .info, source, message := s!"running self test {test.printed}" }
    have hnoted : Up phase (Session.noting record session) :=
      h.noting (append_ne_of_head rfl (by decide))
    refine ⟨_, ?_, hnoted.spawn (.selfTest chosen .nothing)⟩
    simp [Session.seat, hchosen, note, Session.noting, record]
  | none =>
    by_cases htruthy : test.truthy = true
    · let record : Record :=
        { level := .error, source
          message := s!"unknown self test {test.printed}, starting the game" }
      have hnoted : Up phase (Session.noting record session) := by
        refine h.noting ?_
        change "unknown self test " ++ test.printed ++ ", starting the game" ≠ _
        rw [String.append_assoc]
        exact append_ne_of_head rfl (by decide)
      refine ⟨_, ?_, hnoted.spawn (.run .nothing)⟩
      simp [Session.seat, hchosen, htruthy, note, Session.noting, record]
    · refine ⟨_, ?_, h.spawn (.run .nothing)⟩
      simp [Session.seat, hchosen, htruthy]

variable {equipment : Window.Equipment} {events : Nat → List Window.Event} {chances : Chances}

/-- A new session whose window starts is up before its first turn. -/
theorem prepare_up (hnew : Session.new equipment events chances = .ok session) {test : Value}
    (htest : ∀ items, test ≠ .list items) {window : Window}
    (hstart : Window.start session.outside.window = .ok ⟨⟩ window) :
    ∃ seated, prepare test session = .ok ⟨⟩ seated ∧ Up .open seated := by
  obtain ⟨race, hsession⟩ := new_eq hnew
  have hclosed : session.outside.window.isOpen = false := by rw [hsession]
  have hdrawings : session.outside.window.drawings = #[] := by rw [hsession]
  obtain ⟨-, hredraw⟩ := (Window.start_eq_ok_iff hclosed).mp hstart
  have hopened : window.Opened := by
    refine Window.opened_steadfast.keeps_redraw.ok hredraw ⟨rfl, ?_⟩
    simp [Window.started, Window.startCalls, hdrawings]
  let platform := session.outside.window.equipment.platform
  let record : Record :=
    { level := .info, source, message := s!"Seg Racer starting on {platform.name}" }
  have hannounce : announce session = .ok ⟨⟩ (noting record session) := by
    simp [announce, note, noting, record, platform]
  have hwire : wire (noting record session) = .ok ⟨⟩ (wired window (noting record session)) :=
    wire_eq_ok_iff.mpr ⟨window, hstart, rfl⟩
  have hunlogged : failures session.journal = [] := by rw [hsession]; rfl
  have hphase : session.outside.phase = .open := by rw [hsession]
  have hwired : Up .open (wired window (noting record session)) :=
    ⟨hphase, hopened, (failures_noting (append_ne_of_head rfl (by decide))).trans hunlogged⟩
  obtain ⟨seated, hseat, hseated⟩ := hwired.seat htest
  exact ⟨seated, by simp [prepare, hannounce, hwire, hseat], hseated⟩

/-- **However a session ends, it leaves nothing behind.** The window of a new session has started,
and no list is given for a self test. Then opening the front does not fail. Whenever the session
is closed after that, in whatever order the loop makes its calls and meets its deadlines, the task
has ended, nobody is told of patterns or edges any more, and the library was told to quit once and
last of all. The session ends with a fault just if responding to the user has failed, and then with
that fault; a failure of the task is written down once, and nothing is if the task has returned or
was cancelled. -/
theorem session_ends_clean (hnew : Session.new equipment events chances = .ok session)
    {test : Value} (htest : ∀ items, test ≠ .list items) {window : Window}
    (hstart : Window.start session.outside.window = .ok ⟨⟩ window) :
    ∃ seated opened, prepare test session = .ok ⟨⟩ seated ∧
      turn seated = .ok ⟨⟩ opened ∧ openFront test session = .ok ⟨⟩ opened ∧
      play test session = run patience opened ∧
      (∀ limit, Runs opened (responses limit opened) (run limit opened)) ∧
      ∀ notes last outcome, Runs opened notes last → last.outside.phase = .closed outcome →
        Down outcome last ∧
        (Front.Phase.closed outcome).faults = faultsOf ((turnResponse seated).toList ++ notes) := by
  obtain ⟨seated, hprepare, hseated⟩ := prepare_up hnew htest hstart
  obtain ⟨opened, hturn, hfares, hfaults⟩ := hseated.turn
  have hopen : openFront test session = .ok ⟨⟩ opened := by
    rw [openFront_eq, bind_apply, hprepare]
    exact hturn
  refine ⟨seated, opened, hprepare, hturn, hopen, ?_, fun limit => Runs.start.run limit,
    fun notes last outcome hruns hclosed => ?_⟩
  · simp only [play, result_of_ok hopen]
  · obtain ⟨hend, hendFaults⟩ := hfares.runs hruns
    rw [hclosed, hfaults, ← faultsOf_toList, ← faultsOf_append] at hendFaults
    cases hend with
    | up hup hphase => exact absurd (hup.phase_eq.symm.trans hclosed) (hphase outcome)
    | @down outcome' hdown =>
      obtain rfl : outcome = outcome' := by
        simpa using hclosed.symm.trans hdown.phase_eq
      exact ⟨hdown, hendFaults⟩

/-- The session once its first deadline is met, ahead of what is ready. -/
def meetFirst (session : Session) : Session :=
  match session.agenda.deadlines with
  | deadline :: rest => callFront (perform deadline.call
      { session with agenda := { session.agenda with now := deadline.due, deadlines := rest } })
  | [] => session

theorem Runs.meetFirst {first : Session} {notes : List (Except Fault Bool)}
    (h : Runs first notes session) (hactive : session.active = none)
    (hopen : ∀ outcome, session.outside.phase ≠ .closed outcome) :
    ∃ notes, Runs first notes (meetFirst session) := by
  unfold Session.meetFirst
  split
  · rename_i later hdeadlines
    have hfirst : session.agenda.deadlines = [] ++ _ :: later := hdeadlines
    exact ⟨_, h.next hopen (.meet hactive hfirst le_rfl)⟩
  · exact ⟨_, h⟩

private theorem eq_closing {phase : Front.Phase} (h : (phase matches .closing none) = true) :
    phase = .closing none := by
  split at h
  · rfl
  · cases h

private theorem eq_closed {phase : Front.Phase} (h : (phase matches .closed (.ok _)) = true) :
    phase = .closed (.ok ⟨⟩) := by
  split at h
  · rfl
  · cases h

/-- The key is pressed, which begins a game, and released, which begins its countdown; then the user
quits. -/
def quitInCountdown : Nat → List Window.Event
  | 0 => [.keyDown Window.spaceCode]
  | 1 => [.keyUp Window.spaceCode]
  | 2 => [.quit]
  | _ => []

/-- A press that cannot be drawn ends the session with the fault of the redraw. Where the user quits
during a countdown, its next digit may still be drawn before the task has ended, and the session
ends without a fault. -/
theorem session_ends_clean_of_failing_redraw :
    (∃ session opened : Session,
      Session.new { failingRedraw := some 2 } (fun _ => [.keyDown Window.spaceCode]) (fun _ => 0) =
        .ok session ∧
      openFront .nothing session = .ok ⟨⟩ opened ∧ Down (.error .drawFailed) (run 2 opened)) ∧
    ∃ session opened : Session, Session.new {} quitInCountdown (fun _ => 0) = .ok session ∧
      openFront .nothing session = .ok ⟨⟩ opened ∧
      (run 19 opened).outside.phase = .closing none ∧
      (run 19 opened).display.pattern = "abcdg" ∧
      (meetFirst (run 19 opened)).display.pattern = "abdeg" ∧
      Down (.ok ()) (run 2 (meetFirst (run 19 opened))) := by
  constructor
  · obtain ⟨session, hnew, hclosed⟩ : ∃ session,
        Session.new { failingRedraw := some 2 } (fun _ => [.keyDown Window.spaceCode])
          (fun _ => 0) = .ok session ∧
        (run 2 ((openFront .nothing).result session).2).outside.phase =
          .closed (.error .drawFailed) := ⟨_, rfl, rfl⟩
    obtain ⟨_, opened, _, _, hopen, _, hrun, hends⟩ :=
      session_ends_clean hnew (by simp : ∀ items, Value.nothing ≠ .list items)
        (start_new hnew rfl (by decide))
    rw [result_of_ok hopen] at hclosed
    exact ⟨session, opened, hnew, hopen, (hends _ _ _ (hrun 2) hclosed).1⟩
  · let quits (session : Session) := run 19 ((openFront .nothing).result session).2
    obtain ⟨session, hnew, hphase, hactive, hbefore, hafter, hlast⟩ : ∃ session,
        Session.new {} quitInCountdown (fun _ => 0) = .ok session ∧
        ((quits session).outside.phase matches .closing none) = true ∧
        (quits session).active = none ∧
        (quits session).display.pattern = "abcdg" ∧
        (meetFirst (quits session)).display.pattern = "abdeg" ∧
        ((run 2 (meetFirst (quits session))).outside.phase matches .closed (.ok _)) = true :=
      ⟨_, rfl, by decide +kernel, by decide +kernel, by decide +kernel, by decide +kernel,
        by decide +kernel⟩
    have hclosing := eq_closing hphase
    have hclosed := eq_closed hlast
    obtain ⟨_, opened, _, _, hopen, _, hrun, hends⟩ :=
      session_ends_clean hnew (by simp : ∀ items, Value.nothing ≠ .list items)
        (start_new hnew rfl (by decide))
    simp only [quits, result_of_ok hopen] at hclosing hactive hbefore hafter hclosed
    obtain ⟨notes, hmet⟩ := (hrun 19).meetFirst hactive fun outcome h => by simp [hclosing] at h
    exact ⟨session, opened, hnew, hopen, hclosing, hbefore, hafter,
      (hends _ _ _ (hmet.run 2) hclosed).1⟩

end Session

end DigitRace
