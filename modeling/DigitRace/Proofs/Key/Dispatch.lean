import DigitRace.Proofs.Scripts
import DigitRace.Script.Key
import Mathlib.Data.List.Forall2

/-!
# Edges of a key before scripted listeners

An edge sets the state of the key, and then the updater that is in place has its turn, and after it
every listener that is registered by then, in order, up to the first one that fails. In its turn
anyone may register others, take them off, replace the updater, fail, or move the key, which is an
edge of its own and over before the turn goes on. What is done meanwhile, within each other to any
depth, is told here by rules, without a bound on the depth; the program keeps to these rules. By
them a failure ends every edge that it leaves, and whatever was done before it stays done.
-/

namespace DigitRace.Script

open Rehearsal (nextEntry called called_cases)

/-- What an action makes of a key before anyone is told of it. -/
def KeyAction.change : KeyAction → Key String String → Key String String
  | register listener, key => key.register listener
  | unregister listener, key => key.unregister listener
  | setUpdater updater, key => { key with updater := some updater }
  | clearUpdater, key => { key with updater := none }
  | move pressed, key => { key with pressed }

/-- An action of which nobody is told. -/
def KeyAction.isQuiet : KeyAction → Bool
  | move _ => false
  | _ => true

namespace Dispatch

/-! ## What happens to a key -/

/-- What happens at a moment: something is done to the key, or someone is told of an edge. -/
inductive Event where
  | acted (action : KeyAction)
  | told (listener : String) (pressed : Bool)

/-- What happens to the key itself; telling someone does nothing to it. -/
def Event.change : Event → Key String String → Key String String
  | acted action, key => action.change key
  | told _ _, key => key

/-- The state that is set, if an edge begins. -/
def Event.edge? : Event → Option Bool
  | acted (.move pressed) => some pressed
  | _ => none

/-- The call that is made, if someone is told. -/
def Event.call? : Event → Option (String × Bool)
  | acted _ => none
  | told listener pressed => some (listener, pressed)

/-- Something happens, and the key is as it is then. -/
structure Moment where
  event : Event
  key : Key String String

/-- One moment follows on the other: at each of them the key is what becomes of it by what happens,
and nothing else. -/
inductive Follows : Key String String → List Moment → Key String String → Prop where
  | still {key : Key String String} : Follows key [] key
  | next {event : Event} {key last : Key String String} {rest : List Moment}
      (hrest : Follows (event.change key) rest last) :
      Follows key (⟨event, event.change key⟩ :: rest) last

/-- The calls of some moments, in order. -/
def callsOf (moments : List Moment) : List (String × Bool) :=
  moments.filterMap fun moment => moment.event.call?

/-- The state of the edge that has begun most recently, or the one before them all. -/
def lastBegun (pressed : Bool) (moments : List Moment) : Bool :=
  ((moments.filterMap fun moment => moment.event.edge?).getLast?).getD pressed

mutual

/-- An edge of the key. -/
structure Edge where
  pressed : Bool
  /-- The key when its state was set and nobody was told yet. -/
  begun : Key String String
  /-- The turn of the updater, if one was in place. -/
  updating : List Turn
  /-- The key once the updater was done. -/
  updated : Key String String
  /-- The turns of the listeners. -/
  turns : List Turn
  outcome : Except Fault Unit

/-- The turn of the updater or of a listener. -/
structure Turn where
  listener : String
  key : Key String String
  /-- What was done before the turn was over. -/
  during : List Stir
  outcome : Except Fault Unit

/-- Something that was done to the key. -/
inductive Stir where
  /-- Something of which nobody is told, and the key after it. -/
  | changed (action : KeyAction) (key : Key String String)
  | moved (edge : Edge)

end

mutual

/-- The moments of an edge. -/
def Edge.moments : Edge → List Moment
  | ⟨pressed, begun, updating, _, turns, _⟩ =>
    ⟨.acted (.move pressed), begun⟩ :: (momentsOfTurns pressed updating ++
      momentsOfTurns pressed turns)

/-- The moments of turns in an edge. -/
def momentsOfTurns (pressed : Bool) : List Turn → List Moment
  | [] => []
  | ⟨listener, key, during, _⟩ :: rest =>
    ⟨.told listener pressed, key⟩ :: (momentsOf during ++ momentsOfTurns pressed rest)

/-- The moments of what was done. -/
def momentsOf : List Stir → List Moment
  | [] => []
  | .changed action key :: rest => ⟨.acted action, key⟩ :: momentsOf rest
  | .moved edge :: rest => edge.moments ++ momentsOf rest

end

/-- Who of an audience has a turn: everyone, in order, or those up to the first who fails. -/
inductive Reached : List String → List Turn → Except Fault Unit → Prop where
  | all : Reached [] [] (.ok ⟨⟩)
  | next (turn : Turn) {rest : List String} {turns : List Turn} {outcome : Except Fault Unit}
      (hturn : turn.outcome = .ok ⟨⟩) (hrest : Reached rest turns outcome) :
      Reached (turn.listener :: rest) (turn :: turns) outcome
  | last (turn : Turn) {rest : List String} {fault : Fault}
      (hfails : turn.outcome = .error fault) :
      Reached (turn.listener :: rest) [turn] (.error fault)

/-- A failure of an edge reaches whoever moved the key: nothing is done after it, and what they do
comes to the same failure. -/
inductive Suffers : List Stir → Except Fault Unit → Prop where
  | nothing {outcome : Except Fault Unit} : Suffers [] outcome
  | changed {action : KeyAction} {key : Key String String} {rest : List Stir}
      {outcome : Except Fault Unit} (hrest : Suffers rest outcome) :
      Suffers (.changed action key :: rest) outcome
  | moved {edge : Edge} {rest : List Stir} {outcome : Except Fault Unit}
      (hok : edge.outcome = .ok ⟨⟩) (hrest : Suffers rest outcome) :
      Suffers (.moved edge :: rest) outcome
  | failed {edge : Edge} {fault : Fault} (hfails : edge.outcome = .error fault) :
      Suffers [.moved edge] (.error fault)

/-- Who is told of an edge: first the updater that was in place when the state was set, and unless
it fails the listeners that are registered once it is done, up to the first who fails. -/
inductive Edge.Heard : Edge → Prop where
  | byListeners {edge : Edge} (hupdater : Reached edge.begun.updater.toList edge.updating (.ok ⟨⟩))
      (hlisteners : Reached edge.updated.listeners edge.turns edge.outcome) : edge.Heard
  | byUpdater {edge : Edge} {fault : Fault}
      (hupdater : Reached edge.begun.updater.toList edge.updating (.error fault))
      (hnobody : edge.turns = []) (houtcome : edge.outcome = .error fault) : edge.Heard

/-- The state is set before anyone is told, everyone whom the edge concerns is told of it once for
each registration, up to the first failure, and so it is with all edges in their turns. -/
inductive Edge.Complete : Edge → Prop where
  | intro {edge : Edge} (hset : edge.begun.pressed = edge.pressed)
      (hupdated : Follows edge.begun (momentsOfTurns edge.pressed edge.updating) edge.updated)
      (hheard : edge.Heard)
      (hsuffers : ∀ turn ∈ edge.updating ++ edge.turns, Suffers turn.during turn.outcome)
      (hinner : ∀ turn ∈ edge.updating ++ edge.turns, ∀ inner, .moved inner ∈ turn.during →
        inner.Complete) : edge.Complete

/-! ## The rules -/

/-- How a call is noted. -/
def noted (listener : String) (pressed : Bool) (_ : KeyRehearsal) : String × Bool :=
  (listener, pressed)

/-- The rehearsal once an action has changed the key, before anyone is told. -/
def changed (action : KeyAction) (r : KeyRehearsal) : KeyRehearsal :=
  { r with device := action.change r.device }

mutual

/-- Deeds are done in turn, up to the first failure: what is done, what they come to, and the
rehearsal after them. -/
inductive Does : List (Deed KeyAction) → KeyRehearsal → List Stir → Except Fault Unit →
    KeyRehearsal → Prop where
  | nothing {r : KeyRehearsal} : Does [] r [] (.ok ⟨⟩) r
  | fails {kind text : String} {rest : List (Deed KeyAction)} {r : KeyRehearsal} :
      Does (.fail kind text :: rest) r [] (.error (.raised kind text)) r
  | changes {action : KeyAction} {rest : List (Deed KeyAction)} {r r' : KeyRehearsal}
      {made : List Stir} {outcome : Except Fault Unit} (hquiet : action.isQuiet = true)
      (hrest : Does rest (changed action r) made outcome r') :
      Does (.act action :: rest) r (.changed action (action.change r.device) :: made) outcome r'
  | moves {pressed : Bool} {rest : List (Deed KeyAction)} {r r₁ r₂ : KeyRehearsal} {edge : Edge}
      {made : List Stir} {outcome : Except Fault Unit} (hmoves : Moves pressed r edge r₁)
      (hok : edge.outcome = .ok ⟨⟩) (hrest : Does rest r₁ made outcome r₂) :
      Does (.act (.move pressed) :: rest) r (.moved edge :: made) outcome r₂
  /-- The failure of an edge is one of whoever moved the key. -/
  | stops {pressed : Bool} {rest : List (Deed KeyAction)} {r r₁ : KeyRehearsal} {edge : Edge}
      {fault : Fault} (hmoves : Moves pressed r edge r₁) (hfails : edge.outcome = .error fault) :
      Does (.act (.move pressed) :: rest) r [.moved edge] (.error fault) r₁

/-- The key is moved: its state is set, the updater is told, and then the listeners that are
registered by then. -/
inductive Moves : Bool → KeyRehearsal → Edge → KeyRehearsal → Prop where
  | heard {pressed : Bool} {r r₁ r₂ : KeyRehearsal} {updating turns : List Turn}
      {outcome : Except Fault Unit}
      (hupdates : Tells pressed r.device.updater.toList (changed (.move pressed) r) updating
        (.ok ⟨⟩) r₁)
      (htells : Tells pressed r₁.device.listeners r₁ turns outcome r₂) :
      Moves pressed r ⟨pressed, (KeyAction.move pressed).change r.device, updating, r₁.device,
        turns, outcome⟩ r₂
  | refused {pressed : Bool} {r r₁ : KeyRehearsal} {updating : List Turn} {fault : Fault}
      (hupdates : Tells pressed r.device.updater.toList (changed (.move pressed) r) updating
        (.error fault) r₁) :
      Moves pressed r ⟨pressed, (KeyAction.move pressed).change r.device, updating, r₁.device, [],
        .error fault⟩ r₁

/-- Some are told of an edge, one after the other, up to the first who fails: each does what their
script says. -/
inductive Tells : Bool → List String → KeyRehearsal → List Turn → Except Fault Unit →
    KeyRehearsal → Prop where
  | nobody {pressed : Bool} {r : KeyRehearsal} : Tells pressed [] r [] (.ok ⟨⟩) r
  | next {pressed : Bool} {listener : String} {rest : List String} {r r₁ r₂ : KeyRehearsal}
      {during : List Stir} {turns : List Turn} {outcome : Except Fault Unit}
      (hdoes : Does (nextEntry listener r) (called noted listener pressed r) during (.ok ⟨⟩) r₁)
      (hrest : Tells pressed rest r₁ turns outcome r₂) :
      Tells pressed (listener :: rest) r (⟨listener, r.device, during, .ok ⟨⟩⟩ :: turns) outcome r₂
  | last {pressed : Bool} {listener : String} {rest : List String} {r r₁ : KeyRehearsal}
      {during : List Stir} {fault : Fault}
      (hdoes : Does (nextEntry listener r) (called noted listener pressed r) during (.error fault)
        r₁) :
      Tells pressed (listener :: rest) r [⟨listener, r.device, during, .error fault⟩]
        (.error fault) r₁

end

/-! ## What follows on what -/

variable {key between last : Key String String} {moments later : List Moment}
  {r r₁ r₂ : KeyRehearsal}

namespace Follows

theorem trans (h : Follows key moments between) (h' : Follows between later last) :
    Follows key (moments ++ later) last := by
  induction h with
  | still => exact h'
  | next _ ih => exact .next (ih h')

/-- What follows can be split at every moment. -/
theorem split (h : Follows key (moments ++ later) last) :
    ∃ between, Follows key moments between ∧ Follows between later last := by
  induction moments generalizing key with
  | nil => exact ⟨key, .still, h⟩
  | cons moment rest ih =>
    cases h with
    | next hrest =>
      obtain ⟨between, hbefore, hafter⟩ := ih hrest
      exact ⟨between, .next hbefore, hafter⟩

/-- The key after some moments is as it is at the last of them. -/
theorem concat_eq {moment : Moment} (h : Follows key (moments ++ [moment]) last) :
    last = moment.key := by
  obtain ⟨between, -, hlast⟩ := h.split
  cases hlast with
  | next hnothing =>
    cases hnothing
    rfl

end Follows

theorem lastBegun_cons (pressed : Bool) (moment : Moment) (rest : List Moment) :
    lastBegun pressed (moment :: rest) = lastBegun (moment.event.edge?.getD pressed) rest := by
  unfold lastBegun
  cases hedge : moment.event.edge? with
  | none => simp [hedge]
  | some begun => simp [hedge, List.getLast?_cons]

/-- Nothing but an edge sets the state. -/
theorem Event.change_pressed (event : Event) (key : Key String String) :
    (event.change key).pressed = event.edge?.getD key.pressed := by
  cases event with
  | told => rfl
  | acted action => cases action <;> rfl

/-- The state is that of the edge that has begun most recently. -/
theorem Follows.pressed_eq (h : Follows key moments last) :
    last.pressed = lastBegun key.pressed moments := by
  induction h with
  | still => rfl
  | next _ ih => rw [ih, lastBegun_cons, Event.change_pressed]

/-- So it is at every moment. -/
theorem Follows.pressed_at (h : Follows key moments last) {before after : List Moment}
    {moment : Moment} (hmoments : moments = before ++ moment :: after) :
    moment.key.pressed = lastBegun key.pressed (before ++ [moment]) := by
  rw [hmoments, List.append_cons] at h
  obtain ⟨between, hbefore, -⟩ := h.split
  rw [← hbefore.concat_eq, hbefore.pressed_eq]

/-! ## What the rules say of keys and calls -/

/-- From `r` to `r'` the key goes through some moments, the calls in them are noted, and the scripts
hold no more entries than before. -/
structure Accounts (moments : List Moment) (r r' : KeyRehearsal) : Prop where
  follows : Follows r.device moments r'.device
  calls : r'.calls = r.calls ++ callsOf moments
  entriesLeft_le : r'.entriesLeft ≤ r.entriesLeft

namespace Accounts

theorem refl (r : KeyRehearsal) : Accounts [] r r :=
  ⟨.still, by simp [callsOf], Nat.le_refl _⟩

theorem trans (h : Accounts moments r r₁) (h' : Accounts later r₁ r₂) :
    Accounts (moments ++ later) r r₂ where
  follows := h.follows.trans h'.follows
  calls := by rw [h'.calls, h.calls, callsOf, callsOf, callsOf, List.filterMap_append,
    List.append_assoc]
  entriesLeft_le := Nat.le_trans h'.entriesLeft_le h.entriesLeft_le

/-- An action has its moment, at which nobody is called. -/
theorem changed (action : KeyAction) (r : KeyRehearsal) :
    Accounts [⟨.acted action, action.change r.device⟩] r (changed action r) :=
  ⟨.next .still, by simp [callsOf, Event.call?, Dispatch.changed], Nat.le_refl _⟩

end Accounts

/-- A call has its moment, at which the key does not change. -/
theorem Accounts.called (listener : String) (pressed : Bool) (r : KeyRehearsal) :
    Accounts [⟨.told listener pressed, r.device⟩] r (called noted listener pressed r) where
  follows := .next .still
  calls := by simp [callsOf, Event.call?, Rehearsal.called, noted]
  entriesLeft_le := by
    have hcalled := called_cases noted listener pressed r
    omega

-- By induction on the rules; the three kinds of rule refer to each other.
mutual

/-- All that is done to the key while deeds are done, and all calls, are in what was done. -/
theorem Does.accounts {deeds : List (Deed KeyAction)} {r r' : KeyRehearsal} {made : List Stir}
    {outcome : Except Fault Unit} : Does deeds r made outcome r' → Accounts (momentsOf made) r r'
  | .nothing | .fails => .refl r
  | .changes _ hrest => (Accounts.changed _ r).trans hrest.accounts
  | .moves hmoves _ hrest => hmoves.accounts.trans hrest.accounts
  | .stops hmoves _ => by simpa [momentsOf] using hmoves.accounts

theorem Moves.accounts {pressed : Bool} {r r' : KeyRehearsal} {edge : Edge} :
    Moves pressed r edge r' → Accounts edge.moments r r'
  | .heard hupdates htells => by
    have hset := Accounts.changed (.move pressed) r
    simpa [Edge.moments] using (hset.trans hupdates.accounts).trans htells.accounts
  | .refused hupdates => by
    have hset := Accounts.changed (.move pressed) r
    simpa [Edge.moments, momentsOfTurns] using hset.trans hupdates.accounts

theorem Tells.accounts {pressed : Bool} {listeners : List String} {r r' : KeyRehearsal}
    {turns : List Turn} {outcome : Except Fault Unit} :
    Tells pressed listeners r turns outcome r' → Accounts (momentsOfTurns pressed turns) r r'
  | .nobody => .refl r
  | .next hdoes hrest => by
    simpa [momentsOfTurns] using
      ((Accounts.called _ pressed r).trans hdoes.accounts).trans hrest.accounts
  | .last hdoes => by
    simpa [momentsOfTurns] using (Accounts.called _ pressed r).trans hdoes.accounts

end

/-! ## What the rules say of turns and failures -/

/-- Turns are had in order, up to the first failure. -/
theorem Tells.reached {pressed : Bool} {listeners : List String} {r r' : KeyRehearsal}
    {turns : List Turn} {outcome : Except Fault Unit} :
    Tells pressed listeners r turns outcome r' → Reached listeners turns outcome
  | .nobody => .all
  | .next _ hrest => .next ⟨_, _, _, _⟩ rfl hrest.reached
  | .last _ => .last ⟨_, _, _, _⟩ rfl

/-- Nothing is done after an edge that fails. -/
theorem Does.suffers {deeds : List (Deed KeyAction)} {r r' : KeyRehearsal} {made : List Stir}
    {outcome : Except Fault Unit} : Does deeds r made outcome r' → Suffers made outcome
  | .nothing | .fails => .nothing
  | .changes _ hrest => .changed hrest.suffers
  | .moves _ hok hrest => .moved hok hrest.suffers
  | .stops _ hfails => .failed hfails

/-- Failures reach whoever moved the key, in each of these turns. -/
theorem Tells.suffers {pressed : Bool} {listeners : List String} {r r' : KeyRehearsal}
    {turns : List Turn} {outcome : Except Fault Unit} :
    Tells pressed listeners r turns outcome r' →
      ∀ turn ∈ turns, Suffers turn.during turn.outcome
  | .nobody => by simp
  | .next hdoes hrest => by
    simpa using ⟨hdoes.suffers, hrest.suffers⟩
  | .last hdoes => by simpa using hdoes.suffers

-- As with the accounts: an edge, the turns in it and the edges in these.
mutual

/-- Every edge that is made is complete. -/
theorem Does.complete {deeds : List (Deed KeyAction)} {r r' : KeyRehearsal} {made : List Stir}
    {outcome : Except Fault Unit} :
    Does deeds r made outcome r' → ∀ edge, .moved edge ∈ made → edge.Complete
  | .nothing | .fails => by simp
  | .changes _ hrest => by simpa using hrest.complete
  | .moves hmoves _ hrest => by simpa using ⟨hmoves.complete, hrest.complete⟩
  | .stops hmoves _ => by simpa using hmoves.complete

theorem Moves.complete {pressed : Bool} {r r' : KeyRehearsal} {edge : Edge} :
    Moves pressed r edge r' → edge.Complete
  | .heard hupdates htells =>
    .intro rfl hupdates.accounts.follows (.byListeners hupdates.reached htells.reached)
      (by simpa [or_imp, forall_and] using ⟨hupdates.suffers, htells.suffers⟩)
      (by simpa [or_imp, forall_and] using ⟨hupdates.complete, htells.complete⟩)
  | .refused hupdates =>
    .intro rfl hupdates.accounts.follows (.byUpdater hupdates.reached rfl rfl)
      (by simpa using hupdates.suffers) (by simpa using hupdates.complete)

theorem Tells.complete {pressed : Bool} {listeners : List String} {r r' : KeyRehearsal}
    {turns : List Turn} {outcome : Except Fault Unit} :
    Tells pressed listeners r turns outcome r' →
      ∀ turn ∈ turns, ∀ edge, .moved edge ∈ turn.during → edge.Complete
  | .nobody => by simp
  | .next hdoes hrest => by simpa using ⟨hdoes.complete, hrest.complete⟩
  | .last hdoes => by simpa using hdoes.complete

end

/-! ## The program keeps to the rules -/

/-- Telling someone of an edge keeps to the rules as long as the scripts hold no more than so many
entries. -/
def KeepsRules (depth : Nat) (tell : String → Bool → Act KeyRehearsal Unit) : Prop :=
  ∀ listener pressed r, r.entriesLeft ≤ depth → ∃ during outcome r',
    Does (nextEntry listener r) (called noted listener pressed r) during outcome r' ∧
      (tell listener pressed).result r = (outcome, r')

variable {tell : String → Bool → Act KeyRehearsal Unit} {depth : Nat}

/-- An edge sets the state, tells the updater that is in place, and then the listeners. -/
theorem perform_move (tell : String → Bool → Act KeyRehearsal Unit) (pressed : Bool)
    (r : KeyRehearsal) : KeyAction.perform tell (.move pressed) r =
      match (r.device.updater.toList.forM fun updater => tell updater pressed)
          (changed (.move pressed) r) with
        | .ok _ r₁ => (r₁.device.listeners.forM fun listener => tell listener pressed) r₁
        | .error fault r₁ => .error fault r₁ := by
  obtain ⟨⟨state, listeners, updater⟩, scripts, calls, journal⟩ := r
  cases updater with
  | none => rfl
  | some updater =>
    have hset : changed (.move pressed)
        ⟨⟨state, listeners, some updater⟩, scripts, calls, journal⟩ =
      ⟨⟨pressed, listeners, some updater⟩, scripts, calls, journal⟩ := rfl
    simp only [KeyAction.perform, Key.edge, Rehearsal.deviceOf, Act.bind_apply, Act.update_apply,
      Act.get_apply, hset, Option.toList_some, Act.forM_cons_apply, Act.forM_nil_apply]
    cases tell updater pressed ⟨⟨pressed, listeners, some updater⟩, scripts, calls, journal⟩ <;> rfl

/-- An action of which nobody is told does no more than it says. -/
theorem perform_quiet {action : KeyAction} (hquiet : action.isQuiet = true)
    (tell : String → Bool → Act KeyRehearsal Unit) (r : KeyRehearsal) :
    action.perform tell r = .ok ⟨⟩ (changed action r) := by
  cases action with
  | move => cases hquiet
  | _ => rfl

namespace KeepsRules

/-- All are told, up to the first who fails. -/
theorem tells (h : KeepsRules depth tell) (pressed : Bool) (listeners : List String)
    (r : KeyRehearsal) (hdepth : r.entriesLeft ≤ depth) :
    ∃ turns outcome r', Tells pressed listeners r turns outcome r' ∧
      Act.result (listeners.forM fun listener => tell listener pressed) r = (outcome, r') := by
  induction listeners generalizing r with
  | nil => exact ⟨[], .ok ⟨⟩, r, .nobody, rfl⟩
  | cons listener rest ih =>
    obtain ⟨during, first, r₁, hdoes, hresult⟩ := h listener pressed r hdepth
    cases first with
    | ok =>
      have htell := Act.of_result_ok hresult
      have hroom : r₁.entriesLeft ≤ depth := by
        have hduring := hdoes.accounts.entriesLeft_le
        have hcalled := called_cases noted listener pressed r
        omega
      obtain ⟨turns, outcome, r₂, htells, hrest⟩ := ih r₁ hroom
      refine ⟨_, outcome, r₂, .next hdoes htells, ?_⟩
      rw [← hrest, Act.result, Act.result, Act.forM_cons_apply, htell]
    | error fault =>
      have htell := Act.of_result_error hresult
      refine ⟨_, .error fault, r₁, .last hdoes, ?_⟩
      rw [Act.result, Act.forM_cons_apply, htell]

/-- The key is moved. -/
theorem moves (h : KeepsRules depth tell) (pressed : Bool) (r : KeyRehearsal)
    (hdepth : r.entriesLeft ≤ depth) : ∃ edge r', Moves pressed r edge r' ∧
      (KeyAction.perform tell (.move pressed)).result r = (edge.outcome, r') := by
  obtain ⟨updating, first, r₁, hupdates, hresult⟩ :=
    h.tells pressed r.device.updater.toList (changed (.move pressed) r) hdepth
  have hmove := perform_move tell pressed r
  cases first with
  | ok =>
    obtain ⟨turns, outcome, r₂, htells, hlisteners⟩ := h.tells pressed r₁.device.listeners r₁
      (Nat.le_trans hupdates.accounts.entriesLeft_le hdepth)
    refine ⟨_, r₂, .heard hupdates htells, ?_⟩
    rw [Act.of_result_ok hresult] at hmove
    rw [← hlisteners, Act.result, Act.result, hmove]
  | error fault =>
    rw [Act.of_result_error hresult] at hmove
    exact ⟨_, r₁, .refused hupdates, Act.result_of_error hmove⟩

/-- Deeds are done up to the first failure. -/
theorem follow (h : KeepsRules depth tell) (deeds : List (Deed KeyAction)) (r : KeyRehearsal)
    (hdepth : r.entriesLeft ≤ depth) : ∃ made outcome r', Does deeds r made outcome r' ∧
      (Rehearsal.follow (KeyAction.perform tell) deeds).result r = (outcome, r') := by
  induction deeds generalizing r with
  | nil => exact ⟨[], .ok ⟨⟩, r, .nothing, rfl⟩
  | cons deed rest ih =>
    cases deed with
    | fail kind text => exact ⟨[], .error (.raised kind text), r, .fails, rfl⟩
    | act action =>
      cases hquiet : action.isQuiet with
      | true =>
        have hchanged := (Accounts.changed action r).entriesLeft_le
        obtain ⟨made, outcome, r', hdoes, hresult⟩ :=
          ih (changed action r) (Nat.le_trans hchanged hdepth)
        exact ⟨_, outcome, r', .changes hquiet hdoes,
          (Rehearsal.follow_of_ok (perform_quiet hquiet tell r) rest).trans hresult⟩
      | false =>
        cases action with
        | move pressed =>
          obtain ⟨edge, r₁, hmoves, hmoved⟩ := h.moves pressed r hdepth
          cases hedge : edge.outcome with
          | ok =>
            have hact := Act.of_result_ok (hedge ▸ hmoved)
            obtain ⟨made, outcome, r₂, hdoes, hresult⟩ :=
              ih r₁ (Nat.le_trans hmoves.accounts.entriesLeft_le hdepth)
            exact ⟨_, outcome, r₂, .moves hmoves hedge hdoes,
              (Rehearsal.follow_of_ok hact rest).trans hresult⟩
          | error fault =>
            have hact := Act.of_result_error (hedge ▸ hmoved)
            exact ⟨_, .error fault, r₁, .stops hmoves hedge,
              Rehearsal.follow_of_error hact rest⟩
        | _ => cases hquiet

end KeepsRules

/-- Those who follow their scripts keep to the rules. -/
theorem answer_keepsRules (depth : Nat) :
    KeepsRules depth (Rehearsal.answer noted KeyAction.perform depth) :=
  fun listener event r => Rehearsal.answer_comes noted KeyAction.perform (fun _ => True) Does
    (fun _ _ _ _ => trivial) (fun _ => ⟨[], .nothing⟩)
    (fun _ _ htell deeds r _ => KeepsRules.follow (fun name event r => htell name event r trivial)
      deeds r) depth listener event r trivial

/-- A step from outside keeps to the rules. -/
theorem step_keepsRules (deeds : List (Deed KeyAction)) (r : KeyRehearsal) :
    ∃ made outcome r', Does deeds r made outcome r' ∧
      (Rehearsal.step noted KeyAction.perform deeds).result r = (outcome, r') :=
  (answer_keepsRules r.entriesLeft).follow deeds r (Nat.le_refl _)

/-! ## Step after step -/

/-- Steps are done from outside, one after the other, each with its calls noted afresh: what each
comes to, what is done in each, and the rehearsal after them all. -/
inductive Played : KeyRehearsal → List (List (Deed KeyAction)) →
    List (Except Fault Unit × KeyRehearsal) → List (List Stir) → KeyRehearsal → Prop where
  | ended {r : KeyRehearsal} : Played r [] [] [] r
  | next {deeds : List (Deed KeyAction)} {rest : List (List (Deed KeyAction))}
      {r r₁ last : KeyRehearsal} {made : List Stir} {outcome : Except Fault Unit}
      {results : List (Except Fault Unit × KeyRehearsal)} {mades : List (List Stir)}
      (hdoes : Does deeds r.cleared made outcome r₁) (hrest : Played r₁ rest results mades last) :
      Played r (deeds :: rest) ((outcome, r₁) :: results) (made :: mades) last

/-- A step in which nothing is done after an edge that fails, every edge is complete, and the calls
are those of its moments. -/
structure Stepped (made : List Stir) (result : Except Fault Unit × KeyRehearsal) : Prop where
  suffers : Suffers made result.1
  complete : ∀ edge, .moved edge ∈ made → edge.Complete
  calls : result.2.calls = callsOf (momentsOf made)

namespace Played

variable {steps : List (List (Deed KeyAction))} {results : List (Except Fault Unit × KeyRehearsal)}
  {mades : List (List Stir)} {final : KeyRehearsal}

/-- Whatever the steps are, they are done by the rules. -/
theorem of_outcomes (r : KeyRehearsal) (steps : List (List (Deed KeyAction))) :
    ∃ mades final, Played r steps
      (Rehearsal.outcomes (Rehearsal.step noted KeyAction.perform) r steps) mades final := by
  induction steps generalizing r with
  | nil => exact ⟨[], r, .ended⟩
  | cons deeds rest ih =>
    obtain ⟨made, outcome, r₁, hdoes, hresult⟩ := step_keepsRules deeds r.cleared
    obtain ⟨mades, final, hrest⟩ := ih r₁
    refine ⟨made :: mades, final, ?_⟩
    rw [Rehearsal.outcomes, hresult]
    exact .next hdoes hrest

/-- The key goes through the moments of all steps. -/
theorem follows (h : Played r steps results mades final) :
    Follows r.device (mades.flatMap momentsOf) final.device := by
  induction h with
  | ended => exact .still
  | next hdoes _ ih => exact Follows.trans hdoes.accounts.follows ih

theorem stepped (h : Played r steps results mades final) :
    List.Forall₂ Stepped mades results := by
  induction h with
  | ended => exact .nil
  | next hdoes _ ih =>
    have hcalls := hdoes.accounts.calls
    exact .cons ⟨hdoes.suffers, hdoes.complete, by simpa [Rehearsal.cleared] using hcalls⟩ ih

end Played

/-- Every edge is told to the updater and to the listeners, in order, up to the first failure.

Whatever is done to a key from outside, step after step, whoever is registered or in place as its
updater, and whatever their scripts say, there is an account of all that is done, by the rules, in
which every edge is complete: its state is set first; then the updater that is in place has one
turn; and unless it fails, the listeners that are registered when it is done have one turn for each
registration, in order, up to the first who fails, whatever the others did meanwhile. The failure
is that of the edge, and of whoever moved the key, who does nothing more. The calls that are noted
are those of these turns. The key goes through the moments of this account, at each of which one
thing is done to it and nothing is undone, and at every moment its state is that of the edge that
has begun most recently. -/
theorem edges_reach_audience (r : KeyRehearsal) (steps : List (List (Deed KeyAction))) :
    ∃ mades final, Played r steps
        (Rehearsal.outcomes (Rehearsal.step noted KeyAction.perform) r steps) mades final ∧
      List.Forall₂ Stepped mades
        (Rehearsal.outcomes (Rehearsal.step noted KeyAction.perform) r steps) ∧
      Follows r.device (mades.flatMap momentsOf) final.device ∧
      ∀ before moment after, mades.flatMap momentsOf = before ++ moment :: after →
        moment.key.pressed = lastBegun r.device.pressed (before ++ [moment]) ∧
        moment.key.released = !lastBegun r.device.pressed (before ++ [moment]) := by
  obtain ⟨mades, final, hplayed⟩ := Played.of_outcomes r steps
  refine ⟨mades, final, hplayed, hplayed.stepped, hplayed.follows, ?_⟩
  intro before moment after hmoments
  have hpressed := hplayed.follows.pressed_at hmoments
  exact ⟨hpressed, congrArg not hpressed⟩

/-- The calls of all steps are those of what was done in each. -/
theorem map_calls_of_stepped {mades : List (List Stir)}
    {results : List (Except Fault Unit × KeyRehearsal)} (h : List.Forall₂ Stepped mades results) :
    mades.map (fun made => callsOf (momentsOf made)) =
      results.map fun result => result.2.calls := by
  induction h with
  | nil => rfl
  | cons hstep _ ih => rw [List.map_cons, List.map_cons, ih, hstep.calls]

/-- The updater takes a listener off, and the first listener takes off one of the others and
registers another. -/
def changeable : KeyRehearsal where
  device := {}
  scripts := [⟨"u", [[.act (.unregister "b")]]⟩,
    ⟨"a", [[.act (.unregister "c"), .act (.register "d")]]⟩]

/-- Three listeners and the updater are registered, and the key goes down and up again. -/
def downAndUp : List (List (Deed KeyAction)) :=
  [[.act (.register "a"), .act (.register "b"), .act (.register "c"), .act (.setUpdater "u")],
    [.act (.move true)], [.act (.move false)]]

/-- Who was taken off by the updater is not told of the press, who was taken off later is, and who
was registered meanwhile is told of no edge before the next. -/
theorem edges_reach_audience_of_changeable : ∃ mades final,
    Played changeable downAndUp
      (Rehearsal.outcomes (Rehearsal.step noted KeyAction.perform) changeable downAndUp) mades
      final ∧
    mades.map (fun made => callsOf (momentsOf made)) = [[],
      [("u", true), ("a", true), ("c", true)], [("u", false), ("a", false), ("d", false)]] := by
  obtain ⟨mades, final, hplayed, hstepped, -⟩ := edges_reach_audience changeable downAndUp
  refine ⟨mades, final, hplayed, ?_⟩
  rw [map_calls_of_stepped hstepped]
  decide +kernel

/-- The first listener lets the key up again at once: the second hears of that before it hears of
the press, and then fails. -/
example : (playKey [⟨"a", [[.act (.move false)]]⟩, ⟨"b", [[], [.fail "ValueError" "no"]]⟩]
    [[.act (.setUpdater "u"), .act (.register "a"), .act (.register "b"), .act (.register "c")],
      [.act (.move true)]]).map (fun result => (result.2.device.pressed, result.2.calls)) =
    [(false, []), (false, [("u", true), ("a", true), ("u", false), ("a", false), ("b", false),
      ("c", false), ("b", true)])] := by
  decide +kernel

end Dispatch

end DigitRace.Script
