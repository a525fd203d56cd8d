import DigitRace.Proofs.Timer.Keeping

/-!
# Announcing an event

By the rules of the timer everyone who was registered when an announcement began has one turn for
each registration, in order, whatever the others do, and each failed turn is written down once.
Nobody else is called, and nothing else is written down.
-/

namespace DigitRace.Script

open TimerRehearsal (ticking noted perform notify runUntil)

/-! ## What is gathered of announcements -/

/-- Everyone who was registered when the announcement began had a turn for each registration, in
order, and nobody else had one. So it is with all that was announced during the turns. -/
inductive Announcement.Complete : Announcement → Prop where
  | intro {announcement : Announcement}
      (hturns : announcement.turns.map Turn.listener = announcement.audience)
      (hduring : ∀ turn ∈ announcement.turns, ∀ inner ∈ turn.during, inner.Complete) :
      announcement.Complete

section

variable {α : Type} (early late : TimerEvent → Turn → List α)

mutual

/-- What is gathered of an announcement from its turns, where each turn gives something when it
begins and when it is over. -/
def Announcement.gather : Announcement → List α
  | ⟨event, _, turns⟩ => gatherTurns event turns

/-- What is gathered from turns and from all that was announced during them. -/
def gatherTurns (event : TimerEvent) : List Turn → List α
  | [] => []
  | ⟨listener, time, during, outcome⟩ :: rest =>
    early event ⟨listener, time, during, outcome⟩ ++ gatherAll during ++
      late event ⟨listener, time, during, outcome⟩ ++ gatherTurns event rest

/-- What is gathered from one announcement after the other. -/
def gatherAll : List Announcement → List α
  | [] => []
  | announcement :: rest => announcement.gather ++ gatherAll rest

end

end

/-- The calls of the listeners, in the order in which they begin. -/
def callsOf (made : List Announcement) : List TimerCall :=
  gatherAll (fun event turn => [⟨turn.listener, event, turn.time⟩]) (fun _ _ => []) made

/-- The records of the turns that failed, in the order in which they are over. -/
def recordsOf (made : List Announcement) : List Record :=
  gatherAll (fun _ _ => []) Turn.records made

/-! ## What the rules say of calls and records -/

variable {prompt : Prop} {r r₁ r₂ : TimerRehearsal} {made : List Announcement}
  {outcome : Except Fault Unit} {event : TimerEvent} {turns : List Turn}

@[simp] theorem gatherAll_append {α : Type} (early late : TimerEvent → Turn → List α)
    (first later : List Announcement) : gatherAll early late (first ++ later) =
      gatherAll early late first ++ gatherAll early late later := by
  induction first with
  | nil => rfl
  | cons announcement rest ih => simp [gatherAll, ih]

/-- From `r` to `r'` there are the calls and the records of what is announced, and all of it is
complete. -/
structure Accounts (made : List Announcement) (r r' : TimerRehearsal) : Prop where
  calls : r'.calls = r.calls ++ callsOf made
  journal : r'.journal = r.journal ++ recordsOf made
  complete : ∀ announcement ∈ made, announcement.Complete

namespace Accounts

/-- Where nobody is called and nothing is written down, nothing was announced. -/
theorem apart (hcalls : r₁.calls = r.calls) (hjournal : r₁.journal = r.journal) :
    Accounts [] r r₁ where
  calls := by simp [hcalls, callsOf, gatherAll]
  journal := by simp [hjournal, recordsOf, gatherAll]
  complete := by simp

theorem trans {later : List Announcement} (h : Accounts made r r₁) (h' : Accounts later r₁ r₂) :
    Accounts (made ++ later) r r₂ where
  calls := by simp [h'.calls, h.calls, callsOf]
  journal := by simp [h'.journal, h.journal, recordsOf]
  complete := by
    intro announcement hmem
    rcases List.mem_append.mp hmem with hmade | hlater
    · exact h.complete announcement hmade
    · exact h'.complete announcement hlater

theorem begun_apart {r₀ : TimerRehearsal} (h : Accounts made r₁ r₂) (hcalls : r₁.calls = r₀.calls)
    (hjournal : r₁.journal = r₀.journal) : Accounts made r₀ r₂ := by
  simpa using (apart hcalls hjournal).trans h

/-- An announcement before nobody. -/
theorem nobody (event : TimerEvent) (r : TimerRehearsal) : Accounts [⟨event, [], []⟩] r r where
  calls := by simp [callsOf, gatherAll, Announcement.gather, gatherTurns]
  journal := by simp [recordsOf, gatherAll, Announcement.gather, gatherTurns]
  complete := by
    intro announcement hmem
    obtain rfl := List.mem_singleton.mp hmem
    exact ⟨rfl, by simp⟩

/-- The turn of a listener comes before those of the others. -/
theorem turn {listener : String} {rest : List String} {during : List Announcement}
    (hdoes : Accounts during (Rehearsal.called noted listener event r) r₁)
    (hrest : Accounts [⟨event, rest, turns⟩]
      (afterTurn event ⟨listener, r.device.agenda.now, during, outcome⟩ r₁) r₂) :
    Accounts [⟨event, listener :: rest,
      ⟨listener, r.device.agenda.now, during, outcome⟩ :: turns⟩] r r₂ where
  calls := by
    rw [hrest.calls]
    simp [afterTurn, hdoes.calls, Rehearsal.called, noted, callsOf, gatherAll, Announcement.gather,
      gatherTurns]
  journal := by
    rw [hrest.journal]
    simp [afterTurn, hdoes.journal, Rehearsal.called, recordsOf, gatherAll, Announcement.gather,
      gatherTurns]
  complete := by
    intro announcement hmem
    obtain rfl := List.mem_singleton.mp hmem
    obtain ⟨hturns, hduring⟩ := hrest.complete _ (List.mem_singleton_self _)
    refine ⟨by simpa using hturns, fun turn hturn => ?_⟩
    rcases List.mem_cons.mp hturn with rfl | hlater
    · exact hdoes.complete
    · exact hduring turn hlater

end Accounts

/-- An action that announces nothing calls nobody and writes nothing down. -/
theorem accounts_quiet {action : TimerAction} (hquiet : action.isQuiet = true)
    (r : TimerRehearsal) : Accounts [] r (after (perform toNobody action) r) := by
  cases action with
  | disable => cases hquiet
  | advance => cases hquiet
  | enable ticks =>
    cases henable : Timer.enable r.device.inLoop r.device.clock () ticks
        (r.device.timer, r.device.agenda) with
    | ok _ pair =>
      rw [after_of_ok (show perform toNobody (.enable ticks) r = _ from ticking_run_ok henable)]
      exact .apart rfl rfl
    | error fault pair =>
      rw [after_of_error (show perform toNobody (.enable ticks) r = _ from
        ticking_run_error henable)]
      exact .apart rfl rfl
  | _ => exact .apart rfl rfl

theorem accounts_clear (hclear : ticking.run Timer.clear r = .ok ⟨⟩ r₁) : Accounts [] r r₁ := by
  obtain ⟨-, rfl⟩ := EStateM.Result.ok.inj hclear
  exact .apart rfl rfl

-- By induction on the rules; the three kinds of rule refer to each other.
mutual

/-- All that is called and written down while deeds are done comes from what is announced. -/
theorem Does.accounts {deeds : List (Deed TimerAction)} {r r' : TimerRehearsal} {log : List Onset}
    {made : List Announcement} {outcome : Except Fault Unit} :
    Does prompt deeds r log made outcome r' → Accounts made r r'
  | .nothing | .fails => .apart rfl rfl
  | .quiet hquiet hact hrest => by
    have hfirst := accounts_quiet hquiet r
    rw [after_of_ok hact] at hfirst
    exact hfirst.trans hrest.accounts
  | .refused hquiet hact => by
    have hfirst := accounts_quiet hquiet r
    rwa [after_of_error hact] at hfirst
  | .disable hclear htells hrest =>
    (accounts_clear hclear).trans (htells.accounts.trans hrest.accounts)
  | .advance helapses hrest =>
    helapses.accounts.trans (hrest.accounts.begun_apart rfl rfl)

theorem Elapses.accounts {horizon : Rat} {r r' : TimerRehearsal} {log : List Onset}
    {made : List Announcement} : Elapses prompt horizon r log made r' → Accounts made r r'
  | .still _ => .apart rfl rfl
  | .next _ htells hrest => (htells.accounts.trans hrest.accounts).begun_apart rfl rfl

theorem Tells.accounts {event : TimerEvent} {listeners : List String} {r r' : TimerRehearsal}
    {log : List Onset} {turns : List Turn} :
    Tells prompt event listeners r log turns r' → Accounts [⟨event, listeners, turns⟩] r r'
  | .nobody => .nobody event r
  | .turn hdoes hrest => .turn hdoes.accounts hrest.accounts

end

/-! ## Whatever listeners do -/

/-- Listeners are told whatever becomes of it. -/
theorem notify_ok (tell : String → TimerEvent → Act TimerRehearsal Unit) (event : TimerEvent)
    (r : TimerRehearsal) : ∃ r', notify tell event r = .ok ⟨⟩ r' := by
  have htellAll (listeners : List String) (r : TimerRehearsal) :
      ∃ r', Timer.tellAll (fun listener => tell listener event)
        (fun listener fault => modify fun rehearsal =>
          { rehearsal with journal := rehearsal.journal ++ [Timer.failure listener event fault] })
        listeners r = .ok ⟨⟩ r' := by
    induction listeners generalizing r with
    | nil => exact ⟨r, rfl⟩
    | cons listener rest ih =>
      rw [Timer.tellAll, Act.forM_cons_apply, Act.tryCatch_apply]
      cases tell listener event r with
      | ok _ r₁ => exact ih r₁
      | error fault r₁ => exact ih _
  exact htellAll r.device.timer.listeners r

theorem disable_ok (tell : String → TimerEvent → Act TimerRehearsal Unit) (r : TimerRehearsal) :
    ∃ r', perform tell .disable r = .ok ⟨⟩ r' :=
  notify_ok tell .disabled (after (ticking.run Timer.clear) r)

theorem runUntil_ok (tell : String → TimerEvent → Act TimerRehearsal Unit) (horizon : Rat)
    (fuel : Nat) (r : TimerRehearsal) : ∃ r', runUntil tell horizon fuel r = .ok ⟨⟩ r' := by
  induction fuel generalizing r with
  | zero => exact ⟨r, rfl⟩
  | succ fuel ih =>
    unfold TimerRehearsal.runUntil
    cases hnext : r.device.agenda.next? horizon with
    | none => exact ⟨r, by simp [hnext]⟩
    | some next =>
      obtain ⟨⟨⟩, agenda⟩ := next
      obtain ⟨r₁, hnotify⟩ := notify_ok tell .elapsed (ranOut agenda r)
      obtain ⟨r₂, hrest⟩ := ih r₁
      refine ⟨r₂, ?_⟩
      simp only [Act.bind_apply, Act.get_apply, hnext, Act.update_apply]
      rw [show ticking.put ((ticking.get r).1.ranOut, agenda) r = ranOut agenda r from rfl, hnotify]
      exact hrest

/-- Every announcement reaches everyone who was registered when it began, and nobody else.

Whatever deeds are done to a timer, whoever is registered, and whatever their scripts say, there is
an account of all that is announced, by the rules, in which every announcement is complete: the
turns in it are those of the registrations at its beginning, in order, whatever was done or
announced during them, so a listener that is registered meanwhile has its first turn in a later
announcement. The calls that are noted are those of these turns, and the records are those of the
turns that failed, one for each. Time is prompt if the timer shows what some history says. Whatever
listeners do, calling the countdown off does not fail, and neither does a countdown that runs
out. -/
theorem announcements_reach_audience (deeds : List (Deed TimerAction)) (r : TimerRehearsal) :
    (∃ log made outcome r₁ late later r₂, Does (Sound r) deeds r log made outcome r₁ ∧
      Elapses (Sound r) r₁.device.agenda.now r₁ late later r₂ ∧
      (TimerRehearsal.step deeds).result r = (outcome, r₂) ∧
      (∀ announcement ∈ made ++ later, announcement.Complete) ∧
      r₂.calls = r.calls ++ callsOf (made ++ later) ∧
      r₂.journal = r.journal ++ recordsOf (made ++ later)) ∧
    (∀ tell, ∃ r', perform tell .disable r = .ok ⟨⟩ r') ∧
    ∀ tell horizon fuel, ∃ r', runUntil tell horizon fuel r = .ok ⟨⟩ r' := by
  refine ⟨?_, fun tell => disable_ok tell r, fun tell horizon fuel =>
    runUntil_ok tell horizon fuel r⟩
  obtain ⟨log, made, outcome, r₁, late, later, r₂, hdoes, helapses, hresult⟩ :=
    step_keepsRules (Sound r) deeds r id
  have haccounts := hdoes.accounts.trans helapses.accounts
  exact ⟨log, made, outcome, r₁, late, later, r₂, hdoes, helapses, hresult, haccounts.complete,
    haccounts.calls, haccounts.journal⟩

/-- The first listener takes the second off, registers a third and calls the countdown off, which is
announced to the first and the third at once; the second still has its turn afterwards. -/
theorem announcements_reach_audience_of_unregistered : ∃ made later,
    (∀ announcement ∈ made ++ later, announcement.Complete) ∧
    (callsOf (made ++ later)).map (fun call => (call.listener, call.event)) =
      [("a", .elapsed), ("a", .disabled), ("c", .disabled), ("b", .elapsed)] := by
  let first := fresh 50 0 true
    [⟨"a", [[.act (.unregister "b"), .act (.register "c"), .act .disable]]⟩]
  obtain ⟨log, made, outcome, r₁, late, later, r₂, -, -, hresult, hcomplete, hcalls, -⟩ :=
    (announcements_reach_audience
      [.act (.register "a"), .act (.register "b"), .act (.enable (.int 5)), .act (.advance 1)]
      first).1
  refine ⟨made, later, hcomplete, ?_⟩
  rw [show callsOf (made ++ later) = r₂.calls from hcalls.symm,
    ← show _ = r₂ from congrArg Prod.snd hresult]
  decide +kernel

end DigitRace.Script
