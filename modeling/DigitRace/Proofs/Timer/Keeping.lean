import DigitRace.Proofs.Timer.Rules

/-!
# Keeping to the rules

The program keeps to the rules of the timer as deep as the scripts have entries. It lets no more
countdowns run out in a time than there can be, so where the timer shows what its history says, a
time that passes is over when no countdown is left that is due.
-/

namespace DigitRace.Script

open TimerRehearsal (ticking noted perform notify runUntil limit)

variable {prompt : Prop} {depth : Nat} {r r' : TimerRehearsal} {log : List Onset}
  {tell : String → TimerEvent → Act TimerRehearsal Unit}

/-- Where nothing can run out any more, no countdown is due. -/
theorem Sound.next?_eq_none (h : Sound r) (hspent : potential r = 0) (horizon : Rat) :
    r.device.agenda.next? horizon = none := by
  obtain ⟨rate, log, hkept⟩ := h
  rw [hkept.next?_eq_none_iff]
  have hunarmed : ¬r.device.timer.armed = true := by
    intro harmed
    simp [potential, harmed] at hspent
  rw [hkept.pending.armed_iff, Option.not_isSome_iff_eq_none] at hunarmed
  simp [hunarmed]

/-- A countdown that runs out was armed, and then less can run out. -/
theorem Sound.potential_ranOut (h : Sound r) {horizon : Rat} {agenda : Agenda Unit}
    (hnext : r.device.agenda.next? horizon = some ((), agenda)) :
    potential (ranOut agenda r) + 1 = potential r := by
  obtain ⟨rate, log, hkept⟩ := h
  have harmed : r.device.timer.armed = true := by
    rw [hkept.pending.armed_iff, (hkept.next?_eq hnext).1]
    rfl
  simp only [potential, harmed, if_true]
  rfl

theorem potential_le_limit (r : TimerRehearsal) : potential r ≤ r.limit := by
  unfold potential TimerRehearsal.limit deedsLeft
  split_ifs <;> omega

/-- Telling a listener of an event keeps to the rules as long as the scripts hold no more than so
many entries; if time is to be prompt, the timer has to show what its history says. -/
def KeepsRules (prompt : Prop) (depth : Nat)
    (tell : String → TimerEvent → Act TimerRehearsal Unit) : Prop :=
  ∀ listener event r, (prompt → Sound r) → r.entriesLeft ≤ depth → ∃ log made outcome r',
    Does prompt (Rehearsal.nextEntry listener r) (Rehearsal.called noted listener event r) log made
        outcome r' ∧
      (tell listener event).result r = (outcome, r')

/-- Whom an action would tell does not matter if it announces nothing. -/
theorem perform_quiet {action : TimerAction} (hquiet : action.isQuiet = true)
    (tell : String → TimerEvent → Act TimerRehearsal Unit) :
    perform tell action = perform toNobody action := by
  cases action with
  | disable | advance => cases hquiet
  | _ => rfl

theorem sound_called (listener : String) (event : TimerEvent) (hsound : prompt → Sound r) :
    prompt → Sound (Rehearsal.called noted listener event r) := by
  intro hprompt
  have hcalled : Stirs r [] (Rehearsal.called noted listener event r) := .apart rfl rfl rfl rfl
  exact (hsound hprompt).stirred hcalled.stirred

namespace KeepsRules

/-- All listeners are told, and what becomes of one does not concern the others. -/
theorem tellAll (h : KeepsRules prompt depth tell) (event : TimerEvent) (listeners : List String)
    (r : TimerRehearsal) (hsound : prompt → Sound r) (hdepth : r.entriesLeft ≤ depth) :
    ∃ log turns r', Timer.tellAll (fun listener => tell listener event)
        (fun listener fault => modify fun rehearsal =>
          { rehearsal with journal := rehearsal.journal ++ [Timer.failure listener event fault] })
        listeners r = .ok ⟨⟩ r' ∧ Tells prompt event listeners r log turns r' := by
  induction listeners generalizing r with
  | nil => exact ⟨[], [], r, rfl, .nobody⟩
  | cons listener rest ih =>
    obtain ⟨log, during, outcome, r₁, hdoes, hresult⟩ := h listener event r hsound hdepth
    let turn : Turn := ⟨listener, r.device.agenda.now, during, outcome⟩
    have hover : Leads 0 0 [] r₁ (afterTurn event turn r₁) := .apart rfl rfl rfl rfl rfl rfl
    have hturn := hdoes.leads.turn.trans hover
    obtain ⟨later, turns, r₂, hrest, htells⟩ := ih (afterTurn event turn r₁)
      (fun hprompt => (hsound hprompt).stirred hturn.stirred) (hturn.entriesLeft_le.trans hdepth)
    refine ⟨log ++ later, turn :: turns, r₂, ?_, .turn hdoes htells⟩
    rw [← hrest, Timer.tellAll, Act.forM_cons_apply, Act.tryCatch_apply]
    cases outcome with
    | ok =>
      rw [Act.of_result_ok hresult]
      simp [afterTurn, turn, Turn.records, Timer.tellAll]
    | error fault =>
      rw [Act.of_result_error hresult]
      simp [afterTurn, turn, Turn.records, Timer.tellAll]

theorem notify (h : KeepsRules prompt depth tell) (event : TimerEvent) (r : TimerRehearsal)
    (hsound : prompt → Sound r) (hdepth : r.entriesLeft ≤ depth) :
    ∃ log turns r', notify tell event r = .ok ⟨⟩ r' ∧
      Tells prompt event r.device.timer.listeners r log turns r' :=
  h.tellAll event r.device.timer.listeners r hsound hdepth

/-- Countdowns run out one after the other. -/
theorem runUntil (h : KeepsRules prompt depth tell) (horizon : Rat) (fuel : Nat)
    (r : TimerRehearsal) (hsound : prompt → Sound r ∧ potential r ≤ fuel)
    (hdepth : r.entriesLeft ≤ depth) : ∃ log made r', runUntil tell horizon fuel r = .ok ⟨⟩ r' ∧
      Elapses prompt horizon r log made r' := by
  induction fuel generalizing r with
  | zero =>
    refine ⟨[], [], r, rfl, .still fun hprompt => ?_⟩
    obtain ⟨hsound, hspent⟩ := hsound hprompt
    exact hsound.next?_eq_none (Nat.le_zero.mp hspent) horizon
  | succ fuel ih =>
    unfold TimerRehearsal.runUntil
    cases hnext : r.device.agenda.next? horizon with
    | none => exact ⟨[], [], r, by simp [hnext], .still fun _ => hnext⟩
    | some next =>
      obtain ⟨⟨⟩, agenda⟩ := next
      have hstirs : Stirs r _ (ranOut agenda r) := .ranOut hnext
      obtain ⟨log, turns, r₁, hnotify, htells⟩ := h.notify .elapsed (ranOut agenda r)
        (fun hprompt => (hsound hprompt).1.stirred hstirs.stirred) hdepth
      have hsound₁ : prompt → Sound r₁ ∧ potential r₁ ≤ fuel := by
        intro hprompt
        obtain ⟨hsound, hfuel⟩ := hsound hprompt
        have hless := hsound.potential_ranOut hnext
        have hkept := htells.leads.potential_le
        exact ⟨(hsound.stirred hstirs.stirred).stirred htells.leads.stirred, by omega⟩
      obtain ⟨later, made, r₂, hrest, helapses⟩ :=
        ih r₁ hsound₁ (htells.leads.entriesLeft_le.trans hdepth)
      refine ⟨_, _, r₂, ?_, .next hnext htells helapses⟩
      simp only [Act.bind_apply, Act.get_apply, hnext, Act.update_apply]
      rw [show ticking.put ((ticking.get r).1.ranOut, agenda) r = ranOut agenda r from rfl, hnotify]
      exact hrest

/-- Calling the countdown off announces that, and never fails. -/
theorem disable (h : KeepsRules prompt depth tell) (r : TimerRehearsal)
    (hsound : prompt → Sound r) (hdepth : r.entriesLeft ≤ depth) :
    ∃ r₁ log turns r₂, ticking.run Timer.clear r = .ok ⟨⟩ r₁ ∧
      Tells prompt .disabled r.device.timer.listeners r₁ log turns r₂ ∧
      perform tell .disable r = .ok ⟨⟩ r₂ := by
  have hclear : ticking.run Timer.clear r = .ok ⟨⟩ (after (ticking.run Timer.clear) r) := rfl
  have hcleared := leads_clear hclear
  obtain ⟨log, turns, r₂, hnotify, htells⟩ := h.notify .disabled (after (ticking.run Timer.clear) r)
    (fun hprompt => (hsound hprompt).stirred hcleared.stirred)
    (hcleared.entriesLeft_le.trans hdepth)
  refine ⟨_, log, turns, r₂, hclear, htells, ?_⟩
  rw [TimerRehearsal.perform, Act.bind_apply, hclear]
  exact hnotify

/-- A time passes. -/
theorem advance (h : KeepsRules prompt depth tell) (seconds : Rat) (r : TimerRehearsal)
    (hsound : prompt → Sound r) (hdepth : r.entriesLeft ≤ depth) : ∃ log made r₁,
      Elapses prompt (r.device.agenda.now + seconds) r log made r₁ ∧
      perform tell (.advance seconds) r =
        .ok ⟨⟩ (atTime (r.device.agenda.now + seconds) r₁) := by
  obtain ⟨log, made, r₁, hrun, helapses⟩ := h.runUntil (r.device.agenda.now + seconds) r.limit r
    (fun hprompt => ⟨hsound hprompt, potential_le_limit r⟩) hdepth
  refine ⟨log, made, r₁, helapses, ?_⟩
  rw [TimerRehearsal.perform, Act.bind_apply, Act.get_apply]
  simp only [Act.bind_apply, hrun]
  rfl

/-- Deeds are done up to the first failure. -/
theorem follow (h : KeepsRules prompt depth tell) (deeds : List (Deed TimerAction))
    (r : TimerRehearsal) (hsound : prompt → Sound r) (hdepth : r.entriesLeft ≤ depth) :
    ∃ log made outcome r', Does prompt deeds r log made outcome r' ∧
      (Rehearsal.follow (perform tell) deeds).result r = (outcome, r') := by
  induction deeds generalizing r with
  | nil => exact ⟨[], [], .ok ⟨⟩, r, .nothing, rfl⟩
  | cons deed rest ih =>
    have hnext {spent : Nat} {log : List Onset} {r' : TimerRehearsal}
        (hleads : Leads 0 spent log r r') :=
      ih r' (fun hprompt => (hsound hprompt).stirred hleads.stirred)
        (hleads.entriesLeft_le.trans hdepth)
    cases deed with
    | fail kind text => exact ⟨[], [], .error (.raised kind text), r, .fails, rfl⟩
    | act action =>
      cases hquiet : action.isQuiet with
      | true =>
        have hleads := leads_quiet hquiet r
        cases hact : perform toNobody action r with
        | ok _ r₁ =>
          rw [after_of_ok hact] at hleads
          obtain ⟨log, made, outcome, r₂, hdoes, hresult⟩ := hnext hleads
          have htell := (congrFun (perform_quiet hquiet tell) r).trans hact
          exact ⟨_, made, outcome, r₂, .quiet hquiet hact hdoes,
            (Rehearsal.follow_of_ok htell rest).trans hresult⟩
        | error fault r₁ =>
          have htell := (congrFun (perform_quiet hquiet tell) r).trans hact
          exact ⟨_, [], .error fault, r₁, .refused hquiet hact,
            Rehearsal.follow_of_error htell rest⟩
      | false =>
        cases action with
        | disable =>
          obtain ⟨r₁, log, turns, r₂, hclear, htells, hact⟩ := h.disable r hsound hdepth
          have hleads := (leads_clear hclear).trans htells.leads
          obtain ⟨later, made, outcome, r₃, hdoes, hresult⟩ := hnext hleads
          exact ⟨_, _, outcome, r₃, .disable hclear htells hdoes,
            (Rehearsal.follow_of_ok hact rest).trans hresult⟩
        | advance seconds =>
          obtain ⟨log, meanwhile, r₁, helapses, hact⟩ := h.advance seconds r hsound hdepth
          obtain ⟨later, made, outcome, r₂, hdoes, hresult⟩ := hnext (helapses.leads.atTime _)
          exact ⟨_, _, outcome, r₂, .advance helapses hdoes,
            (Rehearsal.follow_of_ok hact rest).trans hresult⟩
        | _ => cases hquiet

end KeepsRules

/-- Listeners that follow their scripts keep to the rules. -/
theorem answer_keepsRules (prompt : Prop) (depth : Nat) :
    KeepsRules prompt depth (Rehearsal.answer noted perform depth) := by
  let Comes (deeds : List (Deed TimerAction)) (r : TimerRehearsal)
      (account : List Onset × List Announcement) := Does prompt deeds r account.1 account.2
  intro listener event r hsound hdepth
  obtain ⟨⟨log, made⟩, outcome, r', hdoes, hresult⟩ := Rehearsal.answer_comes noted perform
    (fun r => prompt → Sound r) Comes (fun listener event r => sound_called listener event)
    (fun _ => ⟨([], []), .nothing⟩) (fun depth tell htell deeds r hsound hdepth => by
      have hkeeps : KeepsRules prompt depth tell := fun listener event r hsound hdepth => by
        obtain ⟨account, outcome, r', h⟩ := htell listener event r hsound hdepth
        exact ⟨account.1, account.2, outcome, r', h⟩
      obtain ⟨log, made, outcome, r', h⟩ := hkeeps.follow deeds r hsound hdepth
      exact ⟨(log, made), outcome, r', h⟩) depth listener event r hsound hdepth
  exact ⟨log, made, outcome, r', hdoes, hresult⟩

/-- A step keeps to the rules, with its deeds first and then what is due after them. -/
theorem step_keepsRules (prompt : Prop) (deeds : List (Deed TimerAction)) (r : TimerRehearsal)
    (hsound : prompt → Sound r) : ∃ log made outcome r₁ late later r₂,
      Does prompt deeds r log made outcome r₁ ∧
      Elapses prompt r₁.device.agenda.now r₁ late later r₂ ∧
      (TimerRehearsal.step deeds).result r = (outcome, r₂) := by
  obtain ⟨log, made, outcome, r₁, hdoes, hresult⟩ :=
    (answer_keepsRules prompt r.entriesLeft).follow deeds r hsound le_rfl
  obtain ⟨late, later, r₂, hsettle, helapses⟩ := (answer_keepsRules prompt r₁.entriesLeft).runUntil
    r₁.device.agenda.now r₁.limit r₁
    (fun hprompt => ⟨(hsound hprompt).stirred hdoes.leads.stirred, potential_le_limit r₁⟩) le_rfl
  refine ⟨log, made, outcome, r₁, late, later, r₂, hdoes, helapses, ?_⟩
  have hdeeds : (Rehearsal.step noted perform deeds).result r = (outcome, r₁) := hresult
  simp only [Act.result, TimerRehearsal.step] at hdeeds ⊢
  cases hstep : Rehearsal.step noted perform deeds r with
  | ok _ s =>
    simp only [hstep] at hdeeds ⊢
    obtain ⟨rfl, rfl⟩ := Prod.mk.inj hdeeds
    simp [hsettle]
  | error fault s =>
    simp only [hstep] at hdeeds ⊢
    obtain ⟨rfl, rfl⟩ := Prod.mk.inj hdeeds
    simp [hsettle]

end DigitRace.Script
