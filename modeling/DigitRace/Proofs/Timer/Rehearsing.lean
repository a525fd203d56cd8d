import DigitRace.Proofs.Timer.Keeping

/-!
# Rehearsing a countdown

Whatever listeners do in answer, and however deep their answers go, a play has one account by the
rules of the timer, and with it one history of what began at the timer. The history says what the
timer shows all along, every countdown that runs out is told to the listeners of that moment, each
of them once, and letting a time pass leaves no countdown pending that was due by then.
-/

namespace DigitRace.Script

open TimerRehearsal (noted perform)

variable {rate : Int} {first r r' r₁ r₂ : TimerRehearsal} {log log' began late : List Onset}
  {tell : String → TimerEvent → Act TimerRehearsal Unit} {steps : List (List (Deed TimerAction))}
  {deeds : List (Deed TimerAction)}

/-- A play by the rules, and what began at the timer meanwhile: steps are done one after the other,
each with its calls noted afresh, and after each of them everything that is due happens. -/
inductive Plays (first : TimerRehearsal) :
    List (List (Deed TimerAction)) → List Onset → TimerRehearsal → Prop where
  | start : Plays first [] [] first
  | step {steps : List (List (Deed TimerAction))} {deeds : List (Deed TimerAction)}
      {log began late : List Onset} {made later : List Announcement} {outcome : Except Fault Unit}
      {r r₁ r₂ : TimerRehearsal} (hpast : Plays first steps log r)
      (hdoes : Does True deeds r.cleared began made outcome r₁)
      (hlate : Elapses True r₁.device.agenda.now r₁ late later r₂) :
      Plays first (steps ++ [deeds]) (log ++ (began ++ late)) r₂

namespace Plays

/-- A play has one account, and with it one history. -/
theorem unique (h : Plays first steps log r) (h' : Plays first steps log' r') :
    log = log' ∧ r = r' := by
  induction h generalizing log' r' with
  | start =>
    generalize hsteps : ([] : List (List (Deed TimerAction))) = steps at h'
    cases h' with
    | start => exact ⟨rfl, rfl⟩
    | step => simp at hsteps
  | @step steps deeds _ _ _ _ _ _ _ _ _ _ hdoes hlate ih =>
    generalize hsteps : steps ++ [deeds] = all at h'
    cases h' with
    | start => simp at hsteps
    | step hpast' hdoes' hlate' =>
      obtain ⟨rfl, hdeeds⟩ := List.append_inj' hsteps rfl
      obtain rfl := List.singleton_inj.1 hdeeds
      obtain ⟨rfl, rfl⟩ := ih hpast'
      obtain ⟨rfl, -, -, rfl⟩ := hdoes.unique hdoes'
      obtain ⟨rfl, -, rfl⟩ := hlate.unique hlate'
      exact ⟨rfl, rfl⟩

theorem stirred (h : Plays first steps log r) : Stirred first log r := by
  induction h with
  | start => exact .refl
  | @step _ _ _ _ _ _ _ _ r _ _ _ hdoes hlate ih =>
    have hcleared : Stirs r [] r.cleared := .apart rfl rfl rfl rfl
    have hstep := hcleared.stirred.trans (hdoes.leads.stirred.trans hlate.leads.stirred)
    exact ih.trans hstep

/-- The program plays by the rules. -/
theorem outcomes (h : Plays first steps log r) (hsound : Sound r) {n : Nat}
    {later : List (List (Deed TimerAction))} {outcome : Except Fault Unit × TimerRehearsal}
    (houtcome : (Rehearsal.outcomes TimerRehearsal.step r later)[n]? = some outcome) :
    ∃ log, Plays first (steps ++ later.take (n + 1)) log outcome.2 := by
  induction later generalizing r steps log n with
  | nil => simp [Rehearsal.outcomes] at houtcome
  | cons deeds rest ih =>
    have hcleared : Stirs r [] r.cleared := .apart rfl rfl rfl rfl
    have hready : Sound r.cleared := hsound.stirred hcleared.stirred
    obtain ⟨began, made, result, r₁, late, later, r₂, hdoes, hlate, hstep⟩ :=
      step_keepsRules True deeds r.cleared fun _ => hready
    have hplays := h.step hdoes hlate
    unfold Rehearsal.outcomes at houtcome
    simp only [hstep] at houtcome
    cases n with
    | zero =>
      obtain rfl : (result, r₂) = outcome := by simpa using houtcome
      exact ⟨_, by simpa using hplays⟩
    | succ n =>
      have hafter : Sound r₂ :=
        (hready.stirred hdoes.leads.stirred).stirred hlate.leads.stirred
      obtain ⟨log, hlater⟩ := ih hplays hafter (by simpa using houtcome)
      exact ⟨log, by simpa using hlater⟩

end Plays

/-- Where no countdown is left that is due, one that was armed and neither armed again nor called
off has run out when it was due. -/
theorem Kept.ranOut_of_over (h : Kept rate log r) {horizon : Rat}
    (hover : r.device.agenda.next? horizon = none) {earlier rest : List Onset} {start : Rat}
    {ticks : Int} (hlog : log = earlier ++ .armed start ticks :: rest)
    (hrest : ∀ onset ∈ rest, onset.isRanOut = true)
    (hdue : start + Timer.span ticks rate ≤ horizon) :
    ∃ audience, rest = [.ranOut (start + Timer.span ticks rate) audience] := by
  obtain rfl | hran := h.onTime.rest_eq hlog hrest
  · have hpending : dueAfter rate log = some (start + Timer.span ticks rate) := by
      rw [hlog, dueAfter_concat]
      rfl
    exact absurd (h.next?_eq_none_iff.1 hover _ hpending) (not_lt.2 hdue)
  · exact hran

/-- A time that passes promptly is over when no countdown is left that is due. -/
theorem Elapses.over {horizon : Rat} {r r' : TimerRehearsal} {log : List Onset}
    {made : List Announcement} :
    Elapses True horizon r log made r' → r'.device.agenda.next? horizon = none
  | .still hover => hover trivial
  | .next _ _ hrest => hrest.over

/-- An arming that fails tells nobody and leaves nothing pending. -/
theorem Kept.enable_error (h : Kept rate log r) {ticks : Value} {fault : Fault}
    (herror : perform tell (.enable ticks) r = .error fault r') :
    r'.calls = r.calls ∧ r'.device.timer.armed = false ∧ r'.device.timer.elapsed = false ∧
      r'.device.agenda.deadlines = [] := by
  obtain ⟨n, timer, agenda, -, hok, -⟩ | ⟨_, timer, agenda, hfault, hpending, helapsed, -⟩ :=
    h.pending.enable_cases r.device.inLoop r.device.clock ticks
  · cases herror.symm.trans (ticking_run_ok hok)
  · obtain ⟨-, rfl⟩ := EStateM.Result.error.inj (herror.symm.trans (ticking_run_error hfault))
    refine ⟨rfl, ?_, helapsed, hpending.2⟩
    simp [TimerRehearsal.ticking, Timer.armed, hpending.1]

/-- What a timer shows and tells is determined by what began at it last, and by whom.

Whatever is played, by whichever listeners, the play has one account by the rules of the timer, and
so has everything that a listener does in its turn or someone does from outside, at any moment of
any history. By the rules each deed that arms the timer or calls it off is one onset, and each
countdown that runs out is one; there are no others. In every state that a history comes to, the
timer is armed if and only if the last onset is an arming that succeeded, and elapsed if and only
if it is a countdown that ran out; a countdown that runs out was armed by the onset before it and is
on time. The listeners told that a countdown has run out are, one by one, those who were registered
when the countdowns of the account ran out. A time that passes ends the countdown that is due by
then, once, and an arming that fails leaves no countdown behind and tells nobody. -/
theorem countdown_follows_history (rate : Int) (reading : Float) (inLoop : Bool)
    (scripts : List (Script TimerAction)) :
    (∀ steps n outcome, (playTimer rate reading inLoop scripts steps)[n]? = some outcome →
      ∃ log, Stirred (fresh rate reading inLoop scripts) log outcome.2 ∧
        Plays (fresh rate reading inLoop scripts) (steps.take (n + 1)) log outcome.2 ∧
        ∀ log' r', Plays (fresh rate reading inLoop scripts) (steps.take (n + 1)) log' r' →
          log' = log ∧ r' = outcome.2) ∧
    ∀ log r, Stirred (fresh rate reading inLoop scripts) log r →
      ¬(r.device.timer.armed = true ∧ r.device.timer.elapsed = true) ∧
      (r.device.timer.armed = true ↔
        ∃ start ticks, log.getLast? = some (.armed start ticks)) ∧
      (r.device.timer.elapsed = true ↔
        ∃ time audience, log.getLast? = some (.ranOut time audience)) ∧
      (∀ before time audience rest, log = before ++ .ranOut time audience :: rest →
        ∃ earlier start ticks, before = earlier ++ [.armed start ticks] ∧
          time = start + Timer.span ticks rate) ∧
      (∀ depth deeds, r.entriesLeft ≤ depth → ∃ began made outcome r',
        (Rehearsal.follow (perform (Rehearsal.answer noted perform depth)) deeds).result r =
          (outcome, r') ∧
        Does True deeds r began made outcome r' ∧
        (∀ began' made' outcome' r'', Does True deeds r began' made' outcome' r'' →
          began' = began) ∧
        Stirred r began r' ∧ heard r' = heard r + audiences began) ∧
      (∀ depth seconds, r.entriesLeft ≤ depth → ∃ began made r',
        perform (Rehearsal.answer noted perform depth) (.advance seconds) r =
          .ok ⟨⟩ (atTime (r.device.agenda.now + seconds) r') ∧
        Elapses True (r.device.agenda.now + seconds) r began made r' ∧
        Stirred r began r' ∧ heard r' = heard r + audiences began ∧
        ∀ earlier start ticks rest, log ++ began = earlier ++ .armed start ticks :: rest →
          (∀ onset ∈ rest, onset.isRanOut = true) →
          start + Timer.span ticks rate ≤ r.device.agenda.now + seconds →
          ∃ audience, rest = [.ranOut (start + Timer.span ticks rate) audience]) ∧
      (∀ tell ticks fault r', perform tell (.enable ticks) r = .error fault r' →
        r'.calls = r.calls ∧ r'.device.timer.armed = false ∧ r'.device.timer.elapsed = false ∧
          r'.device.agenda.deadlines = []) := by
  have hfresh := kept_fresh rate reading inLoop scripts
  refine ⟨fun steps n outcome houtcome => ?_, fun log r hrun => ?_⟩
  · obtain ⟨log, hplays⟩ := Plays.start.outcomes ⟨rate, [], hfresh⟩ houtcome
    rw [List.nil_append] at hplays
    refine ⟨log, hplays.stirred, hplays, fun log' r' hother => ?_⟩
    exact hother.unique hplays
  · have hkept : Kept rate log r := hfresh.stirred hrun
    have hsound : True → Sound r := fun _ => ⟨rate, log, hkept⟩
    refine ⟨hkept.not_armed_and_elapsed, hkept.pending.armed_iff.trans isSome_dueAfter, ?_,
      hkept.onTime, fun depth deeds hdepth => ?_, fun depth seconds hdepth => ?_,
      fun _ _ _ _ => hkept.enable_error⟩
    · rw [hkept.elapsed, ranOutLast_iff]
    · obtain ⟨began, made, outcome, r', hdoes, hresult⟩ :=
        (answer_keepsRules True depth).follow deeds r hsound hdepth
      have hleads := hdoes.leads
      exact ⟨began, made, outcome, r', hresult, hdoes, fun _ _ _ _ hother =>
        (hother.unique hdoes).1, hleads.stirred, by simpa using hleads.heard_eq⟩
    · obtain ⟨began, made, r', helapses, hresult⟩ :=
        (answer_keepsRules True depth).advance seconds r hsound hdepth
      have hleads := helapses.leads
      exact ⟨began, made, r', hresult, helapses, hleads.stirred, by simpa using hleads.heard_eq,
        fun _ _ _ _ hlog hrest hdue =>
          (hkept.stirred hleads.stirred).ranOut_of_over helapses.over hlog hrest hdue⟩

/-- A listener that arms the timer again when it has run out hears of both countdowns, and the
second is the last onset. -/
theorem countdown_follows_history_of_rearming :
    ∃ outcome ∈ playTimer 50 0 true [⟨"bell", [[.act (.enable (.int 3))]]⟩]
        [[.act (.register "bell"), .act (.enable (.int 5))], [.act (.advance 1)]],
      heard outcome.2 = {"bell", "bell"} ∧
      ∃ log, Plays (fresh 50 0 true [⟨"bell", [[.act (.enable (.int 3))]]⟩])
          [[.act (.register "bell"), .act (.enable (.int 5))], [.act (.advance 1)]] log outcome.2 ∧
        ∃ time audience, log.getLast? = some (.ranOut time audience) := by
  have htheorem := countdown_follows_history 50 0 true [⟨"bell", [[.act (.enable (.int 3))]]⟩]
  refine ⟨_, List.mem_cons_of_mem _ (List.mem_cons_self ..), by decide +kernel, ?_⟩
  obtain ⟨log, hlog, hplays, -⟩ := htheorem.1
    [[.act (.register "bell"), .act (.enable (.int 5))], [.act (.advance 1)]] 1 _ rfl
  exact ⟨log, hplays, (htheorem.2 log _ hlog).2.2.1.1 (by decide +kernel)⟩

end DigitRace.Script
