import DigitRace.Proofs.Acts
import DigitRace.Script.Timer
import Mathlib.Data.Rat.Defs
import Mathlib.Algebra.Order.Field.Rat
import Mathlib.Tactic.SplitIfs

/-!
# The history of a countdown

A timer is armed or called off by whoever likes, from outside or from within a listener that
is being told, and its countdown runs out. What began at the timer, in the order in which it
began, determines what the timer shows: it is armed if the last onset is an arming that
succeeded, and elapsed if it is a countdown that ran out. A countdown that runs out is always
the one that was armed last, at the time for which it was armed, with no other onset between.
-/

namespace DigitRace

/-! ## The pending countdown -/

namespace Timer

variable {τ ι κ : Type} {call : κ} {due : Option Rat} {timer : Timer τ ι} {agenda : Agenda κ}

/-- The time that a number of ticks takes; a negative number counts as none, and so does a
negative time. -/
def span (ticks : Int) (rate : Int) : Rat :=
  max 0 ((ticks.toNat : Rat) / rate)

/-- The countdown that is pending ends at `due`, or none is pending. The agenda holds its deadline
and no other. -/
def Pending (call : κ) (due : Option Rat) (timer : Timer τ ι) (agenda : Agenda κ) : Prop :=
  match due with
  | none => timer.handle = none ∧ agenda.deadlines = []
  | some due => ∃ number, timer.handle = some number ∧ agenda.deadlines = [⟨due, number, call⟩]

theorem Pending.armed_iff (h : Pending call due timer agenda) :
    timer.armed = true ↔ due.isSome = true := by
  cases due with
  | none => simp [armed, h.1]
  | some due =>
    obtain ⟨number, hhandle, -⟩ := h
    simp [armed, hhandle]

/-- Calling the countdown off leaves nothing pending. -/
theorem Pending.clear_apply (h : Pending call due timer agenda) :
    clear (timer, agenda) = .ok ⟨⟩
      ({ timer with handle := none, elapsed := false }, { agenda with deadlines := [] }) := by
  cases due with
  | none => simp [clear, h.1, ← h.2]
  | some due =>
    obtain ⟨number, hhandle, hdeadlines⟩ := h
    simp [clear, Agenda.cancel, hhandle, hdeadlines]

/-- Arming succeeds and leaves the countdown of these ticks pending, or it fails and leaves nothing
pending. -/
theorem Pending.enable_cases (h : Pending call due timer agenda) (inLoop : Bool) (reading : τ)
    (ticks : Value) :
    (∃ n timer' agenda', ticks.whole = .ok n ∧
        enable inLoop reading call ticks (timer, agenda) = .ok ⟨⟩ (timer', agenda') ∧
        Pending call (some (agenda.now + span n timer.rate)) timer' agenda' ∧
        timer'.elapsed = false ∧ timer'.rate = timer.rate ∧ agenda'.ready = agenda.ready ∧
        agenda'.now = agenda.now) ∨
      ∃ fault timer' agenda',
        enable inLoop reading call ticks (timer, agenda) = .error fault (timer', agenda') ∧
        Pending call none timer' agenda' ∧
        timer'.elapsed = false ∧ timer'.rate = timer.rate ∧ agenda'.ready = agenda.ready ∧
        agenda'.now = agenda.now := by
  have hclear := h.clear_apply
  let off : Timer τ ι := { timer with handle := none, elapsed := false }
  let bare : Agenda κ := { agenda with deadlines := [] }
  cases hwhole : ticks.whole with
  | error fault =>
    exact .inr ⟨fault, off, bare, by simp [enable, hclear, hwhole, off, bare],
      ⟨rfl, rfl⟩, rfl, rfl, rfl, rfl⟩
  | ok n =>
    cases inLoop with
    | false =>
      exact .inr ⟨.noLoop, { off with count := n.toNat }, bare,
        by simp [enable, hclear, hwhole, off, bare], ⟨rfl, rfl⟩, rfl, rfl, rfl, rfl⟩
    | true =>
      cases hdelay : delay n.toNat timer.rate with
      | error fault =>
        exact .inr ⟨fault, { off with count := n.toNat }, bare,
          by simp [enable, hclear, hwhole, hdelay, off, bare], ⟨rfl, rfl⟩, rfl, rfl, rfl, rfl⟩
      | ok pause =>
        have hpause : (if pause < 0 then 0 else pause) = span n timer.rate := by
          have hquotient : pause = (n.toNat : Rat) / (timer.rate : Rat) := by
            unfold delay at hdelay
            split_ifs at hdelay
            exact (Except.ok.inj hdelay).symm
          rw [span, ← hquotient, max_def]
          split_ifs <;> grind
        refine .inl ⟨n,
          { off with count := n.toNat, handle := some agenda.issued, start := reading },
          bare.callLater pause call, rfl, by simp [enable, hclear, hwhole, hdelay, off, bare],
          ?_, rfl, rfl, rfl, rfl⟩
        exact ⟨agenda.issued, rfl, by simp [Agenda.callLater, Agenda.place, hpause, bare]⟩

end Timer

namespace Script

open TimerRehearsal (ticking)

/-! ## Onsets -/

theorem ticking_run_ok {α : Type} {act : Act (Timer Float String × Agenda Unit) α} {a : α}
    {r : TimerRehearsal} {pair : Timer Float String × Agenda Unit}
    (h : act (r.device.timer, r.device.agenda) = .ok a pair) :
    ticking.run act r = .ok a (ticking.put pair r) := by
  rw [Act.run_apply]
  simp only [ticking, h]

theorem ticking_run_error {α : Type} {act : Act (Timer Float String × Agenda Unit) α}
    {fault : Fault} {r : TimerRehearsal} {pair : Timer Float String × Agenda Unit}
    (h : act (r.device.timer, r.device.agenda) = .error fault pair) :
    ticking.run act r = .error fault (ticking.put pair r) := by
  rw [Act.run_apply]
  simp only [ticking, h]

/-- What begins at a timer. -/
inductive Onset where
  /-- A countdown of a number of ticks was armed. -/
  | armed (time : Rat) (ticks : Int)
  /-- A countdown was to be armed, and was not. -/
  | refused (time : Rat)
  /-- The countdown was called off. -/
  | disabled (time : Rat)
  /-- The countdown ran out, before the listeners of that moment. -/
  | ranOut (time : Rat) (audience : List String)

namespace Onset

/-- When the countdown ends that an onset has armed. -/
def due? (rate : Int) : Onset → Option Rat
  | armed time ticks => some (time + Timer.span ticks rate)
  | _ => none

/-- Whether a countdown ran out. -/
def isRanOut : Onset → Bool
  | ranOut _ _ => true
  | _ => false

/-- The listeners that a countdown ran out before. -/
def audience : Onset → List String
  | ranOut _ audience => audience
  | _ => []

end Onset

/-- When the countdown ends that is pending after a history. -/
def dueAfter (rate : Int) (log : List Onset) : Option Rat :=
  log.getLast?.bind (Onset.due? rate)

/-- Whether the last onset of a history is that a countdown ran out. -/
def ranOutLast (log : List Onset) : Bool :=
  log.getLast?.any Onset.isRanOut

/-- A countdown runs out when it is due, and nothing began at the timer since it was armed. -/
def RunsOutOnTime (rate : Int) (log : List Onset) : Prop :=
  ∀ before time audience after, log = before ++ .ranOut time audience :: after →
    ∃ earlier start ticks,
      before = earlier ++ [.armed start ticks] ∧ time = start + Timer.span ticks rate

variable {rate : Int} {log : List Onset} {onset : Onset}

@[simp] theorem dueAfter_concat : dueAfter rate (log ++ [onset]) = onset.due? rate := by
  simp [dueAfter]

@[simp] theorem ranOutLast_concat : ranOutLast (log ++ [onset]) = onset.isRanOut := by
  simp [ranOutLast]

theorem dueAfter_eq_some {due : Rat} (h : dueAfter rate log = some due) :
    ∃ earlier start ticks,
      log = earlier ++ [.armed start ticks] ∧ due = start + Timer.span ticks rate := by
  obtain rfl | ⟨earlier, onset, rfl⟩ := log.eq_nil_or_concat
  · cases h
  · rw [List.concat_eq_append, dueAfter_concat] at h
    cases onset with
    | armed start ticks => exact ⟨earlier, start, ticks, by simp, (Option.some.inj h).symm⟩
    | refused | disabled | ranOut => cases h

theorem isSome_dueAfter :
    (dueAfter rate log).isSome = true ↔
      ∃ start ticks, log.getLast? = some (.armed start ticks) := by
  obtain rfl | ⟨earlier, onset, rfl⟩ := log.eq_nil_or_concat
  · simp [dueAfter]
  · rw [List.concat_eq_append, dueAfter_concat, List.getLast?_concat]
    cases onset <;> simp [Onset.due?]

theorem ranOutLast_iff :
    ranOutLast log = true ↔ ∃ time audience, log.getLast? = some (.ranOut time audience) := by
  obtain rfl | ⟨earlier, onset, rfl⟩ := log.eq_nil_or_concat
  · simp [ranOutLast]
  · rw [List.concat_eq_append, ranOutLast_concat, List.getLast?_concat]
    cases onset <;> simp [Onset.isRanOut]

/-- One more onset leaves a history on time if it is not a countdown that runs out too early, too
late or unarmed. -/
theorem RunsOutOnTime.concat (h : RunsOutOnTime rate log)
    (hnew : ∀ time audience, onset = .ranOut time audience → dueAfter rate log = some time) :
    RunsOutOnTime rate (log ++ [onset]) := by
  intro before time audience after hlog
  obtain rfl | ⟨after, last, rfl⟩ := after.eq_nil_or_concat
  · obtain ⟨rfl, hlast⟩ := List.append_inj' hlog rfl
    exact dueAfter_eq_some (hnew time audience (List.singleton_inj.1 hlast))
  · rw [List.concat_eq_append, ← List.cons_append, ← List.append_assoc] at hlog
    exact h before time audience after (List.append_inj' hlog rfl).1

/-- After an arming that was not followed by another or by a calling off, nothing began but that
this countdown ran out. -/
theorem RunsOutOnTime.rest_eq (h : RunsOutOnTime rate log) {earlier rest : List Onset} {start : Rat}
    {ticks : Int} (hlog : log = earlier ++ .armed start ticks :: rest)
    (hrest : ∀ onset ∈ rest, onset.isRanOut = true) :
    rest = [] ∨ ∃ audience, rest = [.ranOut (start + Timer.span ticks rate) audience] := by
  cases rest with
  | nil => exact .inl rfl
  | cons first more =>
    cases first with
    | ranOut time audience =>
      obtain ⟨earlier', start', ticks', hbefore, rfl⟩ :=
        h (earlier ++ [.armed start ticks]) time audience more (by simp [hlog])
      obtain ⟨-, harmed⟩ := List.append_inj' hbefore rfl
      obtain ⟨rfl, rfl⟩ : start = start' ∧ ticks = ticks' := by simpa using harmed
      cases more with
      | nil => exact .inr ⟨audience, rfl⟩
      | cons second more =>
        -- a second countdown that runs out would have been armed in between
        cases second with
        | ranOut time' audience' =>
          obtain ⟨_, _, _, hbetween, -⟩ :=
            h (earlier ++ [.armed start ticks, .ranOut (start + Timer.span ticks rate) audience])
              time' audience' more (by simp [hlog])
          rw [show earlier ++ [.armed start ticks, .ranOut (start + Timer.span ticks rate) audience]
            = (earlier ++ [.armed start ticks]) ++
              [.ranOut (start + Timer.span ticks rate) audience] by simp] at hbetween
          simpa using (List.append_inj' hbetween rfl).2
        | armed | refused | disabled => simp [Onset.isRanOut] at hrest
    | armed | refused | disabled => simp [Onset.isRanOut] at hrest

/-! ## What happens to a timer -/

/-- Something happens to a rehearsal of a timer, and what begins at the timer by it. -/
inductive Stirs (r : TimerRehearsal) : List Onset → TimerRehearsal → Prop where
  /-- Something that does not concern the countdown. -/
  | apart {r' : TimerRehearsal} (hhandle : r'.device.timer.handle = r.device.timer.handle)
      (helapsed : r'.device.timer.elapsed = r.device.timer.elapsed)
      (hrate : r'.device.timer.rate = r.device.timer.rate)
      (hagenda : r'.device.agenda = r.device.agenda) : Stirs r [] r'
  /-- The loop goes on to another time. -/
  | passes (now : Rat) :
      Stirs r [] (ticking.put (r.device.timer, { r.device.agenda with now }) r)
  | armed {ticks : Value} {n : Int} {r' : TimerRehearsal} (hwhole : ticks.whole = .ok n)
      (henable : ticking.run (Timer.enable r.device.inLoop r.device.clock () ticks) r =
        .ok ⟨⟩ r') : Stirs r [.armed r.device.agenda.now n] r'
  | refused {ticks : Value} {fault : Fault} {r' : TimerRehearsal}
      (henable : ticking.run (Timer.enable r.device.inLoop r.device.clock () ticks) r =
        .error fault r') : Stirs r [.refused r.device.agenda.now] r'
  | disabled {r' : TimerRehearsal} (hclear : ticking.run Timer.clear r = .ok ⟨⟩ r') :
      Stirs r [.disabled r.device.agenda.now] r'
  | ranOut {horizon : Rat} {agenda : Agenda Unit}
      (hnext : r.device.agenda.next? horizon = some ((), agenda)) :
      Stirs r [.ranOut agenda.now r.device.timer.listeners]
        (ticking.put (r.device.timer.ranOut, agenda) r)

/-- The history of a rehearsal since it began as `first`. -/
inductive Stirred (first : TimerRehearsal) : List Onset → TimerRehearsal → Prop where
  | refl : Stirred first [] first
  | next {log new : List Onset} {r r' : TimerRehearsal} (hpast : Stirred first log r)
      (hnow : Stirs r new r') : Stirred first (log ++ new) r'

theorem Stirs.stirred {r r' : TimerRehearsal} {new : List Onset} (h : Stirs r new r') :
    Stirred r new r' := by
  simpa using Stirred.refl.next h

theorem Stirred.trans {r₁ r₂ r₃ : TimerRehearsal} {first later : List Onset}
    (h : Stirred r₁ first r₂) (h' : Stirred r₂ later r₃) : Stirred r₁ (first ++ later) r₃ := by
  induction h' with
  | refl => simpa using h
  | next _ hnow ih => rw [← List.append_assoc]; exact ih.next hnow

/-! ## What the timer shows -/

/-- The timer shows what its history says. -/
structure Kept (rate : Int) (log : List Onset) (r : TimerRehearsal) : Prop where
  atRate : r.device.timer.rate = rate
  idle : r.device.agenda.ready = []
  pending : Timer.Pending () (dueAfter rate log) r.device.timer r.device.agenda
  elapsed : r.device.timer.elapsed = ranOutLast log
  onTime : RunsOutOnTime rate log

namespace Kept

variable {r r' : TimerRehearsal} {new : List Onset}

/-- A countdown that runs out is the pending one, at its time. -/
theorem next?_eq (h : Kept rate log r) {horizon : Rat} {agenda : Agenda Unit}
    (hnext : r.device.agenda.next? horizon = some ((), agenda)) :
    dueAfter rate log = some agenda.now ∧ agenda.now ≤ horizon ∧ agenda.deadlines = [] ∧
      agenda.ready = [] := by
  have hpending := h.pending
  rcases Agenda.next?_cases hnext with ⟨_, hready, -⟩ | ⟨d, rest, hready, hfirst, hdue, -, rfl⟩
  · cases h.idle.symm.trans hready
  · cases hlast : dueAfter rate log with
    | none =>
      rw [hlast] at hpending
      cases hpending.2.symm.trans hfirst
    | some due =>
      rw [hlast] at hpending
      obtain ⟨number, -, hdeadlines⟩ := hpending
      obtain ⟨rfl, rfl⟩ := List.cons.inj (hdeadlines.symm.trans hfirst)
      exact ⟨rfl, hdue, rfl, hready⟩

/-- No countdown runs out by `horizon` if and only if none is pending that is due by then. -/
theorem next?_eq_none_iff (h : Kept rate log r) {horizon : Rat} :
    r.device.agenda.next? horizon = none ↔ ∀ due ∈ dueAfter rate log, horizon < due := by
  have hpending := h.pending
  unfold Agenda.next?
  rw [h.idle]
  cases hdue : dueAfter rate log with
  | none =>
    rw [hdue] at hpending
    simp [hpending.2]
  | some due =>
    rw [hdue] at hpending
    obtain ⟨number, -, hdeadlines⟩ := hpending
    simp [hdeadlines]

/-- Whatever happens to a timer, it goes on to show what its history says. -/
theorem stirs (h : Kept rate log r) (hnow : Stirs r new r') : Kept rate (log ++ new) r' := by
  cases hnow with
  | apart hhandle helapsed hrate hagenda =>
    rw [List.append_nil]
    refine ⟨hrate.trans h.atRate, hagenda ▸ h.idle, ?_, helapsed.trans h.elapsed, h.onTime⟩
    have hpending := h.pending
    unfold Timer.Pending at hpending ⊢
    rwa [hhandle, hagenda]
  | passes now =>
    rw [List.append_nil]
    exact ⟨h.atRate, h.idle, h.pending, h.elapsed, h.onTime⟩
  | @armed ticks n _ hwhole henable =>
    obtain ⟨n', timer, agenda, hwhole', hok, hpending, helapsed, hrate, hready, -⟩ |
        ⟨_, timer, agenda, herror, -⟩ :=
      h.pending.enable_cases r.device.inLoop r.device.clock ticks
    · obtain rfl := Except.ok.inj (hwhole.symm.trans hwhole')
      obtain ⟨-, rfl⟩ := EStateM.Result.ok.inj (henable.symm.trans (ticking_run_ok hok))
      refine ⟨hrate.trans h.atRate, hready.trans h.idle, ?_, ?_, h.onTime.concat nofun⟩
      · rw [dueAfter_concat, Onset.due?, ← h.atRate]
        exact hpending
      · rw [ranOutLast_concat]
        exact helapsed
    · cases henable.symm.trans (ticking_run_error herror)
  | @refused ticks fault _ henable =>
    obtain ⟨n', timer, agenda, hwhole', hok, -⟩ |
        ⟨_, timer, agenda, herror, hpending, helapsed, hrate, hready, -⟩ :=
      h.pending.enable_cases r.device.inLoop r.device.clock ticks
    · cases henable.symm.trans (ticking_run_ok hok)
    · obtain ⟨-, rfl⟩ := EStateM.Result.error.inj (henable.symm.trans (ticking_run_error herror))
      refine ⟨hrate.trans h.atRate, hready.trans h.idle, ?_, ?_, h.onTime.concat nofun⟩
      · rw [dueAfter_concat]
        exact hpending
      · rw [ranOutLast_concat]
        exact helapsed
  | disabled hclear =>
    obtain ⟨-, rfl⟩ :=
      EStateM.Result.ok.inj (hclear.symm.trans (ticking_run_ok h.pending.clear_apply))
    refine ⟨h.atRate, h.idle, ?_, ?_, h.onTime.concat nofun⟩
    · rw [dueAfter_concat]
      exact ⟨rfl, rfl⟩
    · rw [ranOutLast_concat]
      rfl
  | ranOut hnext =>
    obtain ⟨hdue, -, hdeadlines, hready⟩ := h.next?_eq hnext
    refine ⟨h.atRate, hready, ?_, ?_, h.onTime.concat ?_⟩
    · rw [dueAfter_concat]
      exact ⟨rfl, hdeadlines⟩
    · rw [ranOutLast_concat]
      rfl
    · rintro time audience ⟨⟩
      exact hdue

/-- A timer shows what its history says all along. -/
theorem stirred {first : List Onset} (h : Kept rate first r) (hrun : Stirred r log r') :
    Kept rate (first ++ log) r' := by
  induction hrun with
  | refl => rwa [List.append_nil]
  | next _ hnow ih => rw [← List.append_assoc]; exact ih.stirs hnow

/-- An armed timer has not elapsed. -/
theorem not_armed_and_elapsed (h : Kept rate log r) :
    ¬(r.device.timer.armed = true ∧ r.device.timer.elapsed = true) := by
  rw [h.pending.armed_iff, h.elapsed, isSome_dueAfter, ranOutLast_iff]
  rintro ⟨⟨start, ticks, harmed⟩, time, audience, hranOut⟩
  cases harmed.symm.trans hranOut

end Kept

/-- The timer shows what some history says. -/
def Sound (r : TimerRehearsal) : Prop :=
  ∃ rate log, Kept rate log r

theorem Sound.stirred {r r' : TimerRehearsal} (h : Sound r) (hrun : Stirred r log r') :
    Sound r' := by
  obtain ⟨rate, past, hkept⟩ := h
  exact ⟨rate, past ++ log, hkept.stirred hrun⟩

/-- A rehearsal before anything has happened. -/
def fresh (rate : Int) (reading : Float) (inLoop : Bool) (scripts : List (Script TimerAction)) :
    TimerRehearsal :=
  { device := { timer := Timer.new rate reading, clock := reading, inLoop }, scripts }

theorem kept_fresh (rate : Int) (reading : Float) (inLoop : Bool)
    (scripts : List (Script TimerAction)) : Kept rate [] (fresh rate reading inLoop scripts) :=
  ⟨rfl, rfl, ⟨rfl, rfl⟩, rfl, fun before time audience after h => by simp at h⟩

end Script

end DigitRace
