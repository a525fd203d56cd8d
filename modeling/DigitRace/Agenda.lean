/-!
# The agenda

The agenda decides what is called next. Calls that are ready go first, in the order in
which they were made; when none is ready, time moves on to the earliest deadline, and of
several at one time the one that was set first is met. Time is exact.

An event loop that gathers the deadlines that are due behind the calls that are ready meets them
ahead of whatever those calls make ready. So where a deadline is due while something is ready, it
may also be met first, and which of the two happens is left open.
-/

namespace DigitRace

/-- A call that is to be made at a time. -/
structure Deadline (κ : Type) where
  due : Rat
  /-- The number under which the deadline can be cancelled. -/
  number : Nat
  call : κ

/-- Calls to be made, and the time. -/
structure Agenda (κ : Type) where
  now : Rat := 0
  /-- Calls to be made without delay, the first one in front. -/
  ready : List κ := []
  /-- Deadlines in the order in which they will be met. -/
  deadlines : List (Deadline κ) := []
  /-- How many deadlines were ever set. -/
  issued : Nat := 0

namespace Agenda

variable {κ : Type}

/-- Places a new deadline behind all that are not due later. -/
def place (deadline : Deadline κ) : List (Deadline κ) → List (Deadline κ)
  | [] => [deadline]
  | d :: rest =>
    if deadline.due < d.due then deadline :: d :: rest else d :: place deadline rest

/-- Makes a call ready, behind those that are. -/
def callSoon (call : κ) (agenda : Agenda κ) : Agenda κ :=
  { agenda with ready := agenda.ready ++ [call] }

/-- Sets a deadline after a delay; a negative delay counts as none. -/
def callLater (delay : Rat) (call : κ) (agenda : Agenda κ) : Agenda κ :=
  { agenda with
    deadlines :=
      place ⟨agenda.now + (if delay < 0 then 0 else delay), agenda.issued, call⟩ agenda.deadlines
    issued := agenda.issued + 1 }

/-- Drops the deadline with a number. -/
def cancel (number : Nat) (agenda : Agenda κ) : Agenda κ :=
  { agenda with deadlines := agenda.deadlines.filter fun d => d.number != number }

/-- The next call that is ready or due at the latest at `horizon`, and the agenda without it. -/
def next? (horizon : Rat) (agenda : Agenda κ) : Option (κ × Agenda κ) :=
  match agenda.ready with
  | call :: rest => some (call, { agenda with ready := rest })
  | [] => match agenda.deadlines with
    | [] => none
    | d :: rest =>
      if d.due ≤ horizon then some (d.call, { agenda with now := d.due, deadlines := rest })
      else none

/-- The first deadline, if it is due already, met ahead of what is ready, and the agenda without
it. -/
def overdue? (agenda : Agenda κ) : Option (κ × Agenda κ) :=
  match agenda.deadlines with
  | [] => none
  | d :: rest =>
    if d.due ≤ agenda.now then some (d.call, { agenda with deadlines := rest }) else none

/-! ## The next call -/

variable {agenda agenda' : Agenda κ} {call call' : κ} {horizon horizon' : Rat}

/-- The next call is what is ready first, or if nothing is, the first deadline is met. -/
theorem next?_cases (h : agenda.next? horizon = some (call, agenda')) :
    (∃ rest, agenda.ready = call :: rest ∧ agenda' = { agenda with ready := rest }) ∨
      ∃ deadline rest, agenda.ready = [] ∧ agenda.deadlines = deadline :: rest ∧
        deadline.due ≤ horizon ∧ call = deadline.call ∧
        agenda' = { agenda with now := deadline.due, deadlines := rest } := by
  unfold next? at h
  split at h
  · rename_i hready
    obtain ⟨rfl, rfl⟩ := Prod.mk.inj (Option.some.inj h)
    exact .inl ⟨_, hready, rfl⟩
  · rename_i hready
    split at h
    · cases h
    · rename_i hdeadlines
      split at h
      · rename_i hdue
        obtain ⟨rfl, rfl⟩ := Prod.mk.inj (Option.some.inj h)
        exact .inr ⟨_, _, hready, hdeadlines, hdue, rfl, rfl⟩
      · cases h

/-- What is ready goes first. -/
theorem next?_ready {rest : List κ} (hready : agenda.ready = call :: rest)
    (h : agenda.next? horizon = some (call', agenda')) :
    call' = call ∧ agenda' = { agenda with ready := rest } := by
  simp only [next?, hready, Option.some.injEq, Prod.mk.injEq] at h
  exact ⟨h.1.symm, h.2.symm⟩

/-- The next call is the same by every time at which there is one. -/
theorem next?_unique {next next' : κ × Agenda κ} (h : agenda.next? horizon = some next)
    (h' : agenda.next? horizon' = some next') : next = next' := by
  rcases next?_cases h with ⟨rest, hready, hrest⟩ | ⟨d, rest, hready, hdeadlines, -, hcall, hrest⟩
  · obtain ⟨hcall', hrest'⟩ := next?_ready hready h'
    exact Prod.ext hcall'.symm (hrest.trans hrest'.symm)
  · rcases next?_cases h' with ⟨_, hready', -⟩ | ⟨d', rest', -, hdeadlines', -, hcall', hrest'⟩
    · cases hready.symm.trans hready'
    · obtain ⟨rfl, rfl⟩ := List.cons.inj (hdeadlines.symm.trans hdeadlines')
      exact Prod.ext (hcall.trans hcall'.symm) (hrest.trans hrest'.symm)

end Agenda

end DigitRace
