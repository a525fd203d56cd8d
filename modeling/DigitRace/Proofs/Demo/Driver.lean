import DigitRace.Proofs.Demo.Step

/-!
# Runs of the demo

From the call of the demo on, every run keeps to what the demo does to the race, up to its answer,
as long as nobody else arms the timer. From the stretches that were noted on the way one reads
when the car was driven on, and the race tells how many junctions were taken.
-/

namespace DigitRace.Cabinet

variable {ω α : Type} {eye : Onlooker ω} {first c : Cabinet ω} {rate : Int} {stack : List Frame}
  {notes : List DemoNote}

/-! ## Runs -/

/-- A demo on a circuit that passes the check has what it needs. -/
theorem fit_of_check (hclocked : first.Clocked) (hwhole : first.race.circuit.Whole)
    (hcheck : first.race.circuit.check = .ok ()) : Fit first.timer.rate first :=
  ⟨hclocked, Circuit.drivable_of_check hwhole hcheck, rfl⟩

/-- The demo stands somewhere after every run that does not lead beyond it. -/
theorem Run.inDemo (hrun : Run eye.around (demoNotes stack.length) first notes c)
    (hcalled : Carried (.calling .demo) stack first) (hfit : Fit rate first)
    (hbeyond : .beyond ∉ notes) : Fit rate c ∧ InDemo rate stack notes c := by
  induction hrun with
  | start => exact ⟨hfit, .calling hcalled .demo (by simp) rfl⟩
  | next _ hhappens ih =>
    rw [List.mem_append, not_or] at hbeyond
    obtain ⟨hfit, hstands⟩ := ih hbeyond.1
    have hnext := hstands.next hfit hhappens hbeyond.2
    exact ⟨hnext.fit, hnext.stands⟩

/-- The next call that is due by a time, with what is noted of it. -/
def dueNoted (around : Surroundings ω) (noted : Cabinet ω → Happening → Cabinet ω → List α)
    (horizon : Rat) (c : Cabinet ω) : List α × Cabinet ω :=
  match c.active, c.agenda.next? horizon with
  | none, some (call, agenda) =>
    let after := perform around call { c with agenda }
    (noted c (.call call) after, after)
  | _, _ => ([], c)

theorem Run.dueNoted {around : Surroundings ω} {noted : Cabinet ω → Happening → Cabinet ω → List α}
    {notes : List α} (h : Run around noted first notes c) (horizon : Rat) :
    Run around noted first (notes ++ (dueNoted around noted horizon c).1)
      (dueNoted around noted horizon c).2 := by
  unfold Cabinet.dueNoted
  split
  · rename_i hactive hnext
    exact h.next (.call hactive hnext)
  · simpa using h

/-- The demo is called by nobody, for a race, with nobody to see it. -/
def demoCalled (race : Race) : Cabinet Unit :=
  { atRest race with tasks := #[{ state := .calling .demo }], active := some 0 }

theorem demoCalled_carried (race : Race) : Carried (.calling .demo) [] (demoCalled race) :=
  ⟨rfl, rfl, rfl, rfl, rfl⟩

/-- The text is called off as often as it waits, but for the last waits. -/
def textDeeds (waits : Nat) : List Deed :=
  .steps 10 :: (List.replicate waits [.disable, .steps 10]).flatten

/-! ## What was noted -/

theorem stretches_drove (stretches : List Stretch) (rest : List DemoNote) :
    DemoNote.stretches (stretches.map .drove ++ rest) = stretches ++ DemoNote.stretches rest := by
  simp [DemoNote.stretches, List.filterMap_append, List.filterMap_map]

/-- A demo that has driven over the stretches that were noted. -/
theorem Rode.noted {stretches : List Stretch} (h : Rode rate stretches c) :
    Rode rate (DemoNote.stretches (stretches.map .drove)) c := by
  simpa [DemoNote.stretches] using h

/-- What ends the drive is not a stretch. -/
theorem Rode.noted_end {stretches : List Stretch} (h : Rode rate stretches c) {last : DemoNote}
    (hlast : DemoNote.stretches [last] = []) :
    Rode rate (DemoNote.stretches (stretches.map .drove ++ [last])) c := by
  rwa [stretches_drove, hlast, List.append_nil]

theorem DemoEnd.rode {pressed : Bool} (h : DemoEnd rate c pressed notes) :
    DemoNote.stretches notes = [] ∨ Rode rate (DemoNote.stretches notes) c := by
  cases h with
  | text => exact .inl rfl
  | pressed hrode => exact .inr (hrode.noted_end rfl)
  | calledOff hrode => exact .inr (hrode.noted_end rfl)
  | last hrode => exact .inr hrode.noted

/-- A demo has not begun to drive, or all is known of its drive. -/
theorem InDemo.rode (h : InDemo rate stack notes c) :
    DemoNote.stretches notes = [] ∨ Rode rate (DemoNote.stretches notes) c := by
  have hpress (pressed : Bool) : DemoNote.stretches (DemoNote.ofPress pressed) = [] := by
    cases pressed <;> rfl
  cases h with
  | told _ _ _ _ hnotes => exact .inl (hnotes ▸ hpress _)
  | telling _ _ _ hnotes => exact .inl (hnotes ▸ hpress _)
  | driving _ _ hdriving _ hnotes => exact .inr (hnotes ▸ hdriving.toRode.noted)
  | ending _ _ hend => exact hend.rode
  | back _ hend => exact hend.rode
  | _ => exact .inl (by simp_all [DemoNote.stretches])

/-! ## The driver -/

/-- A circuit without a junction. -/
def plainRoad : Circuit := [Circuit.lit "a" 0, Circuit.back 0]

/-- The demo is called for the plain road. -/
def plainDemo : Cabinet Unit :=
  demoCalled { circuit := plainRoad, address := .int 0, current := Circuit.lit "a" 0 }

/-- The demo on the plain road, once it drives. -/
def plainBegun : List DemoNote × Cabinet Unit :=
  deedsNoted Onlooker.idle.around (demoNotes 0) (textDeeds 28) plainDemo

/-- The end of a countdown on the plain road, with what was noted before. -/
def plainOnward (drive : List DemoNote × Cabinet Unit) : List DemoNote × Cabinet Unit :=
  let next := dueNoted Onlooker.idle.around (demoNotes 0) 1 drive.2
  (drive.1 ++ next.1, next.2)

/-- The demo on the plain road, up to the second time that it drives on. -/
def plainDrive : List DemoNote × Cabinet Unit :=
  plainOnward (plainOnward plainBegun)

theorem plainOnward_run {drive : List DemoNote × Cabinet Unit}
    (h : Run Onlooker.idle.around (demoNotes 0) plainDemo drive.1 drive.2) :
    Run Onlooker.idle.around (demoNotes 0) plainDemo (plainOnward drive).1 (plainOnward drive).2 :=
  h.dueNoted 1

theorem plainDrive_run :
    Run Onlooker.idle.around (demoNotes 0) plainDemo plainDrive.1 plainDrive.2 := by
  have hbegun : Run Onlooker.idle.around (demoNotes 0) plainDemo plainBegun.1 plainBegun.2 :=
    Run.start.deedsNoted (textDeeds 28)
  exact plainOnward_run (plainOnward_run hbegun)

end DigitRace.Cabinet
