import DigitRace.Proofs.Cabinet.Happening
import Mathlib.Data.List.DropRight

/-!
# Marks in the journal

The journal tells what the game went through: it names every stage that is entered and
every crash. A run is marked by these, and by the times at which the countdown is called off
during a round.
-/

namespace DigitRace

/-- What counts of a run of the game. -/
inductive Mark where
  | entered (stage : Stage)
  | crash
  /-- The countdown was called off during a round. -/
  | disable
  deriving DecidableEq

/-- All stages. -/
def Stage.all : List Stage :=
  [demo, demoWaitRelease, countdown, playing, carLost, gameOverWaitRelease, scoreDisplay,
   scoreWaitRelease]

/-- The stage of a name. -/
def Stage.ofName? (name : List Char) : Option Stage :=
  all.find? fun stage => stage.name.toList = name

/-- The last word of a message. -/
def Record.lastWord (record : Record) : List Char :=
  record.message.toList.rtakeWhile (· ≠ ' ')

/-- What a record says of the game, if it says anything that counts. -/
def Record.mark? (record : Record) : Option Mark :=
  if record.level ≠ .debug then none
  else if record.source = "game" then (Stage.ofName? record.lastWord).map .entered
  else if record.source = "game_vm" ∧ "crash at ".toList.isPrefixOf record.message.toList then
    some .crash
  else none

/-- What follows the last element that fails a test is what holds it at the end. -/
theorem rtakeWhile_append_cons {α : Type} {test : α → Bool} {front back : List α} {a : α}
    (ha : test a = false) (hback : ∀ b ∈ back, test b = true) :
    (front ++ a :: back).rtakeWhile test = back := by
  have hreverse : ∀ b ∈ back.reverse, test b = true := by simpa using hback
  rw [List.rtakeWhile, List.reverse_append, List.reverse_cons, List.append_assoc,
    List.takeWhile_append_of_pos hreverse]
  simp [ha]

theorem Stage.ofName?_name (stage : Stage) : ofName? stage.name.toList = some stage := by
  cases stage <;> decide +kernel

theorem Stage.note_lastWord (last : Option Stage) (stage : Stage) :
    (stage.note last).lastWord = stage.name.toList := by
  have hname : stage.name.toList.all (· ≠ ' ') = true := by
    cases stage <;> decide +kernel
  have hmessage : ∃ front, (stage.note last).message.toList =
      front ++ ' ' :: stage.name.toList := by
    refine ⟨("state " ++ last.elim "None" Stage.name ++ " ->").toList, ?_⟩
    simp [Stage.note]
    rfl
  obtain ⟨front, hfront⟩ := hmessage
  rw [Record.lastWord, hfront]
  exact rtakeWhile_append_cons (by simp) (List.all_eq_true.mp hname)

theorem Stage.note_mark (last : Option Stage) (stage : Stage) :
    (stage.note last).mark? = some (.entered stage) := by
  have hlevel : (stage.note last).level = .debug := rfl
  have hsource : (stage.note last).source = "game" := rfl
  rw [Record.mark?, if_neg (by simp [hlevel]), if_pos hsource, note_lastWord, ofName?_name]
  rfl

/-! ## What the race writes down -/

theorem Race.driveNotes_marks (race : Race) : race.driveNotes.filterMap Record.mark? = [] := by
  cases hbar : race.arrived.bar?.isSome <;> simp [Race.driveNotes, hbar, Record.mark?]

/-- Of all that steering writes down, a crash counts. -/
theorem Race.steerNotes_marks (race : Race) :
    race.steerNotes.filterMap Record.mark? = if race.atJunction then [] else [.crash] := by
  cases hjunction : race.atJunction with
  | true =>
    have hdrive := race.turned.driveNotes_marks
    have hsteer (rest : List Char) :
        ("crash at ".toList.isPrefixOf ((toString "steer to ").toList ++ rest)) = false := rfl
    simp only [Race.steerNotes, hjunction, if_true]
    rw [List.filterMap_cons_none ?_, hdrive]
    simp only [Record.mark?, String.toList_append, List.append_assoc, hsteer]
    rfl
  | false =>
    have hprefix : "crash at ".toList <+: race.crashNote.message.toList := by
      simp only [Race.crashNote, String.toList_append, List.append_assoc]
      exact List.prefix_append _ _
    have hcrash : race.crashNote.mark? = some .crash := by
      have hlevel : race.crashNote.level = .debug := rfl
      have hsource : race.crashNote.source = "game_vm" := rfl
      rw [Record.mark?, if_neg (by simp [hlevel]), if_neg (by simp [hsource]),
        if_pos ⟨hsource, List.isPrefixOf_iff_prefix.mpr hprefix⟩]
    simp [Race.steerNotes, hjunction, hcrash]

/-! ## The marks of a run -/

namespace Cabinet

variable {ω : Type} {c c' : Cabinet ω}

/-- What counts of the records that one cabinet has and another has not. -/
def newMarks (before after : Cabinet ω) : List Mark :=
  (after.journal.toList.drop before.journal.size).filterMap Record.mark?

/-- What counts of a happening. -/
def marksOf (before : Cabinet ω) (happening : Happening) (after : Cabinet ω) : List Mark :=
  match happening, before.stage with
  | .disable, some .playing => .disable :: newMarks before after
  | _, _ => newMarks before after

theorem newMarks_same (h : c'.journal = c.journal) : newMarks c c' = [] := by
  rw [newMarks, h, List.drop_of_length_le (by simp), List.filterMap_nil]

theorem newMarks_append {records : List Record} (h : c'.journal = c.journal ++ records.toArray) :
    newMarks c c' = records.filterMap Record.mark? := by
  simp [newMarks, h]

theorem newMarks_push {record : Record} (h : c'.journal = c.journal.push record) :
    newMarks c c' = record.mark?.toList := by
  have hrecords : c'.journal = c.journal ++ [record].toArray := by simp [h]
  rw [newMarks_append hrecords]
  cases hmark : record.mark? <;> simp [hmark]

end Cabinet

end DigitRace
