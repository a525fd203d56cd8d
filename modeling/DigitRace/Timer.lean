import DigitRace.Act
import DigitRace.Agenda
import DigitRace.Journal
import DigitRace.Value.Conversion

/-!
# The timer

A countdown in ticks. `enable` arms it, in place of any that is pending; when it runs
out, and when it is disabled, the listeners registered at that moment are told, one
after the other, and the failure of one is written down and does not concern the others.
Two readings, of ticks and of seconds, run beside it.
-/

namespace DigitRace

/-- Ticks in a second, unless a timer has another rate. -/
def ticksPerSecond : Nat := 50

/-- What a timer tells its listeners. -/
inductive TimerEvent where
  /-- The countdown has run out. -/
  | elapsed
  /-- The countdown was called off. -/
  | disabled
  deriving DecidableEq

/-- The event as a word. -/
def TimerEvent.name : TimerEvent → String
  | elapsed => "elapsed"
  | disabled => "disabled"

/-- Readings of a clock, and the whole number of ticks nearest to the span between two. -/
class Reading (τ : Type) where
  ticksBetween : (rate : Int) → (first last : τ) → Except Fault Int

/-- Fractions are subtracted and multiplied exactly. -/
instance : Reading Rat where
  ticksBetween rate first last := .ok (Decimal.nearest ((last - first) * (rate : Rat)))

/-- Doubles are subtracted and multiplied as doubles; only the result is rounded to a whole
number. -/
instance : Reading Float where
  ticksBetween rate first last :=
    match Decimal.ofInt? rate with
    | none => .error .tooLargeForDouble
    | some factor =>
      let span := (last - first) * factor
      if span.isNaN then .error .notANumber
      else if span.isInf then .error .infinite
      else .ok (Decimal.nearest (Decimal.exact span))

/-- A timer that reads a clock of type `τ` and has listeners of type `ι`. -/
structure Timer (τ ι : Type) where
  /-- Ticks in a second. -/
  rate : Int := ticksPerSecond
  listeners : List ι := []
  /-- The number of the deadline that ends the pending countdown. -/
  handle : Option Nat := none
  /-- The last countdown ran out, and none was armed or called off since. -/
  elapsed : Bool := false
  /-- Ticks of the last countdown. -/
  count : Nat := 0
  /-- The clock when the last countdown was armed. -/
  start : τ
  /-- The clock from which the free readings count. -/
  base : τ

namespace Timer

variable {σ τ ι κ : Type}

/-- A timer that was made when the clock showed `reading`. -/
def new (rate : Int) (reading : τ) : Timer τ ι :=
  { rate, start := reading, base := reading }

/-- The timer with one more listener; a listener that is registered twice is told twice. -/
def register (listener : ι) (timer : Timer τ ι) : Timer τ ι :=
  { timer with listeners := timer.listeners ++ [listener] }

/-- The timer without a listener. -/
def unregister [DecidableEq ι] (listener : ι) (timer : Timer τ ι) : Timer τ ι :=
  { timer with listeners := timer.listeners.filter (· ≠ listener) }

/-- Whether a countdown is pending. -/
def armed (timer : Timer τ ι) : Bool :=
  timer.handle.isSome

/-- The time that a number of ticks takes. The quotient has to be within the range of doubles. -/
def delay (count : Nat) (rate : Int) : Except Fault Rat :=
  if rate = 0 then .error .divisionByZero
  else if Decimal.overflowBound * rate.natAbs ≤ count then .error .quotientTooLarge
  else .ok ((count : Rat) / (rate : Rat))

/-- Calls a pending countdown off without telling anyone. -/
def clear : Act (Timer τ ι × Agenda κ) Unit :=
  modify fun (timer, agenda) =>
    ({ timer with handle := none, elapsed := false },
      match timer.handle with
      | some number => agenda.cancel number
      | none => agenda)

/-- Arms the countdown: `call` is made when the ticks are over. A pending countdown is gone even if
this fails, and the ticks are kept as soon as they are known. -/
def enable (inLoop : Bool) (reading : τ) (call : κ) (ticks : Value) :
    Act (Timer τ ι × Agenda κ) Unit := do
  clear
  let n ← ticks.whole
  modify fun (timer, agenda) => ({ timer with count := n.toNat }, agenda)
  if !inLoop then throw .noLoop
  let (timer, agenda) ← get
  let pause ← delay timer.count timer.rate
  set ({ timer with handle := some agenda.issued, start := reading },
    agenda.callLater pause call)

/-- The timer whose countdown has just run out. -/
def ranOut (timer : Timer τ ι) : Timer τ ι :=
  { timer with handle := none, elapsed := true }

/-- Tells every listener of an event. -/
def tellAll (tell : ι → Act σ Unit) (report : ι → Fault → Act σ Unit) (listeners : List ι) :
    Act σ Unit :=
  listeners.forM fun listener => tryCatch (tell listener) (report listener)

/-- The record of a listener that failed. -/
def failure (listener : String) (event : TimerEvent) (fault : Fault) : Record where
  level := .error
  source := "timer"
  message := s!"timer listener {listener} failed on {event.name}"
  fault := some fault

variable [Reading τ]

/-- Ticks since the countdown was armed. -/
def sinceStart (timer : Timer τ ι) (reading : τ) : Except Fault Int :=
  Reading.ticksBetween timer.rate timer.start reading

/-- Ticks that are left of the countdown by the clock, none once it is over. -/
def remainingTicks (timer : Timer τ ι) (reading : τ) : Except Fault Int := do
  let gone ← timer.sinceStart reading
  return if gone < timer.count then timer.count - gone else 0

/-- Ticks of the countdown that are gone by the clock, all of them once it is over. -/
def elapsedTicks (timer : Timer τ ι) (reading : τ) : Except Fault Int := do
  let gone ← timer.sinceStart reading
  return if gone < timer.count then gone else timer.count

/-- The timer whose free readings count from `reading`. -/
def resetClock (timer : Timer τ ι) (reading : τ) : Timer τ ι :=
  { timer with base := reading }

/-- The free reading in ticks, which begins again at 256. -/
def ticks (timer : Timer τ ι) (reading : τ) : Except Fault Int := do
  return (← Reading.ticksBetween timer.rate timer.base reading) % 256

/-- The free reading in seconds. -/
def seconds (timer : Timer τ ι) (reading : τ) : Except Fault Int :=
  Reading.ticksBetween 1 timer.base reading

end Timer

end DigitRace
