import DigitRace.Circuit.Code
import DigitRace.Main
import DigitRace.Scene
import DigitRace.Script.Display
import DigitRace.Script.Key
import DigitRace.Script.Timer
import DigitRace.Trial
import DigitRace.Window.Bench
import DigitRace.Proofs.Acts
import DigitRace.Proofs.Upkeep
import DigitRace.Proofs.Circuit.Landing
import DigitRace.Proofs.Segment.Canonical
import DigitRace.Proofs.Race.Sound
import DigitRace.Proofs.Cabinet.Onlooker
import DigitRace.Proofs.Race.Calls
import DigitRace.Proofs.Cabinet.Countdown
import DigitRace.Proofs.Cabinet.Carrying
import DigitRace.Proofs.Cabinet.Likewise
import DigitRace.Proofs.Cabinet.Play
import DigitRace.Proofs.Cabinet.Critic
import DigitRace.Proofs.Drive
import DigitRace.Proofs.Cabinet.Marks
import DigitRace.Proofs.Cabinet.Reacting
import DigitRace.Proofs.Course.Carry
import DigitRace.Proofs.Course.Order
import DigitRace.Proofs.Course.Run
import DigitRace.Proofs.Course.Sequence
import DigitRace.Proofs.Course.Vigil
import DigitRace.Proofs.Course.Objection
import DigitRace.Proofs.Race.Standing
import DigitRace.Proofs.Timer.Rehearsing
import DigitRace.Proofs.Timer.Announcing
import DigitRace.Proofs.Scene.Pace
import DigitRace.Proofs.Course.Afresh
import DigitRace.Proofs.Window.Redraw
import DigitRace.Proofs.Window.Edges
import DigitRace.Proofs.Session.Opening
import DigitRace.Proofs.Session.Mirror
import DigitRace.Proofs.Session.Closing
import DigitRace.Proofs.Circuit.Codec
import DigitRace.Proofs.Cabinet.Attendance
import DigitRace.Proofs.Cabinet.Entering
import DigitRace.Proofs.Cabinet.Parting
import DigitRace.Proofs.Cabinet.Crowd
import DigitRace.Proofs.Cabinet.Parked
import DigitRace.Proofs.Cabinet.Telling
import DigitRace.Proofs.Course.Ride
import DigitRace.Proofs.Course.Score
import DigitRace.Proofs.Course.Lit
import DigitRace.Proofs.Circuit.Exactness
import DigitRace.Proofs.Race.Arrival
import DigitRace.Proofs.Cabinet.Demo
import DigitRace.Proofs.Demo.Phase
import DigitRace.Proofs.Demo.Text
import DigitRace.Proofs.Demo.Drive
import DigitRace.Proofs.Demo.Step
import DigitRace.Proofs.Demo.Driver
import DigitRace.Proofs.Demo.Press
import DigitRace.Proofs.SelfTest.Keys
import DigitRace.Proofs.Screen.Text
import DigitRace.Proofs.Screen.Countdown
import DigitRace.Proofs.Scripts
import DigitRace.Proofs.Flash.Face
import DigitRace.Proofs.Flash.Step
import DigitRace.Proofs.Flash.Digit
import DigitRace.Proofs.Flash.Press
import DigitRace.Proofs.Key.Dispatch
import DigitRace.Proofs.Session.Shadowing
import DigitRace.Proofs.Circuit.Decoding
import DigitRace.Proofs.Screen.Lasting
import DigitRace.Proofs.Timer.Seconds
import DigitRace.Proofs.SelfTest.Polling
import DigitRace.Proofs.SelfTest.Counters
import DigitRace.Proofs.Window.Lifetime
import DigitRace.Proofs.Timer.Readings
import DigitRace.Proofs.Window.Layout
