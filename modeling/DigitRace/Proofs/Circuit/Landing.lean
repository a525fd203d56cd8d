import DigitRace.Circuit.Check
import DigitRace.Circuit.Track
import Mathlib.Data.Fintype.Card

/-!
# Where jumps land

A circuit that passes the check and whose targets are whole numbers is drivable: every
entry is sound, every target lies within the circuit, no light stands at the end, and from
every address jumps lead to an instruction that holds the car. Such a landing is unique,
and the addresses on the way to it are different, so there are fewer jumps than
instructions.
-/

namespace DigitRace

/-- Whether the car stays on an instruction, which it does unless the instruction is a jump. -/
def Instruction.Holds (i : Instruction) : Prop :=
  ∀ target, i ≠ .jump target

namespace Circuit

/-- All targets and branches are whole numbers. -/
structure Whole (circuit : Circuit) : Prop where
  target : ∀ {target}, .jump target ∈ circuit → ∃ n : Int, target = .int n
  branch : ∀ {segment branch}, .light segment branch ∈ circuit → ∃ n : Int, branch = .int n

/-- From an address, so many jumps lead to the address where the car is held. -/
inductive Lands (circuit : Circuit) : Nat → Nat → Nat → Prop
  | held {n : Nat} {i : Instruction} : circuit[n]? = some i → i.Holds → Lands circuit n 0 n
  | jump {n target jumps stop : Nat} : circuit[n]? = some (.jump (.int target)) →
      Lands circuit target jumps stop → Lands circuit n (jumps + 1) stop

/-- What a car can be sent on: sound entries, and jumps that end. -/
structure Drivable (circuit : Circuit) : Prop where
  pos : 0 < circuit.length
  /-- A jump leads into the circuit. -/
  jump : ∀ {n : Nat} {target : Value}, circuit[n]? = some (.jump target) →
    ∃ m : Nat, target = .int m ∧ m < circuit.length
  /-- A light lights one bar, has a successor, and branches into the circuit. -/
  light : ∀ {n : Nat} {segment branch : Value}, circuit[n]? = some (.light segment branch) →
    (∃ bar, segment = .text bar ∧ Segment.isBar (.text bar) = true) ∧ n + 1 < circuit.length ∧
      ∃ m : Nat, branch = .int m ∧ m < circuit.length
  lands : ∀ {n : Nat}, n < circuit.length → ∃ jumps stop, Lands circuit n jumps stop

variable {circuit : Circuit}

/-! ## Landings -/

/-- The car is held within the circuit, on an instruction that holds it. -/
theorem Lands.stop_holds {n jumps stop : Nat} (h : Lands circuit n jumps stop) :
    ∃ i, circuit[stop]? = some i ∧ i.Holds := by
  induction h with
  | held hi hholds => exact ⟨_, hi, hholds⟩
  | jump _ _ ih => exact ih

theorem Lands.lt_length {n jumps stop : Nat} (h : Lands circuit n jumps stop) :
    n < circuit.length := by
  cases h with
  | held hi => exact (List.getElem?_eq_some_iff.mp hi).1
  | jump hi => exact (List.getElem?_eq_some_iff.mp hi).1

/-- From one address the car is held at one address only, after one number of jumps. -/
theorem Lands.unique {n jumps stop jumps' stop' : Nat} (h : Lands circuit n jumps stop)
    (h' : Lands circuit n jumps' stop') : jumps = jumps' ∧ stop = stop' := by
  induction h generalizing jumps' with
  | held hi hholds =>
    cases h' with
    | held => exact ⟨rfl, rfl⟩
    | jump hj =>
      rw [hi, Option.some.injEq] at hj
      exact absurd hj (hholds _)
  | jump hi _ ih =>
    cases h' with
    | held hj hholds =>
      rw [hi, Option.some.injEq] at hj
      exact absurd hj.symm (hholds _)
    | jump hj hrest =>
      have hsame : _ = _ := hi.symm.trans hj
      simp only [Option.some.injEq, Instruction.jump.injEq, Value.int.injEq,
        Int.natCast_inj] at hsame
      subst hsame
      obtain ⟨rfl, rfl⟩ := ih hrest
      exact ⟨rfl, rfl⟩

/-- On the way to a landing every smaller number of jumps is left over somewhere. -/
theorem Lands.exists_of_le {n jumps stop k : Nat} (h : Lands circuit n jumps stop)
    (hk : k ≤ jumps) : ∃ m, Lands circuit m k stop := by
  induction h with
  | @held n i hi hholds =>
    obtain rfl : k = 0 := by omega
    exact ⟨n, .held hi hholds⟩
  | @jump n target jumps stop hi hrest ih =>
    by_cases hlast : k = jumps + 1
    · exact ⟨n, hlast ▸ .jump hi hrest⟩
    · exact ih (by omega)

/-- A landing takes fewer jumps than the circuit has instructions: two addresses with the same
number of jumps left would have the same landing, so all addresses on the way differ. -/
theorem Lands.jumps_lt_length {n jumps stop : Nat} (h : Lands circuit n jumps stop) :
    jumps < circuit.length := by
  choose place hplace using fun k : Fin (jumps + 1) =>
    h.exists_of_le (Nat.le_of_lt_succ k.isLt)
  let visit : Fin (jumps + 1) → Fin circuit.length :=
    fun k => ⟨place k, (hplace k).lt_length⟩
  have hvisit : Function.Injective visit := by
    intro k l hkl
    have hsame : place k = place l := by simpa [visit] using hkl
    have hl := hplace l
    rw [← hsame] at hl
    exact Fin.ext ((hplace k).unique hl).1
  have hcard := Fintype.card_le_of_injective visit hvisit
  simp only [Fintype.card_fin] at hcard
  omega

/-! ## The check -/

private theorem checkTarget_int {size address : Nat} {n : Int}
    (h : checkTarget size address (.int n) = .ok ()) : ∃ m : Nat, n = m ∧ m < size := by
  have hrange : (0 : Rat) ≤ (n : Rat) ∧ (n : Rat) < (size : Rat) := by
    by_contra hout
    simp only [checkTarget, Value.number_int, bind, Except.bind, if_neg hout, reduceCtorEq] at h
  have hlower : 0 ≤ n := by exact_mod_cast hrange.1
  have hupper : n < (size : Int) := by exact_mod_cast hrange.2
  exact ⟨n.toNat, by omega, by omega⟩

private theorem checkFrom_ok {size address : Nat} {rest : Circuit}
    (h : checkFrom size address rest = .ok ()) {k : Nat} {i : Instruction}
    (hi : rest[k]? = some i) : checkInstruction size (address + k) i = .ok () := by
  induction rest generalizing address k with
  | nil => simp at hi
  | cons first rest ih =>
    simp only [checkFrom, bind, Except.bind] at h
    cases hfirst : checkInstruction size address first with
    | error => simp [hfirst] at h
    | ok =>
      simp only [hfirst] at h
      cases k with
      | zero =>
        obtain rfl : first = i := by simpa using hi
        exact hfirst
      | succ k =>
        have hnext := ih h (k := k) (by simpa using hi)
        rwa [Nat.add_assoc, Nat.add_comm 1 k] at hnext

private theorem checkChains_ok {addresses : List Nat}
    (h : checkChains circuit addresses = .ok ()) {n : Nat} (hn : n ∈ addresses) :
    settles circuit (circuit.length + 1) [] (.int n) = .ok true := by
  induction addresses with
  | nil => simp at hn
  | cons first rest ih =>
    simp only [checkChains, bind, Except.bind] at h
    cases hfirst : settles circuit (circuit.length + 1) [] (.int first) with
    | error => simp [hfirst] at h
    | ok settled =>
      cases settled with
      | false => simp [hfirst] at h
      | true =>
        simp only [hfirst, if_true] at h
        rcases List.mem_cons.mp hn with rfl | hrest
        · exact hfirst
        · exact ih h hrest

/-- Where jumps within the circuit are found to end, there is a landing. -/
private theorem lands_of_settles {limit : Nat} {passed : List (Option Int)}
    (hjump : ∀ {n : Nat} {target : Value}, circuit[n]? = some (.jump target) →
      ∃ m : Nat, target = .int m ∧ m < circuit.length)
    {n : Nat} (hn : n < circuit.length) (h : settles circuit limit passed (.int n) = .ok true) :
    ∃ jumps stop, Lands circuit n jumps stop := by
  induction limit generalizing n passed with
  | zero => cases h
  | succ limit ih =>
    have hi : circuit[n]? = some circuit[n] := List.getElem?_eq_getElem hn
    simp only [settles, fetch_natCast hn, bind, Except.bind] at h
    by_cases hholds : circuit[n].Holds
    · exact ⟨0, n, .held hi hholds⟩
    · obtain ⟨target, htarget⟩ : ∃ target, circuit[n] = .jump target := by
        simpa [Instruction.Holds] using hholds
      obtain ⟨m, rfl, hm⟩ := hjump (hi.trans (congrArg some htarget))
      simp only [htarget] at h
      split at h
      · simp at h
      · obtain ⟨jumps, stop, hlands⟩ := ih hm h
        exact ⟨jumps + 1, stop, .jump (hi.trans (congrArg some htarget)) hlands⟩

/-- A circuit that passes the check has a first instruction. -/
theorem length_pos_of_check (h : circuit.check = .ok ()) : 0 < circuit.length := by
  cases circuit with
  | nil => cases h
  | cons => exact Nat.succ_pos _

/-- A circuit with an instruction is checked entry by entry, then chain by chain. -/
theorem check_of_pos (hpos : 0 < circuit.length) : circuit.check = (do
    checkFrom circuit.length 0 circuit
    checkChains circuit (List.range circuit.length)) := by
  have hfull : circuit.isEmpty = false := by simpa using List.length_pos_iff.mp hpos
  simp only [check, hfull, Bool.false_eq_true, if_false]

/-- The check looks at each instruction alone, and then at the chains of jumps. -/
private theorem parts_of_check (h : circuit.check = .ok ()) :
    checkFrom circuit.length 0 circuit = .ok () ∧
      checkChains circuit (List.range circuit.length) = .ok () := by
  rw [check_of_pos (length_pos_of_check h)] at h
  cases hfrom : checkFrom circuit.length 0 circuit with
  | error => simp [hfrom, bind, Except.bind] at h
  | ok =>
    simp only [hfrom, bind, Except.bind] at h
    exact ⟨rfl, h⟩

/-- Nothing is objected to any one instruction of a circuit that passes the check. -/
theorem checkInstruction_of_check (h : circuit.check = .ok ()) {n : Nat} {i : Instruction}
    (hi : circuit[n]? = some i) : checkInstruction circuit.length n i = .ok () := by
  have hentry := checkFrom_ok (parts_of_check h).1 hi
  rwa [Nat.zero_add] at hentry

/-- A circuit of whole numbers that passes the check can be driven. -/
theorem drivable_of_check (hwhole : circuit.Whole) (h : circuit.check = .ok ()) :
    circuit.Drivable := by
  have hentry {n : Nat} {i : Instruction} (hi : circuit[n]? = some i) :
      checkInstruction circuit.length n i = .ok () := checkInstruction_of_check h hi
  have hjump : ∀ {n : Nat} {target : Value}, circuit[n]? = some (.jump target) →
      ∃ m : Nat, target = .int m ∧ m < circuit.length := by
    intro n target hi
    obtain ⟨t, rfl⟩ := hwhole.target (List.mem_of_getElem? hi)
    obtain ⟨m, rfl, hm⟩ := checkTarget_int (hentry hi)
    exact ⟨m, rfl, hm⟩
  refine ⟨length_pos_of_check h, hjump, ?_, ?_⟩
  · intro n segment branch hi
    have hn := (List.getElem?_eq_some_iff.mp hi).1
    have hlight := hentry hi
    simp only [checkInstruction] at hlight
    obtain ⟨b, rfl⟩ := hwhole.branch (List.mem_of_getElem? hi)
    split at hlight
    · cases hlight
    · split at hlight
      · cases hlight
      · obtain ⟨m, rfl, hm⟩ := checkTarget_int hlight
        refine ⟨?_, by omega, m, rfl, hm⟩
        cases segment with
        | text bar => exact ⟨bar, rfl, by simp_all⟩
        | _ => simp_all [Segment.isBar]
  · intro n hn
    exact lands_of_settles hjump hn (checkChains_ok (parts_of_check h).2 (List.mem_range.mpr hn))

/-! ## Where lights alone hold the car -/

/-- From an address jumps lead to a light, with this bar and this branch. -/
structure Lights (circuit : Circuit) (n stop : Nat) (bar : Char) (branch : Nat) : Prop where
  lands : ∃ jumps, Lands circuit n jumps stop
  mem : bar ∈ Segment.bars
  light : circuit[stop]? = some (.light (.text bar.toString) (.int branch))

/-- From every address jumps lead to a light. -/
def Luminous (circuit : Circuit) : Prop :=
  ∀ n < circuit.length, ∃ stop bar branch, circuit.Lights n stop bar branch

theorem isBar_iff {segment : Value} : Segment.isBar segment = true ↔
    ∃ (k : Nat) (c : Char), Segment.bars[k]? = some c ∧ segment = .text c.toString := by
  constructor
  · intro h
    cases segment with
    | text s =>
      simp only [Segment.isBar] at h
      split at h
      · rename_i c hs
        obtain ⟨k, hk⟩ := List.mem_iff_getElem?.mp (List.contains_iff_mem.mp h)
        refine ⟨k, c, hk, ?_⟩
        rw [← String.ofList_toList (s := s), hs]
        rfl
      · cases h
    | _ => cases h
  · rintro ⟨k, c, hc, rfl⟩
    have hmem : c ∈ Segment.bars := List.mem_of_getElem? hc
    simpa [Segment.isBar] using hmem

/-- The check lets nothing pass that holds the car without a light, but for what means nothing. -/
theorem luminous_of_check (hdrivable : circuit.Drivable) (h : circuit.check = .ok ())
    (hmeans : ∀ raw, .invalid raw ∉ circuit) : circuit.Luminous := by
  intro n hn
  obtain ⟨jumps, stop, hlands⟩ := hdrivable.lands hn
  obtain ⟨i, hi, hholds⟩ := hlands.stop_holds
  cases i with
  | jump target => exact absurd rfl (hholds target)
  | invalid raw => exact absurd (List.mem_of_getElem? hi) (hmeans raw)
  | stray entry => cases checkInstruction_of_check h hi
  | light segment branch =>
    obtain ⟨⟨bar, rfl, hbar⟩, -, m, rfl, -⟩ := hdrivable.light hi
    obtain ⟨k, c, hc, htext⟩ := isBar_iff.mp hbar
    exact ⟨stop, c, m, ⟨jumps, hlands⟩, List.mem_of_getElem? hc, htext ▸ hi⟩

/-! ## The track of the game -/

theorem track_whole : Whole track := by
  constructor
  · simp [track, lit, back]
  · intro segment branch hmem
    simp only [track, lit, back, List.mem_cons, Instruction.light.injEq, reduceCtorEq, false_or,
      List.not_mem_nil, or_false] at hmem
    grind

end Circuit

end DigitRace
