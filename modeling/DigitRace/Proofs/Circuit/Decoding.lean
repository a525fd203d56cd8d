import DigitRace.Proofs.Circuit.Codec
import Mathlib.Data.List.Forall2

/-!
# What whole numbers stand for

The opcode of a whole number is the number of 32s in it, rounded down, and its target is the rest.
Opcode 0 is a jump, opcodes 1 to 7 are lights, and larger ones mean nothing. An opcode below zero
is looked up among the bars all the same, from their end: down to -6 it is a light too, and below
that there is no letter for it. So a list of whole numbers can be read if and only if none of them
is below -192.
-/

namespace DigitRace.Circuit

/-- The instruction that a whole number stands for, by the opcode of the number. -/
inductive StandsFor (v : Int) : Instruction → Prop
  | jump (hopcode : v / 32 = 0) : StandsFor v (.jump (.int (v % 32)))
  | light {k : Nat} {bar : Char} (hbar : Segment.bars[k]? = some bar)
      (hopcode : v / 32 = (k : Int) + 1) : StandsFor v (.light (.text bar.toString) (.int (v % 32)))
  | invalid (hopcode : 7 < v / 32) : StandsFor v (.invalid (.int v))
  /-- The bars are counted from their end, the second last one for opcode -1. -/
  | below {k : Nat} {bar : Char} (hbar : Segment.bars[k]? = some bar)
      (hopcode : v / 32 = (k : Int) - 6) (hbelow : v < 0) :
      StandsFor v (.light (.text bar.toString) (.int (v % 32)))

variable {circuit : Circuit} {i : Instruction} {v : Int}

/-- Before the first bar the places are counted from the end. -/
theorem bar?_of_neg {place : Int} (h : place < 0) (hplace : 0 ≤ place + 7) :
    bar? place = Segment.bars[(place + 7).toNat]? := by
  have hlength : (Segment.bars.length : Int) = 7 := rfl
  have hroom : ¬ place + 7 < 0 := by omega
  simp only [bar?, if_pos h, hlength, if_neg hroom]

theorem bar?_eq_none {place : Int} (h : place < -7) : bar? place = none := by
  have hlength : (Segment.bars.length : Int) = 7 := rfl
  have hneg : place < 0 := by omega
  have hout : place + 7 < 0 := by omega
  simp only [bar?, if_pos hneg, hlength, if_pos hout]

/-- There are seven bars. -/
theorem exists_bar {k : Nat} (h : k < 7) : ∃ bar, Segment.bars[k]? = some bar :=
  ⟨_, List.getElem?_eq_getElem h⟩

/-- An opcode up to 7 that is no jump lights the bar that it finds. -/
theorem decodeInt_of_bar? {bar : Char} (hjump : v / 32 ≠ 0) (hle : v / 32 ≤ 7)
    (hbar : bar? (v / 32 - 1) = some bar) :
    decodeInt v = .ok (.light (.text bar.toString) (.int (v % 32))) := by
  have hlength : v / 32 ≤ (Segment.bars.length : Int) := hle
  simp only [decodeInt, if_neg hjump, if_pos hlength, hbar]

/-- A number is read as what it stands for. -/
theorem StandsFor.decodeInt (h : StandsFor v i) : decodeInt v = .ok i := by
  cases h with
  | jump hopcode => simp only [Circuit.decodeInt, hopcode, if_true]
  | @light k bar hbar hopcode =>
    obtain ⟨hk, -⟩ := bar_place hbar
    have hplace : v / 32 - 1 = (k : Int) := by omega
    apply decodeInt_of_bar? (by omega) (by omega)
    rw [hplace, bar?_natCast]
    exact hbar
  | invalid hopcode =>
    have hjump : ¬ v / 32 = 0 := by omega
    have hmany : ¬ v / 32 ≤ (Segment.bars.length : Int) := by
      change ¬ v / 32 ≤ 7
      omega
    simp only [Circuit.decodeInt, if_neg hjump, if_neg hmany]
  | @below k bar hbar hopcode hbelow =>
    have hplace : v / 32 - 1 + 7 = (k : Int) := by omega
    apply decodeInt_of_bar? (by omega) (by omega)
    rw [bar?_of_neg (by omega) (by omega), hplace, Int.toNat_natCast]
    exact hbar

/-- From -192 on every number stands for an instruction. -/
theorem exists_standsFor (h : -192 ≤ v) : ∃ i, StandsFor v i := by
  rcases lt_trichotomy (v / 32) 0 with hneg | hzero | hpos
  · obtain ⟨bar, hbar⟩ := exists_bar (k := (v / 32 + 6).toNat) (by omega)
    exact ⟨_, .below hbar (by omega) (by omega)⟩
  · exact ⟨_, .jump hzero⟩
  · by_cases hmany : 7 < v / 32
    · exact ⟨_, .invalid hmany⟩
    · obtain ⟨bar, hbar⟩ := exists_bar (k := (v / 32 - 1).toNat) (by omega)
      exact ⟨_, .light hbar (by omega)⟩

/-- Below -192 there is no letter for the opcode. -/
theorem decodeInt_of_lt (h : v < -192) : decodeInt v = .error .noSuchLetter := by
  have hjump : ¬ v / 32 = 0 := by omega
  have hle : v / 32 ≤ (Segment.bars.length : Int) := by
    change v / 32 ≤ 7
    omega
  have hnone : bar? (v / 32 - 1) = none := bar?_eq_none (by omega)
  simp only [decodeInt, if_neg hjump, if_pos hle, hnone]

/-! ## Lists of numbers -/

theorem decodeAll_nil : decodeAll (.list []) = .ok [] := rfl

/-- The first number is read before the others. -/
theorem decodeAll_cons (v : Int) (rest : List Value) :
    decodeAll (.list (.int v :: rest)) = (do
      let i ← decodeInt v
      let circuit ← decodeAll (.list rest)
      return i :: circuit) := by
  change (Value.int v :: rest).mapM decode = _
  rw [List.mapM_cons]
  rfl

/-- A list is read as what its numbers stand for. -/
theorem decodeAll_of_forall₂ {values : List Int} (h : List.Forall₂ StandsFor values circuit) :
    decodeAll (.list (values.map .int)) = .ok circuit := by
  induction h with
  | nil => exact decodeAll_nil
  | cons hfirst _ ih =>
    rw [List.map_cons, decodeAll_cons, hfirst.decodeInt, ih]
    rfl

/-- From -192 on every list of numbers stands for a circuit. -/
theorem exists_forall₂_standsFor {values : List Int} (h : ∀ v ∈ values, -192 ≤ v) :
    ∃ circuit, List.Forall₂ StandsFor values circuit := by
  induction values with
  | nil => exact ⟨[], .nil⟩
  | cons v rest ih =>
    obtain ⟨i, hi⟩ := exists_standsFor (h v List.mem_cons_self)
    obtain ⟨circuit, hrest⟩ := ih fun w hw => h w (List.mem_cons_of_mem v hw)
    exact ⟨i :: circuit, .cons hi hrest⟩

/-- One number below -192 spoils its list. -/
theorem decodeAll_of_mem_lt {values : List Int} (hmem : v ∈ values) (h : v < -192) :
    decodeAll (.list (values.map .int)) = .error .noSuchLetter := by
  induction values with
  | nil => cases hmem
  | cons w rest ih =>
    rw [List.map_cons, decodeAll_cons]
    by_cases hw : w < -192
    · rw [decodeInt_of_lt hw]
      rfl
    · have hrest : v ∈ rest := by
        rcases List.mem_cons.mp hmem with rfl | hrest
        · exact absurd h hw
        · exact hrest
      obtain ⟨i, hi⟩ := exists_standsFor (not_lt.mp hw)
      rw [hi.decodeInt, ih hrest]
      rfl

/-- **Whole numbers are read from -192 on.** A list of whole numbers is read as a circuit if and
only if the circuit has one instruction for each number, the one that the number stands for. There
is such a circuit if no number is below -192, and otherwise reading stops for want of a letter. -/
theorem numbers_read_from_lowest_light (values : List Int) :
    (∀ circuit, decodeAll (.list (values.map .int)) = .ok circuit ↔
      List.Forall₂ StandsFor values circuit) ∧
    ((∀ v ∈ values, -192 ≤ v) → ∃ circuit, decodeAll (.list (values.map .int)) = .ok circuit) ∧
    ∀ v ∈ values, v < -192 → decodeAll (.list (values.map .int)) = .error .noSuchLetter := by
  refine ⟨fun circuit => ⟨fun hread => ?_, decodeAll_of_forall₂⟩, fun hlow => ?_,
    fun v hmem hlow => decodeAll_of_mem_lt hmem hlow⟩
  · have hlow : ∀ v ∈ values, -192 ≤ v := by
      intro v hmem
      by_contra hlow
      rw [decodeAll_of_mem_lt hmem (not_le.mp hlow)] at hread
      cases hread
    obtain ⟨other, hother⟩ := exists_forall₂_standsFor hlow
    obtain rfl : other = circuit :=
      Except.ok.inj ((decodeAll_of_forall₂ hother).symm.trans hread)
    exact hother
  · obtain ⟨circuit, hcircuit⟩ := exists_forall₂_standsFor hlow
    exact ⟨circuit, decodeAll_of_forall₂ hcircuit⟩

/-- The lowest number that can be read, the highest below zero, and numbers on both sides of the
opcodes that mean something. -/
theorem numbers_read_from_lowest_light_at_bounds :
    (∀ v ∈ [-192, -1, 0, 255, 256], (-192 : Int) ≤ v) ∧
    decodeAll (.list ([-192, -1, 0, 255, 256].map .int)) =
      .ok [.light (.text "a") (.int 0), .light (.text "f") (.int 31), .jump (.int 0),
        .light (.text "g") (.int 31), .invalid (.int 256)] ∧
    (-193 : Int) ∈ [0, -193] ∧
    decodeAll (.list ([0, -193].map .int)) = .error .noSuchLetter := by
  have hlow : ∀ v ∈ [-192, -1, 0, 255, 256], (-192 : Int) ≤ v := by decide
  have hmem : (-193 : Int) ∈ [0, -193] := by decide
  obtain ⟨hread, hreads, -⟩ := numbers_read_from_lowest_light [-192, -1, 0, 255, 256]
  obtain ⟨-, -, hstops⟩ := numbers_read_from_lowest_light [0, -193]
  obtain ⟨circuit, hcircuit⟩ := hreads hlow
  have hstands : List.Forall₂ StandsFor [-192, -1, 0, 255, 256]
      [.light (.text "a") (.int 0), .light (.text "f") (.int 31), .jump (.int 0),
        .light (.text "g") (.int 31), .invalid (.int 256)] :=
    .cons (.below (k := 0) rfl (by decide) (by decide)) <|
    .cons (.below (k := 5) rfl (by decide) (by decide)) <|
    .cons (.jump (by decide)) <| .cons (.light (k := 6) rfl (by decide)) <|
    .cons (.invalid (by decide)) .nil
  exact ⟨hlow, (hread _).mpr hstands, hmem, hstops (-193) hmem (by decide)⟩

/-- A number below zero has no opcode from 0 to 7, and is read as a light all the same; a lower one
cannot be read. -/
theorem negative_numbers_read_as_lights :
    ¬ (0 ≤ (-1 : Int) / 32 ∧ (-1 : Int) / 32 ≤ 7) ∧
    decodeAll (.list [.int (-1)]) = .ok [.light (.text "f") (.int 31)] ∧
    decodeAll (.list [.int (-1)]) ≠ .ok [.invalid (.int (-1))] ∧
    ∀ circuit, decodeAll (.list [.int (-193)]) ≠ .ok circuit := by
  have hlight : decodeAll (.list [.int (-1)]) = .ok [.light (.text "f") (.int 31)] := rfl
  have hstops : decodeAll (.list [.int (-193)]) = .error .noSuchLetter := rfl
  refine ⟨by decide, hlight, ?_, ?_⟩
  · rw [hlight]
    nofun
  · rw [hstops]
    nofun

end DigitRace.Circuit
