import DigitRace.Circuit.Code
import DigitRace.Proofs.Circuit.Landing
import Mathlib.Tactic.IntervalCases

/-!
# Instructions as bytes

An instruction fits a byte if its target is a number from 0 to 31 and, where it is a light, its
segment is one bar. Such an instruction is found again in its number, which is then a byte, and
of all whole numbers the bytes are those that are found again in their instruction. A short
circuit that passes the check therefore survives as bytes.

Instructions are compared by their parts, and their kinds do not count. So there are others that
compare as equal to what their number stands for: the jumps to 256 and beyond. The number of such
a jump is its target, and it means nothing, which leaves an instruction with the same number as
its only part.
-/

namespace DigitRace

/-- A truth value as the number that it counts as; other values stay as they are. -/
def Value.counted : Value → Value
  | .flag b => .int (if b then 1 else 0)
  | value => value

@[simp] theorem Value.counted_int (n : Int) : (int n).counted = int n := rfl

@[simp] theorem Value.counted_text (s : String) : (text s).counted = text s := rfl

theorem Value.counted_of_index? {value : Value} {n : Int} (h : value.index? = some n) :
    value.counted = .int n := by
  cases value with
  | flag b =>
    simp only [index?, Option.some.injEq] at h
    simp only [counted, h]
  | int m =>
    simp only [index?, Option.some.injEq] at h
    simp only [counted, h]
  | _ => simp [index?] at h

theorem Value.counted_counted (value : Value) : value.counted.counted = value.counted := by
  cases value <;> rfl

theorem Value.number_of_index? {value : Value} {n : Int} (h : value.index? = some n) :
    value.number = .ok (n : Rat) := by
  cases value with
  | flag b =>
    simp only [index?, Option.some.injEq] at h
    subst h
    cases b <;> rfl
  | int m =>
    simp only [index?, Option.some.injEq] at h
    rw [number_int, h]
  | _ => simp [index?] at h

namespace Instruction

/-- The instruction whose target is a number where it was a truth value. -/
def counted : Instruction → Instruction
  | jump target => .jump target.counted
  | light segment branch => .light segment branch.counted
  | i => i

/-- Whether two entries of a circuit compare as equal. Instructions do if their parts do, whatever
their kinds, and a truth value is equal to the number that it counts as. Doubles are not compared
with numbers here: nothing that holds one in place of a target has a number. -/
def Same : Instruction → Instruction → Prop
  | stray entry, stray entry' => entry = entry'
  | stray _, _ | _, stray _ => False
  | i, j => i.parts.map Value.counted = j.parts.map Value.counted

/-- The target of an instruction is a number from 0 to 31, and a light names one bar. -/
def FitsByte : Instruction → Prop
  | jump target => ∃ n : Int, target.index? = some n ∧ 0 ≤ n ∧ n ≤ 31
  | light segment branch =>
    Segment.isBar segment = true ∧ ∃ n : Int, branch.index? = some n ∧ 0 ≤ n ∧ n ≤ 31
  | _ => False

/-- A jump to 256 or beyond, where there is no byte for it. -/
def LeadsFar : Instruction → Prop
  | jump target => ∃ n : Int, target.index? = some n ∧ 256 ≤ n
  | _ => False

/-- An instruction compares as equal to the one with its target as a number. -/
theorem same_counted (i : Instruction) : i.counted.Same i := by
  cases i with
  | stray entry => rfl
  | _ => simp only [counted, Same, parts, List.map_cons, List.map_nil, Value.counted_counted]

end Instruction

namespace Circuit

variable {circuit : Circuit} {i j : Instruction} {n v : Int} {k : Nat} {c : Char}

/-- On a circuit of whole numbers there is nothing to count. -/
theorem Whole.map_counted (h : circuit.Whole) : circuit.map Instruction.counted = circuit := by
  have hsame : ∀ i ∈ circuit, i.counted = i := by
    intro i hi
    cases i with
    | jump target =>
      obtain ⟨n, rfl⟩ := h.target hi
      rfl
    | light segment branch =>
      obtain ⟨n, rfl⟩ := h.branch hi
      rfl
    | _ => rfl
  rw [List.map_congr_left hsame, List.map_id']

/-! ## Numbers and bars -/

/-- A target below 32 and an opcode do not overlap. -/
theorem packed_eq (opcode : Nat) (hn : 0 ≤ n) (hsmall : n ≤ 31) :
    packed opcode n = 32 * opcode + n := by
  have hhigh : n / 256 = 0 := by omega
  have hlow : (n % 256).toNat = n.toNat := by omega
  have hor : 32 * opcode + n.toNat = 32 * opcode ||| n.toNat :=
    Nat.two_pow_add_eq_or_of_lt (i := 5) (by omega) opcode
  rw [packed, hhigh, hlow, Nat.or_comm, ← hor]
  omega

theorem bar?_natCast (k : Nat) : bar? k = Segment.bars[k]? := by
  have hpos : ¬ (k : Int) < 0 := by omega
  simp only [bar?, hpos, if_false, Int.toNat_natCast]

/-- There are seven bars, and each is found at its place. -/
theorem bar_place (h : Segment.bars[k]? = some c) :
    k < 7 ∧ position? [c] Segment.bars = some k := by
  have hk : k < 7 := (List.getElem?_eq_some_iff.mp h).1
  refine ⟨hk, ?_⟩
  interval_cases k <;> (obtain rfl := Option.some.inj h; decide)

/-! ## From instructions to numbers and back -/

/-- The number of a light has the place of its bar in front. -/
theorem encode_bar (h : Segment.bars[k]? = some c) {branch : Value}
    (hbranch : branch.index? = some n) (hn : 0 ≤ n) (hsmall : n ≤ 31) :
    encode (.light (.text c.toString) branch) = .ok (32 * (k + 1) + n) := by
  obtain ⟨-, hplace⟩ := bar_place h
  have hpacked := packed_eq (k + 1) hn hsmall
  have htext : c.toString.toList = [c] := by simp
  have hnext : ((k + 1 : Nat) : Int) = (k : Int) + 1 := by omega
  simp only [encode, htext, hplace, hbranch, hpacked, hnext]

/-- The bar is found again from the number. -/
theorem decodeInt_bar (h : Segment.bars[k]? = some c) (hn : 0 ≤ n) (hsmall : n ≤ 31) :
    decodeInt (32 * (k + 1) + n) = .ok (.light (.text c.toString) (.int n)) := by
  obtain ⟨hk, -⟩ := bar_place h
  have hopcode : (32 * (k + 1) + n) / 32 = (k : Int) + 1 := by omega
  have htarget : (32 * (k + 1) + n) % 32 = n := by omega
  have hbars : (k : Int) + 1 ≤ Segment.bars.length := by
    change (k : Int) + 1 ≤ 7
    omega
  have hplace : (k : Int) + 1 - 1 = k := by omega
  have hjump : ¬ (k : Int) + 1 = 0 := by omega
  simp only [decodeInt, hopcode, htarget, hjump, hbars, hplace, bar?_natCast, h, if_false, if_true]

/-- What a number stands for fits a byte, unless the number is beyond the bytes and means nothing.
Its target is what the number has beyond a multiple of 32. -/
theorem decodeInt_cases (h : decodeInt v = .ok i) :
    (i = .jump (.int (v % 32)) ∧ v / 32 = 0) ∨
      (∃ (k : Nat) (c : Char), Segment.bars[k]? = some c ∧
        i = .light (.text c.toString) (.int (v % 32))) ∨
      (i = .invalid (.int v) ∧ 256 ≤ v) := by
  simp only [decodeInt] at h
  split at h
  · rename_i hopcode
    exact .inl ⟨(Except.ok.inj h).symm, hopcode⟩
  · split at h
    · split at h
      · rename_i bar hbar
        refine .inr (.inl ?_)
        simp only [bar?] at hbar
        generalize hplace : (if v / 32 - 1 < 0 then v / 32 - 1 + Segment.bars.length
          else v / 32 - 1) = place at hbar
        split at hbar
        · cases hbar
        · exact ⟨place.toNat, bar, hbar, (Except.ok.inj h).symm⟩
      · cases h
    · rename_i hjump hbeyond
      have hopcode : ¬ v / 32 ≤ (7 : Nat) := hbeyond
      exact .inr (.inr ⟨(Except.ok.inj h).symm, by omega⟩)

/-- An instruction that fits a byte has a byte as its number, in which it is found again. -/
theorem FitsByte.encode (h : i.FitsByte) : ∃ v, Circuit.encode i = .ok v ∧ 0 ≤ v ∧ v ≤ 255 ∧
    decodeInt v = .ok i.counted := by
  cases i with
  | jump target =>
    obtain ⟨n, htarget, hn, hsmall⟩ := h
    have hopcode : n / 32 = 0 := by omega
    have hrest : n % 32 = n := by omega
    refine ⟨n, by simp only [Circuit.encode, htarget], hn, by omega, ?_⟩
    simp only [decodeInt, hopcode, hrest, if_true, Instruction.counted,
      Value.counted_of_index? htarget]
  | light segment branch =>
    obtain ⟨hbar, n, hbranch, hn, hsmall⟩ := h
    obtain ⟨k, c, hc, rfl⟩ := isBar_iff.mp hbar
    obtain ⟨hk, -⟩ := bar_place hc
    refine ⟨32 * (k + 1) + n, encode_bar hc hbranch hn hsmall, by omega, by omega, ?_⟩
    rw [decodeInt_bar hc hn hsmall, Instruction.counted, Value.counted_of_index? hbranch]
  | _ => exact h.elim

/-- What has a number has a whole number as its target. -/
theorem target_of_encode {target : Value} (h : encode (.jump target) = .ok v) :
    ∃ n, target.index? = some n := by
  cases htarget : target.index? with
  | none => simp [encode, htarget] at h
  | some n => exact ⟨n, rfl⟩

theorem segment_of_encode {segment branch : Value} (h : encode (.light segment branch) = .ok v) :
    ∃ s, segment = .text s := by
  cases segment with
  | text s => exact ⟨s, rfl⟩
  | _ => cases h

theorem branch_of_encode {segment branch : Value} (h : encode (.light segment branch) = .ok v) :
    ∃ n, branch.index? = some n := by
  cases hbranch : branch.index? with
  | none =>
    cases segment with
    | text s =>
      simp only [encode, hbranch] at h
      split at h
      · cases h
      · cases h
    | _ => cases h
  | some n => exact ⟨n, rfl⟩

/-- A jump to 256 or beyond has its target as its number, and this number means nothing. -/
theorem LeadsFar.encode (h : i.LeadsFar) : ∃ v, Circuit.encode i = .ok v ∧ 256 ≤ v ∧
    decodeInt v = .ok (.invalid (.int v)) ∧ (Instruction.invalid (.int v)).Same i := by
  cases i with
  | jump target =>
    obtain ⟨n, htarget, hlarge⟩ := h
    have hjump : ¬ n / 32 = 0 := by omega
    have hbeyond : ¬ n / 32 ≤ Segment.bars.length := by
      change ¬ n / 32 ≤ 7
      omega
    refine ⟨n, by simp only [Circuit.encode, htarget], hlarge, ?_, ?_⟩
    · simp only [decodeInt, if_neg hjump, if_neg hbeyond]
    · simp only [Instruction.Same, Instruction.parts, List.map_cons, List.map_nil,
        Value.counted_int, Value.counted_of_index? htarget]
  | _ => exact h.elim

/-- What compares as equal to what its number stands for fits a byte, with a target below 32 and
one bar as its segment, or it is a jump beyond the bytes. -/
theorem fitsByte_or_leadsFar (hencode : encode i = .ok v) (hdecode : decodeInt v = .ok j)
    (hsame : j.Same i) : i.FitsByte ∨ i.LeadsFar := by
  have hlow : 0 ≤ v % 32 ∧ v % 32 ≤ 31 := by omega
  cases i with
  | jump target =>
    obtain ⟨n, htarget⟩ := target_of_encode hencode
    have hcounted := Value.counted_of_index? htarget
    obtain rfl : n = v := by
      simp only [encode, htarget, Except.ok.injEq] at hencode
      exact hencode
    rcases decodeInt_cases hdecode with ⟨rfl, -⟩ | ⟨_, _, _, rfl⟩ | ⟨rfl, hlarge⟩
    · simp only [Instruction.Same, Instruction.parts, List.map_cons, List.map_nil, hcounted,
        Value.counted_int, List.cons.injEq, Value.int.injEq, and_true] at hsame
      exact .inl ⟨n, htarget, by omega, by omega⟩
    · simp [Instruction.Same, Instruction.parts] at hsame
    · exact .inr ⟨n, htarget, hlarge⟩
  | light segment branch =>
    obtain ⟨s, rfl⟩ := segment_of_encode hencode
    obtain ⟨n, hbranch⟩ := branch_of_encode hencode
    have hcounted := Value.counted_of_index? hbranch
    -- a light has two parts, which neither a jump nor what means nothing has
    rcases decodeInt_cases hdecode with ⟨rfl, -⟩ | ⟨k, c, hc, rfl⟩ | ⟨rfl, -⟩
    · simp [Instruction.Same, Instruction.parts] at hsame
    · simp only [Instruction.Same, Instruction.parts, List.map_cons, List.map_nil, hcounted,
        Value.counted_int, Value.counted_text, List.cons.injEq, Value.int.injEq, Value.text.injEq,
        and_true] at hsame
      obtain ⟨rfl, rfl⟩ := hsame
      exact .inl ⟨isBar_iff.mpr ⟨k, c, hc, rfl⟩, v % 32, hbranch, hlow.1, hlow.2⟩
    · simp [Instruction.Same, Instruction.parts] at hsame
  | invalid raw => cases hencode
  | stray entry => cases hencode

/-- What is found again in its number with its kind fits a byte. -/
theorem fitsByte_of_decodeInt (hencode : encode i = .ok v)
    (hdecode : decodeInt v = .ok i.counted) : i.FitsByte := by
  refine (fitsByte_or_leadsFar hencode hdecode i.same_counted).resolve_right fun hfar => ?_
  obtain ⟨w, hencode', -, hinvalid, -⟩ := LeadsFar.encode hfar
  obtain rfl : v = w := Except.ok.inj (hencode.symm.trans hencode')
  cases i with
  | jump target => cases Except.ok.inj (hdecode.symm.trans hinvalid)
  | _ => exact hfar

/-- A number that is no byte is not found again in what it stands for. -/
theorem byte_of_encode (hdecode : decodeInt v = .ok i) (hencode : encode i = .ok v) :
    0 ≤ v ∧ v ≤ 255 := by
  have hfits : i.FitsByte := by
    rcases decodeInt_cases hdecode with ⟨rfl, -⟩ | ⟨k, c, hc, rfl⟩ | ⟨rfl, -⟩
    · exact ⟨v % 32, rfl, by omega, by omega⟩
    · exact ⟨isBar_iff.mpr ⟨k, c, hc, rfl⟩, v % 32, rfl, by omega, by omega⟩
    · cases hencode
  obtain ⟨w, hw, hlow, hhigh, -⟩ := FitsByte.encode hfits
  obtain rfl : v = w := Except.ok.inj (hencode.symm.trans hw)
  exact ⟨hlow, hhigh⟩

/-- A byte is found again in what it stands for. -/
theorem encode_of_byte (hlow : 0 ≤ v) (hhigh : v ≤ 255) :
    ∃ i, decodeInt v = .ok i ∧ encode i = .ok v := by
  by_cases hjump : v / 32 = 0
  · refine ⟨.jump (.int (v % 32)), ?_, ?_⟩
    · simp only [decodeInt, hjump, if_true]
    · have hsame : v % 32 = v := by omega
      simp only [encode, Value.index?_int, hsame]
  · obtain ⟨k, hk⟩ : ∃ k : Nat, v / 32 = k + 1 := ⟨(v / 32).toNat - 1, by omega⟩
    have hplace : k < Segment.bars.length := by
      change k < 7
      omega
    have hc : Segment.bars[k]? = some Segment.bars[k] := List.getElem?_eq_getElem hplace
    have hv : v = 32 * (k + 1) + v % 32 := by omega
    have hdecode := decodeInt_bar hc (n := v % 32) (by omega) (by omega)
    have hbranch : (Value.int (v % 32)).index? = some (v % 32) := rfl
    have hencode := encode_bar hc hbranch (by omega) (by omega)
    rw [← hv] at hdecode hencode
    exact ⟨_, hdecode, hencode⟩

/-- An instruction compares as equal to what its number stands for if and only if it fits a byte or
is a jump beyond the bytes. -/
theorem same_decode_encode_iff :
    (∃ j, (do decode (.int (← encode i))) = .ok j ∧ j.Same i) ↔ i.FitsByte ∨ i.LeadsFar := by
  constructor
  · rintro ⟨j, hj, hsame⟩
    cases hencode : encode i with
    | error fault => simp [hencode, bind, Except.bind] at hj
    | ok v =>
      rw [hencode] at hj
      exact fitsByte_or_leadsFar hencode hj hsame
  · rintro (hfits | hfar)
    · obtain ⟨v, hencode, -, -, hdecode⟩ := FitsByte.encode hfits
      rw [hencode]
      exact ⟨i.counted, hdecode, i.same_counted⟩
    · obtain ⟨v, hencode, -, hdecode, hsame⟩ := LeadsFar.encode hfar
      rw [hencode]
      exact ⟨.invalid (.int v), hdecode, hsame⟩

/-- An instruction is found again in its number, with its kind, if and only if it fits a byte. -/
theorem decode_encode_iff : (do decode (.int (← encode i))) = .ok i.counted ↔ i.FitsByte := by
  constructor
  · intro h
    cases hencode : encode i with
    | error fault => simp [hencode, bind, Except.bind] at h
    | ok v =>
      rw [hencode] at h
      exact fitsByte_of_decodeInt hencode h
  · intro hfits
    obtain ⟨v, hencode, -, -, hdecode⟩ := FitsByte.encode hfits
    rw [hencode]
    exact hdecode

/-- A whole number is found again in its instruction if and only if it is a byte. -/
theorem encode_decode_iff : (do encode (← decode (.int v))) = .ok v ↔ 0 ≤ v ∧ v < 256 := by
  have hdecodes : decode (.int v) = decodeInt v := rfl
  rw [hdecodes]
  constructor
  · intro h
    cases hdecode : decodeInt v with
    | error fault => simp [hdecode, bind, Except.bind] at h
    | ok i =>
      rw [hdecode] at h
      obtain ⟨hlow, hhigh⟩ := byte_of_encode hdecode h
      exact ⟨hlow, by omega⟩
  · rintro ⟨hlow, hhigh⟩
    obtain ⟨i, hdecode, hencode⟩ := encode_of_byte hlow (by omega)
    rw [hdecode]
    exact hencode

/-! ## Circuits -/

/-- A target within a circuit of at most 32 instructions is below 32. -/
private theorem target_small {size address : Nat} {target : Value}
    (hcheck : checkTarget size address target = .ok ()) (htarget : target.index? = some n)
    (hsize : size ≤ 32) : 0 ≤ n ∧ n ≤ 31 := by
  have hrange : (0 : Rat) ≤ (n : Rat) ∧ (n : Rat) < (size : Rat) := by
    by_contra hout
    simp only [checkTarget, Value.number_of_index? htarget, bind, Except.bind, if_neg hout,
      reduceCtorEq] at hcheck
  have hlower : 0 ≤ n := by exact_mod_cast hrange.1
  have hupper : n < (size : Int) := by exact_mod_cast hrange.2
  exact ⟨hlower, by omega⟩

/-- In a circuit of at most 32 instructions that passes the check, what has a number and means
something fits a byte. -/
theorem fitsByte_of_check (hcheck : circuit.check = .ok ()) (hsize : circuit.length ≤ 32)
    (hi : i ∈ circuit) (hmeans : ∀ raw, i ≠ .invalid raw) (hencode : encode i = .ok v) :
    i.FitsByte := by
  obtain ⟨address, hat⟩ := List.mem_iff_getElem?.mp hi
  have hentry := checkInstruction_of_check hcheck hat
  cases i with
  | jump target =>
    obtain ⟨n, htarget⟩ := target_of_encode hencode
    exact ⟨n, htarget, target_small hentry htarget hsize⟩
  | light segment branch =>
    simp only [checkInstruction] at hentry
    split at hentry
    · cases hentry
    · rename_i hbar
      have hbar' : Segment.isBar segment = true := by simpa using hbar
      obtain ⟨n, hbranch⟩ := branch_of_encode hencode
      split at hentry
      · cases hentry
      · exact ⟨hbar', n, hbranch, target_small hentry hbranch hsize⟩
  | invalid raw => exact absurd rfl (hmeans raw)
  | stray entry => cases hencode

/-- Instructions that fit bytes are found again in the list of their numbers. -/
theorem mapM_decode {bytes : List Int} (hfits : ∀ i ∈ circuit, i.FitsByte)
    (h : circuit.mapM encode = .ok bytes) :
    (bytes.map Value.int).mapM decode = .ok (circuit.map Instruction.counted) ∧
      ∀ v ∈ bytes, 0 ≤ v ∧ v ≤ 255 := by
  induction circuit generalizing bytes with
  | nil =>
    obtain rfl : [] = bytes := Except.ok.inj h
    exact ⟨rfl, by simp⟩
  | cons i rest ih =>
    obtain ⟨v, hencode, hlow, hhigh, hdecode⟩ := FitsByte.encode (hfits i (by simp))
    rw [List.mapM_cons, hencode] at h
    cases hrest : rest.mapM encode with
    | error fault => simp [hrest, bind, Except.bind] at h
    | ok others =>
      simp only [hrest, bind, Except.bind, pure, Except.pure, Except.ok.injEq] at h
      subst h
      obtain ⟨hall, hbytes⟩ := ih (fun j hj => hfits j (by simp [hj])) hrest
      have hdecode' : decode (.int v) = .ok i.counted := hdecode
      refine ⟨?_, ?_⟩
      · rw [List.map_cons, List.mapM_cons, hdecode', hall]
        rfl
      · intro w hw
        rcases List.mem_cons.mp hw with rfl | hmem
        · exact ⟨hlow, hhigh⟩
        · exact hbytes w hmem

/-- Instructions of which each has a number have a list of numbers, and the other way round. -/
theorem mapM_encode_ok_iff :
    (∃ bytes, circuit.mapM encode = .ok bytes) ↔ ∀ i ∈ circuit, ∃ v, encode i = .ok v := by
  induction circuit with
  | nil => exact ⟨fun _ => by simp, fun _ => ⟨[], rfl⟩⟩
  | cons i rest ih =>
    rw [List.forall_mem_cons, ← ih]
    cases hencode : encode i with
    | error fault => simp [List.mapM_cons, hencode, bind, Except.bind]
    | ok v =>
      cases hrest : rest.mapM encode with
      | error fault => simp [List.mapM_cons, hencode, hrest, bind, Except.bind]
      | ok bytes => simp [List.mapM_cons, hencode, hrest, bind, Except.bind, pure, Except.pure]

/-- In a circuit of whole numbers that passes the check, everything that means something has a
number. -/
theorem Whole.encode_ok (hwhole : circuit.Whole) (hcheck : circuit.check = .ok ())
    (hi : i ∈ circuit) (hmeans : ∀ raw, i ≠ .invalid raw) : ∃ v, encode i = .ok v := by
  obtain ⟨address, hat⟩ := List.mem_iff_getElem?.mp hi
  have hentry := checkInstruction_of_check hcheck hat
  cases i with
  | jump target =>
    obtain ⟨n, rfl⟩ := hwhole.target hi
    exact ⟨n, rfl⟩
  | light segment branch =>
    obtain ⟨n, rfl⟩ := hwhole.branch hi
    obtain ⟨⟨bar, rfl, hbar⟩, -⟩ := (drivable_of_check hwhole hcheck).light hat
    obtain ⟨k, c, hc, hsegment⟩ := isBar_iff.mp hbar
    obtain ⟨-, hplace⟩ := bar_place hc
    obtain rfl : bar = c.toString := Value.text.inj hsegment
    have htext : c.toString.toList = [c] := by simp
    exact ⟨packed (k + 1) n, by simp only [encode, htext, hplace, Value.index?_int]⟩
  | invalid raw => exact absurd rfl (hmeans raw)
  | stray entry => cases hentry

/-- **Instructions and bytes correspond.** An instruction compares as equal to what its number
stands for if and only if it fits a byte or is a jump to 256 or beyond; an instruction that fits a
byte is found again with its kind too, and its number is a byte, while the number of a jump beyond
is its target and means nothing. A whole number is found again in its instruction if and only if it
is a byte. So a circuit of at most 32 instructions that passes the check, each of which means
something, is read again from its bytes as it was, and it has bytes if its targets are whole
numbers. -/
theorem bytes_correspond :
    (∀ i : Instruction, (∃ j, (do decode (.int (← encode i))) = .ok j ∧ j.Same i) ↔
        i.FitsByte ∨ i.LeadsFar) ∧
      (∀ i : Instruction, (do decode (.int (← encode i))) = .ok i.counted ↔ i.FitsByte) ∧
      (∀ i : Instruction, i.FitsByte → ∃ v, encode i = .ok v ∧ 0 ≤ v ∧ v ≤ 255) ∧
      (∀ i : Instruction, i.LeadsFar → ∃ v, encode i = .ok v ∧ 256 ≤ v ∧
        decode (.int v) = .ok (.invalid (.int v))) ∧
      (∀ v : Int, (do encode (← decode (.int v))) = .ok v ↔ 0 ≤ v ∧ v < 256) ∧
      ∀ circuit : Circuit, circuit.check = .ok () → circuit.length ≤ 32 →
        (∀ raw, .invalid raw ∉ circuit) →
          (∀ bytes, circuit.mapM encode = .ok bytes → (∀ v ∈ bytes, 0 ≤ v ∧ v ≤ 255) ∧
            decodeAll (.list (bytes.map .int)) = .ok (circuit.map Instruction.counted)) ∧
          (circuit.Whole → (∃ bytes, circuit.mapM encode = .ok bytes) ∧
            circuit.map Instruction.counted = circuit) := by
  refine ⟨fun i => same_decode_encode_iff, fun i => decode_encode_iff, ?_, ?_,
    fun v => encode_decode_iff, ?_⟩
  · intro i hfits
    obtain ⟨v, hencode, hlow, hhigh, -⟩ := FitsByte.encode hfits
    exact ⟨v, hencode, hlow, hhigh⟩
  · intro i hfar
    obtain ⟨v, hencode, hlarge, hdecode, -⟩ := LeadsFar.encode hfar
    exact ⟨v, hencode, hlarge, hdecode⟩
  · intro circuit hcheck hsize hnone
    have hmeans {i : Instruction} (hi : i ∈ circuit) (raw : Value) : i ≠ .invalid raw := by
      rintro rfl
      exact hnone raw hi
    refine ⟨?_, ?_⟩
    · intro bytes hbytes
      have hnumbers := mapM_encode_ok_iff.mp ⟨bytes, hbytes⟩
      have hfits : ∀ i ∈ circuit, i.FitsByte := by
        intro i hi
        obtain ⟨v, hv⟩ := hnumbers i hi
        exact fitsByte_of_check hcheck hsize hi (hmeans hi) hv
      obtain ⟨hdecode, hrange⟩ := mapM_decode hfits hbytes
      exact ⟨hrange, hdecode⟩
    · intro hwhole
      have hnumbers : ∀ i ∈ circuit, ∃ v, encode i = .ok v :=
        fun i hi => hwhole.encode_ok hcheck hi (hmeans hi)
      exact ⟨mapM_encode_ok_iff.mpr hnumbers, hwhole.map_counted⟩

/-- The jump to 256 does not fit a byte, and still it compares as equal to what its number stands
for, which means nothing but holds the same number. -/
theorem far_jump_compares_equal :
    (∃ j, (do decode (.int (← encode (.jump (.int 256))))) = .ok j ∧ j.Same (.jump (.int 256))) ∧
      ¬ (Instruction.jump (.int 256)).FitsByte := by
  refine ⟨⟨.invalid (.int 256), rfl, rfl⟩, ?_⟩
  rintro ⟨n, htarget, -, hsmall⟩
  obtain rfl : 256 = n := Option.some.inj htarget
  omega

/-- The track survives as bytes. -/
theorem bytes_correspond_on_track : track.check = .ok () ∧ track.length ≤ 32 ∧
    (∀ raw, .invalid raw ∉ track) ∧ track.Whole ∧ ∃ bytes, track.mapM encode = .ok bytes ∧
      decodeAll (.list (bytes.map .int)) = .ok track := by
  have hcheck : track.check = .ok () := rfl
  have hsize : track.length ≤ 32 := by decide
  have hnone : ∀ raw, .invalid raw ∉ track := by simp [track, lit, back]
  obtain ⟨-, -, -, -, -, hcircuits⟩ := bytes_correspond
  obtain ⟨hread, hbytes⟩ := hcircuits track hcheck hsize hnone
  obtain ⟨⟨bytes, hencode⟩, hsame⟩ := hbytes track_whole
  obtain ⟨-, hdecode⟩ := hread bytes hencode
  rw [hsame] at hdecode
  exact ⟨hcheck, hsize, hnone, track_whole, bytes, hencode, hdecode⟩

end Circuit

end DigitRace
