import DigitRace.Proofs.Race.Sound
import Mathlib.Data.List.Perm.Subperm
import Mathlib.Order.Bounds.Defs

/-!
# What the check of a circuit decides

For circuits whose targets are whole numbers the check is exact. It accepts just the
circuits that are `Valid`; of an entry that is flawed by itself it names the least
address; and where all entries are sound, it names the least address from which jumps go
on for ever, so that a car sent there would never come to rest. To name an address it has
to word its objection, which fails where a number that it quotes has more digits than may
be written, if there is such a limit.

The walk along a chain of jumps keeps the addresses it has passed. Where there is a
landing, all of them are farther from it than the walk is, so the walk never comes back to
one. Where there is none, they are distinct addresses of the circuit, so the walk comes
back to one before it has looked at more addresses than there are.
-/

namespace DigitRace

namespace Circuit

/-- A segment that is one of the bars of the digit. -/
def NamesBar (segment : Value) : Prop :=
  ∃ bar ∈ Segment.bars, segment = .text bar.toString

/-- An address that lies within the circuit. -/
def Contains (circuit : Circuit) (address : Int) : Prop :=
  0 ≤ address ∧ address < circuit.length

instance (circuit : Circuit) (address : Int) : Decidable (circuit.Contains address) :=
  inferInstanceAs (Decidable (_ ∧ _))

/-- From an address jumps lead to an instruction that holds the car. -/
def Ends (circuit : Circuit) (n : Nat) : Prop :=
  ∃ jumps stop, Lands circuit n jumps stop

/-- What is asked of a circuit of whole numbers. -/
structure Valid (circuit : Circuit) : Prop where
  nonempty : circuit ≠ []
  instruction : ∀ entry, .stray entry ∉ circuit
  bar : ∀ {segment branch}, .light segment branch ∈ circuit → NamesBar segment
  last : ∀ segment branch, circuit.getLast? ≠ some (.light segment branch)
  jump : ∀ {target : Int}, .jump (.int target) ∈ circuit → circuit.Contains target
  branch : ∀ {segment} {target : Int}, .light segment (.int target) ∈ circuit →
    circuit.Contains target
  ends : ∀ n < circuit.length, circuit.Ends n

/-- What can be wrong with the entry at an address by itself. -/
inductive Flawed (circuit : Circuit) (n : Nat) : Prop
  | stray {entry : Value} : circuit[n]? = some (.stray entry) → Flawed circuit n
  | segment {segment branch : Value} : circuit[n]? = some (.light segment branch) →
      ¬NamesBar segment → Flawed circuit n
  | last {segment branch : Value} : circuit[n]? = some (.light segment branch) →
      n + 1 = circuit.length → Flawed circuit n
  | jump {target : Int} : circuit[n]? = some (.jump (.int target)) →
      ¬circuit.Contains target → Flawed circuit n
  | branch {segment : Value} {target : Int} :
      circuit[n]? = some (.light segment (.int target)) →
      ¬circuit.Contains target → Flawed circuit n

/-- The address that an objection names. -/
def Defect.address? : Defect → Option Nat
  | .empty => none
  | .badSegment address _ | .runsPastEnd address | .notInstruction address _
  | .targetOutOfRange address _ | .endlessJumps address => some address

/-- The wording of an objection begins with the address it is about. -/
theorem Defect.wording_of_address {defect : Defect} {n : Nat} (h : defect.address? = some n) :
    ∃ text : String, defect.wording = s!"address {n}: {text}" := by
  have hsplit (first rest : String) : "address " ++ toString n ++ (": " ++ first) ++ rest =
      "address " ++ toString n ++ ": " ++ (first ++ rest) := by
    simp only [String.append_assoc]
  cases defect with
  | empty => cases h
  | badSegment address segment =>
    obtain rfl : address = n := Option.some.inj h
    exact ⟨_, hsplit "bad segment " segment.printed⟩
  | runsPastEnd address =>
    obtain rfl : address = n := Option.some.inj h
    exact ⟨"program runs past its end", by simp only [wording, String.append_assoc]; rfl⟩
  | notInstruction address entry =>
    obtain rfl : address = n := Option.some.inj h
    exact ⟨_, hsplit "not an instruction: " entry.printed⟩
  | targetOutOfRange address target =>
    obtain rfl : address = n := Option.some.inj h
    have hwording : (targetOutOfRange address target).wording =
        "address " ++ toString address ++ (": " ++ "target ") ++
          (target.plain ++ " out of range") :=
      String.append_assoc ..
    exact ⟨_, hwording.trans (hsplit _ _)⟩
  | endlessJumps address =>
    obtain rfl : address = n := Option.some.inj h
    exact ⟨"endless jump chain", by simp only [wording, String.append_assoc]; rfl⟩

/-- An objection names the address of an entry: what is said begins with it. Where there is a limit
to the digits of a number that is written, the same is said, unless the objection quotes from that
entry a number with more digits. -/
structure Defect.Names (circuit : Circuit) (n : Nat) (defect : Defect) : Prop where
  begins : ∃ text : String, defect.message none = s!"address {n}: {text}"
  quotes : ∀ value ∈ defect.quoted, ∃ i, circuit[n]? = some i ∧ value ∈ i.parts
  within {digits : Nat} : (∀ value ∈ defect.quoted, value.fits digits = true) →
    defect.message (some digits) = defect.message none
  beyond {digits : Nat} : (∃ value ∈ defect.quoted, value.fits digits = false) →
    defect.message (some digits) = Defect.tooLong digits

variable {circuit : Circuit}

/-! ## Entries by themselves -/

/-- What is said of an objection that quotes the entry at its address. -/
theorem Defect.names_of_address {defect : Defect} {n : Nat} {i : Instruction}
    (hi : circuit[n]? = some i) (hquoted : ∀ value ∈ defect.quoted, value ∈ i.parts)
    (h : defect.address? = some n) : defect.Names circuit n where
  begins := defect.wording_of_address h
  quotes value hvalue := ⟨i, hi, hquoted value hvalue⟩
  within hfit := if_pos (List.all_eq_true.mpr hfit)
  beyond hlong := by
    obtain ⟨value, hvalue, hlong⟩ := hlong
    refine if_neg fun hfit => ?_
    rw [List.all_eq_true.mp hfit value hvalue] at hlong
    cases hlong

theorem namesBar_iff {segment : Value} : NamesBar segment ↔ Segment.isBar segment = true := by
  rw [isBar_iff]
  constructor
  · rintro ⟨bar, hbar, rfl⟩
    obtain ⟨k, hk⟩ := List.mem_iff_getElem?.mp hbar
    exact ⟨k, bar, hk, rfl⟩
  · rintro ⟨k, bar, hk, rfl⟩
    exact ⟨bar, List.mem_of_getElem? hk, rfl⟩

/-- A whole target is objected to if it leads out of the circuit. -/
theorem checkTarget_of_int {address : Nat} {target : Int} :
    (circuit.Contains target → checkTarget circuit.length address (.int target) = .ok ()) ∧
      (¬circuit.Contains target → checkTarget circuit.length address (.int target) =
        .error (.rejected (.targetOutOfRange address (.int target)))) := by
  have hrange : ((0 : Rat) ≤ (target : Rat) ∧ (target : Rat) < (circuit.length : Rat)) ↔
      circuit.Contains target := by
    unfold Contains
    exact_mod_cast Iff.rfl
  constructor <;> intro h <;>
    simp only [checkTarget, Value.number_int, bind, Except.bind, hrange, h, if_true, if_false]

/-- Nothing is objected to an entry without a flaw. -/
theorem checkInstruction_of_not_flawed (hwhole : circuit.Whole) {n : Nat} {i : Instruction}
    (hi : circuit[n]? = some i) (h : ¬circuit.Flawed n) :
    checkInstruction circuit.length n i = .ok () := by
  cases i with
  | invalid => rfl
  | stray => exact absurd (.stray hi) h
  | jump target =>
    obtain ⟨t, rfl⟩ := hwhole.target (List.mem_of_getElem? hi)
    exact checkTarget_of_int.1 (not_not.mp fun hout => h (.jump hi hout))
  | light segment branch =>
    obtain ⟨t, rfl⟩ := hwhole.branch (List.mem_of_getElem? hi)
    have hbar := namesBar_iff.mp (not_not.mp fun hout => h (.segment hi hout))
    have hlast : ¬n + 1 = circuit.length := fun hlast => h (.last hi hlast)
    simp only [checkInstruction, hbar, hlast, Bool.not_true, Bool.false_eq_true, if_false]
    exact checkTarget_of_int.1 (not_not.mp fun hout => h (.branch hi hout))

/-- To a flawed entry there is an objection, and it names the entry's address. -/
theorem Flawed.checkInstruction {n : Nat} (h : circuit.Flawed n) :
    ∃ i defect, circuit[n]? = some i ∧
      checkInstruction circuit.length n i = .error (.rejected defect) ∧
      defect.Names circuit n := by
  -- a light with several flaws is objected to for the first that the check looks at
  have hlight {segment branch : Value} (hi : circuit[n]? = some (.light segment branch))
      (hflaw : ¬NamesBar segment ∨ n + 1 = circuit.length ∨
        ∃ t : Int, branch = .int t ∧ ¬circuit.Contains t) :
      ∃ i defect, circuit[n]? = some i ∧
        Circuit.checkInstruction circuit.length n i = .error (.rejected defect) ∧
        defect.Names circuit n := by
    by_cases hbar : Segment.isBar segment = true
    · by_cases hlast : n + 1 = circuit.length
      · refine ⟨_, .runsPastEnd n, hi, ?_, Defect.names_of_address hi nofun rfl⟩
        simp [Circuit.checkInstruction, hbar, hlast]
      · obtain ⟨t, rfl, hout⟩ :=
          (hflaw.resolve_left fun h => h (namesBar_iff.mpr hbar)).resolve_left hlast
        refine ⟨_, .targetOutOfRange n (.int t), hi, ?_,
          Defect.names_of_address hi (by simp [Defect.quoted, Instruction.parts]) rfl⟩
        simp only [Circuit.checkInstruction, hbar, hlast, Bool.not_true, Bool.false_eq_true,
          if_false, checkTarget_of_int.2 hout]
    · refine ⟨_, .badSegment n segment, hi, ?_,
        Defect.names_of_address hi (by simp [Defect.quoted, Instruction.parts]) rfl⟩
      simp [Circuit.checkInstruction, hbar]
  cases h with
  | stray hi => exact ⟨_, _, hi, rfl, Defect.names_of_address hi (fun _ => id) rfl⟩
  | segment hi hbar => exact hlight hi (.inl hbar)
  | last hi hlast => exact hlight hi (.inr (.inl hlast))
  | jump hi hout =>
    exact ⟨_, _, hi, checkTarget_of_int.2 hout, Defect.names_of_address hi (fun _ => id) rfl⟩
  | branch hi hout => exact hlight hi (.inr (.inr ⟨_, rfl, hout⟩))

/-- If nothing is objected to any entry, nothing is objected to all of them. -/
theorem checkFrom_of_forall {size address : Nat} {rest : Circuit}
    (h : ∀ k i, rest[k]? = some i → checkInstruction size (address + k) i = .ok ()) :
    checkFrom size address rest = .ok () := by
  induction rest generalizing address with
  | nil => rfl
  | cons first rest ih =>
    have hfirst := h 0 first rfl
    rw [Nat.add_zero] at hfirst
    simp only [checkFrom, bind, Except.bind, hfirst]
    refine ih fun k i hi => ?_
    rw [Nat.add_assoc, Nat.add_comm 1 k]
    exact h (k + 1) i (by simpa using hi)

/-- The objection to the first entry that is objected to is the one that is made. -/
theorem checkFrom_of_first {size address : Nat} {rest : Circuit} {fault : Fault} {k : Nat}
    {i : Instruction} (hi : rest[k]? = some i)
    (hfault : checkInstruction size (address + k) i = .error fault)
    (hbefore : ∀ l < k, ∀ j, rest[l]? = some j → checkInstruction size (address + l) j = .ok ()) :
    checkFrom size address rest = .error fault := by
  induction rest generalizing address k with
  | nil => simp at hi
  | cons first rest ih =>
    cases k with
    | zero =>
      obtain rfl : first = i := by simpa using hi
      rw [Nat.add_zero] at hfault
      simp only [checkFrom, bind, Except.bind, hfault]
    | succ k =>
      have hfirst := hbefore 0 (Nat.succ_pos k) first rfl
      rw [Nat.add_zero] at hfirst
      simp only [checkFrom, bind, Except.bind, hfirst]
      have hshift (l : Nat) : address + 1 + l = address + (l + 1) := by omega
      refine ih (by simpa using hi) (hshift k ▸ hfault) fun l hl j hj => ?_
      rw [hshift l]
      exact hbefore (l + 1) (by omega) j (by simpa using hj)

/-! ## Chains of jumps -/

/-- Without flaws, jumps stay within the circuit. -/
theorem jump_within (hwhole : circuit.Whole) (hsound : ∀ n, ¬circuit.Flawed n) {n : Nat}
    {target : Value} (hi : circuit[n]? = some (.jump target)) :
    ∃ m : Nat, target = .int m ∧ m < circuit.length := by
  obtain ⟨t, rfl⟩ := hwhole.target (List.mem_of_getElem? hi)
  have hin : circuit.Contains t := not_not.mp fun hout => hsound n (.jump hi hout)
  obtain ⟨m, rfl⟩ := Int.eq_ofNat_of_zero_le hin.1
  exact ⟨m, rfl, Int.ofNat_lt.mp hin.2⟩

/-- The walk ends where the car is held. -/
theorem settles_held {limit n : Nat} {passed : List (Option Int)} {i : Instruction}
    (hi : circuit[n]? = some i) (hholds : i.Holds) :
    settles circuit (limit + 1) passed (.int n) = .ok true := by
  obtain ⟨hn, rfl⟩ := List.getElem?_eq_some_iff.mp hi
  simp only [settles, fetch_natCast hn, bind, Except.bind]
  cases hkind : circuit[n] with
  | jump target => exact absurd hkind (hholds target)
  | _ => rfl

/-- At a jump the walk goes on to the target, unless it has been at the jump before. -/
theorem settles_jump {limit n : Nat} {passed : List (Option Int)} {target : Value}
    (hi : circuit[n]? = some (.jump target)) :
    settles circuit (limit + 1) passed (.int n) =
      if some (n : Int) ∈ passed then .ok false
      else settles circuit limit (some (n : Int) :: passed) target := by
  obtain ⟨hn, hjump⟩ := List.getElem?_eq_some_iff.mp hi
  simp [settles, fetch_natCast hn, hjump, bind, Except.bind, Value.index?]

/-- With a landing ahead, the walk comes to it: every address passed has the same landing, after
more jumps. -/
theorem Lands.settles {limit n jumps stop : Nat} {passed : List (Option Int)}
    (h : Lands circuit n jumps stop) (hlimit : jumps < limit)
    (hpassed : ∀ m : Nat, some (m : Int) ∈ passed → ∃ left, jumps < left ∧
      Lands circuit m left stop) :
    Circuit.settles circuit limit passed (.int n) = .ok true := by
  obtain ⟨limit, rfl⟩ : ∃ k, limit = k + 1 := ⟨limit - 1, by omega⟩
  induction h generalizing limit passed with
  | held hi hholds => exact settles_held hi hholds
  | @jump n target jumps stop hi hrest ih =>
    have hnew : some (n : Int) ∉ passed := by
      intro hmem
      obtain ⟨left, hleft, hlands⟩ := hpassed n hmem
      have hsame := (hlands.unique (.jump hi hrest)).1
      omega
    rw [settles_jump hi, if_neg hnew]
    obtain ⟨limit, rfl⟩ : ∃ k, limit = k + 1 := ⟨limit - 1, by omega⟩
    refine ih (fun m hmem => ?_) limit (by omega)
    rcases List.mem_cons.mp hmem with hhere | hbefore
    · obtain rfl : m = n := Int.ofNat_inj.mp (Option.some.inj hhere)
      exact ⟨jumps + 1, by omega, .jump hi hrest⟩
    · obtain ⟨left, hleft, hlands⟩ := hpassed m hbefore
      exact ⟨left, by omega, hlands⟩

/-- Different addresses of the circuit are no more than its instructions. -/
theorem length_le_of_passed {passed : List (Option Int)} (hnodup : passed.Nodup)
    (hin : ∀ a ∈ passed, ∃ m : Nat, a = some (m : Int) ∧ m < circuit.length) :
    passed.length ≤ circuit.length := by
  have hsub : passed ⊆ (List.range circuit.length).map fun m : Nat => some (m : Int) := by
    intro a ha
    obtain ⟨m, rfl, hm⟩ := hin a ha
    exact List.mem_map.mpr ⟨m, List.mem_range.mpr hm, rfl⟩
  simpa using (hnodup.subperm hsub).length_le

/-- Without a landing ahead, the walk comes back to where it was before it has looked at more
addresses than there are. -/
theorem settles_of_not_ends {limit n : Nat} {passed : List (Option Int)}
    (hwithin : ∀ {n : Nat} {target : Value}, circuit[n]? = some (.jump target) →
      ∃ m : Nat, target = .int m ∧ m < circuit.length)
    (hn : n < circuit.length) (hends : ¬circuit.Ends n) (hnodup : passed.Nodup)
    (hin : ∀ a ∈ passed, ∃ m : Nat, a = some (m : Int) ∧ m < circuit.length)
    (hlimit : circuit.length < limit + passed.length) :
    settles circuit limit passed (.int n) = .ok false := by
  induction limit generalizing n passed with
  | zero =>
    have hfull := length_le_of_passed hnodup hin
    omega
  | succ limit ih =>
    have hi : circuit[n]? = some circuit[n] := List.getElem?_eq_getElem hn
    obtain ⟨target, htarget⟩ : ∃ target, circuit[n] = .jump target := by
      by_contra hholds
      exact hends ⟨0, n, .held hi fun target h => hholds ⟨target, h⟩⟩
    rw [htarget] at hi
    obtain ⟨m, rfl, hm⟩ := hwithin hi
    have hends' : ¬circuit.Ends m :=
      fun ⟨jumps, stop, hlands⟩ => hends ⟨jumps + 1, stop, .jump hi hlands⟩
    rw [settles_jump hi]
    split
    · rfl
    · rename_i hnew
      have hlimit' : circuit.length < limit + (some (n : Int) :: passed).length := by
        simp only [List.length_cons]
        omega
      refine ih hm hends' (List.nodup_cons.mpr ⟨hnew, hnodup⟩) ?_ hlimit'
      intro a ha
      rcases List.mem_cons.mp ha with rfl | hbefore
      · exact ⟨n, rfl, hn⟩
      · exact hin a hbefore

/-- A walk that begins at an address with a landing comes to it. -/
theorem Lands.settles_afresh {n jumps stop : Nat} (h : Lands circuit n jumps stop) :
    Circuit.settles circuit (circuit.length + 1) [] (.int n) = .ok true :=
  h.settles (Nat.lt_succ_of_lt h.jumps_lt_length) (by simp)

/-- Where all the given addresses have a landing, nothing is objected to them. -/
theorem checkChains_of_ends {addresses : List Nat} (h : ∀ n ∈ addresses, circuit.Ends n) :
    checkChains circuit addresses = .ok () := by
  induction addresses with
  | nil => rfl
  | cons first rest ih =>
    obtain ⟨jumps, stop, hlands⟩ := h first List.mem_cons_self
    simp only [checkChains, bind, Except.bind, hlands.settles_afresh, if_true]
    exact ih fun n hn => h n (List.mem_cons_of_mem _ hn)

/-- The first of the given addresses that has no landing is the one that is objected to. -/
theorem checkChains_of_first (hwithin : ∀ {n : Nat} {target : Value},
      circuit[n]? = some (.jump target) → ∃ m : Nat, target = .int m ∧ m < circuit.length)
    {before after : List Nat} {n : Nat} (hbefore : ∀ m ∈ before, circuit.Ends m)
    (hn : n < circuit.length) (hends : ¬circuit.Ends n) :
    checkChains circuit (before ++ n :: after) = .error (.rejected (.endlessJumps n)) := by
  induction before with
  | nil =>
    have hback : settles circuit (circuit.length + 1) [] (.int n) = .ok false :=
      settles_of_not_ends hwithin hn hends List.nodup_nil (by simp) (by simp)
    simp [checkChains, bind, Except.bind, hback]
  | cons first before ih =>
    obtain ⟨jumps, stop, hlands⟩ := hbefore first List.mem_cons_self
    simp only [List.cons_append, checkChains, bind, Except.bind, hlands.settles_afresh, if_true]
    exact ih fun m hm => hbefore m (List.mem_cons_of_mem _ hm)

/-- A car on a chain of jumps without a landing does not come to rest, however far it is
followed. -/
theorem follow_of_not_ends (hwithin : ∀ {n : Nat} {target : Value},
      circuit[n]? = some (.jump target) → ∃ m : Nat, target = .int m ∧ m < circuit.length)
    {n : Nat} (hends : ¬circuit.Ends n) {race : Race} (hcircuit : race.circuit = circuit)
    (hcurrent : circuit[n]? = some race.current) (limit : Nat) :
    ∃ race', Race.follow limit race = .error .endlessDrive race' := by
  induction limit generalizing n race with
  | zero => exact ⟨race, rfl⟩
  | succ limit ih =>
    obtain ⟨target, htarget⟩ : ∃ target, race.current = .jump target := by
      by_contra hholds
      exact hends ⟨0, n, .held hcurrent fun target h => hholds ⟨target, h⟩⟩
    rw [htarget] at hcurrent
    obtain ⟨m, rfl, hm⟩ := hwithin hcurrent
    have hends' : ¬circuit.Ends m :=
      fun ⟨jumps, stop, hlands⟩ => hends ⟨jumps + 1, stop, .jump hcurrent hlands⟩
    have hm' := List.getElem?_eq_getElem hm
    have hfetch : Race.fetch { race with address := .int m } =
        .ok ⟨⟩ { race with address := .int m, current := circuit[m] } :=
      Race.fetch_apply rfl (by rw [← hm', hcircuit])
    let arrived : Race := { race with address := .int m, current := circuit[m] }
    have hcircuit' : arrived.circuit = circuit := hcircuit
    obtain ⟨race', hfollow⟩ := ih hends' hcircuit' hm'
    refine ⟨race', ?_⟩
    rw [htarget] at hfetch
    simp only [Race.follow, Act.bind_apply, Act.get_apply, htarget, Act.modify_apply, hfetch]
    exact hfollow

/-! ## The whole check -/

/-- Entries without flaws pass, and what remains is the check of the chains. -/
theorem check_of_sound (hwhole : circuit.Whole) (hpos : 0 < circuit.length)
    (hsound : ∀ n, ¬circuit.Flawed n) :
    circuit.check = checkChains circuit (List.range circuit.length) := by
  have hentries : checkFrom circuit.length 0 circuit = .ok () :=
    checkFrom_of_forall fun k i hi => by
      rw [Nat.zero_add]
      exact checkInstruction_of_not_flawed hwhole hi (hsound k)
  rw [check_of_pos hpos, hentries]
  rfl

/-- Of the flawed entries the one at the least address is objected to. -/
theorem check_of_flawed (hwhole : circuit.Whole) {n : Nat}
    (hleast : IsLeast {m | circuit.Flawed m} n) :
    ∃ defect, circuit.check = .error (.rejected defect) ∧ defect.Names circuit n := by
  have hflawed : circuit.Flawed n := hleast.1
  obtain ⟨i, defect, hi, hobjects, hnames⟩ := hflawed.checkInstruction
  have hn : n < circuit.length := (List.getElem?_eq_some_iff.mp hi).1
  have hentries : checkFrom circuit.length 0 circuit = .error (.rejected defect) := by
    refine checkFrom_of_first hi (by rwa [Nat.zero_add]) fun l hl j hj => ?_
    rw [Nat.zero_add]
    exact checkInstruction_of_not_flawed hwhole hj fun h => Nat.not_le.mpr hl (hleast.2 h)
  refine ⟨defect, ?_, hnames⟩
  rw [check_of_pos (Nat.zero_lt_of_lt hn), hentries]
  rfl

/-- Of the addresses without a landing the least is objected to, if no entry is flawed. -/
theorem check_of_endless (hwhole : circuit.Whole) (hsound : ∀ n, ¬circuit.Flawed n) {n : Nat}
    (hleast : IsLeast {m | m < circuit.length ∧ ¬circuit.Ends m} n) :
    circuit.check = .error (.rejected (.endlessJumps n)) := by
  obtain ⟨⟨hn, hends⟩, hlower⟩ := hleast
  have hsplit : List.range circuit.length =
      List.range n ++ n :: (List.range (circuit.length - n - 1)).map (n + 1 + ·) := by
    have hlength : circuit.length = n + (1 + (circuit.length - n - 1)) := by omega
    conv_lhs => rw [hlength, List.range_add, List.range_add]
    simp [List.map_map, Function.comp_def, Nat.add_assoc]
  rw [check_of_sound hwhole (Nat.zero_lt_of_lt hn) hsound, hsplit]
  refine checkChains_of_first (jump_within hwhole hsound) (fun m hm => ?_) hn hends
  have hm := List.mem_range.mp hm
  by_contra hnot
  exact Nat.not_le.mpr hm (hlower ⟨by omega, hnot⟩)

theorem Valid.not_flawed (h : circuit.Valid) (n : Nat) : ¬circuit.Flawed n := by
  intro hflawed
  cases hflawed with
  | stray hi => exact h.instruction _ (List.mem_of_getElem? hi)
  | segment hi hbar => exact hbar (h.bar (List.mem_of_getElem? hi))
  | @last segment branch hi hlast =>
    refine h.last segment branch ?_
    rw [List.getLast?_eq_getElem?, ← hlast, Nat.add_sub_cancel]
    exact hi
  | jump hi hout => exact hout (h.jump (List.mem_of_getElem? hi))
  | branch hi hout => exact hout (h.branch (List.mem_of_getElem? hi))

/-- With an instruction, no flaw and a landing everywhere a circuit is valid. -/
theorem valid_of_sound (hpos : 0 < circuit.length) (hsound : ∀ n, ¬circuit.Flawed n)
    (hends : ∀ n < circuit.length, circuit.Ends n) : circuit.Valid where
  nonempty := List.length_pos_iff.mp hpos
  instruction entry hmem := by
    obtain ⟨n, hn⟩ := List.mem_iff_getElem?.mp hmem
    exact hsound n (.stray hn)
  bar hmem := by
    obtain ⟨n, hn⟩ := List.mem_iff_getElem?.mp hmem
    exact not_not.mp fun hbar => hsound n (.segment hn hbar)
  last segment branch hlast := by
    rw [List.getLast?_eq_getElem?] at hlast
    exact hsound _ (.last hlast (by omega))
  jump hmem := by
    obtain ⟨n, hn⟩ := List.mem_iff_getElem?.mp hmem
    exact not_not.mp fun hout => hsound n (.jump hn hout)
  branch hmem := by
    obtain ⟨n, hn⟩ := List.mem_iff_getElem?.mp hmem
    exact not_not.mp fun hout => hsound n (.branch hn hout)
  ends := hends

theorem Valid.check (hwhole : circuit.Whole) (h : circuit.Valid) : circuit.check = .ok () := by
  rw [check_of_sound hwhole (List.length_pos_iff.mpr h.nonempty) h.not_flawed]
  exact checkChains_of_ends fun n hn => h.ends n (List.mem_range.mp hn)

/-- The four ways a check can come out: nothing is there, an entry is flawed, jumps do not end
somewhere, or all is well. -/
theorem check_cases (circuit : Circuit) :
    circuit = [] ∨ (∃ n, IsLeast {m | circuit.Flawed m} n) ∨
      (circuit ≠ [] ∧ (∀ n, ¬circuit.Flawed n) ∧
        ∃ n, IsLeast {m | m < circuit.length ∧ ¬circuit.Ends m} n) ∨ circuit.Valid := by
  classical
  have hleast {p : Nat → Prop} (h : ∃ n, p n) : ∃ n, IsLeast {m | p m} n :=
    ⟨Nat.find h, Nat.find_spec h, fun _ hm => Nat.find_min' h hm⟩
  by_cases hempty : circuit = []
  · exact .inl hempty
  by_cases hflawed : ∃ n, circuit.Flawed n
  · exact .inr (.inl (hleast hflawed))
  have hsound : ∀ n, ¬circuit.Flawed n := not_exists.mp hflawed
  by_cases hendless : ∃ n, n < circuit.length ∧ ¬circuit.Ends n
  · exact .inr (.inr (.inl ⟨hempty, hsound, hleast hendless⟩))
  refine .inr (.inr (.inr (valid_of_sound (List.length_pos_iff.mpr hempty) hsound fun n hn => ?_)))
  exact not_not.mp fun hends => hendless ⟨n, hn, hends⟩

/-- A roundabout that is entered at address 1. -/
def roundabout : Circuit := [.invalid (.int 0), .jump (.int 2), .jump (.int 3), .jump (.int 2)]

/-- A circuit whose second entry leads out of it, and whose last is a light. -/
def unfinished : Circuit := [.jump (.int 2), .jump (.int 5), .light (.text "a") (.int 0)]

/-- The least address that has more digits than a number may have to be written. -/
def remoteAddress : Nat := Nat.pow 10 Value.digitLimit

/-- A jump to that address. -/
def remote : Circuit := [.jump (.int remoteAddress)]

/-- There is no way out of the roundabout. -/
theorem roundabout_lands {n jumps stop : Nat} (h : Lands roundabout n jumps stop) : n = 0 := by
  induction h with
  | @held n i hi hholds =>
    rcases n with _ | _ | _ | _ | n
    · rfl
    all_goals
      simp only [roundabout, Nat.zero_add, Nat.reduceAdd, List.getElem?_cons_succ,
        List.getElem?_cons_zero, List.getElem?_nil, Option.some.injEq, reduceCtorEq] at hi
    all_goals exact absurd hi.symm (hholds _)
  | @jump n target jumps stop hi _ ih =>
    subst ih
    rcases n with _ | _ | _ | _ | n <;> simp [roundabout] at hi

/-- No entry of the roundabout is flawed by itself. -/
theorem roundabout_sound (n : Nat) : ¬roundabout.Flawed n := by
  intro h
  obtain ⟨i, defect, hi, hobjects, -⟩ := h.checkInstruction
  rcases n with _ | _ | _ | _ | n
  all_goals cases hi
  all_goals cases hobjects

/-- The roundabout is entered at address 1 for the first time. -/
theorem roundabout_isLeast : IsLeast {m | m < roundabout.length ∧ ¬roundabout.Ends m} 1 := by
  refine ⟨⟨by decide, fun ⟨_, _, h⟩ => absurd (roundabout_lands h) (by decide)⟩, ?_⟩
  rintro m ⟨-, hends⟩
  refine Nat.pos_of_ne_zero fun hm => hends ⟨0, 0, ?_⟩
  subst hm
  exact .held rfl fun _ h => by cases h

/-- The first entry of the unfinished circuit is sound, and the second is not. -/
theorem unfinished_isLeast : IsLeast {m | unfinished.Flawed m} 1 := by
  have hout : ¬unfinished.Contains 5 := by decide
  refine ⟨.jump rfl hout, fun m hm => Nat.pos_of_ne_zero fun hzero => ?_⟩
  subst hzero
  obtain ⟨i, defect, hi, hobjects, -⟩ := Flawed.checkInstruction hm
  cases hi
  cases hobjects

theorem remote_not_contains : ¬remote.Contains remoteAddress := by
  have hone : remote.length = 1 := rfl
  have hpow (digits : Nat) (h : digits ≠ 0) : 1 < Nat.pow 10 digits := Nat.one_lt_pow h (by decide)
  have hlarge : 1 < remoteAddress := by
    unfold remoteAddress
    exact hpow _ (by decide)
  rintro ⟨-, hbelow⟩
  rw [hone] at hbelow
  exact Nat.lt_asymm hlarge (Int.ofNat_lt.mp hbelow)

theorem remote_not_fits : (Value.int remoteAddress).fits Value.digitLimit = false := by
  unfold remoteAddress
  exact Value.not_fits_pow _

theorem check_remote :
    remote.check = .error (.rejected (.targetOutOfRange 0 (.int remoteAddress))) := by
  have htarget := (@checkTarget_of_int remote 0 remoteAddress).2 remote_not_contains
  rw [check_of_pos (by decide)]
  simp only [remote, checkFrom, checkInstruction] at htarget ⊢
  rw [htarget]
  rfl

end Circuit

end DigitRace
