import DigitRace.Segment.Glyph
import Mathlib.Data.Char
import Mathlib.Data.List.Sort

/-!
# Canonical patterns

A pattern may name segments in any order, more than once, and others that do not exist. Its
canonical form names those that exist in alphabetical order, each once, so that two patterns have
the same canonical form if and only if they light the same segments. Every glyph is canonical.
-/

namespace DigitRace

namespace Segment

variable {p q : String}

/-- Two patterns light the same segments. -/
def Alike (p q : String) : Prop :=
  ∀ id ∈ ids, (id ∈ p.toList ↔ id ∈ q.toList)

instance (p q : String) : Decidable (Alike p q) :=
  inferInstanceAs (Decidable (∀ id ∈ ids, (id ∈ p.toList ↔ id ∈ q.toList)))

theorem Alike.refl (p : String) : Alike p p := fun _ _ => Iff.rfl

theorem Alike.symm (h : Alike p q) : Alike q p := fun id hid => (h id hid).symm

theorem Alike.trans {r : String} (hpq : Alike p q) (hqr : Alike q r) : Alike p r :=
  fun id hid => (hpq id hid).trans (hqr id hid)

theorem Alike.contains (h : Alike p q) {id : Char} (hid : id ∈ ids) :
    p.toList.contains id = q.toList.contains id := by
  simpa using h id hid

/-- The canonical form lights what the pattern lights. -/
theorem alike_canonical (p : String) : Alike (canonical p) p := by
  intro id hid
  simp [hid]

/-- Two patterns have the same canonical form just if they light the same segments. -/
theorem canonical_eq_iff : canonical p = canonical q ↔ Alike p q := by
  constructor
  · intro h
    exact ((alike_canonical p).symm.trans (h ▸ .refl _)).trans (alike_canonical q)
  · intro h
    refine congrArg String.ofList (List.filter_congr fun id hid => ?_)
    exact h.contains hid

theorem filterAuxM_ok {α : Type} (f : α → Bool) (items kept : List α) :
    items.filterAuxM (fun item => (.ok (f item) : Except Fault Bool)) kept =
      .ok ((items.filter f).reverse ++ kept) := by
  induction items generalizing kept with
  | nil => rfl
  | cons item rest ih =>
    have hnext := ih (cond (f item) (item :: kept) kept)
    cases hitem : f item with
    | true => simpa [hitem, List.filterAuxM, Except.bind, bind] using hnext
    | false => simpa [hitem, List.filterAuxM, Except.bind, bind] using hnext

/-- A text can serve as a pattern. -/
theorem canonical?_text (pattern : String) :
    canonical? (.text pattern) = .ok (canonical pattern) := by
  have hlit : ids.filterAuxM (lights (.text pattern)) [] =
      .ok ((ids.filter pattern.toList.contains).reverse ++ []) :=
    filterAuxM_ok pattern.toList.contains ids []
  simp [canonical?, List.filterM, hlit, canonical]

/-! ## Patterns in canonical form -/

/-- A pattern names segments in the order of the known ones, each once. -/
def IsCanonical (p : String) : Prop :=
  p.toList.Sublist ids

instance (p : String) : Decidable (IsCanonical p) :=
  inferInstanceAs (Decidable (p.toList.Sublist ids))

theorem isCanonical_canonical (p : String) : IsCanonical (canonical p) := by
  rw [IsCanonical, toList_canonical]
  exact List.filter_sublist

/-- The order of the segments is alphabetical. -/
theorem IsCanonical.pairwise_lt (h : IsCanonical p) : p.toList.Pairwise (· < ·) := by
  have hids : ids.Pairwise (· < ·) := by decide
  exact hids.sublist h

theorem mem_canonical {id : Char} :
    id ∈ (canonical p).toList ↔ id ∈ ids ∧ id ∈ p.toList := by
  simp

/-- Canonical patterns are told apart by the segments that they light. -/
theorem IsCanonical.eq_of_alike (hp : IsCanonical p) (hq : IsCanonical q) (h : Alike p q) :
    p = q := by
  have hsame (id : Char) : id ∈ p.toList ↔ id ∈ q.toList := by
    by_cases hid : id ∈ ids
    · exact h id hid
    · exact iff_of_false (fun hmem => hid (hp.subset hmem)) fun hmem => hid (hq.subset hmem)
  exact String.toList_injective (hp.pairwise_lt.eq_of_mem_iff hq.pairwise_lt hsame)

theorem canonical_eq_self_iff : canonical p = p ↔ IsCanonical p := by
  constructor
  · intro h
    rw [← h]
    exact isCanonical_canonical p
  · intro h
    exact (isCanonical_canonical p).eq_of_alike h (alike_canonical p)

end Segment

namespace Glyph

open Segment (IsCanonical)

variable {c first last : Char} {row : List String}

/-- No character has a place in two rows. -/
theorem rows_apart : ∀ entry ∈ rows, ∀ other ∈ rows,
    entry = other ∨ entry.2.1 < other.1 ∨ other.2.1 < entry.1 := by
  decide

/-- A row has one glyph for every character from its first to its last. -/
theorem length_of_mem_rows : ∀ entry ∈ rows,
    entry.2.2.length = entry.2.1.toNat - entry.1.toNat + 1 := by
  decide

theorem isCanonical_of_mem_rows : ∀ entry ∈ rows, ∀ glyph ∈ entry.2.2, IsCanonical glyph := by
  decide

theorem isCanonical_sign (c : Char) : IsCanonical (sign c) := by
  unfold sign
  split <;> decide

theorem find?_rows (hrow : (first, last, row) ∈ rows) (hfirst : first ≤ c) (hlast : c ≤ last) :
    rows.find? (fun (first, last, _) => first ≤ c && c ≤ last) = some (first, last, row) := by
  cases hfind : rows.find? (fun (first, last, _) => first ≤ c && c ≤ last) with
  | none =>
    have hmisses := List.find?_eq_none.mp hfind _ hrow
    simp [hfirst, hlast] at hmisses
  | some other =>
    have hfits := List.find?_some hfind
    simp only [Bool.and_eq_true, decide_eq_true_eq] at hfits
    obtain hsame | hbefore | hafter := rows_apart _ hrow _ (List.mem_of_find?_eq_some hfind)
    · rw [hsame]
    · exact absurd (hfits.1.trans hlast) (not_le.mpr hbefore)
    · exact absurd (hfirst.trans hfits.2) (not_le.mpr hafter)

/-- A character that has a place in a row has the glyph that is there. -/
theorem getElem?_row (hrow : (first, last, row) ∈ rows) (hfirst : first ≤ c) (hlast : c ≤ last) :
    row[c.toNat - first.toNat]? = some (ofChar c) := by
  have hlength : row.length = last.toNat - first.toNat + 1 := length_of_mem_rows _ hrow
  have hplace : c.toNat ≤ last.toNat := hlast
  have hinside : c.toNat - first.toNat < row.length := by omega
  rw [ofChar, find?_rows hrow hfirst hlast]
  simp [List.getElem?_eq_getElem hinside]

/-- A character has a place in a row, or it is drawn as a sign. -/
theorem place_or_sign (c : Char) :
    (∃ first last row, (first, last, row) ∈ rows ∧ first ≤ c ∧ c ≤ last) ∨ ofChar c = sign c := by
  cases hfind : rows.find? (fun (first, last, _) => first ≤ c && c ≤ last) with
  | none =>
    right
    rw [ofChar, hfind]
  | some entry =>
    left
    have hfits := List.find?_some hfind
    simp only [Bool.and_eq_true, decide_eq_true_eq] at hfits
    exact ⟨entry.1, entry.2.1, entry.2.2, List.mem_of_find?_eq_some hfind, hfits⟩

theorem isCanonical_ofChar (c : Char) : IsCanonical (ofChar c) := by
  obtain ⟨first, last, row, hrow, hfirst, hlast⟩ | hsign := place_or_sign c
  · exact isCanonical_of_mem_rows _ hrow _ (List.mem_of_getElem? (getElem?_row hrow hfirst hlast))
  · rw [hsign]
    exact isCanonical_sign c

/-- The rows are those of the digits, the capital and the small letters. -/
theorem isAlphanum_of_mem_rows (hrow : (first, last, row) ∈ rows) (hfirst : first ≤ c)
    (hlast : c ≤ last) : c.isAlphanum = true := by
  rw [Char.le_def] at hfirst hlast
  simp only [rows, List.mem_cons, Prod.mk.injEq, List.not_mem_nil, or_false] at hrow
  obtain ⟨rfl, rfl, -⟩ | ⟨rfl, rfl, -⟩ | ⟨rfl, rfl, -⟩ := hrow
  · have hdigit : c.isDigit = true :=
      Bool.and_eq_true_iff.mpr ⟨decide_eq_true hfirst, decide_eq_true hlast⟩
    exact Bool.or_eq_true_iff.mpr (.inr hdigit)
  · have hupper : c.isUpper = true := decide_eq_true ⟨hfirst, hlast⟩
    have halpha : c.isAlpha = true := Bool.or_eq_true_iff.mpr (.inl hupper)
    exact Bool.or_eq_true_iff.mpr (.inl halpha)
  · have hlower : c.isLower = true :=
      Bool.and_eq_true_iff.mpr ⟨decide_eq_true hfirst, decide_eq_true hlast⟩
    have halpha : c.isAlpha = true := Bool.or_eq_true_iff.mpr (.inr hlower)
    exact Bool.or_eq_true_iff.mpr (.inl halpha)

/-- Characters that are neither letters, digits nor one of three signs are blank. -/
theorem ofChar_eq_empty (halphanum : c.isAlphanum = false) (hsign : c ∉ ['-', '_', '.']) :
    ofChar c = "" := by
  obtain ⟨first, last, row, hrow, hfirst, hlast⟩ | hdrawn := place_or_sign c
  · rw [isAlphanum_of_mem_rows hrow hfirst hlast] at halphanum
    cases halphanum
  · simp only [List.mem_cons, List.not_mem_nil, or_false, not_or] at hsign
    rw [hdrawn]
    unfold sign
    split <;> simp_all

/-! ## Glyphs of texts -/

theorem ofValue_text (s : String) : ofValue (.text s) = .ok (ofText s) := by
  unfold ofValue
  split
  · rename_i hempty
    have hs : s = "" := by simpa [Value.truthy] using hempty
    rw [hs]
    rfl
  · rfl

theorem ofText_eq (s : String) : ofText s = s.toList.head?.elim "" ofChar := by
  unfold ofText
  cases s.toList <;> rfl

theorem isCanonical_ofText (s : String) : IsCanonical (ofText s) := by
  rw [ofText_eq]
  cases s.toList.head? with
  | none => exact List.nil_sublist _
  | some c => exact isCanonical_ofChar c

/-- Only letters, digits and three signs have a glyph that lights anything. -/
theorem head?_of_ofText_ne_empty {s : String} (h : ofText s ≠ "") :
    ∃ c ∈ s.toList.head?, c.isAlphanum = true ∨ c ∈ ['-', '_', '.'] := by
  rw [ofText_eq] at h
  cases hhead : s.toList.head? with
  | none =>
    rw [hhead] at h
    exact absurd rfl h
  | some c =>
    refine ⟨c, rfl, ?_⟩
    by_contra hother
    rw [not_or, Bool.not_eq_true] at hother
    rw [hhead] at h
    exact h (ofChar_eq_empty hother.1 hother.2)

end Glyph

/-- Every pattern has a canonical form, which names just the known segments that the pattern names,
in alphabetical order and each once. Two patterns have the same form if and only if they name the
same known segments, and a form is its own form.

Every text has a glyph, which is canonical already. It is that of the first character alone: the one
at the place of the character in its row if it is a letter or a digit, and blank if it is no letter,
no digit and none of three signs. -/
theorem Segment.canonical_forms_and_glyphs (p q text : String) :
    canonical? (.text p) = .ok (canonical p) ∧
    (canonical p).toList.Sublist ids ∧
    (canonical p).toList.Pairwise (· < ·) ∧
    (∀ id, id ∈ (canonical p).toList ↔ id ∈ ids ∧ id ∈ p.toList) ∧
    (canonical p = canonical q ↔ ∀ id ∈ ids, (id ∈ p.toList ↔ id ∈ q.toList)) ∧
    canonical (canonical p) = canonical p ∧
    Glyph.ofValue (.text text) = .ok (Glyph.ofText text) ∧
    canonical (Glyph.ofText text) = Glyph.ofText text ∧
    (∀ other : String, other.toList.head? = text.toList.head? →
      Glyph.ofText other = Glyph.ofText text) ∧
    (∀ c ∈ text.toList.head?, ∀ first last row, (first, last, row) ∈ Glyph.rows →
      first ≤ c → c ≤ last → row[c.toNat - first.toNat]? = some (Glyph.ofText text)) ∧
    (Glyph.ofText text ≠ "" →
      ∃ c ∈ text.toList.head?, c.isAlphanum = true ∨ c ∈ ['-', '_', '.']) := by
  have hform := isCanonical_canonical p
  refine ⟨canonical?_text p, hform, hform.pairwise_lt, fun _ => mem_canonical, canonical_eq_iff,
    canonical_eq_self_iff.mpr hform, Glyph.ofValue_text text,
    canonical_eq_self_iff.mpr (Glyph.isCanonical_ofText text), fun other hhead => ?_,
    fun c hc first last row hrow hfirst hlast => ?_, Glyph.head?_of_ofText_ne_empty⟩
  · rw [Glyph.ofText_eq, Glyph.ofText_eq, hhead]
  · rw [Glyph.getElem?_row hrow hfirst hlast, Glyph.ofText_eq, Option.mem_def.mp hc]
    rfl

/-- The patterns `gax` and `xaga` have the same form, and a word is drawn by its first letter. -/
theorem Segment.canonical_forms_and_glyphs_of_word :
    canonical "gax" = "ag" ∧ canonical "gax" = canonical "xaga" ∧
      Glyph.ofText "Zz" = Glyph.ofText "Z" ∧ Glyph.capitals[25]? = some (Glyph.ofText "Zz") ∧
      ∃ c ∈ "9!".toList.head?, c.isAlphanum = true ∨ c ∈ ['-', '_', '.'] := by
  have hpattern := canonical_forms_and_glyphs "gax" "xaga" "Zz"
  have hdigit := canonical_forms_and_glyphs "gax" "xaga" "9!"
  obtain ⟨-, -, -, -, hsame, -, -, -, hfirst, hplace, -⟩ := hpattern
  obtain ⟨-, -, -, -, -, -, -, -, -, -, hlights⟩ := hdigit
  refine ⟨by decide, hsame.mpr (by simp [ids]), (hfirst "Z" (by decide)).symm, ?_,
    hlights (by decide)⟩
  exact hplace 'Z' (by decide) 'A' 'Z' Glyph.capitals (by decide) (by decide) (by decide)

end DigitRace
