import DigitRace.Front
import DigitRace.Proofs.Acts
import DigitRace.Proofs.Segment.Canonical
import Mathlib.Data.List.Destutter
import Mathlib.Data.List.Induction

/-!
# A shadow before a renderer that fails

The shadow takes a pattern over before the renderer has drawn it. So what it remembers is the
pattern that the renderer was given last, whether it was drawn or not: a pattern whose drawing
failed is not drawn when it is written again, as long as no other is written in between.
-/

namespace DigitRace

namespace Shadow

/-! ## Leaving out repetitions -/

section

variable {α : Type} [DecidableEq α]

theorem destutter'_ne_concat (first last : α) (l : List α) :
    (l ++ [last]).destutter' (· ≠ ·) first =
      if (first :: l).getLast? = some last then l.destutter' (· ≠ ·) first
      else l.destutter' (· ≠ ·) first ++ [last] := by
  induction l generalizing first with
  | nil => by_cases hsame : first = last <;> simp [List.destutter', hsame]
  | cons next l ih =>
    by_cases hsame : first = next
    · subst hsame
      simpa [List.destutter', List.getLast?_cons_cons] using ih first
    · have hrest := ih next
      simp only [List.cons_append, List.destutter', ne_eq, hsame, not_false_eq_true, if_true,
        List.getLast?_cons_cons] at hrest ⊢
      rw [hrest]
      split_ifs <;> rfl

/-- One more item is left out just if it repeats the last. -/
theorem destutter_ne_concat (l : List α) (last : α) :
    (l ++ [last]).destutter (· ≠ ·) =
      if l.getLast? = some last then l.destutter (· ≠ ·)
      else l.destutter (· ≠ ·) ++ [last] := by
  cases l with
  | nil => rfl
  | cons first l => exact destutter'_ne_concat first last l

/-- The last item stays. -/
theorem getLast?_destutter_ne (l : List α) : (l.destutter (· ≠ ·)).getLast? = l.getLast? := by
  induction l using List.reverseRecOn with
  | nil => rfl
  | append_singleton l last ih =>
    rw [destutter_ne_concat]
    by_cases hlast : l.getLast? = some last
    · rw [if_pos hlast, ih, hlast, List.getLast?_concat]
    · rw [if_neg hlast, List.getLast?_concat, List.getLast?_concat]

end

/-! ## A renderer and its shadow -/

/-- A call of a renderer: the pattern that it was given, and what came of it. -/
structure Attempt where
  pattern : String
  outcome : Except Fault Unit

/-- A renderer with a shadow before it, and the calls that the renderer has had. -/
structure Shaded (ρ : Type) where
  renderer : ρ
  shadow : Shadow := none
  attempts : List Attempt := []

namespace Shaded

variable {ρ : Type}

/-- The shadow before the renderer. -/
def shadowOf : Part (Shaded ρ) Shadow where
  get := Shaded.shadow
  put shadow shaded := { shaded with shadow }

/-- The renderer. -/
def rendererOf : Part (Shaded ρ) ρ where
  get := Shaded.renderer
  put renderer shaded := { shaded with renderer }

/-- Notes what came of a call. -/
def note (attempt : Attempt) : Act (Shaded ρ) Unit :=
  modify fun shaded => { shaded with attempts := shaded.attempts ++ [attempt] }

/-- The renderer draws a pattern, or fails. -/
def draw (render : String → Act ρ Unit) (pattern : String) : Act (Shaded ρ) Unit := do
  tryCatch (rendererOf.run (render pattern)) fun fault => do
    note ⟨pattern, .error fault⟩
    throw fault
  note ⟨pattern, .ok ⟨⟩⟩

/-- Writes whatever is given as a pattern. Tells whether the renderer was called. -/
def write (render : String → Act ρ Unit) (pattern : Value) : Act (Shaded ρ) Bool := do
  offer shadowOf (draw render) (← Segment.canonical? pattern)

/-- Writes one after the other, whatever they come to. -/
def written (render : String → Act ρ Unit) (shaded : Shaded ρ) (patterns : List Value) :
    Shaded ρ :=
  patterns.foldl (fun shaded pattern => ((write render pattern).result shaded).2) shaded

/-- The patterns that were drawn. -/
def drawn (shaded : Shaded ρ) : List String :=
  shaded.attempts.filterMap fun attempt =>
    match attempt.outcome with
    | .ok _ => some attempt.pattern
    | .error _ => none

/-- The window draws patterns. -/
def onWindow (pattern : String) : Act Window Unit :=
  Window.showPattern (.text pattern)

/-- The canonical forms of those values that can serve as patterns. -/
def formsOf (patterns : List Value) : List String :=
  patterns.filterMap fun pattern => (Segment.canonical? pattern).toOption

variable {render : String → Act ρ Unit} {shaded : Shaded ρ} {pattern : Value} {form : String}

theorem formsOf_singleton (hform : Segment.canonical? pattern = .ok form) :
    formsOf [pattern] = [form] := by
  simp [formsOf, Except.toOption, hform]

/-! ## One write -/

section

variable {σ : Type} (part : Part σ Shadow) (act : String → Act σ Unit) {s : σ}

theorem offer_same (hsame : part.get s = some form) :
    offer part act form s = .ok false s := by
  simp [offer, hsame]

theorem offer_other (hother : part.get s ≠ some form) :
    offer part act form s =
      (do act form; return true : Act σ Bool) (part.put (some form) s) := by
  simp [offer, hother]

end

/-- The renderer is called, and the call is noted. -/
theorem draw_result (render : String → Act ρ Unit) (form : String) (shaded : Shaded ρ) :
    (draw render form).result shaded =
      let called := (render form).result shaded.renderer
      (called.1, { shaded with
        renderer := called.2, attempts := shaded.attempts ++ [⟨form, called.1⟩] }) := by
  unfold Act.result draw
  cases hrender : render form shaded.renderer with
  | ok _ renderer => simp [rendererOf, note, hrender]
  | error fault renderer => simp [rendererOf, note, hrender]

/-- A value that cannot serve as a pattern changes nothing. -/
theorem write_unsuitable (render : String → Act ρ Unit) {fault : Fault}
    (hfault : Segment.canonical? pattern = .error fault) :
    (write render pattern).result shaded = (.error fault, shaded) := by
  simp [Act.result, write, hfault]

/-- The form that the shadow holds is not passed on. -/
theorem write_same (render : String → Act ρ Unit) (hform : Segment.canonical? pattern = .ok form)
    (hsame : shaded.shadow = some form) :
    (write render pattern).result shaded = (.ok false, shaded) := by
  have hoffer := offer_same shadowOf (draw render) hsame
  simp [Act.result, write, hform, hoffer]

/-- Any other form is passed on, and the shadow holds it whether it was drawn or not. -/
theorem write_other (render : String → Act ρ Unit) (hform : Segment.canonical? pattern = .ok form)
    (hother : shaded.shadow ≠ some form) : (write render pattern).result shaded =
      let called := (render form).result shaded.renderer
      (called.1.map (fun _ => true),
        ⟨called.2, some form, shaded.attempts ++ [⟨form, called.1⟩]⟩) := by
  let taken := shadowOf.put (some form) shaded
  have hwrite : write render pattern shaded = (do draw render form; return true) taken := by
    rw [write, hform, Act.bind_apply, Act.lift_ok_apply]
    exact offer_other shadowOf (draw render) hother
  have hresult : (write render pattern).result shaded =
      (do let _ ← draw render form; return true : Act (Shaded ρ) Bool).result taken := by
    rw [Act.result, Act.result, hwrite]
  rw [hresult, Act.result_bind_pure, draw_result]
  rfl

/-! ## Write after write -/

/-- Each form was passed on unless it repeats the one before it, and the shadow holds the last. -/
structure Tracks (forms : List String) (shaded : Shaded ρ) : Prop where
  attempts : shaded.attempts.map Attempt.pattern = forms.destutter (· ≠ ·)
  shadow : shaded.shadow = forms.getLast?

/-- The last call of the renderer was one of the form that the shadow holds. -/
theorem Tracks.last_attempt {forms : List String} (h : Tracks forms shaded)
    (hheld : shaded.shadow = some form) :
    ∃ before outcome, shaded.attempts = before ++ [⟨form, outcome⟩] := by
  have hlast : shaded.attempts.getLast?.map Attempt.pattern = some form := by
    rw [← List.getLast?_map, h.attempts, getLast?_destutter_ne, ← h.shadow, hheld]
  obtain ⟨⟨pattern, outcome⟩, hattempt, rfl⟩ := Option.map_eq_some_iff.mp hlast
  obtain ⟨before, hattempts⟩ := List.getLast?_eq_some_iff.mp hattempt
  exact ⟨before, outcome, hattempts⟩

theorem Tracks.fresh (renderer : ρ) : Tracks [] { renderer } := ⟨rfl, rfl⟩

/-- A write is tracked, whatever it comes to. -/
theorem Tracks.write {forms : List String} (h : Tracks forms shaded) (render : String → Act ρ Unit)
    (pattern : Value) :
    Tracks (forms ++ formsOf [pattern]) ((Shaded.write render pattern).result shaded).2 := by
  cases hform : Segment.canonical? pattern with
  | error fault =>
    have hforms : formsOf [pattern] = [] := by simp [formsOf, Except.toOption, hform]
    rw [write_unsuitable render hform, hforms, List.append_nil]
    exact h
  | ok form =>
    rw [formsOf_singleton hform]
    by_cases hsame : shaded.shadow = some form
    · rw [write_same render hform hsame]
      refine ⟨?_, by simp [hsame]⟩
      rw [h.attempts, destutter_ne_concat, ← h.shadow, if_pos hsame]
    · rw [write_other render hform hsame]
      refine ⟨?_, by simp⟩
      rw [destutter_ne_concat, ← h.shadow, if_neg hsame, ← h.attempts]
      simp

/-- So are all writes. -/
theorem Tracks.written {forms : List String} (h : Tracks forms shaded)
    (render : String → Act ρ Unit) (patterns : List Value) :
    Tracks (forms ++ formsOf patterns) (Shaded.written render shaded patterns) := by
  induction patterns generalizing forms shaded with
  | nil => simpa [formsOf, Shaded.written] using h
  | cons pattern rest ih =>
    have hsplit : formsOf (pattern :: rest) = formsOf [pattern] ++ formsOf rest := by
      rw [formsOf, formsOf, formsOf, ← List.filterMap_append, List.singleton_append]
    rw [hsplit, ← List.append_assoc]
    exact ih (h.write render pattern)

/-- As long as nothing but the form that the shadow holds is written, nothing happens. -/
theorem written_same (hheld : shaded.shadow = some form) {patterns : List Value}
    (hforms : ∀ pattern ∈ patterns, Segment.canonical? pattern = .ok form) :
    written render shaded patterns = shaded := by
  induction patterns with
  | nil => rfl
  | cons pattern rest ih =>
    have hfirst := write_same render (hforms pattern (by simp)) hheld
    rw [written, List.foldl_cons, hfirst]
    exact ih fun later hlater => hforms later (List.mem_cons_of_mem pattern hlater)

/-- The shadow tracks what the renderer was given, not what it has drawn.

For every renderer, which may fail on any of its calls, and whatever was written before: the calls
of the renderer are those of the canonical forms in order, where one that repeats the form before it
is left out, whatever has become of that. So a write either repeats the form before it, gives
`false`, and nothing happens; or the renderer is called, and the write gives `true` or fails just as
the call does. Afterwards the last call is one of the form that was written, so unless that call
failed it is the form that was drawn last; and whether it failed or not, nothing happens as long as
no other form is written. -/
theorem shadow_tracks_calls (render : String → Act ρ Unit) (renderer : ρ) (patterns : List Value)
    {pattern : Value} {form : String} (hform : Segment.canonical? pattern = .ok form) :
    let before := written render { renderer } patterns
    let answer := ((write render pattern).result before).1
    let after := ((write render pattern).result before).2
    before.attempts.map Attempt.pattern = (formsOf patterns).destutter (· ≠ ·) ∧
    ((formsOf patterns).getLast? = some form ∧ answer = .ok false ∧ after = before ∨
      (formsOf patterns).getLast? ≠ some form ∧ ∃ outcome,
        (render form).result before.renderer = (outcome, after.renderer) ∧
        answer = outcome.map (fun _ => true) ∧
        after.attempts = before.attempts ++ [⟨form, outcome⟩]) ∧
    (∃ outcome, after.attempts.getLast? = some ⟨form, outcome⟩ ∧
      (outcome = .ok ⟨⟩ → after.drawn.getLast? = some form)) ∧
    ∀ later, (∀ again ∈ later, Segment.canonical? again = .ok form) →
      written render after later = after := by
  intro before answer after
  have htracks : Tracks (formsOf patterns) before := by
    simpa using (Tracks.fresh renderer).written render patterns
  have hafter : Tracks (formsOf patterns ++ [form]) after := by
    have hwritten := htracks.write render pattern
    rwa [formsOf_singleton hform] at hwritten
  have hheld : after.shadow = some form := by rw [hafter.shadow, List.getLast?_concat]
  refine ⟨htracks.attempts, ?_, ?_, fun later hlater => written_same hheld hlater⟩
  · rw [← htracks.shadow]
    by_cases hsame : before.shadow = some form
    · have hwrite := write_same render hform hsame
      exact .inl ⟨hsame, congrArg Prod.fst hwrite, congrArg Prod.snd hwrite⟩
    · have hwrite := write_other render hform hsame
      have hcalled : after.renderer = ((render form).result before.renderer).2 :=
        congrArg (fun result => result.2.renderer) hwrite
      exact .inr ⟨hsame, ((render form).result before.renderer).1, Prod.ext rfl hcalled.symm,
        congrArg Prod.fst hwrite, congrArg (fun result => result.2.attempts) hwrite⟩
  · obtain ⟨earlier, outcome, hattempts⟩ := hafter.last_attempt hheld
    refine ⟨outcome, by rw [hattempts, List.getLast?_concat], ?_⟩
    rintro rfl
    simp [drawn, hattempts]

/-- A window that draws the first pattern and fails with the second. -/
def failingWindow : Window where
  hasScreen := true
  equipment := { failingRedraw := some 2 }

/-- Other spellings of the pattern that was not drawn come to nothing. -/
theorem shadow_tracks_calls_of_failing_window :
    Segment.canonical? (.text "gax") = .ok "ag" ∧
      written onWindow (written onWindow { renderer := failingWindow } [.text "", .text "gax"])
        [.text "ag", .text "ga"] =
      written onWindow { renderer := failingWindow } [.text "", .text "gax"] := by
  have hform : Segment.canonical? (.text "gax") = .ok "ag" := rfl
  refine ⟨hform, (shadow_tracks_calls onWindow failingWindow [.text ""] hform).2.2.2 _ ?_⟩
  intro again hagain
  rcases List.mem_pair.mp hagain with rfl | rfl
  · rfl
  · rfl

/-- The second pattern is not drawn. Written again, it is taken for drawn. -/
theorem shadow_skips_failed_pattern :
    ((write onWindow (.text "g")).result
        (written onWindow { renderer := failingWindow } [.text ""])).1 = .error .drawFailed ∧
      ((write onWindow (.text "g")).result
        (written onWindow { renderer := failingWindow } [.text "", .text "g"])).1 = .ok false ∧
      (written onWindow { renderer := failingWindow }
        [.text "", .text "g", .text "g"]).drawn.getLast? = some "" := by
  refine ⟨rfl, rfl, ?_⟩
  decide +kernel

/-! ## The observer of the display -/

/-- What the observer of the display comes to, and what it does to the window and its shadow, is
what becomes of a write. -/
theorem observe_result (session : Session) (attempts : List Attempt) (pattern : String) :
    (Session.around.observe pattern).result session =
      let wrote := (write onWindow (.text pattern)).result
        ⟨session.outside.window, session.outside.shadow, attempts⟩
      (wrote.1.map fun _ => ⟨⟩, { session with
        outside := { session.outside with
          window := wrote.2.renderer, shadow := wrote.2.shadow } }) := by
  have hform := Segment.canonical?_text pattern
  by_cases hsame : session.outside.shadow = some (Segment.canonical pattern)
  · rw [write_same onWindow hform hsame]
    simp only [Act.result, Session.around, Act.bind_apply, offer_same Session.shadowOf _ hsame]
    rfl
  · rw [write_other onWindow hform hsame]
    simp only [Act.result, Session.around, Act.bind_apply, offer_other Session.shadowOf _ hsame]
    cases hdraws : Window.showPattern (.text (Segment.canonical pattern))
        session.outside.window with
    | ok _ window =>
      simp only [onWindow, Act.run_apply, Session.windowOf, Session.shadowOf, hdraws]
      rfl
    | error fault window =>
      simp only [onWindow, Act.run_apply, Session.windowOf, Session.shadowOf, hdraws]
      rfl

end Shaded

end Shadow

end DigitRace
