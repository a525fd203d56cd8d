import DigitRace.Act

/-!
# Acts, step by step

What an act comes to is computed from what its parts come to. The lemmas here say so for
each way of putting acts together; every act of the game is opened by them alone.
-/

namespace DigitRace.Act

variable {σ τ α β ι : Type}

@[simp] theorem pure_apply (a : α) (s : σ) : (pure a : Act σ α) s = .ok a s := rfl

@[simp] theorem get_apply (s : σ) : (get : Act σ σ) s = .ok s s := rfl

@[simp] theorem set_apply (s' s : σ) : (set s' : Act σ PUnit) s = .ok ⟨⟩ s' := rfl

@[simp] theorem modify_apply (change : σ → σ) (s : σ) :
    (modify change : Act σ PUnit) s = .ok ⟨⟩ (change s) := rfl

@[simp] theorem throw_apply (fault : Fault) (s : σ) :
    (throw fault : Act σ α) s = .error fault s := rfl

/-- A sequence of acts goes on from where the first one ended, and ends with its fault. -/
@[simp] theorem bind_apply (act : Act σ α) (next : α → Act σ β) (s : σ) :
    (act >>= next) s = match act s with
      | .ok a s' => next a s'
      | .error fault s' => .error fault s' := by
  change EStateM.bind act next s = _
  unfold EStateM.bind
  cases act s <;> rfl

@[simp] theorem map_apply (f : α → β) (act : Act σ α) (s : σ) :
    (f <$> act) s = match act s with
      | .ok a s' => .ok (f a) s'
      | .error fault s' => .error fault s' := by
  change EStateM.map f act s = _
  unfold EStateM.map
  cases act s <;> rfl

/-- A fault is handed to the handler together with what was done before it. -/
@[simp] theorem tryCatch_apply (act : Act σ α) (handle : Fault → Act σ α) (s : σ) :
    (tryCatch act handle : Act σ α) s = match act s with
      | .ok a s' => .ok a s'
      | .error fault s' => handle fault s' := by
  change EStateM.tryCatch act handle s = _
  unfold EStateM.tryCatch
  cases act s <;> rfl

@[simp] theorem lift_ok_apply (a : α) (s : σ) :
    (liftM (Except.ok a : Except Fault α) : Act σ α) s = .ok a s := rfl

@[simp] theorem lift_error_apply (fault : Fault) (s : σ) :
    (liftM (Except.error fault : Except Fault α) : Act σ α) s = .error fault s := rfl

@[simp] theorem forM_nil_apply (act : ι → Act σ PUnit) (s : σ) :
    (([] : List ι).forM act) s = .ok ⟨⟩ s := rfl

@[simp] theorem forM_cons_apply (act : ι → Act σ PUnit) (i : ι) (rest : List ι) (s : σ) :
    ((i :: rest).forM act) s = match act i s with
      | .ok _ s' => (rest.forM act) s'
      | .error fault s' => .error fault s' := by
  change (act i >>= fun _ => rest.forM act) s = _
  rw [bind_apply]
  cases act i s <;> rfl

/-- One more act is done where those before it ended. -/
theorem forM_concat_apply {act : ι → Act σ PUnit} {is : List ι} {i : ι} {s s' : σ}
    (h : is.forM act s = .ok ⟨⟩ s') : (is ++ [i]).forM act s = act i s' := by
  induction is generalizing s with
  | nil =>
    obtain rfl : s = s' := by simpa using h
    simp only [List.nil_append, forM_cons_apply]
    cases act i s <;> rfl
  | cons first rest ih =>
    rw [List.cons_append, forM_cons_apply]
    rw [forM_cons_apply] at h
    cases hfirst : act first s with
    | ok _ next =>
      simp only [hfirst] at h
      exact ih h
    | error => simp [hfirst] at h

/-- An act on a part of a state leaves the result of the act in its place. -/
@[simp] theorem run_apply (part : Part σ τ) (act : Act τ α) (s : σ) :
    part.run act s = match act (part.get s) with
      | .ok a t => .ok a (part.put t s)
      | .error fault t => .error fault (part.put t s) := rfl

@[simp] theorem update_apply (part : Part σ τ) (change : τ → τ) (s : σ) :
    part.update change s = .ok ⟨⟩ (part.put (change (part.get s)) s) := rfl

@[simp] theorem result_of_ok {act : Act σ α} {s s' : σ} {a : α} (h : act s = .ok a s') :
    act.result s = (.ok a, s') := by
  simp [result, h]

@[simp] theorem result_of_error {act : Act σ α} {s s' : σ} {fault : Fault}
    (h : act s = .error fault s') : act.result s = (.error fault, s') := by
  simp [result, h]

theorem of_result_ok {act : Act σ α} {s s' : σ} {a : α} (h : act.result s = (.ok a, s')) :
    act s = .ok a s' := by
  cases hact : act s with
  | ok b t =>
    obtain ⟨hb, rfl⟩ := Prod.mk.inj ((result_of_ok hact).symm.trans h)
    rw [Except.ok.inj hb]
  | error fault t => cases (result_of_error hact).symm.trans h

theorem of_result_error {act : Act σ α} {s s' : σ} {fault : Fault}
    (h : act.result s = (.error fault, s')) : act s = .error fault s' := by
  cases hact : act s with
  | ok b t => cases (result_of_ok hact).symm.trans h
  | error other t =>
    obtain ⟨hother, rfl⟩ := Prod.mk.inj ((result_of_error hact).symm.trans h)
    rw [Except.error.inj hother]

/-- What an act comes to whose answer is put in the place of that of another. -/
theorem result_bind_pure (act : Act σ α) (b : β) (s : σ) :
    (do let _ ← act; return b : Act σ β).result s =
      ((act.result s).1.map fun _ => b, (act.result s).2) := by
  unfold result
  rw [bind_apply]
  cases act s <;> rfl

end DigitRace.Act
