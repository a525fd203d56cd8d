import DigitRace.Proofs.Acts

/-!
# What acts keep

An act keeps a property of states if it leads from any state that has it to another one, also
when it stops with a fault. Acts that are put together from such acts keep it as well.
-/

namespace DigitRace.Act

variable {σ τ α β ι : Type}

/-- An act on a part leaves what the part has come to, also when it stops with a fault. -/
theorem result_run (part : Part σ τ) (act : Act τ α) (s : σ) :
    ((part.run act).result s).2 = part.put (act.result (part.get s)).2 s := by
  cases hact : act (part.get s) with
  | ok a t => rw [result_of_ok hact, result_of_ok (by rw [run_apply, hact])]
  | error fault t => rw [result_of_error hact, result_of_error (by rw [run_apply, hact])]

/-- An act keeps a property, whether it gives a result or stops with a fault. -/
def Keeps (holds : σ → Prop) (act : Act σ α) : Prop :=
  ∀ s, holds s → holds (act.result s).2

namespace Keeps

variable {holds : σ → Prop} {act : Act σ α}

theorem ok (h : Keeps holds act) {s s' : σ} {a : α} (hact : act s = .ok a s') (hs : holds s) :
    holds s' := by
  have hkept := h s hs
  rwa [result_of_ok hact] at hkept

theorem error (h : Keeps holds act) {s s' : σ} {fault : Fault} (hact : act s = .error fault s')
    (hs : holds s) : holds s' := by
  have hkept := h s hs
  rwa [result_of_error hact] at hkept

theorem pure (a : α) : Keeps holds (Pure.pure a : Act σ α) := fun _ hs => hs

theorem throw (fault : Fault) : Keeps holds (throw fault : Act σ α) := fun _ hs => hs

/-- What is found without looking at the state leaves it as it is. -/
theorem lift (e : Except Fault α) : Keeps holds (liftM e : Act σ α) := by
  cases e with
  | ok a => exact .pure a
  | error fault => exact .throw fault

theorem modify {change : σ → σ} (h : ∀ s, holds s → holds (change s)) :
    Keeps holds (modify change : Act σ PUnit) := h

theorem bind {next : α → Act σ β} (h : Keeps holds act) (hnext : ∀ a, Keeps holds (next a)) :
    Keeps holds (act >>= next) := by
  intro s hs
  cases hact : act s with
  | ok a s' =>
    have hresult : (act >>= next).result s = (next a).result s' := by
      simp [result, hact]
    rw [hresult]
    exact hnext a s' (h.ok hact hs)
  | error fault s' =>
    rw [result_of_error (by rw [bind_apply, hact])]
    exact h.error hact hs

/-- An act that looks at the state goes on by what it sees. -/
theorem get_bind {next : σ → Act σ α} (h : ∀ s, holds s → holds ((next s).result s).2) :
    Keeps holds (get >>= next) := h

/-- An act on a part is followed by one that keeps what holds once the part was changed. -/
theorem update_bind {part : Part σ τ} {change : τ → τ} {next : PUnit → Act σ α}
    (h : Keeps holds (next ⟨⟩)) {s : σ} (hs : holds (part.put (change (part.get s)) s)) :
    holds ((part.update change >>= next).result s).2 :=
  h _ hs

theorem map (h : Keeps holds act) (f : α → β) : Keeps holds (f <$> act) := by
  rw [map_eq_pure_bind]
  exact h.bind fun a => .pure (f a)

theorem tryCatch {handle : Fault → Act σ α} (h : Keeps holds act)
    (hhandle : ∀ fault, Keeps holds (handle fault)) : Keeps holds (tryCatch act handle) := by
  intro s hs
  cases hact : act s with
  | ok a s' =>
    rw [result_of_ok (by rw [tryCatch_apply, hact])]
    exact h.ok hact hs
  | error fault s' =>
    have hresult : (MonadExcept.tryCatch act handle).result s = (handle fault).result s' := by
      simp [result, hact]
    rw [hresult]
    exact hhandle fault s' (h.error hact hs)

theorem ite {p : Prop} [Decidable p] {other : Act σ α} (h : p → Keeps holds act)
    (hother : ¬p → Keeps holds other) : Keeps holds (if p then act else other) := by
  split
  · exact h ‹_›
  · exact hother ‹_›

theorem forM {act : ι → Act σ PUnit} (is : List ι) (h : ∀ i ∈ is, Keeps holds (act i)) :
    Keeps holds (is.forM act) := by
  induction is with
  | nil => exact .pure _
  | cons i rest ih =>
    exact (h i (List.mem_cons_self ..)).bind fun _ =>
      ih fun j hj => h j (List.mem_cons_of_mem _ hj)

theorem mapM {act : ι → Act σ α} (is : List ι) (h : ∀ i ∈ is, Keeps holds (act i)) :
    Keeps holds (is.mapM act) := by
  induction is with
  | nil => exact .pure _
  | cons i rest ih =>
    rw [List.mapM_cons]
    exact (h i (List.mem_cons_self ..)).bind fun _ =>
      (ih fun j hj => h j (List.mem_cons_of_mem _ hj)).bind fun _ => .pure _

/-- An act on a part keeps what it keeps of the part. -/
theorem run {part : Part σ τ} {act : Act τ α}
    (h : ∀ s, holds s → holds (part.put (act.result (part.get s)).2 s)) :
    Keeps holds (part.run act) := by
  intro s hs
  rw [result_run]
  exact h s hs

end Keeps

end DigitRace.Act
