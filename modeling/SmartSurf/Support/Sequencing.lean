import Mathlib.Init

/-!
# Computations with a state that survives exceptions

`EStateM ε σ` is the monad of imperative code whose exceptions leave the
effects already performed in place.  The lemmas below run a sequence of such
computations step by step, and run a computation on one component of a larger
state.
-/

namespace SmartSurf.Support

variable {ε σ τ α β : Type}

/-- State left behind by a computation, whichever way it ended. -/
def stateAfter (x : EStateM ε σ α) (s : σ) : σ :=
  match x.run s with
  | .ok _ t => t
  | .error _ t => t

/-- Value returned by a computation, or the exception it raised. -/
def outcome (x : EStateM ε σ α) (s : σ) : Except ε α :=
  match x.run s with
  | .ok a _ => .ok a
  | .error e _ => .error e

theorem outcome_of_ok
    {x : EStateM ε σ α} {s t : σ} {a : α} (h : x.run s = .ok a t) :
    outcome x s = .ok a := by
  simp [outcome, h]

theorem outcome_of_error
    {x : EStateM ε σ α} {s t : σ} {e : ε} (h : x.run s = .error e t) :
    outcome x s = .error e := by
  simp [outcome, h]

theorem outcome_congr
    {x y : EStateM ε σ α} {s t : σ} (h : x.run s = y.run t) :
    outcome x s = outcome y t := by
  simp [outcome, h]

theorem stateAfter_of_ok
    {x : EStateM ε σ α} {s t : σ} {a : α} (h : x.run s = .ok a t) :
    stateAfter x s = t := by
  simp [stateAfter, h]

theorem stateAfter_of_error
    {x : EStateM ε σ α} {s t : σ} {e : ε} (h : x.run s = .error e t) :
    stateAfter x s = t := by
  simp [stateAfter, h]

theorem run_bind_of_ok
    {x : EStateM ε σ α} {s t : σ} {a : α} (h : x.run s = .ok a t)
    (f : α → EStateM ε σ β) :
    (x >>= f).run s = (f a).run t := by
  rw [EStateM.run_bind, h]

theorem run_bind_of_error
    {x : EStateM ε σ α} {s t : σ} {e : ε} (h : x.run s = .error e t)
    (f : α → EStateM ε σ β) :
    (x >>= f).run s = .error e t := by
  rw [EStateM.run_bind, h]

/-- Replacing the value returned does not change the state left behind. -/
theorem stateAfter_bind_pure (x : EStateM ε σ α) (b : β) (s : σ) :
    stateAfter (x >>= fun _ => pure b) s = stateAfter x s := by
  rw [stateAfter, EStateM.run_bind, stateAfter]
  cases x.run s with
  | ok a t => rfl
  | error e t => rfl

/-- A handler is not entered when the guarded computation returns. -/
theorem run_tryCatch_of_ok
    {x : EStateM ε σ α} {s t : σ} {a : α} (h : x.run s = .ok a t)
    (handler : ε → EStateM ε σ α) :
    (tryCatch x handler).run s = .ok a t := by
  have hx : x s = .ok a t := h
  change EStateM.tryCatch x handler s = .ok a t
  delta EStateM.tryCatch
  simp only [hx]

/-- A handler sees the state which the failed computation left behind. -/
theorem run_tryCatch_of_error
    {x : EStateM ε σ α} {s t : σ} {e : ε} (h : x.run s = .error e t)
    (handler : ε → EStateM ε σ α) :
    (tryCatch x handler).run s = (handler e).run t := by
  have hx : x s = .error e t := h
  change EStateM.tryCatch x handler s = handler e t
  delta EStateM.tryCatch
  simp only [hx]
  rfl

/-- The computation does not end with the given exception, in any state. -/
def Avoids (e : ε) (x : EStateM ε σ α) : Prop :=
  ∀ s t, x.run s ≠ .error e t

theorem Avoids.outcome_ne
    {e : ε} {x : EStateM ε σ α} (hx : Avoids e x) (s : σ) :
    outcome x s ≠ .error e := by
  rw [outcome]
  split
  next => exact nofun
  next e' t hrun =>
    rintro ⟨⟩
    exact hx s t hrun

/-- The computation started in `s` returns with `Q`, or raises an exception
with `E`. -/
def Ends (x : EStateM ε σ α) (s : σ) (Q : α → σ → Prop) (E : ε → σ → Prop) :
    Prop :=
  match x.run s with
  | .ok a t => Q a t
  | .error e t => E e t

section Ends

variable {Q : α → σ → Prop} {E : ε → σ → Prop} {s : σ}

@[simp] theorem ends_bind
    {x : EStateM ε σ α} {f : α → EStateM ε σ β} {R : β → σ → Prop} :
    Ends (x >>= f) s R E ↔ Ends x s (fun a t => Ends (f a) t R E) E := by
  rw [Ends, EStateM.run_bind, Ends]
  cases x.run s with
  | ok a t => exact Iff.rfl
  | error e t => exact Iff.rfl

@[simp] theorem ends_map
    {x : EStateM ε σ α} {f : α → β} {R : β → σ → Prop} :
    Ends (f <$> x) s R E ↔ Ends x s (fun a t => R (f a) t) E := by
  rw [← bind_pure_comp, ends_bind]
  exact Iff.rfl

@[simp] theorem ends_ite
    {p : Prop} [Decidable p] {x y : EStateM ε σ α} :
    Ends (if p then x else y) s Q E ↔
      if p then Ends x s Q E else Ends y s Q E := by
  split
  · exact Iff.rfl
  · exact Iff.rfl

@[simp] theorem ends_pure {a : α} : Ends (pure a) s Q E ↔ Q a s :=
  Iff.rfl

@[simp] theorem ends_throw {e : ε} :
    Ends (throw e : EStateM ε σ α) s Q E ↔ E e s :=
  Iff.rfl

@[simp] theorem ends_get {R : σ → σ → Prop} :
    Ends (get : EStateM ε σ σ) s R E ↔ R s s :=
  Iff.rfl

@[simp] theorem ends_set {t : σ} {R : PUnit → σ → Prop} :
    Ends (set t : EStateM ε σ PUnit) s R E ↔ R ⟨⟩ t :=
  Iff.rfl

@[simp] theorem ends_modify {f : σ → σ} {R : PUnit → σ → Prop} :
    Ends (modify f : EStateM ε σ PUnit) s R E ↔ R ⟨⟩ (f s) :=
  Iff.rfl

theorem Ends.mono
    {x : EStateM ε σ α} {Q' : α → σ → Prop} (hx : Ends x s Q E)
    (hQ : ∀ a t, Q a t → Q' a t) :
    Ends x s Q' E := by
  rw [Ends] at hx ⊢
  cases hrun : x.run s with
  | ok a t =>
      rw [hrun] at hx
      exact hQ a t hx
  | error e t =>
      rw [hrun] at hx
      exact hx

theorem Ends.imp
    {x : EStateM ε σ α} {Q' : α → σ → Prop} {E' : ε → σ → Prop}
    (hx : Ends x s Q E) (hQ : ∀ a t, Q a t → Q' a t)
    (hE : ∀ e t, E e t → E' e t) :
    Ends x s Q' E' := by
  rw [Ends] at hx ⊢
  cases hrun : x.run s with
  | ok a t =>
      rw [hrun] at hx
      exact hQ a t hx
  | error e t =>
      rw [hrun] at hx
      exact hE e t hx

theorem ends_of_forall
    (x : EStateM ε σ α) (hQ : ∀ a t, Q a t) (hE : ∀ e t, E e t) :
    Ends x s Q E := by
  rw [Ends]
  split
  · exact hQ _ _
  · exact hE _ _

/-- A computation which raises no exception returns. -/
theorem Ends.exists_ok
    {x : EStateM ε σ α} (hx : Ends x s Q fun _ _ => False) :
    ∃ a t, x.run s = .ok a t ∧ Q a t := by
  rw [Ends] at hx
  split at hx
  next a t hrun => exact ⟨a, t, hrun, hx⟩
  next => exact hx.elim

theorem Ends.of_ok
    {x : EStateM ε σ α} {a : α} {t : σ} (hx : Ends x s Q E)
    (hrun : x.run s = .ok a t) :
    Q a t := by
  rw [Ends, hrun] at hx
  exact hx

theorem ends_congr
    {x y : EStateM ε σ α} {t : σ} (h : x.run s = y.run t) :
    Ends x s Q E ↔ Ends y t Q E := by
  rw [Ends, h, Ends]

/-- What holds whichever way the computation ends holds of the state it leaves
behind. -/
theorem Ends.stateAfter
    {x : EStateM ε σ α} {P : σ → Prop}
    (hx : Ends x s (fun _ t => P t) fun _ t => P t) :
    P (stateAfter x s) := by
  rw [Ends] at hx
  rw [Support.stateAfter]
  cases hrun : x.run s with
  | ok a t =>
      rw [hrun] at hx
      exact hx
  | error e t =>
      rw [hrun] at hx
      exact hx

theorem stateAfter_eq_iff {x : EStateM ε σ α} {t : σ} :
    stateAfter x s = t ↔ Ends x s (fun _ u => u = t) fun _ u => u = t := by
  rw [stateAfter, Ends]
  split
  · exact Iff.rfl
  · exact Iff.rfl

theorem outcome_ne_error_iff {x : EStateM ε σ α} {e : ε} :
    outcome x s ≠ .error e ↔
      Ends x s (fun _ _ => True) fun e' _ => e' ≠ e := by
  rw [outcome, Ends]
  split
  · simp
  · simp

end Ends

/-- Run a computation on the component of the state selected by `view`. -/
def zoom (view : σ → τ) (put : σ → τ → σ) (x : EStateM ε τ α) :
    EStateM ε σ α :=
  fun s =>
    match x.run (view s) with
    | .ok a t => .ok a (put s t)
    | .error e t => .error e (put s t)

theorem run_zoom_of_ok
    {view : σ → τ} {put : σ → τ → σ} {x : EStateM ε τ α}
    {s : σ} {t : τ} {a : α} (h : x.run (view s) = .ok a t) :
    (zoom view put x).run s = .ok a (put s t) := by
  simp [zoom, EStateM.run, show x (view s) = .ok a t from h]

theorem run_zoom_of_error
    {view : σ → τ} {put : σ → τ → σ} {x : EStateM ε τ α}
    {s : σ} {t : τ} {e : ε} (h : x.run (view s) = .error e t) :
    (zoom view put x).run s = .error e (put s t) := by
  simp [zoom, EStateM.run, show x (view s) = .error e t from h]

end SmartSurf.Support
