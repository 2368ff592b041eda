import Mathlib.Order.Defs.Unbundled
import SmartSurf.Support.Sequencing

/-!
# What a computation can do to the state

A computation stays within a relation if the state it leaves behind is related
to the one it started in, whether it returned or raised an exception.  For a
preorder the rules below follow the way a computation is built.  A computation
keeps a part of the state if it stays within equality of that part.
-/

namespace SmartSurf.Support

variable {ε σ τ α β γ : Type}

/-- The state left behind is related to the initial one. -/
def Within (R : σ → σ → Prop) (x : EStateM ε σ α) : Prop :=
  ∀ s, R s (stateAfter x s)

section Within

variable {R : σ → σ → Prop}

theorem Within.of_ok
    {x : EStateM ε σ α} (hx : Within R x) {s t : σ} {a : α}
    (hrun : x.run s = .ok a t) :
    R s t := by
  rw [← stateAfter_of_ok hrun]
  exact hx s

theorem Within.of_error
    {x : EStateM ε σ α} (hx : Within R x) {s t : σ} {e : ε}
    (hrun : x.run s = .error e t) :
    R s t := by
  rw [← stateAfter_of_error hrun]
  exact hx s

theorem within_modify {f : σ → σ} (hf : ∀ s, R s (f s)) :
    Within R (modify f : EStateM ε σ PUnit) :=
  hf

/-- A computation may depend on the state it starts in. -/
theorem within_get_bind
    {f : σ → EStateM ε σ β} (hf : ∀ s, R s (stateAfter (f s) s)) :
    Within R (get >>= f) :=
  hf

variable [IsPreorder σ R]

theorem within_pure (a : α) : Within R (pure a : EStateM ε σ α) :=
  fun s => refl_of R s

theorem within_throw (e : ε) : Within R (throw e : EStateM ε σ α) :=
  fun s => refl_of R s

theorem within_get : Within R (get : EStateM ε σ σ) :=
  fun s => refl_of R s

theorem within_bind
    {x : EStateM ε σ α} {f : α → EStateM ε σ β} (hx : Within R x)
    (hf : ∀ a, Within R (f a)) :
    Within R (x >>= f) := by
  intro s
  cases hrun : x.run s with
  | ok a t =>
      rw [stateAfter, run_bind_of_ok hrun]
      exact trans_of R (hx.of_ok hrun) (hf a t)
  | error e t =>
      rw [stateAfter_of_error (run_bind_of_error hrun f)]
      exact hx.of_error hrun

theorem within_tryCatch
    {x : EStateM ε σ α} {handler : ε → EStateM ε σ α} (hx : Within R x)
    (hhandler : ∀ e, Within R (handler e)) :
    Within R (tryCatch x handler) := by
  intro s
  cases hrun : x.run s with
  | ok a t =>
      rw [stateAfter_of_ok (run_tryCatch_of_ok hrun handler)]
      exact hx.of_ok hrun
  | error e t =>
      rw [stateAfter, run_tryCatch_of_error hrun]
      exact trans_of R (hx.of_error hrun) (hhandler e t)

end Within

/-- The part of the state selected by `view` is not changed. -/
def Keeps (view : σ → γ) (x : EStateM ε σ α) : Prop :=
  ∀ s, view (stateAfter x s) = view s

section Keeps

variable {view : σ → γ}

/-- Equality of a part of the state is a preorder. -/
instance isPreorder_view :
    IsPreorder σ fun s t => view t = view s where
  refl _ := rfl
  trans _ _ _ hst htu := htu.trans hst

theorem Keeps.of_ok
    {x : EStateM ε σ α} (hx : Keeps view x) {s t : σ} {a : α}
    (hrun : x.run s = .ok a t) :
    view t = view s := by
  rw [← hx s, stateAfter_of_ok hrun]

theorem Keeps.of_error
    {x : EStateM ε σ α} (hx : Keeps view x) {s t : σ} {e : ε}
    (hrun : x.run s = .error e t) :
    view t = view s := by
  rw [← hx s, stateAfter_of_error hrun]

/-- What is kept can be added to what holds in the end. -/
theorem Keeps.ends
    {x : EStateM ε σ α} (hx : Keeps view x) {s : σ} {Q : α → σ → Prop}
    {E : ε → σ → Prop} (h : Ends x s Q E) :
    Ends x s (fun a t => view t = view s ∧ Q a t)
      fun e t => view t = view s ∧ E e t := by
  rw [Ends] at h ⊢
  cases hrun : x.run s with
  | ok a t =>
      rw [hrun] at h
      exact ⟨hx.of_ok hrun, h⟩
  | error e t =>
      rw [hrun] at h
      exact ⟨hx.of_error hrun, h⟩

theorem keeps_pure (a : α) : Keeps view (pure a : EStateM ε σ α) :=
  fun _ => rfl

theorem keeps_throw (e : ε) : Keeps view (throw e : EStateM ε σ α) :=
  fun _ => rfl

theorem keeps_get : Keeps view (get : EStateM ε σ σ) :=
  fun _ => rfl

theorem keeps_modify {f : σ → σ} (hf : ∀ s, view (f s) = view s) :
    Keeps view (modify f : EStateM ε σ PUnit) :=
  hf

theorem keeps_bind
    {x : EStateM ε σ α} {f : α → EStateM ε σ β} (hx : Keeps view x)
    (hf : ∀ a, Keeps view (f a)) :
    Keeps view (x >>= f) :=
  within_bind (R := fun s t => view t = view s) hx hf

theorem keeps_tryCatch
    {x : EStateM ε σ α} {handler : ε → EStateM ε σ α} (hx : Keeps view x)
    (hhandler : ∀ e, Keeps view (handler e)) :
    Keeps view (tryCatch x handler) :=
  within_tryCatch (R := fun s t => view t = view s) hx hhandler

/-- A computation on a component keeps what does not depend on it. -/
theorem keeps_zoom
    {component : σ → τ} {put : σ → τ → σ}
    (hput : ∀ s t, view (put s t) = view s) (x : EStateM ε τ α) :
    Keeps view (zoom component put x) := by
  intro s
  cases hrun : x.run (component s) with
  | ok a t => rw [stateAfter_of_ok (run_zoom_of_ok hrun), hput]
  | error e t => rw [stateAfter_of_error (run_zoom_of_error hrun), hput]

end Keeps

end SmartSurf.Support
