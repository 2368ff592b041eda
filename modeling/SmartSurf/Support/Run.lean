import Mathlib.Data.List.Induction

/-!
# Finite runs of an event machine

A machine is a step function on states and events.  This module contains the
induction principles that later safety arguments use: an invariant which every
admissible step preserves holds after every admissible run, also when the
invariant speaks about the history of the run.
-/

namespace SmartSurf.Support

variable {σ : Type*} {ε : Type*}

/-- State reached from `s` by handling the events of a list in order. -/
def run (step : σ → ε → σ) (s : σ) (es : List ε) : σ :=
  es.foldl step s

@[simp] theorem run_concat (step : σ → ε → σ) (s : σ) (e : ε) (es : List ε) :
    run step s (es ++ [e]) = step (run step s es) e := by
  simp [run]

theorem run_append (step : σ → ε → σ) (s : σ) (es es' : List ε) :
    run step s (es ++ es') = run step (run step s es) es' :=
  List.foldl_append

/-- Every event of the run meets `ok` in the state in which it is handled. -/
def Meets (step : σ → ε → σ) (ok : σ → ε → Prop) : σ → List ε → Prop
  | _, [] => True
  | s, e :: es => ok s e ∧ Meets step ok (step s e) es

instance decidableMeets (step : σ → ε → σ) (ok : σ → ε → Prop)
    [∀ s e, Decidable (ok s e)] :
    (s : σ) → (es : List ε) → Decidable (Meets step ok s es)
  | _, [] => inferInstanceAs (Decidable True)
  | s, e :: es =>
      have := decidableMeets step ok (step s e) es
      inferInstanceAs (Decidable (ok s e ∧ Meets step ok (step s e) es))

/-- An invariant preserved by every admissible step holds at the end of every
admissible run. -/
theorem run_invariant
    {step : σ → ε → σ} {ok : σ → ε → Prop} {I : σ → Prop}
    (hstep : ∀ s e, I s → ok s e → I (step s e))
    {s : σ} {es : List ε} (hs : I s) (hmeets : Meets step ok s es) :
    I (run step s es) := by
  induction es generalizing s with
  | nil => exact hs
  | cons e es ih =>
      obtain ⟨hok, hrest⟩ := hmeets
      exact ih (hstep s e hs hok) hrest

/-- Two step conditions which agree in every invariant state select the same
runs, provided the first of them preserves the invariant. -/
theorem meets_congr_of_invariant
    {step : σ → ε → σ} {ok ok' : σ → ε → Prop} {I : σ → Prop}
    (hiff : ∀ s e, I s → (ok s e ↔ ok' s e))
    (hstep : ∀ s e, I s → ok s e → I (step s e))
    {s : σ} {es : List ε} (hs : I s) :
    Meets step ok s es ↔ Meets step ok' s es := by
  induction es generalizing s with
  | nil => exact Iff.rfl
  | cons e es ih =>
      simp only [Meets]
      constructor
      · rintro ⟨hok, hrest⟩
        exact ⟨(hiff s e hs).mp hok, (ih (hstep s e hs hok)).mp hrest⟩
      · rintro ⟨hok', hrest⟩
        have hok : ok s e := (hiff s e hs).mpr hok'
        exact ⟨hok, (ih (hstep s e hs hok)).mpr hrest⟩

/-- An invariant relating the handled events to the state they lead to. -/
theorem run_history_invariant
    (step : σ → ε → σ) (s : σ) {I : List ε → σ → Prop}
    (hinit : I [] s)
    (hstep : ∀ es t e, I es t → I (es ++ [e]) (step t e))
    (es : List ε) :
    I es (run step s es) := by
  induction es using List.reverseRecOn with
  | nil => exact hinit
  | append_singleton es e ih =>
      rw [run_concat]
      exact hstep es _ e ih

/-- Two machines that handle the same events stay related, if every step that
is admissible for the second one keeps them related. -/
theorem run_simulation
    {τ : Type*} {step : σ → ε → σ} {step' : τ → ε → τ} {ok : τ → ε → Prop}
    {R : σ → τ → Prop}
    (hstep : ∀ s t e, R s t → ok t e → R (step s e) (step' t e))
    {s : σ} {t : τ} {es : List ε} (h : R s t) (hmeets : Meets step' ok t es) :
    R (run step s es) (run step' t es) := by
  induction es generalizing s t with
  | nil => exact h
  | cons e es ih =>
      obtain ⟨hok, hrest⟩ := hmeets
      exact ih (hstep s t e h hok) hrest

/-- What the last write has established still holds, if the events that do not
write keep it; without a write it is what held at the start. -/
theorem run_last_write
    {β : Type*} {step : σ → ε → σ} {I : σ → Prop} {H : σ → Option β → Prop}
    {writes : ε → Option β} {es : List ε}
    (hinvariant : ∀ s, ∀ e ∈ es, I s → I (step s e))
    (hwrite : ∀ s e b, I s → writes e = some b → H (step s e) (some b))
    (hkeep : ∀ s e last, I s → writes e = none → H s last →
      H (step s e) last)
    {s : σ} (hs : I s) (hstart : H s none) :
    H (run step s es) (es.filterMap writes).getLast? := by
  have hrun : I (run step s es) ∧
      H (run step s es) (es.filterMap writes).getLast? := by
    induction es using List.reverseRecOn with
    | nil => exact ⟨hs, hstart⟩
    | append_singleton es e ih =>
        obtain ⟨ht, hholds⟩ :=
          ih fun s e he => hinvariant s e (List.mem_append_left _ he)
        rw [run_concat, List.filterMap_append]
        refine ⟨hinvariant _ e (by simp) ht, ?_⟩
        cases hwrites : writes e with
        | none =>
            simp only [List.filterMap_cons, hwrites, List.filterMap_nil,
              List.append_nil]
            exact hkeep _ e _ ht hwrites hholds
        | some b =>
            simp only [List.filterMap_cons, hwrites, List.filterMap_nil,
              List.getLast?_concat]
            exact hwrite _ e b ht hwrites
  exact hrun.2

section Contributions

variable {β : Type*} (step : σ → ε → σ)

/-- What the events of a run contribute, each in the state in which it is
handled. -/
def contributions (adds : σ → ε → List β) : σ → List ε → List β
  | _, [] => []
  | s, e :: es => adds s e ++ contributions adds (step s e) es

theorem contributions_concat (adds : σ → ε → List β) (s : σ) (es : List ε)
    (e : ε) :
    contributions step adds s (es ++ [e]) =
      contributions step adds s es ++ adds (run step s es) e := by
  induction es generalizing s with
  | nil => exact List.append_nil _
  | cons e' es ih =>
      rw [List.cons_append, contributions, ih, ← List.append_assoc]
      rfl

/-- A view of the machine is a machine of its own, which handles what the events
contribute, if every step from a reachable state is seen so. -/
theorem run_view
    {τ : Type*} {step' : τ → β → τ} (view : σ → τ) {adds : σ → ε → List β}
    {s : σ}
    (hstep : ∀ es e, view (step (run step s es) e) =
      run step' (view (run step s es)) (adds (run step s es) e))
    (es : List ε) :
    view (run step s es) =
      run step' (view s) (contributions step adds s es) := by
  induction es using List.reverseRecOn with
  | nil => rfl
  | append_singleton es e ih =>
      rw [run_concat, hstep, ih, contributions_concat, run_append]

/-- A log to which every step appends its contribution. -/
theorem run_contributions
    (view : σ → List β) {adds : σ → ε → List β}
    (hstep : ∀ s e, view (step s e) = view s ++ adds s e)
    (s : σ) (es : List ε) :
    view (run step s es) = view s ++ contributions step adds s es := by
  induction es generalizing s with
  | nil => exact (List.append_nil _).symm
  | cons e es ih =>
      calc
        view (run step (step s e) es) =
            view (step s e) ++ contributions step adds (step s e) es :=
          ih (step s e)
        _ = view s ++ contributions step adds s (e :: es) := by
          rw [hstep, List.append_assoc, contributions]

end Contributions

end SmartSurf.Support
