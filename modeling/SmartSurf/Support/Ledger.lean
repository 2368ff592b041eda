import Mathlib.Data.Int.Basic
import Mathlib.Data.List.Nodup
import Mathlib.Logic.Function.Basic
import SmartSurf.Support.Run

/-!
# Requests and responses told apart by numbers

A ledger is the account of several components which issue numbered requests and
get responses that carry the number of a request.  Requests are numbered from
one counter; a response may settle one of the outstanding requests of the
component it comes to, or none.  The ledger keeps what has been issued and what
has been answered.

Every run of a ledger numbers its requests apart, answers a request at most
once unless it may be answered again, and loses none.  A machine whose steps
follow those of a ledger inherits all of this.
-/

namespace SmartSurf.Support

/-! ## Machines that follow an account -/

section Simulation

variable {σ ε α Label : Type*}

/-- The account moves from one state to another under a list of labels. -/
inductive Path (astep : α → Label → α → Prop) (a : α) :
    List Label → α → Prop
  | nil : Path astep a [] a
  | snoc {ls : List Label} {b c : α} {l : Label}
      (hpath : Path astep a ls b) (hstep : astep b l c) :
      Path astep a (ls ++ [l]) c

/-- A machine of which every step is followed by the account is followed along
every run. -/
theorem run_followed
    {cstep : σ → ε → σ} {astep : α → Label → α → Prop} {label : ε → Label}
    {I : List ε → σ → α → Prop} {s : σ} {a : α} (hinit : I [] s a)
    (hstep : ∀ es t b e, I es t b →
      ∃ c, astep b (label e) c ∧ I (es ++ [e]) (cstep t e) c)
    (es : List ε) :
    ∃ b, Path astep a (es.map label) b ∧ I es (run cstep s es) b := by
  induction es using List.reverseRecOn with
  | nil => exact ⟨a, .nil, hinit⟩
  | append_singleton es e ih =>
      obtain ⟨b, hpath, hb⟩ := ih
      obtain ⟨c, hc, hI⟩ := hstep es _ b e hb
      refine ⟨c, ?_, ?_⟩
      · rw [List.map_append]
        exact hpath.snoc hc
      · rw [run_concat]
        exact hI

end Simulation

/-! ## Ledgers -/

/-- The account of several components which number their requests from one
counter: the next number, the outstanding requests of each component, all
requests issued so far, and the answers given to them. -/
structure Ledger (ι Q A : Type) where
  next : ℤ
  pending : ι → List Q
  issued : List Q
  answers : List (Q × A)

namespace Ledger

variable {ι Q A : Type} {tag : Q → ℤ} {repeats : Q → Bool}

/-- One step of the account, labelled with the component and the number that a
response carries.  A response settles an outstanding request, which may go
without an answer; requests that `repeats` allows can be answered and stay
outstanding. -/
inductive Step [DecidableEq ι] (tag : Q → ℤ) (repeats : Q → Bool) :
    Ledger ι Q A → Option (ι × ℤ) → Ledger ι Q A → Prop
  | issue {L : Ledger ι Q A} {i : ι} {next : ℤ} {built : List Q}
      (hnext : L.next ≤ next)
      (hrange : ∀ q ∈ built, L.next ≤ tag q ∧ tag q < next)
      (hnodup : (built.map tag).Nodup) :
      Step tag repeats L none
        { next := next
          pending := Function.update L.pending i (L.pending i ++ built)
          issued := L.issued ++ built
          answers := L.answers }
  | ignore {L : Ledger ι Q A} {i : ι} {k : ℤ} :
      Step tag repeats L (some (i, k)) L
  | settle {L : Ledger ι Q A} {i : ι} {q : Q} {given : List (Q × A)}
      (hq : q ∈ L.pending i)
      (hgiven : given = [] ∨ ∃ a, given = [(q, a)]) :
      Step tag repeats L (some (i, tag q))
        { L with
          pending := Function.update L.pending i
            ((L.pending i).filter fun q' => tag q' != tag q)
          answers := L.answers ++ given }
  | renew {L : Ledger ι Q A} {i : ι} {q : Q} {a : A}
      (hq : q ∈ L.pending i) (hrepeats : repeats q = true) :
      Step tag repeats L (some (i, tag q))
        { L with answers := L.answers ++ [(q, a)] }

/-- Issued requests have numbers of their own, below the counter; outstanding
and answered requests have been issued, no request is outstanding at two
components, and a request which must not be answered again is answered once
and no longer outstanding. -/
structure Sound (tag : Q → ℤ) (repeats : Q → Bool) (L : Ledger ι Q A) :
    Prop where
  nodup : (L.issued.map tag).Nodup
  lt : ∀ q ∈ L.issued, tag q < L.next
  pending : ∀ i, (L.pending i).Sublist L.issued
  apart : ∀ i j q, q ∈ L.pending i → q ∈ L.pending j → i = j
  answers : ∀ x ∈ L.answers, x.1 ∈ L.issued
  closed : ∀ x ∈ L.answers, repeats x.1 = false → ∀ i, x.1 ∉ L.pending i
  once : ((L.answers.map Prod.fst).filter fun q => !repeats q).Nodup

/-- The account of components that have issued nothing. -/
def start (next : ℤ) : Ledger ι Q A where
  next := next
  pending := fun _ => []
  issued := []
  answers := []

theorem sound_start (next : ℤ) :
    Sound tag repeats (start next : Ledger ι Q A) where
  nodup := List.nodup_nil
  lt := by simp [start]
  pending := fun _ => List.Sublist.refl _
  apart := by simp [start]
  answers := by simp [start]
  closed := by simp [start]
  once := List.nodup_nil

/-- Outstanding requests of a component have different numbers. -/
theorem Sound.pending_nodup {L : Ledger ι Q A} (hL : Sound tag repeats L)
    (i : ι) : ((L.pending i).map tag).Nodup :=
  hL.nodup.sublist ((hL.pending i).map tag)

section Steps

variable {L : Ledger ι Q A} (hL : Sound tag repeats L) {i : ι}

include hL

/-- An answer to an outstanding request. -/
theorem Sound.once_concat
    {q : Q} (hq : q ∈ L.pending i) (a : A) :
    (((L.answers ++ [(q, a)]).map Prod.fst).filter
      fun q => !repeats q).Nodup := by
  rw [List.map_append, List.filter_append, List.nodup_append]
  refine ⟨hL.once, (List.nodup_singleton q).filter _, ?_⟩
  intro q' hold q'' hnew heq
  obtain ⟨hanswered, hrepeats⟩ := List.mem_filter.mp hold
  obtain ⟨x, hx, rfl⟩ := List.mem_map.mp hanswered
  have hq'' : q'' = q := by
    simpa using (List.mem_filter.mp hnew).1
  rw [hq''] at heq
  subst heq
  exact hL.closed x hx (by simpa using hrepeats) i hq

theorem Sound.renew
    {q : Q} {a : A} (hq : q ∈ L.pending i) (hrepeats : repeats q = true) :
    Sound tag repeats { L with answers := L.answers ++ [(q, a)] } := by
  refine ⟨hL.nodup, hL.lt, hL.pending, hL.apart, ?_, ?_,
    hL.once_concat hq a⟩
  · intro x hx
    rcases List.mem_append.mp hx with hold | hnew
    · exact hL.answers x hold
    · obtain rfl := List.mem_singleton.mp hnew
      exact (hL.pending i).subset hq
  · intro x hx hrepeats'
    rcases List.mem_append.mp hx with hold | hnew
    · exact hL.closed x hold hrepeats'
    · obtain rfl := List.mem_singleton.mp hnew
      rw [hrepeats] at hrepeats'
      cases hrepeats'

variable [DecidableEq ι]

theorem Sound.issue
    {next : ℤ} {built : List Q} (hnext : L.next ≤ next)
    (hrange : ∀ q ∈ built, L.next ≤ tag q ∧ tag q < next)
    (hnodup : (built.map tag).Nodup) :
    Sound tag repeats
      { next := next
        pending := Function.update L.pending i (L.pending i ++ built)
        issued := L.issued ++ built
        answers := L.answers } := by
  have hfresh : ∀ q ∈ L.issued, q ∉ built := by
    intro q hold hnew
    have hlt := hL.lt q hold
    have hge := (hrange q hnew).1
    omega
  have hmem : ∀ j q,
      q ∈ Function.update L.pending i (L.pending i ++ built) j →
        q ∈ L.pending j ∨ (j = i ∧ q ∈ built) := by
    intro j q hq
    by_cases hj : j = i
    · subst hj
      rw [Function.update_self, List.mem_append] at hq
      exact hq.imp_right fun hbuilt => ⟨rfl, hbuilt⟩
    · rw [Function.update_of_ne hj] at hq
      exact Or.inl hq
  refine ⟨?_, ?_, ?_, ?_, ?_, ?_, hL.once⟩
  · rw [List.map_append, List.nodup_append]
    refine ⟨hL.nodup, hnodup, ?_⟩
    intro k hold k' hnew
    obtain ⟨q, hq, rfl⟩ := List.mem_map.mp hold
    obtain ⟨q', hq', rfl⟩ := List.mem_map.mp hnew
    have hlt := hL.lt q hq
    have hge := (hrange q' hq').1
    omega
  · intro q hq
    rcases List.mem_append.mp hq with hold | hnew
    · exact Int.lt_of_lt_of_le (hL.lt q hold) hnext
    · exact (hrange q hnew).2
  · intro j
    by_cases hj : j = i
    · subst hj
      simp only [Function.update_self]
      exact (hL.pending j).append (List.Sublist.refl _)
    · simp only [Function.update_of_ne hj]
      exact (hL.pending j).trans (List.sublist_append_left _ _)
  · intro j j' q hq hq'
    rcases hmem j q hq with hold | ⟨rfl, hnew⟩
    · rcases hmem j' q hq' with hold' | ⟨rfl, hnew'⟩
      · exact hL.apart j j' q hold hold'
      · exact absurd hnew' (hfresh q ((hL.pending j).subset hold))
    · rcases hmem j' q hq' with hold' | ⟨rfl, -⟩
      · exact absurd hnew (hfresh q ((hL.pending j').subset hold'))
      · rfl
  · intro x hx
    exact List.mem_append_left _ (hL.answers x hx)
  · intro x hx hrepeats j hq
    rcases hmem j x.1 hq with hold | ⟨-, hnew⟩
    · exact hL.closed x hx hrepeats j hold
    · exact hfresh x.1 (hL.answers x hx) hnew

theorem Sound.settle
    {q : Q} {given : List (Q × A)} (hq : q ∈ L.pending i)
    (hgiven : given = [] ∨ ∃ a, given = [(q, a)]) :
    Sound tag repeats
      { L with
        pending := Function.update L.pending i
          ((L.pending i).filter fun q' => tag q' != tag q)
        answers := L.answers ++ given } := by
  have hissued := (hL.pending i).subset hq
  have hsub : ∀ j, (Function.update L.pending i
      ((L.pending i).filter fun q' => tag q' != tag q) j).Sublist
        (L.pending j) := by
    intro j
    by_cases hj : j = i
    · subst hj
      rw [Function.update_self]
      exact List.filter_sublist
    · rw [Function.update_of_ne hj]
  have hgone : ∀ j, q ∉ Function.update L.pending i
      ((L.pending i).filter fun q' => tag q' != tag q) j := by
    intro j hmem
    have hj := hL.apart j i q ((hsub j).subset hmem) hq
    subst hj
    rw [Function.update_self, List.mem_filter] at hmem
    simp at hmem
  refine ⟨hL.nodup, hL.lt, ?_, ?_, ?_, ?_, ?_⟩
  · intro j
    exact (hsub j).trans (hL.pending j)
  · intro j j' q' hj hj'
    exact hL.apart j j' q' ((hsub j).subset hj) ((hsub j').subset hj')
  · intro x hx
    rcases List.mem_append.mp hx with hold | hnew
    · exact hL.answers x hold
    · rcases hgiven with rfl | ⟨a, rfl⟩
      · cases hnew
      · obtain rfl := List.mem_singleton.mp hnew
        exact hissued
  · intro x hx hrepeats j hmem
    rcases List.mem_append.mp hx with hold | hnew
    · exact hL.closed x hold hrepeats j ((hsub j).subset hmem)
    · rcases hgiven with rfl | ⟨a, rfl⟩
      · cases hnew
      · obtain rfl := List.mem_singleton.mp hnew
        exact hgone j hmem
  · rcases hgiven with rfl | ⟨a, rfl⟩
    · rw [List.append_nil]
      exact hL.once
    · exact hL.once_concat hq a

theorem Sound.step
    {L' : Ledger ι Q A} {label : Option (ι × ℤ)}
    (hstep : Step tag repeats L label L') :
    Sound tag repeats L' := by
  cases hstep with
  | issue hnext hrange hnodup => exact hL.issue hnext hrange hnodup
  | ignore => exact hL
  | settle hq hgiven => exact hL.settle hq hgiven
  | renew hq hrepeats => exact hL.renew hq hrepeats

end Steps

/-! ## Whole accounts -/

variable [DecidableEq ι]

/-- A step drops an outstanding request only if it is labelled with it. -/
theorem Step.mem_pending
    {L L' : Ledger ι Q A} {label : Option (ι × ℤ)}
    (hstep : Step tag repeats L label L') {i : ι} {q : Q}
    (hq : q ∈ L.pending i) :
    q ∈ L'.pending i ∨ label = some (i, tag q) := by
  cases hstep with
  | @issue j next built hnext hrange hnodup =>
      left
      by_cases hi : i = j
      · subst hi
        simp only [Function.update_self]
        exact List.mem_append_left _ hq
      · simpa only [Function.update_of_ne hi] using hq
  | ignore => exact Or.inl hq
  | @settle j q' given hq' hgiven =>
      by_cases hi : i = j
      · subst hi
        by_cases htag : tag q = tag q'
        · exact Or.inr (by rw [htag])
        · left
          simp only [Function.update_self]
          exact List.mem_filter.mpr ⟨hq, by simpa using htag⟩
      · left
        simpa only [Function.update_of_ne hi] using hq
  | renew => exact Or.inl hq

end Ledger

end SmartSurf.Support
