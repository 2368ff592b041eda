import Mathlib.Logic.Function.Basic
import Mathlib.Order.Lattice

/-!
# Tables scanned for a first matching slot

A table assigns a value to every index; a fixed list `slots` of indices is
scanned in order.  Filling writes into the first free slot, clearing empties
the first slot that holds a given value.  The representation invariant is that
no occupied value stands in two of the scanned slots.
-/

namespace SmartSurf.Support

variable {ι α : Type}

/-- First scanned slot whose value satisfies `p`. -/
def firstSlot (slots : List ι) (p : α → Bool) (t : ι → α) : Option ι :=
  slots.find? (fun i => p (t i))

/-- Some scanned slot holds `a`. -/
def Holds (slots : List ι) (t : ι → α) (a : α) : Prop :=
  ∃ i ∈ slots, t i = a

instance [DecidableEq α] (slots : List ι) (t : ι → α) (a : α) :
    Decidable (Holds slots t a) :=
  inferInstanceAs (Decidable (∃ i ∈ slots, t i = a))

/-- No occupied value stands in two scanned slots. -/
def OccupiedOnce (slots : List ι) (free : α → Bool) (t : ι → α) : Prop :=
  ∀ i ∈ slots, ∀ j ∈ slots, t i = t j → free (t i) = false → i = j

/-! ## The first matching slot -/

theorem firstSlot_some
    {slots : List ι} {p : α → Bool} {t : ι → α} {i : ι}
    (h : firstSlot slots p t = some i) :
    i ∈ slots ∧ p (t i) = true := by
  refine ⟨List.mem_of_find?_eq_some h, ?_⟩
  exact List.find?_some (p := fun j => p (t j)) h

theorem firstSlot_none
    {slots : List ι} {p : α → Bool} {t : ι → α}
    (h : firstSlot slots p t = none) {i : ι} (hi : i ∈ slots) :
    p (t i) = false := by
  have hnot := List.find?_eq_none.mp h i hi
  simpa using hnot

theorem firstSlot_isSome_of_mem
    {slots : List ι} {p : α → Bool} {t : ι → α} {i : ι}
    (hi : i ∈ slots) (hp : p (t i) = true) :
    ∃ j, firstSlot slots p t = some j := by
  cases h : firstSlot slots p t with
  | some j => exact ⟨j, rfl⟩
  | none =>
      have hfalse := firstSlot_none h hi
      rw [hp] at hfalse
      cases hfalse

/-- With the slots scanned in increasing order, no slot below the first match
matches. -/
theorem firstSlot_least [LinearOrder ι]
    {slots : List ι} (hsorted : slots.Pairwise (· < ·))
    {p : α → Bool} {t : ι → α} {i j : ι}
    (h : firstSlot slots p t = some i) (hj : j ∈ slots) (hji : j < i) :
    p (t j) = false := by
  obtain ⟨-, before, after, hsplit, hbefore⟩ :=
    List.find?_eq_some_iff_append.mp h
  rw [hsplit] at hj hsorted
  rcases List.mem_append.mp hj with hmem | hmem
  · simpa using hbefore j hmem
  · have htail := (List.pairwise_append.mp hsorted).2.1
    rcases List.mem_cons.mp hmem with rfl | hafter
    · exact absurd hji (lt_irrefl _)
    · exact absurd hji
        (lt_asymm ((List.pairwise_cons.mp htail).1 j hafter))

/-- A slot that matches while no lower slot does is the first match. -/
theorem firstSlot_eq_of_least [LinearOrder ι]
    {slots : List ι} (hsorted : slots.Pairwise (· < ·))
    {p : α → Bool} {t : ι → α} {i : ι} (hi : i ∈ slots)
    (hp : p (t i) = true) (hleast : ∀ j ∈ slots, j < i → p (t j) = false) :
    firstSlot slots p t = some i := by
  obtain ⟨j, hj⟩ := firstSlot_isSome_of_mem hi hp
  obtain ⟨hjmem, hjp⟩ := firstSlot_some hj
  rcases lt_trichotomy j i with hlt | rfl | hgt
  · rw [hleast j hjmem hlt] at hjp
    cases hjp
  · exact hj
  · rw [firstSlot_least hsorted hj hi hgt] at hp
    cases hp

/-! ## Filling -/

variable [DecidableEq ι]

/-- Write `a` into the first free slot, if there is one. -/
def fillFirst (slots : List ι) (free : α → Bool) (t : ι → α) (a : α) :
    ι → α :=
  match firstSlot slots free t with
  | some i => Function.update t i a
  | none => t

theorem fillFirst_eq_of_some
    {slots : List ι} {free : α → Bool} {t : ι → α} {i : ι}
    (h : firstSlot slots free t = some i) (a : α) :
    fillFirst slots free t a = Function.update t i a := by
  simp [fillFirst, h]

theorem fillFirst_eq_of_none
    {slots : List ι} {free : α → Bool} {t : ι → α}
    (h : firstSlot slots free t = none) (a : α) :
    fillFirst slots free t a = t := by
  simp [fillFirst, h]

/-- Filling leaves every occupied slot alone. -/
theorem fillFirst_occupied
    {slots : List ι} {free : α → Bool} {t : ι → α} (a : α) {i : ι}
    (hi : free (t i) = false) :
    fillFirst slots free t a i = t i := by
  cases h : firstSlot slots free t with
  | none => rw [fillFirst_eq_of_none h]
  | some j =>
      rw [fillFirst_eq_of_some h]
      apply Function.update_of_ne
      rintro rfl
      rw [(firstSlot_some h).2] at hi
      cases hi

/-- Filling with an occupied value changes the table unless it is full. -/
theorem fillFirst_eq_self_iff
    {slots : List ι} {free : α → Bool} {t : ι → α} {a : α}
    (ha : free a = false) :
    fillFirst slots free t a = t ↔ firstSlot slots free t = none := by
  constructor
  · intro hsame
    cases h : firstSlot slots free t with
    | none => rfl
    | some i =>
        have hvalue := congrFun hsame i
        rw [fillFirst_eq_of_some h, Function.update_self] at hvalue
        have hfree := (firstSlot_some h).2
        rw [← hvalue, ha] at hfree
        cases hfree
  · intro hfull
    exact fillFirst_eq_of_none hfull a

/-- Every value held after filling is the new one or was held before. -/
theorem holds_fillFirst
    {slots : List ι} {free : α → Bool} {t : ι → α} {a b : α}
    (h : Holds slots (fillFirst slots free t a) b) :
    b = a ∨ Holds slots t b := by
  obtain ⟨i, hi, hib⟩ := h
  cases hfirst : firstSlot slots free t with
  | none =>
      rw [fillFirst_eq_of_none hfirst] at hib
      exact Or.inr ⟨i, hi, hib⟩
  | some j =>
      rw [fillFirst_eq_of_some hfirst] at hib
      by_cases hij : i = j
      · subst i
        rw [Function.update_self] at hib
        exact Or.inl hib.symm
      · rw [Function.update_of_ne hij] at hib
        exact Or.inr ⟨i, hi, hib⟩

/-- Filling with a value the table does not hold keeps the invariant. -/
theorem occupiedOnce_fillFirst
    {slots : List ι} {free : α → Bool} {t : ι → α} {a : α}
    (ht : OccupiedOnce slots free t) (hnew : ¬Holds slots t a) :
    OccupiedOnce slots free (fillFirst slots free t a) := by
  cases hfirst : firstSlot slots free t with
  | none =>
      rw [fillFirst_eq_of_none hfirst]
      exact ht
  | some k =>
      rw [fillFirst_eq_of_some hfirst]
      intro i hi j hj heq hocc
      by_cases hik : i = k
      · by_cases hjk : j = k
        · exact hik.trans hjk.symm
        · rw [hik, Function.update_self, Function.update_of_ne hjk] at heq
          exact absurd ⟨j, hj, heq.symm⟩ hnew
      · rw [Function.update_of_ne hik] at heq hocc
        by_cases hjk : j = k
        · rw [hjk, Function.update_self] at heq
          exact absurd ⟨i, hi, heq⟩ hnew
        · rw [Function.update_of_ne hjk] at heq
          exact ht i hi j hj heq hocc

/-- Filling a free slot with a value which is already held breaks the
invariant. -/
theorem not_occupiedOnce_fillFirst
    {slots : List ι} {free : α → Bool} {t : ι → α} {a : α} {k : ι}
    (hocc : free a = false) (hheld : Holds slots t a)
    (hfirst : firstSlot slots free t = some k) :
    ¬OccupiedOnce slots free (fillFirst slots free t a) := by
  intro honce
  obtain ⟨i, hi, hia⟩ := hheld
  obtain ⟨hk, hkfree⟩ := firstSlot_some hfirst
  have hik : i ≠ k := by
    rintro rfl
    rw [hia, hocc] at hkfree
    cases hkfree
  rw [fillFirst_eq_of_some hfirst] at honce
  apply hik
  apply honce i hi k hk
  · rw [Function.update_of_ne hik, Function.update_self, hia]
  · rw [Function.update_of_ne hik, hia, hocc]

/-! ## Clearing -/

variable [DecidableEq α]

/-- Write `blank` into the first slot that holds `a`, if there is one. -/
def clearFirst (slots : List ι) (blank : α) (t : ι → α) (a : α) : ι → α :=
  match firstSlot slots (fun b => b == a) t with
  | some i => Function.update t i blank
  | none => t

theorem clearFirst_eq_of_some
    {slots : List ι} {t : ι → α} {a : α} {i : ι}
    (h : firstSlot slots (fun b => b == a) t = some i) (blank : α) :
    clearFirst slots blank t a = Function.update t i blank := by
  simp [clearFirst, h]

theorem clearFirst_eq_of_none
    {slots : List ι} {t : ι → α} {a : α}
    (h : firstSlot slots (fun b => b == a) t = none) (blank : α) :
    clearFirst slots blank t a = t := by
  simp [clearFirst, h]

/-- Clearing `a` leaves every slot with another value alone. -/
theorem clearFirst_of_ne
    {slots : List ι} {blank : α} {t : ι → α} {a : α} {i : ι}
    (hi : t i ≠ a) :
    clearFirst slots blank t a i = t i := by
  cases hfirst : firstSlot slots (fun b => b == a) t with
  | none => rw [clearFirst_eq_of_none hfirst]
  | some j =>
      rw [clearFirst_eq_of_some hfirst]
      apply Function.update_of_ne
      rintro rfl
      exact hi (by simpa using (firstSlot_some hfirst).2)

/-- A slot cleared of its value becomes blank; all others keep theirs. -/
theorem clearFirst_eq_or
    (slots : List ι) (blank : α) (t : ι → α) (a : α) (i : ι) :
    clearFirst slots blank t a i = t i ∨
      clearFirst slots blank t a i = blank := by
  cases hfirst : firstSlot slots (fun b => b == a) t with
  | none =>
      rw [clearFirst_eq_of_none hfirst]
      exact Or.inl rfl
  | some j =>
      rw [clearFirst_eq_of_some hfirst]
      by_cases hij : i = j
      · subst i
        exact Or.inr (Function.update_self _ _ _)
      · exact Or.inl (Function.update_of_ne hij _ _)

theorem occupiedOnce_clearFirst
    {slots : List ι} {free : α → Bool} {blank : α} {t : ι → α} {a : α}
    (hblank : free blank = true) (ht : OccupiedOnce slots free t) :
    OccupiedOnce slots free (clearFirst slots blank t a) := by
  intro i hi j hj heq hocc
  rcases clearFirst_eq_or slots blank t a i with hci | hci
  · rcases clearFirst_eq_or slots blank t a j with hcj | hcj
    · rw [hci, hcj] at heq
      rw [hci] at hocc
      exact ht i hi j hj heq hocc
    · rw [heq, hcj, hblank] at hocc
      cases hocc
  · rw [hci, hblank] at hocc
    cases hocc

/-- Under the invariant, clearing an occupied value releases it fully. -/
theorem not_holds_clearFirst
    {slots : List ι} {free : α → Bool} {blank : α} {t : ι → α} {a : α}
    (hblank : free blank = true) (hocc : free a = false)
    (ht : OccupiedOnce slots free t) :
    ¬Holds slots (clearFirst slots blank t a) a := by
  rintro ⟨i, hi, hia⟩
  have hti : t i = a := by
    by_contra hne
    exact hne ((clearFirst_of_ne hne).symm.trans hia)
  obtain ⟨j, hj⟩ := firstSlot_isSome_of_mem
    (t := t) (p := fun b => b == a) hi (by simp [hti])
  obtain ⟨hjmem, hjp⟩ := firstSlot_some hj
  have htj : t j = a := by simpa using hjp
  have hij : i = j := ht i hi j hjmem (hti.trans htj.symm) (by rw [hti, hocc])
  have hcleared : clearFirst slots blank t a i = blank := by
    rw [clearFirst_eq_of_some hj, hij]
    exact Function.update_self _ _ _
  rw [← hia, hcleared, hblank] at hocc
  cases hocc

end SmartSurf.Support
