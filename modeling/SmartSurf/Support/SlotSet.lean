import Mathlib.Data.Finset.Card
import Mathlib.Data.Finset.Image
import SmartSurf.Support.SlotTable

/-!
# The set that a table of slots stands for

A table in which no occupied value stands twice represents the set of its
occupied values.  Filling adds a value while there is room, clearing takes one
away, and there is a free slot exactly if the set is not full.
-/

namespace SmartSurf.Support

variable {ι α : Type} [DecidableEq ι] [DecidableEq α] {slots : List ι}
  {free : α → Bool} {t : ι → α}

/-- The values of the occupied slots. -/
def occupants (slots : List ι) (free : α → Bool) (t : ι → α) : Finset α :=
  (slots.toFinset.filter fun i => free (t i) = false).image t

/-- Add a value to a set of at most `n` values. -/
def addBounded (n : ℕ) (values : Finset α) (a : α) : Finset α :=
  if values.card < n then insert a values else values

theorem mem_occupants {a : α} :
    a ∈ occupants slots free t ↔ Holds slots t a ∧ free a = false := by
  simp only [occupants, Finset.mem_image, Finset.mem_filter, List.mem_toFinset,
    Holds]
  constructor
  · rintro ⟨i, ⟨hi, hocc⟩, rfl⟩
    exact ⟨⟨i, hi, rfl⟩, hocc⟩
  · rintro ⟨⟨i, hi, rfl⟩, hocc⟩
    exact ⟨i, ⟨hi, hocc⟩, rfl⟩

theorem card_occupants_le (slots : List ι) (free : α → Bool) (t : ι → α) :
    (occupants slots free t).card ≤ slots.length :=
  calc
    (occupants slots free t).card
        ≤ (slots.toFinset.filter fun i => free (t i) = false).card :=
      Finset.card_image_le
    _ ≤ slots.toFinset.card := Finset.card_filter_le _ _
    _ ≤ slots.length := List.toFinset_card_le slots

/-- The table has a free slot exactly if its set is not full. -/
theorem firstSlot_ne_none_iff
    (hslots : slots.Nodup) (ht : OccupiedOnce slots free t) :
    firstSlot slots free t ≠ none ↔
      (occupants slots free t).card < slots.length := by
  have hinjective : Set.InjOn t
      (slots.toFinset.filter fun i => free (t i) = false) := by
    intro i hi j hj heq
    rw [Finset.mem_coe, Finset.mem_filter, List.mem_toFinset] at hi hj
    exact ht i hi.1 j hj.1 heq hi.2
  rw [occupants, Finset.card_image_of_injOn hinjective,
    ← List.toFinset_card_of_nodup hslots]
  constructor
  · intro hfree
    obtain ⟨i, hi⟩ := Option.ne_none_iff_exists'.mp hfree
    obtain ⟨hmem, hp⟩ := firstSlot_some hi
    refine Finset.card_lt_card (Finset.filter_ssubset.mpr ?_)
    exact ⟨i, List.mem_toFinset.mpr hmem, by simp [hp]⟩
  · intro hcard hnone
    refine absurd hcard (not_lt_of_ge (Finset.card_le_card ?_))
    intro i hi
    exact Finset.mem_filter.mpr
      ⟨hi, firstSlot_none hnone (List.mem_toFinset.mp hi)⟩

theorem occupants_fillFirst
    (hslots : slots.Nodup) (ht : OccupiedOnce slots free t) {a : α}
    (ha : free a = false) :
    occupants slots free (fillFirst slots free t a) =
      addBounded slots.length (occupants slots free t) a := by
  have hroom := firstSlot_ne_none_iff hslots ht
  cases hfirst : firstSlot slots free t with
  | none =>
      rw [addBounded, if_neg (mt hroom.mpr (not_not.mpr hfirst)),
        fillFirst_eq_of_none hfirst]
  | some k =>
      rw [addBounded, if_pos (hroom.mp (by simp [hfirst]))]
      ext b
      rw [Finset.mem_insert, mem_occupants, mem_occupants]
      constructor
      · rintro ⟨hholds, hocc⟩
        exact (holds_fillFirst hholds).imp_right fun h => ⟨h, hocc⟩
      · rintro (rfl | ⟨⟨i, hi, rfl⟩, hocc⟩)
        · refine ⟨⟨k, (firstSlot_some hfirst).1, ?_⟩, ha⟩
          rw [fillFirst_eq_of_some hfirst, Function.update_self]
        · exact ⟨⟨i, hi, fillFirst_occupied a hocc⟩, hocc⟩

theorem occupants_clearFirst
    (ht : OccupiedOnce slots free t) {blank : α} (hblank : free blank = true)
    (a : α) :
    occupants slots free (clearFirst slots blank t a) =
      (occupants slots free t).erase a := by
  ext b
  rw [Finset.mem_erase, mem_occupants, mem_occupants]
  constructor
  · rintro ⟨⟨i, hi, hib⟩, hocc⟩
    refine ⟨?_, ?_, hocc⟩
    · rintro rfl
      exact not_holds_clearFirst hblank hocc ht ⟨i, hi, hib⟩
    · rcases clearFirst_eq_or slots blank t a i with hsame | hcleared
      · exact ⟨i, hi, hsame.symm.trans hib⟩
      · rw [← hib, hcleared, hblank] at hocc
        cases hocc
  · rintro ⟨hne, ⟨i, hi, rfl⟩, hocc⟩
    exact ⟨⟨i, hi, clearFirst_of_ne hne⟩, hocc⟩

end SmartSurf.Support
