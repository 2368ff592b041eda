import Mathlib.Logic.Function.Iterate
import SmartSurf.Ecc.Refresh

/-!
# Repeated refreshes

After its first refresh a SIM property holds the same set of numbers for ever,
and no number twice.  A slot that was empty has then received the numbers for
devices without a SIM; it is not empty any more, so the next refresh takes them
for numbers of the SIM and keeps them.
-/

namespace SmartSurf.Ecc

open Support

/-! ## One value -/

theorem nodup_removeAll_append
    {xs ys : List JString} (hxs : xs.Nodup) (hys : ys.Nodup) :
    (xs.removeAll ys ++ ys).Nodup := by
  rw [List.nodup_append]
  refine ⟨hxs.filter _, hys, ?_⟩
  rintro a ha b hb rfl
  have hkept := (List.mem_filter.mp ha).2
  simp [hb] at hkept

theorem nodup_refreshedList
    {list : List EccEntry} (hfixed : (fixedList list).Nodup)
    (hnoSim : (fixedListNoSim list).Nodup) {numbers : JString}
    (h : VendorList numbers) (hnumbers : (simNumbers numbers).Nodup) :
    (refreshedList list numbers).Nodup := by
  have hmerged := nodup_removeAll_append hnumbers hfixed
  simp only [refreshedList, filter_split_eq_simNumbers h]
  split
  · exact nodup_removeAll_append hmerged hnoSim
  · exact hmerged

/-- The numbers which a slot holds after a refresh of its first value. -/
def Merged (list : List EccEntry) (initial number : JString) : Prop :=
  number ∈ simNumbers initial ∨ number ∈ fixedList list ∨
    (initial = [] ∧ number ∈ fixedListNoSim list)

/-- What the first refresh establishes for the value of a slot, and every later
one preserves. -/
structure Refreshed (list : List EccEntry) (initial value : JString) :
    Prop where
  vendor : VendorList value
  nodup : (simNumbers value).Nodup
  mem_iff : ∀ number, number ∈ simNumbers value ↔ Merged list initial number

section

variable {list : List EccEntry} (hcustom : CustomizedTokens list)
  (hfixed : (fixedList list).Nodup) (hnoSim : (fixedListNoSim list).Nodup)
  {initial : JString} (hinitial : VendorList initial)

include hcustom hfixed hnoSim hinitial

theorem refreshed_first (hnodup : (simNumbers initial).Nodup) :
    Refreshed list initial (refreshedValue list initial) where
  vendor := vendorList_refreshedValue hcustom hinitial
  nodup := by
    rw [simNumbers_refreshedValue hcustom hinitial]
    exact nodup_refreshedList hfixed hnoSim hinitial hnodup
  mem_iff number := by
    rw [simNumbers_refreshedValue hcustom hinitial]
    exact mem_refreshedList hinitial list

/-- A refreshed slot is empty only if there was nothing to fill it with, so the
numbers for devices without a SIM are not added a second time. -/
theorem Refreshed.next
    {value : JString} (hvalue : Refreshed list initial value) :
    Refreshed list initial (refreshedValue list value) where
  vendor := vendorList_refreshedValue hcustom hvalue.vendor
  nodup := by
    rw [simNumbers_refreshedValue hcustom hvalue.vendor]
    exact nodup_refreshedList hfixed hnoSim hvalue.vendor hvalue.nodup
  mem_iff number := by
    rw [simNumbers_refreshedValue hcustom hvalue.vendor,
      mem_refreshedList hvalue.vendor, hvalue.mem_iff]
    constructor
    · rintro (hmerged | hmem | ⟨hempty, hmem⟩)
      · exact hmerged
      · exact .inr (.inl hmem)
      · have hnone : ∀ n, ¬Merged list initial n := by
          intro n hn
          rw [← hvalue.mem_iff, hempty] at hn
          cases hn
        have hnil : initial = [] := by
          rw [← simNumbers_eq_nil_iff hinitial,
            List.eq_nil_iff_forall_not_mem]
          exact fun n hn => hnone n (.inl hn)
        exact .inr (.inr ⟨hnil, hmem⟩)
    · exact .inl

theorem refreshed_iterate
    (hnodup : (simNumbers initial).Nodup) {n : ℕ} (hn : 1 ≤ n) :
    Refreshed list initial ((refreshedValue list)^[n] initial) := by
  induction n, hn using Nat.le_induction with
  | base => exact refreshed_first hcustom hfixed hnoSim hinitial hnodup
  | succ n _ ih =>
      rw [Function.iterate_succ_apply']
      exact ih.next hcustom hfixed hnoSim hinitial

end

/-- The entries for devices without a SIM whose numbers are not empty are among
the entries for such devices. -/
theorem nodup_fixedListNoSim
    {list : List EccEntry}
    (h : ((list.filter fun e => e.mCondition == eccNoSim).map
      EccEntry.mEcc).Nodup) :
    (fixedListNoSim list).Nodup := by
  refine h.sublist (List.Sublist.map _ (List.monotone_filter_right _ ?_))
  intro e he
  exact (Bool.and_eq_true_iff.mp he).1

theorem mem_fixedList {list : List EccEntry} {number : JString} :
    number ∈ fixedList list ↔
      ∃ e ∈ list, e.mCondition ≠ eccNoSim ∧ e.mEcc = number := by
  simp [fixedList, and_assoc]

/-- In terms of the entries: an empty slot gets all customised numbers, another
one those that do not depend on the SIM. -/
theorem merged_iff
    {list : List EccEntry} (hcustom : CustomizedTokens list)
    (initial number : JString) :
    Merged list initial number ↔
      if initial = [] then number ∈ list.map EccEntry.mEcc
      else number ∈ simNumbers initial ∨
        ∃ e ∈ list, e.mCondition ≠ eccNoSim ∧ e.mEcc = number := by
  by_cases hnil : initial = []
  · have hentry : ∀ e ∈ list, e.mEcc ≠ [] :=
      fun e he => (hcustom e.mEcc (List.mem_map_of_mem he)).1
    rw [if_pos hnil, Merged, hnil]
    simp only [simNumbers, fixedList, fixedListNoSim, List.mem_map,
      List.mem_filter]
    constructor
    · rintro (hmem | ⟨e, ⟨he, -⟩, rfl⟩ | ⟨-, e, ⟨he, -⟩, rfl⟩)
      · cases hmem
      · exact ⟨e, he, rfl⟩
      · exact ⟨e, he, rfl⟩
    · rintro ⟨e, he, rfl⟩
      by_cases hcondition : e.mCondition = eccNoSim
      · have hreserved : e ∈ list ∧
            (e.mCondition == eccNoSim && e.mEcc != []) = true :=
          ⟨he, by simp [hcondition, hentry e he]⟩
        exact .inr (.inr ⟨trivial, e, hreserved, rfl⟩)
      · exact .inr (.inl ⟨e, ⟨he, by simp [hcondition]⟩, rfl⟩)
  · rw [if_neg hnil, Merged, mem_fixedList]
    simp [hnil]

/-! ## The device -/

/-- The device after `n` calls of `updateEmergencyNumbersProperty`. -/
def refreshes (n : ℕ) (d : Device) : Device :=
  (stateAfter updateEmergencyNumbersProperty)^[n] d

theorem refreshes_succ (n : ℕ) (d : Device) :
    refreshes (n + 1) d =
      stateAfter updateEmergencyNumbersProperty (refreshes n d) :=
  Function.iterate_succ_apply' _ n d

/-- As long as the values fit, each call rewrites both slots. -/
theorem refreshes_props
    {d : Device} {n : ℕ}
    (hfits : ∀ k < n, ∀ slot, IsSlot slot → Fits (refreshes k d) slot) :
    (refreshes n d).customizedEccList = d.customizedEccList ∧
      ∀ slot, IsSlot slot → (refreshes n d).props slot =
        (refreshedValue d.customizedEccList)^[n] (d.props slot) := by
  induction n with
  | zero => exact ⟨rfl, fun _ _ => rfl⟩
  | succ n ih =>
      obtain ⟨hlist, hprops⟩ := ih fun k hk => hfits k (by omega)
      have hrun := updateEmergencyNumbersProperty_ok
        (hfits n (by omega) .eccList (.inl rfl))
        (hfits n (by omega) .eccList1 (.inr rfl))
      rw [refreshes_succ, stateAfter_of_ok hrun]
      refine ⟨hlist, ?_⟩
      intro slot hslot
      rw [Function.iterate_succ_apply', ← hprops slot hslot, ← hlist]
      rcases hslot with rfl | rfl
      · simp [rewriteSlot]
      · simp [rewriteSlot]

/-- After any number of refreshes a slot holds every number once: those it had
and the customised ones that are not reserved for devices without a SIM, or all
customised ones if it was empty. -/
theorem refreshes_numbers
    {d : Device} {property : SystemProperty} (hslot : IsSlot property)
    (hvendor : VendorList (d.props property))
    (hnodup : (simNumbers (d.props property)).Nodup)
    (hcustom : CustomizedTokens d.customizedEccList)
    (hfixed : ((d.customizedEccList.filter fun e =>
      e.mCondition != eccNoSim).map EccEntry.mEcc).Nodup)
    (hnoSim : ((d.customizedEccList.filter fun e =>
      e.mCondition == eccNoSim).map EccEntry.mEcc).Nodup)
    {n : ℕ} (hn : 1 ≤ n)
    (hfits : ∀ k < n, ∀ slot, IsSlot slot → Fits (refreshes k d) slot) :
    (simNumbers ((refreshes n d).props property)).Nodup ∧
      ∀ number, number ∈ simNumbers ((refreshes n d).props property) ↔
        if d.props property = [] then
          number ∈ d.customizedEccList.map EccEntry.mEcc
        else
          number ∈ simNumbers (d.props property) ∨
            ∃ e ∈ d.customizedEccList,
              e.mCondition ≠ eccNoSim ∧ e.mEcc = number := by
  have hrefreshed := refreshed_iterate hcustom hfixed
    (nodup_fixedListNoSim hnoSim) hvendor hnodup hn
  rw [(refreshes_props hfits).2 property hslot]
  refine ⟨hrefreshed.nodup, ?_⟩
  intro number
  rw [hrefreshed.mem_iff, merged_iff hcustom]

/-- Two refreshes of a device whose first slot is empty: the number reserved
for devices without a SIM arrives with the first and stays with the second. -/
theorem refreshes_numbers_of_empty_slot :
    (simNumbers ((refreshes 2 secondSlotDevice).props .eccList)).Nodup ∧
      ∀ number,
        number ∈ simNumbers ((refreshes 2 secondSlotDevice).props .eccList) ↔
          number ∈ ["999".toList] := by
  obtain ⟨-, hcustom, hvendor, -⟩ := secondSlotDevice_hypotheses
  have hfits : ∀ k < 2, ∀ slot, IsSlot slot →
      Fits (refreshes k secondSlotDevice) slot := by
    have hboth : ∀ k < 2, Fits (refreshes k secondSlotDevice) .eccList ∧
        Fits (refreshes k secondSlotDevice) .eccList1 := by decide +kernel
    rintro k hk slot (rfl | rfl)
    · exact (hboth k hk).1
    · exact (hboth k hk).2
  exact refreshes_numbers (.inl rfl) hvendor (by decide) hcustom (by decide)
    (by decide) (by decide) hfits

end SmartSurf.Ecc
