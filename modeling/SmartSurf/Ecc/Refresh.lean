import SmartSurf.Ecc.Classification

/-!
# Refreshing the SIM properties

`MtkEccList.updateEmergencyNumbersProperty` merges the customised numbers into
`ril.ecclist` and `ril.ecclist1`.  It treats a slot whose property is empty as
a slot without a SIM and adds the numbers reserved for that case, while the
classifier counts those numbers only when both properties are empty.
-/

namespace SmartSurf.Ecc

open Support

/-! ## The refresh -/

/-- Numbers of the customised entries that do not depend on the SIM. -/
def fixedList (list : List EccEntry) : List JString :=
  (list.filter fun eccEntry => eccEntry.mCondition != eccNoSim).map
    EccEntry.mEcc

/-- Numbers of the customised entries for devices without a SIM. -/
def fixedListNoSim (list : List EccEntry) : List JString :=
  (list.filter fun eccEntry =>
    eccEntry.mCondition == eccNoSim && eccEntry.mEcc != []).map EccEntry.mEcc

/-- The list computed for one slot from the value of its property. -/
def refreshedList (list : List EccEntry) (numbers : JString) :
    List JString :=
  let simList := (Java.split numbers ',').filter (· != [])
  let simList := simList.removeAll (fixedList list) ++ fixedList list
  if numbers = [] then
    simList.removeAll (fixedListNoSim list) ++ fixedListNoSim list
  else
    simList

/-- The value written back to the property of a slot. -/
def refreshedValue (list : List EccEntry) (numbers : JString) : JString :=
  Java.join ',' (refreshedList list numbers)

/-- The part of the refresh for one slot. -/
def refreshProperty (property : SystemProperty) : EccM Unit := fun d =>
  match d.props.set property
      (refreshedValue d.customizedEccList (d.props property)) with
  | .ok props => .ok () { d with props := props }
  | .error thr => .error thr d

/-- `MtkEccList.updateEmergencyNumbersProperty`. -/
def updateEmergencyNumbersProperty : EccM Unit := do
  refreshProperty .eccList
  refreshProperty .eccList1

/-! ## Values of the SIM properties -/

/-- A SIM property as the vendor library writes it: empty, or nonempty numbers
separated by commas. -/
def VendorList (numbers : JString) : Prop :=
  numbers = [] ∨
    ∃ tokens, tokens ≠ [] ∧ Tokens ',' tokens ∧ numbers = Java.join ',' tokens

/-- The numbers of the customised list are nonempty and free of commas. -/
def CustomizedTokens (list : List EccEntry) : Prop :=
  Tokens ',' (list.map EccEntry.mEcc)

theorem simNumbers_join {tokens : List JString} (h : Tokens ',' tokens) :
    simNumbers (Java.join ',' tokens) = tokens := by
  by_cases hne : tokens = []
  · subst tokens
    rfl
  · have hjoin : Java.join ',' tokens ≠ [] :=
      joinWith_ne_nil hne fun p hp => (h p hp).1
    rw [simNumbers, if_neg hjoin]
    exact splitTrim_joinWith_of_tokens hne h

theorem tokens_simNumbers {numbers : JString} (h : VendorList numbers) :
    Tokens ',' (simNumbers numbers) := by
  rcases h with rfl | ⟨tokens, -, htokens, rfl⟩
  · intro p hp
    cases hp
  · rw [simNumbers_join htokens]
    exact htokens

theorem simNumbers_eq_nil_iff {numbers : JString} (h : VendorList numbers) :
    simNumbers numbers = [] ↔ numbers = [] := by
  constructor
  · intro hnil
    rcases h with rfl | ⟨tokens, hne, htokens, rfl⟩
    · rfl
    · rw [simNumbers_join htokens] at hnil
      exact absurd hnil hne
  · rintro rfl
    rfl

/-- The nonempty pieces of a SIM property are its numbers. -/
theorem filter_split_eq_simNumbers
    {numbers : JString} (h : VendorList numbers) :
    (Java.split numbers ',').filter (· != []) = simNumbers numbers := by
  by_cases hnil : numbers = []
  · subst numbers
    decide
  · have hsplit : Java.split numbers ',' = simNumbers numbers := by
      rw [simNumbers, if_neg hnil]
    rw [hsplit, List.filter_eq_self]
    intro p hp
    simpa using (tokens_simNumbers h p hp).1

theorem mem_removeAll_append
    {xs ys : List JString} {n : JString} :
    n ∈ xs.removeAll ys ++ ys ↔ n ∈ xs ∨ n ∈ ys := by
  rw [List.mem_append, List.removeAll, List.mem_filter]
  by_cases hn : n ∈ ys
  · simp [hn]
  · simp [hn]

theorem mem_refreshedList
    {numbers : JString} (h : VendorList numbers)
    (list : List EccEntry) {n : JString} :
    n ∈ refreshedList list numbers ↔
      n ∈ simNumbers numbers ∨ n ∈ fixedList list ∨
        (numbers = [] ∧ n ∈ fixedListNoSim list) := by
  simp only [refreshedList, filter_split_eq_simNumbers h]
  split
  next hnil =>
    rw [mem_removeAll_append, mem_removeAll_append]
    simp [hnil, or_assoc]
  next hnil =>
    rw [mem_removeAll_append]
    simp [hnil]

theorem tokens_refreshedList
    {list : List EccEntry} (hcustom : CustomizedTokens list)
    {numbers : JString} (h : VendorList numbers) :
    Tokens ',' (refreshedList list numbers) := by
  intro n hn
  have hentry : ∀ e ∈ list, e.mEcc ≠ [] ∧ ',' ∉ e.mEcc := by
    intro e he
    exact hcustom e.mEcc (List.mem_map_of_mem he)
  rcases (mem_refreshedList h list).mp hn with hsim | hfixed | ⟨-, hnoSim⟩
  · exact tokens_simNumbers h n hsim
  · obtain ⟨e, he, rfl⟩ := List.mem_map.mp hfixed
    exact hentry e (List.mem_of_mem_filter he)
  · obtain ⟨e, he, rfl⟩ := List.mem_map.mp hnoSim
    exact hentry e (List.mem_of_mem_filter he)

theorem simNumbers_refreshedValue
    {list : List EccEntry} (hcustom : CustomizedTokens list)
    {numbers : JString} (h : VendorList numbers) :
    simNumbers (refreshedValue list numbers) = refreshedList list numbers :=
  simNumbers_join (tokens_refreshedList hcustom h)

/-- A refreshed value has the form of a vendor value again. -/
theorem vendorList_refreshedValue
    {list : List EccEntry} (hcustom : CustomizedTokens list)
    {numbers : JString} (h : VendorList numbers) :
    VendorList (refreshedValue list numbers) := by
  by_cases hnil : refreshedList list numbers = []
  · left
    rw [refreshedValue, hnil]
    rfl
  · right
    exact ⟨refreshedList list numbers, hnil,
      tokens_refreshedList hcustom h, rfl⟩

/-- Only a slot that was empty can be empty after the refresh. -/
theorem refreshedValue_eq_nil
    {list : List EccEntry} (hcustom : CustomizedTokens list)
    {numbers : JString} (h : VendorList numbers)
    (hnil : refreshedValue list numbers = []) :
    numbers = [] := by
  have hrefreshed : refreshedList list numbers = [] := by
    rw [← simNumbers_refreshedValue hcustom h, hnil]
    rfl
  rw [← simNumbers_eq_nil_iff h, List.eq_nil_iff_forall_not_mem]
  intro n hn
  have hmem := (mem_refreshedList h list).mpr (Or.inl hn)
  rw [hrefreshed] at hmem
  cases hmem

/-! ## Numbers in force before and after a refresh -/

/-- The number matches an entry reserved for devices without a SIM. -/
def reservedMatches (d : Device) (number : JString) : Bool :=
  (fixedListNoSim d.customizedEccList).any (matchesNumber number)

/-- The number matches the network list, a SIM list or a customised entry
that does not depend on the SIM. -/
def otherMatches (d : Device) (number : JString) : Bool :=
  ((networkEntries (d.props .eccServiceCategoryList)).map Prod.fst).any
      (matchesNumber number) ||
    ((simNumbers (d.props .eccList)).any (matchesNumber number) ||
      ((simNumbers (d.props .eccList1)).any (matchesNumber number) ||
        (fixedList d.customizedEccList).any (matchesNumber number)))

theorem any_eligible
    {d : Device} (hcustom : CustomizedTokens d.customizedEccList)
    (number : JString) :
    ((d.customizedEccList.filter (eligible d)).map EccEntry.mEcc).any
        (matchesNumber number) =
      ((fixedList d.customizedEccList).any (matchesNumber number) ||
        (!simInserted d && reservedMatches d number)) := by
  have hentry : ∀ e ∈ d.customizedEccList, e.mEcc ≠ [] := by
    intro e he
    exact (hcustom e.mEcc (List.mem_map_of_mem he)).1
  rw [Bool.eq_iff_iff]
  simp only [reservedMatches, fixedList, fixedListNoSim, List.any_map,
    List.any_filter, List.any_eq_true, Bool.or_eq_true, Bool.and_eq_true,
    Function.comp_apply, eligible, Bool.not_eq_true', bne_iff_ne, beq_iff_eq]
  constructor
  · rintro ⟨e, he, helig, hmatch⟩
    by_cases hcondition : e.mCondition = eccNoSim
    · right
      rcases helig with hsim | hother
      · exact ⟨hsim, e, he, ⟨hcondition, hentry e he⟩, hmatch⟩
      · exact absurd hcondition hother
    · left
      exact ⟨e, he, hcondition, hmatch⟩
  · rintro (⟨e, he, hcondition, hmatch⟩ | ⟨hsim, e, he, -, hmatch⟩)
    · exact ⟨e, he, Or.inr hcondition, hmatch⟩
    · exact ⟨e, he, Or.inl hsim, hmatch⟩

/-- Reserved entries count only when no SIM list is present. -/
theorem accepts_eq_otherMatches
    {d : Device} (hcustom : CustomizedTokens d.customizedEccList)
    (number : JString) :
    accepts d number =
      (otherMatches d number ||
        (!simInserted d && reservedMatches d number)) := by
  simp only [accepts, emergencyEccs, List.any_append, any_eligible hcustom,
    otherMatches, Bool.or_assoc]

/-- The device after the value of one slot has been written back. -/
def rewriteSlot (d : Device) (property : SystemProperty) : Device :=
  { d with
    props := Function.update d.props property
      (refreshedValue d.customizedEccList (d.props property)) }

theorem any_simNumbers_refreshedValue
    {list : List EccEntry} (hcustom : CustomizedTokens list)
    {numbers : JString} (h : VendorList numbers) (p : JString → Bool) :
    (simNumbers (refreshedValue list numbers)).any p =
      ((simNumbers numbers).any p ||
        ((fixedList list).any p ||
          (decide (numbers = []) && (fixedListNoSim list).any p))) := by
  rw [simNumbers_refreshedValue hcustom h, Bool.eq_iff_iff]
  simp only [List.any_eq_true, Bool.or_eq_true, Bool.and_eq_true,
    decide_eq_true_eq, mem_refreshedList h]
  constructor
  · rintro ⟨n, hsim | hfixed | ⟨hnil, hnoSim⟩, hp⟩
    · exact Or.inl ⟨n, hsim, hp⟩
    · exact Or.inr (Or.inl ⟨n, hfixed, hp⟩)
    · exact Or.inr (Or.inr ⟨hnil, n, hnoSim, hp⟩)
  · rintro (⟨n, hsim, hp⟩ | ⟨n, hfixed, hp⟩ | ⟨hnil, n, hnoSim, hp⟩)
    · exact ⟨n, Or.inl hsim, hp⟩
    · exact ⟨n, Or.inr (Or.inl hfixed), hp⟩
    · exact ⟨n, Or.inr (Or.inr ⟨hnil, hnoSim⟩), hp⟩

/-- The two properties that the refresh rewrites. -/
def IsSlot (property : SystemProperty) : Prop :=
  property = .eccList ∨ property = .eccList1

theorem otherMatches_rewriteSlot
    {d : Device} (hcustom : CustomizedTokens d.customizedEccList)
    {property : SystemProperty} (hslot : IsSlot property)
    (h : VendorList (d.props property)) (number : JString) :
    otherMatches (rewriteSlot d property) number =
      (otherMatches d number ||
        (decide (d.props property = []) && reservedMatches d number)) := by
  have hany := any_simNumbers_refreshedValue hcustom h (matchesNumber number)
  rw [Bool.eq_iff_iff]
  rcases hslot with rfl | rfl
  · simp only [otherMatches, rewriteSlot, reservedMatches,
      Function.update_self, Function.update_of_ne, ne_eq, reduceCtorEq,
      not_false_eq_true, hany, Bool.or_eq_true]
    tauto
  · simp only [otherMatches, rewriteSlot, reservedMatches,
      Function.update_self, Function.update_of_ne, ne_eq, reduceCtorEq,
      not_false_eq_true, hany, Bool.or_eq_true]
    tauto

/-- Writing a slot back never makes a present SIM list disappear. -/
theorem simInserted_rewriteSlot
    {d : Device} (hcustom : CustomizedTokens d.customizedEccList)
    {property : SystemProperty} (hslot : IsSlot property)
    (h : VendorList (d.props property))
    (hinserted : simInserted (rewriteSlot d property) = false) :
    simInserted d = false ∧ d.props property = [] := by
  have hnil := refreshedValue_eq_nil hcustom h
  rcases hslot with rfl | rfl
  · simp only [simInserted, rewriteSlot, Function.update_self,
      Function.update_of_ne, ne_eq, reduceCtorEq, not_false_eq_true,
      Bool.or_eq_false_iff, bne_eq_false_iff_eq] at hinserted ⊢
    exact ⟨⟨hnil hinserted.1, hinserted.2⟩, hnil hinserted.1⟩
  · simp only [simInserted, rewriteSlot, Function.update_self,
      Function.update_of_ne, ne_eq, reduceCtorEq, not_false_eq_true,
      Bool.or_eq_false_iff, bne_eq_false_iff_eq] at hinserted ⊢
    exact ⟨⟨hinserted.1, hnil hinserted.2⟩, hnil hinserted.2⟩

/-- Writing an occupied slot back changes nothing; writing an empty slot back
brings the reserved numbers into force. -/
theorem accepts_rewriteSlot
    {d : Device} (hcustom : CustomizedTokens d.customizedEccList)
    {property : SystemProperty} (hslot : IsSlot property)
    (h : VendorList (d.props property)) (number : JString) :
    accepts (rewriteSlot d property) number =
      (accepts d number ||
        (decide (d.props property = []) && reservedMatches d number)) := by
  have hreserved :
      reservedMatches (rewriteSlot d property) number =
        reservedMatches d number := rfl
  rw [accepts_eq_otherMatches hcustom,
    accepts_eq_otherMatches (d := rewriteSlot d property) hcustom,
    otherMatches_rewriteSlot hcustom hslot h, hreserved]
  cases hafter : simInserted (rewriteSlot d property) with
  | false =>
      obtain ⟨hbefore, hempty⟩ :=
        simInserted_rewriteSlot hcustom hslot h hafter
      simp [hbefore, hempty]
  | true =>
      cases hbefore : simInserted d with
      | true => simp
      | false =>
          have hempty : d.props property = [] := by
            rcases hslot with rfl | rfl
            · simp only [simInserted, Bool.or_eq_false_iff,
                bne_eq_false_iff_eq] at hbefore
              exact hbefore.1
            · simp only [simInserted, Bool.or_eq_false_iff,
                bne_eq_false_iff_eq] at hbefore
              exact hbefore.2
          simp [hempty]

/-! ## The whole refresh -/

/-- The value computed for a slot fits the size limit of a property. -/
def Fits (d : Device) (property : SystemProperty) : Prop :=
  (refreshedValue d.customizedEccList (d.props property)).length ≤
    propValueMax

theorem refreshProperty_ok
    {d : Device} {property : SystemProperty} (h : Fits d property) :
    (refreshProperty property).run d = .ok () (rewriteSlot d property) := by
  unfold Fits at h
  simp [EStateM.run, refreshProperty, SystemProperties.set, h, rewriteSlot]

theorem refreshProperty_error
    {d : Device} {property : SystemProperty} (h : ¬Fits d property) :
    ∃ thr, (refreshProperty property).run d = .error thr d := by
  unfold Fits at h
  simp [EStateM.run, refreshProperty, SystemProperties.set, h]

/-- The second slot is refreshed from the value it had before. -/
theorem fits_rewriteSlot (d : Device) :
    Fits (rewriteSlot d .eccList) .eccList1 ↔ Fits d .eccList1 := Iff.rfl

/-- The refresh returns exactly when both values fit. -/
theorem updateEmergencyNumbersProperty_ok
    {d : Device} (h : Fits d .eccList) (h1 : Fits d .eccList1) :
    updateEmergencyNumbersProperty.run d =
      .ok () (rewriteSlot (rewriteSlot d .eccList) .eccList1) := by
  rw [updateEmergencyNumbersProperty,
    run_bind_of_ok (refreshProperty_ok h)]
  exact refreshProperty_ok ((fits_rewriteSlot d).mpr h1)

theorem updateEmergencyNumbersProperty_error
    {d : Device} (h : ¬Fits d .eccList) :
    ∃ thr, updateEmergencyNumbersProperty.run d = .error thr d := by
  obtain ⟨thr, hthr⟩ := refreshProperty_error h
  exact ⟨thr, by
    rw [updateEmergencyNumbersProperty, run_bind_of_error hthr]⟩

/-- When only the second value is too long, the first has been written. -/
theorem updateEmergencyNumbersProperty_error1
    {d : Device} (h : Fits d .eccList) (h1 : ¬Fits d .eccList1) :
    ∃ thr, updateEmergencyNumbersProperty.run d =
      .error thr (rewriteSlot d .eccList) := by
  obtain ⟨thr, hthr⟩ :=
    refreshProperty_error (mt (fits_rewriteSlot d).mp h1)
  exact ⟨thr, by
    rw [updateEmergencyNumbersProperty,
      run_bind_of_ok (refreshProperty_ok h)]
    exact hthr⟩

/-- Some empty slot receives a new value during the refresh. -/
def FillsEmptySlot (d : Device) : Prop :=
  Fits d .eccList ∧
    (d.props .eccList = [] ∨ (d.props .eccList1 = [] ∧ Fits d .eccList1))

instance (d : Device) (property : SystemProperty) :
    Decidable (Fits d property) :=
  inferInstanceAs (Decidable (_ ≤ _))

instance (d : Device) : Decidable (FillsEmptySlot d) :=
  inferInstanceAs (Decidable (_ ∧ (_ ∨ (_ ∧ _))))

/-- Numbers in force after the refresh, whether or not it threw. -/
theorem accepts_stateAfter_update
    {d : Device} (hcustom : CustomizedTokens d.customizedEccList)
    (h : VendorList (d.props .eccList)) (h1 : VendorList (d.props .eccList1))
    (number : JString) :
    accepts (stateAfter updateEmergencyNumbersProperty d) number =
      (accepts d number ||
        (decide (FillsEmptySlot d) && reservedMatches d number)) := by
  have hfirst := accepts_rewriteSlot hcustom (Or.inl rfl) h number
  by_cases hfits : Fits d .eccList
  · by_cases hfits1 : Fits d .eccList1
    · have hsecond :
          accepts (rewriteSlot (rewriteSlot d .eccList) .eccList1) number =
            (accepts (rewriteSlot d .eccList) number ||
              (decide (d.props .eccList1 = []) &&
                reservedMatches d number)) :=
        accepts_rewriteSlot (d := rewriteSlot d .eccList) hcustom
          (Or.inr rfl) h1 number
      rw [stateAfter_of_ok (updateEmergencyNumbersProperty_ok hfits hfits1),
        hsecond, hfirst, Bool.eq_iff_iff]
      simp only [FillsEmptySlot, hfits, hfits1, true_and, and_true,
        Bool.or_eq_true, Bool.and_eq_true, decide_eq_true_eq]
      tauto
    · obtain ⟨thr, hrun⟩ :=
        updateEmergencyNumbersProperty_error1 hfits hfits1
      rw [stateAfter_of_error hrun, hfirst]
      simp [FillsEmptySlot, hfits, hfits1]
  · obtain ⟨thr, hrun⟩ := updateEmergencyNumbersProperty_error hfits
    rw [stateAfter_of_error hrun]
    simp [FillsEmptySlot, hfits]

theorem networkWellFormed_stateAfter_update
    {d : Device} (hnetwork : NetworkWellFormed d) :
    NetworkWellFormed (stateAfter updateEmergencyNumbersProperty d) := by
  by_cases hfits : Fits d .eccList
  · by_cases hfits1 : Fits d .eccList1
    · rw [stateAfter_of_ok (updateEmergencyNumbersProperty_ok hfits hfits1)]
      exact hnetwork
    · obtain ⟨thr, hrun⟩ :=
        updateEmergencyNumbersProperty_error1 hfits hfits1
      rw [stateAfter_of_error hrun]
      exact hnetwork
  · obtain ⟨thr, hrun⟩ := updateEmergencyNumbersProperty_error hfits
    rw [stateAfter_of_error hrun]
    exact hnetwork

/-- The refresh changes the classification of a number exactly when one slot
is occupied, an empty slot is filled, and the number matches reserved entries
only. -/
theorem isEmergencyNumberExt_refresh_iff
    (P : Platform) {d : Device} (hnetwork : NetworkWellFormed d)
    (hcustom : CustomizedTokens d.customizedEccList)
    (h : VendorList (d.props .eccList)) (h1 : VendorList (d.props .eccList1))
    (address : JString) :
    outcome (isEmergencyNumberExt P (some address))
          (stateAfter updateEmergencyNumbersProperty d) =
        outcome (isEmergencyNumberExt P (some address)) d ↔
      ¬(simInserted d = true ∧ FillsEmptySlot d ∧
        reservedMatches d (P.extractNetworkPortionAlt address) = true ∧
        otherMatches d (P.extractNetworkPortionAlt address) = false) := by
  rw [outcome_of_ok (isEmergencyNumberExt_ok P hnetwork address),
    outcome_of_ok (isEmergencyNumberExt_ok P
      (networkWellFormed_stateAfter_update hnetwork) address),
    accepts_stateAfter_update hcustom h h1,
    accepts_eq_otherMatches hcustom, Except.ok.injEq]
  generalize P.extractNetworkPortionAlt address = number
  by_cases hfills : FillsEmptySlot d
  · cases hsim : simInserted d with
    | false =>
        cases hreserved : reservedMatches d number with
        | false => simp
        | true => simp
    | true =>
        cases hreserved : reservedMatches d number with
        | false => simp
        | true => simp [hfills]
  · simp [hfills]

/-- Only the second slot has a SIM list; `999` is reserved for devices without
a SIM. -/
def secondSlotDevice : Device where
  props := fun property =>
    if property = .eccList1 then "112".toList else []
  customizedEccList :=
    [{ mEcc := "999".toList, mCategory := "0".toList, mCondition := eccNoSim }]
  networkEccCategory := ∅

theorem vendorList_singleton {token : JString}
    (hne : token ≠ []) (hcomma : ',' ∉ token) :
    VendorList token := by
  right
  refine ⟨[token], by simp, ?_, (joinWith_singleton ',' token).symm⟩
  intro p hp
  obtain rfl := List.mem_singleton.mp hp
  exact ⟨hne, hcomma⟩

theorem secondSlotDevice_hypotheses :
    NetworkWellFormed secondSlotDevice ∧
      CustomizedTokens secondSlotDevice.customizedEccList ∧
        VendorList (secondSlotDevice.props .eccList) ∧
          VendorList (secondSlotDevice.props .eccList1) := by
  refine ⟨by decide, ?_, Or.inl rfl,
    vendorList_singleton (by decide) (by decide)⟩
  intro p hp
  obtain rfl := List.mem_singleton.mp hp
  decide

theorem isEmergencyNumberExt_refresh_112 :
    outcome (isEmergencyNumberExt plainPlatform (some "112".toList))
        (stateAfter updateEmergencyNumbersProperty secondSlotDevice) =
      outcome (isEmergencyNumberExt plainPlatform (some "112".toList))
        secondSlotDevice := by
  obtain ⟨hnetwork, hcustom, h, h1⟩ := secondSlotDevice_hypotheses
  rw [isEmergencyNumberExt_refresh_iff plainPlatform hnetwork hcustom h h1]
  decide

/-- Before the refresh `999` is not an emergency number, afterwards it is. -/
theorem isEmergencyNumberExt_refresh_999 :
    (NetworkWellFormed secondSlotDevice ∧
      CustomizedTokens secondSlotDevice.customizedEccList ∧
        VendorList (secondSlotDevice.props .eccList) ∧
          VendorList (secondSlotDevice.props .eccList1)) ∧
      outcome (isEmergencyNumberExt plainPlatform (some "999".toList))
          secondSlotDevice = .ok false ∧
        outcome (isEmergencyNumberExt plainPlatform (some "999".toList))
          (stateAfter updateEmergencyNumbersProperty secondSlotDevice) =
            .ok true := by
  refine ⟨secondSlotDevice_hypotheses, ?_, ?_⟩
  · decide
  · decide

end SmartSurf.Ecc
