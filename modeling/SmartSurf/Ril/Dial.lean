import SmartSurf.Ecc.Agreement
import SmartSurf.Ril.State

/-!
# Dialling emergency numbers

`MT6735.dial` sends an emergency call as two requests, the service category
and the call itself, and hands every other call to the superclass.  The
category is looked up for the address as dialled, while the decision is taken
on its network portion.
-/

namespace SmartSurf.Ril

open Support Ecc

/-- The end of the parcel of `RIL_REQUEST_EMERGENCY_DIAL`. -/
def uusItems : Option UUSInfo → List ParcelItem
  | none => [.int 0]
  | some uusInfo =>
      [.int 1, .int uusInfo.type, .int uusInfo.dcs,
        .byteArray uusInfo.userData]

/-- `MT6735.dial`. -/
def dial (P : Platform) (address : Option JString) (clirMode : ℤ)
    (uusInfo : Option UUSInfo) (result : Option Message) : RilM Unit := do
  if ← onDevice (isEmergencyNumberExt P address) then
    let serviceCategory ← onDevice (getServiceCategoryFromEcc P address)
    let rr ← obtainRequest .setEccServiceCategory none
    send { rr with mParcel := [.int 1, .int serviceCategory] }
    let rr ← obtainRequest .emergencyDial result
    send { rr with
      mParcel :=
        [.string address, .int clirMode, .int 0] ++ uusItems uusInfo }
  else
    forward (.superDial address clirMode uusInfo result)

/-! ## The ways through `dial` -/

/-- The two requests of an emergency call. -/
def categoryRequest (serial serviceCategory : ℤ) : RILRequest where
  mSerial := serial
  mRequest := .setEccServiceCategory
  mResult := none
  mParcel := [.int 1, .int serviceCategory]

def emergencyDialRequest (serial : ℤ) (address : Option JString)
    (clirMode : ℤ) (uusInfo : Option UUSInfo) (result : Option Message) :
    RILRequest where
  mSerial := serial
  mRequest := .emergencyDial
  mResult := result
  mParcel := [.string address, .int clirMode, .int 0] ++ uusItems uusInfo

section Dial

variable {P : Platform} {s : RilState} {address : JString}
  (clirMode : ℤ) (uusInfo : Option UUSInfo) (result : Option Message)

/-- An emergency call whose category is found goes out as two requests. -/
theorem dial_run_emergency
    (hwf : NetworkWellFormed s.device)
    (haccepts :
      accepts s.device (P.extractNetworkPortionAlt address) = true)
    {c : ℤ}
    (hcategory : (getServiceCategoryFromEcc P (some address)).run
      (withNetworkMap s.device) = .ok c (withNetworkMap s.device)) :
    (dial P (some address) clirMode uusInfo result).run s =
      .ok () { s with
        device := withNetworkMap s.device
        sNextSerial := s.sNextSerial + 1 + 1
        mRequestList := s.mRequestList ++ [categoryRequest s.sNextSerial c] ++
          [emergencyDialRequest (s.sNextSerial + 1) (some address) clirMode
            uusInfo result]
        outgoing := s.outgoing ++ [.request (categoryRequest s.sNextSerial c)]
          ++ [.request (emergencyDialRequest (s.sNextSerial + 1)
            (some address) clirMode uusInfo result)] } := by
  have hdecide := isEmergencyNumberExt_ok P hwf address
  rw [haccepts] at hdecide
  rw [dial, run_bind_of_ok (run_onDevice_of_ok hdecide), if_pos rfl,
    run_bind_of_ok (run_onDevice_of_ok hcategory)]
  rfl

/-- An emergency call whose category cannot be read does not go out. -/
theorem dial_run_category_error
    (hwf : NetworkWellFormed s.device)
    (haccepts :
      accepts s.device (P.extractNetworkPortionAlt address) = true)
    {thr : Throwable}
    (hcategory : (getServiceCategoryFromEcc P (some address)).run
      (withNetworkMap s.device) = .error thr (withNetworkMap s.device)) :
    (dial P (some address) clirMode uusInfo result).run s =
      .error thr { s with device := withNetworkMap s.device } := by
  have hdecide := isEmergencyNumberExt_ok P hwf address
  rw [haccepts] at hdecide
  rw [dial, run_bind_of_ok (run_onDevice_of_ok hdecide), if_pos rfl,
    run_bind_of_error (run_onDevice_of_error hcategory)]

/-- Whatever the lists contain, `dial` sends both requests, or hands the call to
the superclass, or sends nothing because it throws. -/
theorem dial_stateAfter (P : Platform) (s : RilState)
    (address : Option JString) :
    ∃ d,
      stateAfter (dial P address clirMode uusInfo result) s =
          { s with device := d } ∨
        stateAfter (dial P address clirMode uusInfo result) s =
          { s with
            device := d
            outgoing := s.outgoing ++
              [.superDial address clirMode uusInfo result] } ∨
        ∃ c, stateAfter (dial P address clirMode uusInfo result) s =
          { s with
            device := d
            sNextSerial := s.sNextSerial + 1 + 1
            mRequestList :=
              s.mRequestList ++ [categoryRequest s.sNextSerial c] ++
                [emergencyDialRequest (s.sNextSerial + 1) address clirMode
                  uusInfo result]
            outgoing :=
              s.outgoing ++ [.request (categoryRequest s.sNextSerial c)] ++
                [.request (emergencyDialRequest (s.sNextSerial + 1) address
                  clirMode uusInfo result)] } := by
  cases hdecide : (isEmergencyNumberExt P address).run s.device with
  | error thr d =>
      refine ⟨d, Or.inl ?_⟩
      apply stateAfter_of_error
      rw [dial, run_bind_of_error (run_onDevice_of_error hdecide)]
  | ok emergency d =>
      cases emergency with
      | false =>
          refine ⟨d, Or.inr (Or.inl ?_)⟩
          rw [stateAfter, dial, run_bind_of_ok (run_onDevice_of_ok hdecide)]
          rfl
      | true =>
          cases hcategory : (getServiceCategoryFromEcc P address).run d with
          | error thr d' =>
              refine ⟨d', Or.inl ?_⟩
              rw [stateAfter, dial, run_bind_of_ok (run_onDevice_of_ok hdecide),
                if_pos rfl, run_bind_of_error (run_onDevice_of_error hcategory)]
          | ok c d' =>
              refine ⟨d', Or.inr (Or.inr ⟨c, ?_⟩)⟩
              rw [stateAfter, dial, run_bind_of_ok (run_onDevice_of_ok hdecide),
                if_pos rfl, run_bind_of_ok (run_onDevice_of_ok hcategory)]
              rfl

/-- The call goes out as a category request followed by the dial request, and
the category meets `ok`. -/
def DialsWithCategory (P : Platform) (s : RilState) (address : JString)
    (clirMode : ℤ) (uusInfo : Option UUSInfo) (result : Option Message)
    (ok : ℤ → Prop) : Prop :=
  ∃ c t rr rr',
    (dial P (some address) clirMode uusInfo result).run s = .ok () t ∧
    t.outgoing = s.outgoing ++ [.request rr, .request rr'] ∧
    rr.mRequest = .setEccServiceCategory ∧
    rr.mParcel = [.int 1, .int c] ∧
    rr'.mRequest = .emergencyDial ∧ rr'.mResult = result ∧ ok c

/-- For an emergency number the outcome is decided by the category search. -/
theorem dialsWithCategory_iff
    (hwf : NetworkWellFormed s.device)
    (haccepts :
      accepts s.device (P.extractNetworkPortionAlt address) = true)
    (ok : ℤ → Prop) :
    DialsWithCategory P s address clirMode uusInfo result ok ↔
      ∃ c,
        (getServiceCategoryFromEcc P (some address)).run
            (withNetworkMap s.device) =
          .ok c (withNetworkMap s.device) ∧ ok c := by
  constructor
  · rintro ⟨c, t, rr, rr', hrun, hsent, -, hparcel, -, -, hok⟩
    rcases getServiceCategoryFromEcc_cases P (some address)
        (withNetworkMap s.device) with ⟨c', hcategory⟩ | ⟨thr, hcategory⟩
    · rw [dial_run_emergency clirMode uusInfo result hwf haccepts hcategory]
        at hrun
      injection hrun with _ hstate
      rw [← hstate, List.append_assoc, List.append_cancel_left_eq] at hsent
      injection hsent with hfirst
      injection hfirst with hrequest
      rw [← hrequest] at hparcel
      simp only [categoryRequest, List.cons.injEq, ParcelItem.int.injEq,
        true_and, and_true] at hparcel
      exact ⟨c', hcategory, hparcel ▸ hok⟩
    · rw [dial_run_category_error clirMode uusInfo result hwf haccepts
        hcategory] at hrun
      cases hrun
  · rintro ⟨c, hcategory, hok⟩
    refine ⟨c, _, categoryRequest s.sNextSerial c,
      emergencyDialRequest (s.sNextSerial + 1) (some address) clirMode uusInfo
        result,
      dial_run_emergency clirMode uusInfo result hwf haccepts hcategory,
      ?_, rfl, rfl, rfl, rfl, hok⟩
    rw [List.append_assoc]
    rfl

/-! ## The category of an emergency call -/

/-- For an address whose network portion is an emergency number, the call goes
out with the category of the entry that made it one, in whatever order the
network map lists its keys and whatever the categories are, if and only if the
searches for the raw address and for its network portion agree. -/
theorem dial_category_iff
    {number : JString} (haccepts : accepts s.device number = true) :
    (∀ (P : Platform) (d : Device),
      P.extractNetworkPortionAlt address = number →
      SameNumbers s.device d → CategoriesDecimal d →
        DialsWithCategory P { s with device := d } address clirMode uusInfo
          result (CategoryOf d number)) ↔
      SearchesAgree s.device address number := by
  rw [← findsCategory_iff_searchesAgree]
  have hdials : ∀ (P : Platform) (d : Device),
      P.extractNetworkPortionAlt address = number →
      SameNumbers s.device d → CategoriesDecimal d →
        (DialsWithCategory P { s with device := d } address clirMode uusInfo
            result (CategoryOf d number) ↔
          ∃ c,
            (getServiceCategoryFromEcc P (some address)).run
                (withNetworkMap d) =
              .ok c (withNetworkMap d) ∧ CategoryOf d number c) := by
    intro P d hportion hsame hdecimal
    apply dialsWithCategory_iff (s := { s with device := d })
    · exact hdecimal.1
    · rw [hportion, hsame.accepts_eq, haccepts]
  constructor
  · intro h P d hportion hsame hdecimal
    exact (hdials P d hportion hsame hdecimal).mp (h P d hportion hsame hdecimal)
  · intro h P d hportion hsame hdecimal
    exact (hdials P d hportion hsame hdecimal).mpr
      (h P d hportion hsame hdecimal)

end Dial

/-- An instance on a device with the given lists. -/
def stateWithLists (network sim : JString) (list : List EccEntry) :
    RilState :=
  { idleState with
    device :=
      { props := Function.update
          (Function.update idleState.device.props .eccServiceCategoryList
            network) .eccList sim
        customizedEccList := list
        networkEccCategory := ∅ } }

/-- The number 112, with category 5 in every state of the SIM slots. -/
def alwaysEntry : EccEntry where
  mEcc := "112".toList
  mCategory := "5".toList
  mCondition := "1".toList

/-- The number 112, with category 6 while there is no SIM. -/
def noSimEntry : EccEntry where
  mEcc := "112".toList
  mCategory := "6".toList
  mCondition := eccNoSim

theorem dial_category_112 :
    DialsWithCategory plainPlatform
      (stateWithLists "911,8".toList "000".toList [alwaysEntry])
      "112".toList 0 none none
      (CategoryOf
        (stateWithLists "911,8".toList "000".toList [alwaysEntry]).device
        "112".toList) :=
  have haccepts : accepts
      (stateWithLists "911,8".toList "000".toList [alwaysEntry]).device
      "112".toList = true := by decide
  (dial_category_iff 0 none none haccepts).mpr (by decide) plainPlatform _
    (by decide) (SameNumbers.refl _) (by decide)

/-- A call goes out with a wrong category if the customised entry that makes
the number an emergency number has another category than the one found for the
address. -/
theorem not_dialsWithCategory
    {P : Platform} {s : RilState} {address number : JString}
    (found sent : ℤ) (eccEntry : EccEntry)
    (hportion : P.extractNetworkPortionAlt address = number)
    (haccepts : accepts s.device number = true)
    (hwf : NetworkWellFormed s.device)
    (haddress : networkMatches s.device address = false)
    (hnetwork : networkMatches s.device number = false)
    (hsent :
      customizedCategory address s.device.customizedEccList = .ok sent)
    (hfind : (s.device.customizedEccList.find? fun eccEntry =>
      eligible s.device eccEntry && matchesNumber number eccEntry.mEcc) =
        some eccEntry)
    (hfound : Java.parseInt eccEntry.mCategory = .ok found)
    (hne : found ≠ sent)
    (clirMode : ℤ) (uusInfo : Option UUSInfo) (result : Option Message) :
    ¬DialsWithCategory P s address clirMode uusInfo result
      (CategoryOf s.device number) := by
  rw [← hportion] at haccepts
  rw [dialsWithCategory_iff clirMode uusInfo result hwf haccepts,
    getServiceCategoryFromEcc_of_not_network hwf P haddress, hsent]
  rintro ⟨c, hrun, hc⟩
  injection hrun with hcode
  rw [CategoryOf, hnetwork, hfind] at hc
  simp only [Bool.false_eq_true, if_false, hfound] at hc
  exact hne ((Except.ok.inj hc).trans hcode.symm)

/-- The category of `112` is not found for the address `11-2`, and an entry
that does not count hides the one that does. -/
theorem not_dial_category :
    ¬DialsWithCategory plainPlatform
        (stateWithLists [] "000".toList [alwaysEntry]) "11-2".toList 0 none
        none
        (CategoryOf (stateWithLists [] "000".toList [alwaysEntry]).device
          "112".toList) ∧
      ¬DialsWithCategory plainPlatform
        (stateWithLists [] "000".toList [noSimEntry, alwaysEntry])
        "112".toList 0 none none
        (CategoryOf
          (stateWithLists [] "000".toList [noSimEntry, alwaysEntry]).device
          "112".toList) := by
  constructor
  · apply not_dialsWithCategory 5 0 alwaysEntry
    all_goals decide
  · apply not_dialsWithCategory 5 6 alwaysEntry
    all_goals decide

/-! ## Emergency calls and unreadable lists -/

/-- The classifier returns, and for an emergency number so does the category
search, and the call goes out. -/
def CallProceeds (P : Platform) (s : RilState) (address : JString)
    (clirMode : ℤ) (uusInfo : Option UUSInfo) (result : Option Message) :
    Prop :=
  ∃ emergency d,
    (isEmergencyNumberExt P (some address)).run s.device =
      .ok emergency d ∧
    (emergency = true →
      (∃ c d', (getServiceCategoryFromEcc P (some address)).run d =
        .ok c d') ∧
      DialsWithCategory P s address clirMode uusInfo result fun _ => True)

section CallProceeds

variable {P : Platform} {s : RilState} {address : JString}
  {clirMode : ℤ} {uusInfo : Option UUSInfo} {result : Option Message}

/-- A network category that is not an integer stops every call. -/
theorem CallProceeds.networkWellFormed
    (h : CallProceeds P s address clirMode uusInfo result) :
    NetworkWellFormed s.device := by
  by_contra hbad
  obtain ⟨thr, left, herror⟩ := isEmergencyNumberExt_error P hbad address
  obtain ⟨emergency, d, hrun, -⟩ := h
  rw [herror] at hrun
  cases hrun

/-- The category of an emergency number that is dialled was read. -/
theorem CallProceeds.categoryReadable
    (h : CallProceeds P s address clirMode uusInfo result)
    (haccepts :
      accepts s.device (P.extractNetworkPortionAlt address) = true) :
    CategoryReadable s.device address := by
  have hwf := h.networkWellFormed
  obtain ⟨emergency, d, hrun, hcall⟩ := h
  rw [isEmergencyNumberExt_ok P hwf address] at hrun
  injection hrun with hemergency hstate
  subst hstate
  rw [← getServiceCategoryFromEcc_returns_iff hwf P address]
  exact (hcall (hemergency.symm.trans haccepts)).1

/-- With readable lists the call goes out. -/
theorem callProceeds_of_readable
    (hwf : NetworkWellFormed s.device)
    (hreadable :
      accepts s.device (P.extractNetworkPortionAlt address) = true →
        CategoryReadable s.device address) :
    CallProceeds P s address clirMode uusInfo result := by
  refine ⟨_, _, isEmergencyNumberExt_ok P hwf address, ?_⟩
  intro haccepts
  have hfound := (getServiceCategoryFromEcc_returns_iff hwf P address).mpr
    (hreadable haccepts)
  refine ⟨hfound, ?_⟩
  rw [dialsWithCategory_iff clirMode uusInfo result hwf haccepts]
  obtain ⟨c, d, hcategory⟩ := hfound
  rcases getServiceCategoryFromEcc_cases P (some address)
      (withNetworkMap s.device) with ⟨c', hok⟩ | ⟨thr, herror⟩
  · exact ⟨c', hok, trivial⟩
  · rw [herror] at hcategory
    cases hcategory

end CallProceeds

/-- An address is classified and, as an emergency number, dialled without an
exception if and only if all categories of the network list are integers and,
for an emergency number, so is the category found for the address. -/
theorem callProceeds_iff
    (P : Platform) (s : RilState) (address : JString) (clirMode : ℤ)
    (uusInfo : Option UUSInfo) (result : Option Message) :
    CallProceeds P s address clirMode uusInfo result ↔
      NetworkWellFormed s.device ∧
        (accepts s.device (P.extractNetworkPortionAlt address) = true →
          CategoryReadable s.device address) := by
  constructor
  · intro h
    exact ⟨h.networkWellFormed, h.categoryReadable⟩
  · rintro ⟨hwf, hreadable⟩
    exact callProceeds_of_readable hwf hreadable

/-- A network entry with a category that is not a number stops the call to a
number of the SIM list, and an entry of `ecc_list.xml` without a category stops
the call to its own number. -/
theorem not_callProceeds :
    ¬CallProceeds plainPlatform
        (stateWithLists "112,x".toList "000".toList []) "000".toList 0 none
        none ∧
      ¬CallProceeds plainPlatform
        (stateWithLists [] []
          (parseEccList false (.events
            [.startTag eccEntryTag [(eccAttr, "112".toList)],
              .endTag eccEntryTag] true)))
        "112".toList 0 none none := by
  constructor
  · intro h
    have hwf := h.networkWellFormed
    revert hwf
    decide
  · intro h
    have hreadable := h.categoryReadable (by decide)
    revert hreadable
    decide

end SmartSurf.Ril
