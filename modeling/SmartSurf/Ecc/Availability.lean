import SmartSurf.Ecc.Classification

/-!
# Availability of the CTA numbers

The four CTA numbers are overlaid on the customised list at the end of the
block that parses the file, so that an exception during the parse leaves them
out.  This module determines for which states of the file the classifier
accepts them whatever the SIM slots and the network report.
-/

namespace SmartSurf.Ecc

/-- The static initialiser of `MtkEccList`. -/
def staticInitializer (props : SystemProperties) (file : EccListFile) :
    Device where
  props := props
  customizedEccList := parseEccList (props .mtkCtaSet == "1".toList) file
  networkEccCategory := ∅

/-- Every CTA number is accepted on a device with this customised list, for
all contents of the SIM properties and of a well-formed network property. -/
def CtaAvailable (P : Platform) (list : List EccEntry) : Prop :=
  ∀ d : Device, d.customizedEccList = list → NetworkWellFormed d →
    ∀ m ∈ emergencyCtaList, ∃ left,
      (isEmergencyNumberExt P (some m)).run d = .ok true left

/-- The document is read to its end and the reader is closed. -/
def ParseCompletes : EccListFile → Prop
  | .events _ complete => complete = true
  | _ => False

/-- The entries whose element was closed before the parse ended. -/
def entriesRead : EccListFile → List EccEntry
  | .events evs _ => parseEvents evs
  | _ => []

theorem parseEccList_of_not_completes
    {file : EccListFile} (h : ¬ParseCompletes file) (sIsCtaSet : Bool) :
    parseEccList sIsCtaSet file = entriesRead file := by
  cases file with
  | noParser => rfl
  | unreadable => rfl
  | events evs complete =>
      have hfalse : complete = false := by simpa [ParseCompletes] using h
      simp [parseEccList, entriesRead, hfalse]

/-- An entry in force decides for its own number. -/
theorem accepts_of_eligible
    {d : Device} {e : EccEntry} (he : e ∈ d.customizedEccList)
    (helig : eligible d e = true) :
    accepts d e.mEcc = true := by
  rw [accepts, List.any_eq_true]
  refine ⟨e.mEcc, ?_, by simp [matchesNumber]⟩
  apply List.mem_append_right
  exact List.mem_map_of_mem (List.mem_filter.mpr ⟨he, helig⟩)

theorem eligible_of_condition
    {e : EccEntry} (h : e.mCondition ≠ eccNoSim) (d : Device) :
    eligible d e = true := by
  simp [eligible, h]

theorem matchesNumber_ctaNumber
    {m ecc : JString} (hm : m ∈ emergencyCtaList)
    (hmatch : matchesNumber m ecc = true) :
    ecc = m := by
  simp only [matchesNumber, Bool.or_eq_true, beq_iff_eq] at hmatch
  rcases hmatch with heq | hplus
  · exact heq
  · have hlast : m.getLast? = some '+' := by
      rw [← hplus]
      simp
    have hnone : ∀ n ∈ emergencyCtaList, n.getLast? ≠ some '+' := by decide
    exact absurd hlast (hnone m hm)

section

variable {P : Platform}
  (hdigits : ∀ number : JString, (∀ c ∈ number, c.isDigit = true) →
    P.extractNetworkPortionAlt number = number)

include hdigits

theorem extract_ctaNumber {m : JString} (hm : m ∈ emergencyCtaList) :
    P.extractNetworkPortionAlt m = m := by
  apply hdigits
  have hall : emergencyCtaList.all (fun n => n.all Char.isDigit) = true := rfl
  have hdigit := List.all_eq_true.mp hall m hm
  exact List.all_eq_true.mp hdigit

/-- Entries which count with and without a SIM make the CTA numbers
available. -/
theorem ctaAvailable_of_entries
    {list : List EccEntry}
    (h : ∀ m ∈ emergencyCtaList,
      ∃ e ∈ list, e.mEcc = m ∧ e.mCondition ≠ eccNoSim) :
    CtaAvailable P list := by
  rintro d rfl hwf m hm
  obtain ⟨e, he, hecc, hcondition⟩ := h m hm
  have haccept := accepts_of_eligible he (eligible_of_condition hcondition d)
  refine ⟨withNetworkMap d, ?_⟩
  rw [isEmergencyNumberExt_ok P hwf, extract_ctaNumber hdigits hm, ← hecc,
    haccept]

/-- With one SIM list present that names another number, only an entry with a
condition other than `ECC_NO_SIM` makes a CTA number available. -/
theorem entries_of_ctaAvailable
    {list : List EccEntry} (h : CtaAvailable P list) :
    ∀ m ∈ emergencyCtaList,
      ∃ e ∈ list, e.mEcc = m ∧ e.mCondition ≠ eccNoSim := by
  intro m hm
  let d : Device :=
    { props := fun property =>
        if property = .eccList then "0".toList else []
      customizedEccList := list
      networkEccCategory := ∅ }
  have hnetwork : networkEntries (d.props .eccServiceCategoryList) = [] := rfl
  have hwf : NetworkWellFormed d := by
    intro entry hentry
    rw [hnetwork] at hentry
    cases hentry
  obtain ⟨left, hrun⟩ := h d rfl hwf m hm
  rw [isEmergencyNumberExt_ok P hwf, extract_ctaNumber hdigits hm] at hrun
  have haccept : accepts d m = true := by
    injection hrun
  have hsims : simNumbers (d.props .eccList) = ["0".toList] := by
    change simNumbers "0".toList = ["0".toList]
    decide
  have hsims1 : simNumbers (d.props .eccList1) = [] := rfl
  have hinserted : simInserted d = true := rfl
  rw [accepts, emergencyEccs, hnetwork, hsims, hsims1,
    List.any_eq_true] at haccept
  obtain ⟨ecc, hecc, hmatch⟩ := haccept
  have heq := matchesNumber_ctaNumber hm hmatch
  simp only [List.map_nil, List.nil_append, List.append_nil,
    List.mem_append, List.mem_singleton, List.mem_map,
    List.mem_filter] at hecc
  rcases hecc with hzero | ⟨e, ⟨he, helig⟩, rfl⟩
  · have hother : "0".toList ∉ emergencyCtaList := by decide
    rw [← heq, hzero] at hm
    exact absurd hm hother
  · refine ⟨e, he, heq, ?_⟩
    simpa [eligible, hinserted] using helig

/-- On a device with `ro.mtk_cta_set=1` the CTA numbers are available exactly
when the parse completes or the entries read before it was abandoned already
contain each of them with a condition other than `ECC_NO_SIM`. -/
theorem ctaAvailable_iff
    {props : SystemProperties} (hcta : props .mtkCtaSet = "1".toList)
    (file : EccListFile) :
    CtaAvailable P (staticInitializer props file).customizedEccList ↔
      ParseCompletes file ∨
        ∀ m ∈ emergencyCtaList,
          ∃ e ∈ entriesRead file, e.mEcc = m ∧ e.mCondition ≠ eccNoSim := by
  have hset : (props .mtkCtaSet == "1".toList) = true := by simp [hcta]
  simp only [staticInitializer, hset]
  by_cases hcompletes : ParseCompletes file
  · constructor
    · intro _
      exact Or.inl hcompletes
    · intro _
      apply ctaAvailable_of_entries hdigits
      intro m hm
      cases file with
      | noParser => exact hcompletes.elim
      | unreadable => exact hcompletes.elim
      | events evs complete =>
          obtain rfl : complete = true := hcompletes
          have hcondition : eccForMmi ≠ eccNoSim := by decide
          exact ⟨ctaEntry m, ctaEntry_mem_parseEccList hm evs, rfl,
            hcondition⟩
  · rw [parseEccList_of_not_completes hcompletes]
    constructor
    · intro havailable
      exact Or.inr (entries_of_ctaAvailable hdigits havailable)
    · rintro (hdone | hentries)
      · exact absurd hdone hcompletes
      · exact ctaAvailable_of_entries hdigits hentries

end

/-- A device with `ro.mtk_cta_set=1` and no emergency lists. -/
def ctaProps : SystemProperties := fun property =>
  if property = .mtkCtaSet then "1".toList else []

theorem ctaAvailable_of_empty_document :
    CtaAvailable plainPlatform
      (staticInitializer ctaProps (.events [] true)).customizedEccList :=
  (ctaAvailable_iff (fun _ h => plainPlatform_digits h) rfl
    (.events [] true)).mpr (Or.inl rfl)

/-- Without a readable file the parse is abandoned before the overlay. -/
theorem not_ctaAvailable_unreadable :
    ¬CtaAvailable plainPlatform
      (staticInitializer ctaProps .unreadable).customizedEccList := by
  intro havailable
  have hwf : NetworkWellFormed (staticInitializer ctaProps .unreadable) := by
    decide
  obtain ⟨left, hrun⟩ := havailable (staticInitializer ctaProps .unreadable)
    rfl hwf "120".toList (by decide)
  rw [isEmergencyNumberExt_ok plainPlatform hwf] at hrun
  injection hrun with haccept
  revert haccept
  decide

end SmartSurf.Ecc
