import SmartSurf.Ecc.Classification

/-!
# The set decided by the classifier

`isEmergencyNumberExt` is stateless in effect: it clears the static map before
it reads the network list, so that neither its result nor the map it leaves
behind depends on earlier calls.  The set of numbers is spelled out here in
terms of the three lists themselves.
-/

namespace SmartSurf.Ecc

open Support

/-- The number stands in one of the lists in force: as the first field of a
network entry with two fields, in the list of a SIM slot, or in a customised
entry that counts. -/
def InForce (d : Device) (ecc : JString) : Prop :=
  (∃ strEccCategory ∈ Java.split (d.props .eccServiceCategoryList) ';',
      ∃ category, Java.split strEccCategory ',' = [ecc, category]) ∨
    (∃ slot, (slot = .eccList ∨ slot = .eccList1) ∧ d.props slot ≠ [] ∧
      ecc ∈ Java.split (d.props slot) ',') ∨
    ∃ eccEntry ∈ d.customizedEccList, eccEntry.mEcc = ecc ∧
      (eccEntry.mCondition ≠ eccNoSim ∨
        (d.props .eccList = [] ∧ d.props .eccList1 = []))

/-- The category of the last network entry with this number. -/
def lastCategory (entries : List (JString × JString)) (ecc : JString) :
    Option ℤ :=
  ((entries.filter fun entry => entry.1 == ecc).getLast?).bind fun entry =>
    (Java.parseInt entry.2).toOption

/-! ## The numbers in force -/

theorem networkEntry_eq_some_iff
    {strEccCategory : JString} {entry : JString × JString} :
    networkEntry strEccCategory = some entry ↔
      Java.split strEccCategory ',' = [entry.1, entry.2] := by
  rw [networkEntry]
  by_cases hempty : strEccCategory = []
  · simp [hempty, Java.split, splitTrim]
  · rw [if_neg hempty]
    split
    next ecc category hsplit => simp [hsplit, Prod.ext_iff]
    next hother =>
      constructor
      · intro hsome
        cases hsome
      · intro hsplit
        exact absurd hsplit (hother _ _)

/-- The empty list has no entries, as its only piece is empty. -/
theorem networkEntries_eq (list : JString) :
    networkEntries list = (Java.split list ';').filterMap networkEntry := by
  rw [networkEntries]
  by_cases hempty : list = []
  · simp [hempty, Java.split, splitTrim, networkEntry]
  · rw [if_neg hempty]

theorem mem_networkNumbers_iff {list ecc : JString} :
    ecc ∈ (networkEntries list).map Prod.fst ↔
      ∃ strEccCategory ∈ Java.split list ';',
        ∃ category, Java.split strEccCategory ',' = [ecc, category] := by
  rw [networkEntries_eq, List.mem_map]
  constructor
  · rintro ⟨entry, hentry, rfl⟩
    obtain ⟨strEccCategory, hmem, hsome⟩ := List.mem_filterMap.mp hentry
    exact ⟨strEccCategory, hmem, entry.2, networkEntry_eq_some_iff.mp hsome⟩
  · rintro ⟨strEccCategory, hmem, category, hsplit⟩
    refine ⟨(ecc, category), ?_, rfl⟩
    exact List.mem_filterMap.mpr
      ⟨strEccCategory, hmem, networkEntry_eq_some_iff.mpr hsplit⟩

theorem mem_simNumbers_iff {numbers ecc : JString} :
    ecc ∈ simNumbers numbers ↔
      numbers ≠ [] ∧ ecc ∈ Java.split numbers ',' := by
  rw [simNumbers]
  by_cases hempty : numbers = []
  · simp [hempty]
  · simp [hempty]

theorem mem_eligible_iff {d : Device} {ecc : JString} :
    ecc ∈ (d.customizedEccList.filter (eligible d)).map EccEntry.mEcc ↔
      ∃ eccEntry ∈ d.customizedEccList, eccEntry.mEcc = ecc ∧
        (eccEntry.mCondition ≠ eccNoSim ∨
          (d.props .eccList = [] ∧ d.props .eccList1 = [])) := by
  simp only [List.mem_map, List.mem_filter, eligible, simInserted]
  constructor
  · rintro ⟨eccEntry, ⟨hmem, hcounts⟩, hecc⟩
    refine ⟨eccEntry, hmem, hecc, ?_⟩
    simp at hcounts
    tauto
  · rintro ⟨eccEntry, hmem, hecc, hcounts⟩
    refine ⟨eccEntry, ⟨hmem, ?_⟩, hecc⟩
    simp
    tauto

theorem mem_emergencyEccs_iff {d : Device} {ecc : JString} :
    ecc ∈ emergencyEccs d ↔ InForce d ecc := by
  rw [emergencyEccs, List.mem_append, List.mem_append, List.mem_append,
    mem_networkNumbers_iff, mem_simNumbers_iff, mem_simNumbers_iff,
    mem_eligible_iff, InForce]
  constructor
  · rintro (((hnetwork | hsim) | hsim1) | hcustomized)
    · exact .inl hnetwork
    · exact .inr (.inl ⟨.eccList, .inl rfl, hsim⟩)
    · exact .inr (.inl ⟨.eccList1, .inr rfl, hsim1⟩)
    · exact .inr (.inr hcustomized)
  · rintro (hnetwork | ⟨slot, rfl | rfl, hsim⟩ | hcustomized)
    · exact .inl (.inl (.inl hnetwork))
    · exact .inl (.inl (.inr hsim))
    · exact .inl (.inr hsim)
    · exact .inr hcustomized

theorem accepts_iff {d : Device} {number : JString} :
    accepts d number = true ↔
      ∃ ecc, InForce d ecc ∧ (number = ecc ∨ number = ecc ++ ['+']) := by
  simp only [accepts, List.any_eq_true, mem_emergencyEccs_iff, matchesNumber,
    Bool.or_eq_true, beq_iff_eq]
  constructor
  · rintro ⟨ecc, hecc, rfl | rfl⟩
    · exact ⟨ecc, hecc, .inl rfl⟩
    · exact ⟨ecc, hecc, .inr rfl⟩
  · rintro ⟨ecc, hecc, rfl | rfl⟩
    · exact ⟨number, hecc, .inl rfl⟩
    · exact ⟨ecc, hecc, .inr rfl⟩

/-! ## The map left behind -/

/-- An entry decides the category of its number unless a later one does. -/
theorem lastCategory_cons
    {entry : JString × JString} {value : ℤ}
    (hvalue : Java.parseInt entry.2 = .ok value)
    {entries : List (JString × JString)}
    (hwf : ∀ entry ∈ entries, Java.IsDecimal entry.2) (ecc : JString) :
    lastCategory (entry :: entries) ecc =
      (lastCategory entries ecc).or
        (if entry.1 = ecc then some value else none) := by
  by_cases hecc : entry.1 = ecc
  · rw [if_pos hecc, lastCategory, lastCategory,
      List.filter_cons_of_pos (by simpa using hecc), List.getLast?_cons]
    cases hlast : (entries.filter fun entry => entry.1 == ecc).getLast? with
    | none => simp [hvalue, Except.toOption]
    | some last =>
        obtain ⟨category, hcategory⟩ := hwf last
          (List.mem_of_mem_filter (List.mem_of_getLast? hlast))
        simp [hcategory, Except.toOption]
  · rw [if_neg hecc, Option.or_none, lastCategory, lastCategory,
      List.filter_cons_of_neg (by simpa using hecc)]

/-- Filling the map gives every number the category of its last entry. -/
theorem lookup_networkMap_eq
    {entries : List (JString × JString)}
    (hwf : ∀ entry ∈ entries, Java.IsDecimal entry.2)
    (map : Java.HashMap) (ecc : JString) :
    (networkMap entries map).lookup ecc =
      (lastCategory entries ecc).or (map.lookup ecc) := by
  induction entries generalizing map with
  | nil => simp [networkMap, lastCategory]
  | cons entry entries ih =>
      obtain ⟨value, hvalue⟩ := hwf entry List.mem_cons_self
      have hrest : ∀ e ∈ entries, Java.IsDecimal e.2 :=
        fun e he => hwf e (List.mem_cons_of_mem entry he)
      rw [networkMap_cons hvalue, ih hrest, lastCategory_cons hvalue hrest,
        Option.or_assoc]
      congr 1
      by_cases hecc : entry.1 = ecc
      · subst hecc
        rw [AList.lookup_insert, if_pos rfl, Option.some_or]
      · rw [AList.lookup_insert_ne fun h => hecc h.symm, if_neg hecc,
          Option.none_or]

/-! ## The decision -/

/-- With integer categories in the network list, the classifier returns
whether the network portion of the number, or that number with a plus sign
taken off its end, is in force; and it leaves exactly the network entries in
the map.  The map it finds does not matter. -/
theorem isEmergencyNumberExt_decides
    (P : Platform) {d : Device} (hwf : NetworkWellFormed d)
    (number : JString) :
    ∃ result t,
      (isEmergencyNumberExt P (some number)).run d = .ok result t ∧
        (result = true ↔ ∃ ecc, InForce d ecc ∧
          (P.extractNetworkPortionAlt number = ecc ∨
            P.extractNetworkPortionAlt number = ecc ++ ['+'])) ∧
        (∀ ecc, t.networkEccCategory.lookup ecc =
          lastCategory (networkEntries (d.props .eccServiceCategoryList))
            ecc) ∧
        t.props = d.props ∧ t.customizedEccList = d.customizedEccList := by
  refine ⟨_, _, isEmergencyNumberExt_ok P hwf number, accepts_iff, ?_, rfl,
    rfl⟩
  intro ecc
  rw [withNetworkMap, lookup_networkMap_eq hwf]
  simp

/-- A network list that gives one number twice, and a SIM list. -/
def networkDevice : Device where
  props
    | .eccServiceCategoryList => "112,5;911,1;112,6".toList
    | .eccList => "999".toList
    | _ => []
  customizedEccList := []
  networkEccCategory := (∅ : Java.HashMap).insert "000".toList 3

theorem isEmergencyNumberExt_decides_112 :
    ∃ result t,
      (isEmergencyNumberExt plainPlatform (some "11-2+".toList)).run
          networkDevice = .ok result t ∧
        (result = true ↔ ∃ ecc, InForce networkDevice ecc ∧
          ("112+".toList = ecc ∨ "112+".toList = ecc ++ ['+'])) ∧
        t.networkEccCategory.lookup "112".toList = some 6 ∧
        t.networkEccCategory.lookup "000".toList = none := by
  obtain ⟨result, t, hrun, hresult, hmap, -, -⟩ :=
    isEmergencyNumberExt_decides plainPlatform
      (d := networkDevice) (by decide +kernel) "11-2+".toList
  have hnumber : plainPlatform.extractNetworkPortionAlt "11-2+".toList =
      "112+".toList := by decide +kernel
  rw [hnumber] at hresult
  refine ⟨result, t, hrun, hresult, ?_, ?_⟩
  · rw [hmap]
    decide +kernel
  · rw [hmap]
    decide +kernel

/-- A device without any numbers. -/
def emptyDevice : Device where
  props _ := []
  customizedEccList := []
  networkEccCategory := ∅

/-- Splitting an empty property gives one empty token, but the classifier does
not split it: a number whose network portion is empty is rejected. -/
theorem isEmergencyNumberExt_empty_token :
    [] ∈ Java.split (emptyDevice.props .eccList) ',' ∧
      plainPlatform.extractNetworkPortionAlt "x".toList = [] ∧
      outcome (isEmergencyNumberExt plainPlatform (some "x".toList))
        emptyDevice = .ok false := by
  decide +kernel

/-! ## Numbers with nothing to dial -/

/-- A text without characters is accepted only as an empty number. -/
theorem accepts_nil_iff {d : Device} :
    accepts d [] = true ↔ InForce d [] := by
  rw [accepts_iff]
  constructor
  · rintro ⟨ecc, hecc, heq | heq⟩
    · rw [heq]
      exact hecc
    · simp at heq
  · intro h
    exact ⟨[], h, .inl rfl⟩

/-- A plus sign is accepted as a number, or as an empty number with a plus sign
behind it. -/
theorem accepts_plus_iff {d : Device} :
    accepts d ['+'] = true ↔ InForce d [] ∨ InForce d ['+'] := by
  rw [accepts_iff]
  constructor
  · rintro ⟨ecc, hecc, heq | heq⟩
    · rw [heq]
      exact .inr hecc
    · have hnil : ecc = [] := by simpa using heq
      rw [hnil] at hecc
      exact .inl hecc
  · rintro (h | h)
    · exact ⟨[], h, .inr rfl⟩
    · exact ⟨['+'], h, .inl rfl⟩

/-- A number of which nothing is left to dial is rejected exactly if no list in
force has an empty number and, where a plus sign is left, none has the plus sign
as a number. -/
theorem isEmergencyNumberExt_blank_iff
    (P : Platform) {d : Device} (hwf : NetworkWellFormed d)
    {number : JString}
    (hblank : P.extractNetworkPortionAlt number = [] ∨
      P.extractNetworkPortionAlt number = ['+']) :
    outcome (isEmergencyNumberExt P (some number)) d = .ok false ↔
      ¬InForce d [] ∧
        (P.extractNetworkPortionAlt number = ['+'] → ¬InForce d ['+']) := by
  rw [outcome_of_ok (isEmergencyNumberExt_ok P hwf number), Except.ok.injEq,
    ← Bool.not_eq_true]
  rcases hblank with hnumber | hnumber
  · rw [hnumber, accepts_nil_iff]
    simp
  · rw [hnumber, accepts_plus_iff]
    simp

theorem isEmergencyNumberExt_blank_of_plain_lists :
    outcome (isEmergencyNumberExt plainPlatform (some "x".toList))
      networkDevice = .ok false := by
  rw [isEmergencyNumberExt_blank_iff plainPlatform (by decide +kernel)
    (by decide +kernel), ← mem_emergencyEccs_iff, ← mem_emergencyEccs_iff]
  decide +kernel

/-- A device with the given SIM list, network list and customised list. -/
def deviceWith (simList networkList : JString) (customized : List EccEntry) :
    Device where
  props
    | .eccServiceCategoryList => networkList
    | .eccList => simList
    | _ => []
  customizedEccList := customized
  networkEccCategory := ∅

/-- A leading comma in a SIM list, a network entry without a number and a
customised entry without a number each make `x` and `+` emergency numbers. -/
theorem isEmergencyNumberExt_blank_accepted :
    outcome (isEmergencyNumberExt plainPlatform (some "x".toList))
        (deviceWith ",112".toList [] []) = .ok true ∧
      outcome (isEmergencyNumberExt plainPlatform (some "+".toList))
        (deviceWith [] ",5".toList []) = .ok true ∧
      outcome (isEmergencyNumberExt plainPlatform (some "x".toList))
        (deviceWith [] [] [{}]) = .ok true := by
  decide +kernel

end SmartSurf.Ecc
