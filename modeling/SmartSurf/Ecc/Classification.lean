import SmartSurf.Ecc.Entries
import SmartSurf.Platform.Properties
import SmartSurf.Support.Sequencing

/-!
# Which numbers are emergency numbers

`MtkEccList.isEmergencyNumberExt` compares a number with the list sent by the
network, the lists of the two SIM slots and the customised list.  The function
is modelled with the static map it refills on every call and with the
exception it raises on a category that is not an integer.

The purpose of the function is stated by `emergencyEccs`: the numbers in force
on a device, among which a dialled number is looked up with or without a
trailing plus sign.
-/

namespace SmartSurf.Ecc

open Support

/-- The device state that the static methods of `MtkEccList` read and write. -/
structure Device where
  props : SystemProperties
  customizedEccList : List EccEntry
  networkEccCategory : Java.HashMap

/-- Static methods of `MtkEccList`: they may throw, and what they did to the
device before throwing stays. -/
abbrev EccM := EStateM Throwable Device

/-! ## The classifier -/

/-- `emergencyNum.equals(number) || numberPlus.equals(number)`. -/
def matchesNumber (number emergencyNum : JString) : Bool :=
  emergencyNum == number || emergencyNum ++ ['+'] == number

/-- The loop over the entries of `ril.ecc.service.category.list`; entries
which do not have exactly two fields are skipped. -/
def fillNetworkEccCategory :
    List JString → Java.HashMap →
      EStateM.Result Throwable Java.HashMap Unit
  | [], map => .ok () map
  | strEccCategory :: rest, map =>
      if strEccCategory = [] then
        fillNetworkEccCategory rest map
      else
        match Java.split strEccCategory ',' with
        | [ecc, category] =>
            match Java.parseInt category with
            | .ok value => fillNetworkEccCategory rest (map.insert ecc value)
            | .error thr => .error thr map
        | _ => fillNetworkEccCategory rest map

/-- Step 1 of the classifier: clear the static map and refill it. -/
def readNetworkEccCategory : EccM Unit := fun d =>
  let strEccCategoryList := d.props .eccServiceCategoryList
  let entries :=
    if strEccCategoryList = [] then []
    else Java.split strEccCategoryList ';'
  match fillNetworkEccCategory entries ∅ with
  | .ok _ map => .ok () { d with networkEccCategory := map }
  | .error thr map => .error thr { d with networkEccCategory := map }

/-- Step 2 of the classifier for one SIM slot. -/
def simListMatches (number numbers : JString) : Bool :=
  numbers != [] && (Java.split numbers ',').any (matchesNumber number)

/-- Step 3 of the classifier. -/
def customizedMatches (number : JString) (bSIMInserted : Bool)
    (list : List EccEntry) : Bool :=
  if bSIMInserted then
    list.any fun eccEntry =>
      eccEntry.mCondition != eccNoSim && matchesNumber number eccEntry.mEcc
  else
    list.any fun eccEntry => matchesNumber number eccEntry.mEcc

/-- `MtkEccList.isEmergencyNumberExt`; `none` is a null number. -/
def isEmergencyNumberExt (P : Platform) : Option JString → EccM Bool
  | none => pure false
  | some address => do
      let number := P.extractNetworkPortionAlt address
      readNetworkEccCategory
      let d ← get
      if (P.keySet d.networkEccCategory.keys).any (matchesNumber number) then
        return true
      if simListMatches number (d.props .eccList) then
        return true
      if simListMatches number (d.props .eccList1) then
        return true
      let bSIMInserted := d.props .eccList != [] || d.props .eccList1 != []
      return customizedMatches number bSIMInserted d.customizedEccList

/-! ## The numbers in force -/

/-- The two fields of a network entry that has exactly two. -/
def networkEntry (strEccCategory : JString) : Option (JString × JString) :=
  if strEccCategory = [] then none
  else
    match Java.split strEccCategory ',' with
    | [ecc, category] => some (ecc, category)
    | _ => none

/-- The entries of the network list, as number and category text. -/
def networkEntries (list : JString) : List (JString × JString) :=
  if list = [] then [] else (Java.split list ';').filterMap networkEntry

/-- Every category of the network list is an integer. -/
def NetworkWellFormed (d : Device) : Prop :=
  ∀ entry ∈ networkEntries (d.props .eccServiceCategoryList),
    Java.IsDecimal entry.2

instance (d : Device) : Decidable (NetworkWellFormed d) :=
  inferInstanceAs (Decidable (∀ entry ∈ networkEntries _, Java.IsDecimal _))

/-- The numbers of one SIM slot. -/
def simNumbers (numbers : JString) : List JString :=
  if numbers = [] then [] else Java.split numbers ','

/-- A SIM list is present in at least one slot. -/
def simInserted (d : Device) : Bool :=
  d.props .eccList != [] || d.props .eccList1 != []

/-- A customised entry that counts in the present state of the SIM slots. -/
def eligible (d : Device) (eccEntry : EccEntry) : Bool :=
  !simInserted d || eccEntry.mCondition != eccNoSim

/-- The numbers in force on a device. -/
def emergencyEccs (d : Device) : List JString :=
  (networkEntries (d.props .eccServiceCategoryList)).map Prod.fst ++
    simNumbers (d.props .eccList) ++ simNumbers (d.props .eccList1) ++
      (d.customizedEccList.filter (eligible d)).map EccEntry.mEcc

/-- A normalised number is an emergency number of the device. -/
def accepts (d : Device) (number : JString) : Bool :=
  (emergencyEccs d).any (matchesNumber number)

/-- The network map the classifier leaves behind: later entries win. -/
def networkMap (entries : List (JString × JString)) (map : Java.HashMap) :
    Java.HashMap :=
  entries.foldl
    (fun map entry =>
      match Java.parseInt entry.2 with
      | .ok value => map.insert entry.1 value
      | .error _ => map) map

/-! ## The network map -/

/-- One entry with an integer category is inserted into the map. -/
theorem networkMap_cons
    {entry : JString × JString} {value : ℤ}
    (hvalue : Java.parseInt entry.2 = .ok value)
    (entries : List (JString × JString)) (map : Java.HashMap) :
    networkMap (entry :: entries) map =
      networkMap entries (map.insert entry.1 value) := by
  simp [networkMap, hvalue]

theorem fillNetworkEccCategory_cons_none
    {strEccCategory : JString} (h : networkEntry strEccCategory = none)
    (rest : List JString) (map : Java.HashMap) :
    fillNetworkEccCategory (strEccCategory :: rest) map =
      fillNetworkEccCategory rest map := by
  rw [networkEntry] at h
  rw [fillNetworkEccCategory]
  by_cases hempty : strEccCategory = []
  · rw [if_pos hempty]
  · rw [if_neg hempty] at h ⊢
    split at h
    · cases h
    · rfl

theorem fillNetworkEccCategory_cons_some
    {strEccCategory : JString} {entry : JString × JString}
    (h : networkEntry strEccCategory = some entry)
    (rest : List JString) (map : Java.HashMap) :
    fillNetworkEccCategory (strEccCategory :: rest) map =
      match Java.parseInt entry.2 with
      | .ok value => fillNetworkEccCategory rest (map.insert entry.1 value)
      | .error thr => .error thr map := by
  rw [networkEntry] at h
  rw [fillNetworkEccCategory]
  by_cases hempty : strEccCategory = []
  · rw [if_pos hempty] at h
    cases h
  · rw [if_neg hempty] at h ⊢
    split at h
    next ecc category hsplit =>
      obtain rfl := Option.some.inj h
      rfl
    next => cases h

/-- With integer categories only, the loop fills the map and returns. -/
theorem fillNetworkEccCategory_ok
    {entries : List JString}
    (hwf : ∀ entry ∈ entries.filterMap networkEntry, Java.IsDecimal entry.2)
    (map : Java.HashMap) :
    fillNetworkEccCategory entries map =
      .ok () (networkMap (entries.filterMap networkEntry) map) := by
  induction entries generalizing map with
  | nil => rfl
  | cons strEccCategory rest ih =>
      cases hentry : networkEntry strEccCategory with
      | none =>
          rw [List.filterMap_cons_none hentry] at hwf ⊢
          rw [fillNetworkEccCategory_cons_none hentry]
          exact ih hwf map
      | some entry =>
          rw [List.filterMap_cons_some hentry] at hwf ⊢
          obtain ⟨value, hvalue⟩ := hwf entry List.mem_cons_self
          rw [fillNetworkEccCategory_cons_some hentry, hvalue,
            networkMap_cons hvalue]
          exact ih (fun e he => hwf e (List.mem_cons_of_mem entry he)) _

/-- A category which is not an integer ends the loop with an exception. -/
theorem fillNetworkEccCategory_error
    {entries : List JString}
    (hbad : ¬∀ entry ∈ entries.filterMap networkEntry,
      Java.IsDecimal entry.2)
    (map : Java.HashMap) :
    ∃ thr left, fillNetworkEccCategory entries map = .error thr left := by
  induction entries generalizing map with
  | nil => exact absurd (by simp) hbad
  | cons strEccCategory rest ih =>
      cases hentry : networkEntry strEccCategory with
      | none =>
          rw [List.filterMap_cons_none hentry] at hbad
          rw [fillNetworkEccCategory_cons_none hentry]
          exact ih hbad map
      | some entry =>
          rw [List.filterMap_cons_some hentry] at hbad
          rw [fillNetworkEccCategory_cons_some hentry]
          cases hvalue : Java.parseInt entry.2 with
          | error thr => exact ⟨thr, map, rfl⟩
          | ok value =>
              apply ih
              intro hrest
              apply hbad
              rw [List.forall_mem_cons]
              exact ⟨⟨value, hvalue⟩, hrest⟩

theorem mem_networkMap
    {entries : List (JString × JString)}
    (hwf : ∀ entry ∈ entries, Java.IsDecimal entry.2)
    {map : Java.HashMap} {key : JString} :
    key ∈ networkMap entries map ↔
      key ∈ map ∨ key ∈ entries.map Prod.fst := by
  induction entries generalizing map with
  | nil => simp [networkMap]
  | cons entry entries ih =>
      obtain ⟨value, hvalue⟩ := hwf entry List.mem_cons_self
      rw [networkMap_cons hvalue,
        ih fun e he => hwf e (List.mem_cons_of_mem entry he),
        AList.mem_insert, List.map_cons, List.mem_cons]
      tauto

/-- Every value in the map is the category of an entry with that number. -/
theorem lookup_networkMap
    {entries : List (JString × JString)} {map : Java.HashMap}
    {key : JString} {value : ℤ}
    (h : (networkMap entries map).lookup key = some value) :
    map.lookup key = some value ∨
      ∃ entry ∈ entries, entry.1 = key ∧
        Java.parseInt entry.2 = .ok value := by
  induction entries generalizing map with
  | nil => exact Or.inl h
  | cons entry entries ih =>
      cases hvalue : Java.parseInt entry.2 with
      | error thr =>
          have hskip :
              networkMap (entry :: entries) map = networkMap entries map := by
            simp [networkMap, hvalue]
          rw [hskip] at h
          rcases ih h with hmap | ⟨e, he, hkey, hcategory⟩
          · exact Or.inl hmap
          · exact Or.inr ⟨e, List.mem_cons_of_mem entry he, hkey, hcategory⟩
      | ok inserted =>
          rw [networkMap_cons hvalue] at h
          rcases ih h with hmap | ⟨e, he, hkey, hcategory⟩
          · by_cases hkey : key = entry.1
            · subst key
              rw [AList.lookup_insert] at hmap
              obtain rfl := Option.some.inj hmap
              exact Or.inr ⟨entry, List.mem_cons_self, rfl, hvalue⟩
            · rw [AList.lookup_insert_ne hkey] at hmap
              exact Or.inl hmap
          · exact Or.inr ⟨e, List.mem_cons_of_mem entry he, hkey, hcategory⟩

/-! ## What the classifier computes -/

/-- The device after the classifier has refilled the network map. -/
def withNetworkMap (d : Device) : Device :=
  { d with
    networkEccCategory :=
      networkMap (networkEntries (d.props .eccServiceCategoryList)) ∅ }

theorem networkEntries_eq_filterMap (list : JString) :
    networkEntries list =
      (if list = [] then [] else Java.split list ';').filterMap
        networkEntry := by
  unfold networkEntries
  split
  · rfl
  · rfl

theorem readNetworkEccCategory_ok
    {d : Device} (hwf : NetworkWellFormed d) :
    readNetworkEccCategory.run d = .ok () (withNetworkMap d) := by
  unfold NetworkWellFormed at hwf
  rw [networkEntries_eq_filterMap] at hwf
  simp only [EStateM.run, readNetworkEccCategory, withNetworkMap,
    fillNetworkEccCategory_ok hwf, networkEntries_eq_filterMap]

theorem readNetworkEccCategory_error
    {d : Device} (hbad : ¬NetworkWellFormed d) :
    ∃ thr left, readNetworkEccCategory.run d = .error thr left := by
  unfold NetworkWellFormed at hbad
  rw [networkEntries_eq_filterMap] at hbad
  obtain ⟨thr, map, hfill⟩ := fillNetworkEccCategory_error hbad ∅
  refine ⟨thr, { d with networkEccCategory := map }, ?_⟩
  simp only [EStateM.run, readNetworkEccCategory, hfill]

theorem any_keySet_networkMap
    (P : Platform) {entries : List (JString × JString)}
    (hwf : ∀ entry ∈ entries, Java.IsDecimal entry.2)
    (p : JString → Bool) :
    (P.keySet (networkMap entries ∅).keys).any p =
      (entries.map Prod.fst).any p := by
  rw [Bool.eq_iff_iff, List.any_eq_true, List.any_eq_true]
  have hmem : ∀ key, key ∈ P.keySet (networkMap entries ∅).keys ↔
      key ∈ entries.map Prod.fst := by
    intro key
    rw [P.mem_keySet, ← AList.mem_keys, mem_networkMap hwf]
    simp
  simp only [hmem]

theorem simListMatches_eq (number numbers : JString) :
    simListMatches number numbers =
      (simNumbers numbers).any (matchesNumber number) := by
  by_cases hempty : numbers = []
  · simp [simListMatches, simNumbers, hempty]
  · simp [simListMatches, simNumbers, hempty]

theorem customizedMatches_eq (d : Device) (number : JString) :
    customizedMatches number (simInserted d) d.customizedEccList =
      ((d.customizedEccList.filter (eligible d)).map EccEntry.mEcc).any
        (matchesNumber number) := by
  rw [customizedMatches, List.any_map, List.any_filter]
  cases hsim : simInserted d with
  | true => simp [eligible, hsim]
  | false => simp [eligible, hsim]

/-- Membership among the numbers in force, in the order of the classifier. -/
theorem accepts_eq (d : Device) (number : JString) :
    accepts d number =
      (((networkEntries (d.props .eccServiceCategoryList)).map Prod.fst).any
          (matchesNumber number) ||
        (simListMatches number (d.props .eccList) ||
          (simListMatches number (d.props .eccList1) ||
            customizedMatches number (simInserted d)
              d.customizedEccList))) := by
  rw [simListMatches_eq, simListMatches_eq, customizedMatches_eq]
  simp [accepts, emergencyEccs, List.any_append]

/-- With a well-formed network list, the classifier returns and decides
membership among the numbers in force. -/
theorem isEmergencyNumberExt_ok
    (P : Platform) {d : Device} (hwf : NetworkWellFormed d)
    (address : JString) :
    (isEmergencyNumberExt P (some address)).run d =
      .ok (accepts d (P.extractNetworkPortionAlt address))
        (withNetworkMap d) := by
  have hnetwork := any_keySet_networkMap P hwf
    (matchesNumber (P.extractNetworkPortionAlt address))
  rw [isEmergencyNumberExt, run_bind_of_ok (readNetworkEccCategory_ok hwf),
    accepts_eq, ← hnetwork]
  simp only [EStateM.run_bind, EStateM.run_get, withNetworkMap]
  split_ifs with hnet hsim hsim1
  · simp [hnet]
  · simp [hsim]
  · simp [hsim1]
  · simp [hnet, hsim, hsim1, simInserted]

/-- A network category which is not an integer makes the classifier throw. -/
theorem isEmergencyNumberExt_error
    (P : Platform) {d : Device} (hbad : ¬NetworkWellFormed d)
    (address : JString) :
    ∃ thr left,
      (isEmergencyNumberExt P (some address)).run d = .error thr left := by
  obtain ⟨thr, left, hread⟩ := readNetworkEccCategory_error hbad
  refine ⟨thr, left, ?_⟩
  rw [isEmergencyNumberExt, run_bind_of_error hread]

end SmartSurf.Ecc
