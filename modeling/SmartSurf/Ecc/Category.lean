import SmartSurf.Ecc.Classification

/-!
# The service category of an emergency number

`MtkEccList.getServiceCategoryFromEcc` is a second search through the lists,
written independently of the classifier: it looks the number up in the network
map that the classifier left behind and then in the customised list, without
asking whether an entry counts in the present state of the SIM slots.  It is
compared here with `CategoryOf`, the category of the entry which made a number
an emergency number.
-/

namespace SmartSurf.Ecc

open Support

/-! ## The second search -/

/-- Step 1 of `getServiceCategoryFromEcc`. -/
def networkCategory (P : Platform) (number : JString) (map : Java.HashMap) :
    Option ℤ :=
  (P.keySet map.keys).findSome? fun emergencyNum =>
    if matchesNumber number emergencyNum then map.lookup emergencyNum
    else none

/-- Step 3 of `getServiceCategoryFromEcc`, with the final default. -/
def customizedCategory (number : JString) :
    List EccEntry → Except Throwable ℤ
  | [] => .ok 0
  | eccEntry :: rest =>
      if matchesNumber number eccEntry.mEcc then
        Java.parseInt eccEntry.mCategory
      else
        customizedCategory number rest

/-- `MtkEccList.getServiceCategoryFromEcc`; no entry equals a null number. -/
def getServiceCategoryFromEcc (P : Platform) : Option JString → EccM ℤ
  | none => pure 0
  | some number => do
      let d ← get
      match networkCategory P number d.networkEccCategory with
      | some nSC => return nSC
      | none =>
          match customizedCategory number d.customizedEccList with
          | .ok category => return category
          | .error thr => throw thr

/-! ## The entry that made the number an emergency number -/

/-- The numbers of the network list. -/
def networkNumbers (d : Device) : List JString :=
  (networkEntries (d.props .eccServiceCategoryList)).map Prod.fst

/-- Some number of the network list matches. -/
def networkMatches (d : Device) (number : JString) : Bool :=
  (networkNumbers d).any (matchesNumber number)

/-- `c` is the category of the entry which makes `number` an emergency number:
that of a matching network entry if there is one, else that of the first
matching customised entry that counts, else zero. -/
def CategoryOf (d : Device) (number : JString) (c : ℤ) : Prop :=
  if networkMatches d number then
    ∃ entry ∈ networkEntries (d.props .eccServiceCategoryList),
      matchesNumber number entry.1 = true ∧ Java.parseInt entry.2 = .ok c
  else
    match d.customizedEccList.find? fun eccEntry =>
      eligible d eccEntry && matchesNumber number eccEntry.mEcc with
    | some eccEntry => Java.parseInt eccEntry.mCategory = .ok c
    | none => c = 0

/-- Every category of the network list and of the customised list is an
integer. -/
def CategoriesDecimal (d : Device) : Prop :=
  NetworkWellFormed d ∧
    ∀ eccEntry ∈ d.customizedEccList, Java.IsDecimal eccEntry.mCategory

instance (d : Device) : Decidable (CategoriesDecimal d) :=
  inferInstanceAs (Decidable (_ ∧ ∀ eccEntry ∈ d.customizedEccList, _))

/-! ## What the second search finds -/

theorem customizedCategory_eq (number : JString) (list : List EccEntry) :
    customizedCategory number list =
      match list.find? fun eccEntry => matchesNumber number eccEntry.mEcc with
      | some eccEntry => Java.parseInt eccEntry.mCategory
      | none => .ok 0 := by
  induction list with
  | nil => rfl
  | cons eccEntry rest ih =>
      rw [customizedCategory]
      by_cases hmatch : matchesNumber number eccEntry.mEcc = true
      · simp [hmatch]
      · simp [hmatch, ih]

/-- A category found in the map belongs to a matching key. -/
theorem networkCategory_some
    {P : Platform} {number : JString} {map : Java.HashMap} {c : ℤ}
    (h : networkCategory P number map = some c) :
    ∃ key, matchesNumber number key = true ∧ map.lookup key = some c := by
  obtain ⟨key, -, hkey⟩ := List.exists_of_findSome?_eq_some h
  by_cases hmatch : matchesNumber number key = true
  · rw [if_pos hmatch] at hkey
    exact ⟨key, hmatch, hkey⟩
  · rw [if_neg hmatch] at hkey
    cases hkey

/-- Nothing is found in the map exactly if no key matches. -/
theorem networkCategory_eq_none_iff
    {P : Platform} {number : JString} {map : Java.HashMap} :
    networkCategory P number map = none ↔
      ∀ key ∈ map, matchesNumber number key = false := by
  rw [networkCategory, List.findSome?_eq_none_iff]
  constructor
  · intro h key hkey
    have hnone := h key (P.mem_keySet.mpr (AList.mem_keys.mp hkey))
    by_contra hmatch
    rw [Bool.not_eq_false] at hmatch
    rw [if_pos hmatch, AList.lookup_eq_none] at hnone
    exact hnone hkey
  · intro h key hkey
    have hfalse := h key (AList.mem_keys.mpr (P.mem_keySet.mp hkey))
    simp [hfalse]

/-- The category search leaves the device as it found it. -/
theorem getServiceCategoryFromEcc_cases
    (P : Platform) (number : Option JString) (d : Device) :
    (∃ c, (getServiceCategoryFromEcc P number).run d = .ok c d) ∨
      ∃ thr, (getServiceCategoryFromEcc P number).run d = .error thr d := by
  cases number with
  | none => exact Or.inl ⟨0, rfl⟩
  | some number =>
      simp only [getServiceCategoryFromEcc, EStateM.run_bind, EStateM.run_get]
      cases networkCategory P number d.networkEccCategory with
      | some nSC => exact Or.inl ⟨nSC, rfl⟩
      | none =>
          cases customizedCategory number d.customizedEccList with
          | ok category => exact Or.inl ⟨category, rfl⟩
          | error thr => exact Or.inr ⟨thr, rfl⟩

variable {d : Device}

theorem networkMatches_eq_true {number : JString} :
    networkMatches d number = true ↔
      ∃ ecc ∈ networkNumbers d, matchesNumber number ecc = true :=
  List.any_eq_true

/-- On the map left by the classifier, the first step finds nothing exactly if
no network number matches. -/
theorem networkCategory_withNetworkMap_eq_none
    (hwf : NetworkWellFormed d) {P : Platform} {number : JString} :
    networkCategory P number (withNetworkMap d).networkEccCategory = none ↔
      networkMatches d number = false := by
  rw [networkCategory_eq_none_iff, ← Bool.not_eq_true, networkMatches_eq_true]
  have hmem : ∀ key, key ∈ (withNetworkMap d).networkEccCategory ↔
      key ∈ networkNumbers d := by
    intro key
    rw [withNetworkMap, mem_networkMap hwf]
    simp [networkNumbers]
  simp only [hmem]
  push Not
  simp only [ne_eq, Bool.not_eq_true]

/-- What the first step finds is the category of a matching network entry. -/
theorem networkCategory_withNetworkMap_some
    {P : Platform} {number : JString} {c : ℤ}
    (h : networkCategory P number (withNetworkMap d).networkEccCategory =
      some c) :
    ∃ entry ∈ networkEntries (d.props .eccServiceCategoryList),
      matchesNumber number entry.1 = true ∧
        Java.parseInt entry.2 = .ok c := by
  obtain ⟨key, hmatch, hlookup⟩ := networkCategory_some h
  rcases lookup_networkMap hlookup with hempty | ⟨entry, hentry, rfl, hc⟩
  · simp at hempty
  · exact ⟨entry, hentry, hmatch, hc⟩

/-- With a matching network number the search returns a network category. -/
theorem getServiceCategoryFromEcc_of_network
    (hwf : NetworkWellFormed d) (P : Platform) {number : JString}
    (hmatch : networkMatches d number = true) :
    ∃ c,
      networkCategory P number (withNetworkMap d).networkEccCategory =
        some c ∧
      (getServiceCategoryFromEcc P (some number)).run (withNetworkMap d) =
        .ok c (withNetworkMap d) := by
  cases hfound :
      networkCategory P number (withNetworkMap d).networkEccCategory with
  | none =>
      rw [networkCategory_withNetworkMap_eq_none hwf, hmatch] at hfound
      cases hfound
  | some c =>
      refine ⟨c, rfl, ?_⟩
      simp [getServiceCategoryFromEcc, hfound]

/-- Without one it returns, or throws, what the customised list gives. -/
theorem getServiceCategoryFromEcc_of_not_network
    (hwf : NetworkWellFormed d) (P : Platform) {number : JString}
    (hmatch : networkMatches d number = false) :
    (getServiceCategoryFromEcc P (some number)).run (withNetworkMap d) =
      match customizedCategory number d.customizedEccList with
      | .ok c => .ok c (withNetworkMap d)
      | .error thr => .error thr (withNetworkMap d) := by
  have hfound := (networkCategory_withNetworkMap_eq_none (P := P) hwf).mpr hmatch
  simp only [getServiceCategoryFromEcc, EStateM.run_bind, EStateM.run_get,
    hfound]
  have hlist : (withNetworkMap d).customizedEccList = d.customizedEccList := rfl
  rw [hlist]
  cases customizedCategory number d.customizedEccList with
  | ok c => rfl
  | error thr => rfl

/-- The category found for a number is an integer: a network number matches,
or the first customised entry that does has an integer category. -/
def CategoryReadable (d : Device) (number : JString) : Prop :=
  networkMatches d number = false →
    ∀ eccEntry ∈ d.customizedEccList.find? fun eccEntry =>
      matchesNumber number eccEntry.mEcc, Java.IsDecimal eccEntry.mCategory

instance (d : Device) (number : JString) :
    Decidable (CategoryReadable d number) :=
  inferInstanceAs (Decidable (_ → ∀ eccEntry ∈ List.find? _ _, _))

/-- The category search returns exactly if the category it finds is an
integer. -/
theorem getServiceCategoryFromEcc_returns_iff
    (hwf : NetworkWellFormed d) (P : Platform) (number : JString) :
    (∃ c d', (getServiceCategoryFromEcc P (some number)).run
        (withNetworkMap d) = .ok c d') ↔ CategoryReadable d number := by
  unfold CategoryReadable
  cases hmatch : networkMatches d number with
  | true =>
      obtain ⟨c, -, hrun⟩ := getServiceCategoryFromEcc_of_network hwf P hmatch
      simp [hrun]
  | false =>
      rw [getServiceCategoryFromEcc_of_not_network hwf P hmatch,
        customizedCategory_eq]
      cases d.customizedEccList.find? fun eccEntry =>
          matchesNumber number eccEntry.mEcc with
      | none => simp
      | some eccEntry =>
          cases hvalue : Java.parseInt eccEntry.mCategory with
          | ok c => simp [hvalue, Java.IsDecimal]
          | error thr => simp [hvalue, Java.IsDecimal]

end SmartSurf.Ecc
