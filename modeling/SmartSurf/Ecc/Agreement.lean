import SmartSurf.Ecc.Category

/-!
# When the two searches agree

The classifier looks up the network portion of an address and skips customised
entries that do not count; the category search looks up the raw address and
skips nothing.  `SearchesAgree` says which entries the two must have in common,
in terms of the numbers and conditions of the lists only.  It is the exact
condition for the category to be the right one whatever the categories of the
entries are: where it fails, some choice of categories tells the two entries
apart.
-/

namespace SmartSurf.Ecc

open Support

/-! ## Devices with the same numbers -/

/-- The part of a customised entry that the searches compare. -/
def EccEntry.numberAndCondition (eccEntry : EccEntry) : JString × JString :=
  (eccEntry.mEcc, eccEntry.mCondition)

/-- Two devices whose lists differ in categories at most. -/
structure SameNumbers (d d' : Device) : Prop where
  network : networkNumbers d' = networkNumbers d
  sim : d'.props .eccList = d.props .eccList
  sim1 : d'.props .eccList1 = d.props .eccList1
  customized :
    d'.customizedEccList.map EccEntry.numberAndCondition =
      d.customizedEccList.map EccEntry.numberAndCondition

theorem SameNumbers.refl (d : Device) : SameNumbers d d where
  network := rfl
  sim := rfl
  sim1 := rfl
  customized := rfl

/-- Position of the first customised entry which the category search finds. -/
def matchIdx (d : Device) (number : JString) : Option ℕ :=
  d.customizedEccList.findIdx? fun eccEntry =>
    matchesNumber number eccEntry.mEcc

/-- Position of the first customised entry which the classifier finds. -/
def eligibleIdx (d : Device) (number : JString) : Option ℕ :=
  d.customizedEccList.findIdx? fun eccEntry =>
    eligible d eccEntry && matchesNumber number eccEntry.mEcc

/-- The raw address leads to the entry that made its network portion an
emergency number. -/
def SearchesAgree (d : Device) (address number : JString) : Prop :=
  if networkMatches d number then
    networkMatches d address = true ∧
      ∀ ecc ∈ networkNumbers d, matchesNumber address ecc = true →
        matchesNumber number ecc = true
  else
    networkMatches d address = false ∧
      matchIdx d address = eligibleIdx d number

instance (d : Device) (address number : JString) :
    Decidable (SearchesAgree d address number) :=
  inferInstanceAs (Decidable (if networkMatches d number = true then
    _ ∧ ∀ ecc ∈ networkNumbers d, matchesNumber address ecc = true → _
  else _ ∧ matchIdx d address = eligibleIdx d number))

section SameNumbers

variable {d d' : Device} (h : SameNumbers d d')

include h

theorem SameNumbers.networkMatches_eq (number : JString) :
    networkMatches d' number = networkMatches d number := by
  rw [networkMatches, networkMatches, h.network]

theorem SameNumbers.simInserted_eq : simInserted d' = simInserted d := by
  rw [simInserted, simInserted, h.sim, h.sim1]

/-- A search that reads numbers and conditions only stops at the same place. -/
theorem SameNumbers.findIdx?_eq (p : JString × JString → Bool) :
    d'.customizedEccList.findIdx? (p ∘ EccEntry.numberAndCondition) =
      d.customizedEccList.findIdx? (p ∘ EccEntry.numberAndCondition) := by
  rw [← List.findIdx?_map, ← List.findIdx?_map, h.customized]

theorem SameNumbers.matchIdx_eq (number : JString) :
    matchIdx d' number = matchIdx d number :=
  h.findIdx?_eq fun entry => matchesNumber number entry.1

theorem SameNumbers.eligibleIdx_eq (number : JString) :
    eligibleIdx d' number = eligibleIdx d number := by
  have heq := h.findIdx?_eq fun entry =>
    (!simInserted d || entry.2 != eccNoSim) && matchesNumber number entry.1
  unfold eligibleIdx eligible
  rw [h.simInserted_eq]
  exact heq

theorem SameNumbers.searchesAgree_iff (address number : JString) :
    SearchesAgree d' address number ↔ SearchesAgree d address number := by
  unfold SearchesAgree
  rw [h.networkMatches_eq, h.networkMatches_eq, h.network, h.matchIdx_eq,
    h.eligibleIdx_eq]

/-- Whether a number is an emergency number does not depend on categories. -/
theorem SameNumbers.accepts_eq (number : JString) :
    accepts d' number = accepts d number := by
  have hcustomized :
      (d'.customizedEccList.filter (eligible d')).map EccEntry.mEcc =
        (d.customizedEccList.filter (eligible d)).map EccEntry.mEcc := by
    have hfilter : ∀ e : Device, simInserted e = simInserted d →
        (e.customizedEccList.filter (eligible e)).map EccEntry.mEcc =
          ((e.customizedEccList.map EccEntry.numberAndCondition).filter
            fun entry => !simInserted d || entry.2 != eccNoSim).map
              Prod.fst := by
      intro e hsim
      rw [List.filter_map, List.map_map]
      unfold eligible
      rw [hsim]
      rfl
    rw [hfilter d' h.simInserted_eq, hfilter d rfl, h.customized]
  have hnetwork := h.network
  unfold networkNumbers at hnetwork
  unfold accepts emergencyEccs
  rw [hnetwork, h.sim, h.sim1, hcustomized]

end SameNumbers

/-! ## Agreement is enough -/

theorem find?_eq_of_findIdx?_eq
    {list : List EccEntry} {p q : EccEntry → Bool}
    (h : list.findIdx? p = list.findIdx? q) :
    list.find? p = list.find? q := by
  rw [List.find?_eq_bind_findIdx?_getElem?, h,
    ← List.find?_eq_bind_findIdx?_getElem?]

/-- Where the searches agree, the category search returns the category of the
entry that made the number an emergency number. -/
theorem categoryOf_of_searchesAgree
    {d : Device} (hdecimal : CategoriesDecimal d) (P : Platform)
    {address number : JString} (hagree : SearchesAgree d address number) :
    ∃ c,
      (getServiceCategoryFromEcc P (some address)).run (withNetworkMap d) =
        .ok c (withNetworkMap d) ∧ CategoryOf d number c := by
  obtain ⟨hwf, hcustomized⟩ := hdecimal
  unfold SearchesAgree at hagree
  unfold CategoryOf
  by_cases hnetwork : networkMatches d number = true
  · rw [if_pos hnetwork] at hagree
    obtain ⟨haddress, hsub⟩ := hagree
    obtain ⟨c, hfound, hrun⟩ :=
      getServiceCategoryFromEcc_of_network hwf P haddress
    obtain ⟨entry, hentry, hmatch, hc⟩ :=
      networkCategory_withNetworkMap_some hfound
    refine ⟨c, hrun, ?_⟩
    rw [if_pos hnetwork]
    have hmem : entry.1 ∈ networkNumbers d := List.mem_map_of_mem hentry
    exact ⟨entry, hentry, hsub entry.1 hmem hmatch, hc⟩
  · rw [if_neg hnetwork] at hagree
    obtain ⟨haddress, hidx⟩ := hagree
    have hfind := find?_eq_of_findIdx?_eq hidx
    rw [getServiceCategoryFromEcc_of_not_network hwf P haddress,
      customizedCategory_eq, hfind]
    simp only [if_neg hnetwork]
    cases hentry : d.customizedEccList.find? fun eccEntry =>
        eligible d eccEntry && matchesNumber number eccEntry.mEcc with
    | none => exact ⟨0, rfl, rfl⟩
    | some eccEntry =>
        obtain ⟨c, hc⟩ :=
          hcustomized eccEntry (List.mem_of_find?_eq_some hentry)
        refine ⟨c, ?_, hc⟩
        simp only [hc]

/-! ## Categories that tell entries apart -/

/-- A category text with one of two values. -/
def labelText (marked : Bool) : JString :=
  if marked then "2".toList else "1".toList

def labelValue (marked : Bool) : ℤ :=
  if marked then 2 else 1

theorem parseInt_labelText (marked : Bool) :
    Java.parseInt (labelText marked) = .ok (labelValue marked) := by
  revert marked
  decide

theorem labelText_no_separator {sep : Char} (hsep : sep = ',' ∨ sep = ';')
    (marked : Bool) : sep ∉ labelText marked := by
  rcases hsep with rfl | rfl
  · revert marked
    decide
  · revert marked
    decide

/-- A network list of the given numbers, each with its label. -/
def networkText (marked : JString → Bool) (numbers : List JString) :
    JString :=
  Java.join ';' (numbers.map fun ecc =>
    Java.join ',' [ecc, labelText (marked ecc)])

/-- The device with its categories replaced by labels, chosen by number in the
network list and by position in the customised list. -/
def relabel (d : Device) (network : JString → Bool) (customized : ℕ → Bool) :
    Device :=
  { d with
    props := Function.update d.props .eccServiceCategoryList
      (networkText network (networkNumbers d))
    customizedEccList := d.customizedEccList.mapIdx fun i eccEntry =>
      { eccEntry with mCategory := labelText (customized i) } }

/-- The number of a network entry contains neither separator. -/
theorem networkNumbers_no_separator
    {d : Device} {ecc : JString} (hecc : ecc ∈ networkNumbers d) :
    ',' ∉ ecc ∧ ';' ∉ ecc := by
  obtain ⟨entry, hentry, rfl⟩ := List.mem_map.mp hecc
  rw [networkEntries] at hentry
  split at hentry
  next => cases hentry
  next =>
    obtain ⟨text, htext, hsome⟩ := List.mem_filterMap.mp hentry
    rw [networkEntry] at hsome
    split at hsome
    next => cases hsome
    next =>
      split at hsome
      next ecc category hsplit =>
        obtain rfl := Option.some.inj hsome
        have hpiece : ecc ∈ Java.split text ',' := by simp [hsplit]
        obtain ⟨hcomma, hchars⟩ := mem_splitTrim hpiece
        refine ⟨hcomma, fun hsemicolon => ?_⟩
        exact (mem_splitTrim htext).1 (hchars ';' hsemicolon)
      next => cases hsome

theorem networkEntry_label
    {ecc : JString} (hcomma : ',' ∉ ecc) (marked : Bool) :
    networkEntry (Java.join ',' [ecc, labelText marked]) =
      some (ecc, labelText marked) := by
  have hlabel : labelText marked ≠ [] := by
    revert marked
    decide
  have hsplit :
      Java.split (Java.join ',' [ecc, labelText marked]) ',' =
        [ecc, labelText marked] := by
    apply splitTrim_joinWith (by simp)
    · intro piece hpiece
      rw [List.mem_cons, List.mem_singleton] at hpiece
      rcases hpiece with rfl | rfl
      · exact hcomma
      · exact labelText_no_separator (Or.inl rfl) marked
    · exact hlabel
  have hne : Java.join ',' [ecc, labelText marked] ≠ [] := by
    rw [Java.join, joinWith_cons_cons]
    simp
  rw [networkEntry, if_neg hne, hsplit]

/-- The labelled network list reads back as the numbers with their labels. -/
theorem networkEntries_networkText
    (marked : JString → Bool) {numbers : List JString}
    (hfree : ∀ ecc ∈ numbers, ',' ∉ ecc ∧ ';' ∉ ecc) :
    networkEntries (networkText marked numbers) =
      numbers.map fun ecc => (ecc, labelText (marked ecc)) := by
  by_cases hnil : numbers = []
  · subst numbers
    rfl
  · have htokens : Tokens ';' (numbers.map fun ecc =>
        Java.join ',' [ecc, labelText (marked ecc)]) := by
      intro piece hpiece
      obtain ⟨ecc, hecc, rfl⟩ := List.mem_map.mp hpiece
      rw [Java.join, joinWith_cons_cons, joinWith_singleton]
      refine ⟨by simp, ?_⟩
      have hlabel := labelText_no_separator (Or.inr rfl) (marked ecc)
      simp [hfree ecc hecc, hlabel]
    have hne : (numbers.map fun ecc =>
        Java.join ',' [ecc, labelText (marked ecc)]) ≠ [] := by
      simpa using hnil
    have htext : networkText marked numbers ≠ [] :=
      joinWith_ne_nil hne fun piece hpiece => (htokens piece hpiece).1
    rw [networkEntries, if_neg htext]
    have hsplit : Java.split (networkText marked numbers) ';' =
        numbers.map fun ecc => Java.join ',' [ecc, labelText (marked ecc)] :=
      splitTrim_joinWith_of_tokens hne htokens
    rw [hsplit, List.filterMap_map]
    rw [← List.filterMap_eq_map]
    apply List.filterMap_congr
    intro ecc hecc
    exact networkEntry_label (hfree ecc hecc).1 (marked ecc)

section Relabel

variable (d : Device) (network : JString → Bool) (customized : ℕ → Bool)

theorem networkEntries_relabel :
    networkEntries
        ((relabel d network customized).props .eccServiceCategoryList) =
      (networkNumbers d).map fun ecc => (ecc, labelText (network ecc)) := by
  simp only [relabel, Function.update_self]
  exact networkEntries_networkText network
    fun ecc hecc => networkNumbers_no_separator hecc

theorem sameNumbers_relabel :
    SameNumbers d (relabel d network customized) where
  network := by
    rw [networkNumbers, networkEntries_relabel, List.map_map]
    exact List.map_id _
  sim := by simp [relabel]
  sim1 := by simp [relabel]
  customized := by
    apply List.ext_getElem?
    intro i
    simp only [relabel, List.getElem?_map, List.getElem?_mapIdx,
      Option.map_map]
    rfl

theorem categoriesDecimal_relabel :
    CategoriesDecimal (relabel d network customized) := by
  constructor
  · intro entry hentry
    rw [networkEntries_relabel] at hentry
    obtain ⟨ecc, -, rfl⟩ := List.mem_map.mp hentry
    exact ⟨_, parseInt_labelText _⟩
  · intro eccEntry hentry
    obtain ⟨i, hi, rfl⟩ := List.mem_mapIdx.mp hentry
    exact ⟨_, parseInt_labelText _⟩

/-- A search in the relabelled customised list yields the label of the place
where it stops. -/
theorem find?_relabel {p : EccEntry → Bool} {i : ℕ}
    (hidx : (relabel d network customized).customizedEccList.findIdx? p =
      some i) :
    ∃ eccEntry,
      (relabel d network customized).customizedEccList.find? p =
        some eccEntry ∧
      eccEntry.mCategory = labelText (customized i) := by
  rw [List.find?_eq_bind_findIdx?_getElem?, hidx, Option.bind_some]
  obtain ⟨hlt, -⟩ := List.findIdx?_eq_some_iff_getElem.mp hidx
  refine ⟨_, List.getElem?_eq_getElem hlt, ?_⟩
  simp [relabel]

/-- The category search on the relabelled customised list. -/
theorem customizedCategory_relabel (number : JString) :
    customizedCategory number
        (relabel d network customized).customizedEccList =
      .ok (match matchIdx d number with
        | some i => labelValue (customized i)
        | none => 0) := by
  have hsame := sameNumbers_relabel d network customized
  rw [customizedCategory_eq, ← hsame.matchIdx_eq]
  cases hidx : matchIdx (relabel d network customized) number with
  | none =>
      rw [matchIdx] at hidx
      rw [List.find?_eq_bind_findIdx?_getElem?, hidx]
      rfl
  | some i =>
      obtain ⟨eccEntry, hfind, hcategory⟩ :=
        find?_relabel d network customized hidx
      rw [hfind]
      simp only [hcategory, parseInt_labelText]

/-- The category a number is to be sent with, if only the relabelled customised
list knows it. -/
theorem categoryOf_relabel_of_not_network
    {number : JString} (hnetwork : networkMatches d number = false) {c : ℤ}
    (hc : CategoryOf (relabel d network customized) number c) :
    c = match eligibleIdx d number with
      | some i => labelValue (customized i)
      | none => 0 := by
  have hsame := sameNumbers_relabel d network customized
  rw [CategoryOf, hsame.networkMatches_eq, hnetwork] at hc
  simp only [Bool.false_eq_true, if_false] at hc
  rw [← hsame.eligibleIdx_eq]
  cases hidx : eligibleIdx (relabel d network customized) number with
  | none =>
      rw [eligibleIdx] at hidx
      rw [List.find?_eq_bind_findIdx?_getElem?, hidx] at hc
      exact hc
  | some i =>
      obtain ⟨eccEntry, hfind, hcategory⟩ :=
        find?_relabel d network customized hidx
      rw [hfind] at hc
      simp only [hcategory, parseInt_labelText] at hc
      exact (Except.ok.inj hc).symm

/-- The category a number is to be sent with, if a network number matches. -/
theorem categoryOf_relabel_of_network
    {number : JString} (hnetwork : networkMatches d number = true) {c : ℤ}
    (hc : CategoryOf (relabel d network customized) number c) :
    ∃ ecc ∈ networkNumbers d, matchesNumber number ecc = true ∧
      c = labelValue (network ecc) := by
  have hsame := sameNumbers_relabel d network customized
  rw [CategoryOf, hsame.networkMatches_eq, if_pos hnetwork,
    networkEntries_relabel] at hc
  obtain ⟨entry, hentry, hmatch, hvalue⟩ := hc
  obtain ⟨ecc, hecc, rfl⟩ := List.mem_map.mp hentry
  rw [parseInt_labelText] at hvalue
  exact ⟨ecc, hecc, hmatch, (Except.ok.inj hvalue).symm⟩

/-- Every network number has its label in the map left by the classifier. -/
theorem lookup_relabel {key : JString} (hkey : key ∈ networkNumbers d) :
    (withNetworkMap (relabel d network customized)).networkEccCategory.lookup
      key = some (labelValue (network key)) := by
  have hwf := (categoriesDecimal_relabel d network customized).1
  have hmem : key ∈
      (withNetworkMap (relabel d network customized)).networkEccCategory := by
    rw [withNetworkMap, mem_networkMap hwf]
    right
    rw [← (sameNumbers_relabel d network customized).network] at hkey
    exact hkey
  obtain ⟨c, hc⟩ := Option.isSome_iff_exists.mp (AList.lookup_isSome.mpr hmem)
  rcases lookup_networkMap hc with hempty | ⟨entry, hentry, rfl, hvalue⟩
  · simp at hempty
  · rw [networkEntries_relabel] at hentry
    obtain ⟨ecc, -, rfl⟩ := List.mem_map.mp hentry
    rw [parseInt_labelText] at hvalue
    rw [hc, Except.ok.inj hvalue]

/-- The category search on the relabelled device, if a network number matches
the address. -/
theorem getServiceCategoryFromEcc_relabel_of_network
    (P : Platform) {address : JString}
    (hnetwork : networkMatches d address = true) :
    ∃ key, matchesNumber address key = true ∧
      (getServiceCategoryFromEcc P (some address)).run
          (withNetworkMap (relabel d network customized)) =
        .ok (labelValue (network key))
          (withNetworkMap (relabel d network customized)) := by
  have hwf := (categoriesDecimal_relabel d network customized).1
  rw [← (sameNumbers_relabel d network customized).networkMatches_eq]
    at hnetwork
  obtain ⟨c, hfound, hrun⟩ :=
    getServiceCategoryFromEcc_of_network hwf P hnetwork
  obtain ⟨entry, hentry, hmatch, hvalue⟩ :=
    networkCategory_withNetworkMap_some hfound
  rw [networkEntries_relabel] at hentry
  obtain ⟨ecc, -, rfl⟩ := List.mem_map.mp hentry
  rw [parseInt_labelText] at hvalue
  refine ⟨ecc, hmatch, ?_⟩
  rw [hrun, Except.ok.inj hvalue]

theorem getServiceCategoryFromEcc_relabel_of_not_network
    (P : Platform) {address : JString}
    (hnetwork : networkMatches d address = false) :
    (getServiceCategoryFromEcc P (some address)).run
        (withNetworkMap (relabel d network customized)) =
      .ok (match matchIdx d address with
          | some i => labelValue (customized i)
          | none => 0)
        (withNetworkMap (relabel d network customized)) := by
  have hwf := (categoriesDecimal_relabel d network customized).1
  rw [← (sameNumbers_relabel d network customized).networkMatches_eq]
    at hnetwork
  rw [getServiceCategoryFromEcc_of_not_network hwf P hnetwork,
    customizedCategory_relabel]

end Relabel

/-- A platform whose maps list a given key first. -/
def listingFirst (number key : JString) : Platform where
  extractNetworkPortionAlt _ := number
  keySet keys := if key ∈ keys then key :: keys.erase key else keys
  keySet_perm keys := by
    by_cases hkey : key ∈ keys
    · rw [if_pos hkey]
      exact (List.perm_cons_erase hkey).symm
    · rw [if_neg hkey]

/-- If the key listed first matches the address, its category is found. -/
theorem networkCategory_listingFirst
    {map : Java.HashMap} {address key : JString} {c : ℤ} (number : JString)
    (hmatch : matchesNumber address key = true)
    (hlookup : map.lookup key = some c) :
    networkCategory (listingFirst number key) address map = some c := by
  have hkey : key ∈ map.keys := by
    rw [← AList.mem_keys, ← AList.lookup_isSome, hlookup]
    rfl
  simp only [networkCategory, listingFirst, if_pos hkey,
    List.findSome?_cons, if_pos hmatch, hlookup]

/-! ## Agreement is necessary -/

/-- The category search finds the category of the entry which made `number` an
emergency number, in whatever order the network map lists its keys and
whatever the categories are. -/
def FindsCategory (d : Device) (address number : JString) : Prop :=
  ∀ (P : Platform) (d' : Device),
    P.extractNetworkPortionAlt address = number →
    SameNumbers d d' → CategoriesDecimal d' →
      ∃ c,
        (getServiceCategoryFromEcc P (some address)).run
            (withNetworkMap d') =
          .ok c (withNetworkMap d') ∧ CategoryOf d' number c

section Necessity

variable {d : Device} {address number : JString}

/-- The instance of `FindsCategory` for a relabelled device. -/
theorem FindsCategory.relabel
    (h : FindsCategory d address number) (key : JString)
    (network : JString → Bool) (customized : ℕ → Bool) :
    ∃ c,
      (getServiceCategoryFromEcc (listingFirst number key) (some address)).run
          (withNetworkMap (relabel d network customized)) =
        .ok c (withNetworkMap (relabel d network customized)) ∧
      CategoryOf (Ecc.relabel d network customized) number c :=
  h (listingFirst number key) _ rfl
    (sameNumbers_relabel d network customized)
    (categoriesDecimal_relabel d network customized)

theorem FindsCategory.networkMatches_address
    (h : FindsCategory d address number)
    (hnetwork : networkMatches d number = true) :
    networkMatches d address = true := by
  by_contra haddress
  rw [Bool.not_eq_true] at haddress
  obtain ⟨c, hrun, hc⟩ := h.relabel [] (fun _ => false) (fun _ => true)
  rw [getServiceCategoryFromEcc_relabel_of_not_network _ _ _ _ haddress]
    at hrun
  obtain ⟨ecc, -, -, hvalue⟩ := categoryOf_relabel_of_network _ _ _ hnetwork hc
  injection hrun with hcode
  rw [hvalue] at hcode
  cases hidx : matchIdx d address with
  | none => simp [hidx, labelValue] at hcode
  | some i => simp [hidx, labelValue] at hcode

theorem FindsCategory.matchesNumber_of_address
    (h : FindsCategory d address number)
    (hnetwork : networkMatches d number = true)
    {key : JString} (hkey : key ∈ networkNumbers d)
    (hmatch : matchesNumber address key = true) :
    matchesNumber number key = true := by
  by_contra hnot
  obtain ⟨c, hrun, hc⟩ :=
    h.relabel key (fun ecc => ecc == key) (fun _ => false)
  have hfound := networkCategory_listingFirst number hmatch
    (lookup_relabel d (fun ecc => ecc == key) (fun _ => false) hkey)
  simp only [getServiceCategoryFromEcc, EStateM.run_bind, EStateM.run_get,
    hfound, EStateM.run_pure] at hrun
  injection hrun with hcode
  obtain ⟨ecc, -, hecc, hvalue⟩ :=
    categoryOf_relabel_of_network _ _ _ hnetwork hc
  by_cases heq : ecc = key
  · subst ecc
    exact hnot hecc
  · rw [hvalue] at hcode
    simp [labelValue, heq] at hcode

theorem FindsCategory.not_networkMatches_address
    (h : FindsCategory d address number)
    (hnetwork : networkMatches d number = false) :
    networkMatches d address = false := by
  by_contra haddress
  rw [Bool.not_eq_false] at haddress
  obtain ⟨c, hrun, hc⟩ := h.relabel [] (fun _ => false) (fun _ => true)
  obtain ⟨key, -, hfound⟩ :=
    getServiceCategoryFromEcc_relabel_of_network d (fun _ => false)
      (fun _ => true) (listingFirst number []) haddress
  rw [hfound] at hrun
  injection hrun with hcode
  have hvalue := categoryOf_relabel_of_not_network _ _ _ hnetwork hc
  rw [hvalue] at hcode
  cases hidx : eligibleIdx d number with
  | none => simp [hidx, labelValue] at hcode
  | some i => simp [hidx, labelValue] at hcode

theorem FindsCategory.matchIdx_eq
    (h : FindsCategory d address number)
    (hnetwork : networkMatches d number = false) :
    matchIdx d address = eligibleIdx d number := by
  obtain ⟨c, hrun, hc⟩ :=
    h.relabel [] (fun _ => false) (fun i => matchIdx d address == some i)
  rw [getServiceCategoryFromEcc_relabel_of_not_network _ _ _ _
    (h.not_networkMatches_address hnetwork)] at hrun
  injection hrun with hcode
  have hvalue := categoryOf_relabel_of_not_network _ _ _ hnetwork hc
  rw [hvalue] at hcode
  cases hmatch : matchIdx d address with
  | none =>
      cases heligible : eligibleIdx d number with
      | none => rfl
      | some j => simp [hmatch, heligible, labelValue] at hcode
  | some i =>
      cases heligible : eligibleIdx d number with
      | none => simp [hmatch, heligible, labelValue] at hcode
      | some j =>
          by_cases hij : i = j
          · rw [hij]
          · simp [hmatch, heligible, labelValue, hij] at hcode

end Necessity

/-- The searches agree exactly if the category found is right for all key
orders and all categories. -/
theorem findsCategory_iff_searchesAgree
    (d : Device) (address number : JString) :
    FindsCategory d address number ↔ SearchesAgree d address number := by
  constructor
  · intro h
    rw [SearchesAgree]
    cases hnetwork : networkMatches d number with
    | true =>
        rw [if_pos rfl]
        refine ⟨h.networkMatches_address hnetwork, ?_⟩
        intro key hkey hmatch
        exact h.matchesNumber_of_address hnetwork hkey hmatch
    | false =>
        rw [if_neg Bool.false_ne_true]
        exact ⟨h.not_networkMatches_address hnetwork, h.matchIdx_eq hnetwork⟩
  · intro hagree P d' _ hsame hdecimal
    exact categoryOf_of_searchesAgree hdecimal P
      ((hsame.searchesAgree_iff address number).mpr hagree)

end SmartSurf.Ecc
