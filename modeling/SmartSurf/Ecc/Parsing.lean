import SmartSurf.Ecc.Entries

/-!
# Reading the customised list from a document

A document is a forest of elements, and the pull parser delivers its tags in
order.  The parser loop keeps one record across all events.  As long as the
elements `EccEntry` are not nested, that record is the one of the element whose
end has been reached, and the list has one entry for each element.
-/

namespace SmartSurf.Ecc

/-! ## Documents -/

/-- A sequence of elements; texts, comments and the like are `other`. -/
inductive Forest where
  | nil
  | other (rest : Forest)
  | element (name : JString) (attributes : List (JString × JString))
      (children rest : Forest)

namespace Forest

/-- The events of a document. -/
def events : Forest → List XmlEvent
  | .nil => []
  | .other rest => .other :: rest.events
  | .element name attributes children rest =>
      .startTag name attributes ::
        (children.events ++ .endTag name :: rest.events)

/-- No element has two attributes of the same name. -/
def AttributesUnique : Forest → Prop
  | .nil => True
  | .other rest => rest.AttributesUnique
  | .element _ attributes children rest =>
      (attributes.map Prod.fst).Nodup ∧ children.AttributesUnique ∧
        rest.AttributesUnique

/-- There is an element `EccEntry`. -/
def HasEntry : Forest → Prop
  | .nil => False
  | .other rest => rest.HasEntry
  | .element name _ children rest =>
      name = eccEntryTag ∨ children.HasEntry ∨ rest.HasEntry

/-- No element `EccEntry` is inside another. -/
def NotNested : Forest → Prop
  | .nil => True
  | .other rest => rest.NotNested
  | .element name _ children rest =>
      (name = eccEntryTag → ¬children.HasEntry) ∧ children.NotNested ∧
        rest.NotNested

instance decidableAttributesUnique :
    (doc : Forest) → Decidable doc.AttributesUnique
  | .nil => inferInstanceAs (Decidable True)
  | .other rest => decidableAttributesUnique rest
  | .element _ _ children rest =>
      have := decidableAttributesUnique children
      have := decidableAttributesUnique rest
      inferInstanceAs (Decidable (_ ∧ _ ∧ _))

instance decidableHasEntry : (doc : Forest) → Decidable doc.HasEntry
  | .nil => inferInstanceAs (Decidable False)
  | .other rest => decidableHasEntry rest
  | .element _ _ children rest =>
      have := decidableHasEntry children
      have := decidableHasEntry rest
      inferInstanceAs (Decidable (_ ∨ _ ∨ _))

instance decidableNotNested : (doc : Forest) → Decidable doc.NotNested
  | .nil => inferInstanceAs (Decidable True)
  | .other rest => decidableNotNested rest
  | .element _ _ children rest =>
      have := decidableNotNested children
      have := decidableNotNested rest
      inferInstanceAs (Decidable (_ ∧ _ ∧ _))

end Forest

/-- The value of an attribute, or the empty string. -/
def attributeValue (name : JString) (attributes : List (JString × JString)) :
    JString :=
  (attributes.lookup name).getD []

/-- The entry with the attributes of an element. -/
def entryOf (attributes : List (JString × JString)) : EccEntry where
  mEcc := attributeValue eccAttr attributes
  mCategory := attributeValue categoryAttr attributes
  mCondition := attributeValue conditionAttr attributes

/-- One entry for each element `EccEntry`, in the order of the document. -/
def Forest.entries : Forest → List EccEntry
  | .nil => []
  | .other rest => rest.entries
  | .element name attributes children rest =>
      (if name = eccEntryTag then [entryOf attributes] else []) ++
        children.entries ++ rest.entries

/-! ## The attributes of an element -/

theorem lookup_of_not_mem
    {name : JString} {attributes : List (JString × JString)}
    (h : name ∉ attributes.map Prod.fst) :
    attributes.lookup name = none := by
  rw [List.lookup_eq_none_iff]
  intro nameValue hmem
  rw [bne_iff_ne]
  rintro rfl
  exact h (List.mem_map_of_mem hmem)

/-- The record after the first attribute has been assigned. -/
theorem setAttribute_eq (record : EccEntry) (name value : JString) :
    setAttribute record (name, value) =
      { mEcc := if eccAttr = name then value else record.mEcc
        mCategory := if categoryAttr = name then value else record.mCategory
        mCondition :=
          if conditionAttr = name then value else record.mCondition } := by
  by_cases hecc : name = eccAttr
  · subst hecc
    rfl
  · by_cases hcategory : name = categoryAttr
    · subst hcategory
      rfl
    · by_cases hcondition : name = conditionAttr
      · subst hcondition
        rfl
      · simp [setAttribute, hecc, hcategory, hcondition, Ne.symm hecc,
          Ne.symm hcategory, Ne.symm hcondition]

/-- An attribute in front is the one that counts, if it is the only one. -/
theorem getD_lookup_cons
    {name value : JString} {attributes : List (JString × JString)}
    (hunique : name ∉ attributes.map Prod.fst) (key before : JString) :
    (((name, value) :: attributes).lookup key).getD before =
      (attributes.lookup key).getD (if key = name then value else before) := by
  by_cases hkey : key = name
  · subst hkey
    rw [List.lookup_cons_self, lookup_of_not_mem hunique, if_pos rfl]
    rfl
  · rw [List.lookup_cons, beq_false_of_ne hkey, if_neg hkey]

/-- The loop over the attributes of an element. -/
theorem foldl_setAttribute
    {attributes : List (JString × JString)}
    (hunique : (attributes.map Prod.fst).Nodup) (record : EccEntry) :
    attributes.foldl setAttribute record =
      { mEcc := (attributes.lookup eccAttr).getD record.mEcc
        mCategory := (attributes.lookup categoryAttr).getD record.mCategory
        mCondition :=
          (attributes.lookup conditionAttr).getD record.mCondition } := by
  induction attributes generalizing record with
  | nil => rfl
  | cons nameValue attributes ih =>
      obtain ⟨name, value⟩ := nameValue
      obtain ⟨hfirst, hrest⟩ := List.nodup_cons.mp hunique
      rw [List.foldl_cons, ih hrest, setAttribute_eq, getD_lookup_cons hfirst,
        getD_lookup_cons hfirst, getD_lookup_cons hfirst]

theorem foldl_setAttribute_eq_entryOf
    {attributes : List (JString × JString)}
    (hunique : (attributes.map Prod.fst).Nodup) :
    attributes.foldl setAttribute {} = entryOf attributes :=
  foldl_setAttribute hunique {}

/-! ## The events of a document -/

theorem parseEvent_endTag_of_ne
    {name : JString} (hname : name ≠ eccEntryTag) (st : ParserState) :
    parseEvent st (.endTag name) = st := by
  rcases st with ⟨_ | record, list⟩
  · rfl
  · simp [parseEvent, hname]

/-- Without an element `EccEntry` the parser state does not change. -/
theorem foldl_parseEvent_of_not_hasEntry
    {doc : Forest} (h : ¬doc.HasEntry) (st : ParserState) :
    doc.events.foldl parseEvent st = st := by
  induction doc generalizing st with
  | nil => rfl
  | other rest ih => exact ih h st
  | element name attributes children rest ihchildren ihrest =>
      simp only [Forest.HasEntry, not_or] at h
      obtain ⟨hname, hchildren, hrest⟩ := h
      rw [Forest.events, List.foldl_cons, List.foldl_append, List.foldl_cons,
        parseEvent_endTag_of_ne hname, parseEvent, if_neg hname,
        ihchildren hchildren, ihrest hrest]

theorem entries_of_not_hasEntry {doc : Forest} (h : ¬doc.HasEntry) :
    doc.entries = [] := by
  induction doc with
  | nil => rfl
  | other rest ih => exact ih h
  | element name attributes children rest ihchildren ihrest =>
      simp only [Forest.HasEntry, not_or] at h
      rw [Forest.entries, if_neg h.1, ihchildren h.2.1, ihrest h.2.2]
      rfl

/-- The loop appends one entry for each element. -/
theorem foldl_parseEvent
    {doc : Forest} (hunique : doc.AttributesUnique) (hnested : doc.NotNested)
    (st : ParserState) :
    (doc.events.foldl parseEvent st).mCustomizedEccList =
      st.mCustomizedEccList ++ doc.entries := by
  induction doc generalizing st with
  | nil => simp [Forest.events, Forest.entries]
  | other rest ih => exact ih hunique hnested st
  | element name attributes children rest ihchildren ihrest =>
      obtain ⟨hattributes, huchildren, hurest⟩ := hunique
      obtain ⟨hinside, hnchildren, hnrest⟩ := hnested
      rw [Forest.events, List.foldl_cons, List.foldl_append, List.foldl_cons,
        ihrest hurest hnrest, Forest.entries]
      by_cases hname : name = eccEntryTag
      · have hchildren := hinside hname
        rw [parseEvent, if_pos hname, foldl_setAttribute_eq_entryOf hattributes,
          foldl_parseEvent_of_not_hasEntry hchildren,
          entries_of_not_hasEntry hchildren]
        simp [parseEvent, hname]
      · rw [parseEvent_endTag_of_ne hname, parseEvent, if_neg hname,
          ihchildren huchildren hnchildren, if_neg hname, List.nil_append,
          List.append_assoc]

theorem parseEvents_eq_entries
    {doc : Forest} (hunique : doc.AttributesUnique)
    (hnested : doc.NotNested) :
    parseEvents doc.events = doc.entries := by
  rw [parseEvents, foldl_parseEvent hunique hnested]
  rfl

/-! ## The overlay -/

/-- The first entry with the number is replaced by the CTA record, or the
record is appended if there is none. -/
def Overlaid (list : List EccEntry) (emergencyNum : JString)
    (result : List EccEntry) : Prop :=
  (∃ before eccEntry behind,
      list = before ++ eccEntry :: behind ∧
      (∀ e ∈ before, e.mEcc ≠ emergencyNum) ∧
      eccEntry.mEcc = emergencyNum ∧
      result = before ++
        { mEcc := emergencyNum, mCategory := "0".toList,
          mCondition := eccForMmi } :: behind) ∨
    ((∀ e ∈ list, e.mEcc ≠ emergencyNum) ∧
      result = list ++
        [{ mEcc := emergencyNum, mCategory := "0".toList,
           mCondition := eccForMmi }])

theorem overlaid_overlayNumber
    (list : List EccEntry) (emergencyNum : JString) :
    Overlaid list emergencyNum (overlayNumber list emergencyNum) := by
  rw [overlayNumber]
  rcases hfind : list.findIdx?
      (fun eccEntry => eccEntry.mEcc == emergencyNum) with _ | nIndex
  · rw [hfind]
    refine .inr ⟨?_, rfl⟩
    intro e he
    simpa using List.findIdx?_eq_none_iff.mp hfind e he
  · rw [hfind]
    left
    obtain ⟨hlt, hecc, hbefore⟩ := List.findIdx?_eq_some_iff_getElem.mp hfind
    refine ⟨list.take nIndex, list[nIndex], list.drop (nIndex + 1), ?_, ?_,
      ?_, ?_⟩
    · rw [← List.drop_eq_getElem_cons hlt, List.take_append_drop]
    · intro e he
      obtain ⟨j, hj, rfl⟩ := List.getElem_of_mem he
      have hlow : j < nIndex :=
        Nat.lt_of_lt_of_le hj (List.length_take_le nIndex list)
      rw [List.getElem_take]
      simpa using hbefore j hlow
    · simpa using hecc
    · change list.set nIndex (ctaEntry emergencyNum) = _
      rw [List.set_eq_take_append_cons_drop, if_pos hlt]
      rfl

/-- For every document whose elements `EccEntry` are not nested, the list has
one entry for each element in the order of the document, and the CTA numbers
are overlaid one after the other. -/
theorem parseEccList_entries
    {doc : Forest} (hunique : doc.AttributesUnique)
    (hnested : doc.NotNested) :
    parseEccList false (.events doc.events true) = doc.entries ∧
      ∃ with120 with122 with110,
        Overlaid doc.entries "120".toList with120 ∧
        Overlaid with120 "122".toList with122 ∧
        Overlaid with122 "110".toList with110 ∧
        Overlaid with110 "119".toList
          (parseEccList true (.events doc.events true)) := by
  have hparse := parseEvents_eq_entries hunique hnested
  refine ⟨hparse, _, _, _, overlaid_overlayNumber _ _,
    overlaid_overlayNumber _ _, overlaid_overlayNumber _ _, ?_⟩
  rw [← hparse]
  exact overlaid_overlayNumber _ _

/-- A table with two entries, one with its attributes in another order and an
element inside. -/
def sampleTable : Forest :=
  .element "EccTable".toList []
    (.other (.element eccEntryTag
      [(eccAttr, "112".toList), (categoryAttr, "1".toList),
        (conditionAttr, "1".toList)] .nil
      (.element eccEntryTag
        [(conditionAttr, "0".toList), (eccAttr, "110".toList)]
        (.element "Note".toList [] .nil .nil) .nil)))
    .nil

theorem parseEccList_of_sampleTable :
    parseEccList false (.events sampleTable.events true) =
        [⟨"112".toList, "1".toList, "1".toList⟩,
          ⟨"110".toList, [], "0".toList⟩] ∧
      ∃ with120 with122 with110,
        Overlaid sampleTable.entries "120".toList with120 ∧
        Overlaid with120 "122".toList with122 ∧
        Overlaid with122 "110".toList with110 ∧
        Overlaid with110 "119".toList
          (parseEccList true (.events sampleTable.events true)) := by
  have hunique : sampleTable.AttributesUnique := by
    decide +kernel
  have hnested : sampleTable.NotNested := by
    decide +kernel
  exact parseEccList_entries hunique hnested

end SmartSurf.Ecc
