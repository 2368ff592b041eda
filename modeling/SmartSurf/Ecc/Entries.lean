import SmartSurf.Platform.Java

/-!
# The customised emergency number list

`MtkEccList.parseEccList` reads `/system/etc/ecc_list.xml` with a pull parser
and, on devices with `ro.mtk_cta_set=1`, overlays four fixed numbers.  The
parser is seen through the events it delivers: it may be missing, fail before
the first event, or fail at any later call.
-/

namespace SmartSurf.Ecc

/-- `MtkEccList.EccEntry`; an attribute that the file does not give stays the
empty string. -/
structure EccEntry where
  mEcc : JString := []
  mCategory : JString := []
  mCondition : JString := []
  deriving DecidableEq, Repr

/-- `EccEntry.ECC_NO_SIM`. -/
def eccNoSim : JString := "0".toList

/-- `EccEntry.ECC_FOR_MMI`. -/
def eccForMmi : JString := "2".toList

def eccEntryTag : JString := "EccEntry".toList

def eccAttr : JString := "Ecc".toList

def categoryAttr : JString := "Category".toList

def conditionAttr : JString := "Condition".toList

/-- The pull-parser events; text, comments and the like are `other`. -/
inductive XmlEvent where
  | startTag (name : JString) (attributes : List (JString × JString))
  | endTag (name : JString)
  | other
  deriving DecidableEq, Repr

/-- What `parseEccList` gets to see of the file.  `noParser` is the case of
`newPullParser()` returning null, `unreadable` an exception before the first
event.  After the events listed by `events` the document ends normally when
`complete` holds; otherwise the next call of the parser or the closing of the
reader throws. -/
inductive EccListFile where
  | noParser
  | unreadable
  | events (evs : List XmlEvent) (complete : Bool)
  deriving DecidableEq, Repr

/-! ## The parser loop -/

/-- One attribute of an `EccEntry` element. -/
def setAttribute (record : EccEntry) (nameValue : JString × JString) :
    EccEntry :=
  if nameValue.1 = eccAttr then
    { record with mEcc := nameValue.2 }
  else if nameValue.1 = categoryAttr then
    { record with mCategory := nameValue.2 }
  else if nameValue.1 = conditionAttr then
    { record with mCondition := nameValue.2 }
  else
    record

/-- Locals of the parser loop: `record`, which is never reset, and the list
filled so far. -/
structure ParserState where
  record : Option EccEntry := none
  mCustomizedEccList : List EccEntry := []
  deriving DecidableEq, Repr

/-- The body of the event loop. -/
def parseEvent (st : ParserState) : XmlEvent → ParserState
  | .startTag name attributes =>
      if name = eccEntryTag then
        { st with record := some (attributes.foldl setAttribute {}) }
      else
        st
  | .endTag name =>
      match st.record with
      | some record =>
          if name = eccEntryTag then
            { st with
              mCustomizedEccList := st.mCustomizedEccList ++ [record] }
          else
            st
      | none => st
  | .other => st

/-- The list after the events of a file. -/
def parseEvents (evs : List XmlEvent) : List EccEntry :=
  (evs.foldl parseEvent {}).mCustomizedEccList

/-! ## The overlay of the CTA numbers -/

def emergencyCtaList : List JString :=
  ["120".toList, "122".toList, "110".toList, "119".toList]

/-- The record the overlay writes for a number. -/
def ctaEntry (emergencyNum : JString) : EccEntry where
  mEcc := emergencyNum
  mCategory := "0".toList
  mCondition := eccForMmi

/-- One round of the overlay: replace the first entry with the number, or
append the record. -/
def overlayNumber (list : List EccEntry) (emergencyNum : JString) :
    List EccEntry :=
  match list.findIdx? (fun eccEntry => eccEntry.mEcc == emergencyNum) with
  | some nIndex => list.set nIndex (ctaEntry emergencyNum)
  | none => list ++ [ctaEntry emergencyNum]

def overlayCta (list : List EccEntry) : List EccEntry :=
  emergencyCtaList.foldl overlayNumber list

/-- `MtkEccList.parseEccList`.  Every exception is caught by the function
itself; the overlay stands inside the guarded block and is skipped then. -/
def parseEccList (sIsCtaSet : Bool) : EccListFile → List EccEntry
  | .noParser => []
  | .unreadable => []
  | .events evs complete =>
      if complete && sIsCtaSet then
        overlayCta (parseEvents evs)
      else
        parseEvents evs

/-! ## Entries present after the overlay -/

theorem ctaEntry_mem_overlayNumber
    (list : List EccEntry) (emergencyNum : JString) :
    ctaEntry emergencyNum ∈ overlayNumber list emergencyNum := by
  unfold overlayNumber
  split
  next nIndex hfound =>
    have hlt := (List.findIdx?_eq_some_iff_getElem.mp hfound).1
    exact List.mem_set hlt _
  next => simp

/-- A CTA record stays in place while other numbers are overlaid. -/
theorem ctaEntry_mem_overlayNumber_of_mem
    {list : List EccEntry} {m : JString} (hm : ctaEntry m ∈ list)
    (emergencyNum : JString) :
    ctaEntry m ∈ overlayNumber list emergencyNum := by
  by_cases heq : m = emergencyNum
  · subst m
    exact ctaEntry_mem_overlayNumber list emergencyNum
  · unfold overlayNumber
    split
    next nIndex hfound =>
      obtain ⟨hlt, hecc, -⟩ := List.findIdx?_eq_some_iff_getElem.mp hfound
      obtain ⟨i, hi, hget⟩ := List.getElem_of_mem hm
      have hne : nIndex ≠ i := by
        rintro rfl
        rw [hget] at hecc
        exact heq (by simpa [ctaEntry] using hecc)
      rw [← hget, ← List.getElem_set_ne hne (a := ctaEntry emergencyNum)
        (by simpa using hi)]
      exact List.getElem_mem _
    next => exact List.mem_append_left _ hm

/-- After overlaying a list of numbers, each of them has its CTA record. -/
theorem ctaEntry_mem_foldl_overlayNumber
    {numbers : List JString} {m : JString} (hm : m ∈ numbers)
    (list : List EccEntry) :
    ctaEntry m ∈ numbers.foldl overlayNumber list := by
  have hkept : ∀ (rest : List JString) (l : List EccEntry),
      ctaEntry m ∈ l → ctaEntry m ∈ rest.foldl overlayNumber l := by
    intro rest
    induction rest with
    | nil => exact fun l hl => hl
    | cons n rest ih =>
        intro l hl
        exact ih _ (ctaEntry_mem_overlayNumber_of_mem hl n)
  induction numbers generalizing list with
  | nil => cases hm
  | cons n numbers ih =>
      rcases List.mem_cons.mp hm with rfl | hrest
      · exact hkept numbers _ (ctaEntry_mem_overlayNumber list m)
      · exact ih hrest _

/-- A parse that runs to the end leaves a CTA record for each CTA number. -/
theorem ctaEntry_mem_parseEccList
    {m : JString} (hm : m ∈ emergencyCtaList) (evs : List XmlEvent) :
    ctaEntry m ∈ parseEccList true (.events evs true) := by
  simp only [parseEccList, Bool.and_self, if_true]
  exact ctaEntry_mem_foldl_overlayNumber hm _

end SmartSurf.Ecc
