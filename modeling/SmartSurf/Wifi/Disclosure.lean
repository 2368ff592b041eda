import SmartSurf.Wifi.Statistics

/-!
# What the statistics reports disclose

The records that the two commands print are local variables without an initial
value.  A report is independent of what was on the stack exactly when every
field it shows has been stored by the answer of the driver, up to the end of
the buffer.
-/

namespace SmartSurf.Wifi

open Support C

variable {F : Type}

/-! ## The bytes an answer stores -/

namespace AttrTable

variable (T : AttrTable F)

/-- The bytes stored so far, after one more message. -/
def accumulate (nlaParse : NlaParse) (msg : NlMsg) (w : F → List UInt8) :
    F → List UInt8 :=
  fun f => overwrite (T.written nlaParse msg f) (w f)

/-- The bytes of each field that the answer to a request stores. -/
def stored (cfg : Config) (E : Exchange) (f : F) : List UInt8 :=
  match testmode (T.accumulate E.nlaParse) cfg E fun _ => [] with
  | none => []
  | some (w, _) => w f

end AttrTable

/-- A record with the stored bytes in front. -/
def storeAll (w : F → List UInt8) (record : Record F) : Record F :=
  fun f => store (record f) 0 (w f)

/-- The handler puts the stored bytes over whatever was in the record. -/
theorem testmode_handler_eq
    (T : AttrTable F) {cfg : Config} {E : Exchange} {ret : ℤ}
    (hret : testmodeValue cfg E = some ret) (record : Record F) :
    testmode (T.handler E.nlaParse) cfg E record =
      some (storeAll (T.stored cfg E) record, ret) := by
  have hstep : ∀ msg w, storeAll (T.accumulate E.nlaParse msg w) record =
      T.handler E.nlaParse msg (storeAll w record) := by
    intro msg w
    funext f
    exact (store_store (record f) 0 (T.written E.nlaParse msg f) (w f)).symm
  have hinit : storeAll (fun _ => []) record = record := by
    funext f
    exact store_nil (record f) 0
  obtain ⟨w, hw⟩ := exists_testmode_of_value (T.accumulate E.nlaParse) hret
    fun _ => []
  have hmap := testmode_map (f := fun w => storeAll w record) hstep cfg E
    fun _ => []
  have hstored : T.stored cfg E = w := by
    funext f
    rw [AttrTable.stored, hw]
  rw [hinit, hw] at hmap
  rw [hmap, hstored]
  rfl

theorem stored_invariant
    (T : AttrTable F) {E : Exchange} {I : List UInt8 → Prop} (hnil : I [])
    (hoverwrite : ∀ msg f bytes, I bytes →
      I (overwrite (T.written E.nlaParse msg f) bytes))
    (cfg : Config) (f : F) :
    I (T.stored cfg E f) := by
  rw [AttrTable.stored]
  split
  · exact hnil
  next w ret htestmode =>
    exact testmode_invariant (I := fun w : F → List UInt8 => ∀ f, I (w f))
      (fun msg w hw f => hoverwrite msg f (w f) (hw f)) (fun _ => hnil)
      htestmode f

/-! ## Items of a report -/

/-- The bytes that the item shows have all been stored. -/
def Item.Known (w : F → List UInt8) : Item F → Prop
  | .text _ => True
  | .value f offset format => offset + format.width ≤ (w f).length

/-- The item renders to a text that is not empty. -/
def Item.Valid : Item F → Prop
  | .text s => lit s ≠ []
  | .value _ _ format => 0 < format.width

instance (w : F → List UInt8) (item : Item F) : Decidable (item.Known w) :=
  match item with
  | .text _ => inferInstanceAs (Decidable True)
  | .value f offset format =>
      inferInstanceAs (Decidable (offset + format.width ≤ (w f).length))

instance (item : Item F) : Decidable item.Valid :=
  match item with
  | .text s => inferInstanceAs (Decidable (lit s ≠ []))
  | .value _ _ format => inferInstanceAs (Decidable (0 < format.width))

/-- Every field that is shown within the next `m` characters has been stored
completely. -/
def ShowsKnown (w : F → List UInt8) : ℕ → List (Item F) → Prop
  | _, [] => True
  | m, item :: items =>
      m = 0 ∨ (item.Known w ∧
        ShowsKnown w
          (m - (item.render (storeAll w fun _ _ => 0)).length) items)

instance decidableShowsKnown (w : F → List UInt8) :
    (m : ℕ) → (items : List (Item F)) → Decidable (ShowsKnown w m items)
  | _, [] => inferInstanceAs (Decidable True)
  | m, item :: items =>
      have := decidableShowsKnown w
        (m - (item.render (storeAll w fun _ _ => 0)).length) items
      inferInstanceAs (Decidable (m = 0 ∨ (item.Known w ∧ ShowsKnown w _ _)))

/-- The items of a list of calls. -/
def itemsOf (calls : List (Call F)) : List (Item F) :=
  (calls.map Call.items).flatten

/-- An item as a function of what the record held at first. -/
def Item.piece (w : F → List UInt8) (item : Item F) (record : Record F) :
    CText :=
  item.render (storeAll w record)

theorem Item.determined_of_known
    {w : F → List UInt8} {item : Item F} (h : item.Known w) :
    Determined (item.piece w) := by
  intro record record'
  rcases item with s | ⟨f, offset, format⟩
  · rfl
  · have hload : ∀ r : Record F,
        load (storeAll w r f) offset format.width =
          load (storeAll w record f) offset format.width := by
      intro r
      apply load_congr
      intro i hi
      have hlt : offset + i < (w f).length := by
        have hknown : offset + format.width ≤ (w f).length := h
        omega
      have hstore : ∀ r : Record F,
          storeAll w r f (offset + i) = (w f)[offset + i] := by
        intro r
        have hadd := store_add (r f) 0 hlt
        rwa [Nat.zero_add] at hadd
      rw [hstore r, hstore record]
    rw [piece, render, piece, render, hload record']

/-- A field that has not been stored completely shows in its first character
what the record held at first. -/
theorem Item.exposed_of_not_known
    {w : F → List UInt8} {item : Item F} (hvalid : item.Valid)
    (hu64 : ∀ f offset, item = .value f offset .u64 →
      offset = 0 ∧ (w f = [] ∨ 8 ≤ (w f).length))
    (h : ¬item.Known w) :
    Exposed (item.piece w) := by
  rcases item with s | ⟨f, offset, format⟩
  · exact absurd trivial h
  · have hwidth : 0 < format.width := hvalid
    obtain ⟨k, hk⟩ := Nat.exists_eq_add_of_lt hwidth
    rw [Nat.zero_add] at hk
    have hshort : (w f).length ≤ offset + k := by
      have hnot : ¬offset + format.width ≤ (w f).length := h
      omega
    let top : UInt8 → Record F := fun b _ i => if i = offset + k then b else 0
    have hload : ∀ b, load (storeAll w (top b) f) offset format.width =
        load (storeAll w (top 0) f) offset k ++ [b] := by
      intro b
      rw [hk, load_add]
      congr 1
      · apply load_congr
        intro i hi
        have hne : i ≠ k := by omega
        simp [storeAll, store, top, hne]
      · simp only [load, List.range_one, List.map_cons, List.map_nil,
          Nat.add_zero]
        rw [storeAll, store_of_le _ (by omega)]
        simp [top]
    have hzero : format = .u64 →
        load (storeAll w (top 0) f) offset k = List.replicate 7 0 := by
      rintro rfl
      have hk7 : k = 7 := by simpa [Format.width] using hk.symm
      obtain ⟨rfl, hempty | hfull⟩ := hu64 f offset rfl
      · rw [storeAll, hempty, store_nil, hk7]
        simp [load, top]
      · omega
    obtain ⟨a, b, ha, hb, hab⟩ := format.render_top_bit
      (show (load (storeAll w (top 0) f) offset k).length + 1 = format.width by
        rw [length_load]
        exact hk.symm) hzero
    refine ⟨top 0, top 0x80, a, b, ?_, ?_, hab⟩
    · rw [piece, render, hload]
      exact ha
    · rw [piece, render, hload]
      exact hb

/-- Items of which a counter is stored as a whole or not at all. -/
structure Item.Regular (w : F → List UInt8) (item : Item F) : Prop where
  valid : item.Valid
  u64 : ∀ f offset, item = .value f offset .u64 →
    offset = 0 ∧ (w f = [] ∨ 8 ≤ (w f).length)

theorem Item.Regular.determined_or_exposed
    {w : F → List UInt8} {item : Item F} (h : item.Regular w) :
    Determined (item.piece w) ∨ Exposed (item.piece w) := by
  by_cases hknown : item.Known w
  · exact Or.inl (Item.determined_of_known hknown)
  · exact Or.inr (Item.exposed_of_not_known h.valid h.u64 hknown)

theorem Item.Regular.determined_iff
    {w : F → List UInt8} {item : Item F} (h : item.Regular w) :
    Determined (item.piece w) ↔ item.Known w := by
  constructor
  · intro hdet
    by_contra hknown
    obtain ⟨i, j, a, b, ha, hb, hab⟩ :=
      Item.exposed_of_not_known h.valid h.u64 hknown
    rw [hdet i j, hb] at ha
    exact hab (Option.some.inj ha).symm
  · exact Item.determined_of_known

theorem Item.Valid.piece_ne_nil
    {item : Item F} (h : item.Valid) (w : F → List UInt8)
    (record : Record F) :
    item.piece w record ≠ [] := by
  rcases item with s | ⟨f, offset, format⟩
  · exact h
  · apply Format.render_ne_nil
    rw [ne_eq, ← List.length_eq_zero_iff, length_load]
    have hwidth : 0 < format.width := h
    omega

theorem settled_iff_showsKnown
    {w : F → List UInt8} {items : List (Item F)}
    (hitems : ∀ item ∈ items, item.Regular w) (m : ℕ) :
    Settled m (items.map (Item.piece w)) ↔ ShowsKnown w m items := by
  induction items generalizing m with
  | nil => exact Iff.rfl
  | cons item items ih =>
      have hitem := hitems item List.mem_cons_self
      have hrest := ih fun it hit => hitems it (List.mem_cons_of_mem item hit)
      rw [List.map_cons, Settled, ShowsKnown, hitem.determined_iff]
      constructor
      · rintro (hzero | ⟨hknown, hsettled⟩)
        · exact Or.inl hzero
        · exact Or.inr ⟨hknown, (hrest _).mp (hsettled fun _ _ => 0)⟩
      · rintro (hzero | ⟨hknown, hshows⟩)
        · exact Or.inl hzero
        · refine Or.inr ⟨hknown, fun record => (hrest _).mpr ?_⟩
          rw [Item.determined_of_known hknown record fun _ _ => 0]
          exact hshows

/-! ## Reports -/

theorem printRecord_independent_iff
    {w : F → List UInt8} {calls : List (Call F)}
    (hitems : ∀ call ∈ calls, ∀ item ∈ call.items, item.Regular w)
    (full : ℕ → ℕ) (buf : Buffer) (buflen : ℕ) :
    (∀ record record',
      printRecord full calls (storeAll w record) buf buflen =
        printRecord full calls (storeAll w record') buf buflen) ↔
      ShowsKnown w (buflen - 1) (itemsOf calls) := by
  let pieces := calls.map fun call => call.items.map (Item.piece w)
  have hpiece : ∀ c ∈ pieces, ∀ p ∈ c, ∃ item : Item F,
      item.Regular w ∧ p = item.piece w := by
    intro c hc p hp
    obtain ⟨call, hcall, rfl⟩ := List.mem_map.mp hc
    obtain ⟨item, hitem, rfl⟩ := List.mem_map.mp hp
    exact ⟨item, hitems call hcall item hitem, rfl⟩
  have hne : ∀ c ∈ pieces, ∀ p ∈ c, ∀ record, p record ≠ [] := by
    intro c hc p hp record
    obtain ⟨item, hregular, rfl⟩ := hpiece c hc p hp
    exact hregular.valid.piece_ne_nil w record
  have hexposed : ∀ c ∈ pieces, ∀ p ∈ c, Determined p ∨ Exposed p := by
    intro c hc p hp
    obtain ⟨item, hregular, rfl⟩ := hpiece c hc p hp
    exact hregular.determined_or_exposed
  have htexts : ∀ record, (pieces.map fun c => textOf c record) =
      calls.map fun call => call.render (storeAll w record) := by
    intro record
    simp only [pieces, List.map_map]
    apply List.map_congr_left
    intro call _
    simp only [Function.comp_apply, textOf, Call.render, List.map_map]
    rfl
  have hflatten : pieces.flatten = (itemsOf calls).map (Item.piece w) := by
    simp only [pieces, itemsOf, List.map_flatten, List.map_map]
    rfl
  have hregular : ∀ item ∈ itemsOf calls, item.Regular w := by
    intro item hitem
    obtain ⟨items, hmem, hitem⟩ := List.mem_flatten.mp hitem
    obtain ⟨call, hcall, rfl⟩ := List.mem_map.mp hmem
    exact hitems call hcall item hitem
  have hindependent :=
    printTexts_independent_iff buflen full hne hexposed buf
  rw [hflatten, settled_iff_showsKnown hregular] at hindependent
  simpa only [printRecord, htexts] using hindependent

/-- A report that the driver does not refuse is independent of the stack
exactly when it shows stored bytes only. -/
theorem reportOf_independent_iff
    (T : AttrTable F) (full : ℕ → ℕ) {calls : List (Call F)}
    {cfg : Config} {E : Exchange}
    (hitems : ∀ call ∈ calls, ∀ item ∈ call.items,
      item.Regular (T.stored cfg E))
    {ret : ℤ} (hret : testmodeValue cfg E = some ret) (hnonneg : 0 ≤ ret)
    (buf : Buffer) (buflen : ℕ) :
    (∀ record record',
      reportOf T full calls cfg E record buf buflen =
        reportOf T full calls cfg E record' buf buflen) ↔
      ShowsKnown (T.stored cfg E) (buflen - 1) (itemsOf calls) := by
  rw [← printRecord_independent_iff hitems full buf]
  have hreport : ∀ record, reportOf T full calls cfg E record buf buflen =
      some (((printRecord full calls (storeAll (T.stored cfg E) record)
          buf buflen).1 : ℤ),
        (printRecord full calls (storeAll (T.stored cfg E) record)
          buf buflen).2) := by
    intro record
    rw [reportOf, testmode_handler_eq T hret]
    simp only [if_neg (Int.not_lt.mpr hnonneg)]
  simp only [hreport, Option.some.injEq, Prod.mk.injEq, Nat.cast_inj,
    ← Prod.ext_iff]

/-! ## The two commands -/

/-- The item does not show a 64-bit counter. -/
def Item.noU64 : Item F → Bool
  | .value _ _ .u64 => false
  | _ => true

/-- The item shows its field from the beginning. -/
def Item.fromStart : Item F → Bool
  | .value _ offset _ => offset == 0
  | .text _ => true

theorem staCalls_regular (w : StaField → List UInt8) :
    ∀ call ∈ staCalls, ∀ item ∈ call.items, item.Regular w := by
  have hall : ∀ call ∈ staCalls, ∀ item ∈ call.items,
      item.Valid ∧ item.noU64 = true := by decide
  intro call hcall item hitem
  obtain ⟨hvalid, hnoU64⟩ := hall call hcall item hitem
  refine ⟨hvalid, ?_⟩
  rintro f offset rfl
  cases hnoU64

/-- A counter of the link detection record is stored as a whole. -/
theorem linkTable_stored
    (cfg : Config) (E : Exchange) (f : LinkField) :
    linkTable.stored cfg E f = [] ∨ 8 ≤ (linkTable.stored cfg E f).length := by
  have hwritten : ∀ msg f, linkTable.written E.nlaParse msg f = [] ∨
      8 ≤ (linkTable.written E.nlaParse msg f).length := by
    intro msg f
    rw [AttrTable.written]
    split
    · exact Or.inl rfl
    · split
      · exact Or.inl rfl
      · split
        · exact Or.inl rfl
        next data _ =>
          right
          change 8 ≤ (LinkField.encode f data).length
          simp only [LinkField.encode]
          split
          · split
            · rw [length_leBytes]
            · rw [length_leBytes]
          · rw [length_leBytes]
  apply stored_invariant linkTable
    (I := fun bytes => bytes = [] ∨ 8 ≤ bytes.length) (Or.inl rfl)
  intro msg f bytes hbytes
  rcases hwritten msg f with hnone | hwhole
  · rw [hnone]
    exact hbytes
  · right
    rw [length_overwrite]
    omega

theorem linkCalls_regular (cfg : Config) (E : Exchange) :
    ∀ call ∈ linkCalls, ∀ item ∈ call.items,
      item.Regular (linkTable.stored cfg E) := by
  have hall : ∀ call ∈ linkCalls, ∀ item ∈ call.items,
      item.Valid ∧ item.fromStart = true := by decide
  intro call hcall item hitem
  obtain ⟨hvalid, hstart⟩ := hall call hcall item hitem
  refine ⟨hvalid, ?_⟩
  rintro f offset rfl
  exact ⟨beq_iff_eq.mp hstart, linkTable_stored cfg E f⟩

/-- The station report shows only bytes which the driver has stored. -/
def StatisticsKnown (cfg : Config) (E : Exchange) (buflen : ℕ) : Prop :=
  ShowsKnown (staTable.stored cfg E) (buflen - 1) (itemsOf staCalls)

/-- The link report shows only bytes which the driver has stored. -/
def LinkDetectKnown (cfg : Config) (E : Exchange) (buflen : ℕ) : Prop :=
  ShowsKnown (linkTable.stored cfg E) (buflen - 1) (itemsOf linkCalls)

instance (cfg : Config) (E : Exchange) (buflen : ℕ) :
    Decidable (StatisticsKnown cfg E buflen) :=
  inferInstanceAs (Decidable (ShowsKnown _ (buflen - 1) (itemsOf staCalls)))

instance (cfg : Config) (E : Exchange) (buflen : ℕ) :
    Decidable (LinkDetectKnown cfg E buflen) :=
  inferInstanceAs (Decidable (ShowsKnown _ (buflen - 1) (itemsOf linkCalls)))

/-- The two reports disclose nothing of the stack exactly when every field
they show has been stored by the driver. -/
theorem reports_independent_iff
    (cfg : Config) (E : Exchange) {ret : ℤ}
    (hret : testmodeValue cfg E = some ret) (hnonneg : 0 ≤ ret)
    (staAddr : List UInt8) (buf : Buffer) (buflen : ℕ) :
    ((∀ record record',
        wpaDriverGetStaStatistics cfg E (some staAddr) record buf buflen =
          wpaDriverGetStaStatistics cfg E (some staAddr) record'
            buf buflen) ↔
      StatisticsKnown cfg E buflen) ∧
      (cfg.mtkPoorLinkDetect = true →
        ((∀ record record',
            wpaDriverGetStaLinkDetect cfg E record buf buflen =
              wpaDriverGetStaLinkDetect cfg E record' buf buflen) ↔
          LinkDetectKnown cfg E buflen)) := by
  constructor
  · exact reportOf_independent_iff staTable _ (staCalls_regular _) hret
      hnonneg buf buflen
  · intro _
    exact reportOf_independent_iff linkTable _ (linkCalls_regular cfg E) hret
      hnonneg buf buflen

/-- A build that talks to the driver. -/
def turnkeyConfig : Config where
  mtkTurnkeyWlan := true
  mtkPoorLinkDetect := true

/-- The driver sends one attribute for each field, and an acknowledgement. -/
def fullReply (T : AttrTable F) (size : F → ℕ) : Exchange where
  nlaParse := plainParse
  received :=
    [[.valid
      { testdata := some (T.fields.map fun f =>
          { type := T.attr f, data := List.replicate (size f) 5 }) },
      .ack]]

/-- A buffer filled with zeros. -/
def zeroBuffer : Buffer := fun _ => 0

theorem reports_independent_of_full_replies :
    (∀ record record',
      wpaDriverGetStaStatistics turnkeyConfig
          (fullReply staTable StaField.size) (some [2, 0, 0, 0, 0, 1])
          record zeroBuffer 4096 =
        wpaDriverGetStaStatistics turnkeyConfig
          (fullReply staTable StaField.size) (some [2, 0, 0, 0, 0, 1])
          record' zeroBuffer 4096) ∧
      (∀ record record',
        wpaDriverGetStaLinkDetect turnkeyConfig
            (fullReply linkTable fun _ => 8) record zeroBuffer 4096 =
          wpaDriverGetStaLinkDetect turnkeyConfig
            (fullReply linkTable fun _ => 8) record' zeroBuffer 4096) := by
  constructor
  · exact (reports_independent_iff turnkeyConfig
      (fullReply staTable StaField.size) rfl (Int.le_refl 0) _ _ _).1.mpr
        (by decide +kernel)
  · exact ((reports_independent_iff turnkeyConfig
      (fullReply linkTable fun _ => 8) rfl (Int.le_refl 0) [] _ _).2 rfl).mpr
        (by decide +kernel)

/-- When the driver sends no data, the bytes found on the stack are printed:
the address reads `00:…` on one stack and `ff:…` on the other. -/
theorem not_reports_independent :
    testmodeValue turnkeyConfig bareAck = some 0 ∧
      (wpaDriverGetStaStatistics turnkeyConfig bareAck
          (some [2, 0, 0, 0, 0, 1]) (fun _ _ => 0) zeroBuffer 4096).map
        (fun report => report.2 9) = some 48 ∧
      (wpaDriverGetStaStatistics turnkeyConfig bareAck
          (some [2, 0, 0, 0, 0, 1]) (fun _ _ => 0xff) zeroBuffer 4096).map
        (fun report => report.2 9) = some 102 := by
  refine ⟨rfl, ?_, ?_⟩
  · decide +kernel
  · decide +kernel

end SmartSurf.Wifi
