import SmartSurf.Platform.Numerals
import SmartSurf.Support.Layout
import SmartSurf.Wifi.Disclosure
import SmartSurf.Wifi.Reports

/-!
# Reading the statistics reports

Every number of a report is followed by a character that is not a digit, or has
a fixed number of digits.  The text therefore determines the values that were
printed: two records with the same report agree in every byte that is printed,
except that the rate is rounded to tenths.  The driver gives the rate as a
number of halves, and no two of these are rounded to the same tenths.
-/

namespace SmartSurf.Wifi

open Support C

/-! ## Texts and items -/

section Items

variable {F : Type}

/-- The text of some items. -/
def renderItems (items : List (Item F)) (record : Record F) : CText :=
  (items.map fun item => item.render record).flatten

/-- The items begin with a character that cannot continue a numeral. -/
def beginsApart : List (Item F) → Bool
  | .text s :: _ => (lit s).head?.any fun b => !decide (IsDigit b)
  | _ => false

/-- Every number can be told from what follows it. -/
def separated : List (Item F) → Bool
  | [] => true
  | .text _ :: items => separated items
  | .value _ _ format :: items =>
      (format.isHex || beginsApart items) && separated items

theorem endsNumeral_renderItems
    {items : List (Item F)} (h : beginsApart items = true)
    (record : Record F) :
    EndsNumeral (renderItems items record) := by
  rcases items with _ | ⟨s | _, items⟩
  · cases h
  · rw [beginsApart] at h
    rcases hs : lit s with _ | ⟨b, text⟩
    · rw [hs] at h
      cases h
    · have hrender : renderItems (.text s :: items) record =
          b :: (text ++ renderItems items record) := by
        simp [renderItems, Item.render, hs]
      rw [hs] at h
      rw [hrender]
      intro c hc
      obtain rfl := Option.mem_some.mp hc
      simpa using h
  · cases h

theorem renderItems_cons
    (item : Item F) (items : List (Item F)) (record : Record F) :
    renderItems (item :: items) record =
      item.render record ++ renderItems items record :=
  rfl

/-- Two records have the same text if and only if every argument has. -/
theorem renderItems_eq_iff
    {items : List (Item F)} (hseparated : separated items = true)
    (record record' : Record F) :
    renderItems items record = renderItems items record' ↔
      ∀ f offset format, .value f offset format ∈ items →
        format.render (load (record f) offset format.width) =
          format.render (load (record' f) offset format.width) := by
  induction items with
  | nil => simp [renderItems]
  | cons item items ih =>
      rw [renderItems_cons, renderItems_cons]
      cases item with
      | text s =>
          simp only [Item.render, List.append_cancel_left_eq,
            ih hseparated, List.mem_cons, reduceCtorEq, false_or]
      | value g start conversion =>
          rw [separated, Bool.and_eq_true, Bool.or_eq_true] at hseparated
          simp only [List.mem_cons, Item.value.injEq]
          constructor
          · intro h
            obtain ⟨hvalue, hrest⟩ := Format.render_append_inj (by simp)
              (fun hhex => by
                have happart := hseparated.1.resolve_left (by simp [hhex])
                exact ⟨endsNumeral_renderItems happart record,
                  endsNumeral_renderItems happart record'⟩) h
            rintro f offset format (⟨rfl, rfl, rfl⟩ | hmem)
            · exact hvalue
            · exact (ih hseparated.2).mp hrest f offset format hmem
          · intro h
            have hvalue := h g start conversion (.inl ⟨rfl, rfl, rfl⟩)
            have hrest := (ih hseparated.2).mpr fun f offset format hmem =>
              h f offset format (.inr hmem)
            rw [Item.render, Item.render, hvalue, hrest]

/-! ## Bytes -/

variable [DecidableEq F]

/-- The item prints byte `i` of the field, and not as part of a double. -/
def Item.covers (f : F) (i : ℕ) : Item F → Bool
  | .text _ => false
  | .value g offset format =>
      g = f && format ≠ .double && offset ≤ i && i < offset + format.width

def Item.isDouble : Item F → Bool
  | .value _ _ .double => true
  | _ => false

/-- The text determines the bytes it prints, and what it shows of doubles. -/
theorem renderItems_eq_iff_bytes
    {items : List (Item F)} (hseparated : separated items = true)
    (record record' : Record F) :
    renderItems items record = renderItems items record' ↔
      (∀ f i, items.any (Item.covers f i) = true →
        record f i = record' f i) ∧
      ∀ f offset, .value f offset .double ∈ items →
        Format.double.render (load (record f) offset 8) =
          Format.double.render (load (record' f) offset 8) := by
  rw [renderItems_eq_iff hseparated]
  constructor
  · intro h
    refine ⟨fun f i hcovers => ?_, fun f offset hmem => h f offset _ hmem⟩
    obtain ⟨item, hmem, hitem⟩ := List.any_eq_true.mp hcovers
    cases item with
    | text s => cases hitem
    | value g offset format =>
        simp only [Item.covers, Bool.and_eq_true, decide_eq_true_eq] at hitem
        obtain ⟨⟨⟨rfl, hformat⟩, hlow⟩, hhigh⟩ := hitem
        have hbytes := Format.render_inj hformat (length_load _ _ _)
          (length_load _ _ _) (h g offset format hmem)
        exact load_eq_load_iff.mp hbytes i
          (List.mem_range'_1.mpr ⟨hlow, hhigh⟩)
  · rintro ⟨hbytes, hdouble⟩ f offset format hmem
    by_cases hformat : format = .double
    · subst hformat
      exact hdouble f offset hmem
    · congr 1
      refine load_eq_load_iff.mpr fun i hi => ?_
      obtain ⟨hlow, hhigh⟩ := List.mem_range'_1.mp hi
      refine hbytes f i (List.any_eq_true.mpr ⟨_, hmem, ?_⟩)
      simp [Item.covers, hformat, hlow, hhigh]

/-- The item prints bytes of a field only up to a given number, unless it prints
a double. -/
def Item.fits (printed : F → ℕ) : Item F → Bool
  | .text _ => true
  | .value f offset format =>
      format = .double || offset + format.width ≤ printed f

/-- The items print the first bytes of every field, so many as given. -/
theorem any_covers_iff
    {items : List (Item F)} {printed : F → ℕ}
    (hfits : ∀ item ∈ items, item.fits printed = true)
    (hcovers : ∀ f, ∀ i < printed f, items.any (Item.covers f i) = true)
    (f : F) (i : ℕ) :
    items.any (Item.covers f i) = true ↔ i < printed f := by
  refine ⟨fun h => ?_, hcovers f i⟩
  obtain ⟨item, hmem, hitem⟩ := List.any_eq_true.mp h
  have hfit := hfits item hmem
  cases item with
  | text s => cases hitem
  | value g offset format =>
      simp only [Item.covers, Bool.and_eq_true, decide_eq_true_eq] at hitem
      obtain ⟨⟨⟨rfl, hformat⟩, -⟩, hhigh⟩ := hitem
      simp only [Item.fits, hformat, decide_false, Bool.false_or,
        decide_eq_true_eq] at hfit
      omega

end Items

theorem flatten_textsOf
    {F : Type} (calls : List (Call F)) (record : Record F) :
    (textsOf calls record).flatten = renderItems (itemsOf calls) record := by
  induction calls with
  | nil => rfl
  | cons call calls ih =>
      have happend : renderItems (call.items ++ itemsOf calls) record =
          call.render record ++ renderItems (itemsOf calls) record := by
        rw [renderItems, List.map_append, List.flatten_append]
        rfl
      calc
        (textsOf (call :: calls) record).flatten =
            call.render record ++ (textsOf calls record).flatten := rfl
        _ = renderItems (itemsOf (call :: calls)) record := by
          rw [ih, ← happend]
          rfl

/-! ## Station statistics -/

namespace StaField

theorem mem_all (f : StaField) : f ∈ all := by
  cases f with
  | _ => decide

/-- Number of bytes of the field that are printed, except as a double. -/
def printed (f : StaField) : ℕ :=
  match f with
  | .version => 0
  | .txRate => 0
  | f => f.size

theorem printed_eq
    {f : StaField} (hversion : f ≠ .version) (hrate : f ≠ .txRate) :
    f.printed = f.size := by
  cases f with
  | version => exact absurd rfl hversion
  | txRate => exact absurd rfl hrate
  | _ => rfl

end StaField

/-- What is printed of the rate. -/
def rateText (record : Record StaField) : CText :=
  fixedDouble (leValue (load (record .txRate) 0 8))

theorem separated_staItems : separated (itemsOf staCalls) = true := by
  decide +kernel

theorem covers_staItems_iff (f : StaField) (i : ℕ) :
    (itemsOf staCalls).any (Item.covers f i) = true ↔ i < f.printed := by
  have hcovers : ∀ f ∈ StaField.all, ∀ i < f.printed,
      (itemsOf staCalls).any (Item.covers f i) = true := by
    decide +kernel
  exact any_covers_iff (by decide +kernel)
    (fun f => hcovers f f.mem_all) f i

theorem double_mem_staItems_iff (f : StaField) (offset : ℕ) :
    .value f offset .double ∈ itemsOf staCalls ↔ f = .txRate ∧ offset = 0 := by
  have hdoubles : (itemsOf staCalls).filter Item.isDouble =
      [.value .txRate 0 .double] := by
    decide +kernel
  have hfilter : .value f offset .double ∈ itemsOf staCalls ↔
      .value f offset .double ∈ (itemsOf staCalls).filter Item.isDouble := by
    rw [List.mem_filter]
    exact (and_iff_left rfl).symm
  rw [hfilter, hdoubles, List.mem_singleton, Item.value.injEq]
  simp

/-- Two records have the same report if and only if all their printed bytes and
the rounded rates are the same. -/
theorem staReport_eq_iff (record record' : Record StaField) :
    staReport record = staReport record' ↔
      (∀ f, load (record f) 0 f.printed = load (record' f) 0 f.printed) ∧
        rateText record = rateText record' := by
  rw [staReport_eq, staReport_eq, flatten_textsOf, flatten_textsOf,
    renderItems_eq_iff_bytes separated_staItems]
  simp only [covers_staItems_iff, double_mem_staItems_iff, and_imp,
    forall_eq_apply_imp_iff, forall_eq, load_eq_load_iff, List.mem_range'_1,
    Nat.zero_le, true_and, Nat.zero_add]
  rfl

/-! ### The rate -/

theorem roundDiv_mul (q : ℕ) {den : ℕ} (hden : 0 < den) :
    roundDiv (q * den) den = q := by
  rw [roundDiv, Nat.mul_mod_left, Nat.mul_div_cancel q hden]
  exact if_neg (by omega)

theorem roundDiv_zero (den : ℕ) : roundDiv 0 den = 0 := by
  rw [roundDiv, Nat.zero_mod, Nat.zero_div]
  exact if_neg (by omega)

/-- The exponent and the fraction of a number of halves. -/
theorem halfBits_split {n : ℕ} (hzero : n ≠ 0) (hn : n < 0x10000) :
    n.log2 ≤ 15 ∧
      StaField.halfBits n / 0x10000000000000 = 1022 + n.log2 ∧
      StaField.halfBits n % 0x10000000000000 + 0x10000000000000 =
        n * 2 ^ (52 - n.log2) := by
  have hlow := Nat.log2_self_le hzero
  have hhigh := Nat.lt_log2_self (n := n)
  have hlog : n.log2 ≤ 15 := by
    by_contra hlarge
    have hpow : 2 ^ 16 ≤ 2 ^ n.log2 := Nat.pow_le_pow_right (by decide) (by omega)
    omega
  have hone : 2 ^ n.log2 * 2 ^ (52 - n.log2) = 0x10000000000000 := by
    rw [← pow_add, Nat.add_sub_cancel' (by omega)]
    rfl
  have hfraction : (n - 2 ^ n.log2) * 2 ^ (52 - n.log2) + 0x10000000000000 =
      n * 2 ^ (52 - n.log2) := by
    rw [← hone, ← Nat.add_mul, Nat.sub_add_cancel hlow]
  have hlt : (n - 2 ^ n.log2) * 2 ^ (52 - n.log2) < 0x10000000000000 := by
    rw [← hone]
    exact Nat.mul_lt_mul_of_pos_right (by rw [pow_succ] at hhigh; omega)
      (Nat.two_pow_pos _)
  rw [StaField.halfBits, if_neg hzero]
  exact ⟨hlog, by omega, by omega⟩

theorem doubleTenths_halfBits {n : ℕ} (hn : n < 0x10000) :
    doubleTenths (StaField.halfBits n) = 5 * n := by
  by_cases hzero : n = 0
  · subst hzero
    simp only [doubleTenths, StaField.halfBits, if_true, Nat.zero_div,
      Nat.zero_mod, Nat.mul_zero]
    exact roundDiv_zero _
  · obtain ⟨hlog, hexponent, hfraction⟩ := halfBits_split hzero hn
    have hpow : 2 * 2 ^ (52 - n.log2) = 2 ^ (1075 - (1022 + n.log2)) := by
      rw [← pow_succ']
      congr 1
      omega
    have hmod : (1022 + n.log2) % 0x800 = 1022 + n.log2 :=
      Nat.mod_eq_of_lt (by omega)
    simp only [doubleTenths, hexponent, hmod]
    rw [if_neg (by omega), if_pos (by omega), hfraction, ← hpow]
    have hnum : 10 * (n * 2 ^ (52 - n.log2)) =
        5 * n * (2 * 2 ^ (52 - n.log2)) := by
      ring
    rw [hnum, roundDiv_mul _ (by positivity)]

theorem halfBits_lt {n : ℕ} (hn : n < 0x10000) :
    StaField.halfBits n < 1038 * 0x10000000000000 := by
  by_cases hzero : n = 0
  · subst hzero
    decide
  · obtain ⟨hlog, hexponent, -⟩ := halfBits_split hzero hn
    omega

/-- A number of halves is printed exactly. -/
theorem fixedDouble_halfBits {n : ℕ} (hn : n < 0x10000) :
    fixedDouble (StaField.halfBits n) =
      decimal (5 * n / 10) ++ 46 :: decimal (5 * n % 10) := by
  have hlt := halfBits_lt hn
  rw [fixedDouble, if_neg (by omega), doubleBody, if_neg (by omega),
    doubleTenths_halfBits hn]

theorem fixedDouble_halfBits_inj
    {m n : ℕ} (hm : m < 0x10000) (hn : n < 0x10000)
    (h : fixedDouble (StaField.halfBits m) =
      fixedDouble (StaField.halfBits n)) :
    m = n := by
  rw [fixedDouble_halfBits hm, fixedDouble_halfBits hn] at h
  obtain ⟨hwhole, hrest⟩ := decimal_append_inj (endsNumeral_point _)
    (endsNumeral_point _) h
  have htenths := decimal_inj (List.cons.inj hrest).2
  omega

/-! ### Answers -/

/-- The answer fills every field. -/
def StaComplete (cfg : Config) (E : Exchange) : Prop :=
  ∀ f, (staTable.stored cfg E f).length = f.size

/-- The bytes of a rate that the driver gives. -/
def IsRate (bytes : List UInt8) : Prop :=
  ∃ n < 0x10000, bytes = leBytes 8 (StaField.halfBits n)

theorem written_txRate (nlaParse : NlaParse) (msg : NlMsg) :
    staTable.written nlaParse msg .txRate = [] ∨
      IsRate (staTable.written nlaParse msg .txRate) := by
  rw [AttrTable.written]
  split
  · exact .inl rfl
  · split
    · exact .inl rfl
    · split
      · exact .inl rfl
      next data _ =>
        refine .inr ⟨leValue (data.take 2), ?_, rfl⟩
        calc
          leValue (data.take 2) < 256 ^ (data.take 2).length := leValue_lt _
          _ ≤ 256 ^ 2 := Nat.pow_le_pow_right (by decide)
            (List.length_take_le 2 data)

theorem stored_txRate (cfg : Config) (E : Exchange) :
    staTable.stored cfg E .txRate = [] ∨
      IsRate (staTable.stored cfg E .txRate) := by
  rw [AttrTable.stored]
  split
  · exact .inl rfl
  next w ret htestmode =>
    refine testmode_invariant
      (I := fun w : StaField → List UInt8 => w .txRate = [] ∨ IsRate (w .txRate))
      ?_ (.inl rfl) htestmode
    intro msg w hw
    rw [AttrTable.accumulate]
    rcases written_txRate E.nlaParse msg with hnone | ⟨n, hn, hrate⟩
    · rw [hnone]
      exact hw
    · refine .inr ⟨n, hn, ?_⟩
      -- A rate takes the place of an earlier one.
      have hshort : (w .txRate).length ≤ 8 := by
        rcases hw with hnil | ⟨m, -, hm⟩
        · simp [hnil]
        · rw [hm, length_leBytes]
      rw [hrate, overwrite, length_leBytes, List.drop_of_length_le hshort,
        List.append_nil]

/-- Two rates that are printed alike are the same. -/
theorem IsRate.eq_of_text
    {bytes bytes' : List UInt8} (h : IsRate bytes) (h' : IsRate bytes')
    (htext : fixedDouble (leValue bytes) = fixedDouble (leValue bytes')) :
    bytes = bytes' := by
  obtain ⟨n, hn, rfl⟩ := h
  obtain ⟨n', hn', rfl⟩ := h'
  have hvalue : ∀ {n : ℕ}, n < 0x10000 →
      leValue (leBytes 8 (StaField.halfBits n)) = StaField.halfBits n := by
    intro n hn
    rw [leValue_leBytes]
    exact Nat.mod_eq_of_lt ((halfBits_lt hn).trans (by decide))
  rw [hvalue hn, hvalue hn'] at htext
  rw [fixedDouble_halfBits_inj hn hn' htext]

section Answers

variable {cfg : Config} {E E' : Exchange} (h : StaComplete cfg E)
  (h' : StaComplete cfg E')

include h

theorem isRate_stored : IsRate (staTable.stored cfg E .txRate) := by
  have hlength : (staTable.stored cfg E .txRate).length = 8 := h .txRate
  refine (stored_txRate cfg E).resolve_left fun hnil => ?_
  rw [hnil] at hlength
  cases hlength

theorem load_storeAll (record : Record StaField) (f : StaField) :
    load (storeAll (staTable.stored cfg E) record f) 0 f.size =
      staTable.stored cfg E f :=
  load_store_self _ 0 (h f)

include h'

/-- The reports of two complete answers are the same if and only if the answers
have filled all fields but the version in the same way. -/
theorem staReport_storeAll_eq_iff (record record' : Record StaField) :
    staReport (storeAll (staTable.stored cfg E) record) =
        staReport (storeAll (staTable.stored cfg E') record') ↔
      ∀ f, f ≠ .version →
        staTable.stored cfg E f = staTable.stored cfg E' f := by
  have hprinted : ∀ f, f ≠ .version → f ≠ .txRate →
      (load (storeAll (staTable.stored cfg E) record f) 0 f.printed =
          load (storeAll (staTable.stored cfg E') record' f) 0 f.printed ↔
        staTable.stored cfg E f = staTable.stored cfg E' f) := by
    intro f hversion hf
    rw [StaField.printed_eq hversion hf, load_storeAll h, load_storeAll h']
  have hrate := load_storeAll h record .txRate
  have hrate' := load_storeAll h' record' .txRate
  rw [StaField.size] at hrate hrate'
  rw [staReport_eq_iff, rateText, rateText, hrate, hrate']
  constructor
  · rintro ⟨hfields, hrates⟩ f hversion
    by_cases hf : f = .txRate
    · rw [hf]
      exact (isRate_stored h).eq_of_text (isRate_stored h') hrates
    · exact (hprinted f hversion hf).mp (hfields f)
  · intro hstored
    refine ⟨fun f => ?_, by rw [hstored .txRate (by decide)]⟩
    by_cases hversion : f = .version
    · rw [hversion]
      rfl
    · by_cases hf : f = .txRate
      · rw [hf]
        rfl
      · exact (hprinted f hversion hf).mpr (hstored f hversion)

/-- The texts of two successful reports are the same if and only if the driver
has answered alike, up to the version: from the text one can read everything
else that the driver has sent. -/
theorem statistics_text_eq_iff
    {ret ret' : ℤ} (hret : testmodeValue cfg E = some ret) (hnonneg : 0 ≤ ret)
    (hret' : testmodeValue cfg E' = some ret') (hnonneg' : 0 ≤ ret')
    {addr addr' : List UInt8} {record record' : Record StaField}
    {buf buf' out out' : Buffer} {buflen buflen' len len' : ℕ}
    (hcall : wpaDriverGetStaStatistics cfg E (some addr) record buf buflen =
      some ((len : ℤ), out))
    (hcall' : wpaDriverGetStaStatistics cfg E' (some addr') record' buf'
      buflen' = some ((len' : ℤ), out'))
    (hlen : 0 < len) (hlen' : 0 < len') :
    load out 0 len = load out' 0 len' ↔
      ∀ f, f ≠ .version →
        staTable.stored cfg E f = staTable.stored cfg E' f := by
  have htext : ∀ {E : Exchange} {ret : ℤ} {addr : List UInt8}
      {record : Record StaField} {buf out : Buffer} {buflen len : ℕ},
      testmodeValue cfg E = some ret → 0 ≤ ret →
      wpaDriverGetStaStatistics cfg E (some addr) record buf buflen =
        some ((len : ℤ), out) → 0 < len →
      load out 0 len =
        staReport (storeAll (staTable.stored cfg E) record) := by
    intro E ret addr record buf out buflen len hret hnonneg hcall hlen
    rw [wpaDriverGetStaStatistics_eq (testmode_handler_eq staTable hret record)
      hnonneg, Option.some.injEq, Prod.mk.injEq, Int.natCast_inj] at hcall
    obtain ⟨rfl, rfl⟩ := hcall
    have hexact := staReportExact (storeAll (staTable.stored cfg E) record) buf
      buflen
    have hfits : (staReport (storeAll (staTable.stored cfg E) record)).length <
        buflen := by
      by_contra hlarge
      have hzero := hexact.truncated (by omega)
      omega
    rw [hexact.length_iff.mpr hfits]
    exact hexact.whole hfits
  rw [htext hret hnonneg hcall hlen, htext hret' hnonneg' hcall' hlen']
  exact staReport_storeAll_eq_iff h h' record record'

end Answers

/-- The driver fills all fields with a byte. -/
def uniformReply (b : UInt8) : Exchange where
  nlaParse := plainParse
  received :=
    [[.valid
      { testdata := some (StaField.all.map fun f =>
          { type := f.attr, data := List.replicate f.size b }) },
      .ack]]

theorem staComplete_uniformReply :
    StaComplete turnkeyConfig (uniformReply 5) ∧
      StaComplete turnkeyConfig (uniformReply 6) := by
  have hall : ∀ b ∈ [(5 : UInt8), 6], ∀ f ∈ StaField.all,
      (staTable.stored turnkeyConfig (uniformReply b) f).length = f.size := by
    decide +kernel
  exact ⟨fun f => hall 5 (by decide) f f.mem_all,
    fun f => hall 6 (by decide) f f.mem_all⟩

/-- The reports of two different answers differ. -/
theorem statistics_text_ne_of_uniformReply :
    load (printStaStatistics (storeAll (staTable.stored turnkeyConfig
          (uniformReply 5)) fun _ _ => 0) zeroBuffer 4096).2 0
        (printStaStatistics (storeAll (staTable.stored turnkeyConfig
          (uniformReply 5)) fun _ _ => 0) zeroBuffer 4096).1 ≠
      load (printStaStatistics (storeAll (staTable.stored turnkeyConfig
          (uniformReply 6)) fun _ _ => 0) zeroBuffer 4096).2 0
        (printStaStatistics (storeAll (staTable.stored turnkeyConfig
          (uniformReply 6)) fun _ _ => 0) zeroBuffer 4096).1 := by
  have hcall : ∀ b, testmodeValue turnkeyConfig (uniformReply b) = some 0 →
      wpaDriverGetStaStatistics turnkeyConfig (uniformReply b) (some [])
          (fun _ _ => 0) zeroBuffer 4096 =
        some (((printStaStatistics (storeAll (staTable.stored turnkeyConfig
            (uniformReply b)) fun _ _ => 0) zeroBuffer 4096).1 : ℤ),
          (printStaStatistics (storeAll (staTable.stored turnkeyConfig
            (uniformReply b)) fun _ _ => 0) zeroBuffer 4096).2) := by
    intro b hb
    exact wpaDriverGetStaStatistics_eq
      (testmode_handler_eq staTable hb fun _ _ => 0) (Int.le_refl 0) [] _ _
  intro htext
  have hstored := (statistics_text_eq_iff staComplete_uniformReply.1
    staComplete_uniformReply.2 rfl (Int.le_refl 0) rfl (Int.le_refl 0)
    (hcall 5 rfl) (hcall 6 rfl) (by decide +kernel) (by decide +kernel)).mp
    htext .linkScore (by decide)
  exact absurd hstored (by decide +kernel)

end SmartSurf.Wifi
