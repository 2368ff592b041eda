import SmartSurf.Wifi.Statistics

/-!
# The reports of the statistics commands

Both printers share one buffer among many calls of `os_snprintf`.  The printer
of the station statistics gives up with the result 0 when a text does not fit;
the printer of the link statistics returns what it has printed so far.

What a report should say is stated line by line from the bytes of the record,
without the tables of calls that the printers go through.
-/

namespace SmartSurf.Wifi

open Support C

variable {F : Type}

/-- The texts of the calls, in order. -/
def textsOf (calls : List (Call F)) (record : Record F) : List CText :=
  calls.map fun call => call.render record

theorem textsOf_append (calls calls' : List (Call F)) (record : Record F) :
    textsOf (calls ++ calls') record =
      textsOf calls record ++ textsOf calls' record :=
  List.map_append

theorem flatten_textsOf_flatMap
    (f : ℕ → List (Call F)) (ks : List ℕ) (record : Record F) :
    (textsOf (ks.flatMap f) record).flatten =
      ks.flatMap fun k => (textsOf (f k) record).flatten := by
  induction ks with
  | nil => rfl
  | cons k ks ih =>
      rw [List.flatMap_cons, List.flatMap_cons, textsOf_append,
        List.flatten_append, ih]

theorem printRecord_eq
    (full : ℕ → ℕ) (calls : List (Call F)) (record : Record F)
    (buf : Buffer) (buflen : ℕ) :
    printRecord full calls record buf buflen =
      printTexts buflen full (textsOf calls record) 0 buf := rfl

theorem printRecord_outside
    (full : ℕ → ℕ) (calls : List (Call F)) (record : Record F)
    (buf : Buffer) {buflen i : ℕ} (hi : buflen ≤ i) :
    (printRecord full calls record buf buflen).2 i = buf i :=
  printTexts_outside buflen full _ buf (Nat.zero_le _) hi

/-! ## Station statistics -/

/-- `print_sta_statistics`. -/
def printStaStatistics (record : Record StaField) (buf : Buffer)
    (buflen : ℕ) : ℕ × Buffer :=
  printRecord (fun _ => 0) staCalls record buf buflen

/-- The command prints the record that the driver has filled in. -/
theorem wpaDriverGetStaStatistics_eq
    {cfg : Config} {E : Exchange} {record record' : Record StaField} {ret : ℤ}
    (htestmode : testmode (staTable.handler E.nlaParse) cfg E record =
      some (record', ret))
    (hret : 0 ≤ ret) (addr : List UInt8) (buf : Buffer) (buflen : ℕ) :
    wpaDriverGetStaStatistics cfg E (some addr) record buf buflen =
      some (((printStaStatistics record' buf buflen).1 : ℤ),
        (printStaStatistics record' buf buflen).2) := by
  simp only [wpaDriverGetStaStatistics, reportOf, htestmode,
    if_neg (Int.not_lt.mpr hret)]
  rfl

/-! ### The text of the report -/

/-- A line of a report: a name, a value and the end of the line. -/
def textLine (name : String) (value : CText) : CText :=
  lit name ++ value ++ lit "\n"

/-- The `int` at an offset of a field, in decimal. -/
def intText (field : ℕ → UInt8) (offset : ℕ) : CText :=
  signedDecimal (Int.bmod (leValue (load field offset 4)) 0x100000000)

/-- The word at the start of a field in hexadecimal, with eight digits. -/
def wordText (field : ℕ → UInt8) : CText :=
  (load field 0 4).reverse.flatMap (hexByte true)

/-- The four counters of an array. -/
def arrayText (field : ℕ → UInt8) : CText :=
  List.intercalate (lit ":")
    [intText field 0, intText field 4, intText field 8, intText field 12]

/-- Sixteen bytes of a field in hexadecimal, with a space behind every fourth. -/
def groupsText (field : ℕ → UInt8) (first : ℕ) : CText :=
  [0, 4, 8, 12].flatMap fun k =>
    (load field (first + k) 4).flatMap (hexByte true) ++ lit " "

/-- The lines of the complete report. -/
def staLines (record : Record StaField) : List CText :=
  [textLine "sta_addr=" (List.intercalate (lit ":")
      ((load (record .addr) 0 6).map (hexByte false))),
    textLine "link_score=" (decimal (record .linkScore 0).toNat),
    textLine "per=" (decimal (record .per 0).toNat),
    textLine "rssi=" (intText (record .rssi) 0),
    textLine "phy=0x" (wordText (record .phyMode)),
    textLine "rate=" (fixedDouble (leValue (load (record .txRate) 0 8))),
    textLine "total_cnt=" (intText (record .txTotalCnt) 0),
    textLine "threshold_cnt=" (intText (record .txExcThresholdCnt) 0),
    textLine "fail_cnt=" (intText (record .txFailCnt) 0),
    textLine "timeout_cnt=" (intText (record .txTimeoutCnt) 0),
    textLine "apt=" (intText (record .txAvgProcessTime) 0),
    textLine "aat=" (intText (record .txAvgAirTime) 0),
    textLine "TC_buf_full_cnt=" (arrayText (record .tcBufFullCnt)),
    textLine "TC_sta_que_len=" (arrayText (record .tcQueLen)),
    textLine "TC_avg_que_len=" (arrayText (record .tcAvgQueLen)),
    textLine "TC_cur_que_len=" (arrayText (record .tcCurQueLen)),
    textLine "flag=0x" (wordText (record .flag)),
    textLine "reserved0=" (groupsText (record .reserved) 0),
    textLine "reserved1=" (groupsText (record .reserved) 16),
    lit "====\n"]

/-- The complete report. -/
def staReport (record : Record StaField) : CText :=
  (staLines record).flatten

/-! ### The calls print this text -/

theorem render_line
    (name : String) (f : F) (format : Format) (record : Record F) :
    (line name f format).render record =
      textLine name (format.render (load (record f) 0 format.width)) := by
  simp [line, textLine, Call.render, Item.render]

theorem render_arrayLine
    (name : String) (f : StaField) (record : Record StaField) :
    (arrayLine name f).render record = textLine name (arrayText (record f)) := by
  simp [arrayLine, textLine, arrayText, intText, Call.render, Item.render,
    Format.render, Format.width, List.intercalate]

/-- Four rounds of a loop over `reserved` print one group. -/
theorem flatten_textsOf_reservedRounds
    {first : ℕ} (hfirst : first % 4 = 0) (record : Record StaField) :
    (textsOf ((List.range 4).flatMap fun k => reservedRound (first + k))
      record).flatten =
      (load (record .reserved) first 4).flatMap (hexByte true) ++ lit " " := by
  have hends : (first + 3 + 1) % 4 = 0 := by omega
  have hinner : ∀ k < 3, ¬(first + k + 1) % 4 = 0 := by
    intro k hk
    omega
  have hround : ∀ i, ¬(i + 1) % 4 = 0 → reservedRound i =
      [{ items := [.value .reserved i (.hex 1 true)], index := some i }] := by
    intro i hi
    rw [reservedRound, if_neg hi]
  change (textsOf (reservedRound (first + 0) ++ (reservedRound (first + 1) ++
    (reservedRound (first + 2) ++ (reservedRound (first + 3) ++ []))))
      record).flatten = _
  rw [hround (first + 0) (hinner 0 (by decide)),
    hround (first + 1) (hinner 1 (by decide)),
    hround (first + 2) (hinner 2 (by decide)), reservedRound, if_pos hends]
  simp [textsOf, Call.render, Item.render, Format.render, Format.width, load,
    List.range_succ]

theorem flatten_textsOf_reservedCalls
    (heading : String) {first : ℕ} (hfirst : first % 4 = 0)
    (record : Record StaField) :
    (textsOf (reservedCalls heading first) record).flatten =
      textLine heading (groupsText (record .reserved) first) := by
  have hrange : List.range 16 =
      [0, 4, 8, 12].flatMap fun k => (List.range 4).map (k + ·) := by
    decide
  have hrounds : ((List.range 16).flatMap fun k => reservedRound (first + k)) =
      [0, 4, 8, 12].flatMap fun k =>
        (List.range 4).flatMap fun j => reservedRound (first + k + j) := by
    simp only [hrange, List.flatMap_assoc, List.flatMap_map, Nat.add_assoc]
  have hgroup : ∀ k ∈ [0, 4, 8, 12], (first + k) % 4 = 0 := by
    intro k hk
    have hfour : ∀ k ∈ [0, 4, 8, 12], k % 4 = 0 := by decide
    have hk' := hfour k hk
    omega
  have htexts := flatten_textsOf_flatMap
    (fun k => (List.range 4).flatMap fun j => reservedRound (first + k + j))
    [0, 4, 8, 12] record
  rw [List.flatMap_congr fun k hk =>
    flatten_textsOf_reservedRounds (hgroup k hk) record] at htexts
  rw [reservedCalls, hrounds, textLine, groupsText, ← htexts]
  simp [textsOf, Call.render, Item.render]

theorem leValue_load_one (field : ℕ → UInt8) :
    leValue (load field 0 1) = (field 0).toNat := by
  simp [load, leValue]

theorem textsOf_take_staCalls (record : Record StaField) :
    textsOf (staCalls.take 17) record = (staLines record).take 17 := by
  simp only [textsOf, staCalls, staLines, List.cons_append, List.nil_append,
    List.take_succ_cons, List.take_zero, List.map_cons, List.map_nil,
    render_line, render_arrayLine, Format.render, Format.width,
    leValue_load_one]
  rfl

theorem staReport_eq (record : Record StaField) :
    staReport record = (textsOf staCalls record).flatten := by
  have hcalls : staCalls = staCalls.take 17 ++
      (reservedCalls "reserved0=" 0 ++ (reservedCalls "reserved1=" 16 ++
        [{ items := [.text "====\n"] }])) := by
    rfl
  have hlines : staLines record = (staLines record).take 17 ++
      [textLine "reserved0=" (groupsText (record .reserved) 0),
        textLine "reserved1=" (groupsText (record .reserved) 16),
        lit "====\n"] := by
    rfl
  have hend : (textsOf ([{ items := [.text "====\n"] }] : List (Call StaField))
      record).flatten = lit "====\n" := by
    simp [textsOf, Call.render, Item.render]
  rw [staReport, hlines, hcalls, textsOf_append, textsOf_append, textsOf_append,
    textsOf_take_staCalls, List.flatten_append, List.flatten_append,
    List.flatten_append, List.flatten_append,
    flatten_textsOf_reservedCalls _ (by decide),
    flatten_textsOf_reservedCalls _ (by decide), hend]
  simp

theorem textLine_ne_nil (name : String) (value : CText) :
    textLine name value ≠ [] :=
  List.append_ne_nil_of_right_ne_nil _ (by decide)

theorem staReport_ne_nil (record : Record StaField) :
    staReport record ≠ [] :=
  List.append_ne_nil_of_left_ne_nil (textLine_ne_nil _ _) _

/-- Nothing is written behind the buffer; the result is the length of the
complete report exactly if it is below the size of the buffer, which then holds
the report and a zero, and otherwise the result is 0. -/
structure StaReportExact (record : Record StaField) (buf : Buffer)
    (buflen : ℕ) : Prop where
  outside : ∀ i, buflen ≤ i →
    (printStaStatistics record buf buflen).2 i = buf i
  length_iff : (printStaStatistics record buf buflen).1 =
    (staReport record).length ↔ (staReport record).length < buflen
  whole : (staReport record).length < buflen →
    load (printStaStatistics record buf buflen).2 0
      (staReport record).length = staReport record
  terminated : (staReport record).length < buflen →
    (printStaStatistics record buf buflen).2 (staReport record).length = 0
  truncated : buflen ≤ (staReport record).length →
    (printStaStatistics record buf buflen).1 = 0

theorem staReportExact
    (record : Record StaField) (buf : Buffer) (buflen : ℕ) :
    StaReportExact record buf buflen := by
  obtain ⟨n, hn, hresult⟩ := exists_reaches_printTexts buflen (fun _ => 0)
    (textsOf staCalls record) 0 buf
  have hne := staReport_ne_nil record
  have hpos := List.length_pos_iff.mpr hne
  have hall := hn.eq_length_iff (staReport_eq record ▸ hne)
  have htotal := lengthOf_length (textsOf staCalls record)
  rw [← staReport_eq] at hall htotal
  rw [Nat.zero_add] at hall
  rw [← printRecord_eq, ← printStaStatistics] at hresult
  by_cases hfits : (staReport record).length < buflen
  · have hlength := hall.mpr hfits
    subst hlength
    rw [if_pos rfl, Nat.zero_add, htotal] at hresult
    have hload := load_printTexts (fun _ => 0) buf hn
    rw [htotal, List.take_length, ← staReport_eq] at hload
    have htexts : textsOf staCalls record ≠ [] := by
      intro hnil
      exact hne (by rw [staReport_eq, hnil, List.flatten_nil])
    have hbelow : 0 + (staReport record).length < buflen := by omega
    rw [staReport_eq] at hbelow
    have hzero := printTexts_terminated (fun _ => 0) htexts buf hbelow
    rw [Nat.zero_add, ← staReport_eq] at hzero
    exact
      { outside := fun i hi => printRecord_outside _ _ record buf hi
        length_iff := iff_of_true hresult hfits
        whole := fun _ => hload
        terminated := fun _ => hzero
        truncated := fun hle => absurd hfits (Nat.not_lt.mpr hle) }
  · rw [if_neg (mt hall.mp hfits)] at hresult
    exact
      { outside := fun i hi => printRecord_outside _ _ record buf hi
        length_iff := iff_of_false (by omega) hfits
        whole := fun h => absurd h hfits
        terminated := fun h => absurd h hfits
        truncated := fun _ => hresult }

/-! ## The reserved bytes -/

/-- The texts of `print_sta_statistics`, each with the index of `reserved` that
stands among the arguments of its call. -/
def staItems (record : Record StaField) : List (Option ℕ × CText) :=
  staCalls.map fun call => (call.index, call.render record)

/-- The indices at which `print_sta_statistics` reads `reserved`. -/
def reservedReads (record : Record StaField) (buf : Buffer) (buflen : ℕ) :
    List ℕ :=
  (printLogged buflen (fun _ => 0) (staItems record) 0 buf).1.filterMap id

theorem map_snd_staItems (record : Record StaField) :
    (staItems record).map Prod.snd = textsOf staCalls record := by
  rw [staItems, List.map_map]
  rfl

/-- The run whose reads are listed is that of the function. -/
theorem printLogged_staItems
    (record : Record StaField) (buf : Buffer) (buflen : ℕ) :
    (printLogged buflen (fun _ => 0) (staItems record) 0 buf).2 =
      printStaStatistics record buf buflen := by
  rw [printLogged_snd, map_snd_staItems]
  rfl

/-- The indices of the calls in front of the last two. -/
def earlyIndices : List (Option ℕ) :=
  (staCalls.take 60).map Call.index

theorem map_index_staCalls :
    staCalls.map Call.index = earlyIndices ++ [some 32, none] := by
  decide +kernel

theorem lt_of_mem_earlyIndices {i : ℕ} (hi : some i ∈ earlyIndices) :
    i < 32 := by
  have hall : ∀ index ∈ earlyIndices, ∀ i ∈ index, i < 32 := by
    decide +kernel
  exact hall _ hi i rfl

/-- The last two calls print a line end and a line of five characters. -/
theorem length_staReport (record : Record StaField) :
    (staReport record).length =
      lengthOf (textsOf staCalls record) 60 + 6 := by
  have hsplit : textsOf staCalls record =
      (textsOf staCalls record).take 60 ++ [lit "\n", lit "====\n"] := by
    rfl
  rw [staReport_eq, lengthOf]
  conv_lhs => rw [hsplit, List.flatten_append, List.length_append]
  rfl

/-- The reads stay within the array exactly if the buffer is so short that the
function gives up in front of the last line end. -/
theorem reservedReads_inside_iff
    (record : Record StaField) (buf : Buffer) (buflen : ℕ) :
    (∀ i ∈ reservedReads record buf buflen, i < 32) ↔
      buflen + 6 ≤ (staReport record).length := by
  obtain ⟨n, hn, -⟩ := exists_reaches_printTexts buflen (fun _ => 0)
    (textsOf staCalls record) 0 buf
  have htried : 60 ≤ n ↔ lengthOf (textsOf staCalls record) 60 < buflen := by
    constructor
    · intro hle
      have hmono : lengthOf (textsOf staCalls record) 60 ≤
          lengthOf (textsOf staCalls record) n := lengthOf_mono hle
      rcases hn.fits with hzero | hfits
      · omega
      · omega
    · intro hfits
      have hlast : 60 ≤ (textsOf staCalls record).length := by
        rw [textsOf, List.length_map]
        decide
      exact hn.le_of_fits hlast (by omega)
  rw [length_staReport, Nat.add_le_add_iff_right, ← Nat.not_lt, ← htried]
  rw [← map_snd_staItems] at hn
  have hfst : (staItems record).map Prod.fst = staCalls.map Call.index := by
    rw [staItems, List.map_map]
    rfl
  have hreads : reservedReads record buf buflen =
      ((earlyIndices ++ [some 32, none]).take (n + 1)).filterMap id := by
    rw [reservedReads, printLogged_fst _ hn, hfst, map_index_staCalls]
  have hlength : earlyIndices.length = 60 := rfl
  by_cases hle : 60 ≤ n
  · refine iff_of_false ?_ (not_not_intro hle)
    intro hall
    have hmem : 32 ∈ reservedReads record buf buflen := by
      rw [hreads, List.take_append, List.filterMap_append, hlength,
        List.take_of_length_le (by omega)]
      obtain ⟨k, hk⟩ : ∃ k, n + 1 - 60 = k + 1 := ⟨n - 60, by omega⟩
      rw [hk]
      simp
    exact absurd (hall 32 hmem) (Nat.lt_irrefl 32)
  · refine iff_of_true ?_ hle
    intro i hi
    rw [hreads, List.take_append_of_le_length (by omega),
      List.mem_filterMap] at hi
    obtain ⟨index, hmem, hindex⟩ := hi
    obtain rfl : index = some i := hindex
    exact lt_of_mem_earlyIndices (List.mem_of_mem_take hmem)

/-- In a buffer that holds the report, the line end behind the second loop is
printed with an element behind the array as its argument. -/
theorem reservedReads_outside :
    ¬∀ i ∈ reservedReads (fun _ _ => 0) (fun _ => 0) 4096, i < 32 := by
  decide +kernel

/-! ## Link statistics -/

/-- The line of a 64-bit counter. -/
def counterLine (name : String) (record : Record LinkField) (f : LinkField) :
    CText :=
  textLine name (decimal (leValue (load (record f) 0 8)))

/-- The eight lines of the report. -/
def linkLines (record : Record LinkField) : List CText :=
  [counterLine "rFailedCount=" record .txFailCnt,
    counterLine "rRetryCount=" record .txRetryCnt,
    counterLine "rMultipleRetryCount=" record .txMultiRetryCnt,
    counterLine "rACKFailureCount=" record .ackFailCnt,
    counterLine "rFCSErrorCount=" record .fcsErrCnt,
    counterLine "tx_total=" record .txCnt,
    counterLine "tx_ok=" record .txOkCnt,
    counterLine "tx_os=" record .txOsCnt]

theorem linkLines_eq (record : Record LinkField) :
    linkLines record = textsOf linkCalls record := by
  simp only [linkLines, counterLine, textsOf, linkCalls, List.map_cons,
    List.map_nil, render_line, Format.render, Format.width]

/-- Nothing is written behind the buffer; the result is the length of the
longest part of the lines that is shorter than the buffer, which begins with
these lines.  Into a buffer of size 0 no line is printed. -/
structure LinkReportExact (lines : List CText) (buf : Buffer) (buflen : ℕ)
    (len : ℕ) (buf' : Buffer) : Prop where
  outside : ∀ i, buflen ≤ i → buf' i = buf i
  longest : ∃ n, n ≤ lines.length ∧
    (n = 0 ∨ (lines.take n).flatten.length < buflen) ∧
    (∀ m ≤ lines.length, (lines.take m).flatten.length < buflen → m ≤ n) ∧
    len = (lines.take n).flatten.length ∧
    load buf' 0 len = (lines.take n).flatten

theorem linkReportExact
    (record : Record LinkField) (buf : Buffer) (buflen : ℕ) :
    LinkReportExact (linkLines record) buf buflen
      (printRecord (fun pos => pos) linkCalls record buf buflen).1
      (printRecord (fun pos => pos) linkCalls record buf buflen).2 := by
  rw [linkLines_eq]
  obtain ⟨n, hn, hresult⟩ := exists_reaches_printTexts buflen (fun pos => pos)
    (textsOf linkCalls record) 0 buf
  rw [ite_self, Nat.zero_add, ← printRecord_eq] at hresult
  refine ⟨fun i hi => printRecord_outside _ _ record buf hi, n, hn.le, ?_, ?_,
    hresult, ?_⟩
  · have hfits := hn.fits
    rwa [Nat.zero_add] at hfits
  · intro m hm hfits
    exact hn.le_of_fits hm (by rw [Nat.zero_add]; exact hfits)
  · rw [hresult]
    exact load_printTexts _ buf hn

/-- Both reports stay within the buffer, and their lengths are exact. -/
theorem statistics_reports_exact :
    (∀ record buf buflen, StaReportExact record buf buflen) ∧
      ∀ (cfg : Config) (E : Exchange) (record record' : Record LinkField)
        (ret : ℤ) (buf : Buffer) (buflen : ℕ),
        testmode (linkTable.handler E.nlaParse) cfg E record =
          some (record', ret) →
        0 ≤ ret →
        ∃ (len : ℕ) (buf' : Buffer),
          wpaDriverGetStaLinkDetect cfg E record buf buflen =
            some ((len : ℤ), buf') ∧
          LinkReportExact (linkLines record') buf buflen len buf' := by
  refine ⟨staReportExact, ?_⟩
  intro cfg E record record' ret buf buflen htestmode hret
  refine ⟨_, _, ?_, linkReportExact record' buf buflen⟩
  simp only [wpaDriverGetStaLinkDetect, reportOf, htestmode,
    if_neg (Int.not_lt.mpr hret)]

theorem statistics_reports_of_zeros :
    StaReportExact (fun _ _ => 0) (fun _ => 1) 64 ∧
      ∃ (len : ℕ) (buf' : Buffer),
        wpaDriverGetStaLinkDetect { mtkTurnkeyWlan := true } bareAck
            (fun _ _ => 0) (fun _ => 1) 64 =
          some ((len : ℤ), buf') ∧
        LinkReportExact (linkLines fun _ _ => 0) (fun _ => 1) 64 len buf' :=
  ⟨statistics_reports_exact.1 _ _ _,
    statistics_reports_exact.2 _ _ _ _ _ _ _ rfl (Int.le_refl 0)⟩

end SmartSurf.Wifi
