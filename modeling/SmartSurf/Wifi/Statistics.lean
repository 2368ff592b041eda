import SmartSurf.Platform.Printf
import SmartSurf.Support.Report
import SmartSurf.Wifi.Netlink

/-!
# Statistics records and their reports

The driver answers `GET_STA_STATISTICS` and `GET_STA_LINK_DETECT` with a list
of attributes, which the reply handlers copy into a record on the stack of the
caller.  An attribute that is missing, or shorter than its field, leaves bytes
of the record as they were.  The record is then printed field by field.

Fields are kept as the bytes they occupy in memory, so that a field can be
written in part.
-/

namespace SmartSurf.Wifi

open Support C

/-- A record on the stack: the bytes of each field. -/
abbrev Record (F : Type) := F → ℕ → UInt8

/-- The attributes of a reply, one for each field of the record. -/
structure AttrTable (F : Type) where
  fields : List F
  attr : F → ℕ
  policy : F → NlaType
  encode : F → List UInt8 → List UInt8
  maxAttr : ℕ

namespace AttrTable

variable {F : Type} (T : AttrTable F) (nlaParse : NlaParse)

/-- The policy by attribute type. -/
def policyOf (type : ℕ) : NlaType :=
  ((T.fields.find? fun f => T.attr f = type).map T.policy).getD .unspec

/-- The bytes that a message stores into a field. -/
def written (msg : NlMsg) (f : F) : List UInt8 :=
  match msg.testdata with
  | none => []
  | some attrs =>
      match nlaParse T.maxAttr T.policyOf attrs with
      | none => []
      | some sinfo =>
          match sinfo (T.attr f) with
          | none => []
          | some data => T.encode f data

/-- The reply handler.  Its loop over the attributes assigns each field at most
once, from the attribute that belongs to it. -/
def handler (msg : NlMsg) (record : Record F) : Record F :=
  fun f => store (record f) 0 (T.written nlaParse msg f)

end AttrTable

/-! ## Printing -/

/-- A part of a format string: literal text, or a conversion applied to bytes
of a field. -/
inductive Item (F : Type) where
  | text (s : String)
  | value (f : F) (offset : ℕ) (format : Format)
  deriving DecidableEq, Repr

/-- One call of `os_snprintf`; `index` is the index of the array `reserved`
that stands among its arguments. -/
structure Call (F : Type) where
  items : List (Item F)
  index : Option ℕ := none
  deriving DecidableEq, Repr

variable {F : Type}

def Item.render (item : Item F) (record : Record F) : CText :=
  match item with
  | .text s => lit s
  | .value f offset format =>
      format.render (load (record f) offset format.width)

def Call.render (call : Call F) (record : Record F) : CText :=
  (call.items.map fun item => item.render record).flatten

/-- The memory from `buf` on. -/
abbrev Buffer := ℕ → UInt8

/-- Print a record; when the buffer is full, the result is `full pos`. -/
def printRecord (full : ℕ → ℕ) (calls : List (Call F)) (record : Record F)
    (buf : Buffer) (buflen : ℕ) : ℕ × Buffer :=
  printTexts buflen full (calls.map fun call => call.render record) 0 buf

/-- The common part of the two commands: ask the driver, then print. -/
def reportOf (T : AttrTable F) (full : ℕ → ℕ) (calls : List (Call F))
    (cfg : Config) (E : Exchange) (record : Record F)
    (buf : Buffer) (buflen : ℕ) : Option (ℤ × Buffer) :=
  match testmode (T.handler E.nlaParse) cfg E record with
  | none => none
  | some (record, ret) =>
      if ret < 0 then
        some (-1, buf)
      else
        let (len, buf) := printRecord full calls record buf buflen
        some ((len : ℤ), buf)

/-! ## Station statistics -/

/-- The fields of `struct wpa_driver_sta_statistics_s`. -/
inductive StaField where
  | version
  | addr
  | linkScore
  | flag
  | per
  | rssi
  | phyMode
  | txRate
  | txTotalCnt
  | txExcThresholdCnt
  | txAvgProcessTime
  | txFailCnt
  | txTimeoutCnt
  | txAvgAirTime
  | tcBufFullCnt
  | tcQueLen
  | tcAvgQueLen
  | tcCurQueLen
  | reserved
  deriving DecidableEq, Repr

namespace StaField

/-- The fields in the order of the attributes
`NL80211_TESTMODE_STA_STATISTICS_*`, which are numbered from 1. -/
def all : List StaField :=
  [.version, .addr, .linkScore, .flag, .per, .rssi, .phyMode, .txRate,
    .txTotalCnt, .txExcThresholdCnt, .txAvgProcessTime, .txFailCnt,
    .txTimeoutCnt, .txAvgAirTime, .tcBufFullCnt, .tcQueLen, .tcAvgQueLen,
    .tcCurQueLen, .reserved]

def attr (f : StaField) : ℕ :=
  all.idxOf f + 1

/-- Number of bytes of the field. -/
def size : StaField → ℕ
  | .version => 1
  | .addr => 6
  | .linkScore => 1
  | .per => 1
  | .txRate => 8
  | .tcBufFullCnt => 16
  | .tcQueLen => 16
  | .tcAvgQueLen => 16
  | .tcCurQueLen => 16
  | .reserved => 32
  | _ => 4

def policy : StaField → NlaType
  | .version => .u8
  | .addr => .unspec
  | .linkScore => .u8
  | .per => .u8
  | .rssi => .u8
  | .txRate => .u16
  | .tcBufFullCnt => .unspec
  | .tcQueLen => .unspec
  | .tcAvgQueLen => .unspec
  | .tcCurQueLen => .unspec
  | .reserved => .unspec
  | _ => .u32

/-- The bits of the double `n / 2`. -/
def halfBits (n : ℕ) : ℕ :=
  if n = 0 then 0
  else
    (1022 + n.log2) * 0x10000000000000 +
      (n - 2 ^ n.log2) * 2 ^ (52 - n.log2)

/-- The bytes which an attribute with the given payload puts into the field:
the converted value for `rssi` and `tx_rate`, the payload cut to the size of
the field for the others. -/
def encode (f : StaField) (data : List UInt8) : List UInt8 :=
  match f with
  | .rssi =>
      leBytes 4 ((((leValue (data.take 1) : ℤ) - 220).tdiv 2) %
        0x100000000).toNat
  | .txRate => leBytes 8 (halfBits (leValue (data.take 2)))
  | f => data.take f.size

end StaField

/-- `testmode_sta_statistics_handler`. -/
def staTable : AttrTable StaField where
  fields := StaField.all
  attr := StaField.attr
  policy := StaField.policy
  encode := StaField.encode
  maxAttr := 19

/-- `name=%d\n` for one field. -/
def line (name : String) (f : F) (format : Format) : Call F where
  items := [.text name, .value f 0 format, .text "\n"]

/-- `name=%d:%d:%d:%d\n` for an array of four counters. -/
def arrayLine (name : String) (f : StaField) : Call StaField where
  items :=
    [.text name, .value f 0 .int, .text ":", .value f 4 .int, .text ":",
      .value f 8 .int, .text ":", .value f 12 .int, .text "\n"]

/-- One round of the loops over `reserved`. -/
def reservedRound (i : ℕ) : List (Call StaField) :=
  { items := [.value .reserved i (.hex 1 true)], index := some i } ::
    if (i + 1) % 4 = 0 then
      [{ items := [.text " "], index := some i }]
    else
      []

/-- A heading, sixteen rounds from `first` on, and the end of the line, which
has the next element as an unused argument. -/
def reservedCalls (heading : String) (first : ℕ) : List (Call StaField) :=
  { items := [.text heading] } ::
    ((List.range 16).flatMap fun k => reservedRound (first + k)) ++
      [{ items := [.text "\n"], index := some (first + 16) }]

/-- The calls of `print_sta_statistics`. -/
def staCalls : List (Call StaField) :=
  [{ items :=
      [.text "sta_addr=",
        .value .addr 0 (.hex 1 false), .text ":",
        .value .addr 1 (.hex 1 false), .text ":",
        .value .addr 2 (.hex 1 false), .text ":",
        .value .addr 3 (.hex 1 false), .text ":",
        .value .addr 4 (.hex 1 false), .text ":",
        .value .addr 5 (.hex 1 false), .text "\n"] },
    line "link_score=" .linkScore .u8,
    line "per=" .per .u8,
    line "rssi=" .rssi .int,
    line "phy=0x" .phyMode (.hex 4 true),
    line "rate=" .txRate .double,
    line "total_cnt=" .txTotalCnt .int,
    line "threshold_cnt=" .txExcThresholdCnt .int,
    line "fail_cnt=" .txFailCnt .int,
    line "timeout_cnt=" .txTimeoutCnt .int,
    line "apt=" .txAvgProcessTime .int,
    line "aat=" .txAvgAirTime .int,
    arrayLine "TC_buf_full_cnt=" .tcBufFullCnt,
    arrayLine "TC_sta_que_len=" .tcQueLen,
    arrayLine "TC_avg_que_len=" .tcAvgQueLen,
    arrayLine "TC_cur_que_len=" .tcCurQueLen,
    line "flag=0x" .flag (.hex 4 true)] ++
    reservedCalls "reserved0=" 0 ++ reservedCalls "reserved1=" 16 ++
    [{ items := [.text "====\n"] }]

/-- `wpa_driver_get_sta_statistics`, given the result of `hwaddr_aton` and what
its local record holds at first. -/
def wpaDriverGetStaStatistics (cfg : Config) (E : Exchange)
    (staAddr : Option (List UInt8)) (record : Record StaField)
    (buf : Buffer) (buflen : ℕ) : Option (ℤ × Buffer) :=
  match staAddr with
  | none => some (-1, buf)
  | some _ =>
      reportOf staTable (fun _ => 0) staCalls cfg E record buf buflen

/-! ## Link detection -/

/-- The fields of `struct wpa_driver_sta_link_detect_s`. -/
inductive LinkField where
  | txFailCnt
  | txRetryCnt
  | txMultiRetryCnt
  | ackFailCnt
  | fcsErrCnt
  | txCnt
  | txOkCnt
  | txOsCnt
  deriving DecidableEq, Repr

namespace LinkField

/-- The fields in the order of the attributes `NL80211_TESTMODE_LINK_*`, which
are numbered from 1. -/
def all : List LinkField :=
  [.txFailCnt, .txRetryCnt, .txMultiRetryCnt, .ackFailCnt, .fcsErrCnt,
    .txCnt, .txOkCnt, .txOsCnt]

def attr (f : LinkField) : ℕ :=
  all.idxOf f + 1

/-- The eight bytes of the counter.  The counter of missing acknowledgements is
taken as a signed number, and its sign is dropped. -/
def encode (f : LinkField) (data : List UInt8) : List UInt8 :=
  let value := leValue (data.take 8)
  match f with
  | .ackFailCnt =>
      if 0x8000000000000000 ≤ value then
        leBytes 8 (0x10000000000000000 - value)
      else
        leBytes 8 value
  | _ => leBytes 8 value

end LinkField

/-- `testmode_sta_link_detect_handler`. -/
def linkTable : AttrTable LinkField where
  fields := LinkField.all
  attr := LinkField.attr
  policy _ := .u64
  encode := LinkField.encode
  maxAttr := 8

/-- The calls of `wpa_driver_get_sta_link_detect`. -/
def linkCalls : List (Call LinkField) :=
  [line "rFailedCount=" .txFailCnt .u64,
    line "rRetryCount=" .txRetryCnt .u64,
    line "rMultipleRetryCount=" .txMultiRetryCnt .u64,
    line "rACKFailureCount=" .ackFailCnt .u64,
    line "rFCSErrorCount=" .fcsErrCnt .u64,
    line "tx_total=" .txCnt .u64,
    line "tx_ok=" .txOkCnt .u64,
    line "tx_os=" .txOsCnt .u64]

/-- `wpa_driver_get_sta_link_detect`, given what its local record holds at
first. -/
def wpaDriverGetStaLinkDetect (cfg : Config) (E : Exchange)
    (record : Record LinkField) (buf : Buffer) (buflen : ℕ) :
    Option (ℤ × Buffer) :=
  reportOf linkTable (fun pos => pos) linkCalls cfg E record buf buflen

end SmartSurf.Wifi
