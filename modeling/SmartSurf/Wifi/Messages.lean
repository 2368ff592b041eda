import Mathlib.Data.Int.Cast.Basic
import SmartSurf.Wifi.Statistics

/-!
# The contents of the driver messages

What the helper functions of the driver commands put into the structures they
send with `wpa_driver_nl80211_testmode`.  A copy that would leave the structure
gives no message.
-/

namespace SmartSurf.Wifi

open Support C

/-- A hardware address. -/
abbrev EthAddr := { b : List UInt8 // b.length = 6 }

/-- `ff:ff:ff:ff:ff:ff`. -/
def EthAddr.broadcast : EthAddr :=
  ⟨List.replicate 6 0xff, rfl⟩

/-! ## WAPI keys -/

/-- `struct wapi_key_param_type`.  A pointer is the memory behind it. -/
structure WapiKeyParam where
  addr : Option EthAddr
  keyIdx : ℤ
  setTx : ℤ
  seq : Option Buffer
  seqLen : UInt32
  key : Option Buffer
  keyLen : UInt32

/-- `struct wpa_driver_wapi_key_params`.  The field `seq` is `tx_seq` followed
by `rx_seq`, and `key` extends over the two bytes behind the array to the end
of the structure. -/
structure WapiKeyMessage where
  keyIndex : UInt8
  keyLen : UInt8
  extFlags : UInt32
  seq : List UInt8
  addr : EthAddr
  alg : UInt16
  extKeyLen : UInt16
  key : List UInt8
  length_seq : seq.length = 16
  length_key : key.length = 34

/-- The bytes copied from an optional pointer. -/
def copied (source : Option Buffer) (n : ℕ) : List UInt8 :=
  match source with
  | some mem => load mem 0 n
  | none => []

/-- An array of zeros after bytes have been copied to its start. -/
def filled (size : ℕ) (bytes : List UInt8) : List UInt8 :=
  (bytes ++ List.replicate size 0).take size

theorem length_filled (size : ℕ) (bytes : List UInt8) :
    (filled size bytes).length = size := by
  simp [filled]

/-- `IW_ENCODE_EXT_GROUP_KEY` and `IW_ENCODE_EXT_SET_TX_KEY`. -/
def wapiFlags (p : WapiKeyParam) : UInt32 :=
  (if p.addr = none ∨ p.addr = some EthAddr.broadcast then 4 else 0) |||
    (if p.setTx ≠ 0 then 8 else 0)

/-- The structure that `wpa_driver_nl80211_set_wapi_key` sends, given a
sequence of at most 16 bytes; `none` if the key is copied past its end. -/
def wapiKeyMessage (p : WapiKeyParam) : Option WapiKeyMessage :=
  if p.key.isSome ∧ 34 < p.keyLen.toNat then
    none
  else
    some {
      keyIndex := UInt8.ofInt (p.keyIdx + 1)
      keyLen := UInt8.ofNat p.keyLen.toNat
      extFlags := wapiFlags p
      seq := filled 16 (copied p.seq p.seqLen.toNat)
      addr := p.addr.getD EthAddr.broadcast
      alg := 0x20
      extKeyLen := if p.key.isSome then UInt16.ofNat p.keyLen.toNat else 0
      key := filled 34 (copied p.key p.keyLen.toNat)
      length_seq := length_filled 16 _
      length_key := length_filled 34 _ }

/-! ## Wi-Fi Display -/

/-- `struct wpa_driver_wfd_data_s`.  The fields from `WfdSessionInformationIE` on
are kept as the bytes they occupy, since the first of them is copied with a
length that the caller chooses. -/
structure WfdData where
  wfdCmdType : UInt32
  wfdEnable : UInt8
  wfdCoupleSinkStatus : UInt8
  wfdSessionAvailable : UInt8
  wfdSigmaMode : UInt8
  wfdDevInfo : UInt16
  wfdControlPort : UInt16
  wfdMaximumTp : UInt16
  wfdExtendCap : UInt16
  wfdCoupleSinkAddress : EthAddr
  wfdAssociatedBssid : EthAddr
  wfdVideoIp : UInt32
  wfdAudioIp : UInt32
  wfdVideoPort : UInt16
  wfdAudioPort : UInt16
  wfdFlag : UInt32
  wfdPolicy : UInt32
  wfdState : UInt32
  tail : Buffer

/-- The bytes from `WfdSessionInformationIE` to the end of the structure. -/
def wfdTailSize : ℕ := 404

/-- `struct wfd_data_s` of the caller, whose declaration is not at hand: the
fields that are copied, in no particular order.  The field `tail` is the memory
from `WfdSessionInformationIE` on, with 192 bytes of the array and then whatever
stands behind it. -/
structure WfdRequest extends WfdData where
  wfdSessionInformationIELen : UInt16
  wfdPrimarySinkMac : EthAddr
  wfdSecondarySinkMac : EthAddr
  wfdAdvancedFlag : UInt32
  wfdLocalIp : UInt32

/-- The length of the information element. -/
def WfdRequest.ieLen (p : WfdRequest) : ℕ :=
  p.wfdSessionInformationIELen.toNat

/-- The end of the message, from `WfdSessionInformationIE` on, by the
assignments in their order. -/
def wfdTail (p : WfdRequest) : Buffer :=
  let tail := store (fun _ => 0) 192 (leBytes 2 p.ieLen)
  let tail := store tail 0 (load p.tail 0 p.ieLen)
  let tail := store tail 196 p.wfdPrimarySinkMac.val
  let tail := store tail 202 p.wfdSecondarySinkMac.val
  let tail := store tail 208 (leBytes 4 p.wfdAdvancedFlag.toNat)
  store tail 212 (leBytes 4 p.wfdLocalIp.toNat)

/-- The structure that `wpas_wfd_data_update` sends; `none` if the element is
copied past its end. -/
def wfdRequestMessage (p : WfdRequest) : Option WfdData :=
  if wfdTailSize < p.ieLen then none
  else some { p.toWfdData with tail := wfdTail p }

/-! ## Beamplus -/

/-- `NL80211_TESTMODE_GO_READY_STATE` and `NL80211_TESTMODE_GO_READY_MAX`, whose
header is not at hand.  The handler looks at the types from 1 on. -/
structure GoReadyAttrs where
  state : ℕ
  max : ℕ
  pos : 0 < state
  le_max : state ≤ max

/-- `testmode_beamplus_go_ready_handler`, with the only attribute of the
answer. -/
def goReadyTable (attrs : GoReadyAttrs) : AttrTable Unit where
  fields := [()]
  attr _ := attrs.state
  policy _ := .u32
  encode _ data := data.take 4
  maxAttr := attrs.max

/-- `wpas_driver_get_beamplus_go_ready`. -/
def goReadyValue (attrs : GoReadyAttrs) (cfg : Config) (E : Exchange) :
    Option ℕ :=
  (testmode ((goReadyTable attrs).handler E.nlaParse) cfg E
    fun _ _ => 0).map fun result => leValue (load (result.1 ()) 0 4)

/-! ## Messages -/

/-- The messages of the driver commands, without their common header. -/
inductive Message where
  | staStatistics (addr : EthAddr)
  | linkDetect
  | swCmd (set : UInt8) (adr data : UInt32)
  | hotspot (blocked : UInt8) (bssid : EthAddr)
  | wapiKey (params : WapiKeyMessage)
  | wfdData (params : WfdData)
  | beamplusGoReady
  | beamplus (value : UInt32)
  | sigma (idx value : UInt32)
  | suspend (value : UInt8)

end SmartSurf.Wifi
