import SmartSurf.Wifi.CommandState

/-!
# The driver commands of the supplicant

`wpa_driver_nl80211_driver_cmd` compares the command with one keyword after the
other and either handles it or forwards it to the private ioctl of the driver.
-/

namespace SmartSurf.Wifi

open Support C

/-! ## Station reports and the interface -/

section

variable (cfg : Config) (env : Env)

/-- `wpa_driver_get_sta_statistics`. -/
def getStaStatistics : CmdM Verdict := do
  let addr ← argument 19
  let wpaS ← readWpaS env
  match env.hwaddrAton addr with
  | none => return .done (-1)
  | some staAddr =>
      let _ ← testmodeCall cfg env wpaS.drvPriv (.staStatistics staAddr)
      let ret ← printReport (fun buf =>
        wpaDriverGetStaStatistics cfg env.exchange (some staAddr.val)
          env.staRecord buf env.bufLen) env.bufLen
      return .done ret

/-- `wpa_driver_get_sta_link_detect`. -/
def getStaLinkDetect : CmdM Verdict := do
  let wpaS ← readWpaS env
  let _ ← testmodeCall cfg env wpaS.drvPriv .linkDetect
  let ret ← printReport (fun buf =>
    wpaDriverGetStaLinkDetect cfg env.exchange env.linkRecord buf env.bufLen)
    env.bufLen
  return .done ret

/-- The address as printed by `MACSTR`. -/
def macText (addr : EthAddr) : CText :=
  List.intercalate [58] (addr.val.map (hexByte false))

def macaddr : CmdM Verdict := do
  let wpaS ← readWpaS env
  let ret ← snprintf env (lit "Macaddr = " ++ macText wpaS.ownAddr ++ [10])
  return .done ret

/-- The interface name that `wpa_driver_mediatek_set_country` uses. -/
def countryIfname (drv : Drv) : CText :=
  if cfg.mtkTc1Feature ∧ startsWith (lit "p2p0") drv.firstIfname then
    lit "wlan0"
  else
    drv.firstIfname.take 15

/-- `wpa_driver_mediatek_set_country`, which prints into an array of 11
characters. -/
def setCountry (drv : Drv) (alpha2 : CText) : CmdM ℤ :=
  if env.socket < 0 then return -1
  else if 11 < (lit "COUNTRY " ++ alpha2).length + 1 then throw .outOfBounds
  else do
    perform (.country (countryIfname cfg drv) (lit "COUNTRY " ++ alpha2))
    return if env.countryIoctl < 0 then env.countryIoctl else 0

def country (drv : Drv) : CmdM Verdict := do
  let s ← get
  if s.cmd.length < 8 then throw .outOfBounds
  else
    let ret ← setCountry cfg env drv (s.cmd.drop 8)
    return .done ret

/-- `linux_set_iface_flags`, followed by the message about the new state. -/
def setFlags (drv : Drv) (up : Bool) : CmdM Verdict := do
  perform (.setIfaceFlags drv.firstIfname up)
  if env.setIfaceFlags ≠ 0 then return .done env.setIfaceFlags
  else
    perform (.driverState up)
    return .done 0

def stop (drv : Drv) : CmdM Verdict := do
  if drv.associated then
    let _ ← readWpaS env
    perform .deauthenticate
    setFlags env drv false
  else
    setFlags env drv false

/-! ## Words for the firmware -/

/-- `wpa_driver_nl80211_driver_sw_cmd` with `set` equal to 1. -/
def driverSwCmd (adr data : UInt32) : CmdM Unit := do
  let _ ← testmodeCall cfg env true (.swCmd 1 adr data)
  return ()

/-- The branches that send a fixed word. -/
def fixedSwCmd (adr data : UInt32) : CmdM Verdict := do
  driverSwCmd cfg env adr data
  return .done 0

/-- The branches that send a word given by a number behind the keyword, of
length `n`. -/
def indexedSwCmd (n : ℕ) (adr offset : UInt32) : CmdM Verdict := do
  let cp ← argument n
  match strtol 0 cp with
  | none => return .done (-1)
  | some idx =>
      driverSwCmd cfg env adr (UInt32.ofInt idx + offset)
      return .done 0

def setScanLoading : CmdM Verdict := do
  driverSwCmd cfg env 0xFFFF1253 0
  perform .scanLoadingTimeout
  return .done 0

/-! ## Access control and WAPI -/

/-- `wpa_driver_sta_block` and `wpa_driver_sta_unblock`, for a keyword of
length `n`. -/
def staBlock (n : ℕ) (blocked : UInt8) : CmdM Verdict := do
  let text ← argument n
  match env.hwaddrAton text with
  | none => return .done (-1)
  | some bssid =>
      let ret ← testmodeCall cfg env true (.hotspot blocked bssid)
      return .done (if ret ≠ 0 then -1 else 0)

/-- `wpa_driver_nl80211_set_wapi_key`. -/
def wpaDriverNl80211SetWapiKey (p : WapiKeyParam) : CmdM ℤ :=
  if 16 < p.seqLen.toNat then return -1
  else
    match wapiKeyMessage p with
    | none => throw .outOfBounds
    | some params => do
        let _ ← testmodeCall cfg env true (.wapiKey params)
        return 0

/-- The branch for `set-wapi-key`, which passes on the structure that the buffer
is read as. -/
def setWapiKey : CmdM Verdict := do
  let s ← get
  if s.buf.isNone then throw .nullPointer
  else
    let ret ← wpaDriverNl80211SetWapiKey cfg env env.wapiKey
    return .done ret

/-- `wpa_driver_nl80211_send_msg`. -/
def wapiMsgSend : CmdM Verdict := do
  let s ← get
  if s.buf.isNone then throw .nullPointer
  else return .done (if env.wapiMsgInLen > 1024 then -1 else 0)

/-! ## P2P channels -/

/-- `p2p_get_capability`, called if P2P is supported. -/
def p2pGetCap : CmdM Verdict := do
  let text ← argument 12
  let wpaS ← readWpaS env
  match wpaS.p2p with
  | none => return .done (-1)
  | some p2p =>
      if startsWith (lit "p2p_dev_capa") text then
        let ret ← snprintf env
          (lit "p2p_dev_capa=" ++ decimal p2p.devCapab.toNat ++ [10])
        return .done ret
      else if startsWith (lit "p2p_group_capa") text then return .done (-1)
      else return .done 0

/-- `p2p_set_capability`, called if P2P is supported. -/
def p2pSetCap : CmdM Verdict := do
  let text ← argument 12
  let wpaS ← readWpaS env
  match wpaS.p2p with
  | none => return .done (-1)
  | some p2p =>
      if startsWith (lit "p2p_dev_capa ") text then
        writeWpaS { wpaS with
          p2p := some { p2p with
            devCapab := UInt8.ofInt (atoi (text.drop 13)) } }
        return .done 0
      else if startsWith (lit "p2p_group_capa ") text then return .done (-1)
      else return .done 0

/-- `p2p_wfd_sink_config_scc`. -/
def configScc (scc : Bool) (operFreq : ℕ) : CmdM Unit := do
  let wpaS ← readWpaS env
  match wpaS.p2p, wpaS.conf with
  | none, _ => return ()
  | some _, none => throw .nullPointer
  | some p2p, some conf =>
      match p2pWfdSinkConfigScc cfg conf env.locals env.random scc operFreq
          p2p with
      | none => throw .nullPointer
      | some p2p => writeWpaS { wpaS with p2p := some p2p }

/-- Share the channel of a connection, if there is one. -/
def shareFrequency (freq : ℕ) : CmdM Unit :=
  if freq > 0 then configScc cfg env true freq else configScc cfg env false 0

/-- `MIRACAST` with the frequency of the connection, as an `unsigned`. -/
def miracastShared : CmdM Verdict := do
  let _ ← readWpaS env
  shareFrequency cfg env (toUnsigned env.sharedFreq.toInt)
  return .forward

/-- `MIRACAST 2`, with the frequency in the command if there is one; the
command is then written anew. -/
def miracastSink : CmdM Verdict := do
  let s ← get
  match strstr (lit " freq=") s.cmd with
  | some pos =>
      configScc cfg env true (toUnsigned (atoi (pos.drop 6)))
      modify fun s => { s with cmd := lit "MIRACAST 2" }
      return .forward
  | none => miracastShared cfg env

def miracast : CmdM Verdict := do
  let text ← argument 9
  let mode := UInt8.ofInt (atoi text)
  if mode = 0 ∨ mode = 1 then miracastShared cfg env
  else if mode = 2 then miracastSink cfg env
  else return .forward

/-- The channel for `p2p_use_mcc=`.  The frequency is `int`. -/
def useMccChannel (useMcc : UInt8) : CmdM Unit :=
  if useMcc ≠ 0 then configScc cfg env false 0
  else if env.sharedFreq.toInt > 0 then
    configScc cfg env true (toUnsigned env.sharedFreq.toInt)
  else configScc cfg env false 0

def p2pUseMcc : CmdM Verdict := do
  let text ← argument 12
  let useMcc := UInt8.ofInt (atoi text)
  let wpaS ← readWpaS env
  match wpaS.p2p with
  | none => throw .nullPointer
  | some p2p =>
      writeWpaS { wpaS with p2p := some { p2p with p2pUseMcc := useMcc } }
      useMccChannel cfg env useMcc
      return .done (-1)

/-! ## P2P tests -/

/-- One interface after `mcc`. -/
def Iface.setMcc (iface : Iface) (on : Bool) : Iface :=
  { iface with
    numMultichanConcurrent := if on then 2 else 0
    p2pConcurrent := on }

/-- The context after `mcc`; the loop over the interfaces reaches the P2P
configuration if there is an interface. -/
def Supplicant.setMcc (wpaS : Supplicant) (on : Bool) : Supplicant :=
  { wpaS with
    ifaces := wpaS.ifaces.map fun iface => iface.setMcc on
    p2p :=
      if wpaS.ifaces.isEmpty then wpaS.p2p
      else wpaS.p2p.map fun p2p =>
        { p2p with
          cfg := p2p.cfg.map fun pcfg =>
            { pcfg with concurrentOperations := if on then 1 else 0 } } }

def mcc : CmdM Verdict := do
  let wpaS ← readWpaS env
  if wpaS.drvPriv then
    match ← cutAtSpace 0 with
    | none => return .done (-1)
    | some value =>
        writeWpaS (wpaS.setMcc (atoi value ≠ 0))
        return .done 0
  else
    return .done (-1)

/-- `wpas_p2p_sigma_test_mode`. -/
def sigmaTestMode (wpaS : Supplicant) (index value : ℤ) : CmdM ℤ :=
  testmodeCall cfg env wpaS.drvPriv
    (.sigma (UInt32.ofInt index) (UInt32.ofInt value))

/-- `p2p_ctrl_iface_set_opps`. -/
def p2pSetOpps : CmdM Verdict := do
  let wpaS ← readWpaS env
  let text ← argument 13
  match ← cutAtSpace 13 with
  | none => throw .nullPointer
  | some str =>
      match env.hwaddrAton str with
      | none => return .done (-1)
      | some _ =>
          match strchr 32 str with
          | none => throw .nullPointer
          | some _ =>
              let _ ← sigmaTestMode cfg env wpaS 107 (atoi text)
              return .done 0

/-- `p2p_ctrl_iface_set_power_save`. -/
def p2pSetPowerSave : CmdM Verdict := do
  let wpaS ← readWpaS env
  let text ← argument 19
  let _ ← sigmaTestMode cfg env wpaS 108 (atoi text)
  return .done 0

/-- `p2p_ctrl_iface_set_sleep` on a part of the command. -/
def p2pSetSleep : CmdM Verdict := do
  let wpaS ← readWpaS env
  let text ← argument 14
  match env.hwaddrAton text with
  | none => return .done (-1)
  | some _ =>
      match ← cutAtSpace 14 with
      | none => throw .nullPointer
      | some _ =>
          let _ ← sigmaTestMode cfg env wpaS 106 0
          return .done 0

/-- The local text that stands in for a missing argument of `p2p_set_sleep`;
it contains a space. -/
def sleepDefault : CText :=
  lit "ff:ff:ff:ff:ff:ff \"\""

/-- `p2p_ctrl_iface_set_sleep` on the local text. -/
def p2pSetSleepDefault : CmdM Verdict := do
  let wpaS ← readWpaS env
  match env.hwaddrAton sleepDefault with
  | none => return .done (-1)
  | some _ =>
      let _ ← sigmaTestMode cfg env wpaS 106 0
      return .done 0

def setP2pScanCache : CmdM Verdict := do
  let text ← argument 19
  if atoi text ≠ 0 then
    perform .createCache
    if env.openCache < 0 then return .done 0
    else
      let wpaS ← readWpaS env
      writeWpaS { wpaS with p2pScanResCache := 1 }
      return .done 0
  else
    perform .removeCache
    let wpaS ← readWpaS env
    writeWpaS { wpaS with p2pScanResCache := 0 }
    return .done 0

/-! ## The remaining branches -/

/-- `wpas_wfd_data_update`. -/
def wpasWfdDataUpdate (wpaS : Supplicant) (p : WfdRequest) : CmdM ℤ :=
  match wfdRequestMessage p with
  | none => throw .outOfBounds
  | some params => testmodeCall cfg env wpaS.drvPriv (.wfdData params)

/-- The branch for `wfd_data_update`, which passes on the structure that the
buffer is read as. -/
def wfdDataUpdate : CmdM Verdict := do
  let wpaS ← readWpaS env
  let s ← get
  if s.buf.isNone then throw .nullPointer
  else
    let ret ← wpasWfdDataUpdate cfg env wpaS env.wfdData
    return .done ret

/-- The branch for `get_beamplus_go_ready`, which stores an `int` into the
buffer and leaves `ret` alone. -/
def getBeamplusGoReady : CmdM Verdict := do
  let s ← get
  match s.buf with
  | none => return .done (-1)
  | some buf =>
      let wpaS ← readWpaS env
      let _ ← testmodeCall cfg env wpaS.drvPriv .beamplusGoReady
      match goReadyValue env.goReady cfg env.exchange with
      | none => throw .blocked
      | some value =>
          modify fun s => { s with buf := some (store buf 0 (leBytes 4 value)) }
          return .done (-1)

/-- The branch for `set_beamplus`, which reads an `int` from the buffer and
leaves `ret` alone. -/
def setBeamplus : CmdM Verdict := do
  let s ← get
  match s.buf with
  | none => return .done (-1)
  | some buf =>
      let value := leValue (load buf 0 4)
      let wpaS ← readWpaS env
      let _ ← testmodeCall cfg env wpaS.drvPriv
        (.beamplus (UInt32.ofNat value))
      return .done (-1)

/-- The branch for `SETSUSPENDMODE`, which reads one character behind the
keyword, or the terminator. -/
def setSuspendMode : CmdM Verdict := do
  let text ← argument 15
  let _ ← testmodeCall cfg env true (.suspend (text.headD 0 - 48))
  return .forward

/-- The private ioctl.  The command is copied into the buffer first, with its
terminator and whatever the size of the buffer.  The reply to `WLS_BATCHING` is
measured with `strlen`, which is stopped where neither the buffer nor the copy
has a byte for it. -/
def privateCommand : CmdM ℤ := do
  let s ← get
  match s.buf with
  | none => throw .nullPointer
  | some buf =>
      let buf := env.privIoctl.answer (store buf 0 (s.cmd ++ [0]))
      set { s.log (.privateCommand s.cmd) with buf := some buf }
      if env.privIoctl.ret < 0 then return env.privIoctl.ret
      else if startsWithCase (lit "WLS_BATCHING") s.cmd then
        match C.string (load buf 0 (max env.bufLen (s.cmd.length + 1))) with
        | none => throw .outOfBounds
        | some text => return text.length
      else return env.privIoctl.usedLen

end

/-! ## Dispatch -/

/-- The branches of the function. -/
inductive Branch where
  | powermode | getStaStatistics | getStaLinkDetect | macaddr | country
  | start | stop | getpower | getRtsThreshold | setRtsThreshold
  | rxfilterAdd | rxfilterRemove | rxfilterStop | rxfilterStart
  | btcoexscanStart | btcoexscanStop | btcoexmode
  | smtRate | smtTestOn | smtTestOff
  | staBlock | staUnblock | setWapiKey | wapiMsgSend
  | p2pGetCap | p2pSetCap | miracast | p2pUseMcc | mcc
  | p2pSetOpps | p2pSetPowerSave | p2pSetSleep | p2pSetSleepDefault
  | setP2pScanCache | wfdDataUpdate | getBeamplusGoReady | setBeamplus
  | setBandDual | setBand2g4 | setBand5g | setScanLoading | setSuspendMode
  deriving DecidableEq, Repr

/-- How a command is compared with a keyword. -/
inductive Test where
  | strncmp
  | strncasecmp
  | strcasecmp
  deriving DecidableEq, Repr

def Test.holds : Test → CText → CText → Bool
  | .strncmp => startsWith
  | .strncasecmp => startsWithCase
  | .strcasecmp => equalsCase

/-- One `else if` of the function. -/
structure Row where
  branch : Branch
  test : Test
  keyword : String
  enabled : Config → Bool

def Row.selects (row : Row) (cfg : Config) (cmd : CText) : Bool :=
  row.enabled cfg && row.test.holds (lit row.keyword) cmd

/-- The comparisons in the order of the function. -/
def dispatch : List Row :=
  [ ⟨.powermode, .strncasecmp, "POWERMODE ", fun _ => true⟩,
    ⟨.getStaStatistics, .strncasecmp, "GET_STA_STATISTICS ", fun _ => true⟩,
    ⟨.getStaLinkDetect, .strncasecmp, "GET_STA_LINK_DETECT",
      Config.mtkPoorLinkDetect⟩,
    ⟨.macaddr, .strncmp, "MACADDR", fun _ => true⟩,
    ⟨.country, .strncasecmp, "COUNTRY", fun _ => true⟩,
    ⟨.start, .strcasecmp, "start", fun _ => true⟩,
    ⟨.stop, .strcasecmp, "stop", fun _ => true⟩,
    ⟨.getpower, .strncasecmp, "getpower", fun _ => true⟩,
    ⟨.getRtsThreshold, .strncasecmp, "get-rts-threshold", fun _ => true⟩,
    ⟨.setRtsThreshold, .strncasecmp, "set-rts-threshold", fun _ => true⟩,
    ⟨.rxfilterAdd, .strncasecmp, "rxfilter-add", fun _ => true⟩,
    ⟨.rxfilterRemove, .strncasecmp, "rxfilter-remove", fun _ => true⟩,
    ⟨.rxfilterStop, .strncasecmp, "rxfilter-stop", fun _ => true⟩,
    ⟨.rxfilterStart, .strncasecmp, "rxfilter-start", fun _ => true⟩,
    ⟨.btcoexscanStart, .strcasecmp, "btcoexscan-start", fun _ => true⟩,
    ⟨.btcoexscanStop, .strcasecmp, "btcoexscan-stop", fun _ => true⟩,
    ⟨.btcoexmode, .strncasecmp, "btcoexmode", fun _ => true⟩,
    ⟨.smtRate, .strncasecmp, "smt-rate", fun _ => true⟩,
    ⟨.smtTestOn, .strncasecmp, "smt-test-on", fun _ => true⟩,
    ⟨.smtTestOff, .strncasecmp, "smt-test-off", fun _ => true⟩,
    ⟨.staBlock, .strncmp, "STA-BLOCK ", Config.hotspotMgrSupport⟩,
    ⟨.staUnblock, .strncmp, "STA-UNBLOCK ", Config.hotspotMgrSupport⟩,
    ⟨.setWapiKey, .strncasecmp, "set-wapi-key", Config.wapiSupport⟩,
    ⟨.wapiMsgSend, .strncasecmp, "wapi-msg-send", Config.wapiSupport⟩,
    ⟨.p2pGetCap, .strncmp, "p2p_get_cap ", Config.mtkWfdSink⟩,
    ⟨.p2pSetCap, .strncmp, "p2p_set_cap ", Config.mtkWfdSink⟩,
    ⟨.miracast, .strncmp, "MIRACAST ", Config.mtkWfdSink⟩,
    ⟨.p2pUseMcc, .strncasecmp, "p2p_use_mcc=", Config.mtkSccMcc⟩,
    ⟨.mcc, .strncasecmp, "mcc", Config.mtkP2pSigma⟩,
    ⟨.p2pSetOpps, .strncmp, "p2p_set_opps ", Config.mtkP2pSigma⟩,
    ⟨.p2pSetPowerSave, .strncmp, "p2p_set_power_save ", Config.mtkP2pSigma⟩,
    ⟨.p2pSetSleep, .strncmp, "p2p_set_sleep ", Config.mtkP2pSigma⟩,
    ⟨.p2pSetSleepDefault, .strncmp, "p2p_set_sleep", Config.mtkP2pSigma⟩,
    ⟨.setP2pScanCache, .strncmp, "set_p2p_scan_cache ", Config.mtkP2pSigma⟩,
    ⟨.wfdDataUpdate, .strncmp, "wfd_data_update", Config.mtkP2p⟩,
    ⟨.getBeamplusGoReady, .strncmp, "get_beamplus_go_ready",
      Config.mediatekWifiBeam⟩,
    ⟨.setBeamplus, .strncmp, "set_beamplus", Config.mediatekWifiBeam⟩,
    ⟨.setBandDual, .strncasecmp, "set_band_dual", Config.mtkStageScan⟩,
    ⟨.setBand2g4, .strncasecmp, "set_band_2g4", Config.mtkStageScan⟩,
    ⟨.setBand5g, .strncasecmp, "set_band_5g", Config.mtkStageScan⟩,
    ⟨.setScanLoading, .strncasecmp, "set_scan_loading", Config.mtkStageScan⟩,
    ⟨.setSuspendMode, .strncasecmp, "SETSUSPENDMODE ", fun _ => true⟩ ]

/-- The branch a command is routed to; `none` is an unsupported command. -/
def selectBranch (cfg : Config) (cmd : CText) : Option Branch :=
  (dispatch.find? fun row => row.selects cfg cmd).map Row.branch

/-- Whichever way a keyword is compared with a command, the command begins
with it up to case. -/
theorem Test.prefix_of_holds
    {test : Test} {keyword cmd : CText} (h : test.holds keyword cmd = true) :
    keyword.map toLower <+: cmd.map toLower := by
  cases test with
  | strncmp => exact (List.isPrefixOf_iff_prefix.mp h).map toLower
  | strncasecmp => exact List.isPrefixOf_iff_prefix.mp h
  | strcasecmp => exact (beq_iff_eq.mp h) ▸ List.prefix_refl _

/-- A command is routed to the row of its keyword if no earlier keyword agrees
with that keyword. -/
theorem selectBranch_of_keyword
    {cfg : Config} {cmd : CText} (k : ℕ) {row : Row}
    (hrow : dispatch[k]? = some row) (henabled : row.enabled cfg = true)
    (hholds : row.test.holds (lit row.keyword) cmd = true)
    (hbefore : ∀ r ∈ dispatch.take k, startsWithCase
      ((lit r.keyword).take (lit row.keyword).length) (lit row.keyword) =
        false) :
    selectBranch cfg cmd = some row.branch := by
  obtain ⟨hk, hget⟩ := List.getElem?_eq_some_iff.mp hrow
  have hnone : (dispatch.take k).find? (fun r => r.selects cfg cmd) =
      none := by
    rw [List.find?_eq_none]
    intro r hr hselects
    have hother := Test.prefix_of_holds (Bool.and_eq_true_iff.mp hselects).2
    have htake : ((lit r.keyword).take (lit row.keyword).length).map toLower <+:
        cmd.map toLower :=
      ((List.take_prefix _ _).map toLower).trans hother
    have hagree := List.isPrefixOf_iff_prefix.mpr
      (List.prefix_of_prefix_length_le htake (Test.prefix_of_holds hholds)
        (by simp))
    exact absurd ((hbefore r hr).symm.trans hagree) (by decide)
  have hsplit : dispatch =
      dispatch.take k ++ row :: dispatch.drop (k + 1) := by
    rw [← hget, ← List.drop_eq_getElem_cons hk, List.take_append_drop]
  have hselects : row.selects cfg cmd = true :=
    Bool.and_eq_true_iff.mpr ⟨henabled, hholds⟩
  rw [selectBranch, hsplit, List.find?_append, hnone]
  simp [hselects]

/-- The branches, under the tests that select them. -/
def Branch.body (cfg : Config) (env : Env) (drv : Drv) :
    Branch → CmdM Verdict
  | .powermode => return .done (-1)
  | .getStaStatistics => Wifi.getStaStatistics cfg env
  | .getStaLinkDetect => Wifi.getStaLinkDetect cfg env
  | .macaddr => Wifi.macaddr env
  | .country => Wifi.country cfg env drv
  | .start => setFlags env drv true
  | .stop => Wifi.stop env drv
  | .getpower => return .done (-1)
  | .getRtsThreshold => return .done (-1)
  | .setRtsThreshold => return .done (-1)
  | .rxfilterAdd => indexedSwCmd cfg env 12 0x9F000000 0x00900200
  | .rxfilterRemove => indexedSwCmd cfg env 15 0x9F000000 0x00900300
  | .rxfilterStop => fixedSwCmd cfg env 0x9F000000 0x00900000
  | .rxfilterStart => fixedSwCmd cfg env 0x9F000000 0x00900100
  | .btcoexscanStart => return .done 0
  | .btcoexscanStop => return .done 0
  | .btcoexmode => return .done 0
  | .smtRate => indexedSwCmd cfg env 8 0xFFFF0123 0
  | .smtTestOn => fixedSwCmd cfg env 0xFFFF1234 0
  | .smtTestOff => fixedSwCmd cfg env 0xFFFF1235 0
  | .staBlock => Wifi.staBlock cfg env 10 1
  | .staUnblock => Wifi.staBlock cfg env 12 0
  | .setWapiKey => Wifi.setWapiKey cfg env
  | .wapiMsgSend => Wifi.wapiMsgSend env
  | .p2pGetCap => Wifi.p2pGetCap env
  | .p2pSetCap => Wifi.p2pSetCap env
  | .miracast => Wifi.miracast cfg env
  | .p2pUseMcc => Wifi.p2pUseMcc cfg env
  | .mcc => Wifi.mcc env
  | .p2pSetOpps => Wifi.p2pSetOpps cfg env
  | .p2pSetPowerSave => Wifi.p2pSetPowerSave cfg env
  | .p2pSetSleep => Wifi.p2pSetSleep cfg env
  | .p2pSetSleepDefault => Wifi.p2pSetSleepDefault cfg env
  | .setP2pScanCache => Wifi.setP2pScanCache env
  | .wfdDataUpdate => Wifi.wfdDataUpdate cfg env
  | .getBeamplusGoReady => Wifi.getBeamplusGoReady cfg env
  | .setBeamplus => Wifi.setBeamplus cfg env
  | .setBandDual => fixedSwCmd cfg env 0xFFFF1250 0
  | .setBand2g4 => fixedSwCmd cfg env 0xFFFF1251 0
  | .setBand5g => fixedSwCmd cfg env 0xFFFF1252 0
  | .setScanLoading => Wifi.setScanLoading cfg env
  | .setSuspendMode => Wifi.setSuspendMode cfg env

/-! ## The function -/

/-- The driver data, if the checks at the start of the function pass. -/
def openDrv (env : Env) (wpaS : Supplicant) : Option Drv :=
  match env.drv with
  | none => none
  | some drv =>
      if !drv.ctx then none
      else if env.isAp then some drv
      else if wpaS.conf.isNone then none
      else some drv

/-- The chain of comparisons. -/
def runBranch (cfg : Config) (env : Env) (drv : Drv) : CmdM Verdict := do
  let s ← get
  match selectBranch cfg s.cmd with
  | some branch => branch.body cfg env drv
  | none => return .forward

/-- The part of the function behind the chain of comparisons. -/
def conclude (env : Env) : Verdict → CmdM ℤ
  | .done ret => return ret
  | .forward => privateCommand env

/-- `wpa_driver_nl80211_driver_cmd`. -/
def wpaDriverNl80211DriverCmd (cfg : Config) (env : Env) : CmdM ℤ := do
  let s ← get
  match openDrv env s.wpaS with
  | none => return -1
  | some drv =>
      let verdict ← runBranch cfg env drv
      conclude env verdict

section

variable {cfg : Config} {env : Env} {s : CmdState} {drv : Drv}
  {branch : Branch} (hopen : openDrv env s.wpaS = some drv)
  (hselect : selectBranch cfg s.cmd = some branch)

include hopen hselect

/-- A command whose branch is known. -/
theorem driverCmd_run :
    (wpaDriverNl80211DriverCmd cfg env).run s =
      (branch.body cfg env drv >>= conclude env).run s := by
  simp only [wpaDriverNl80211DriverCmd, runBranch, EStateM.run_bind,
    EStateM.run_get, hopen, hselect]

theorem ends_driverCmd
    {Q : ℤ → CmdState → Prop} {E : Stop → CmdState → Prop} :
    Ends (wpaDriverNl80211DriverCmd cfg env) s Q E ↔
      Ends (branch.body cfg env drv) s
        (fun verdict t => Ends (conclude env verdict) t Q E) E := by
  rw [ends_congr (driverCmd_run hopen hselect), ends_bind]

end

/-! ## A plain environment -/

/-- One byte in hexadecimal digits. -/
def hexPair (a b : UInt8) : Option UInt8 :=
  match digitValue a, digitValue b with
  | some x, some y =>
      if x < 16 ∧ y < 16 then some (UInt8.ofNat (16 * x + y)) else none
  | _, _ => none

/-- `n` bytes in hexadecimal digits, separated by colons, at the head of a
text. -/
def parseAddr : ℕ → CText → Option (List UInt8)
  | 0, _ => some []
  | 1, a :: b :: _ => (hexPair a b).map fun byte => [byte]
  | n + 1, a :: b :: 58 :: rest =>
      match hexPair a b, parseAddr n rest with
      | some byte, some bytes => some (byte :: bytes)
      | _, _ => none
  | _, _ => none

/-- `hwaddr_aton` of the supplicant. -/
def hwaddrAton (text : CText) : Option EthAddr :=
  match parseAddr 6 text with
  | some bytes => if h : bytes.length = 6 then some ⟨bytes, h⟩ else none
  | none => none

def zeroAddr : EthAddr :=
  ⟨List.replicate 6 0, rfl⟩

/-- The interface of the station, idle, with a driver that accepts
everything. -/
def wlanEnv : Env where
  ifname := lit "wlan0"
  drv := some { ctx := true, associated := false, firstIfname := lit "wlan0" }
  bufLen := 4096
  wapiKey :=
    { addr := none, keyIdx := 0, setTx := 0, seq := none, seqLen := 0
      key := none, keyLen := 0 }
  wapiMsgInLen := 0
  wfdData :=
    { wfdCmdType := 0, wfdEnable := 0, wfdCoupleSinkStatus := 0
      wfdSessionAvailable := 0, wfdSigmaMode := 0, wfdDevInfo := 0
      wfdControlPort := 0, wfdMaximumTp := 0, wfdExtendCap := 0
      wfdCoupleSinkAddress := zeroAddr, wfdAssociatedBssid := zeroAddr
      wfdVideoIp := 0, wfdAudioIp := 0, wfdVideoPort := 0, wfdAudioPort := 0
      wfdFlag := 0, wfdPolicy := 0, wfdState := 0, tail := fun _ => 0
      wfdSessionInformationIELen := 0, wfdPrimarySinkMac := zeroAddr
      wfdSecondarySinkMac := zeroAddr, wfdAdvancedFlag := 0, wfdLocalIp := 0 }
  goReady := { state := 1, max := 1, pos := by decide, le_max := by decide }
  exchange := bareAck
  hwaddrAton := hwaddrAton
  sharedFreq := 0
  random := 0
  deauthenticate := 0
  setIfaceFlags := 0
  socket := 3
  countryIoctl := 0
  openCache := 4
  privIoctl := { ret := 0, usedLen := 0, answer := id }
  staRecord := fun _ _ => 0
  linkRecord := fun _ _ => 0
  locals := { opRegClass := 0, opChannel := 0 }

/-- P2P on channel 1, with no channels configured. -/
def plainP2p : P2pData where
  devCapab := 0
  opRegClass := 81
  opChannel := 1
  channels :=
    { regClasses := 0
      regClass := fun _ =>
        { regClass := 0, channel := fun _ => 0, channels := 0 } }
  cfg := some
    { channels :=
        { regClasses := 0
          regClass := fun _ =>
            { regClass := 0, channel := fun _ => 0, channels := 0 } }
      cfgOpChannel := 0
      concurrentOperations := 0 }
  p2pUseMcc := 0

def plainSupplicant : Supplicant where
  conf := some { p2pOperRegClass := 0, p2pOperChannel := 0 }
  p2p := some plainP2p
  ownAddr := zeroAddr
  drvPriv := true
  p2pScanResCache := 0
  ifaces := []

end SmartSurf.Wifi
