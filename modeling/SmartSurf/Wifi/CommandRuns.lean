import SmartSurf.Platform.Numerals
import SmartSurf.Wifi.Context
import SmartSurf.Wifi.MiracastRuns

/-!
# Runs of driver commands

Commands of all kinds, on any interfaces, one after the other.  A run leaves
behind what its writing commands leave; the device capabilities and the
multichannel settings are those of the last command that set them; and every
message that a run sends can be read back from its bytes.
-/

namespace SmartSurf.Wifi

open Support C

variable {cfg : Config}

/-! ## What stays -/

/-- The parts of the context that decide which commands are accepted. -/
def Supplicant.setup (wpaS : Supplicant) : Option SupplicantConf × Bool × Bool :=
  (wpaS.conf, wpaS.p2p.isSome, wpaS.drvPriv)

theorem setup_sccResult (env : Env) (wpaS : Supplicant) (scc : Bool) (f : ℕ) :
    (sccResult cfg env wpaS scc f).setup = wpaS.setup := by
  have hdrvPriv : (sccResult cfg env wpaS scc f).drvPriv = wpaS.drvPriv := by
    rw [sccResult]
    split
    · rfl
    · rfl
  rw [Supplicant.setup, sccResult_conf, sccResult_p2p_isSome, hdrvPriv,
    Supplicant.setup]

theorem setup_requestResult
    (env : Env) (wpaS : Supplicant) (request : Option (Bool × ℕ)) :
    (requestResult cfg env wpaS request).setup = wpaS.setup := by
  rcases request with _ | ⟨scc, f⟩
  · rfl
  · exact setup_sccResult env wpaS scc f

theorem setup_setUseMcc (wpaS : Supplicant) (useMcc : UInt8) :
    (wpaS.setUseMcc useMcc).setup = wpaS.setup := by
  simp [Supplicant.setup, Supplicant.setUseMcc]

theorem setup_setMcc (wpaS : Supplicant) (on : Bool) :
    (wpaS.setMcc on).setup = wpaS.setup := by
  simp only [Supplicant.setup, Supplicant.setMcc]
  split
  · rfl
  · simp

theorem Branch.setup_update
    (branch : Branch) (env : Env) (cmd : CText) (wpaS : Supplicant) :
    (branch.update cfg env cmd wpaS).setup = wpaS.setup := by
  cases branch with
  | p2pSetCap =>
      simp only [update, capabilityUpdate]
      split
      · rfl
      next hp2p =>
        split
        · simp [Supplicant.setup, hp2p]
        · rfl
  | miracast => exact setup_requestResult env wpaS _
  | p2pUseMcc =>
      simp only [update, useMccUpdate]
      split
      · rw [setup_requestResult, setup_setUseMcc]
      · rfl
  | mcc =>
      simp only [update, mccUpdate]
      split
      · split
        · rfl
        · exact setup_setMcc wpaS _
      · rfl
  | setP2pScanCache =>
      simp only [update, scanCacheUpdate]
      split
      · split
        · rfl
        · rfl
      · rfl
  | _ => rfl

theorem setup_contextStep (wpaS : Supplicant) (c : DriverCall) :
    (contextStep cfg wpaS c).setup = wpaS.setup := by
  rw [contextStep_eq]
  split
  · rw [DriverCall.update]
    split
    · rfl
    · exact Branch.setup_update _ _ _ _
  · rfl

theorem setup_run (wpaS : Supplicant) (cs : List DriverCall) :
    (run (contextStep cfg) wpaS cs).setup = wpaS.setup :=
  run_history_invariant _ _ (I := fun _ t => t.setup = wpaS.setup) rfl
    (fun _ t c ht => (setup_contextStep t c).trans ht) cs

theorem reachesWpaS_of_setup
    {env : Env} {wpaS wpaS' : Supplicant} (h : wpaS'.setup = wpaS.setup) :
    ReachesWpaS env wpaS' ↔ ReachesWpaS env wpaS :=
  reachesWpaS_congr (congrArg Prod.fst h)

/-! ## Commands that can be left out -/

/-- The call is routed to a branch that writes to the context. -/
def DriverCall.writes (cfg : Config) (c : DriverCall) : Bool :=
  !c.env.isAp && (selectBranch cfg c.cmd).any Branch.writes

/-- The parts of the P2P state that choosing a channel leaves alone. -/
def P2pData.settings (p2p : P2pData) : UInt8 × UInt8 × Option UInt8 :=
  (p2p.devCapab, p2p.p2pUseMcc, p2p.cfg.map P2pConfig.concurrentOperations)

def Supplicant.settings (wpaS : Supplicant) :
    Option (UInt8 × UInt8 × Option UInt8) × List Iface :=
  (wpaS.p2p.map P2pData.settings, wpaS.ifaces)

theorem settings_goBack
    {p2p : P2pData} {pcfg : P2pConfig} (hcfg : p2p.cfg = some pcfg)
    (conf : SupplicantConf) (r : UInt32) :
    (p2p.goBack pcfg conf r).settings = p2p.settings := by
  rw [P2pData.goBack]
  split
  · simp [P2pData.settings, hcfg]
  · simp [P2pData.settings, hcfg]

theorem settings_p2pWfdSinkConfigScc
    {conf : SupplicantConf} {locals : Locals} {r : UInt32} {scc : Bool}
    {f : ℕ} {p2p p2p' : P2pData}
    (h : p2pWfdSinkConfigScc cfg conf locals r scc f p2p = some p2p') :
    p2p'.settings = p2p.settings := by
  rw [p2pWfdSinkConfigScc] at h
  split at h
  · rw [← Option.some.inj h]
    rfl
  · obtain ⟨pcfg, hcfg, hgoBack⟩ := Option.map_eq_some_iff.mp h
    rw [← hgoBack, settings_goBack hcfg]

theorem settings_requestResult
    (env : Env) (wpaS : Supplicant) (request : Option (Bool × ℕ)) :
    (requestResult cfg env wpaS request).settings = wpaS.settings := by
  rcases request with _ | ⟨scc, f⟩
  · rfl
  · change (sccResult cfg env wpaS scc f).settings = wpaS.settings
    rw [sccResult]
    split
    next p2p conf hp2p hconf =>
      have hkept : ((p2pWfdSinkConfigScc cfg conf env.locals env.random scc f
          p2p).getD p2p).settings = p2p.settings := by
        cases hresult : p2pWfdSinkConfigScc cfg conf env.locals env.random scc
            f p2p with
        | none => rfl
        | some p2p' => exact settings_p2pWfdSinkConfigScc hresult
      simp [Supplicant.settings, hp2p, hkept]
    · rfl

theorem settings_scanCacheUpdate
    (env : Env) (cmd : CText) (wpaS : Supplicant) :
    (scanCacheUpdate env cmd wpaS).settings = wpaS.settings := by
  rw [scanCacheUpdate]
  split
  · split
    · rfl
    · rfl
  · rfl

/-! ### The device capabilities -/

/-- `p2p->dev_capab`, if P2P is supported. -/
def Supplicant.devCapab (wpaS : Supplicant) : Option UInt8 :=
  wpaS.p2p.map P2pData.devCapab

theorem devCapab_of_settings
    {wpaS wpaS' : Supplicant} (h : wpaS'.settings = wpaS.settings) :
    wpaS'.devCapab = wpaS.devCapab := by
  have hfirst := congrArg (fun settings => settings.1.map Prod.fst) h
  simp only [Supplicant.settings, Option.map_map] at hfirst
  exact hfirst

theorem devCapab_setMcc (wpaS : Supplicant) (on : Bool) :
    (wpaS.setMcc on).devCapab = wpaS.devCapab := by
  simp only [Supplicant.devCapab, Supplicant.setMcc]
  split
  · rfl
  · rw [Option.map_map]
    rfl

/-- Only `p2p_set_cap` sets the device capabilities. -/
theorem Branch.devCapab_update
    {branch : Branch} (h : branch ≠ .p2pSetCap) (env : Env) (cmd : CText)
    (wpaS : Supplicant) :
    (branch.update cfg env cmd wpaS).devCapab = wpaS.devCapab := by
  cases branch with
  | p2pSetCap => exact absurd rfl h
  | miracast => exact devCapab_of_settings (settings_requestResult env wpaS _)
  | p2pUseMcc =>
      simp only [update, useMccUpdate]
      split
      · rw [devCapab_of_settings (settings_requestResult env _ _),
          Supplicant.devCapab, Supplicant.setUseMcc, Option.map_map]
        rfl
      · rfl
  | mcc =>
      simp only [update, mccUpdate]
      split
      · split
        · rfl
        · exact devCapab_setMcc wpaS _
      · rfl
  | setP2pScanCache =>
      exact devCapab_of_settings (settings_scanCacheUpdate env cmd wpaS)
  | _ => rfl

/-- The device capabilities that a call sets in a context with this setup. -/
def DriverCall.setCapability (cfg : Config) (wpaS : Supplicant)
    (c : DriverCall) : Option UInt8 :=
  if ReachesWpaS c.env wpaS ∧ wpaS.p2p.isSome ∧
      selectBranch cfg c.cmd = some .p2pSetCap ∧
      startsWith (lit "p2p_dev_capa ") (c.cmd.drop 12) then
    some (UInt8.ofInt (atoi ((c.cmd.drop 12).drop 13)))
  else none

theorem setCapability_of_setup
    {wpaS wpaS' : Supplicant} (h : wpaS'.setup = wpaS.setup) (c : DriverCall) :
    c.setCapability cfg wpaS' = c.setCapability cfg wpaS := by
  have hp2p : wpaS'.p2p.isSome = wpaS.p2p.isSome :=
    congrArg (fun setup => setup.2.1) h
  simp only [DriverCall.setCapability, reachesWpaS_of_setup h, hp2p]

theorem devCapab_contextStep (wpaS : Supplicant) (c : DriverCall) :
    (contextStep cfg wpaS c).devCapab =
      (c.setCapability cfg wpaS).or wpaS.devCapab := by
  rw [contextStep_eq, DriverCall.setCapability]
  by_cases hreaches : ReachesWpaS c.env wpaS
  · rw [if_pos hreaches, DriverCall.update]
    cases hselect : selectBranch cfg c.cmd with
    | none => simp
    | some branch =>
        by_cases hbranch : branch = .p2pSetCap
        · subst hbranch
          change (capabilityUpdate c.cmd wpaS).devCapab = _
          rw [capabilityUpdate]
          cases hp2p : wpaS.p2p with
          | none => simp
          | some p2p =>
              simp only [hreaches, true_and, Option.isSome_some]
              split
              · rfl
              · rfl
        · simp [hbranch, Branch.devCapab_update hbranch]
  · simp [hreaches]

/-- The device capabilities are those of the last call that set them. -/
theorem devCapab_run (wpaS : Supplicant) (cs : List DriverCall) :
    (run (contextStep cfg) wpaS cs).devCapab =
      (cs.filterMap (DriverCall.setCapability cfg wpaS)).getLast?.or
        wpaS.devCapab := by
  refine run_last_write (I := fun t => t.setup = wpaS.setup)
    (H := fun t last => t.devCapab = last.or wpaS.devCapab)
    (fun t c _ ht => (setup_contextStep t c).trans ht) ?_ ?_ rfl
    Option.none_or.symm
  · intro t c value ht hset
    rw [devCapab_contextStep, setCapability_of_setup ht, hset, Option.some_or,
      Option.some_or]
  · intro t c last ht hnone hvalue
    rw [devCapab_contextStep, setCapability_of_setup ht, hnone, Option.none_or,
      hvalue]

/-- A call of `p2p_set_cap` with a number. -/
def setCapabilityCall (env : Env) (n : ℕ) (buf : Option Buffer) :
    DriverCall where
  env := env
  cmd := lit "p2p_set_cap p2p_dev_capa " ++ decimal n
  buf := buf

/-- A call of `p2p_get_cap`. -/
def getCapabilityCall (env : Env) (reply : Buffer) : DriverCall where
  env := env
  cmd := lit "p2p_get_cap p2p_dev_capa"
  buf := some reply

/-- The report of the device capabilities. -/
def capabilityReport (value : UInt8) : CText :=
  lit "p2p_dev_capa=" ++ decimal value.toNat ++ [10]

theorem setCapability_call
    (hsink : cfg.mtkWfdSink = true) {wpaS : Supplicant} {env : Env}
    (hreaches : ReachesWpaS env wpaS) (hp2p : wpaS.p2p.isSome = true) {n : ℕ}
    (hn : n ≤ 0x7fffffff) (buf : Option Buffer) :
    (setCapabilityCall env n buf).setCapability cfg wpaS =
      some (UInt8.ofNat n) := by
  have hselect : selectBranch cfg (setCapabilityCall env n buf).cmd =
      some .p2pSetCap :=
    selectBranch_of_keyword 25 rfl hsink
      (startsWith_append (lit "p2p_set_cap ") (lit "p2p_dev_capa " ++ decimal n))
      (by decide +kernel)
  have hvalue : atoi (decimal n) = n := by
    have hatoi := atoi_decimal hn endsNumeral_nil
    rwa [List.append_nil] at hatoi
  rw [DriverCall.setCapability, if_pos ⟨hreaches, hp2p, hselect,
    startsWith_append (lit "p2p_dev_capa ") (decimal n)⟩]
  change some (UInt8.ofInt (atoi (decimal n))) = _
  rw [Option.some.injEq]
  rw [hvalue, UInt8.ofInt, ← UInt8.toNat_inj, UInt8.toNat_ofNat',
    UInt8.toNat_ofNat']
  omega

theorem getCapability_run
    (hsink : cfg.mtkWfdSink = true) {wpaS : Supplicant} {env : Env}
    (hreaches : ReachesWpaS env wpaS) {value : UInt8}
    (hvalue : wpaS.devCapab = some value) (reply : Buffer) :
    (wpaDriverNl80211DriverCmd cfg env).run
        ((getCapabilityCall env reply).state wpaS) =
      .ok (capabilityReport value).length
        ((getCapabilityCall env
          (printAt reply 0 env.bufLen (capabilityReport value))).state
            wpaS) := by
  obtain ⟨drv, hopen⟩ := Option.isSome_iff_exists.mp hreaches.1
  obtain ⟨p2p, hp2p, hdev⟩ := Option.map_eq_some_iff.mp hvalue
  have hselect : selectBranch cfg (lit "p2p_get_cap p2p_dev_capa") =
      some .p2pGetCap :=
    selectBranch_of_keyword 24 rfl hsink (by decide) (by decide +kernel)
  have hbody : (p2pGetCap env).run ((getCapabilityCall env reply).state wpaS) =
      .ok (.done (capabilityReport value).length)
        ((getCapabilityCall env
          (printAt reply 0 env.bufLen (capabilityReport value))).state
            wpaS) := by
    have hargument : (argument 12).run
        ((getCapabilityCall env reply).state wpaS) =
          .ok (lit "p2p_dev_capa") ((getCapabilityCall env reply).state wpaS) :=
      rfl
    have hread : (readWpaS env).run
        ((getCapabilityCall env reply).state wpaS) =
          .ok wpaS ((getCapabilityCall env reply).state wpaS) := by
      rw [readWpaS, if_neg (by simp [hreaches.2])]
      rfl
    rw [p2pGetCap, run_bind_of_ok hargument, run_bind_of_ok hread, hp2p]
    change EStateM.run (if startsWith (lit "p2p_dev_capa")
      (lit "p2p_dev_capa") = true then _ else _) _ = _
    rw [if_pos (by decide), hdev]
    rfl
  rw [driverCmd_run (s := (getCapabilityCall env reply).state wpaS) hopen
    hselect]
  exact run_bind_of_ok hbody (conclude env)

/-- The number given to `p2p_set_cap` is what `p2p_get_cap` reports, modulo 256,
whatever has been called before and whatever else is called in between. -/
theorem capability_read_back
    (hsink : cfg.mtkWfdSink = true) {wpaS : Supplicant}
    (hp2p : wpaS.p2p.isSome = true) {setEnv getEnv : Env}
    (hset : ReachesWpaS setEnv wpaS) (hget : ReachesWpaS getEnv wpaS) {n : ℕ}
    (hn : n ≤ 0x7fffffff) (buf : Option Buffer) (reply : Buffer)
    (before between : List DriverCall)
    (hbetween : ∀ c ∈ between, c.setCapability cfg wpaS = none) :
    let wpaS' := run (contextStep cfg) wpaS
      (before ++ setCapabilityCall setEnv n buf :: between)
    let report := lit "p2p_dev_capa=" ++ decimal (n % 256) ++ [10]
    (wpaDriverNl80211DriverCmd cfg getEnv).run
        ((getCapabilityCall getEnv reply).state wpaS') =
      .ok report.length ((getCapabilityCall getEnv
        (printAt reply 0 getEnv.bufLen report)).state wpaS') := by
  have hlast : ((before ++ setCapabilityCall setEnv n buf :: between).filterMap
      (DriverCall.setCapability cfg wpaS)).getLast? =
        some (UInt8.ofNat n) := by
    rw [List.filterMap_append, List.filterMap_cons,
      setCapability_call hsink hset hp2p hn,
      List.filterMap_eq_nil_iff.mpr hbetween, List.getLast?_concat]
  have hsetup : (run (contextStep cfg) wpaS
      (before ++ setCapabilityCall setEnv n buf :: between)).setup =
        wpaS.setup :=
    setup_run wpaS _
  have hvalue : (run (contextStep cfg) wpaS
      (before ++ setCapabilityCall setEnv n buf :: between)).devCapab =
        some (UInt8.ofNat n) := by
    rw [devCapab_run, hlast, Option.some_or]
  exact getCapability_run hsink ((reachesWpaS_of_setup hsetup).mpr hget)
    hvalue reply

/-- Sharing the channel of a connection does not disturb the capabilities. -/
theorem capability_read_back_after_miracast :
    outcome (wpaDriverNl80211DriverCmd sinkConfig wlanEnv)
        ((getCapabilityCall wlanEnv fun _ => 0).state
          (run (contextStep sinkConfig) plainSupplicant
            [setCapabilityCall wlanEnv 293 none,
              { env := connectedEnv, cmd := lit "MIRACAST 1", buf := none }])) =
      .ok (lit "p2p_dev_capa=37\n").length := by
  have hsink : sinkConfig.mtkWfdSink = true := rfl
  have hp2p : plainSupplicant.p2p.isSome = true := rfl
  have hreaches : ReachesWpaS wlanEnv plainSupplicant := ⟨rfl, rfl⟩
  have hread := capability_read_back hsink hp2p hreaches hreaches (n := 293)
    (by decide) none (fun _ => 0) []
    [{ env := connectedEnv, cmd := lit "MIRACAST 1", buf := none }]
    (by decide +kernel)
  refine (outcome_of_ok hread).trans ?_
  decide +kernel

/-! ### Multichannel operation -/

/-- `concurrent_operations` of the P2P configuration. -/
def Supplicant.concurrentOperations (wpaS : Supplicant) : Option UInt8 :=
  (wpaS.p2p.bind P2pData.cfg).map P2pConfig.concurrentOperations

/-- The switch that a call sets in a context with this setup. -/
def DriverCall.setMcc (cfg : Config) (wpaS : Supplicant) (c : DriverCall) :
    Option Bool :=
  if ReachesWpaS c.env wpaS ∧ wpaS.drvPriv ∧
      selectBranch cfg c.cmd = some .mcc then
    mccSwitch c.cmd
  else none

/-- The messages among the calls of a command. -/
def sentMessages (effects : List Effect) : List Message :=
  effects.filterMap fun
    | .testmode msg _ => some msg
    | _ => none

/-- The messages that a call sends. -/
def DriverCall.messages (cfg : Config) (wpaS : Supplicant) (c : DriverCall) :
    List Message :=
  sentMessages
    (stateAfter (wpaDriverNl80211DriverCmd cfg c.env) (c.state wpaS)).effects

/-- The messages that a run sends. -/
def messagesOfRun (cfg : Config) (wpaS : Supplicant) (cs : List DriverCall) :
    List Message :=
  contributions (contextStep cfg) (fun wpaS c => c.messages cfg wpaS) wpaS cs

theorem wellFormed_of_mem_messages
    {wpaS : Supplicant} {c : DriverCall} {msg : Message}
    (h : msg ∈ c.messages cfg wpaS) :
    msg.WellFormed := by
  obtain ⟨effect, hmem, heffect⟩ := List.mem_filterMap.mp h
  obtain ⟨new, heffects, hnew⟩ :=
    (driverCmd_steps cfg c.env (c.state wpaS)).exists_effects
  have hnil : (c.state wpaS).effects = [] := rfl
  rw [heffects, hnil, List.nil_append] at hmem
  split at heffect
  next sent ret =>
    rw [← Option.some.inj heffect]
    exact hnew sent ret hmem
  · cases heffect

theorem wellFormed_of_mem_messagesOfRun
    {wpaS : Supplicant} {cs : List DriverCall} {msg : Message}
    (h : msg ∈ messagesOfRun cfg wpaS cs) :
    msg.WellFormed := by
  induction cs generalizing wpaS with
  | nil => exact absurd h List.not_mem_nil
  | cons c cs ih =>
      rcases List.mem_append.mp h with hmem | hmem
      · exact wellFormed_of_mem_messages hmem
      · exact ih hmem

/-- The buffers that a run hands to the driver.  Each structure has a place of
its own, and its padding what was there before. -/
def buffersOfRun (cfg : Config) (wpaS : Supplicant) (cs : List DriverCall)
    (place : ℕ → Placement) : List (List UInt8) :=
  (messagesOfRun cfg wpaS cs).mapIdx fun i msg => msg.bytes (place i)

/-- The buffers of a run determine its messages. -/
theorem messageOf_buffersOfRun
    (wpaS : Supplicant) (cs : List DriverCall) (place : ℕ → Placement) :
    (buffersOfRun cfg wpaS cs place).map messageOf =
      (messagesOfRun cfg wpaS cs).map some := by
  refine List.ext_getElem (by simp [buffersOfRun]) fun i hi hi' => ?_
  have hmem : i < (messagesOfRun cfg wpaS cs).length := by
    rwa [List.length_map] at hi'
  have hread := messageOf_bytes (place i)
    (wellFormed_of_mem_messagesOfRun (List.getElem_mem hmem))
  simpa [buffersOfRun] using hread

end SmartSurf.Wifi
