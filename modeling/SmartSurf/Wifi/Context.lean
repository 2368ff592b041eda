import SmartSurf.Support.Run
import SmartSurf.Wifi.Channels
import SmartSurf.Wifi.Steps

/-!
# The supplicant context over many commands

Most commands only read the context of the supplicant.  Five kinds of commands
write to it, and each of them touches a part of its own.  What a sequence of
commands leaves behind is therefore what these five kinds leave, whatever else
is called in between and on whichever interface.
-/

namespace SmartSurf.Wifi

open Support C

/-! ## Commands that write to the context -/

/-- The context after `p2p_set_cap`. -/
def capabilityUpdate (cmd : CText) (wpaS : Supplicant) : Supplicant :=
  match wpaS.p2p with
  | none => wpaS
  | some p2p =>
      if startsWith (lit "p2p_dev_capa ") (cmd.drop 12) then
        { wpaS with
          p2p := some { p2p with
            devCapab := UInt8.ofInt (atoi ((cmd.drop 12).drop 13)) } }
      else wpaS

/-- The arguments with which `p2p_use_mcc=` calls `p2p_wfd_sink_config_scc`. -/
def useMccRequest (env : Env) (useMcc : UInt8) : Bool × ℕ :=
  if useMcc ≠ 0 then (false, 0) else signedSharing env.sharedFreq

/-- The context after `p2p_use_mcc=`. -/
def useMccUpdate (cfg : Config) (env : Env) (cmd : CText)
    (wpaS : Supplicant) : Supplicant :=
  let useMcc := UInt8.ofInt (atoi (cmd.drop 12))
  if wpaS.p2p.isSome then
    requestResult cfg env (wpaS.setUseMcc useMcc)
      (some (useMccRequest env useMcc))
  else wpaS

/-- The switch given by an `mcc` command. -/
def mccSwitch (cmd : CText) : Option Bool :=
  (strchr 32 cmd).map fun value => decide (atoi value ≠ 0)

/-- The context after `mcc`. -/
def mccUpdate (cmd : CText) (wpaS : Supplicant) : Supplicant :=
  if wpaS.drvPriv then
    match mccSwitch cmd with
    | none => wpaS
    | some on => wpaS.setMcc on
  else wpaS

/-- The context after `set_p2p_scan_cache`. -/
def scanCacheUpdate (env : Env) (cmd : CText) (wpaS : Supplicant) :
    Supplicant :=
  if atoi (cmd.drop 19) ≠ 0 then
    if env.openCache < 0 then wpaS else { wpaS with p2pScanResCache := 1 }
  else { wpaS with p2pScanResCache := 0 }

/-- The context after a command, on an interface other than `ap0`. -/
def Branch.update (cfg : Config) (env : Env) (cmd : CText)
    (wpaS : Supplicant) : Branch → Supplicant
  | .p2pSetCap => capabilityUpdate cmd wpaS
  | .miracast => requestResult cfg env wpaS (miracastRequest env cmd)
  | .p2pUseMcc => useMccUpdate cfg env cmd wpaS
  | .mcc => mccUpdate cmd wpaS
  | .setP2pScanCache => scanCacheUpdate env cmd wpaS
  | _ => wpaS

section Writers

variable {cfg : Config} {env : Env} {s : CmdState}

theorem p2pSetCap_leaves (hap : env.isAp = false) :
    Leaves (p2pSetCap env) s (capabilityUpdate s.cmd s.wpaS) := by
  rw [Leaves, p2pSetCap, ends_bind, ends_argument, ends_bind, ends_readWpaS,
    if_neg (by simp [hap]), capabilityUpdate]
  cases s.wpaS.p2p with
  | none => rfl
  | some p2p =>
      simp only [ends_ite, ends_bind, ends_writeWpaS, ends_pure]
      split
      · rfl
      · split
        · rfl
        · rfl

theorem p2pUseMcc_leaves (hap : env.isAp = false) :
    Leaves (p2pUseMcc cfg env) s (useMccUpdate cfg env s.cmd s.wpaS) := by
  rw [Leaves, p2pUseMcc, ends_bind, ends_argument, ends_bind, ends_readWpaS,
    if_neg (by simp [hap]), useMccUpdate]
  generalize UInt8.ofInt (atoi (s.cmd.drop 12)) = useMcc
  cases hp2p : s.wpaS.p2p with
  | none => simp
  | some p2p =>
      have hset : { s.wpaS with p2p := some { p2p with p2pUseMcc := useMcc } } =
          s.wpaS.setUseMcc useMcc := by
        simp [Supplicant.setUseMcc, hp2p]
      simp only [ends_bind, ends_writeWpaS, hset, Option.isSome_some, if_true,
        ends_pure, useMccChannel, useMccRequest, signedSharing, ends_ite]
      split
      · exact configScc_leaves hap false 0
      · split
        · exact configScc_leaves hap true _
        · exact configScc_leaves hap false 0

theorem mcc_leaves (hap : env.isAp = false) :
    Leaves (mcc env) s (mccUpdate s.cmd s.wpaS) := by
  rw [Leaves, mcc, ends_bind, ends_readWpaS, if_neg (by simp [hap]), ends_ite,
    mccUpdate, mccSwitch]
  split
  · rw [ends_bind, ends_cutAtSpace, List.drop_zero]
    cases strchr 32 s.cmd with
    | none => simp
    | some value => simp
  · simp

theorem setP2pScanCache_leaves (hap : env.isAp = false) :
    Leaves (setP2pScanCache env) s (scanCacheUpdate env s.cmd s.wpaS) := by
  rw [Leaves, setP2pScanCache, ends_bind, ends_argument, ends_ite,
    scanCacheUpdate]
  simp only [ends_bind, ends_perform, ends_ite, ends_readWpaS, hap,
    Bool.false_eq_true, if_false, ends_writeWpaS, ends_pure]
  split
  · split
    · rfl
    · rfl
  · rfl

theorem Branch.update_of_not_writes
    {branch : Branch} (h : branch.writes = false) (cmd : CText)
    (wpaS : Supplicant) :
    branch.update cfg env cmd wpaS = wpaS := by
  cases branch with
  | p2pSetCap => cases h
  | miracast => cases h
  | p2pUseMcc => cases h
  | mcc => cases h
  | setP2pScanCache => cases h
  | _ => rfl

/-- What a command leaves of the context. -/
theorem Branch.leaves_update (hap : env.isAp = false) (branch : Branch)
    (drv : Drv) :
    Leaves (branch.body cfg env drv) s
      (branch.update cfg env s.cmd s.wpaS) := by
  by_cases hwrites : branch.writes = true
  · cases branch with
    | p2pSetCap => exact p2pSetCap_leaves hap
    | miracast => exact miracast_leaves hap
    | p2pUseMcc => exact p2pUseMcc_leaves hap
    | mcc => exact mcc_leaves hap
    | setP2pScanCache => exact setP2pScanCache_leaves hap
    | _ => cases hwrites
  · have hreads : branch.writes = false := Bool.eq_false_iff.mpr hwrites
    rw [Branch.update_of_not_writes hreads, leaves_iff]
    exact (branch.steps cfg env drv s).wpaS_eq hreads

/-- On the access point interface no command touches the context. -/
theorem Branch.leaves_of_isAp (hap : env.isAp = true) (branch : Branch)
    (drv : Drv) :
    Leaves (branch.body cfg env drv) s s.wpaS := by
  by_cases hwrites : branch.writes = true
  · cases branch with
    | p2pSetCap => simp [Leaves, Branch.body, Wifi.p2pSetCap, hap]
    | miracast => exact Wifi.leaves_of_isAp hap (.inl rfl) drv
    | p2pUseMcc => exact Wifi.leaves_of_isAp hap (.inr rfl) drv
    | mcc => simp [Leaves, Branch.body, Wifi.mcc, hap]
    | setP2pScanCache =>
        simp only [Leaves, Branch.body, Wifi.setP2pScanCache, ends_bind,
          ends_argument, ends_ite, ends_perform, ends_readWpaS, hap, if_true,
          ends_pure]
        split
        · split
          · rfl
          · rfl
        · rfl
    | _ => cases hwrites
  · rw [leaves_iff]
    exact (branch.steps cfg env drv s).wpaS_eq (Bool.eq_false_iff.mpr hwrites)

end Writers

/-! ## Many commands -/

/-- A call of the command function. -/
structure DriverCall where
  env : Env
  cmd : CText
  buf : Option Buffer

def DriverCall.state (c : DriverCall) (wpaS : Supplicant) : CmdState :=
  .given wpaS c.cmd c.buf

/-- The context after a call. -/
def contextStep (cfg : Config) (wpaS : Supplicant) (c : DriverCall) :
    Supplicant :=
  (stateAfter (wpaDriverNl80211DriverCmd cfg c.env) (c.state wpaS)).wpaS

/-- What a call does to a context that it reaches. -/
def DriverCall.update (cfg : Config) (c : DriverCall) (wpaS : Supplicant) :
    Supplicant :=
  match selectBranch cfg c.cmd with
  | none => wpaS
  | some branch => branch.update cfg c.env c.cmd wpaS

/-- An unsupported command goes to the private ioctl. -/
theorem driverCmd_leaves_of_unsupported
    {cfg : Config} {env : Env} {s : CmdState}
    (hselect : selectBranch cfg s.cmd = none) :
    Leaves (wpaDriverNl80211DriverCmd cfg env) s s.wpaS := by
  rw [Leaves, wpaDriverNl80211DriverCmd, ends_bind, ends_get]
  cases openDrv env s.wpaS with
  | none => simp
  | some drv =>
      simp only [runBranch, ends_bind, ends_get, hselect, ends_pure]
      exact conclude_leaves .forward

/-- What a call leaves of the context. -/
theorem contextStep_eq (cfg : Config) (wpaS : Supplicant) (c : DriverCall) :
    contextStep cfg wpaS c =
      if ReachesWpaS c.env wpaS then c.update cfg wpaS else wpaS := by
  rw [contextStep, DriverCall.update, ← leaves_iff]
  cases hselect : selectBranch cfg c.cmd with
  | none =>
      rw [ite_self]
      exact driverCmd_leaves_of_unsupported hselect
  | some branch =>
      cases hopen : openDrv c.env wpaS with
      | none =>
          rw [if_neg (by simp [ReachesWpaS, hopen])]
          exact driverCmd_leaves_of_not_admitted hopen
      | some drv =>
          apply driverCmd_leaves hopen hselect
          cases hap : c.env.isAp with
          | false =>
              rw [if_pos ⟨by simp [hopen], hap⟩]
              exact branch.leaves_update hap drv
          | true =>
              rw [if_neg (by simp [ReachesWpaS, hap])]
              exact branch.leaves_of_isAp hap drv

end SmartSurf.Wifi
