import SmartSurf.Wifi.Commands

/-!
# Commands on the access point interface

On the interface `ap0` the variable `wpa_s` is left unassigned.  A command does
not use it exactly when its branch gets by without the supplicant context,
which is what `Branch.ReadsWpaS` lists.
-/

namespace SmartSurf.Wifi

open Support C

/-- The branch evaluates the variable `wpa_s`. -/
def Branch.ReadsWpaS (env : Env) (drv : Drv) (s : CmdState) : Branch → Prop
  | .getStaStatistics => True
  | .getStaLinkDetect => True
  | .macaddr => True
  | .stop => drv.associated = true
  | .p2pGetCap => True
  | .p2pSetCap => True
  | .miracast =>
      UInt8.ofInt (atoi (s.cmd.drop 9)) = 0 ∨
        UInt8.ofInt (atoi (s.cmd.drop 9)) = 1 ∨
        UInt8.ofInt (atoi (s.cmd.drop 9)) = 2
  | .p2pUseMcc => True
  | .mcc => True
  | .p2pSetOpps => True
  | .p2pSetPowerSave => True
  | .p2pSetSleep => True
  | .p2pSetSleepDefault => True
  | .setP2pScanCache => atoi (s.cmd.drop 19) = 0 ∨ 0 ≤ env.openCache
  | .wfdDataUpdate => True
  | .getBeamplusGoReady => s.buf.isSome = true
  | .setBeamplus => s.buf.isSome = true
  | _ => False

/-- The command is routed to a branch that evaluates the variable. -/
def ReadsWpaS (cfg : Config) (env : Env) (s : CmdState) : Prop :=
  ∃ drv branch, openDrv env s.wpaS = some drv ∧
    selectBranch cfg s.cmd = some branch ∧ branch.ReadsWpaS env drv s

/-- The unassigned variable has not been read. -/
def NotRead (stop : Stop) (_ : CmdState) : Prop :=
  stop ≠ .unassigned

@[simp] theorem notRead_iff {stop : Stop} {t : CmdState} :
    NotRead stop t ↔ stop ≠ .unassigned :=
  Iff.rfl

/-- The computation does not read the variable. -/
def AvoidsWpaS {α : Type} (x : CmdM α) (s : CmdState) : Prop :=
  Ends x s (fun _ _ => True) NotRead

theorem outcome_ne_unassigned_iff
    {α : Type} {x : CmdM α} {s : CmdState} :
    outcome x s ≠ .error .unassigned ↔ AvoidsWpaS x s :=
  outcome_ne_error_iff

/-! ## Branches without the context -/

section

variable {cfg : Config} {env : Env} {s : CmdState}

theorem AvoidsWpaS.bind
    {α β : Type} {x : CmdM α} {f : α → CmdM β}
    (hx : AvoidsWpaS x s) (hf : ∀ a t, AvoidsWpaS (f a) t) :
    AvoidsWpaS (x >>= f) s := by
  rw [AvoidsWpaS, ends_bind]
  exact hx.mono fun a t _ => hf a t

theorem avoids_testmodeCall (priv : Bool) (msg : Message) :
    AvoidsWpaS (testmodeCall cfg env priv msg) s := by
  rw [AvoidsWpaS, ends_testmodeCall]
  split
  · simp
  · cases testmodeValue cfg env.exchange with
    | none => simp
    | some ret => simp

theorem avoids_return {α : Type} (a : α) : AvoidsWpaS (pure a) s :=
  ends_pure.mpr trivial

theorem avoids_country {drv : Drv} :
    AvoidsWpaS (country cfg env drv) s := by
  simp [AvoidsWpaS, country, setCountry]

theorem avoids_setFlags {drv : Drv} {up : Bool} :
    AvoidsWpaS (setFlags env drv up) s := by
  simp [AvoidsWpaS, setFlags]

theorem avoids_wapiMsgSend : AvoidsWpaS (wapiMsgSend env) s := by
  simp [AvoidsWpaS, wapiMsgSend]

theorem avoids_driverSwCmd (adr data : UInt32) :
    AvoidsWpaS (driverSwCmd cfg env adr data) s :=
  (avoids_testmodeCall true _).bind fun _ _ => avoids_return _

theorem avoids_fixedSwCmd (adr data : UInt32) :
    AvoidsWpaS (fixedSwCmd cfg env adr data) s :=
  (avoids_driverSwCmd adr data).bind fun _ _ => avoids_return _

theorem avoids_indexedSwCmd (n : ℕ) (adr offset : UInt32) :
    AvoidsWpaS (indexedSwCmd cfg env n adr offset) s := by
  rw [AvoidsWpaS, indexedSwCmd, ends_bind, ends_argument]
  cases strtol 0 (s.cmd.drop n) with
  | none => exact avoids_return _
  | some idx =>
      exact (avoids_driverSwCmd adr _).bind fun _ _ => avoids_return _

theorem avoids_setScanLoading : AvoidsWpaS (setScanLoading cfg env) s := by
  apply (avoids_driverSwCmd _ _).bind
  intro _ t
  simp [AvoidsWpaS]

theorem avoids_staBlock (n : ℕ) (blocked : UInt8) :
    AvoidsWpaS (staBlock cfg env n blocked) s := by
  rw [AvoidsWpaS, staBlock, ends_bind, ends_argument]
  cases env.hwaddrAton (s.cmd.drop n) with
  | none => exact avoids_return _
  | some bssid =>
      exact (avoids_testmodeCall true _).bind fun _ _ => avoids_return _

theorem avoids_setWapiKey : AvoidsWpaS (setWapiKey cfg env) s := by
  rw [AvoidsWpaS, setWapiKey, ends_bind, ends_get, ends_ite]
  split
  · simp
  · refine AvoidsWpaS.bind ?_ fun _ _ => avoids_return _
    rw [AvoidsWpaS, wpaDriverNl80211SetWapiKey, ends_ite]
    split
    · exact avoids_return _
    · cases wapiKeyMessage env.wapiKey with
      | none => simp
      | some params =>
          exact (avoids_testmodeCall true _).bind fun _ _ => avoids_return _

theorem avoids_setSuspendMode : AvoidsWpaS (setSuspendMode cfg env) s := by
  rw [AvoidsWpaS, setSuspendMode, ends_bind, ends_argument]
  exact (avoids_testmodeCall true _).bind fun _ _ => avoids_return _

theorem avoids_privateCommand : AvoidsWpaS (privateCommand env) s := by
  rw [AvoidsWpaS, privateCommand, ends_bind, ends_get]
  cases s.buf with
  | none => simp
  | some buf =>
      simp only [ends_ite, ends_bind, ends_set]
      split
      · exact avoids_return _
      · split
        · split
          · simp
          · exact avoids_return _
        · exact avoids_return _

/-! ## Branches with the context -/

section

variable (hap : env.isAp = true)

include hap

theorem not_avoids_read {α : Type} (f : Supplicant → CmdM α) :
    ¬AvoidsWpaS (readWpaS env >>= f) s := by
  simp [AvoidsWpaS, hap]

theorem not_avoids_argument_read
    {α : Type} (n : ℕ) (f : CText → Supplicant → CmdM α) :
    ¬AvoidsWpaS (do
      let text ← argument n
      let wpaS ← readWpaS env
      f text wpaS) s := by
  simp [AvoidsWpaS, hap]

theorem avoids_stop_iff {drv : Drv} :
    AvoidsWpaS (stop env drv) s ↔ ¬drv.associated = true := by
  simp [AvoidsWpaS, stop, setFlags, hap]

theorem not_avoids_miracastSink : ¬AvoidsWpaS (miracastSink cfg env) s := by
  rw [AvoidsWpaS, miracastSink, ends_bind, ends_get]
  cases strstr (lit " freq=") s.cmd with
  | none => exact not_avoids_read hap _
  | some pos => simp [configScc, hap]

theorem avoids_miracast_iff (drv : Drv) :
    AvoidsWpaS (miracast cfg env) s ↔
      ¬Branch.miracast.ReadsWpaS env drv s := by
  have hshared : ¬AvoidsWpaS (miracastShared cfg env) s :=
    not_avoids_read hap _
  have hsink : ¬AvoidsWpaS (miracastSink cfg env) s :=
    not_avoids_miracastSink hap
  rw [AvoidsWpaS] at hshared hsink
  rw [AvoidsWpaS, miracast, ends_bind, ends_argument, Branch.ReadsWpaS]
  simp only [ends_ite, hshared, hsink, ends_pure]
  grind

theorem avoids_setP2pScanCache_iff :
    AvoidsWpaS (setP2pScanCache env) s ↔
      ¬(atoi (s.cmd.drop 19) = 0 ∨ 0 ≤ env.openCache) := by
  simp [AvoidsWpaS, setP2pScanCache, hap]

theorem avoids_getBeamplusGoReady_iff :
    AvoidsWpaS (getBeamplusGoReady cfg env) s ↔ ¬s.buf.isSome = true := by
  rw [AvoidsWpaS, getBeamplusGoReady, ends_bind, ends_get]
  cases s.buf with
  | none => simp
  | some buf => exact iff_of_false (not_avoids_read hap _) (by simp)

theorem avoids_setBeamplus_iff :
    AvoidsWpaS (setBeamplus cfg env) s ↔ ¬s.buf.isSome = true := by
  rw [AvoidsWpaS, setBeamplus, ends_bind, ends_get]
  cases s.buf with
  | none => simp
  | some buf => exact iff_of_false (not_avoids_read hap _) (by simp)

theorem Branch.avoids_iff (branch : Branch) (drv : Drv) :
    AvoidsWpaS (branch.body cfg env drv) s ↔
      ¬branch.ReadsWpaS env drv s := by
  have havoids : ∀ {x : CmdM Verdict}, AvoidsWpaS x s →
      (AvoidsWpaS x s ↔ ¬False) := fun h => iff_of_true h not_false
  have hreads : ∀ {x : CmdM Verdict}, ¬AvoidsWpaS x s →
      (AvoidsWpaS x s ↔ ¬True) := fun h => iff_of_false h (not_not.mpr trivial)
  cases branch with
  | powermode => exact havoids (avoids_return _)
  | getStaStatistics => exact hreads (not_avoids_argument_read hap 19 _)
  | getStaLinkDetect => exact hreads (not_avoids_read hap _)
  | macaddr => exact hreads (not_avoids_read hap _)
  | country => exact havoids avoids_country
  | start => exact havoids avoids_setFlags
  | stop => exact avoids_stop_iff hap
  | getpower => exact havoids (avoids_return _)
  | getRtsThreshold => exact havoids (avoids_return _)
  | setRtsThreshold => exact havoids (avoids_return _)
  | rxfilterAdd => exact havoids (avoids_indexedSwCmd _ _ _)
  | rxfilterRemove => exact havoids (avoids_indexedSwCmd _ _ _)
  | rxfilterStop => exact havoids (avoids_fixedSwCmd _ _)
  | rxfilterStart => exact havoids (avoids_fixedSwCmd _ _)
  | btcoexscanStart => exact havoids (avoids_return _)
  | btcoexscanStop => exact havoids (avoids_return _)
  | btcoexmode => exact havoids (avoids_return _)
  | smtRate => exact havoids (avoids_indexedSwCmd _ _ _)
  | smtTestOn => exact havoids (avoids_fixedSwCmd _ _)
  | smtTestOff => exact havoids (avoids_fixedSwCmd _ _)
  | staBlock => exact havoids (avoids_staBlock _ _)
  | staUnblock => exact havoids (avoids_staBlock _ _)
  | setWapiKey => exact havoids avoids_setWapiKey
  | wapiMsgSend => exact havoids avoids_wapiMsgSend
  | p2pGetCap => exact hreads (not_avoids_argument_read hap 12 _)
  | p2pSetCap => exact hreads (not_avoids_argument_read hap 12 _)
  | miracast => exact avoids_miracast_iff hap drv
  | p2pUseMcc => exact hreads (not_avoids_argument_read hap 12 _)
  | mcc => exact hreads (not_avoids_read hap _)
  | p2pSetOpps => exact hreads (not_avoids_read hap _)
  | p2pSetPowerSave => exact hreads (not_avoids_read hap _)
  | p2pSetSleep => exact hreads (not_avoids_read hap _)
  | p2pSetSleepDefault => exact hreads (not_avoids_read hap _)
  | setP2pScanCache => exact avoids_setP2pScanCache_iff hap
  | wfdDataUpdate => exact hreads (not_avoids_read hap _)
  | getBeamplusGoReady => exact avoids_getBeamplusGoReady_iff hap
  | setBeamplus => exact avoids_setBeamplus_iff hap
  | setBandDual => exact havoids (avoids_fixedSwCmd _ _)
  | setBand2g4 => exact havoids (avoids_fixedSwCmd _ _)
  | setBand5g => exact havoids (avoids_fixedSwCmd _ _)
  | setScanLoading => exact havoids avoids_setScanLoading
  | setSuspendMode => exact havoids avoids_setSuspendMode

end

end

/-! ## Commands -/

theorem avoids_conclude
    {env : Env} {s : CmdState} (verdict : Verdict) :
    AvoidsWpaS (conclude env verdict) s := by
  cases verdict with
  | done ret => exact avoids_return ret
  | forward => exact avoids_privateCommand

theorem avoids_bind_conclude_iff
    {env : Env} {s : CmdState} {x : CmdM Verdict} :
    AvoidsWpaS (x >>= conclude env) s ↔ AvoidsWpaS x s := by
  constructor
  · intro h
    rw [AvoidsWpaS, ends_bind] at h
    exact h.mono fun _ _ _ => trivial
  · intro h
    exact h.bind fun verdict _ => avoids_conclude verdict

/-- On the access point interface a command avoids the unassigned variable
exactly when its branch does not need the supplicant context. -/
theorem driverCmd_avoids_wpaS_iff
    (cfg : Config) (env : Env) (hap : env.ifname = lit "ap0")
    (wpaS : Supplicant) (cmd : CText) (buf : Option Buffer) :
    outcome (wpaDriverNl80211DriverCmd cfg env) (.given wpaS cmd buf) ≠
        .error .unassigned ↔
      ¬ReadsWpaS cfg env (.given wpaS cmd buf) := by
  have hisAp : env.isAp = true := by simp [Env.isAp, hap]
  rw [outcome_ne_unassigned_iff, AvoidsWpaS, wpaDriverNl80211DriverCmd,
    ends_bind, ends_get, ReadsWpaS]
  cases openDrv env (CmdState.given wpaS cmd buf).wpaS with
  | none => simp
  | some drv =>
      change AvoidsWpaS (runBranch cfg env drv >>= conclude env) _ ↔ _
      rw [avoids_bind_conclude_iff, AvoidsWpaS, runBranch, ends_bind, ends_get]
      cases selectBranch cfg (CmdState.given wpaS cmd buf).cmd with
      | none => simp
      | some branch =>
          have hbranch : AvoidsWpaS (branch.body cfg env drv)
              (.given wpaS cmd buf) ↔
                ¬branch.ReadsWpaS env drv (.given wpaS cmd buf) :=
            branch.avoids_iff hisAp drv
          rw [AvoidsWpaS] at hbranch
          simpa using hbranch

/-- The interface of the access point. -/
def apEnv : Env :=
  { wlanEnv with ifname := lit "ap0" }

/-- Bringing the access point up does not need the supplicant. -/
theorem driverCmd_avoids_wpaS_of_start :
    outcome (wpaDriverNl80211DriverCmd {} apEnv)
        (.given plainSupplicant (lit "start") none) ≠
      .error .unassigned := by
  apply (driverCmd_avoids_wpaS_iff {} apEnv rfl plainSupplicant
    (lit "start") none).mpr
  rintro ⟨drv, branch, -, hselect, hreads⟩
  have hstart : selectBranch {} (lit "start") = some .start := by decide
  have hbranch : branch = .start := Option.some.inj (hselect.symm.trans hstart)
  rw [hbranch] at hreads
  exact hreads

/-- Asking the access point for its address reads the unassigned variable. -/
theorem driverCmd_reads_wpaS_of_macaddr :
    outcome (wpaDriverNl80211DriverCmd {} apEnv)
        (.given plainSupplicant (lit "MACADDR") none) =
      .error .unassigned := by
  rfl

end SmartSurf.Wifi
