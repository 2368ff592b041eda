import Mathlib.Logic.Relation
import SmartSurf.Support.Frame
import SmartSurf.Wifi.Commands
import SmartSurf.Wifi.Reports
import SmartSurf.Wifi.Wire

/-!
# The steps of a driver command

Whatever a command does to the state is made of a few kinds of steps: a call is
logged, the command is cut, a reply is printed into the buffer, the private
ioctl answers, and, in some branches only, the context of the supplicant is
written or an `int` is stored into the buffer.  Each invariant of the commands
is then a matter of these steps.
-/

namespace SmartSurf.Wifi

open Support C

/-- The branches that write to the context. -/
def Branch.writes : Branch → Bool
  | .p2pSetCap => true
  | .miracast => true
  | .p2pUseMcc => true
  | .mcc => true
  | .setP2pScanCache => true
  | _ => false

/-- The bytes behind the buffer are the same. -/
def SameOutside (n : ℕ) (buf buf' : Buffer) : Prop :=
  ∀ i, n ≤ i → buf' i = buf i

/-- A step of a command that is routed to the branch `sel`, or to none. -/
inductive Step (env : Env) (sel : Option Branch) : CmdState → CmdState → Prop
  | log (s : CmdState) {effect : Effect}
      (h : ∀ msg ret, effect = .testmode msg ret → msg.WellFormed) :
      Step env sel s (s.log effect)
  | cut (s : CmdState) (cmd : CText) : Step env sel s { s with cmd := cmd }
  | reply {s : CmdState} {buf buf' : Buffer} (hbuf : s.buf = some buf)
      (h : SameOutside env.bufLen buf buf') :
      Step env sel s { s with buf := some buf' }
  | ready {s : CmdState} {buf : Buffer} (hbuf : s.buf = some buf)
      (hsel : sel = some .getBeamplusGoReady) (value : ℕ) :
      Step env sel s { s with buf := some (store buf 0 (leBytes 4 value)) }
  | write (s : CmdState) (hsel : sel.any Branch.writes = true)
      (wpaS : Supplicant) :
      Step env sel s { s with wpaS := wpaS }
  | ioctl {s : CmdState} {buf : Buffer} (hbuf : s.buf = some buf) :
      Step env sel s
        { s.log (.privateCommand s.cmd) with
          buf := some (env.privIoctl.answer (store buf 0 (s.cmd ++ [0]))) }

abbrev Steps (env : Env) (sel : Option Branch) :
    CmdState → CmdState → Prop :=
  Relation.ReflTransGen (Step env sel)

/-! ## Accesses -/

section

variable {cfg : Config} {env : Env} {sel : Option Branch} {drv : Drv}

theorem steps_perform
    {effect : Effect}
    (h : ∀ msg ret, effect = .testmode msg ret → msg.WellFormed) :
    Within (Steps env sel) (perform effect) :=
  within_modify fun s => .single (.log s h)

theorem steps_readWpaS : Within (Steps env sel) (readWpaS env) := by
  rw [readWpaS]
  split
  · exact within_throw _
  · exact within_bind within_get fun _ => within_pure _

theorem steps_writeWpaS (hsel : sel.any Branch.writes = true)
    (wpaS : Supplicant) :
    Within (Steps env sel) (writeWpaS wpaS) :=
  within_modify fun s => .single (.write s hsel wpaS)

theorem steps_argument (n : ℕ) : Within (Steps env sel) (argument n) :=
  within_bind within_get fun _ => within_pure _

theorem steps_cutAtSpace (n : ℕ) : Within (Steps env sel) (cutAtSpace n) := by
  rw [cutAtSpace]
  refine within_get_bind fun s => ?_
  dsimp only
  split
  · exact .refl
  · exact .single (.cut s _)

theorem steps_snprintf (text : CText) :
    Within (Steps env sel) (snprintf env text) := by
  rw [snprintf]
  refine within_get_bind fun s => ?_
  split
  · split
    · exact .refl
    · exact .refl
  next buf hbuf =>
    refine .single (.reply hbuf fun i hi => ?_)
    exact printAt_outside buf text (by omega)

theorem steps_testmodeCall
    (priv : Bool) {msg : Message} (hmsg : msg.WellFormed) :
    Within (Steps env sel) (testmodeCall cfg env priv msg) := by
  rw [testmodeCall]
  split
  · exact within_throw _
  · refine within_bind (steps_perform ?_) fun _ => ?_
    · rintro msg' ret ⟨⟩
      exact hmsg
    · split
      · exact within_throw _
      · exact within_pure _

theorem steps_printReport
    {report : Buffer → Option (ℤ × Buffer)}
    (h : ∀ buf ret buf', report buf = some (ret, buf') →
      SameOutside env.bufLen buf buf') :
    Within (Steps env sel) (printReport report env.bufLen) := by
  rw [printReport]
  refine within_get_bind fun s => ?_
  split
  next buf hbuf =>
    split
    · exact .refl
    next ret buf' hreport => exact .single (.reply hbuf (h buf ret buf' hreport))
  · split
    · exact .refl
    · split
      · exact .refl
      · exact .refl

theorem reportOf_outside
    {F : Type} {T : AttrTable F} {full : ℕ → ℕ} {calls : List (Call F)}
    {E : Exchange} {record : Record F} {buf buf' : Buffer} {buflen : ℕ} {ret : ℤ}
    (h : reportOf T full calls cfg E record buf buflen = some (ret, buf')) :
    SameOutside buflen buf buf' := by
  intro i hi
  rw [reportOf] at h
  split at h
  · cases h
  · split_ifs at h
    · cases h
      rfl
    · cases h
      exact printRecord_outside full calls _ buf hi

/-! ## Branches -/

theorem steps_getStaStatistics :
    Within (Steps env sel) (getStaStatistics cfg env) := by
  refine within_bind (steps_argument 19) fun addr => ?_
  refine within_bind steps_readWpaS fun wpaS => ?_
  split
  · exact within_pure _
  · refine within_bind (steps_testmodeCall _ trivial) fun _ => ?_
    refine within_bind (steps_printReport ?_) fun _ => within_pure _
    intro buf ret buf' hreport
    rw [wpaDriverGetStaStatistics] at hreport
    exact reportOf_outside hreport

theorem steps_getStaLinkDetect :
    Within (Steps env sel) (getStaLinkDetect cfg env) := by
  refine within_bind steps_readWpaS fun wpaS => ?_
  refine within_bind (steps_testmodeCall _ trivial) fun _ => ?_
  refine within_bind (steps_printReport ?_) fun _ => within_pure _
  intro buf ret buf' hreport
  exact reportOf_outside hreport

theorem steps_macaddr : Within (Steps env sel) (macaddr env) := by
  refine within_bind steps_readWpaS fun wpaS => ?_
  exact within_bind (steps_snprintf _) fun _ => within_pure _

theorem steps_setCountry (alpha2 : CText) :
    Within (Steps env sel) (setCountry cfg env drv alpha2) := by
  rw [setCountry]
  split
  · exact within_pure _
  · split
    · exact within_throw _
    · exact within_bind (steps_perform nofun) fun _ => within_pure _

theorem steps_country : Within (Steps env sel) (country cfg env drv) := by
  refine within_bind within_get fun s => ?_
  split_ifs
  · exact within_throw _
  · exact within_bind (steps_setCountry _) fun _ => within_pure _

theorem steps_setFlags (up : Bool) :
    Within (Steps env sel) (setFlags env drv up) := by
  refine within_bind (steps_perform nofun) fun _ => ?_
  split_ifs
  · exact within_pure _
  · exact within_bind (steps_perform nofun) fun _ => within_pure _

theorem steps_stop : Within (Steps env sel) (stop env drv) := by
  rw [stop]
  split_ifs
  · refine within_bind steps_readWpaS fun _ => ?_
    exact within_bind (steps_perform nofun) fun _ => steps_setFlags false
  · exact steps_setFlags false

theorem steps_driverSwCmd (adr data : UInt32) :
    Within (Steps env sel) (driverSwCmd cfg env adr data) :=
  within_bind (steps_testmodeCall _ trivial) fun _ => within_pure _

theorem steps_fixedSwCmd (adr data : UInt32) :
    Within (Steps env sel) (fixedSwCmd cfg env adr data) :=
  within_bind (steps_driverSwCmd adr data) fun _ => within_pure _

theorem steps_indexedSwCmd (n : ℕ) (adr offset : UInt32) :
    Within (Steps env sel) (indexedSwCmd cfg env n adr offset) := by
  refine within_bind (steps_argument n) fun cp => ?_
  split
  · exact within_pure _
  · exact within_bind (steps_driverSwCmd _ _) fun _ => within_pure _

theorem steps_setScanLoading : Within (Steps env sel) (setScanLoading cfg env) := by
  refine within_bind (steps_driverSwCmd _ _) fun _ => ?_
  exact within_bind (steps_perform nofun) fun _ => within_pure _

theorem steps_staBlock (n : ℕ) (blocked : UInt8) :
    Within (Steps env sel) (staBlock cfg env n blocked) := by
  refine within_bind (steps_argument n) fun text => ?_
  split
  · exact within_pure _
  · exact within_bind (steps_testmodeCall _ trivial) fun _ => within_pure _

theorem steps_wpaDriverNl80211SetWapiKey (p : WapiKeyParam) :
    Within (Steps env sel) (wpaDriverNl80211SetWapiKey cfg env p) := by
  rw [wpaDriverNl80211SetWapiKey]
  split_ifs
  · exact within_pure _
  · split
    · exact within_throw _
    · exact within_bind (steps_testmodeCall _ trivial) fun _ => within_pure _

theorem steps_setWapiKey : Within (Steps env sel) (setWapiKey cfg env) := by
  refine within_bind within_get fun s => ?_
  split_ifs
  · exact within_throw _
  · exact within_bind (steps_wpaDriverNl80211SetWapiKey _)
      fun _ => within_pure _

theorem steps_wapiMsgSend : Within (Steps env sel) (wapiMsgSend env) := by
  refine within_bind within_get fun s => ?_
  split_ifs
  · exact within_throw _
  · exact within_pure _
  · exact within_pure _

theorem steps_p2pGetCap : Within (Steps env sel) (p2pGetCap env) := by
  refine within_bind (steps_argument 12) fun text => ?_
  refine within_bind steps_readWpaS fun wpaS => ?_
  split
  · exact within_pure _
  · split_ifs
    · exact within_bind (steps_snprintf _) fun _ => within_pure _
    · exact within_pure _
    · exact within_pure _

theorem steps_sigmaTestMode (wpaS : Supplicant) (index value : ℤ) :
    Within (Steps env sel) (sigmaTestMode cfg env wpaS index value) :=
  steps_testmodeCall _ trivial

theorem steps_p2pSetOpps : Within (Steps env sel) (p2pSetOpps cfg env) := by
  refine within_bind steps_readWpaS fun wpaS => ?_
  refine within_bind (steps_argument 13) fun text => ?_
  refine within_bind (steps_cutAtSpace 13) fun cut => ?_
  split
  · exact within_throw _
  · split
    · exact within_pure _
    · split
      · exact within_throw _
      · exact within_bind (steps_sigmaTestMode _ _ _) fun _ => within_pure _

theorem steps_p2pSetPowerSave :
    Within (Steps env sel) (p2pSetPowerSave cfg env) := by
  refine within_bind steps_readWpaS fun wpaS => ?_
  refine within_bind (steps_argument 19) fun text => ?_
  exact within_bind (steps_sigmaTestMode _ _ _) fun _ => within_pure _

theorem steps_p2pSetSleep : Within (Steps env sel) (p2pSetSleep cfg env) := by
  refine within_bind steps_readWpaS fun wpaS => ?_
  refine within_bind (steps_argument 14) fun text => ?_
  split
  · exact within_pure _
  · refine within_bind (steps_cutAtSpace 14) fun cut => ?_
    split
    · exact within_throw _
    · exact within_bind (steps_sigmaTestMode _ _ _) fun _ => within_pure _

theorem steps_p2pSetSleepDefault :
    Within (Steps env sel) (p2pSetSleepDefault cfg env) := by
  refine within_bind steps_readWpaS fun wpaS => ?_
  split
  · exact within_pure _
  · exact within_bind (steps_sigmaTestMode _ _ _) fun _ => within_pure _

theorem steps_wpasWfdDataUpdate (wpaS : Supplicant) (p : WfdRequest) :
    Within (Steps env sel) (wpasWfdDataUpdate cfg env wpaS p) := by
  rw [wpasWfdDataUpdate]
  split
  · exact within_throw _
  next params hparams =>
    have hmsg : (Message.wfdData params).WellFormed :=
      wellFormed_wfdRequestMessage hparams
    exact steps_testmodeCall _ hmsg

theorem steps_wfdDataUpdate : Within (Steps env sel) (wfdDataUpdate cfg env) := by
  refine within_bind steps_readWpaS fun wpaS => ?_
  refine within_bind within_get fun s => ?_
  split_ifs
  · exact within_throw _
  · exact within_bind (steps_wpasWfdDataUpdate _ _) fun _ => within_pure _

/-- The value of `get_beamplus_go_ready` is stored into the buffer as it was
before the message. -/
theorem steps_getBeamplusGoReady
    (hsel : sel = some .getBeamplusGoReady) :
    Within (Steps env sel) (getBeamplusGoReady cfg env) := by
  refine within_get_bind fun s => ?_
  cases hbuf : s.buf with
  | none => exact refl_of (Steps env sel) s
  | some buf =>
      apply Ends.stateAfter (P := Steps env sel s)
      have hlog : ∀ ret, Steps env sel s (s.log (.testmode .beamplusGoReady ret)) :=
        fun ret => .single (.log s (by rintro msg ret' ⟨⟩; trivial))
      simp only [ends_bind, ends_readWpaS, ends_testmodeCall]
      split
      · exact .refl
      · split
        · exact .refl
        · split
          · exact hlog none
          next ret _ =>
            split
            · exact hlog (some ret)
            next value _ =>
              exact (hlog (some ret)).tail
                (.ready (s := s.log _) hbuf hsel value)

theorem steps_setBeamplus : Within (Steps env sel) (setBeamplus cfg env) := by
  refine within_bind within_get fun s => ?_
  split
  · exact within_pure _
  · refine within_bind steps_readWpaS fun wpaS => ?_
    exact within_bind (steps_testmodeCall _ trivial) fun _ => within_pure _

theorem steps_setSuspendMode : Within (Steps env sel) (setSuspendMode cfg env) := by
  refine within_bind (steps_argument 15) fun text => ?_
  exact within_bind (steps_testmodeCall _ trivial) fun _ => within_pure _

/-! ### Branches that write to the context -/

section

variable (hsel : sel.any Branch.writes = true)

include hsel

theorem steps_p2pSetCap : Within (Steps env sel) (p2pSetCap env) := by
  refine within_bind (steps_argument 12) fun text => ?_
  refine within_bind steps_readWpaS fun wpaS => ?_
  split
  · exact within_pure _
  · split_ifs
    · exact within_bind (steps_writeWpaS hsel _) fun _ => within_pure _
    · exact within_pure _
    · exact within_pure _

theorem steps_configScc (scc : Bool) (operFreq : ℕ) :
    Within (Steps env sel) (configScc cfg env scc operFreq) := by
  refine within_bind steps_readWpaS fun wpaS => ?_
  split
  · exact within_pure _
  · exact within_throw _
  · split
    · exact within_throw _
    · exact steps_writeWpaS hsel _

theorem steps_miracastShared :
    Within (Steps env sel) (miracastShared cfg env) := by
  refine within_bind steps_readWpaS fun _ => ?_
  refine within_bind ?_ fun _ => within_pure _
  rw [shareFrequency]
  split
  · exact steps_configScc hsel _ _
  · exact steps_configScc hsel _ _

theorem steps_miracast : Within (Steps env sel) (miracast cfg env) := by
  refine within_bind (steps_argument 9) fun text => ?_
  dsimp only
  split_ifs
  · exact steps_miracastShared hsel
  · refine within_bind within_get fun s => ?_
    split
    · refine within_bind (steps_configScc hsel _ _) fun _ => ?_
      refine within_bind (within_modify fun s => ?_) fun _ => within_pure _
      exact .single (.cut s _)
    · exact steps_miracastShared hsel
  · exact within_pure _

theorem steps_p2pUseMcc : Within (Steps env sel) (p2pUseMcc cfg env) := by
  refine within_bind (steps_argument 12) fun text => ?_
  refine within_bind steps_readWpaS fun wpaS => ?_
  split
  · exact within_throw _
  · refine within_bind (steps_writeWpaS hsel _) fun _ => ?_
    refine within_bind ?_ fun _ => within_pure _
    rw [useMccChannel]
    split_ifs
    · exact steps_configScc hsel _ _
    · exact steps_configScc hsel _ _
    · exact steps_configScc hsel _ _

theorem steps_mcc : Within (Steps env sel) (mcc env) := by
  refine within_bind steps_readWpaS fun wpaS => ?_
  split_ifs
  · refine within_bind (steps_cutAtSpace 0) fun value => ?_
    split
    · exact within_pure _
    · exact within_bind (steps_writeWpaS hsel _) fun _ => within_pure _
  · exact within_pure _

theorem steps_setP2pScanCache :
    Within (Steps env sel) (setP2pScanCache env) := by
  have hread : ∀ flag : UInt8, Within (Steps env sel) (do
      let wpaS ← readWpaS env
      writeWpaS { wpaS with p2pScanResCache := flag }
      return Verdict.done 0) := by
    intro flag
    refine within_bind steps_readWpaS fun wpaS => ?_
    exact within_bind (steps_writeWpaS hsel _) fun _ => within_pure _
  refine within_bind (steps_argument 19) fun text => ?_
  split_ifs
  · exact within_bind (steps_perform fun _ _ => nofun)
      fun _ => within_pure _
  · exact within_bind (steps_perform fun _ _ => nofun)
      fun _ => hread 1
  · exact within_bind (steps_perform fun _ _ => nofun)
      fun _ => hread 0

end

/-- Every branch is made of its steps. -/
theorem Branch.steps (branch : Branch) (cfg : Config) (env : Env) (drv : Drv) :
    Within (Steps env (some branch)) (branch.body cfg env drv) := by
  cases branch with
  | powermode => exact within_pure _
  | getStaStatistics => exact steps_getStaStatistics
  | getStaLinkDetect => exact steps_getStaLinkDetect
  | macaddr => exact steps_macaddr
  | country => exact steps_country
  | start => exact steps_setFlags true
  | stop => exact steps_stop
  | getpower => exact within_pure _
  | getRtsThreshold => exact within_pure _
  | setRtsThreshold => exact within_pure _
  | rxfilterAdd => exact steps_indexedSwCmd _ _ _
  | rxfilterRemove => exact steps_indexedSwCmd _ _ _
  | rxfilterStop => exact steps_fixedSwCmd _ _
  | rxfilterStart => exact steps_fixedSwCmd _ _
  | btcoexscanStart => exact within_pure _
  | btcoexscanStop => exact within_pure _
  | btcoexmode => exact within_pure _
  | smtRate => exact steps_indexedSwCmd _ _ _
  | smtTestOn => exact steps_fixedSwCmd _ _
  | smtTestOff => exact steps_fixedSwCmd _ _
  | staBlock => exact steps_staBlock _ _
  | staUnblock => exact steps_staBlock _ _
  | setWapiKey => exact steps_setWapiKey
  | wapiMsgSend => exact steps_wapiMsgSend
  | p2pGetCap => exact steps_p2pGetCap
  | p2pSetCap => exact steps_p2pSetCap rfl
  | miracast => exact steps_miracast rfl
  | p2pUseMcc => exact steps_p2pUseMcc rfl
  | mcc => exact steps_mcc rfl
  | p2pSetOpps => exact steps_p2pSetOpps
  | p2pSetPowerSave => exact steps_p2pSetPowerSave
  | p2pSetSleep => exact steps_p2pSetSleep
  | p2pSetSleepDefault => exact steps_p2pSetSleepDefault
  | setP2pScanCache => exact steps_setP2pScanCache rfl
  | wfdDataUpdate => exact steps_wfdDataUpdate
  | getBeamplusGoReady => exact steps_getBeamplusGoReady rfl
  | setBeamplus => exact steps_setBeamplus
  | setBandDual => exact steps_fixedSwCmd _ _
  | setBand2g4 => exact steps_fixedSwCmd _ _
  | setBand5g => exact steps_fixedSwCmd _ _
  | setScanLoading => exact steps_setScanLoading
  | setSuspendMode => exact steps_setSuspendMode

end

/-! ## The function -/

section

variable {cfg : Config} {env : Env} {s : CmdState}

/-- A command that is not supported goes to the private ioctl as it is. -/
theorem driverCmd_run_of_unsupported
    (hopen : (openDrv env s.wpaS).isSome = true)
    (hselect : selectBranch cfg s.cmd = none) :
    (wpaDriverNl80211DriverCmd cfg env).run s = (privateCommand env).run s := by
  obtain ⟨drv, hdrv⟩ := Option.isSome_iff_exists.mp hopen
  simp [wpaDriverNl80211DriverCmd, runBranch, hdrv, hselect, conclude]

/-- The answer of the driver is stored before the result is looked at. -/
theorem stateAfter_privateCommand {buf : Buffer} (hbuf : s.buf = some buf) :
    stateAfter (privateCommand env) s =
      { s.log (.privateCommand s.cmd) with
        buf := some (env.privIoctl.answer (store buf 0 (s.cmd ++ [0]))) } := by
  rw [stateAfter_eq_iff]
  simp only [privateCommand, ends_bind, ends_get, hbuf, ends_set, ends_ite]
  split
  · rfl
  · split
    · split
      · rfl
      · rfl
    · rfl

end

theorem steps_privateCommand (env : Env) (sel : Option Branch) :
    Within (Steps env sel) (privateCommand env) := by
  intro s
  cases hbuf : s.buf with
  | none =>
      have hrun : (privateCommand env).run s = .error .nullPointer s := by
        simp only [privateCommand, EStateM.run_bind, EStateM.run_get, hbuf]
        rfl
      rw [stateAfter_of_error hrun]
  | some buf =>
      rw [stateAfter_privateCommand hbuf]
      exact .single (.ioctl hbuf)

/-- Every command is made of the steps of its branch. -/
theorem driverCmd_steps (cfg : Config) (env : Env) (s : CmdState) :
    Steps env (selectBranch cfg s.cmd) s
      (stateAfter (wpaDriverNl80211DriverCmd cfg env) s) := by
  cases hopen : openDrv env s.wpaS with
  | none =>
      have hrun : (wpaDriverNl80211DriverCmd cfg env).run s = .ok (-1) s := by
        simp [wpaDriverNl80211DriverCmd, hopen]
      rw [stateAfter_of_ok hrun]
  | some drv =>
      cases hselect : selectBranch cfg s.cmd with
      | none =>
          have hsome : (openDrv env s.wpaS).isSome = true := by rw [hopen]; rfl
          rw [stateAfter, driverCmd_run_of_unsupported hsome hselect]
          exact steps_privateCommand env none s
      | some branch =>
          rw [stateAfter, driverCmd_run hopen hselect]
          refine within_bind (branch.steps cfg env drv) (fun verdict => ?_) s
          cases verdict with
          | done ret => exact within_pure _
          | forward => exact steps_privateCommand env (some branch)

/-! ## Invariants -/

section

variable {env : Env} {sel : Option Branch} {s t : CmdState}

/-- A command whose branch does not write to the context leaves it alone. -/
theorem Steps.wpaS_eq (h : Steps env sel s t)
    (hsel : sel.any Branch.writes = false) :
    t.wpaS = s.wpaS := by
  induction h with
  | refl => rfl
  | tail _ hstep ih =>
      cases hstep with
      | write hwrites =>
          rw [hsel] at hwrites
          cases hwrites
      | _ => exact ih

/-- The calls of a command are added to the list, and every message among them
is well formed. -/
theorem Steps.exists_effects (h : Steps env sel s t) :
    ∃ new, t.effects = s.effects ++ new ∧
      ∀ msg ret, Effect.testmode msg ret ∈ new → msg.WellFormed := by
  have hlog : ∀ {u : CmdState} {effect : Effect},
      (∃ new, u.effects = s.effects ++ new ∧
        ∀ msg ret, Effect.testmode msg ret ∈ new → msg.WellFormed) →
      (∀ msg ret, effect = .testmode msg ret → msg.WellFormed) →
      ∃ new, (u.log effect).effects = s.effects ++ new ∧
        ∀ msg ret, Effect.testmode msg ret ∈ new → msg.WellFormed := by
    rintro u effect ⟨new, heffects, hnew⟩ heffect
    refine ⟨new ++ [effect], ?_, fun msg ret hmem => ?_⟩
    · rw [CmdState.log, heffects, List.append_assoc]
    · rcases List.mem_append.mp hmem with hmem | hmem
      · exact hnew msg ret hmem
      · exact heffect msg ret (List.mem_singleton.mp hmem).symm
  induction h with
  | refl =>
      exact ⟨[], (List.append_nil _).symm,
        fun _ _ h => absurd h List.not_mem_nil⟩
  | tail _ hstep ih =>
      cases hstep with
      | log heffect => exact hlog ih heffect
      | ioctl => exact hlog ih fun msg ret heq => by cases heq
      | _ => exact ih

/-- A step takes no call off the list. -/
theorem Step.effects_subset (h : Step env sel s t) :
    s.effects ⊆ t.effects := by
  cases h with
  | log => exact List.subset_append_left _ _
  | ioctl => exact List.subset_append_left _ _
  | _ => exact List.Subset.refl _

/-- Nothing is written behind the buffer, if the driver answers within it and
what is copied and stored into it fits: the commands for the private ioctl with
their terminators, and the `int` of `get_beamplus_go_ready`. -/
theorem Steps.exists_buf (h : Steps env sel s t)
    (hioctl : ∀ buf, SameOutside env.bufLen buf (env.privIoctl.answer buf))
    (hready : sel = some .getBeamplusGoReady → 4 ≤ env.bufLen)
    (hfits : ∀ cmd, Effect.privateCommand cmd ∈ t.effects →
      cmd.length < env.bufLen)
    {buf : Buffer} (hbuf : s.buf = some buf) :
    ∃ buf', t.buf = some buf' ∧ SameOutside env.bufLen buf buf' := by
  have hstore : ∀ {u : CmdState} {old : Buffer} (bytes : List UInt8),
      (∃ buf', u.buf = some buf' ∧ SameOutside env.bufLen buf buf') →
      u.buf = some old → bytes.length ≤ env.bufLen →
      SameOutside env.bufLen buf (store old 0 bytes) := by
    rintro u old bytes ⟨buf', hbuf', hsame⟩ hold hlength i hi
    obtain rfl := Option.some.inj (hbuf'.symm.trans hold)
    rw [store_of_le _ (by omega), hsame i hi]
  induction h with
  | refl => exact ⟨buf, hbuf, fun _ _ => rfl⟩
  | @tail u v _ hstep ih =>
      -- The calls made before the last step are among those made in the end.
      replace ih := ih fun cmd hcmd => hfits cmd (hstep.effects_subset hcmd)
      cases hstep with
      | reply hold hreply =>
          obtain ⟨buf', hbuf', hsame⟩ := ih
          obtain rfl := Option.some.inj (hbuf'.symm.trans hold)
          exact ⟨_, rfl, fun i hi => (hreply i hi).trans (hsame i hi)⟩
      | ready hold hsel value =>
          refine ⟨_, rfl, hstore _ ih hold ?_⟩
          rw [length_leBytes]
          exact hready hsel
      | ioctl hold =>
          have hlength := hfits u.cmd
            (List.mem_append_right _ (List.mem_singleton.mpr rfl))
          have hcopied := hstore (u.cmd ++ [0]) ih hold
            (by rw [List.length_append]; exact hlength)
          exact ⟨_, rfl, fun i hi => (hioctl _ i hi).trans (hcopied i hi)⟩
      | _ => exact ih

end

/-- No command writes behind the reply buffer, whichever way it ends, if the
`int` of `get_beamplus_go_ready` fits into it, and so does every command for the
private ioctl with its terminator.  An unsupported command that does not fit
leaves its end and its terminator behind the buffer. -/
theorem driverCmd_stays_inside
    {cfg : Config} {env : Env} {s : CmdState}
    (hioctl : ∀ buf, SameOutside env.bufLen buf (env.privIoctl.answer buf))
    {buf : Buffer} (hbuf : s.buf = some buf) :
    let t := stateAfter (wpaDriverNl80211DriverCmd cfg env) s
    ((selectBranch cfg s.cmd = some .getBeamplusGoReady → 4 ≤ env.bufLen) →
      (∀ cmd, Effect.privateCommand cmd ∈ t.effects →
        cmd.length < env.bufLen) →
      ∃ buf', t.buf = some buf' ∧ SameOutside env.bufLen buf buf') ∧
    ((openDrv env s.wpaS).isSome = true → selectBranch cfg s.cmd = none →
      env.bufLen ≤ s.cmd.length →
      ∃ buf', t.buf = some buf' ∧
        load buf' env.bufLen (s.cmd.length + 1 - env.bufLen) =
          (s.cmd ++ [0]).drop env.bufLen) := by
  refine ⟨fun hready hfits =>
    (driverCmd_steps cfg env s).exists_buf hioctl hready hfits hbuf, ?_⟩
  intro hopen hselect hlong
  have hstate : stateAfter (wpaDriverNl80211DriverCmd cfg env) s =
      stateAfter (privateCommand env) s := by
    rw [stateAfter, driverCmd_run_of_unsupported hopen hselect]
    rfl
  have hwithin : env.bufLen + (s.cmd.length + 1 - env.bufLen) ≤
      (s.cmd ++ [0]).length := by
    rw [List.length_append, List.length_singleton]
    omega
  have hcopied := load_store_within buf 0 hwithin
  rw [Nat.zero_add, List.take_of_length_le (by simp)] at hcopied
  rw [hstate, stateAfter_privateCommand hbuf]
  refine ⟨_, rfl, Eq.trans ?_ hcopied⟩
  -- Behind the buffer the answer of the driver leaves the copy as it is.
  exact load_congr fun i _ => hioctl _ _ (Nat.le_add_right _ _)

/-- An address that is cut to a buffer of eight bytes, and a command of nine
characters that is copied over the end of such a buffer. -/
theorem driverCmd_stays_inside_of_eight_bytes :
    (∃ buf', (stateAfter
        (wpaDriverNl80211DriverCmd {} { wlanEnv with bufLen := 8 })
        (.given plainSupplicant (lit "MACADDR") (some fun _ => 1))).buf =
          some buf' ∧
      SameOutside 8 (fun _ => 1) buf') ∧
    ∃ buf', (stateAfter
        (wpaDriverNl80211DriverCmd {} { wlanEnv with bufLen := 8 })
        (.given plainSupplicant (lit "SETBAND 0") (some fun _ => 1))).buf =
          some buf' ∧
      load buf' 8 2 = lit "0" ++ [0] := by
  have haddress := @driverCmd_stays_inside {} { wlanEnv with bufLen := 8 }
    (.given plainSupplicant (lit "MACADDR") (some fun _ => 1))
    (fun _ _ _ => rfl) _ rfl
  have hlong := @driverCmd_stays_inside {} { wlanEnv with bufLen := 8 }
    (.given plainSupplicant (lit "SETBAND 0") (some fun _ => 1))
    (fun _ _ _ => rfl) _ rfl
  refine ⟨haddress.1 (fun h => absurd h (by decide +kernel)) ?_,
    hlong.2 rfl (by decide +kernel) (by decide)⟩
  have hnone : (stateAfter
      (wpaDriverNl80211DriverCmd {} { wlanEnv with bufLen := 8 })
      (.given plainSupplicant (lit "MACADDR")
        (some fun _ => 1))).effects.isEmpty = true := by
    decide +kernel
  intro cmd hcmd
  rw [List.isEmpty_iff.mp hnone] at hcmd
  exact absurd hcmd List.not_mem_nil

end SmartSurf.Wifi
