import SmartSurf.Wifi.Commands

/-!
# Channel switches

`MIRACAST` and `p2p_use_mcc=` choose the operating channel of P2P.  Both end in
`p2p_wfd_sink_config_scc`, which writes two local variables to the P2P state
even if the conversion of the frequency has not given them a value.

The first part says what the commands do to the supplicant context, and the
second compares them.  What the local variables hold is not known, so the
comparison quantifies over it.
-/

namespace SmartSurf.Wifi

open Support C

/-! ## Frequencies of P2P channels -/

/-- The frequencies that have an operating class. -/
def IsP2pFrequency (cfg : Config) (freq : ℕ) : Prop :=
  (2412 ≤ freq ∧ freq ≤ 2472 ∧ freq % 5 = 2) ∨ freq = 2484 ∨
    (5180 ≤ freq ∧ freq ≤ 5240 ∧ freq % 5 = 0) ∨
    (5745 ≤ freq ∧ freq ≤ 5805 ∧ freq % 5 = 0) ∨
    (cfg.mtkP2p5g = true ∧
      ((5260 ≤ freq ∧ freq ≤ 5320) ∨ (5500 ≤ freq ∧ freq ≤ 5700) ∨
        (5825 ≤ freq ∧ freq ≤ 5845)))

theorem privP2pFreqToChannel_isSome_iff (cfg : Config) (freq : ℕ) :
    (privP2pFreqToChannel cfg freq).isSome ↔ IsP2pFrequency cfg freq := by
  rw [privP2pFreqToChannel, IsP2pFrequency]
  split_ifs
  all_goals simp only [Option.isSome_none, Option.isSome_some, true_iff,
    Bool.false_eq_true, false_iff]
  all_goals grind

theorem privP2pFreqToChannel_eq_none_iff (cfg : Config) (freq : ℕ) :
    privP2pFreqToChannel cfg freq = none ↔ ¬IsP2pFrequency cfg freq := by
  rw [← privP2pFreqToChannel_isSome_iff, Option.not_isSome_iff_eq_none]

theorem toUnsigned_of_nonneg {r : Int32} (h : 0 ≤ r.toInt) :
    (toUnsigned r.toInt : ℤ) = r.toInt := by
  have hlt := r.toInt_lt
  rw [toUnsigned]
  omega

/-- A negative number is too large for a frequency. -/
theorem not_isP2pFrequency_of_neg
    (cfg : Config) {r : Int32} (h : r.toInt < 0) :
    ¬IsP2pFrequency cfg (toUnsigned r.toInt) := by
  have hle := r.le_toInt
  have hlarge : 0x80000000 ≤ toUnsigned r.toInt := by
    rw [toUnsigned]
    omega
  rw [IsP2pFrequency]
  omega

theorem toUnsigned_eq_zero_iff {r : Int32} :
    toUnsigned r.toInt = 0 ↔ r.toInt = 0 := by
  have hlt := r.toInt_lt
  have hle := r.le_toInt
  rw [toUnsigned]
  omega

/-! ## The context behind a command -/

/-- Whichever way the computation ends, it leaves this context. -/
def Leaves {α : Type} (x : CmdM α) (s : CmdState) (wpaS : Supplicant) : Prop :=
  Ends x s (fun _ t => t.wpaS = wpaS) fun _ t => t.wpaS = wpaS

theorem leaves_iff {α : Type} {x : CmdM α} {s : CmdState} {wpaS : Supplicant} :
    Leaves x s wpaS ↔ (stateAfter x s).wpaS = wpaS := by
  rw [Leaves, Ends, stateAfter]
  cases x.run s with
  | ok a t => exact Iff.rfl
  | error stop t => exact Iff.rfl

/-- The context after `p2p_wfd_sink_config_scc`. -/
def sccResult (cfg : Config) (env : Env) (wpaS : Supplicant) (scc : Bool)
    (operFreq : ℕ) : Supplicant :=
  match wpaS.p2p, wpaS.conf with
  | some p2p, some conf =>
      { wpaS with
        p2p := some ((p2pWfdSinkConfigScc cfg conf env.locals env.random scc
          operFreq p2p).getD p2p) }
  | _, _ => wpaS

section

variable {cfg : Config} {env : Env} {s : CmdState}

theorem configScc_leaves
    (hap : env.isAp = false) (scc : Bool) (operFreq : ℕ) :
    Leaves (configScc cfg env scc operFreq) s
      (sccResult cfg env s.wpaS scc operFreq) := by
  simp only [Leaves, configScc, ends_bind, ends_readWpaS, hap,
    Bool.false_eq_true, if_false, sccResult]
  cases hp2p : s.wpaS.p2p with
  | none => simp
  | some p2p =>
      cases hconf : s.wpaS.conf with
      | none => simp
      | some conf =>
          dsimp only
          cases p2pWfdSinkConfigScc cfg conf env.locals env.random scc
              operFreq p2p with
          | none => simp [← hp2p, ← hconf]
          | some p2p' => simp

theorem privateCommand_leaves : Leaves (privateCommand env) s s.wpaS := by
  rw [Leaves, privateCommand, ends_bind, ends_get]
  cases s.buf with
  | none => simp
  | some buf =>
      simp only [ends_ite, ends_bind, ends_set, CmdState.log]
      split
      · simp
      · split
        · split
          · simp
          · simp
        · simp

theorem conclude_leaves (verdict : Verdict) :
    Leaves (conclude env verdict) s s.wpaS := by
  cases verdict with
  | done ret => simp [Leaves, conclude]
  | forward => exact privateCommand_leaves

/-- What a command leaves is decided by its branch. -/
theorem driverCmd_leaves
    {branch : Branch} {drv : Drv} {wpaS : Supplicant}
    (hopen : openDrv env s.wpaS = some drv)
    (hselect : selectBranch cfg s.cmd = some branch)
    (hbranch : Leaves (branch.body cfg env drv) s wpaS) :
    Leaves (wpaDriverNl80211DriverCmd cfg env) s wpaS := by
  rw [Leaves, ends_driverCmd hopen hselect]
  apply hbranch.mono
  rintro verdict t rfl
  exact conclude_leaves verdict

/-- Without driver data or context nothing happens. -/
theorem driverCmd_leaves_of_not_admitted
    (hopen : openDrv env s.wpaS = none) :
    Leaves (wpaDriverNl80211DriverCmd cfg env) s s.wpaS := by
  simp [Leaves, wpaDriverNl80211DriverCmd, hopen]

end

/-! ## The two commands -/

/-- The arguments `scc` and `oper_freq` for a shared frequency. -/
def sharing (freq : ℕ) : Bool × ℕ :=
  if freq > 0 then (true, freq) else (false, 0)

/-- The arguments with which `MIRACAST` calls `p2p_wfd_sink_config_scc`. -/
def miracastRequest (env : Env) (cmd : CText) : Option (Bool × ℕ) :=
  let mode := UInt8.ofInt (atoi (cmd.drop 9))
  if mode = 0 ∨ mode = 1 then some (sharing (toUnsigned env.sharedFreq.toInt))
  else if mode = 2 then
    match strstr (lit " freq=") cmd with
    | some pos => some (true, toUnsigned (atoi (pos.drop 6)))
    | none => some (sharing (toUnsigned env.sharedFreq.toInt))
  else none

/-- The context after the call, if there is one. -/
def requestResult (cfg : Config) (env : Env) (wpaS : Supplicant) :
    Option (Bool × ℕ) → Supplicant
  | some (scc, operFreq) => sccResult cfg env wpaS scc operFreq
  | none => wpaS

section

variable {cfg : Config} {env : Env} {s : CmdState}

theorem shareFrequency_leaves (hap : env.isAp = false) (freq : ℕ) :
    Leaves (shareFrequency cfg env freq) s
      (requestResult cfg env s.wpaS (some (sharing freq))) := by
  rw [shareFrequency, sharing]
  split
  · exact configScc_leaves hap true freq
  · exact configScc_leaves hap false 0

theorem Leaves.then_forward
    {x : CmdM Unit} {wpaS : Supplicant} (hx : Leaves x s wpaS) :
    Leaves (do x; return Verdict.forward) s wpaS := by
  rw [Leaves, ends_bind]
  exact hx

theorem miracastShared_leaves (hap : env.isAp = false) :
    Leaves (miracastShared cfg env) s
      (requestResult cfg env s.wpaS
        (some (sharing (toUnsigned env.sharedFreq.toInt)))) := by
  rw [Leaves, miracastShared, ends_bind, ends_readWpaS, if_neg (by simp [hap])]
  exact (shareFrequency_leaves hap _).then_forward

theorem miracast_leaves (hap : env.isAp = false) :
    Leaves (miracast cfg env) s
      (requestResult cfg env s.wpaS (miracastRequest env s.cmd)) := by
  rw [Leaves, miracast, ends_bind, ends_argument, miracastRequest]
  simp only [ends_ite]
  split
  · exact miracastShared_leaves hap
  · split
    · rw [miracastSink, ends_bind, ends_get]
      cases strstr (lit " freq=") s.cmd with
      | none => exact miracastShared_leaves hap
      | some pos =>
          rw [ends_bind]
          exact configScc_leaves hap true _
    · simp [requestResult]

/-- The context with another value of `p2p_use_mcc`. -/
def Supplicant.setUseMcc (wpaS : Supplicant) (useMcc : UInt8) : Supplicant :=
  { wpaS with
    p2p := wpaS.p2p.map fun p2p => { p2p with p2pUseMcc := useMcc } }

/-- The arguments for a shared frequency that is taken as a signed number. -/
def signedSharing (r : Int32) : Bool × ℕ :=
  if r.toInt > 0 then (true, toUnsigned r.toInt) else (false, 0)

theorem p2pUseMcc_zero_leaves
    (hap : env.isAp = false) (hcmd : s.cmd = lit "p2p_use_mcc=0") :
    Leaves (p2pUseMcc cfg env) s
      (if s.wpaS.p2p.isSome then
        requestResult cfg env (s.wpaS.setUseMcc 0)
          (some (signedSharing env.sharedFreq))
      else s.wpaS) := by
  have hzero : UInt8.ofInt (atoi ((lit "p2p_use_mcc=0").drop 12)) = 0 := by
    decide
  rw [Leaves, p2pUseMcc, ends_bind, ends_argument, ends_bind, ends_readWpaS,
    if_neg (by simp [hap]), hcmd, hzero]
  cases hp2p : s.wpaS.p2p with
  | none => simp
  | some p2p =>
      have hset : { s.wpaS with p2p := some { p2p with p2pUseMcc := 0 } } =
          s.wpaS.setUseMcc 0 := by
        simp [Supplicant.setUseMcc, hp2p]
      simp only [ends_bind, ends_writeWpaS, hset, Option.isSome_some, if_true,
        ends_pure, useMccChannel, ne_eq, not_true_eq_false, if_false,
        signedSharing, ends_ite]
      split
      · exact configScc_leaves hap true _
      · exact configScc_leaves hap false 0

theorem selectBranch_miracast
    (hsink : cfg.mtkWfdSink = true) (text : CText) :
    selectBranch cfg (lit "MIRACAST " ++ text) = some .miracast :=
  selectBranch_of_keyword 26 rfl hsink (startsWith_append _ text)
    (by decide +kernel)

theorem selectBranch_useMcc (hscc : cfg.mtkSccMcc = true) :
    selectBranch cfg (lit "p2p_use_mcc=0") = some .p2pUseMcc :=
  selectBranch_of_keyword 27 rfl hscc (by decide +kernel) (by decide +kernel)

end

/-- The command gets to the supplicant context. -/
def ReachesWpaS (env : Env) (wpaS : Supplicant) : Prop :=
  (openDrv env wpaS).isSome ∧ env.isAp = false

instance (env : Env) (wpaS : Supplicant) : Decidable (ReachesWpaS env wpaS) :=
  inferInstanceAs (Decidable (_ ∧ _))

theorem reachesWpaS_congr
    {env : Env} {wpaS wpaS' : Supplicant} (h : wpaS'.conf = wpaS.conf) :
    ReachesWpaS env wpaS' ↔ ReachesWpaS env wpaS := by
  rw [ReachesWpaS, ReachesWpaS, openDrv, openDrv, h]

/-- On the access point interface the context is not touched. -/
theorem leaves_of_isAp
    {cfg : Config} {env : Env} {s : CmdState} (hap : env.isAp = true)
    {branch : Branch} (hbranch : branch = .miracast ∨ branch = .p2pUseMcc)
    (drv : Drv) :
    Leaves (branch.body cfg env drv) s s.wpaS := by
  rcases hbranch with rfl | rfl
  · simp only [Leaves, Branch.body, miracast, ends_bind, ends_argument,
      ends_ite]
    split
    · simp [miracastShared, hap]
    · split
      · rw [miracastSink, ends_bind, ends_get]
        cases strstr (lit " freq=") s.cmd with
        | none => simp [miracastShared, hap]
        | some pos => simp [configScc, hap]
      · simp
  · simp [Leaves, Branch.body, p2pUseMcc, hap]

section

variable {cfg : Config} (env : Env) (wpaS : Supplicant) (buf : Option Buffer)

theorem driverCmd_miracast_wpaS
    (hsink : cfg.mtkWfdSink = true) (text : CText) :
    (stateAfter (wpaDriverNl80211DriverCmd cfg env)
        (.given wpaS (lit "MIRACAST " ++ text) buf)).wpaS =
      if ReachesWpaS env wpaS then
        requestResult cfg env wpaS
          (miracastRequest env (lit "MIRACAST " ++ text))
      else wpaS := by
  rw [← leaves_iff]
  cases hopen : openDrv env wpaS with
  | none =>
      rw [if_neg (by simp [ReachesWpaS, hopen])]
      exact driverCmd_leaves_of_not_admitted hopen
  | some drv =>
      apply driverCmd_leaves hopen (selectBranch_miracast hsink text)
      cases hap : env.isAp with
      | false =>
          rw [if_pos ⟨by simp [hopen], hap⟩]
          exact miracast_leaves hap
      | true =>
          rw [if_neg (by simp [ReachesWpaS, hap])]
          exact leaves_of_isAp hap (.inl rfl) drv

theorem driverCmd_useMcc_wpaS (hscc : cfg.mtkSccMcc = true) :
    (stateAfter (wpaDriverNl80211DriverCmd cfg env)
        (.given wpaS (lit "p2p_use_mcc=0") buf)).wpaS =
      if ReachesWpaS env wpaS ∧ wpaS.p2p.isSome then
        requestResult cfg env (wpaS.setUseMcc 0)
          (some (signedSharing env.sharedFreq))
      else wpaS := by
  rw [← leaves_iff]
  cases hopen : openDrv env wpaS with
  | none =>
      rw [if_neg (by simp [ReachesWpaS, hopen])]
      exact driverCmd_leaves_of_not_admitted hopen
  | some drv =>
      apply driverCmd_leaves hopen (selectBranch_useMcc hscc)
      cases hap : env.isAp with
      | false =>
          have hreaches : ReachesWpaS env wpaS := ⟨by simp [hopen], hap⟩
          simp only [hreaches, true_and]
          exact p2pUseMcc_zero_leaves hap rfl
      | true =>
          rw [if_neg (by simp [ReachesWpaS, hap])]
          exact leaves_of_isAp hap (.inr rfl) drv

end

/-! ## Comparing the two commands -/

/-- The operating class and channel, the channel list, and `cfg_op_channel`. -/
def P2pData.view (p2p : P2pData) :
    UInt8 × UInt8 × P2pChannels × Option UInt8 :=
  (p2p.opRegClass, p2p.opChannel, p2p.channels,
    p2p.cfg.map P2pConfig.cfgOpChannel)

def Supplicant.view (wpaS : Supplicant) :
    Option (UInt8 × UInt8 × P2pChannels × Option UInt8) :=
  wpaS.p2p.map P2pData.view

/-- The environment with other contents of the local variables. -/
def Env.withLocals (env : Env) (locals : Locals) : Env :=
  { env with locals := locals }

section

variable {cfg : Config} {env : Env} {wpaS : Supplicant}

theorem conf_isSome_of_openDrv
    {drv : Drv} (hopen : openDrv env wpaS = some drv)
    (hap : env.isAp = false) :
    wpaS.conf.isSome := by
  rw [openDrv] at hopen
  cases hconf : wpaS.conf with
  | none =>
      simp only [hap, hconf] at hopen
      grind
  | some conf => rfl

theorem sccResult_setUseMcc_view (useMcc : UInt8) (scc : Bool) (f : ℕ) :
    (sccResult cfg env (wpaS.setUseMcc useMcc) scc f).view =
      (sccResult cfg env wpaS scc f).view := by
  rw [sccResult, sccResult, Supplicant.setUseMcc]
  cases hp2p : wpaS.p2p with
  | none => simp [Supplicant.view, hp2p]
  | some p2p =>
      cases hconf : wpaS.conf with
      | none => simp [Supplicant.view, hp2p, P2pData.view]
      | some conf =>
          simp only [Option.map_some, Supplicant.view, p2pWfdSinkConfigScc]
          split
          · rfl
          · cases hcfg : p2p.cfg with
            | none => simp [P2pData.view, hcfg]
            | some pcfg =>
                simp only [Option.map_some, Option.getD_some, P2pData.goBack]
                split
                · rfl
                · rfl

/-- The local variables do not matter to the way back, nor to a frequency
that has a channel. -/
theorem sccResult_withLocals
    {scc : Bool} {f : ℕ} (h : scc = false ∨ IsP2pFrequency cfg f)
    (locals locals' : Locals) :
    sccResult cfg (env.withLocals locals) wpaS scc f =
      sccResult cfg (env.withLocals locals') wpaS scc f := by
  rw [sccResult, sccResult]
  split
  · rcases h with rfl | hfreq
    · simp [p2pWfdSinkConfigScc, Env.withLocals]
    · obtain ⟨pair, hpair⟩ := Option.isSome_iff_exists.mp
        ((privP2pFreqToChannel_isSome_iff cfg f).mpr hfreq)
      simp [p2pWfdSinkConfigScc, Env.withLocals, hpair]
  · rfl

/-- For another frequency the local variables are written to the state. -/
theorem sccResult_of_not_frequency
    {p2p : P2pData} {conf : SupplicantConf} (hp2p : wpaS.p2p = some p2p)
    (hconf : wpaS.conf = some conf) {f : ℕ} (hzero : f ≠ 0)
    (hfreq : ¬IsP2pFrequency cfg f) :
    sccResult cfg env wpaS true f =
      { wpaS with
        p2p := some
          (p2p.share env.locals.opRegClass env.locals.opChannel) } := by
  have hnone := (privP2pFreqToChannel_eq_none_iff cfg f).mpr hfreq
  simp [sccResult, hp2p, hconf, p2pWfdSinkConfigScc, hzero, hnone]

end

theorem miracastRequest_of_shared
    {env : Env} {cmd : CText}
    (hcmd : cmd = lit "MIRACAST 0" ∨ cmd = lit "MIRACAST 1") :
    miracastRequest env cmd =
      some (sharing (toUnsigned env.sharedFreq.toInt)) := by
  rcases hcmd with rfl | rfl
  · rfl
  · rfl

/-- The two ways to take the shared frequency differ for negative numbers
only. -/
theorem sharing_eq_signedSharing {r : Int32} (h : 0 ≤ r.toInt) :
    sharing (toUnsigned r.toInt) = signedSharing r := by
  have hunsigned := toUnsigned_of_nonneg h
  rw [sharing, signedSharing]
  by_cases hpos : r.toInt > 0
  · rw [if_pos (by omega), if_pos hpos]
  · rw [if_neg (by omega), if_neg hpos]

theorem signedSharing_of_nonpos {r : Int32} (h : r.toInt ≤ 0) :
    signedSharing r = (false, 0) := by
  rw [signedSharing, if_neg (by omega)]

theorem requestResult_setUseMcc_view
    {cfg : Config} {env : Env} {wpaS : Supplicant} (useMcc : UInt8)
    (request : Bool × ℕ) :
    (requestResult cfg env (wpaS.setUseMcc useMcc) (some request)).view =
      (requestResult cfg env wpaS (some request)).view :=
  sccResult_setUseMcc_view useMcc request.1 request.2

/-- The two ways to take the shared frequency, on an existing P2P state. -/
theorem sharing_agree_iff
    {cfg : Config} {env : Env} {wpaS : Supplicant}
    (hp2p : wpaS.p2p.isSome) (hconf : wpaS.conf.isSome) (r : Int32) :
    (∀ locals locals',
        (requestResult cfg (env.withLocals locals) wpaS
            (some (sharing (toUnsigned r.toInt)))).view =
          (requestResult cfg (env.withLocals locals') wpaS
            (some (signedSharing r))).view) ↔
      r.toInt = 0 ∨ IsP2pFrequency cfg (toUnsigned r.toInt) := by
  obtain ⟨p2p, hp2p⟩ := Option.isSome_iff_exists.mp hp2p
  obtain ⟨conf, hconf⟩ := Option.isSome_iff_exists.mp hconf
  constructor
  · intro hagree
    by_contra hnot
    rw [not_or] at hnot
    obtain ⟨hzero, hfreq⟩ := hnot
    have hne : toUnsigned r.toInt ≠ 0 :=
      fun h => hzero (toUnsigned_eq_zero_iff.mp h)
    obtain ⟨other, hother⟩ : ∃ other, (requestResult cfg
        (env.withLocals ⟨0, 0⟩) wpaS (some (signedSharing r))).view = other :=
      ⟨_, rfl⟩
    have hwritten : ∀ locals, (requestResult cfg (env.withLocals locals) wpaS
        (some (sharing (toUnsigned r.toInt)))).view =
          some (p2p.share locals.opRegClass locals.opChannel).view := by
      intro locals
      rw [sharing, if_pos (by omega), requestResult,
        sccResult_of_not_frequency hp2p hconf hne hfreq]
      rfl
    have hfirst := (hwritten ⟨0, 0⟩).symm.trans
      ((hagree ⟨0, 0⟩ ⟨0, 0⟩).trans hother)
    have hsecond := (hwritten ⟨1, 0⟩).symm.trans
      ((hagree ⟨1, 0⟩ ⟨0, 0⟩).trans hother)
    have hsame := Option.some.inj (hfirst.trans hsecond.symm)
    have hclass : (0 : UInt8) = 1 := congrArg Prod.fst hsame
    exact absurd hclass (by decide)
  · rintro (hzero | hfreq) locals locals'
    · rw [sharing_eq_signedSharing (by omega),
        signedSharing_of_nonpos (by omega), requestResult, requestResult,
        sccResult_withLocals (.inl rfl) locals locals']
    · have hnonneg : 0 ≤ r.toInt := by
        by_contra hneg
        exact not_isP2pFrequency_of_neg cfg (by omega) hfreq
      have hpos : toUnsigned r.toInt > 0 := by
        rw [IsP2pFrequency] at hfreq
        omega
      rw [← sharing_eq_signedSharing hnonneg, sharing, if_pos hpos,
        requestResult, requestResult,
        sccResult_withLocals (.inr hfreq) locals locals']

/-- `MIRACAST 0` and `p2p_use_mcc=0` agree exactly when there is no connection,
or the frequency of the connection has a channel. -/
theorem singleChannelSwitches_agree_iff
    {cfg : Config} (hsink : cfg.mtkWfdSink = true)
    (hscc : cfg.mtkSccMcc = true) (env : Env) (wpaS : Supplicant)
    (buf : Option Buffer) {cmd : CText}
    (hcmd : cmd = lit "MIRACAST 0" ∨ cmd = lit "MIRACAST 1") :
    (∀ locals locals',
        (stateAfter (wpaDriverNl80211DriverCmd cfg (env.withLocals locals))
            (.given wpaS cmd buf)).wpaS.view =
          (stateAfter (wpaDriverNl80211DriverCmd cfg (env.withLocals locals'))
            (.given wpaS (lit "p2p_use_mcc=0") buf)).wpaS.view) ↔
      (ReachesWpaS env wpaS → wpaS.p2p.isSome →
        env.sharedFreq.toInt = 0 ∨
          IsP2pFrequency cfg (toUnsigned env.sharedFreq.toInt)) := by
  obtain ⟨text, htext⟩ : ∃ text, cmd = lit "MIRACAST " ++ text := by
    rcases hcmd with rfl | rfl
    · exact ⟨lit "0", rfl⟩
    · exact ⟨lit "1", rfl⟩
  have hmiracast : ∀ locals,
      (stateAfter (wpaDriverNl80211DriverCmd cfg (env.withLocals locals))
          (.given wpaS cmd buf)).wpaS =
        if ReachesWpaS env wpaS then
          requestResult cfg (env.withLocals locals) wpaS
            (some (sharing (toUnsigned env.sharedFreq.toInt)))
        else wpaS := by
    intro locals
    rw [htext, driverCmd_miracast_wpaS _ _ _ hsink, ← htext,
      miracastRequest_of_shared hcmd]
    rfl
  have huseMcc : ∀ locals,
      (stateAfter (wpaDriverNl80211DriverCmd cfg (env.withLocals locals))
          (.given wpaS (lit "p2p_use_mcc=0") buf)).wpaS =
        if ReachesWpaS env wpaS ∧ wpaS.p2p.isSome then
          requestResult cfg (env.withLocals locals) (wpaS.setUseMcc 0)
            (some (signedSharing env.sharedFreq))
        else wpaS :=
    fun _ => driverCmd_useMcc_wpaS _ _ _ hscc
  simp only [hmiracast, huseMcc]
  by_cases hreaches : ReachesWpaS env wpaS
  · by_cases hp2p : wpaS.p2p.isSome
    · obtain ⟨drv, hdrv⟩ := Option.isSome_iff_exists.mp hreaches.1
      simp only [hreaches, hp2p, and_self, if_true,
        requestResult_setUseMcc_view, true_implies]
      exact sharing_agree_iff hp2p (conf_isSome_of_openDrv hdrv hreaches.2) _
    · have hnone : wpaS.p2p = none := Option.not_isSome_iff_eq_none.mp hp2p
      simp [hnone, requestResult, sccResult]
  · simp [hreaches]

/-- A build with both switches. -/
def sinkConfig : Config where
  mtkWfdSink := true
  mtkSccMcc := true

/-- A connection on channel 6. -/
def connectedEnv : Env :=
  { wlanEnv with sharedFreq := 2437 }

theorem singleChannelSwitches_agree_of_connected :
    (ReachesWpaS connectedEnv plainSupplicant ∧ plainSupplicant.p2p.isSome) ∧
      ∀ locals locals',
        (stateAfter
            (wpaDriverNl80211DriverCmd sinkConfig
              (connectedEnv.withLocals locals))
            (.given plainSupplicant (lit "MIRACAST 0") none)).wpaS.view =
          (stateAfter
            (wpaDriverNl80211DriverCmd sinkConfig
              (connectedEnv.withLocals locals'))
            (.given plainSupplicant (lit "p2p_use_mcc=0") none)).wpaS.view := by
  refine ⟨⟨⟨rfl, rfl⟩, rfl⟩, ?_⟩
  exact (singleChannelSwitches_agree_iff rfl rfl connectedEnv plainSupplicant
    none (.inl rfl)).mpr fun _ _ => .inr (.inl (by decide))

/-- The driver reports a failure instead of a frequency. -/
def failedEnv : Env :=
  { wlanEnv with sharedFreq := -1 }

/-- `MIRACAST 0` takes the failure for a frequency, `p2p_use_mcc=0` does
not. -/
theorem not_singleChannelSwitches_agree :
    (stateAfter
        (wpaDriverNl80211DriverCmd sinkConfig (failedEnv.withLocals ⟨0, 0⟩))
        (.given plainSupplicant (lit "MIRACAST 0") none)).wpaS.view ≠
      (stateAfter
        (wpaDriverNl80211DriverCmd sinkConfig (failedEnv.withLocals ⟨0, 0⟩))
        (.given plainSupplicant (lit "p2p_use_mcc=0") none)).wpaS.view := by
  intro hagree
  have hclass := congrArg (Option.map Prod.fst) hagree
  exact absurd hclass (by decide +kernel)

end SmartSurf.Wifi
