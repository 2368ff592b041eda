import SmartSurf.Wifi.Commands

/-!
# Rejected driver messages

A command reports a rejection if its return value is negative whenever a
message it has sent was answered with a negative value.  The branches fall into
those which send nothing, those which pass the failure on, and those which put
0 in its place; the last are collected in `Branch.DropsResult`.
-/

namespace SmartSurf.Wifi

open Support C

/-- Some call of `wpa_driver_nl80211_testmode` has returned a negative
value. -/
def Rejected (t : CmdState) : Prop :=
  ∃ msg ret, Effect.testmode msg (some ret) ∈ t.effects ∧ ret < 0

/-- Nothing has been given to the private ioctl. -/
def HandledItself (t : CmdState) : Prop :=
  ∀ cmd, Effect.privateCommand cmd ∉ t.effects

/-- A rejected message makes the command fail. -/
def RejectionReported (cfg : Config) (env : Env) (s : CmdState) : Prop :=
  ∀ ret t, (wpaDriverNl80211DriverCmd cfg env).run s = .ok ret t →
    HandledItself t → Rejected t → ret < 0

/-- The driver rejects the message. -/
def Rejects (cfg : Config) (E : Exchange) : Prop :=
  ∃ ret, testmodeValue cfg E = some ret ∧ ret < 0

/-- A test command for the driver reaches it. -/
def SendsSigma (env : Env) (s : CmdState) : Prop :=
  env.isAp = false ∧ s.wpaS.drvPriv = true

/-- The branch sends a message and then sets `ret` to 0. -/
def Branch.DropsResult (env : Env) (s : CmdState) : Branch → Prop
  | .rxfilterAdd => (strtol 0 (s.cmd.drop 12)).isSome
  | .rxfilterRemove => (strtol 0 (s.cmd.drop 15)).isSome
  | .smtRate => (strtol 0 (s.cmd.drop 8)).isSome
  | .rxfilterStop => True
  | .rxfilterStart => True
  | .smtTestOn => True
  | .smtTestOff => True
  | .setBandDual => True
  | .setBand2g4 => True
  | .setBand5g => True
  | .setScanLoading => True
  | .setWapiKey =>
      s.buf.isSome ∧ env.wapiKey.seqLen.toNat ≤ 16 ∧
        (wapiKeyMessage env.wapiKey).isSome
  | .p2pSetOpps =>
      SendsSigma env s ∧
        ∃ str, strchr 32 (s.cmd.drop 13) = some str ∧
          (env.hwaddrAton str).isSome ∧ (strchr 32 str).isSome
  | .p2pSetPowerSave => SendsSigma env s
  | .p2pSetSleep =>
      SendsSigma env s ∧ (env.hwaddrAton (s.cmd.drop 14)).isSome ∧
        (strchr 32 (s.cmd.drop 14)).isSome
  | .p2pSetSleepDefault =>
      SendsSigma env s ∧ (env.hwaddrAton sleepDefault).isSome
  | _ => False

/-- The command is routed to a branch that drops the result. -/
def DropsResult (cfg : Config) (env : Env) (s : CmdState) : Prop :=
  (openDrv env s.wpaS).isSome ∧
    ∃ branch, selectBranch cfg s.cmd = some branch ∧ branch.DropsResult env s

/-! ## The list of calls -/

section

variable {s : CmdState}

@[simp] theorem rejected_with
    {wpaS : Supplicant} {cmd : CText} {buf : Option Buffer} :
    Rejected { wpaS := wpaS, cmd := cmd, buf := buf, effects := s.effects } ↔
      Rejected s :=
  Iff.rfl

theorem rejected_log_testmode {msg : Message} {ret : ℤ} :
    Rejected (s.log (.testmode msg (some ret))) ↔ Rejected s ∨ ret < 0 := by
  constructor
  · rintro ⟨msg', ret', hmem, hneg⟩
    rcases List.mem_append.mp hmem with hold | hnew
    · exact .inl ⟨msg', ret', hold, hneg⟩
    · rw [List.mem_singleton, Effect.testmode.injEq, Option.some.injEq] at hnew
      exact .inr (hnew.2 ▸ hneg)
  · rintro (⟨msg', ret', hmem, hneg⟩ | hneg)
    · exact ⟨msg', ret', List.mem_append_left _ hmem, hneg⟩
    · exact ⟨msg, ret, List.mem_append_right _ List.mem_cons_self, hneg⟩

theorem rejected_log
    {effect : Effect} (h : ∀ msg ret, Effect.testmode msg ret ≠ effect) :
    Rejected (s.log effect) ↔ Rejected s := by
  constructor
  · rintro ⟨msg, ret, hmem, hneg⟩
    rcases List.mem_append.mp hmem with hold | hnew
    · exact ⟨msg, ret, hold, hneg⟩
    · exact absurd (List.mem_singleton.mp hnew) (h msg _)
  · rintro ⟨msg, ret, hmem, hneg⟩
    exact ⟨msg, ret, List.mem_append_left _ hmem, hneg⟩

theorem HandledItself.log
    {effect : Effect} (hs : HandledItself s)
    (h : ∀ cmd, Effect.privateCommand cmd ≠ effect) :
    HandledItself (s.log effect) := by
  intro cmd hmem
  rcases List.mem_append.mp hmem with hold | hnew
  · exact hs cmd hold
  · exact h cmd (List.mem_singleton.mp hnew)

end

/-! ## Reports -/

/-- What a branch has to guarantee. -/
def Reports (verdict : Verdict) (t : CmdState) : Prop :=
  ∀ ret, verdict = .done ret → Rejected t → ret < 0

/-- No condition on the ways in which a command can stop. -/
def AnyStop (_ : Stop) (_ : CmdState) : Prop := True

@[simp] theorem anyStop (stop : Stop) (t : CmdState) : AnyStop stop t :=
  trivial

@[simp] theorem reports_forward (t : CmdState) : Reports .forward t := by
  rintro ret ⟨⟩

@[simp] theorem reports_done {ret : ℤ} {t : CmdState} :
    Reports (.done ret) t ↔ (Rejected t → ret < 0) := by
  simp [Reports]

/-- When the driver has rejected the message, a report fails. -/
theorem reportOf_of_rejects
    {F : Type} {T : AttrTable F} {full : ℕ → ℕ} {calls : List (Call F)}
    {cfg : Config} {E : Exchange} {record : Record F}
    {buf buf' : Buffer} {buflen : ℕ} {ret : ℤ} (hrejects : Rejects cfg E)
    (hreport : reportOf T full calls cfg E record buf buflen =
      some (ret, buf')) :
    ret < 0 := by
  obtain ⟨value, hvalue, hneg⟩ := hrejects
  obtain ⟨record', htestmode⟩ :=
    exists_testmode_of_value (T.handler E.nlaParse) hvalue record
  rw [reportOf, htestmode] at hreport
  simp only [if_pos hneg, Option.some.injEq, Prod.mk.injEq] at hreport
  omega

theorem ends_printReport
    (s : CmdState) (report : Buffer → Option (ℤ × Buffer)) (bufLen : ℕ)
    (R : ℤ → Prop)
    (hreport : ∀ buf ret buf', report buf = some (ret, buf') → R ret) :
    Ends (printReport report bufLen) s
      (fun ret t => R ret ∧ t.effects = s.effects) AnyStop := by
  simp only [printReport, ends_bind, ends_get]
  split
  · split
    · simp
    · rename_i hsome
      simp [hreport _ _ _ hsome]
  · split
    · simp
    · rename_i hsome
      simp [hreport _ _ _ hsome]

section

variable {cfg : Config} {env : Env} {s : CmdState}

theorem ends_testmodeCall_reports
    (priv : Bool) (msg : Message) (hs : ¬Rejected s) :
    Ends (testmodeCall cfg env priv msg) s
      (fun ret t => testmodeValue cfg env.exchange = some ret ∧
        (Rejected t → ret < 0)) AnyStop := by
  rw [ends_testmodeCall]
  split
  · trivial
  · cases testmodeValue cfg env.exchange with
    | none => trivial
    | some ret => simp [rejected_log_testmode, hs]

/-- Without a driver to talk to, no message is rejected. -/
theorem turnkey_of_rejects
    {E : Exchange} (h : Rejects cfg E) : cfg.mtkTurnkeyWlan = true := by
  obtain ⟨ret, hvalue, hneg⟩ := h
  by_contra hturnkey
  rw [testmodeValue, testmode, if_neg hturnkey] at hvalue
  obtain rfl := Option.some.inj hvalue
  omega

/-- A message is not rejected if the driver accepts it, or if it is not sent
for want of a driver. -/
theorem ends_testmodeCall_keeps
    (priv : Bool) (msg : Message) (hs : ¬Rejected s)
    (h : Rejects cfg env.exchange → priv = false) :
    Ends (testmodeCall cfg env priv msg) s (fun _ t => ¬Rejected t)
      AnyStop := by
  by_cases hrejects : Rejects cfg env.exchange
  · rw [ends_testmodeCall, if_pos]
    · trivial
    · exact ⟨turnkey_of_rejects hrejects, by simp [h hrejects]⟩
  · apply (ends_testmodeCall_reports priv msg hs).mono
    rintro ret t ⟨hvalue, hreports⟩ hrejected
    exact hrejects ⟨ret, hvalue, hreports hrejected⟩

/-- A branch that ends with 0 after its message. -/
theorem reports_zero_after
    {α : Type} {x : CmdM α} (hx : Ends x s (fun _ t => ¬Rejected t) AnyStop) :
    Ends (do let _ ← x; return Verdict.done 0) s Reports AnyStop := by
  rw [ends_bind]
  apply hx.mono
  intro _ t ht
  simp [ht]

/-- A report after its message. -/
theorem reports_printReport
    {F : Type} {T : AttrTable F} {full : ℕ → ℕ} {calls : List (Call F)}
    {record : Record F} (priv : Bool) (msg : Message) (hs : ¬Rejected s) :
    Ends (do
      let _ ← testmodeCall cfg env priv msg
      let ret ← printReport (fun buf =>
        reportOf T full calls cfg env.exchange record buf env.bufLen)
        env.bufLen
      return Verdict.done ret) s Reports AnyStop := by
  rw [ends_bind]
  apply (ends_testmodeCall_reports priv msg hs).mono
  rintro value t ⟨hvalue, hreports⟩
  rw [ends_bind]
  have hprint := ends_printReport t
    (fun buf => reportOf T full calls cfg env.exchange record buf env.bufLen)
    env.bufLen (fun ret => Rejects cfg env.exchange → ret < 0)
    fun _ _ _ hsome hrejects => reportOf_of_rejects hrejects hsome
  apply hprint.mono
  rintro ret u ⟨hneg, heffects⟩
  rw [ends_pure, reports_done]
  intro hrejected
  rw [Rejected, heffects] at hrejected
  exact hneg ⟨value, hvalue, hreports hrejected⟩

/-! ## The branches -/

theorem driverSwCmd_accepts
    (adr data : UInt32) (hs : ¬Rejected s)
    (haccepts : ¬Rejects cfg env.exchange) :
    Ends (driverSwCmd cfg env adr data) s (fun _ t => ¬Rejected t)
      AnyStop := by
  rw [driverSwCmd, ends_bind]
  exact ends_testmodeCall_keeps true _ hs fun h => absurd h haccepts

theorem indexedSwCmd_reports
    (n : ℕ) (adr offset : UInt32) (hs : ¬Rejected s)
    (h : Rejects cfg env.exchange → ¬(strtol 0 (s.cmd.drop n)).isSome) :
    Ends (indexedSwCmd cfg env n adr offset) s Reports AnyStop := by
  simp only [indexedSwCmd, ends_bind, ends_argument]
  cases hparse : strtol 0 (s.cmd.drop n) with
  | none => simp
  | some idx =>
      have haccepts : ¬Rejects cfg env.exchange := by
        intro hrejects
        exact h hrejects (by simp [hparse])
      exact reports_zero_after (driverSwCmd_accepts _ _ hs haccepts)

theorem setScanLoading_reports
    (hs : ¬Rejected s) (haccepts : ¬Rejects cfg env.exchange) :
    Ends (setScanLoading cfg env) s Reports AnyStop := by
  rw [setScanLoading, ends_bind]
  apply (driverSwCmd_accepts _ _ hs haccepts).mono
  intro _ t ht
  simp [rejected_log, ht]

theorem staBlock_reports (n : ℕ) (blocked : UInt8) (hs : ¬Rejected s) :
    Ends (staBlock cfg env n blocked) s Reports AnyStop := by
  simp only [staBlock, ends_bind, ends_argument]
  cases env.hwaddrAton (s.cmd.drop n) with
  | none => simp
  | some bssid =>
      rw [ends_bind]
      apply (ends_testmodeCall_reports true _ hs).mono
      rintro ret t ⟨-, hreports⟩
      rw [ends_pure, reports_done]
      intro hrejected
      have hneg := hreports hrejected
      rw [if_pos (by omega)]
      decide

theorem setWapiKey_reports
    (hs : ¬Rejected s)
    (h : Rejects cfg env.exchange → ¬Branch.setWapiKey.DropsResult env s) :
    Ends (setWapiKey cfg env) s Reports AnyStop := by
  simp only [setWapiKey, wpaDriverNl80211SetWapiKey, ends_bind, ends_get]
  by_cases hbuf : s.buf.isNone
  · simp [hbuf]
  by_cases hseq : 16 < env.wapiKey.seqLen.toNat
  · simp [hbuf, hseq]
  rw [if_neg hbuf, if_neg hseq, ends_bind]
  cases hmsg : wapiKeyMessage env.wapiKey with
  | none => simp
  | some params =>
      have hdrops : Branch.setWapiKey.DropsResult env s := by
        refine ⟨?_, by omega, by simp [hmsg]⟩
        simpa [Option.isSome_iff_ne_none] using hbuf
      have haccepts : ¬Rejects cfg env.exchange :=
        fun hrejects => h hrejects hdrops
      have hkeeps := ends_testmodeCall_keeps true (.wapiKey params) hs
        fun h => absurd h haccepts
      rw [ends_bind]
      exact hkeeps.mono fun _ t ht => by simp [ht]

theorem p2pSetPowerSave_reports
    (hs : ¬Rejected s)
    (h : Rejects cfg env.exchange → ¬SendsSigma env s) :
    Ends (p2pSetPowerSave cfg env) s Reports AnyStop := by
  simp only [p2pSetPowerSave, ends_bind, ends_readWpaS]
  split
  · trivial
  · rename_i hap
    rw [ends_argument, ← ends_bind]
    apply reports_zero_after
    apply ends_testmodeCall_keeps _ _ hs
    intro hrejects
    have hno := h hrejects
    simpa [SendsSigma, hap] using hno

theorem p2pSetOpps_reports
    (hs : ¬Rejected s)
    (h : Rejects cfg env.exchange → ¬Branch.p2pSetOpps.DropsResult env s) :
    Ends (p2pSetOpps cfg env) s Reports AnyStop := by
  simp only [p2pSetOpps, ends_bind, ends_readWpaS]
  split
  · trivial
  rename_i hap
  rw [ends_argument, ends_cutAtSpace]
  cases hspace : strchr 32 (s.cmd.drop 13) with
  | none => trivial
  | some str =>
      dsimp only
      cases haddr : env.hwaddrAton str with
      | none => simp
      | some addr =>
          dsimp only
          cases hssid : strchr 32 str with
          | none => trivial
          | some ssid =>
              apply reports_zero_after
              apply ends_testmodeCall_keeps _ _ (by simpa using hs)
              intro hrejects
              have hno := h hrejects
              simpa [Branch.DropsResult, SendsSigma, hap, hspace, haddr,
                hssid] using hno

theorem p2pSetSleep_reports
    (hs : ¬Rejected s)
    (h : Rejects cfg env.exchange → ¬Branch.p2pSetSleep.DropsResult env s) :
    Ends (p2pSetSleep cfg env) s Reports AnyStop := by
  simp only [p2pSetSleep, ends_bind, ends_readWpaS]
  split
  · trivial
  rename_i hap
  rw [ends_argument]
  cases haddr : env.hwaddrAton (s.cmd.drop 14) with
  | none => simp
  | some addr =>
      dsimp only
      rw [ends_bind, ends_cutAtSpace]
      cases hspace : strchr 32 (s.cmd.drop 14) with
      | none => trivial
      | some str =>
          apply reports_zero_after
          apply ends_testmodeCall_keeps _ _ (by simpa using hs)
          intro hrejects
          have hno := h hrejects
          simpa [Branch.DropsResult, SendsSigma, hap, hspace, haddr] using hno

theorem p2pSetSleepDefault_reports
    (hs : ¬Rejected s)
    (h : Rejects cfg env.exchange →
      ¬Branch.p2pSetSleepDefault.DropsResult env s) :
    Ends (p2pSetSleepDefault cfg env) s Reports AnyStop := by
  simp only [p2pSetSleepDefault, ends_bind, ends_readWpaS]
  split
  · trivial
  rename_i hap
  cases haddr : env.hwaddrAton sleepDefault with
  | none => simp
  | some addr =>
      apply reports_zero_after
      apply ends_testmodeCall_keeps _ _ hs
      intro hrejects
      have hno := h hrejects
      simpa [Branch.DropsResult, SendsSigma, hap, haddr] using hno

theorem wfdDataUpdate_reports (hs : ¬Rejected s) :
    Ends (wfdDataUpdate cfg env) s Reports AnyStop := by
  simp only [wfdDataUpdate, wpasWfdDataUpdate, ends_bind, ends_readWpaS,
    ends_get]
  split
  · trivial
  · split
    · trivial
    · rw [ends_bind]
      cases wfdRequestMessage env.wfdData with
      | none => trivial
      | some params =>
          apply (ends_testmodeCall_reports s.wpaS.drvPriv _ hs).mono
          rintro ret t ⟨-, hreports⟩
          exact reports_done.mpr hreports

/-- A branch that sends nothing. -/
theorem reports_of_keeps
    {x : CmdM Verdict} (hx : Ends x s (fun _ t => ¬Rejected t) AnyStop) :
    Ends x s Reports AnyStop := by
  apply hx.mono
  intro verdict t ht ret _ hrejected
  exact absurd hrejected ht

theorem snprintf_keeps (text : CText) (hs : ¬Rejected s) :
    Ends (snprintf env text) s (fun _ t => ¬Rejected t) AnyStop := by
  simp only [snprintf, ends_bind, ends_get]
  cases s.buf with
  | none => simp [hs]
  | some buf => simpa using hs

theorem macaddr_keeps (hs : ¬Rejected s) :
    Ends (macaddr env) s (fun _ t => ¬Rejected t) AnyStop := by
  simp [macaddr, snprintf_keeps, hs]

theorem country_keeps (drv : Drv) (hs : ¬Rejected s) :
    Ends (country cfg env drv) s (fun _ t => ¬Rejected t) AnyStop := by
  simp [country, setCountry, rejected_log, hs]

theorem setFlags_keeps (drv : Drv) (up : Bool) (hs : ¬Rejected s) :
    Ends (setFlags env drv up) s (fun _ t => ¬Rejected t) AnyStop := by
  simp [setFlags, rejected_log, hs]

theorem stop_keeps (drv : Drv) (hs : ¬Rejected s) :
    Ends (stop env drv) s (fun _ t => ¬Rejected t) AnyStop := by
  simp [stop, setFlags_keeps, rejected_log, hs]

theorem wapiMsgSend_keeps (hs : ¬Rejected s) :
    Ends (wapiMsgSend env) s (fun _ t => ¬Rejected t) AnyStop := by
  simp [wapiMsgSend, hs]

theorem p2pGetCap_keeps (hs : ¬Rejected s) :
    Ends (p2pGetCap env) s (fun _ t => ¬Rejected t) AnyStop := by
  simp only [p2pGetCap, ends_bind, ends_argument, ends_readWpaS]
  split
  · trivial
  · cases s.wpaS.p2p with
    | none => exact hs
    | some p2p => simp [snprintf_keeps, hs]

theorem p2pSetCap_keeps (hs : ¬Rejected s) :
    Ends (p2pSetCap env) s (fun _ t => ¬Rejected t) AnyStop := by
  simp only [p2pSetCap, ends_bind, ends_argument, ends_readWpaS]
  split
  · trivial
  · cases s.wpaS.p2p with
    | none => exact hs
    | some p2p => simp [hs]

theorem mcc_keeps (hs : ¬Rejected s) :
    Ends (mcc env) s (fun _ t => ¬Rejected t) AnyStop := by
  simp only [mcc, ends_bind, ends_readWpaS, ends_ite, ends_pure,
    ends_cutAtSpace]
  split
  · trivial
  · split
    · cases strchr 32 (s.cmd.drop 0) with
      | none => exact hs
      | some value => simpa using hs
    · exact hs

theorem setP2pScanCache_keeps (hs : ¬Rejected s) :
    Ends (setP2pScanCache env) s (fun _ t => ¬Rejected t) AnyStop := by
  simp [setP2pScanCache, rejected_log, hs]

theorem miracastShared_reports :
    Ends (miracastShared cfg env) s Reports AnyStop := by
  simp [miracastShared, ends_of_forall]

theorem miracastSink_reports :
    Ends (miracastSink cfg env) s Reports AnyStop := by
  rw [miracastSink, ends_bind, ends_get]
  cases strstr (lit " freq=") s.cmd with
  | none => exact miracastShared_reports
  | some pos => simp [ends_of_forall]

theorem miracast_reports : Ends (miracast cfg env) s Reports AnyStop := by
  simp [miracast, miracastShared_reports, miracastSink_reports]

theorem p2pUseMcc_reports : Ends (p2pUseMcc cfg env) s Reports AnyStop := by
  simp only [p2pUseMcc, ends_bind, ends_argument, ends_readWpaS]
  split
  · trivial
  · cases s.wpaS.p2p with
    | none => trivial
    | some p2p => simp [ends_of_forall]

theorem getBeamplusGoReady_reports :
    Ends (getBeamplusGoReady cfg env) s Reports AnyStop := by
  simp only [getBeamplusGoReady, ends_bind, ends_get]
  cases s.buf with
  | none => simp
  | some buf =>
      cases goReadyValue env.goReady cfg env.exchange with
      | none => simp [ends_of_forall]
      | some value => simp [ends_of_forall]

theorem setBeamplus_reports :
    Ends (setBeamplus cfg env) s Reports AnyStop := by
  simp only [setBeamplus, ends_bind, ends_get]
  cases s.buf with
  | none => simp
  | some buf => simp [ends_of_forall]

theorem setSuspendMode_reports :
    Ends (setSuspendMode cfg env) s Reports AnyStop := by
  simp [setSuspendMode, ends_of_forall]

theorem getStaStatistics_reports (hs : ¬Rejected s) :
    Ends (getStaStatistics cfg env) s Reports AnyStop := by
  simp only [getStaStatistics, ends_bind, ends_argument, ends_readWpaS]
  split
  · trivial
  · cases env.hwaddrAton (s.cmd.drop 19) with
    | none => simp
    | some staAddr =>
        simp only [wpaDriverGetStaStatistics]
        exact reports_printReport s.wpaS.drvPriv _ hs

theorem getStaLinkDetect_reports (hs : ¬Rejected s) :
    Ends (getStaLinkDetect cfg env) s Reports AnyStop := by
  rw [getStaLinkDetect, ends_bind, ends_readWpaS]
  split
  · trivial
  · exact reports_printReport s.wpaS.drvPriv _ hs

/-- Every branch reports a rejected message, unless it drops the result. -/
theorem Branch.body_reports
    (branch : Branch) (drv : Drv) (hs : ¬Rejected s)
    (h : Rejects cfg env.exchange → ¬branch.DropsResult env s) :
    Ends (branch.body cfg env drv) s Reports AnyStop := by
  have hfixed : ¬Rejects cfg env.exchange → ∀ adr data,
      Ends (fixedSwCmd cfg env adr data) s Reports AnyStop :=
    fun haccepts adr data =>
      reports_zero_after (driverSwCmd_accepts adr data hs haccepts)
  cases branch with
  | powermode => simp [Branch.body]
  | getStaStatistics => exact getStaStatistics_reports hs
  | getStaLinkDetect => exact getStaLinkDetect_reports hs
  | macaddr => exact reports_of_keeps (macaddr_keeps hs)
  | country => exact reports_of_keeps (country_keeps drv hs)
  | start => exact reports_of_keeps (setFlags_keeps drv true hs)
  | stop => exact reports_of_keeps (stop_keeps drv hs)
  | getpower => simp [Branch.body]
  | getRtsThreshold => simp [Branch.body]
  | setRtsThreshold => simp [Branch.body]
  | rxfilterAdd => exact indexedSwCmd_reports 12 _ _ hs h
  | rxfilterRemove => exact indexedSwCmd_reports 15 _ _ hs h
  | rxfilterStop => exact hfixed (fun hr => h hr trivial) _ _
  | rxfilterStart => exact hfixed (fun hr => h hr trivial) _ _
  | btcoexscanStart => simp [Branch.body, hs]
  | btcoexscanStop => simp [Branch.body, hs]
  | btcoexmode => simp [Branch.body, hs]
  | smtRate => exact indexedSwCmd_reports 8 _ _ hs h
  | smtTestOn => exact hfixed (fun hr => h hr trivial) _ _
  | smtTestOff => exact hfixed (fun hr => h hr trivial) _ _
  | staBlock => exact staBlock_reports 10 1 hs
  | staUnblock => exact staBlock_reports 12 0 hs
  | setWapiKey => exact setWapiKey_reports hs h
  | wapiMsgSend => exact reports_of_keeps (wapiMsgSend_keeps hs)
  | p2pGetCap => exact reports_of_keeps (p2pGetCap_keeps hs)
  | p2pSetCap => exact reports_of_keeps (p2pSetCap_keeps hs)
  | miracast => exact miracast_reports
  | p2pUseMcc => exact p2pUseMcc_reports
  | mcc => exact reports_of_keeps (mcc_keeps hs)
  | p2pSetOpps => exact p2pSetOpps_reports hs h
  | p2pSetPowerSave => exact p2pSetPowerSave_reports hs h
  | p2pSetSleep => exact p2pSetSleep_reports hs h
  | p2pSetSleepDefault => exact p2pSetSleepDefault_reports hs h
  | setP2pScanCache => exact reports_of_keeps (setP2pScanCache_keeps hs)
  | wfdDataUpdate => exact wfdDataUpdate_reports hs
  | getBeamplusGoReady => exact getBeamplusGoReady_reports
  | setBeamplus => exact setBeamplus_reports
  | setBandDual => exact hfixed (fun hr => h hr trivial) _ _
  | setBand2g4 => exact hfixed (fun hr => h hr trivial) _ _
  | setBand5g => exact hfixed (fun hr => h hr trivial) _ _
  | setScanLoading =>
      exact setScanLoading_reports hs fun hr => h hr trivial
  | setSuspendMode => exact setSuspendMode_reports

/-! ## Dropped results -/

/-- The branch has returned 0 after a rejected message. -/
def Dropped (verdict : Verdict) (t : CmdState) : Prop :=
  verdict = .done 0 ∧ Rejected t ∧ HandledItself t

/-- The command has not stopped. -/
def NoStop (_ : Stop) (_ : CmdState) : Prop := False

theorem ends_testmodeCall_rejected
    (msg : Message) (hs : HandledItself s)
    (hrejects : Rejects cfg env.exchange) :
    Ends (testmodeCall cfg env true msg) s
      (fun _ t => Rejected t ∧ HandledItself t) NoStop := by
  obtain ⟨ret, hvalue, hneg⟩ := hrejects
  rw [ends_testmodeCall, if_neg (by simp), hvalue]
  exact ⟨rejected_log_testmode.mpr (.inr hneg), hs.log nofun⟩

theorem dropped_zero_after
    {α : Type} {x : CmdM α}
    (hx : Ends x s (fun _ t => Rejected t ∧ HandledItself t) NoStop) :
    Ends x s (fun _ t => Ends (pure (Verdict.done 0)) t Dropped NoStop)
      NoStop := by
  apply hx.mono
  rintro _ t ⟨hrejected, hhandled⟩
  exact ⟨rfl, hrejected, hhandled⟩

theorem driverSwCmd_rejected
    (adr data : UInt32) (hs : HandledItself s)
    (hrejects : Rejects cfg env.exchange) :
    Ends (driverSwCmd cfg env adr data) s
      (fun _ t => Rejected t ∧ HandledItself t) NoStop := by
  rw [driverSwCmd, ends_bind]
  exact ends_testmodeCall_rejected _ hs hrejects

theorem indexedSwCmd_drops
    (n : ℕ) (adr offset : UInt32) (hs : HandledItself s)
    (hrejects : Rejects cfg env.exchange)
    (h : (strtol 0 (s.cmd.drop n)).isSome) :
    Ends (indexedSwCmd cfg env n adr offset) s Dropped NoStop := by
  obtain ⟨idx, hidx⟩ := Option.isSome_iff_exists.mp h
  simp only [indexedSwCmd, ends_bind, ends_argument, hidx]
  exact dropped_zero_after (driverSwCmd_rejected _ _ hs hrejects)

theorem setScanLoading_drops
    (hs : HandledItself s) (hrejects : Rejects cfg env.exchange) :
    Ends (setScanLoading cfg env) s Dropped NoStop := by
  rw [setScanLoading, ends_bind]
  apply (driverSwCmd_rejected _ _ hs hrejects).mono
  rintro _ t ⟨hrejected, hhandled⟩
  rw [ends_bind, ends_perform, ends_pure]
  have hlog : Rejected (t.log .scanLoadingTimeout) := by
    simpa [rejected_log] using hrejected
  exact ⟨rfl, hlog, hhandled.log nofun⟩

theorem setWapiKey_drops
    (hs : HandledItself s) (hrejects : Rejects cfg env.exchange)
    (h : Branch.setWapiKey.DropsResult env s) :
    Ends (setWapiKey cfg env) s Dropped NoStop := by
  obtain ⟨hbuf, hseq, hmsg⟩ := h
  obtain ⟨params, hparams⟩ := Option.isSome_iff_exists.mp hmsg
  have hnone : ¬s.buf.isNone := by
    simpa [Option.isSome_iff_ne_none] using hbuf
  simp only [setWapiKey, wpaDriverNl80211SetWapiKey, ends_bind, ends_get]
  rw [if_neg hnone, if_neg (by omega), hparams, ends_bind, ends_bind]
  exact dropped_zero_after (ends_testmodeCall_rejected _ hs hrejects)

section

variable (hs : HandledItself s) (hrejects : Rejects cfg env.exchange)

include hs hrejects

theorem p2pSetOpps_drops (h : Branch.p2pSetOpps.DropsResult env s) :
    Ends (p2pSetOpps cfg env) s Dropped NoStop := by
  obtain ⟨⟨hap, hpriv⟩, str, hspace, haddr, hssid⟩ := h
  obtain ⟨addr, haddr⟩ := Option.isSome_iff_exists.mp haddr
  obtain ⟨ssid, hssid⟩ := Option.isSome_iff_exists.mp hssid
  simp only [p2pSetOpps, ends_bind, ends_readWpaS, hap, Bool.false_eq_true,
    if_false, ends_argument, ends_cutAtSpace, hspace, haddr, hssid,
    sigmaTestMode, hpriv]
  exact dropped_zero_after (ends_testmodeCall_rejected _ hs hrejects)

theorem p2pSetPowerSave_drops (h : SendsSigma env s) :
    Ends (p2pSetPowerSave cfg env) s Dropped NoStop := by
  obtain ⟨hap, hpriv⟩ := h
  simp only [p2pSetPowerSave, ends_bind, ends_readWpaS, hap,
    Bool.false_eq_true, if_false, ends_argument, sigmaTestMode, hpriv]
  exact dropped_zero_after (ends_testmodeCall_rejected _ hs hrejects)

theorem p2pSetSleep_drops (h : Branch.p2pSetSleep.DropsResult env s) :
    Ends (p2pSetSleep cfg env) s Dropped NoStop := by
  obtain ⟨⟨hap, hpriv⟩, haddr, hspace⟩ := h
  obtain ⟨addr, haddr⟩ := Option.isSome_iff_exists.mp haddr
  obtain ⟨str, hspace⟩ := Option.isSome_iff_exists.mp hspace
  simp only [p2pSetSleep, ends_bind, ends_readWpaS, hap, Bool.false_eq_true,
    if_false, ends_argument, haddr, ends_cutAtSpace, hspace, sigmaTestMode,
    hpriv]
  exact dropped_zero_after (ends_testmodeCall_rejected _ hs hrejects)

theorem p2pSetSleepDefault_drops
    (h : Branch.p2pSetSleepDefault.DropsResult env s) :
    Ends (p2pSetSleepDefault cfg env) s Dropped NoStop := by
  obtain ⟨⟨hap, hpriv⟩, haddr⟩ := h
  obtain ⟨addr, haddr⟩ := Option.isSome_iff_exists.mp haddr
  simp only [p2pSetSleepDefault, ends_bind, ends_readWpaS, hap,
    Bool.false_eq_true, if_false, haddr, sigmaTestMode, hpriv]
  exact dropped_zero_after (ends_testmodeCall_rejected _ hs hrejects)

theorem Branch.body_drops
    (branch : Branch) (drv : Drv) (h : branch.DropsResult env s) :
    Ends (branch.body cfg env drv) s Dropped NoStop := by
  have hfixed : ∀ adr data,
      Ends (fixedSwCmd cfg env adr data) s Dropped NoStop :=
    fun adr data => ends_bind.mpr
      (dropped_zero_after (driverSwCmd_rejected adr data hs hrejects))
  cases branch with
  | rxfilterAdd => exact indexedSwCmd_drops 12 _ _ hs hrejects h
  | rxfilterRemove => exact indexedSwCmd_drops 15 _ _ hs hrejects h
  | smtRate => exact indexedSwCmd_drops 8 _ _ hs hrejects h
  | rxfilterStop => exact hfixed _ _
  | rxfilterStart => exact hfixed _ _
  | smtTestOn => exact hfixed _ _
  | smtTestOff => exact hfixed _ _
  | setBandDual => exact hfixed _ _
  | setBand2g4 => exact hfixed _ _
  | setBand5g => exact hfixed _ _
  | setScanLoading => exact setScanLoading_drops hs hrejects
  | setWapiKey => exact setWapiKey_drops hs hrejects h
  | p2pSetOpps => exact p2pSetOpps_drops hs hrejects h
  | p2pSetPowerSave => exact p2pSetPowerSave_drops hs hrejects h
  | p2pSetSleep => exact p2pSetSleep_drops hs hrejects h
  | p2pSetSleepDefault => exact p2pSetSleepDefault_drops hs hrejects h
  | _ => exact h.elim

end

/-! ## Commands -/

theorem privateCommand_not_handled :
    Ends (privateCommand env) s (fun _ t => ¬HandledItself t) AnyStop := by
  have hforwarded : ∀ buf : Option Buffer,
      ¬HandledItself { s.log (.privateCommand s.cmd) with buf := buf } :=
    fun _ hhandled =>
      hhandled s.cmd (List.mem_append_right _ List.mem_cons_self)
  simp only [privateCommand, ends_bind, ends_get]
  cases s.buf with
  | none => trivial
  | some buf =>
      dsimp only
      rw [ends_bind, ends_set, ends_ite]
      split
      · exact hforwarded _
      · rw [ends_ite]
        split
        · split
          · trivial
          · exact hforwarded _
        · exact hforwarded _

/-- A command that drops the result returns 0 after a rejected message. -/
theorem driverCmd_drops
    (hs : HandledItself s) (hrejects : Rejects cfg env.exchange)
    (hdrops : DropsResult cfg env s) :
    Ends (wpaDriverNl80211DriverCmd cfg env) s
      (fun ret t => ret = 0 ∧ Rejected t ∧ HandledItself t) NoStop := by
  obtain ⟨hopen, branch, hselect, hbranch⟩ := hdrops
  obtain ⟨drv, hdrv⟩ := Option.isSome_iff_exists.mp hopen
  rw [ends_driverCmd hdrv hselect]
  apply (branch.body_drops hs hrejects drv hbranch).mono
  rintro verdict t ⟨rfl, ht⟩
  exact ⟨rfl, ht⟩

/-- Any other command fails after a rejected message. -/
theorem driverCmd_reports
    (hs : ¬Rejected s)
    (h : Rejects cfg env.exchange → ¬DropsResult cfg env s) :
    Ends (wpaDriverNl80211DriverCmd cfg env) s
      (fun ret t => HandledItself t → Rejected t → ret < 0) AnyStop := by
  have hforward : ∀ u, Ends (privateCommand env) u
      (fun ret t => HandledItself t → Rejected t → ret < 0) AnyStop :=
    fun u => privateCommand_not_handled.mono
      fun _ _ hnot hitself => absurd hitself hnot
  simp only [wpaDriverNl80211DriverCmd, runBranch, ends_bind, ends_get]
  cases hdrv : openDrv env s.wpaS with
  | none => simp
  | some drv =>
      simp only [ends_bind, ends_get]
      cases hselect : selectBranch cfg s.cmd with
      | none => exact hforward s
      | some branch =>
          have hbranch := branch.body_reports drv hs fun hrejects hdrops =>
            h hrejects ⟨by simp [hdrv], branch, hselect, hdrops⟩
          apply hbranch.mono
          rintro (ret | _) u hreports
          · intro _
            exact reports_done.mp hreports
          · exact hforward u

end

/-- A command reports a rejected message exactly when it is not one of those
that set the result to 0. -/
theorem rejectionReported_iff
    (cfg : Config) (env : Env) (wpaS : Supplicant) (cmd : CText)
    (buf : Option Buffer) :
    RejectionReported cfg env (.given wpaS cmd buf) ↔
      ¬(DropsResult cfg env (.given wpaS cmd buf) ∧
        Rejects cfg env.exchange) := by
  constructor
  · rintro hreported ⟨hdrops, hrejects⟩
    have hhandled : HandledItself (.given wpaS cmd buf) := nofun
    obtain ⟨ret, t, hrun, rfl, hrejected, hitself⟩ :=
      (driverCmd_drops hhandled hrejects hdrops).exists_ok
    exact absurd (hreported 0 t hrun hitself hrejected) (by decide)
  · intro hno ret t hrun
    have hstart : ¬Rejected (.given wpaS cmd buf) := by
      rintro ⟨msg, ret, hmem, -⟩
      cases hmem
    exact (driverCmd_reports hstart fun hrejects hdrops =>
      hno ⟨hdrops, hrejects⟩).of_ok hrun

/-- A build in which every message reaches the driver. -/
def driverConfig : Config where
  mtkTurnkeyWlan := true

/-- No memory for the message. -/
def failingEnv : Env :=
  { wlanEnv with exchange := { bareAck with nlmsgAlloc := false } }

/-- Stopping the receive filter succeeds though the message was not sent. -/
theorem not_rejectionReported_of_rxfilterStop :
    ¬RejectionReported driverConfig failingEnv
      (.given plainSupplicant (lit "rxfilter-stop") none) := by
  intro hreported
  let t : CmdState :=
    { wpaS := plainSupplicant
      cmd := lit "rxfilter-stop"
      buf := none
      effects := [.testmode (.swCmd 1 0x9F000000 0x00900000) (some (-1))] }
  have hrun : (wpaDriverNl80211DriverCmd driverConfig failingEnv).run
      (.given plainSupplicant (lit "rxfilter-stop") none) = .ok 0 t := rfl
  have hitself : HandledItself t := by
    intro cmd hmem
    cases hmem with
    | tail _ hmem => cases hmem
  have hrejected : Rejected t :=
    ⟨_, -1, List.mem_cons_self, by decide⟩
  exact absurd (hreported 0 t hrun hitself hrejected) (by decide)

end SmartSurf.Wifi
