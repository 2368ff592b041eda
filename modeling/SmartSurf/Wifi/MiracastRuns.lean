import Mathlib.Data.List.Forall2
import SmartSurf.Support.Run
import SmartSurf.Wifi.Channels

/-!
# Runs of `MIRACAST` commands

Each command of a run may ask for a frequency, in its text or through the
connection of the station.  The operating channel stays the channel of the
requested frequency along every run exactly when all requested frequencies have
a channel; otherwise the local variables of `p2p_wfd_sink_config_scc` show up in
the P2P state.
-/

namespace SmartSurf.Wifi

open Support C

/-! ## Commands and requests -/

/-- The frequency that is to be shared. -/
def requestedFrequency : Option (Bool × ℕ) → Option ℕ
  | some (true, f) => if f = 0 then none else some f
  | _ => none

theorem requestedFrequency_eq_some_iff
    {request : Option (Bool × ℕ)} {f : ℕ} :
    requestedFrequency request = some f ↔
      request = some (true, f) ∧ f ≠ 0 := by
  rcases request with _ | ⟨_ | _, g⟩
  · simp [requestedFrequency]
  · simp [requestedFrequency]
  · by_cases hg : g = 0
    · simp only [requestedFrequency, if_pos hg]
      grind
    · simp only [requestedFrequency, if_neg hg]
      grind

/-- One `MIRACAST` command. -/
structure MiracastCall where
  env : Env
  text : CText
  buf : Option Buffer

namespace MiracastCall

/-- The whole command. -/
def cmd (e : MiracastCall) : CText :=
  lit "MIRACAST " ++ e.text

/-- The frequency that the command asks to share. -/
def frequency (e : MiracastCall) : Option ℕ :=
  requestedFrequency (miracastRequest e.env e.cmd)

/-- The command with other contents of the local variables. -/
def withLocals (e : MiracastCall) (locals : Locals) : MiracastCall :=
  { e with env := e.env.withLocals locals }

/-- Two commands that differ in the local variables only. -/
def Alike (e e' : MiracastCall) : Prop :=
  ∃ locals, e' = e.withLocals locals

theorem alike_self (e : MiracastCall) : Alike e e :=
  ⟨e.env.locals, rfl⟩

end MiracastCall

/-! ## One command -/

/-- The context after one command. -/
def miracastStep (cfg : Config) (wpaS : Supplicant) (e : MiracastCall) :
    Supplicant :=
  (stateAfter (wpaDriverNl80211DriverCmd cfg e.env)
    (.given wpaS e.cmd e.buf)).wpaS

/-- The P2P state is on this channel, and lists no other. -/
def P2pData.Denotes (p2p : P2pData) (pair : UInt8 × UInt8) : Prop :=
  p2p.opRegClass = pair.1 ∧ p2p.opChannel = pair.2 ∧
    p2p.channels.regClasses = 1 ∧
    p2p.channels.first.regClass = pair.1 ∧
    p2p.channels.first.channels = 1 ∧
    p2p.channels.first.firstChannel = pair.2

/-- The operating channel and the channel list are the same. -/
def P2pData.SameChannels (p2p p2p' : P2pData) : Prop :=
  p2p'.opRegClass = p2p.opRegClass ∧ p2p'.opChannel = p2p.opChannel ∧
    p2p'.channels = p2p.channels

/-- A command that asks to share a frequency sets the channel of that
frequency, or leaves the channels alone if there is none. -/
def ChannelExact (cfg : Config) (wpaS : Supplicant) (e : MiracastCall) :
    Prop :=
  ReachesWpaS e.env wpaS → ∀ f, e.frequency = some f →
    ∀ p2p, wpaS.p2p = some p2p →
      ∃ p2p', (miracastStep cfg wpaS e).p2p = some p2p' ∧
        match privP2pFreqToChannel cfg f with
        | some pair => p2p'.Denotes pair
        | none => p2p.SameChannels p2p'

theorem denotes_share (p2p : P2pData) (pair : UInt8 × UInt8) :
    (p2p.share pair.1 pair.2).Denotes pair := by
  simp [P2pData.Denotes, P2pData.share, P2pChannels.single,
    P2pChannels.first, RegClass.firstChannel]

theorem sccResult_conf
    (cfg : Config) (env : Env) (wpaS : Supplicant) (scc : Bool) (f : ℕ) :
    (sccResult cfg env wpaS scc f).conf = wpaS.conf := by
  rw [sccResult]
  split
  · rfl
  · rfl

theorem sccResult_p2p_isSome
    (cfg : Config) (env : Env) (wpaS : Supplicant) (scc : Bool) (f : ℕ) :
    (sccResult cfg env wpaS scc f).p2p.isSome = wpaS.p2p.isSome := by
  rw [sccResult]
  split
  next hp2p _ => simp [hp2p]
  next => rfl

theorem requestResult_conf
    (cfg : Config) (env : Env) (wpaS : Supplicant)
    (request : Option (Bool × ℕ)) :
    (requestResult cfg env wpaS request).conf = wpaS.conf := by
  cases request with
  | none => rfl
  | some request => exact sccResult_conf cfg env wpaS _ _

theorem requestResult_p2p_isSome
    (cfg : Config) (env : Env) (wpaS : Supplicant)
    (request : Option (Bool × ℕ)) :
    (requestResult cfg env wpaS request).p2p.isSome = wpaS.p2p.isSome := by
  cases request with
  | none => rfl
  | some request => exact sccResult_p2p_isSome cfg env wpaS _ _

section

variable {cfg : Config} (hsink : cfg.mtkWfdSink = true)

include hsink

theorem miracastStep_eq (wpaS : Supplicant) (e : MiracastCall) :
    miracastStep cfg wpaS e =
      if ReachesWpaS e.env wpaS then
        requestResult cfg e.env wpaS (miracastRequest e.env e.cmd)
      else wpaS :=
  driverCmd_miracast_wpaS e.env wpaS e.buf hsink e.text

theorem miracastStep_conf (wpaS : Supplicant) (e : MiracastCall) :
    (miracastStep cfg wpaS e).conf = wpaS.conf := by
  rw [miracastStep_eq hsink]
  split
  · exact requestResult_conf cfg e.env wpaS _
  · rfl

theorem miracastStep_p2p_isSome (wpaS : Supplicant) (e : MiracastCall) :
    (miracastStep cfg wpaS e).p2p.isSome = wpaS.p2p.isSome := by
  rw [miracastStep_eq hsink]
  split
  · exact requestResult_p2p_isSome cfg e.env wpaS _
  · rfl

theorem miracastStep_of_frequency
    {wpaS : Supplicant} {e : MiracastCall} {f : ℕ}
    (hreaches : ReachesWpaS e.env wpaS) (hf : e.frequency = some f) :
    f ≠ 0 ∧ miracastStep cfg wpaS e = sccResult cfg e.env wpaS true f := by
  obtain ⟨hrequest, hzero⟩ := requestedFrequency_eq_some_iff.mp hf
  rw [miracastStep_eq hsink, if_pos hreaches, hrequest]
  exact ⟨hzero, rfl⟩

/-- A command is exact, whatever the local variables hold, if and only if the
frequency it asks for has a channel. -/
theorem channelExact_withLocals_iff
    (wpaS : Supplicant) (e : MiracastCall) :
    (∀ locals, ChannelExact cfg wpaS (e.withLocals locals)) ↔
      (wpaS.p2p.isSome → ReachesWpaS e.env wpaS →
        ∀ f, e.frequency = some f → IsP2pFrequency cfg f) := by
  constructor
  · intro hexact hp2p hreaches f hf
    obtain ⟨p2p, hp2p⟩ := Option.isSome_iff_exists.mp hp2p
    obtain ⟨drv, hdrv⟩ := Option.isSome_iff_exists.mp hreaches.1
    obtain ⟨conf, hconf⟩ := Option.isSome_iff_exists.mp
      (conf_isSome_of_openDrv hdrv hreaches.2)
    by_contra hfreq
    let locals : Locals := ⟨p2p.opRegClass + 1, 0⟩
    obtain ⟨p2p', hstep, hcase⟩ := hexact locals hreaches f hf p2p hp2p
    obtain ⟨hzero, heq⟩ :=
      miracastStep_of_frequency hsink (e := e.withLocals locals) hreaches hf
    rw [(privP2pFreqToChannel_eq_none_iff cfg f).mpr hfreq] at hcase
    rw [heq, sccResult_of_not_frequency hp2p hconf hzero hfreq] at hstep
    have hshared : p2p.share (p2p.opRegClass + 1) 0 = p2p' :=
      Option.some.inj hstep
    have hclass : p2p.opRegClass + 1 = p2p.opRegClass := by
      calc
        p2p.opRegClass + 1 =
            (p2p.share (p2p.opRegClass + 1) 0).opRegClass := rfl
        _ = p2p'.opRegClass := by rw [hshared]
        _ = p2p.opRegClass := hcase.1
    exact absurd hclass (by grind)
  · intro haccepted locals hreaches f hf p2p hp2p
    have hfreq := haccepted (by simp [hp2p]) hreaches f hf
    obtain ⟨drv, hdrv⟩ := Option.isSome_iff_exists.mp hreaches.1
    obtain ⟨conf, hconf⟩ := Option.isSome_iff_exists.mp
      (conf_isSome_of_openDrv hdrv hreaches.2)
    obtain ⟨pair, hpair⟩ := Option.isSome_iff_exists.mp
      ((privP2pFreqToChannel_isSome_iff cfg f).mpr hfreq)
    obtain ⟨hzero, heq⟩ :=
      miracastStep_of_frequency hsink (e := e.withLocals locals) hreaches hf
    refine ⟨p2p.share pair.1 pair.2, ?_, ?_⟩
    · simp [heq, sccResult, hp2p, hconf, p2pWfdSinkConfigScc, hzero, hpair]
    · rw [hpair]
      exact denotes_share p2p pair

/-! ## Whole runs -/

/-- A command changes neither who reaches the context nor whether there is a
P2P state. -/
theorem frequencies_step_iff
    (wpaS : Supplicant) (e : MiracastCall) (es : List MiracastCall) :
    ((miracastStep cfg wpaS e).p2p.isSome →
        ∀ e' ∈ es, ReachesWpaS e'.env (miracastStep cfg wpaS e) →
          ∀ f, e'.frequency = some f → IsP2pFrequency cfg f) ↔
      (wpaS.p2p.isSome → ∀ e' ∈ es, ReachesWpaS e'.env wpaS →
        ∀ f, e'.frequency = some f → IsP2pFrequency cfg f) := by
  rw [miracastStep_p2p_isSome hsink]
  simp only [reachesWpaS_congr (miracastStep_conf hsink wpaS e)]

/-- Every command of a run is exact, whatever the local variables hold, if and
only if every frequency asked for has a channel. -/
theorem miracastRuns_exact_iff
    (wpaS : Supplicant) (es : List MiracastCall) :
    (∀ es', List.Forall₂ MiracastCall.Alike es es' →
        Meets (miracastStep cfg) (ChannelExact cfg) wpaS es') ↔
      (wpaS.p2p.isSome → ∀ e ∈ es, ReachesWpaS e.env wpaS →
        ∀ f, e.frequency = some f → IsP2pFrequency cfg f) := by
  induction es generalizing wpaS with
  | nil =>
      constructor
      · intro _ _ e he
        cases he
      · rintro _ es' halike
        cases halike
        trivial
  | cons e es ih =>
      constructor
      · intro hall
        have hhead : ∀ locals,
            ChannelExact cfg wpaS (e.withLocals locals) := by
          intro locals
          have hrest : List.Forall₂ MiracastCall.Alike es es :=
            List.forall₂_same.mpr fun d _ => d.alike_self
          exact (hall (e.withLocals locals :: es)
            (.cons ⟨locals, rfl⟩ hrest)).1
        have htail : ∀ es', List.Forall₂ MiracastCall.Alike es es' →
            Meets (miracastStep cfg) (ChannelExact cfg)
              (miracastStep cfg wpaS e) es' :=
          fun es' halike => (hall (e :: es') (.cons e.alike_self halike)).2
        have hrest :=
          (frequencies_step_iff hsink wpaS e es).mp ((ih _).mp htail)
        intro hp2p e' he'
        rcases List.mem_cons.mp he' with rfl | hmem
        · exact (channelExact_withLocals_iff hsink wpaS e').mp hhead hp2p
        · exact hrest hp2p e' hmem
      · intro haccepted es' halike
        cases halike with
        | cons hhead htail =>
            obtain ⟨locals, rfl⟩ := hhead
            refine ⟨?_, ?_⟩
            · exact (channelExact_withLocals_iff hsink wpaS e).mpr
                (fun hp2p => haccepted hp2p e List.mem_cons_self) locals
            · refine (ih _).mpr ?_ _ htail
              apply (frequencies_step_iff hsink wpaS _ es).mpr
              intro hp2p e' hmem
              exact haccepted hp2p e' (List.mem_cons_of_mem e hmem)

end

/-- A run with a frequency from the command and one from the connection. -/
def sinkRun : List MiracastCall :=
  [{ env := wlanEnv, text := lit "2 freq=2437", buf := none },
    { env := connectedEnv, text := lit "1", buf := none }]

theorem miracastRuns_exact_of_channel_six :
    sinkConfig.mtkWfdSink = true ∧
      ∀ es', List.Forall₂ MiracastCall.Alike sinkRun es' →
        Meets (miracastStep sinkConfig) (ChannelExact sinkConfig)
          plainSupplicant es' := by
  refine ⟨rfl, ?_⟩
  apply (miracastRuns_exact_iff rfl plainSupplicant sinkRun).mpr
  intro _ e he _ f hf
  have hall : ∀ e ∈ sinkRun, e.frequency = some 2437 := by
    intro e he
    rcases List.mem_cons.mp he with rfl | he
    · decide +kernel
    · rw [List.mem_singleton.mp he]
      decide +kernel
  obtain rfl := Option.some.inj ((hall e he).symm.trans hf)
  exact .inl (by decide)

/-- A frequency without a channel sets the channel to what happens to be on the
stack. -/
theorem not_miracastRuns_exact :
    ¬Meets (miracastStep sinkConfig) (ChannelExact sinkConfig) plainSupplicant
      [{ env := wlanEnv, text := lit "2 freq=1", buf := none }] := by
  rintro ⟨hexact, -⟩
  have hf : MiracastCall.frequency
      { env := wlanEnv, text := lit "2 freq=1", buf := none } = some 1 := by
    decide +kernel
  obtain ⟨p2p', hstep, hcase⟩ := hexact ⟨rfl, rfl⟩ 1 hf plainP2p rfl
  have hnone : privP2pFreqToChannel sinkConfig 1 = none := by decide
  rw [hnone] at hcase
  have hclass : (miracastStep sinkConfig plainSupplicant
      { env := wlanEnv, text := lit "2 freq=1", buf := none }).p2p.map
        P2pData.opRegClass = some 0 := by
    decide +kernel
  rw [hstep, Option.map_some, hcase.1] at hclass
  exact absurd hclass (by decide)

end SmartSurf.Wifi
