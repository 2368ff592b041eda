import SmartSurf.Support.Sequencing
import SmartSurf.Wifi.Messages
import SmartSurf.Wifi.P2p

/-!
# The state of a driver command

The state is what `wpa_driver_nl80211_driver_cmd` can change: the supplicant
context, the command, the reply buffer, and the calls it has made.  Everything
it is told from outside is in `Env`.  The computation stops where the C program
has no defined behaviour, or where it waits for ever.  Reading the variable
`wpa_s` on the interface `ap0`, where it is never assigned, is such a place.
-/

namespace SmartSurf.Wifi

open Support C

/-! ## State -/

/-- The fields of an interface which `mcc` sets; `p2pConcurrent` is the bit
`WPA_DRIVER_FLAGS_P2P_CONCURRENT` of `drv_flags`. -/
structure Iface where
  numMultichanConcurrent : ℕ
  p2pConcurrent : Bool
  deriving DecidableEq, Repr

/-- The fields of `struct wpa_supplicant` in use, with those of `global`.
`drvPriv` says that the pointer is not null. -/
structure Supplicant where
  conf : Option SupplicantConf
  p2p : Option P2pData
  ownAddr : EthAddr
  drvPriv : Bool
  p2pScanResCache : UInt8
  ifaces : List Iface

/-- The fields of `struct wpa_driver_nl80211_data` in use.  `ctx` says that the
pointer is not null, and `firstIfname` is `first_bss->ifname`. -/
structure Drv where
  ctx : Bool
  associated : Bool
  firstIfname : CText
  deriving DecidableEq, Repr

/-- The answer of the private ioctl. -/
structure PrivReply where
  ret : ℤ
  usedLen : ℤ
  answer : Buffer → Buffer

/-- What a command is told from outside: the interface and its driver data, the
structures its buffer is read as, the constants of another header, the results
of the functions it calls, and what its local variables hold at first. -/
structure Env where
  ifname : CText
  drv : Option Drv
  bufLen : ℕ
  wapiKey : WapiKeyParam
  wapiMsgInLen : ℤ
  wfdData : WfdRequest
  goReady : GoReadyAttrs
  exchange : Exchange
  hwaddrAton : CText → Option EthAddr
  sharedFreq : Int32
  random : UInt32
  deauthenticate : ℤ
  setIfaceFlags : ℤ
  socket : ℤ
  countryIoctl : ℤ
  openCache : ℤ
  privIoctl : PrivReply
  staRecord : Record StaField
  linkRecord : Record LinkField
  locals : Locals

/-- The calls by which a command acts on the outside. -/
inductive Effect where
  | testmode (msg : Message) (ret : Option ℤ)
  | country (ifname text : CText)
  | setIfaceFlags (ifname : CText) (up : Bool)
  | deauthenticate
  | driverState (started : Bool)
  | createCache
  | removeCache
  | scanLoadingTimeout
  | privateCommand (cmd : CText)

/-- The state of a command; `buf` may be a null pointer. -/
structure CmdState where
  wpaS : Supplicant
  cmd : CText
  buf : Option Buffer
  effects : List Effect

/-- Why a command does not return. -/
inductive Stop where
  | unassigned
  | nullPointer
  | outOfBounds
  | blocked
  deriving DecidableEq, Repr

abbrev CmdM := EStateM Stop CmdState

/-- How a branch ends: with the variable `ret`, or with `handled = 0`. -/
inductive Verdict where
  | done (ret : ℤ)
  | forward
  deriving DecidableEq, Repr

/-! ## Accesses -/

/-- Append a call to the list. -/
def CmdState.log (s : CmdState) (effect : Effect) : CmdState :=
  { s with effects := s.effects ++ [effect] }

def perform (effect : Effect) : CmdM Unit :=
  modify fun s => s.log effect

/-- `os_strcmp(bss->ifname, "ap0") == 0`. -/
def Env.isAp (env : Env) : Bool :=
  env.ifname == lit "ap0"

/-- The use of the variable `wpa_s`. -/
def readWpaS (env : Env) : CmdM Supplicant :=
  if env.isAp then throw .unassigned
  else do
    let s ← get
    return s.wpaS

def writeWpaS (wpaS : Supplicant) : CmdM Unit :=
  modify fun s => { s with wpaS := wpaS }

/-- The command from an offset on. -/
def argument (n : ℕ) : CmdM CText := do
  let s ← get
  return s.cmd.drop n

/-- Cut the command at the first space behind an offset.  The result is the
text behind the space, or `none` if there is no space. -/
def cutAtSpace (n : ℕ) : CmdM (Option CText) := do
  let s ← get
  let text := s.cmd.drop n
  match strchr 32 text with
  | none => return none
  | some rest =>
      set { s with cmd := s.cmd.take n ++ text.takeWhile (· != 32) }
      return some rest

/-- `snprintf(buf, buf_len, …)`. -/
def snprintf (env : Env) (text : CText) : CmdM ℤ := do
  let s ← get
  match s.buf with
  | none => if env.bufLen = 0 then return text.length else throw .nullPointer
  | some buf =>
      set { s with buf := some (printAt buf 0 env.bufLen text) }
      return text.length

/-- `wpa_driver_nl80211_testmode`, called with a pointer that may be null. -/
def testmodeCall (cfg : Config) (env : Env) (priv : Bool) (msg : Message) :
    CmdM ℤ :=
  if cfg.mtkTurnkeyWlan ∧ ¬priv then throw .nullPointer
  else do
    perform (.testmode msg (testmodeValue cfg env.exchange))
    match testmodeValue cfg env.exchange with
    | none => throw .blocked
    | some ret => return ret

/-- Run one of the report functions on the reply buffer.  Nothing is written
through a null pointer if the buffer is empty or the driver has failed. -/
def printReport (report : Buffer → Option (ℤ × Buffer)) (bufLen : ℕ) :
    CmdM ℤ := do
  let s ← get
  match s.buf with
  | some buf =>
      match report buf with
      | none => throw .blocked
      | some (ret, buf) =>
          set { s with buf := some buf }
          return ret
  | none =>
      match report fun _ => 0 with
      | none => throw .blocked
      | some (ret, _) =>
          if ret < 0 ∨ bufLen = 0 then return ret else throw .nullPointer

/-- The state in which a command is given. -/
def CmdState.given (wpaS : Supplicant) (cmd : CText) (buf : Option Buffer) :
    CmdState where
  wpaS := wpaS
  cmd := cmd
  buf := buf
  effects := []

/-! ## How the accesses end -/

section

variable {cfg : Config} {env : Env} {s : CmdState}
  {E : Stop → CmdState → Prop}

@[simp] theorem ends_perform {effect : Effect} {Q : Unit → CmdState → Prop} :
    Ends (perform effect) s Q E ↔ Q () (s.log effect) := by
  simp [perform]

@[simp] theorem ends_readWpaS {Q : Supplicant → CmdState → Prop} :
    Ends (readWpaS env) s Q E ↔
      if env.isAp then E .unassigned s else Q s.wpaS s := by
  simp [readWpaS]

@[simp] theorem ends_writeWpaS
    {wpaS : Supplicant} {Q : Unit → CmdState → Prop} :
    Ends (writeWpaS wpaS) s Q E ↔ Q () { s with wpaS := wpaS } := by
  simp [writeWpaS]

@[simp] theorem ends_argument {n : ℕ} {Q : CText → CmdState → Prop} :
    Ends (argument n) s Q E ↔ Q (s.cmd.drop n) s := by
  simp [argument]

theorem ends_cutAtSpace {n : ℕ} {Q : Option CText → CmdState → Prop} :
    Ends (cutAtSpace n) s Q E ↔
      match strchr 32 (s.cmd.drop n) with
      | none => Q none s
      | some rest =>
          Q (some rest)
            { s with
              cmd := s.cmd.take n ++ (s.cmd.drop n).takeWhile (· != 32) } := by
  simp only [cutAtSpace, ends_bind, ends_get]
  split
  · simp
  · simp

theorem ends_testmodeCall
    {priv : Bool} {msg : Message} {Q : ℤ → CmdState → Prop} :
    Ends (testmodeCall cfg env priv msg) s Q E ↔
      if cfg.mtkTurnkeyWlan ∧ ¬priv then E .nullPointer s
      else
        match testmodeValue cfg env.exchange with
        | none => E .blocked (s.log (.testmode msg none))
        | some ret => Q ret (s.log (.testmode msg (some ret))) := by
  rw [testmodeCall, ends_ite]
  cases testmodeValue cfg env.exchange with
  | none => simp
  | some ret => simp

/-- A message is logged whether or not it is answered. -/
theorem stateAfter_testmodeCall
    {priv : Bool} (hpriv : ¬(cfg.mtkTurnkeyWlan ∧ ¬priv)) (msg : Message) :
    stateAfter (testmodeCall cfg env priv msg) s =
      s.log (.testmode msg (testmodeValue cfg env.exchange)) := by
  rw [stateAfter_eq_iff, ends_testmodeCall, if_neg hpriv]
  rcases testmodeValue cfg env.exchange with _ | ret
  · rfl
  · rfl

theorem CmdState.log_ne (effect : Effect) :
    s.log effect ≠ s := by
  intro h
  have hlength := congrArg (fun t => t.effects.length) h
  simp [CmdState.log] at hlength

theorem CmdState.log_inj {effect effect' : Effect}
    (h : s.log effect = s.log effect') :
    effect = effect' := by
  have heffects := congrArg CmdState.effects h
  simpa [CmdState.log] using heffects

end

/-! ## Functions that send one message -/

/-- The function fails without a call, or sends one message, whose contents
satisfy `P`. -/
def Sends {β : Type} (x : CmdM ℤ) (s : CmdState) (message : β → Message)
    (P : β → Prop) : Prop :=
  (∃ ret, ret < 0 ∧ x.run s = .ok ret s) ∨
    ∃ contents reply, P contents ∧
      stateAfter x s = s.log (.testmode (message contents) reply)

section

variable {β : Type} {x : CmdM ℤ} {s : CmdState} {message : β → Message}
  {P : β → Prop}

theorem sends_iff_of_logged
    (hinj : Function.Injective message) {contents : β} {reply : Option ℤ}
    (hstate : stateAfter x s = s.log (.testmode (message contents) reply)) :
    Sends x s message P ↔ P contents := by
  constructor
  · rintro (⟨ret, -, hrun⟩ | ⟨contents', reply', hP, hlogged⟩)
    · rw [stateAfter_of_ok hrun] at hstate
      exact absurd hstate.symm (CmdState.log_ne _)
    · rw [hstate] at hlogged
      have heffect := CmdState.log_inj hlogged
      rw [Effect.testmode.injEq] at heffect
      rw [hinj heffect.1]
      exact hP
  · intro hP
    exact .inr ⟨contents, reply, hP, hstate⟩

theorem not_sends_of_error {e : Stop} (hrun : x.run s = .error e s) :
    ¬Sends x s message P := by
  rintro (⟨ret, -, hok⟩ | ⟨contents, reply, -, hlogged⟩)
  · rw [hrun] at hok
    cases hok
  · rw [stateAfter_of_error hrun] at hlogged
    exact CmdState.log_ne _ hlogged.symm

end

end SmartSurf.Wifi
