import Mathlib.Algebra.Ring.Int.Defs
import Mathlib.Logic.Function.Basic

/-!
# Messages to the Wi-Fi driver

`wpa_driver_nl80211_testmode` sends a vendor message over netlink and waits for
the answer.  What the kernel and the netlink library do is an `Exchange`: which
of the preparatory calls succeed, which callbacks each `nl_recvmsgs` makes, and
how `nla_parse_nested` reads the attributes of an answer.  A handler may store
data of the answer through a pointer; its argument is the state that the
callbacks pass on.
-/

namespace SmartSurf.Wifi

/-- The `CONFIG_` options of the build, and `MTK_TC1_FEATURE`. -/
structure Config where
  mtkTurnkeyWlan : Bool := false
  mediatekWifiBeam : Bool := false
  mtkPoorLinkDetect : Bool := false
  hotspotMgrSupport : Bool := false
  wapiSupport : Bool := false
  mtkP2p : Bool := false
  mtkWfdSink : Bool := false
  mtkSccMcc : Bool := false
  mtkP2pSigma : Bool := false
  mtkP2p5g : Bool := false
  mtkStageScan : Bool := false
  mtkTc1Feature : Bool := false
  deriving DecidableEq, Repr

/-! ## Attributes -/

/-- A netlink attribute with its payload. -/
structure Nlattr where
  type : ℕ
  data : List UInt8
  deriving DecidableEq, Repr

/-- The payload types that occur in the policies. -/
inductive NlaType where
  | unspec
  | u8
  | u16
  | u32
  | u64
  deriving DecidableEq, Repr

/-- `nla_parse_nested` of the netlink library: the payloads by attribute type,
given the highest type and the policy, or `none` if it reports an error. -/
abbrev NlaParse :=
  ℕ → (ℕ → NlaType) → List Nlattr → Option (ℕ → Option (List UInt8))

/-- A message from the driver; `none` is a message without the attribute
`NL80211_ATTR_TESTDATA`. -/
structure NlMsg where
  testdata : Option (List Nlattr)
  deriving DecidableEq, Repr

/-! ## The exchange -/

/-- The callbacks that `nl_recvmsgs` makes. -/
inductive Callback where
  | valid (msg : NlMsg)
  | ack
  | finish
  | error (code : ℤ)
  deriving DecidableEq, Repr

/-- What the kernel and the netlink library do with one message and with the
answers to it. -/
structure Exchange where
  nlmsgAlloc : Bool := true
  nlaPut : Bool := true
  nlCbClone : Bool := true
  nlSend : ℤ := 0
  nlaParse : NlaParse
  received : List (List Callback)

section

variable {α β : Type} (handler : NlMsg → α → α)

/-- The callbacks of one `nl_recvmsgs`, acting on the argument of the handler
and on `err`.  The acknowledgement stops the processing. -/
def deliver : List Callback → α × ℤ → α × ℤ
  | [], st => st
  | .valid msg :: rest, (arg, err) => deliver rest (handler msg arg, err)
  | .ack :: _, (arg, _) => (arg, 0)
  | .finish :: rest, (arg, _) => deliver rest (arg, 0)
  | .error code :: rest, (arg, _) => deliver rest (arg, code)

/-- `while (err > 0) nl_recvmsgs(…)`; `none` if the loop waits for ever. -/
def receive : List (List Callback) → α × ℤ → Option (α × ℤ)
  | [], st => if st.2 > 0 then none else some st
  | callbacks :: rest, st =>
      if st.2 > 0 then receive rest (deliver handler callbacks st)
      else some st

/-- `send_and_recv_msgs`. -/
def sendAndRecvMsgs (E : Exchange) (arg : α) : Option (α × ℤ) :=
  if !E.nlCbClone then some (arg, -12)
  else if E.nlSend < 0 then some (arg, E.nlSend)
  else receive handler E.received (arg, 1)

/-- `wpa_driver_nl80211_testmode`, with the handler that the index of the
message selects. -/
def testmode (cfg : Config) (E : Exchange) (arg : α) : Option (α × ℤ) :=
  if cfg.mtkTurnkeyWlan then
    if !E.nlmsgAlloc then some (arg, -1)
    else if !E.nlaPut then some (arg, -105)
    else sendAndRecvMsgs handler E arg
  else
    some (arg, 0)

/-! ## Runs of one exchange with two handlers -/

variable {handler} {handler' : NlMsg → β → β} {f : α → β}
  (hf : ∀ msg arg, f (handler msg arg) = handler' msg (f arg))

include hf

theorem deliver_map (callbacks : List Callback) (st : α × ℤ) :
    deliver handler' callbacks (Prod.map f id st) =
      Prod.map f id (deliver handler callbacks st) := by
  induction callbacks generalizing st with
  | nil => rfl
  | cons callback rest ih =>
      obtain ⟨arg, err⟩ := st
      cases callback with
      | valid msg =>
          have hstep := ih (handler msg arg, err)
          rw [Prod.map_apply, hf] at hstep
          exact hstep
      | ack => rfl
      | finish => exact ih (arg, 0)
      | error code => exact ih (arg, code)

theorem receive_map (calls : List (List Callback)) (st : α × ℤ) :
    receive handler' calls (Prod.map f id st) =
      (receive handler calls st).map (Prod.map f id) := by
  induction calls generalizing st with
  | nil =>
      by_cases herr : st.2 > 0
      · simp [receive, herr]
      · simp [receive, herr]
  | cons callbacks rest ih =>
      by_cases herr : st.2 > 0
      · simp [receive, herr, deliver_map hf, ih]
      · simp [receive, herr]

/-- An exchange takes the same course whatever the handlers store. -/
theorem testmode_map (cfg : Config) (E : Exchange) (arg : α) :
    testmode handler' cfg E (f arg) =
      (testmode handler cfg E arg).map (Prod.map f id) := by
  have hreceive := receive_map hf E.received (arg, 1)
  rw [testmode, testmode, sendAndRecvMsgs, sendAndRecvMsgs]
  split_ifs
  · rfl
  · rfl
  · rfl
  · rfl
  · exact hreceive
  · rfl

end

/-- The value that `wpa_driver_nl80211_testmode` returns. -/
def testmodeValue (cfg : Config) (E : Exchange) : Option ℤ :=
  (testmode (fun _ u => u) cfg E ()).map Prod.snd

section

variable {α : Type} (handler : NlMsg → α → α)

/-- The returned value does not depend on what the handler stores. -/
theorem testmode_value (cfg : Config) (E : Exchange) (arg : α) :
    (testmode handler cfg E arg).map Prod.snd = testmodeValue cfg E := by
  have hmap : testmode (fun _ u => u) cfg E () =
      (testmode handler cfg E arg).map (Prod.map (fun _ => ()) id) :=
    testmode_map (f := fun _ => ()) (fun _ _ => rfl) cfg E arg
  rw [testmodeValue, hmap, Option.map_map]
  rfl

theorem exists_testmode_of_value
    {cfg : Config} {E : Exchange} {ret : ℤ}
    (h : testmodeValue cfg E = some ret) (arg : α) :
    ∃ arg', testmode handler cfg E arg = some (arg', ret) := by
  rw [← testmode_value handler cfg E arg, Option.map_eq_some_iff] at h
  obtain ⟨⟨arg', ret'⟩, htestmode, rfl⟩ := h
  exact ⟨arg', htestmode⟩

variable {handler}

variable {I : α → Prop} (hI : ∀ msg arg, I arg → I (handler msg arg))

include hI

theorem deliver_invariant
    (callbacks : List Callback) {st : α × ℤ} (h : I st.1) :
    I (deliver handler callbacks st).1 := by
  induction callbacks generalizing st with
  | nil => exact h
  | cons callback rest ih =>
      obtain ⟨arg, err⟩ := st
      cases callback with
      | valid msg => exact ih (hI msg arg h)
      | ack => exact h
      | finish => exact ih h
      | error code => exact ih h

theorem receive_invariant
    (calls : List (List Callback)) {st st' : α × ℤ} (h : I st.1)
    (hreceive : receive handler calls st = some st') :
    I st'.1 := by
  induction calls generalizing st with
  | nil =>
      rw [receive] at hreceive
      split at hreceive
      · cases hreceive
      · obtain rfl := Option.some.inj hreceive
        exact h
  | cons callbacks rest ih =>
      rw [receive] at hreceive
      split at hreceive
      · exact ih (deliver_invariant hI callbacks h) hreceive
      · obtain rfl := Option.some.inj hreceive
        exact h

/-- What every call of the handler preserves holds after the exchange. -/
theorem testmode_invariant
    {cfg : Config} {E : Exchange} {arg arg' : α} {ret : ℤ} (h : I arg)
    (htestmode : testmode handler cfg E arg = some (arg', ret)) :
    I arg' := by
  have hsame : ∀ {r : ℤ}, some (arg, r) = some (arg', ret) → I arg' := by
    intro r heq
    rw [Option.some.injEq, Prod.mk.injEq] at heq
    exact heq.1 ▸ h
  rw [testmode, sendAndRecvMsgs] at htestmode
  split_ifs at htestmode
  · exact hsame htestmode
  · exact hsame htestmode
  · exact hsame htestmode
  · exact hsame htestmode
  · have hstart : I (arg, (1 : ℤ)).1 := h
    exact receive_invariant hI E.received hstart htestmode
  · exact hsame htestmode

end

/-! ## A plain exchange -/

/-- A parser that takes every attribute for what it is. -/
def plainParse : NlaParse := fun _ _ attrs =>
  some fun type => (attrs.find? fun nla => nla.type == type).map Nlattr.data

/-- The message is acknowledged and not answered. -/
def bareAck : Exchange where
  nlaParse := plainParse
  received := [[.ack]]

end SmartSurf.Wifi
