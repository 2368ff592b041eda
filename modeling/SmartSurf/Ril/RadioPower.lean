import SmartSurf.Ril.State
import SmartSurf.Support.Run

/-!
# Radio power and the modem

`MT6735.setRadioPower` powers the modem itself off when the radio is switched
off in airplane mode, and on again when the radio is switched on after
airplane mode has been left.  Whether airplane mode has been left is decided
from a property that every call overwrites with the current setting.

The two phone instances of the device share that property and the modem.  The
runs considered here interleave calls of both in any order.
-/

namespace SmartSurf.Ril

open Support

/-- `b ? "true" : "false"`. -/
def flagString (b : Bool) : JString :=
  if b then "true".toList else "false".toList

/-- `MT6735.setRadioPower`. -/
def setRadioPower (on : Bool) (result : Option Message) : RilM Unit := do
  let s ← get
  let isInApm := s.airplaneModeOn == 1
  let wasInApm := s.device.props .airplaneModeOn == "true".toList
  setProperty .airplaneModeOn (flagString isInApm)
  if on && wasInApm && !isInApm then
    setProperty .eboot "0".toList
    let rr ← obtainRequest .modemPoweron result
    send rr
  else if !on && isInApm then
    setProperty .eboot "1".toList
    let rr ← obtainRequest .modemPoweroff result
    send rr
  else
    forward (.superSetRadioPower on result)

/-- The modem power request that a call sends, if any. -/
def powerDecision (on wasInApm isInApm : Bool) : Option Request :=
  if on && wasInApm && !isInApm then some .modemPoweron
  else if !on && isInApm then some .modemPoweroff
  else none

theorem powerDecision_poweroff : ∀ on wasInApm isInApm : Bool,
    powerDecision on wasInApm isInApm = some .modemPoweroff →
      on = false ∧ isInApm = true := by
  decide

theorem powerDecision_none_on : ∀ isInApm : Bool,
    powerDecision true true isInApm = none → isInApm = true := by
  decide

theorem powerDecision_modemPower : ∀ on wasInApm isInApm : Bool,
    ∀ request ∈ powerDecision on wasInApm isInApm,
      request = .modemPoweron ∨ request = .modemPoweroff := by
  decide

/-- The one thing that leaves the class in a call. -/
def powerOutgoing (s : RilState) (on : Bool) (result : Option Message) :
    Outgoing :=
  match powerDecision on
      (s.device.props .airplaneModeOn == "true".toList)
      (s.airplaneModeOn == 1) with
  | some request =>
      .request
        { mSerial := s.sNextSerial, mRequest := request, mResult := result }
  | none => .superSetRadioPower on result

/-- A call of `setRadioPower` always returns; it sends or forwards one request
and stores the current setting.  A request it sends becomes pending. -/
theorem setRadioPower_run (on : Bool) (result : Option Message)
    (s : RilState) :
    ∃ t, (setRadioPower on result).run s = .ok () t ∧
      t.outgoing = s.outgoing ++ [powerOutgoing s on result] ∧
      t.device.props .airplaneModeOn =
        flagString (s.airplaneModeOn == 1) ∧
      t.mRequestList =
        s.mRequestList ++ (powerOutgoing s on result).requests ∧
      t.sNextSerial =
        s.sNextSerial + (powerOutgoing s on result).requests.length := by
  have hflag : ∀ b, (flagString b).length ≤ propValueMax := by decide
  have hzero : "0".toList.length ≤ propValueMax := by decide
  have hone : "1".toList.length ≤ propValueMax := by decide
  simp only [setRadioPower, powerOutgoing, powerDecision,
    EStateM.run_bind, EStateM.run_get, run_setProperty (hflag _)]
  split_ifs with hon hoff
  · simp only [EStateM.run_bind, run_setProperty hzero, run_obtainRequest,
      run_send]
    exact ⟨_, rfl, rfl, by simp, rfl, rfl⟩
  · simp only [EStateM.run_bind, run_setProperty hone, run_obtainRequest,
      run_send]
    exact ⟨_, rfl, rfl, by simp, rfl, rfl⟩
  · simp only [run_forward]
    exact ⟨_, rfl, rfl, by simp, (List.append_nil _).symm,
      (Int.add_zero _).symm⟩

/-! ## Two phones, one modem -/

/-- The two phone instances and what they share. -/
structure TwoPhones where
  shared : Shared
  phone : Fin 2 → Phone

/-- A call of `setRadioPower` by one instance, with the value that the
airplane mode setting has at the time of the call. -/
structure RadioCall where
  phone : Fin 2
  on : Bool
  airplaneModeOn : ℤ
  result : Option Message := none
  deriving DecidableEq, Repr

def RadioCall.isInApm (c : RadioCall) : Bool :=
  c.airplaneModeOn == 1

/-- State in which the method of the calling instance runs. -/
def TwoPhones.enter (d : TwoPhones) (c : RadioCall) : RilState where
  toShared := { d.shared with airplaneModeOn := c.airplaneModeOn }
  toPhone := d.phone c.phone

def TwoPhones.call (d : TwoPhones) (c : RadioCall) : TwoPhones :=
  let s := stateAfter (setRadioPower c.on c.result) (d.enter c)
  { shared := s.toShared
    phone := Function.update d.phone c.phone s.toPhone }

/-- The modem power request contained in an outgoing item. -/
def modemPower : Outgoing → Option Request
  | .request rr =>
      if rr.mRequest = .modemPoweron ∨ rr.mRequest = .modemPoweroff then
        some rr.mRequest
      else
        none
  | _ => none

/-- The last modem power request sent by any instance. -/
def lastModemPower (outgoing : List Outgoing) : Option Request :=
  (outgoing.filterMap modemPower).getLast?

theorem lastModemPower_concat (outgoing : List Outgoing) (o : Outgoing) :
    lastModemPower (outgoing ++ [o]) =
      (modemPower o).or (lastModemPower outgoing) := by
  cases ho : modemPower o with
  | none => simp [lastModemPower, ho]
  | some request => simp [lastModemPower, ho]

/-- The decision a call takes in a given state. -/
def TwoPhones.decision (d : TwoPhones) (c : RadioCall) : Option Request :=
  powerDecision c.on
    (d.shared.device.props .airplaneModeOn == "true".toList) c.isInApm

/-- The call sends `RIL_REQUEST_MODEM_POWERON` and nothing else. -/
def SendsPoweron (d : TwoPhones) (c : RadioCall) : Prop :=
  ∃ rr, rr.mRequest = .modemPoweron ∧ rr.mResult = c.result ∧
    (d.call c).shared.outgoing = d.shared.outgoing ++ [.request rr]

theorem call_outgoing (d : TwoPhones) (c : RadioCall) :
    (d.call c).shared.outgoing =
      d.shared.outgoing ++ [powerOutgoing (d.enter c) c.on c.result] := by
  obtain ⟨t, hrun, houtgoing, -⟩ :=
    setRadioPower_run c.on c.result (d.enter c)
  simp only [TwoPhones.call, stateAfter_of_ok hrun]
  exact houtgoing

theorem call_airplaneModeOn (d : TwoPhones) (c : RadioCall) :
    (d.call c).shared.device.props .airplaneModeOn =
      flagString c.isInApm := by
  obtain ⟨t, hrun, -, hflag, -⟩ := setRadioPower_run c.on c.result (d.enter c)
  simp only [TwoPhones.call, stateAfter_of_ok hrun]
  exact hflag

theorem modemPower_powerOutgoing (d : TwoPhones) (c : RadioCall) :
    modemPower (powerOutgoing (d.enter c) c.on c.result) = d.decision c := by
  have hdecision :
      powerDecision c.on
          ((d.enter c).device.props .airplaneModeOn == "true".toList)
          ((d.enter c).airplaneModeOn == 1) = d.decision c := rfl
  rw [powerOutgoing, hdecision]
  cases h : d.decision c with
  | none => rfl
  | some request =>
      have hpower : request = .modemPoweron ∨ request = .modemPoweroff :=
        powerDecision_modemPower _ _ _ request h
      simp [modemPower, hpower]

theorem lastModemPower_call (d : TwoPhones) (c : RadioCall) :
    lastModemPower (d.call c).shared.outgoing =
      (d.decision c).or (lastModemPower d.shared.outgoing) := by
  rw [call_outgoing, lastModemPower_concat, modemPower_powerOutgoing]

/-- A radio-on outside airplane mode powers the modem on when the property
still records airplane mode. -/
theorem sendsPoweron_of_flag
    {d : TwoPhones} {c : RadioCall} (hon : c.on = true)
    (hapm : c.isInApm = false)
    (hflag : d.shared.device.props .airplaneModeOn = "true".toList) :
    SendsPoweron d c := by
  let rr : RILRequest :=
    { mSerial := d.shared.sNextSerial
      mRequest := .modemPoweron
      mResult := c.result }
  refine ⟨rr, rfl, rfl, ?_⟩
  rw [call_outgoing]
  have hdecision :
      powerDecision c.on
          ((d.enter c).device.props .airplaneModeOn == "true".toList)
          ((d.enter c).airplaneModeOn == 1) = some .modemPoweron := by
    have hprop :
        (d.enter c).device.props .airplaneModeOn = "true".toList := hflag
    have hsetting : ((d.enter c).airplaneModeOn == 1) = false := hapm
    simp [powerDecision, hon, hprop, hsetting]
  rw [powerOutgoing, hdecision]
  rfl

/-! ## Runs -/

/-- A run together with the calls made since the last modem power request. -/
def watch (w : TwoPhones × List RadioCall) (c : RadioCall) :
    TwoPhones × List RadioCall :=
  (w.1.call c, if (w.1.decision c).isSome then [] else w.2 ++ [c])

/-- State after a sequence of calls. -/
def afterCalls (d : TwoPhones) (calls : List RadioCall) : TwoPhones :=
  run TwoPhones.call d calls

/-- The calls made since the last modem power request was sent. -/
def callsSinceModemPower (d : TwoPhones) (calls : List RadioCall) :
    List RadioCall :=
  (run watch (d, []) calls).2

theorem run_watch_fst (d : TwoPhones) (calls : List RadioCall) :
    (run watch (d, []) calls).1 = afterCalls d calls := by
  apply run_history_invariant watch (d, [])
    (I := fun es w => w.1 = afterCalls d es)
  · rfl
  · intro es w c hw
    simp [watch, hw, afterCalls]

/-- While the modem is off and no radio-off outside airplane mode has been
made since it was powered off, the property records airplane mode. -/
theorem flag_of_lastModemPower
    {d : TwoPhones}
    (hpowered : lastModemPower d.shared.outgoing ≠ some .modemPoweroff)
    (calls : List RadioCall) :
    lastModemPower (afterCalls d calls).shared.outgoing =
        some .modemPoweroff →
      (∀ x ∈ callsSinceModemPower d calls,
        x.on = false → x.isInApm = true) →
      (afterCalls d calls).shared.device.props .airplaneModeOn =
        "true".toList := by
  rw [← run_watch_fst, callsSinceModemPower]
  apply run_history_invariant watch (d, [])
    (I := fun _ w =>
      lastModemPower w.1.shared.outgoing = some .modemPoweroff →
        (∀ x ∈ w.2, x.on = false → x.isInApm = true) →
          w.1.shared.device.props .airplaneModeOn = "true".toList)
  · intro hoff
    exact absurd hoff hpowered
  · intro _ w c ih hoff hkept
    simp only [watch, lastModemPower_call, call_airplaneModeOn] at hoff hkept ⊢
    cases hdecision : w.1.decision c with
    | some request =>
        rw [hdecision, Option.some_or] at hoff
        obtain rfl := Option.some.inj hoff
        rw [(powerDecision_poweroff _ _ _ hdecision).2]
        rfl
    | none =>
        rw [hdecision, Option.none_or] at hoff
        rw [hdecision, Option.isSome_none, if_neg Bool.false_ne_true] at hkept
        have hflag := ih hoff fun x hx =>
          hkept x (List.mem_append_left _ hx)
        have hlast := hkept c (List.mem_append_right _ List.mem_cons_self)
        rw [TwoPhones.decision, hflag, beq_self_eq_true] at hdecision
        have hapm : c.isInApm = true := by
          by_cases hon : c.on = true
          · rw [hon] at hdecision
            exact powerDecision_none_on _ hdecision
          · exact hlast (by simpa using hon)
        rw [hapm]
        rfl

/-- Outside airplane mode, a radio-on powers a powered-off modem on, provided
no radio-off outside airplane mode has been made since it was powered off. -/
theorem setRadioPower_powers_modem_on
    {d : TwoPhones}
    (hpowered : lastModemPower d.shared.outgoing ≠ some .modemPoweroff)
    (calls : List RadioCall)
    (hoff : lastModemPower (afterCalls d calls).shared.outgoing =
      some .modemPoweroff)
    (hkept : ∀ x ∈ callsSinceModemPower d calls,
      x.on = false → x.isInApm = true)
    {c : RadioCall} (hon : c.on = true) (hapm : c.isInApm = false) :
    SendsPoweron (afterCalls d calls) c :=
  sendsPoweron_of_flag hon hapm
    (flag_of_lastModemPower hpowered calls hoff hkept)

/-- Two idle phones on a powered modem. -/
def idlePhones : TwoPhones where
  shared := idleState.toShared
  phone := fun _ => idleState.toPhone

/-- Both phones switch off in airplane mode, then one switches on after it. -/
theorem sendsPoweron_after_airplane_mode :
    SendsPoweron
      (afterCalls idlePhones
        [⟨0, false, 1, none⟩, ⟨1, false, 1, none⟩])
      ⟨1, true, 0, none⟩ :=
  setRadioPower_powers_modem_on (d := idlePhones) (by decide)
    [⟨0, false, 1, none⟩, ⟨1, false, 1, none⟩]
    (by decide) (by decide) rfl rfl

theorem not_sendsPoweron_of_forwarded
    {d : TwoPhones} {c : RadioCall}
    (h : powerOutgoing (d.enter c) c.on c.result =
      .superSetRadioPower c.on c.result) :
    ¬SendsPoweron d c := by
  rintro ⟨rr, -, -, houtgoing⟩
  rw [call_outgoing, h] at houtgoing
  have hitem := List.append_cancel_left houtgoing
  cases hitem

/-- A radio-on made in airplane mode leaves the modem off.  So does one that
follows a radio-off made outside airplane mode. -/
theorem not_sendsPoweron_in_airplane_mode :
    lastModemPower idlePhones.shared.outgoing ≠ some .modemPoweroff ∧
      (lastModemPower
          (afterCalls idlePhones [⟨0, false, 1, none⟩]).shared.outgoing =
            some .modemPoweroff ∧
        ¬SendsPoweron (afterCalls idlePhones [⟨0, false, 1, none⟩])
          ⟨1, true, 1, none⟩) ∧
      lastModemPower
          (afterCalls idlePhones
            [⟨0, false, 1, none⟩, ⟨1, false, 0, none⟩]).shared.outgoing =
            some .modemPoweroff ∧
        ¬SendsPoweron
          (afterCalls idlePhones
            [⟨0, false, 1, none⟩, ⟨1, false, 0, none⟩])
          ⟨0, true, 0, none⟩ := by
  refine ⟨by decide, ⟨by decide, ?_⟩, by decide, ?_⟩
  · exact not_sendsPoweron_of_forwarded (by decide)
  · exact not_sendsPoweron_of_forwarded (by decide)

end SmartSurf.Ril
