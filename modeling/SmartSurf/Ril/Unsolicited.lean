import SmartSurf.Ril.Requests

/-!
# Unsolicited messages

`MT6735.processUnsolicited` handles six kinds of messages of the modem itself
and rewinds every other message for the superclass.  Three kinds are
acknowledged by a request, which is sent while the message is still being
decoded; the others are passed on to listeners.  A message that cannot be
decoded raises an exception, possibly after a serial number has been spent.

The registrants of the superclass are logs: `callStateNotifications` counts
what `mCallStateRegistrants` is told, `ussd` holds what `mUSSDRegistrant` is
told, and `forwarded` what is handed to the superclass.  What the superclass
then does is a later event of the instance.
-/

namespace SmartSurf.Ril

open Support

/-! ## State -/

/-- What the listeners of an instance have been told. -/
structure Listeners where
  callStateNotifications : ℕ
  ussdRegistrant : Bool
  ussd : List (List (Option JString))
  forwarded : List (Parcel × ℤ)

/-- An instance with its listeners. -/
structure Session extends RilState, Listeners

abbrev SessionM := EStateM Throwable Session

/-- The methods of the superclass which decode unsolicited messages, and the
allocation of an array. -/
structure SessionRil extends StockRil where
  responseStrings :
    Parcel → Except Throwable (Option (List (Option JString)))
  responseInts : Parcel → Except Throwable (List ℤ)
  newIntArray : ℤ → Except Throwable Unit

/-- Run a method of the instance that tells the listeners nothing. -/
def onRil {α : Type} (x : RilM α) : SessionM α :=
  zoom (fun s => s.toRilState) (fun s t => { s with toRilState := t }) x

def raise {α : Type} : Except Throwable α → SessionM α
  | .ok a => return a
  | .error thr => throw thr

@[simp] theorem raise_ok {α : Type} (a : α) : raise (.ok a) = pure a := rfl

def notifyCallState : SessionM Unit :=
  modify fun s =>
    { s with callStateNotifications := s.callStateNotifications + 1 }

def notifyUssd (fields : List (Option JString)) : SessionM Unit :=
  modify fun s =>
    if s.ussdRegistrant then { s with ussd := s.ussd ++ [fields] } else s

def forwardUnsolicited (p : Parcel) (type : ℤ) : SessionM Unit :=
  modify fun s => { s with forwarded := s.forwarded ++ [(p, type)] }

/-! ## Decoding -/

/-- `ArrayIndexOutOfBoundsException`. -/
def indexOutOfBounds (length index : ℕ) : Throwable :=
  .runtime s!"length={length}; index={index}"

/-- The loop `response[i] = p.readInt()`. -/
def readInts : ℕ → Parcel → List ℤ
  | 0, _ => []
  | n + 1, p => p.readInt.1 :: readInts n p.readInt.2

/-- `MT6735.responseRegSuspended`. -/
def responseRegSuspended (R : SessionRil) (p : Parcel) :
    SessionM Unit := do
  let numInts := p.readInt.1
  raise (R.newIntArray numInts)
  let response := readInts numInts.toNat p.readInt.2
  let rr ← onRil (obtainRequest .resumeRegistration none)
  match response with
  | [] => throw (indexOutOfBounds 0 0)
  | sessionId :: _ =>
      onRil (send { rr with mParcel := [.int 1, .int sessionId] })

/-- `Integer.parseInt(response[i])`. -/
def parseField (response : List (Option JString)) (i : ℕ) :
    Except Throwable ℤ :=
  match response[i]? with
  | none => .error (indexOutOfBounds response.length i)
  | some none => .error (.numberFormat "null".toList)
  | some (some text) => Java.parseInt text

/-- The call that an incoming call indication names. -/
structure IncomingCall where
  mode : ℤ
  callId : ℤ
  seqNo : ℤ
  deriving DecidableEq, Repr

/-- The fields of an incoming call indication, in the order in which they are
read. -/
def parseIncomingCall (response : List (Option JString)) :
    Except Throwable IncomingCall := do
  let mode ← parseField response 3
  let callId ← parseField response 0
  let seqNo ← parseField response 4
  return { mode := mode, callId := callId, seqNo := seqNo }

/-- The parcel of `RIL_REQUEST_SET_CALL_INDICATION`. -/
def IncomingCall.items (call : IncomingCall) : List ParcelItem :=
  [.int 3, .int call.mode, .int call.callId, .int call.seqNo]

/-- `MT6735.responseIncomingCallIndication`. -/
def responseIncomingCallIndication (R : SessionRil) (p : Parcel) :
    SessionM Unit := do
  let array ← raise (R.readStringArray p)
  let rr ← onRil (obtainRequest .setCallIndication none)
  match array with
  | none => throw .nullPointer
  | some response =>
      let call ← raise (parseIncomingCall response)
      onRil (send { rr with mParcel := call.items })

/-- `MT6735.responseCallProgress`; the result is `true` for the value null,
which stands for the end of a call. -/
def responseCallProgress (R : SessionRil) (p : Parcel) : SessionM Bool := do
  match ← raise (R.readStringArray p) with
  | none => throw .nullPointer
  | some response =>
      match response[1]? with
      | none => return false
      | some none => throw .nullPointer
      | some (some msgType) => return msgType == "129".toList

/-- `MT6735.responseSetAttachApn`, with the operator that the telephony manager
reports. -/
def responseSetAttachApn (operatorNumber : Option JString) : SessionM Unit :=
  onRil (setInitialAttachApn (some []) (some []) 0 (some []) (some [])
    operatorNumber none)

/-- The fields of a USSD message as they are passed on: there are two at least,
and the ways in which a session can end are made one. -/
def ussdFields : List (Option JString) →
    Except Throwable (List (Option JString))
  | [] => .error (indexOutOfBounds 0 0)
  | first :: rest =>
      let rest := if rest.isEmpty then [none] else rest
      match first with
      | none => .ok (none :: rest)
      | some text =>
          match Java.parseInt text with
          | .error thr => .error thr
          | .ok value =>
              if 2 ≤ value ∧ value ≤ 5 then .ok (some "0".toList :: rest)
              else .ok (some text :: rest)

/-- The part of `processUnsolicited` for `RIL_UNSOL_ON_USSD`. -/
def onUssd (R : SessionRil) (p : Parcel) : SessionM Unit := do
  match ← raise (R.responseStrings p) with
  | none => throw .nullPointer
  | some ret =>
      let resp ← raise (ussdFields ret)
      notifyUssd resp

/-- The part of `processUnsolicited` for
`RIL_UNSOL_RESPONSE_PS_NETWORK_STATE_CHANGED`. -/
def onPsNetworkState (R : SessionRil) (p : Parcel) : SessionM Unit := do
  match ← raise (R.responseInts p) with
  | [] => throw (indexOutOfBounds 0 0)
  | state :: _ => if state ≠ 4 then onRil notifyVoiceNetworkState

/-! ## The method -/

/-- The messages that the class handles itself. -/
inductive Unsolicited where
  | registrationSuspended
  | incomingCallIndication
  | callInfoIndication
  | setAttachApn
  | onUssd
  | psNetworkStateChanged
  deriving DecidableEq, Repr

/-- The cases of the first switch. -/
def Unsolicited.ofNumber (response : ℤ) : Option Unsolicited :=
  if response = 3024 then some .registrationSuspended
  else if response = 3042 then some .incomingCallIndication
  else if response = 3049 then some .callInfoIndication
  else if response = 3073 then some .setAttachApn
  else if response = 1006 then some .onUssd
  else if response = 3015 then some .psNetworkStateChanged
  else none

/-- The message at the head of a parcel. -/
def messageOf (p : Parcel) : Option Unsolicited :=
  Unsolicited.ofNumber p.readInt.1

/-- The parcel behind the number of the message. -/
def contentsOf (p : Parcel) : Parcel := p.readInt.2

/-- `MT6735.processUnsolicited`: what its two switches do with each kind. -/
def processUnsolicited (R : SessionRil) (operatorNumber : Option JString)
    (p : Parcel) (type : ℤ) : SessionM Unit := do
  match messageOf p with
  | some .registrationSuspended => responseRegSuspended R (contentsOf p)
  | some .incomingCallIndication =>
      responseIncomingCallIndication R (contentsOf p)
      notifyCallState
  | some .callInfoIndication =>
      if ← responseCallProgress R (contentsOf p) then notifyCallState
  | some .setAttachApn => responseSetAttachApn operatorNumber
  | some .onUssd => onUssd R (contentsOf p)
  | some .psNetworkStateChanged => onPsNetworkState R (contentsOf p)
  | none =>
      forwardUnsolicited ((contentsOf p).setDataPosition p.dataPosition) type

/-! ## What a message asks for -/

/-- The reaction to a message: the request by which it is acknowledged, or a
serial number spent in vain, and what the listeners and the superclass are
told. -/
structure Reaction where
  acknowledgement : Option (Request × List ParcelItem) := none
  spent : Bool := false
  callState : Bool := false
  networkState : Bool := false
  ussd : Option (List (Option JString)) := none
  forwarded : Option (Parcel × ℤ) := none

namespace Reaction

def regSuspended (R : SessionRil) (p : Parcel) : Reaction :=
  match R.newIntArray p.readInt.1 with
  | .error _ => {}
  | .ok _ =>
      match readInts p.readInt.1.toNat p.readInt.2 with
      | [] => { spent := true }
      | sessionId :: _ =>
          { acknowledgement :=
              some (.resumeRegistration, [.int 1, .int sessionId]) }

def incomingCallIndication (R : SessionRil) (p : Parcel) : Reaction :=
  match R.readStringArray p with
  | .error _ => {}
  | .ok none => { spent := true }
  | .ok (some response) =>
      match parseIncomingCall response with
      | .error _ => { spent := true }
      | .ok call =>
          { acknowledgement := some (.setCallIndication, call.items)
            callState := true }

def callProgress (R : SessionRil) (p : Parcel) : Reaction :=
  match R.readStringArray p with
  | .ok (some response) =>
      { callState := response[1]? == some (some "129".toList) }
  | _ => {}

def setAttachApn (operatorNumber : Option JString) : Reaction :=
  { acknowledgement := some (.setInitialAttachApn,
      [.string (some []), .string (some []), .int 0, .string (some []),
        .string (some []), .string operatorNumber, .int 1,
        .stringArray none]) }

def onUssd (R : SessionRil) (p : Parcel) : Reaction :=
  match R.responseStrings p with
  | .ok (some ret) => { ussd := (ussdFields ret).toOption }
  | _ => {}

def psNetworkState (R : SessionRil) (p : Parcel) : Reaction :=
  match R.responseInts p with
  | .ok (state :: _) => { networkState := state != 4 }
  | _ => {}

/-- The reaction to each kind of message. -/
def of (R : SessionRil) (operatorNumber : Option JString) (p : Parcel)
    (type : ℤ) : Reaction :=
  match messageOf p with
  | some .registrationSuspended => regSuspended R (contentsOf p)
  | some .incomingCallIndication => incomingCallIndication R (contentsOf p)
  | some .callInfoIndication => callProgress R (contentsOf p)
  | some .setAttachApn => setAttachApn operatorNumber
  | some .onUssd => onUssd R (contentsOf p)
  | some .psNetworkStateChanged => psNetworkState R (contentsOf p)
  | none => { forwarded := some (p, type) }

/-- The kinds of requests by which messages are acknowledged. -/
def acknowledges : Request → Bool
  | .resumeRegistration => true
  | .setCallIndication => true
  | .setInitialAttachApn => true
  | _ => false

/-- What a reaction can be: a message is acknowledged, or it is told to the
USSD listener, or it is handed to the superclass, or none of these. -/
inductive Kind (p : Parcel) (type : ℤ) : Reaction → Prop
  | acknowledged {request : Request} {items : List ParcelItem}
      {callState : Bool} (hmessage : messageOf p ≠ none)
      (hrequest : acknowledges request = true) :
      Kind p type
        { acknowledgement := some (request, items), callState := callState }
  | silent {spent callState networkState : Bool}
      (hmessage : messageOf p ≠ none) :
      Kind p type
        { spent := spent
          callState := callState
          networkState := networkState }
  | told {ret : List (Option JString)} (hmessage : messageOf p ≠ none) :
      Kind p type { ussd := (ussdFields ret).toOption }
  | forwarded (hmessage : messageOf p = none) :
      Kind p type { forwarded := some (p, type) }

theorem kind_of (R : SessionRil) (operatorNumber : Option JString)
    (p : Parcel) (type : ℤ) : Kind p type (of R operatorNumber p type) := by
  cases hmessage : messageOf p with
  | none =>
      simp only [of, hmessage]
      exact .forwarded hmessage
  | some message =>
      have hsome : messageOf p ≠ none := by simp [hmessage]
      cases message with
      | registrationSuspended =>
          simp only [of, hmessage, regSuspended]
          split
          · exact .silent hsome
          · split
            · exact .silent hsome
            · exact .acknowledged hsome rfl
      | incomingCallIndication =>
          simp only [of, hmessage, incomingCallIndication]
          split
          · exact .silent hsome
          · exact .silent hsome
          · split
            · exact .silent hsome
            · exact .acknowledged hsome rfl
      | callInfoIndication =>
          simp only [of, hmessage, callProgress]
          split
          · exact .silent hsome
          · exact .silent hsome
      | setAttachApn =>
          simp only [of, hmessage]
          exact .acknowledged hsome rfl
      | onUssd =>
          simp only [of, hmessage, onUssd]
          split
          · exact .told hsome
          · exact .silent hsome
      | psNetworkStateChanged =>
          simp only [of, hmessage, psNetworkState]
          split
          · exact .silent hsome
          · exact .silent hsome

/-- The request that acknowledges a message, with a given serial number. -/
def built (c : Reaction) (serial : ℤ) : List RILRequest :=
  match c.acknowledgement with
  | some (request, items) =>
      [{ mSerial := serial
         mRequest := request
         mResult := none
         mParcel := items }]
  | none => []

/-- How many serial numbers are spent. -/
def serials (c : Reaction) : ℤ :=
  if c.acknowledgement.isSome || c.spent then 1 else 0

end Reaction

/-- The instance after it has reacted to a message. -/
def Session.react (s : Session) (c : Reaction) : Session :=
  { s with
    sNextSerial := s.sNextSerial + c.serials
    mRequestList := s.mRequestList ++ c.built s.sNextSerial
    outgoing := s.outgoing ++ (c.built s.sNextSerial).map .request
    voiceNetworkStateNotifications :=
      s.voiceNetworkStateNotifications + c.networkState.toNat
    callStateNotifications :=
      s.callStateNotifications + c.callState.toNat
    ussd := s.ussd ++ if s.ussdRegistrant then c.ussd.toList else []
    forwarded := s.forwarded ++ c.forwarded.toList }

/-! ## What handling a message does -/

theorem setDataPosition_contentsOf (p : Parcel) :
    (contentsOf p).setDataPosition p.dataPosition = p := by
  apply Parcel.setDataPosition_of_data
  rw [contentsOf, Parcel.readInt_data]

theorem Session.react_nothing (s : Session) : s.react {} = s := by
  simp [Session.react, Reaction.built, Reaction.serials]

theorem Session.react_spent (s : Session) :
    s.react { spent := true } = { s with sNextSerial := s.sNextSerial + 1 } := by
  simp [Session.react, Reaction.built, Reaction.serials]

theorem Session.react_acknowledgement
    (s : Session) (request : Request) (items : List ParcelItem)
    (callState : Bool) :
    s.react
        { acknowledgement := some (request, items), callState := callState } =
      { s with
        sNextSerial := s.sNextSerial + 1
        mRequestList := s.mRequestList ++
          [{ mSerial := s.sNextSerial
             mRequest := request
             mResult := none
             mParcel := items }]
        outgoing := s.outgoing ++
          [.request
            { mSerial := s.sNextSerial
              mRequest := request
              mResult := none
              mParcel := items }]
        callStateNotifications :=
          s.callStateNotifications + callState.toNat } := by
  simp [Session.react, Reaction.built, Reaction.serials]

theorem Session.react_callState (s : Session) (callState : Bool) :
    s.react { callState := callState } =
      stateAfter (if callState then notifyCallState else pure ()) s := by
  cases callState with
  | false => exact s.react_nothing
  | true =>
      simp [Session.react, Reaction.built, Reaction.serials, notifyCallState,
        stateAfter]

theorem Session.react_networkState (s : Session) (state : ℤ) :
    s.react { networkState := state != 4 } =
      stateAfter
        (if state ≠ 4 then onRil notifyVoiceNetworkState else pure ()) s := by
  by_cases hstate : state = 4
  · simp [hstate, s.react_nothing, stateAfter]
  · have hchanged : (state != 4) = true := bne_iff_ne.mpr hstate
    rw [if_pos hstate, hchanged]
    simp [Session.react, Reaction.built, Reaction.serials]
    rfl

theorem Session.react_ussd (s : Session) (fields : List (Option JString)) :
    s.react { ussd := some fields } = stateAfter (notifyUssd fields) s := by
  obtain ⟨state, callState, registrant, ussd, forwarded⟩ := s
  cases registrant with
  | false =>
      simp [Session.react, Reaction.built, Reaction.serials, notifyUssd,
        stateAfter]
  | true =>
      simp [Session.react, Reaction.built, Reaction.serials, notifyUssd,
        stateAfter]

theorem Session.react_forwarded (s : Session) (p : Parcel) (type : ℤ) :
    s.react { forwarded := some (p, type) } =
      stateAfter (forwardUnsolicited p type) s := by
  simp [Session.react, Reaction.built, Reaction.serials, forwardUnsolicited,
    stateAfter]

section Decoding

variable (R : SessionRil) (operatorNumber : Option JString) (p : Parcel)
  (type : ℤ) (s : Session)

theorem stateAfter_responseRegSuspended :
    stateAfter (responseRegSuspended R p) s =
      s.react (Reaction.regSuspended R p) := by
  rw [responseRegSuspended, Reaction.regSuspended]
  cases R.newIntArray p.readInt.1 with
  | error thr => exact s.react_nothing.symm
  | ok _ =>
      cases readInts p.readInt.1.toNat p.readInt.2 with
      | nil => exact s.react_spent.symm
      | cons sessionId rest => exact (s.react_acknowledgement _ _ false).symm

theorem stateAfter_responseIncomingCallIndication :
    stateAfter (do responseIncomingCallIndication R p; notifyCallState) s =
      s.react (Reaction.incomingCallIndication R p) := by
  rw [responseIncomingCallIndication, Reaction.incomingCallIndication]
  cases R.readStringArray p with
  | error thr => exact s.react_nothing.symm
  | ok array =>
      cases array with
      | none => exact s.react_spent.symm
      | some response =>
          cases hcall : parseIncomingCall response with
          | error thr =>
              simp only [raise_ok, pure_bind, hcall]
              exact s.react_spent.symm
          | ok call =>
              simp only [raise_ok, pure_bind, hcall]
              exact (s.react_acknowledgement _ _ true).symm

theorem stateAfter_responseCallProgress :
    stateAfter (do if ← responseCallProgress R p then notifyCallState) s =
      s.react (Reaction.callProgress R p) := by
  rw [responseCallProgress, Reaction.callProgress]
  cases R.readStringArray p with
  | error thr => exact s.react_nothing.symm
  | ok array =>
      cases array with
      | none => exact s.react_nothing.symm
      | some response =>
          rcases hfield : response[1]? with _ | _ | msgType
          · simp only [raise_ok, pure_bind, hfield]
            exact s.react_nothing.symm
          · simp only [raise_ok, pure_bind, hfield]
            exact s.react_nothing.symm
          · simp only [raise_ok, pure_bind, hfield]
            exact (s.react_callState _).symm

theorem stateAfter_responseSetAttachApn :
    stateAfter (responseSetAttachApn operatorNumber) s =
      s.react (Reaction.setAttachApn operatorNumber) :=
  (s.react_acknowledgement _ _ false).symm

theorem stateAfter_onUssd :
    stateAfter (onUssd R p) s = s.react (Reaction.onUssd R p) := by
  rw [onUssd, Reaction.onUssd]
  cases R.responseStrings p with
  | error thr => exact s.react_nothing.symm
  | ok array =>
      cases array with
      | none => exact s.react_nothing.symm
      | some ret =>
          cases hfields : ussdFields ret with
          | error thr =>
              simp only [raise_ok, pure_bind, hfields]
              exact s.react_nothing.symm
          | ok resp =>
              simp only [raise_ok, pure_bind, hfields]
              exact (s.react_ussd resp).symm

theorem stateAfter_onPsNetworkState :
    stateAfter (onPsNetworkState R p) s =
      s.react (Reaction.psNetworkState R p) := by
  rw [onPsNetworkState, Reaction.psNetworkState]
  cases R.responseInts p with
  | error thr => exact s.react_nothing.symm
  | ok array =>
      cases array with
      | nil => exact s.react_nothing.symm
      | cons state rest => exact (s.react_networkState state).symm

/-- Handling a message is reacting to it. -/
theorem stateAfter_processUnsolicited :
    stateAfter (processUnsolicited R operatorNumber p type) s =
      s.react (Reaction.of R operatorNumber p type) := by
  rw [processUnsolicited, Reaction.of]
  cases messageOf p with
  | none =>
      simp only [setDataPosition_contentsOf]
      exact (s.react_forwarded p type).symm
  | some message =>
      cases message with
      | registrationSuspended => exact stateAfter_responseRegSuspended R _ s
      | incomingCallIndication =>
          exact stateAfter_responseIncomingCallIndication R _ s
      | callInfoIndication => exact stateAfter_responseCallProgress R _ s
      | setAttachApn =>
          exact stateAfter_responseSetAttachApn operatorNumber s
      | onUssd => exact stateAfter_onUssd R _ s
      | psNetworkStateChanged => exact stateAfter_onPsNetworkState R _ s

end Decoding

end SmartSurf.Ril
