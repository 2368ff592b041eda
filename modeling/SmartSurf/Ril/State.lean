import SmartSurf.Ecc.Classification

/-!
# State and primitive operations of the radio interface layer

`MT6735` extends the stock class `RIL`.  Its own state is the list of pending
requests and the table of data call identifiers; the property service, the
static lists of `MtkEccList` and the request counter are shared by all
instances.  What leaves the class is recorded in two logs: `outgoing` holds
the requests it sends and the calls it forwards to the superclass, `replies`
the messages it sends back to callers.
-/

namespace SmartSurf.Ril

open Support

/-- The request numbers the class distinguishes: the vendor numbers, the stock
numbers it names, and any other stock number. -/
inductive Request where
  | modemPoweroff
  | modemPoweron
  | resumeRegistration
  | setCallIndication
  | emergencyDial
  | setEccServiceCategory
  | getSimStatus
  | setupDataCall
  | dataRegistrationState
  | allowData
  | setInitialAttachApn
  | stock (number : ℕ)
  deriving DecidableEq, Repr

/-- The number of a request: the vendor numbers declared by `MT6735` and those
of `RILConstants`. -/
def Request.number : Request → ℕ
  | .modemPoweroff => 2010
  | .modemPoweron => 2028
  | .resumeRegistration => 2065
  | .setCallIndication => 2086
  | .emergencyDial => 2087
  | .setEccServiceCategory => 2088
  | .getSimStatus => 1
  | .setupDataCall => 27
  | .dataRegistrationState => 21
  | .allowData => 123
  | .setInitialAttachApn => 111
  | .stock number => number

/-- A request number which the stock class does not know. -/
def Request.IsVendor (request : Request) : Prop :=
  2010 ≤ request.number ∧ request.number ≤ 2089

instance (request : Request) : Decidable request.IsVendor :=
  inferInstanceAs (Decidable (_ ∧ _))

/-- A message handed in by a caller, to be sent back with the result. -/
structure Message where
  id : ℕ
  deriving DecidableEq, Repr

/-- What is written into the parcel of a request. -/
inductive ParcelItem where
  | int (value : ℤ)
  | string (value : Option JString)
  | stringArray (value : Option (List JString))
  | byteArray (value : List UInt8)
  deriving DecidableEq, Repr

structure RILRequest where
  mSerial : ℤ
  mRequest : Request
  mResult : Option Message
  mParcel : List ParcelItem := []
  deriving DecidableEq, Repr

/-- The fields of a `DataCallResponse` that matter here. -/
structure DataCallResponse where
  status : ℤ
  cid : ℤ
  deriving DecidableEq, Repr

/-- Decoded response objects; `stock` stands for those of the superclass. -/
inductive ResponseObject where
  | strings (response : List (Option JString))
  | dataCall (response : DataCallResponse)
  | stock (code : ℕ)
  deriving DecidableEq, Repr

/-- The result of a request as its caller sees it; a null field is `none`. -/
structure AsyncResult where
  result : Option ResponseObject
  exception : Option Throwable
  deriving DecidableEq, Repr

structure UUSInfo where
  type : ℤ
  dcs : ℤ
  userData : List UInt8
  deriving DecidableEq, Repr

/-- A request sent by the class itself, or a call handed to the superclass. -/
inductive Outgoing where
  | request (rr : RILRequest)
  | superDial (address : Option JString) (clirMode : ℤ)
      (uusInfo : Option UUSInfo) (result : Option Message)
  | superSetRadioPower (on : Bool) (result : Option Message)
  | superDeactivateDataCall (cid reason : ℤ) (result : Option Message)
  deriving DecidableEq, Repr

/-- The request contained in an outgoing item. -/
def Outgoing.requests : Outgoing → List RILRequest
  | .request rr => [rr]
  | _ => []

/-- What all instances share. -/
structure Shared where
  device : Ecc.Device
  airplaneModeOn : ℤ
  sNextSerial : ℤ
  outgoing : List Outgoing
  replies : List (Message × AsyncResult)

/-- `int[] dataCallCids`, of length five. -/
abbrev Cids := Fin 5 → ℤ

/-- The table with which an instance starts. -/
def emptyCids : Cids := fun _ => -1

/-- The fields of one instance. -/
structure Phone where
  mRequestList : List RILRequest
  dataCallCids : Cids
  voiceNetworkStateNotifications : ℕ

/-- The state in which a method of one instance runs. -/
structure RilState extends Shared, Phone

/-- An instance after construction, on a device without any lists. -/
def idleState : RilState where
  device :=
    { props := fun _ => []
      customizedEccList := []
      networkEccCategory := ∅ }
  airplaneModeOn := 0
  sNextSerial := 0
  outgoing := []
  replies := []
  mRequestList := []
  dataCallCids := emptyCids
  voiceNetworkStateNotifications := 0

/-- Methods of `MT6735`. -/
abbrev RilM := EStateM Throwable RilState

/-! ## Primitive operations -/

/-- Run a static method of `MtkEccList`. -/
def onDevice {α : Type} (x : Ecc.EccM α) : RilM α :=
  zoom (fun s => s.device) (fun s d => { s with device := d }) x

/-- `SystemProperties.set`. -/
def setProperty (property : SystemProperty) (val : JString) : RilM Unit :=
  onDevice fun d =>
    match d.props.set property val with
    | .ok props => .ok () { d with props := props }
    | .error thr => .error thr d

/-- `RILRequest.obtain`: a request with the next serial number and an empty
parcel. -/
def obtainRequest (request : Request) (result : Option Message) :
    RilM RILRequest := do
  let s ← get
  set { s with sNextSerial := s.sNextSerial + 1 }
  return { mSerial := s.sNextSerial, mRequest := request, mResult := result }

/-- `RIL.send`: the request becomes pending and is handed to the modem. -/
def send (rr : RILRequest) : RilM Unit :=
  modify fun s =>
    { s with
      mRequestList := s.mRequestList ++ [rr]
      outgoing := s.outgoing ++ [.request rr] }

/-- Hand a call to the superclass. -/
def forward (call : Outgoing) : RilM Unit :=
  modify fun s => { s with outgoing := s.outgoing ++ [call] }

/-- What is sent to the caller of a request; nothing if the request has no
result message. -/
def repliesTo (result : Option Message) (ar : AsyncResult) :
    List (Message × AsyncResult) :=
  match result with
  | some message => [(message, ar)]
  | none => []

/-- `AsyncResult.forMessage` followed by `sendToTarget`, unless the message is
null. -/
def sendToTarget (result : Option Message) (ar : AsyncResult) : RilM Unit :=
  modify fun s => { s with replies := s.replies ++ repliesTo result ar }

/-! ## Effects of the primitive operations -/

theorem run_onDevice_of_ok
    {α : Type} {x : Ecc.EccM α} {s : RilState} {a : α} {d : Ecc.Device}
    (h : x.run s.device = .ok a d) :
    (onDevice x).run s = .ok a { s with device := d } :=
  run_zoom_of_ok h

theorem run_onDevice_of_error
    {α : Type} {x : Ecc.EccM α} {s : RilState} {thr : Throwable} {d : Ecc.Device}
    (h : x.run s.device = .error thr d) :
    (onDevice x).run s = .error thr { s with device := d } :=
  run_zoom_of_error h

/-- Writing a value that fits the size limit. -/
theorem run_setProperty
    {val : JString} (h : val.length ≤ propValueMax)
    (property : SystemProperty) (s : RilState) :
    (setProperty property val).run s =
      .ok () { s with
        device := { s.device with
          props := Function.update s.device.props property val } } := by
  apply run_onDevice_of_ok
  simp [EStateM.run, SystemProperties.set, h]

@[simp] theorem run_obtainRequest
    (request : Request) (result : Option Message) (s : RilState) :
    (obtainRequest request result).run s =
      .ok { mSerial := s.sNextSerial, mRequest := request, mResult := result }
        { s with sNextSerial := s.sNextSerial + 1 } := rfl

@[simp] theorem run_send (rr : RILRequest) (s : RilState) :
    (send rr).run s =
      .ok () { s with
        mRequestList := s.mRequestList ++ [rr]
        outgoing := s.outgoing ++ [.request rr] } := rfl

@[simp] theorem run_forward (call : Outgoing) (s : RilState) :
    (forward call).run s =
      .ok () { s with outgoing := s.outgoing ++ [call] } := rfl

end SmartSurf.Ril
