import SmartSurf.Ecc.Refresh
import SmartSurf.Platform.Parcel
import SmartSurf.Ril.DataCalls

/-!
# Solicited responses

`MT6735.processSolicited` looks at a response before the superclass does.  It
answers the requests of five kinds itself, refreshes the emergency numbers in
front of the answer to `GET_SIM_STATUS`, and forwards everything else.  The
request is looked up when the response arrives and removed from the list of
pending requests later, in different places on different paths.

The superclass is a parameter.  What the class relies on is stated by
`StockRil.FindsAndRemoves` and `StockRil.Answers`.
-/

namespace SmartSurf.Ril

open Support

/-- The methods of the superclass, and of the parcels it reads, that take part
in handling a solicited response. -/
structure StockRil where
  readStringArray :
    Parcel → Except Throwable (Option (List (Option JString)))
  responseSetupDataCall : Parcel → Except Throwable DataCallResponse
  findAndRemoveRequestFromList : ℤ → RilM (Option RILRequest)
  processSolicited : Parcel → ℤ → RilM (Option RILRequest)

/-! ## Decoding -/

/-- The replacement of an extended radio technology in the fourth string. -/
def fixupBearer (response : List (Option JString)) :
    Except Throwable (List (Option JString)) :=
  match response[3]? with
  | some (some technology) =>
      match Java.parseInt technology with
      | .error thr => .error thr
      | .ok value =>
          .ok (if value ≥ 128 then response.set 3 (some "15".toList)
            else response)
  | _ => .ok response

/-- `MT6735.fixupPSBearerDataRegistration`. -/
def fixupPSBearerDataRegistration (R : StockRil) (p : Parcel) :
    RilM (Option ResponseObject) :=
  match R.readStringArray p with
  | .error thr => throw thr
  | .ok none => throw .nullPointer
  | .ok (some response) =>
      match fixupBearer response with
      | .error thr => throw thr
      | .ok response => return some (.strings response)

/-- `MT6735.fetchCidFromDataCall`. -/
def fetchCidFromDataCall (R : StockRil) (p : Parcel) :
    RilM (Option ResponseObject) :=
  match R.responseSetupDataCall p with
  | .error thr => throw thr
  | .ok ret => do
      recordCid ret
      return some (.dataCall ret)

/-- `responseVoid`. -/
def responseVoid : RilM (Option ResponseObject) :=
  pure none

/-- `mVoiceNetworkStateRegistrants.notifyRegistrants`. -/
def notifyVoiceNetworkState : RilM Unit :=
  modify fun s =>
    { s with
      voiceNetworkStateNotifications := s.voiceNetworkStateNotifications + 1 }

/-- The second switch of `processSolicited`. -/
def decodeResponse (R : StockRil) (request : Request) (p : Parcel) :
    RilM (Option ResponseObject) :=
  match request with
  | .emergencyDial => responseVoid
  | .setEccServiceCategory => responseVoid
  | .dataRegistrationState => fixupPSBearerDataRegistration R p
  | .setupDataCall => fetchCidFromDataCall R p
  | .allowData => do
      let ret ← responseVoid
      notifyVoiceNetworkState
      return ret
  | _ => throw (.runtime s!"Shouldn't be here: {request.number}")

/-! ## The method -/

/-- The serial number at the head of a solicited response. -/
def serialOf (p : Parcel) : ℤ := p.readInt.1

/-- The error code behind the serial number. -/
def errorOf (p : Parcel) : ℤ := p.readInt.2.readInt.1

/-- The parcel after the header has been read. -/
def payloadOf (p : Parcel) : Parcel := p.readInt.2.readInt.2

/-- `error == 0 || p.dataAvail() > 0`. -/
def hasAnswer (p : Parcel) : Bool :=
  errorOf p == 0 || decide ((payloadOf p).dataAvail > 0)

/-- `mRequestList.get(serial)`. -/
def pendingRequest (s : RilState) (serial : ℤ) : Option RILRequest :=
  s.mRequestList.find? fun rr => rr.mSerial == serial

/-- The kinds of requests which the class answers itself. -/
def Request.isIntercepted : Request → Bool
  | .emergencyDial => true
  | .setEccServiceCategory => true
  | .dataRegistrationState => true
  | .setupDataCall => true
  | .allowData => true
  | _ => false

/-- How the first switch of `processSolicited` ends. -/
inductive Preview where
  | intercepted
  | forwarded
  | returned (tr : RILRequest)
  deriving DecidableEq, Repr

/-- The guarded part of the first switch. -/
def previewSwitch (request : Request) : RilM Preview :=
  if request.isIntercepted then
    return .intercepted
  else if request = .getSimStatus then do
    onDevice Ecc.updateEmergencyNumbersProperty
    return .forwarded
  else
    return .forwarded

/-- The handler of the first switch: answer with the exception and return the
request. -/
def previewCatch (tr : RILRequest) (thr : Throwable) : RilM Preview := do
  sendToTarget tr.mResult { result := none, exception := some thr }
  return .returned tr

/-- The part of `processSolicited` that runs before the reply is popped. -/
def preview (p : Parcel) : RilM Preview := do
  let s ← get
  match pendingRequest s (serialOf p) with
  | some tr =>
      if hasAnswer p then
        tryCatch (previewSwitch tr.mRequest) (previewCatch tr)
      else
        return .forwarded
  | none => return .forwarded

/-- The rest of `processSolicited` for a request the class answers itself. -/
def answerRequest (R : StockRil) (p : Parcel) : RilM (Option RILRequest) := do
  match ← R.findAndRemoveRequestFromList (serialOf p) with
  | none => return none
  | some rr =>
      let ret ←
        if hasAnswer p then decodeResponse R rr.mRequest (payloadOf p)
        else pure none
      sendToTarget rr.mResult { result := ret, exception := none }
      return some rr

/-- `MT6735.processSolicited`. -/
def processSolicited (R : StockRil) (p : Parcel) (type : ℤ) :
    RilM (Option RILRequest) := do
  match ← preview p with
  | .returned tr => return some tr
  | .forwarded =>
      R.processSolicited ((payloadOf p).setDataPosition p.dataPosition) type
  | .intercepted => answerRequest R p

/-! ## What is assumed of the superclass -/

/-- The serial numbers of the pending requests are distinct. -/
def SerialsDistinct (s : RilState) : Prop :=
  (s.mRequestList.map RILRequest.mSerial).Nodup

instance (s : RilState) : Decidable (SerialsDistinct s) :=
  inferInstanceAs (Decidable (List.Nodup _))

/-- The pending requests without the one of the given serial number. -/
def without (requests : List RILRequest) (serial : ℤ) : List RILRequest :=
  requests.filter fun rr => rr.mSerial != serial

/-- A pending request is found by its serial number and removed. -/
def StockRil.FindsAndRemoves (R : StockRil) : Prop :=
  ∀ s serial rr, SerialsDistinct s → pendingRequest s serial = some rr →
    (R.findAndRemoveRequestFromList serial).run s =
      .ok (some rr) { s with mRequestList := without s.mRequestList serial }

/-- The superclass removes the request a response belongs to and replies to it
once; the reply meets `ok`, given the request and the error code. -/
def StockRil.Answers (R : StockRil)
    (ok : RILRequest → ℤ → AsyncResult → Prop) : Prop :=
  ∀ s p type rr, SerialsDistinct s →
    pendingRequest s (serialOf p) = some rr →
      ∃ ar t, (R.processSolicited p type).run s = .ok (some rr) t ∧
        t.mRequestList = without s.mRequestList (serialOf p) ∧
        t.replies = s.replies ++ repliesTo rr.mResult ar ∧
        ok rr (errorOf p) ar

/-! ## The preview -/

theorem setDataPosition_payloadOf (p : Parcel) :
    (payloadOf p).setDataPosition p.dataPosition = p := by
  apply Parcel.setDataPosition_of_data
  rw [payloadOf, Parcel.readInt_data, Parcel.readInt_data]

section Paths

variable {s : RilState} {p : Parcel} {tr : RILRequest}
  (htr : pendingRequest s (serialOf p) = some tr)

include htr

theorem preview_of_no_answer (hanswer : hasAnswer p = false) :
    (preview p).run s = .ok .forwarded s := by
  simp [preview, htr, hanswer]

/-- The preview ends as its switch does, if that returns. -/
theorem preview_of_switch
    (hanswer : hasAnswer p = true) {previewed : Preview} {t : RilState}
    (hswitch : (previewSwitch tr.mRequest).run s = .ok previewed t) :
    (preview p).run s = .ok previewed t := by
  simp only [preview, EStateM.run_bind, EStateM.run_get, htr, hanswer,
    if_true, run_tryCatch_of_ok hswitch]

theorem preview_of_intercepted
    (hanswer : hasAnswer p = true)
    (hkind : tr.mRequest.isIntercepted = true) :
    (preview p).run s = .ok .intercepted s := by
  apply preview_of_switch htr hanswer
  simp [previewSwitch, hkind]

theorem preview_of_stock
    (hkind : tr.mRequest.isIntercepted = false)
    (hsim : tr.mRequest ≠ .getSimStatus) :
    (preview p).run s = .ok .forwarded s := by
  cases hanswer : hasAnswer p with
  | false => exact preview_of_no_answer htr hanswer
  | true =>
      apply preview_of_switch htr hanswer
      simp [previewSwitch, hkind, hsim]

/-- The answer to `GET_SIM_STATUS` is forwarded after a successful refresh. -/
theorem preview_of_refresh
    (hanswer : hasAnswer p = true) (hsim : tr.mRequest = .getSimStatus)
    {d : Ecc.Device}
    (hrefresh : Ecc.updateEmergencyNumbersProperty.run s.device = .ok () d) :
    (preview p).run s = .ok .forwarded { s with device := d } := by
  apply preview_of_switch htr hanswer
  rw [hsim, previewSwitch, if_neg (by decide), if_pos rfl,
    run_bind_of_ok (run_onDevice_of_ok hrefresh)]
  rfl

/-- A refresh that throws is reported to the caller, and the request is
returned without having been removed. -/
theorem preview_of_refresh_error
    (hanswer : hasAnswer p = true) (hsim : tr.mRequest = .getSimStatus)
    {thr : Throwable} {d : Ecc.Device}
    (hrefresh :
      Ecc.updateEmergencyNumbersProperty.run s.device = .error thr d) :
    (preview p).run s =
      .ok (.returned tr) { s with
        device := d
        replies := s.replies ++
          repliesTo tr.mResult { result := none, exception := some thr } } := by
  have hswitch : (previewSwitch tr.mRequest).run s =
      .error thr { s with device := d } := by
    rw [hsim, previewSwitch, if_neg (by decide), if_pos rfl,
      run_bind_of_error (run_onDevice_of_error hrefresh)]
  simp only [preview, EStateM.run_bind, EStateM.run_get, htr, hanswer,
    if_true, run_tryCatch_of_error hswitch]
  rfl

end Paths

section Continuations

variable (R : StockRil) {p : Parcel} (type : ℤ) {s t : RilState}

theorem processSolicited_of_returned {tr : RILRequest}
    (h : (preview p).run s = .ok (.returned tr) t) :
    (processSolicited R p type).run s = .ok (some tr) t := by
  rw [processSolicited, run_bind_of_ok h]
  rfl

theorem processSolicited_of_forwarded
    (h : (preview p).run s = .ok .forwarded t) :
    (processSolicited R p type).run s = (R.processSolicited p type).run t := by
  rw [processSolicited, run_bind_of_ok h]
  simp only [setDataPosition_payloadOf]

theorem processSolicited_of_intercepted
    (h : (preview p).run s = .ok .intercepted t) :
    (processSolicited R p type).run s = (answerRequest R p).run t := by
  rw [processSolicited, run_bind_of_ok h]

end Continuations

/-! ## Decoding -/

/-- The payload can be decoded as the response to a request. -/
def Decodable (R : StockRil) (request : Request) (p : Parcel) : Prop :=
  match request with
  | .dataRegistrationState =>
      ∃ response, R.readStringArray p = .ok (some response) ∧
        ∀ technology, response[3]? = some (some technology) →
          Java.IsDecimal technology
  | .setupDataCall => ∃ ret, R.responseSetupDataCall p = .ok ret
  | _ => True

theorem recordCid_frame (ret : DataCallResponse) (s : RilState) :
    ∃ t, (recordCid ret).run s = .ok () t ∧
      t.mRequestList = s.mRequestList ∧ t.replies = s.replies := by
  by_cases hcid : 0 ≤ ret.cid
  · exact ⟨_, recordCid_run_of_nonneg hcid s, rfl, rfl⟩
  · exact ⟨_, recordCid_run_of_neg (by omega) s, rfl, rfl⟩

theorem fixupBearer_returns_iff (response : List (Option JString)) :
    (∃ fixed, fixupBearer response = .ok fixed) ↔
      ∀ technology, response[3]? = some (some technology) →
        Java.IsDecimal technology := by
  rw [fixupBearer]
  cases response[3]? with
  | none => simp
  | some field =>
      cases field with
      | none => simp
      | some technology =>
          cases hvalue : Java.parseInt technology with
          | error thr => simp [Java.IsDecimal, hvalue]
          | ok value => simp [Java.IsDecimal, hvalue]

theorem fixupPSBearerDataRegistration_cases
    (R : StockRil) (p : Parcel) (s : RilState) :
    (Decodable R .dataRegistrationState p ∧
      ∃ ret, (fixupPSBearerDataRegistration R p).run s = .ok ret s) ∨
    (¬Decodable R .dataRegistrationState p ∧
      ∃ thr, (fixupPSBearerDataRegistration R p).run s = .error thr s) := by
  simp only [Decodable, fixupPSBearerDataRegistration,
    ← fixupBearer_returns_iff]
  cases R.readStringArray p with
  | error thr => exact Or.inr ⟨by simp, thr, rfl⟩
  | ok array =>
      cases array with
      | none => exact Or.inr ⟨by simp, .nullPointer, rfl⟩
      | some response =>
          cases hfixed : fixupBearer response with
          | error thr =>
              refine Or.inr ⟨by simp [hfixed], thr, ?_⟩
              simp only [hfixed]
              rfl
          | ok fixed =>
              refine Or.inl ⟨⟨response, rfl, fixed, hfixed⟩,
                some (.strings fixed), ?_⟩
              simp [hfixed]

theorem fetchCidFromDataCall_cases
    (R : StockRil) (p : Parcel) (s : RilState) :
    (Decodable R .setupDataCall p ∧
      ∃ ret t, (fetchCidFromDataCall R p).run s = .ok ret t ∧
        t.mRequestList = s.mRequestList ∧ t.replies = s.replies) ∨
    (¬Decodable R .setupDataCall p ∧
      ∃ thr, (fetchCidFromDataCall R p).run s = .error thr s) := by
  simp only [Decodable, fetchCidFromDataCall]
  cases R.responseSetupDataCall p with
  | error thr => exact Or.inr ⟨by simp, thr, rfl⟩
  | ok ret =>
      obtain ⟨t, hrun, hlist, hreplies⟩ := recordCid_frame ret s
      refine Or.inl ⟨⟨ret, rfl⟩, some (.dataCall ret), t, ?_, hlist, hreplies⟩
      simp only [run_bind_of_ok hrun]
      rfl

/-- For the kinds the class answers itself, decoding returns exactly if the
payload is decodable; pending requests and replies are left alone. -/
theorem decodeResponse_cases
    (R : StockRil) {request : Request}
    (hkind : request.isIntercepted = true) (p : Parcel) (s : RilState) :
    (Decodable R request p ∧
      ∃ ret t, (decodeResponse R request p).run s = .ok ret t ∧
        t.mRequestList = s.mRequestList ∧ t.replies = s.replies) ∨
    (¬Decodable R request p ∧
      ∃ thr, (decodeResponse R request p).run s = .error thr s) := by
  cases request with
  | emergencyDial => exact Or.inl ⟨trivial, none, s, rfl, rfl, rfl⟩
  | setEccServiceCategory => exact Or.inl ⟨trivial, none, s, rfl, rfl, rfl⟩
  | allowData => exact Or.inl ⟨trivial, none, _, rfl, rfl, rfl⟩
  | setupDataCall => exact fetchCidFromDataCall_cases R p s
  | dataRegistrationState =>
      rcases fixupPSBearerDataRegistration_cases R p s with
        ⟨hdecodes, ret, hrun⟩ | hfails
      · exact Or.inl ⟨hdecodes, ret, s, hrun, rfl, rfl⟩
      · exact Or.inr hfails
  | modemPoweroff => cases hkind
  | modemPoweron => cases hkind
  | resumeRegistration => cases hkind
  | setCallIndication => cases hkind
  | getSimStatus => cases hkind
  | setInitialAttachApn => cases hkind
  | stock number => cases hkind

/-! ## What is left behind -/

/-- The pending requests after the response, and the replies it caused. -/
def Leaves (R : StockRil) (s : RilState) (p : Parcel) (type : ℤ)
    (requests : List RILRequest)
    (replies : List (Message × AsyncResult)) : Prop :=
  (stateAfter (processSolicited R p type) s).mRequestList = requests ∧
    (stateAfter (processSolicited R p type) s).replies =
      s.replies ++ replies

/-- Both values of the refresh are short enough to be stored. -/
def RefreshFits (d : Ecc.Device) : Prop :=
  Ecc.Fits d .eccList ∧ Ecc.Fits d .eccList1

instance (d : Ecc.Device) : Decidable (RefreshFits d) :=
  inferInstanceAs (Decidable (_ ∧ _))

theorem update_ok_of_refreshFits {d : Ecc.Device} (h : RefreshFits d) :
    ∃ d', Ecc.updateEmergencyNumbersProperty.run d = .ok () d' :=
  ⟨_, Ecc.updateEmergencyNumbersProperty_ok h.1 h.2⟩

theorem update_error_of_not_refreshFits
    {d : Ecc.Device} (h : ¬RefreshFits d) :
    ∃ thr d', Ecc.updateEmergencyNumbersProperty.run d = .error thr d' := by
  by_cases hfits : Ecc.Fits d .eccList
  · have hfits1 : ¬Ecc.Fits d .eccList1 := fun hfits1 => h ⟨hfits, hfits1⟩
    obtain ⟨thr, hrun⟩ :=
      Ecc.updateEmergencyNumbersProperty_error1 hfits hfits1
    exact ⟨thr, _, hrun⟩
  · obtain ⟨thr, hrun⟩ := Ecc.updateEmergencyNumbersProperty_error hfits
    exact ⟨thr, _, hrun⟩

/-- The response is handed to the superclass. -/
def IsForwarded (s : RilState) (p : Parcel) (tr : RILRequest) : Prop :=
  hasAnswer p = true →
    tr.mRequest.isIntercepted = false ∧
      (tr.mRequest = .getSimStatus → RefreshFits s.device)

section Outcomes

variable {R : StockRil} {s : RilState} {p : Parcel} (type : ℤ)
  {tr : RILRequest} (hdistinct : SerialsDistinct s)
  (htr : pendingRequest s (serialOf p) = some tr)

include hdistinct htr

/-- A forwarded response is handled as the superclass handles it. -/
theorem leaves_of_forwarded
    {ok : RILRequest → ℤ → AsyncResult → Prop} (hsuper : R.Answers ok)
    (hforwarded : IsForwarded s p tr) :
    ∃ ar,
      Leaves R s p type (without s.mRequestList (serialOf p))
        (repliesTo tr.mResult ar) ∧ ok tr (errorOf p) ar := by
  have hpreview : ∃ d,
      (preview p).run s = .ok .forwarded { s with device := d } := by
    cases hanswer : hasAnswer p with
    | false => exact ⟨s.device, preview_of_no_answer htr hanswer⟩
    | true =>
        obtain ⟨hkind, hfits⟩ := hforwarded hanswer
        by_cases hsim : tr.mRequest = .getSimStatus
        · obtain ⟨d, hd⟩ := update_ok_of_refreshFits (hfits hsim)
          exact ⟨d, preview_of_refresh htr hanswer hsim hd⟩
        · exact ⟨s.device, preview_of_stock htr hkind hsim⟩
  obtain ⟨d, hpreview⟩ := hpreview
  obtain ⟨ar, t, hrun, hlist, hreplies, hok⟩ :=
    hsuper { s with device := d } p type tr hdistinct htr
  have hprocess : (processSolicited R p type).run s = .ok (some tr) t := by
    rw [processSolicited_of_forwarded R type hpreview]
    exact hrun
  refine ⟨ar, ⟨?_, ?_⟩, hok⟩
  · rw [stateAfter_of_ok hprocess]
    exact hlist
  · rw [stateAfter_of_ok hprocess]
    exact hreplies

omit hdistinct in
/-- A refresh that throws leaves the request in the list. -/
theorem leaves_of_refresh_error
    (hanswer : hasAnswer p = true) (hsim : tr.mRequest = .getSimStatus)
    (hfits : ¬RefreshFits s.device) :
    ∃ thr,
      Leaves R s p type s.mRequestList
        (repliesTo tr.mResult { result := none, exception := some thr }) := by
  obtain ⟨thr, d, hrefresh⟩ := update_error_of_not_refreshFits hfits
  have hpreview := preview_of_refresh_error htr hanswer hsim hrefresh
  have hprocess := processSolicited_of_returned R type hpreview
  refine ⟨thr, ?_, ?_⟩
  · rw [stateAfter_of_ok hprocess]
  · rw [stateAfter_of_ok hprocess]

/-- A request that the class answers itself is removed before its response is
decoded. -/
theorem processSolicited_run_of_intercepted
    (hfind : R.FindsAndRemoves) (hanswer : hasAnswer p = true)
    (hkind : tr.mRequest.isIntercepted = true) :
    (processSolicited R p type).run s =
      (do
        let ret ← decodeResponse R tr.mRequest (payloadOf p)
        sendToTarget tr.mResult { result := ret, exception := none }
        return some tr : RilM (Option RILRequest)).run
          { s with mRequestList := without s.mRequestList (serialOf p) } := by
  rw [processSolicited_of_intercepted R type
    (preview_of_intercepted htr hanswer hkind), answerRequest,
    run_bind_of_ok (hfind s (serialOf p) tr hdistinct htr)]
  simp only [hanswer, if_true]

/-- A request that the class answers itself is removed, and its caller gets the
decoded response. -/
theorem leaves_of_decodable
    (hfind : R.FindsAndRemoves) (hanswer : hasAnswer p = true)
    (hkind : tr.mRequest.isIntercepted = true)
    (hdecodes : Decodable R tr.mRequest (payloadOf p)) :
    ∃ ret,
      Leaves R s p type (without s.mRequestList (serialOf p))
        (repliesTo tr.mResult { result := ret, exception := none }) := by
  rcases decodeResponse_cases R hkind (payloadOf p)
      { s with mRequestList := without s.mRequestList (serialOf p) } with
    ⟨-, ret, t, hdecode, hlist, hreplies⟩ | ⟨hfails, -⟩
  · have hprocess : (processSolicited R p type).run s =
        .ok (some tr) { t with
          replies := t.replies ++
            repliesTo tr.mResult { result := ret, exception := none } } := by
      rw [processSolicited_run_of_intercepted type hdistinct htr hfind
        hanswer hkind, run_bind_of_ok hdecode]
      rfl
    refine ⟨ret, ?_, ?_⟩
    · rw [stateAfter_of_ok hprocess]
      exact hlist
    · rw [stateAfter_of_ok hprocess]
      simp only [hreplies]
  · exact absurd hdecodes hfails

/-- A response which cannot be decoded removes the request, and its caller gets
nothing. -/
theorem leaves_of_not_decodable
    (hfind : R.FindsAndRemoves) (hanswer : hasAnswer p = true)
    (hkind : tr.mRequest.isIntercepted = true)
    (hfails : ¬Decodable R tr.mRequest (payloadOf p)) :
    Leaves R s p type (without s.mRequestList (serialOf p)) [] := by
  rcases decodeResponse_cases R hkind (payloadOf p)
      { s with mRequestList := without s.mRequestList (serialOf p) } with
    ⟨hdecodes, -⟩ | ⟨-, thr, hdecode⟩
  · exact absurd hdecodes hfails
  · have hprocess : (processSolicited R p type).run s =
        .error thr
          { s with mRequestList := without s.mRequestList (serialOf p) } := by
      rw [processSolicited_run_of_intercepted type hdistinct htr hfind
        hanswer hkind, run_bind_of_error hdecode]
    constructor
    · rw [stateAfter_of_error hprocess]
    · rw [stateAfter_of_error hprocess]
      exact (List.append_nil s.replies).symm

end Outcomes

end SmartSurf.Ril
