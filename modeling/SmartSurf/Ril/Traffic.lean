import SmartSurf.Ril.Session

/-!
# What the modem is sent

The requests of all instances go to one modem.  This module relates what it
is sent over a whole run to the events of the run: the acknowledgements are
those that the messages of the modem ask for, in order, and every emergency
call is dialled under the service category that was looked up for it, however
the calls and messages of the instances are interleaved.
-/

namespace SmartSurf.Ril

open Support Ecc

/-! ## What one event sends -/

/-- The service category under which an address is dialled as an emergency
call; `none` if it is not, or if the lists cannot be read. -/
def emergencyCategory (P : Platform) (d : Device) (address : Option JString) :
    Option ℤ :=
  match (isEmergencyNumberExt P address).run d with
  | .ok true d' =>
      match (getServiceCategoryFromEcc P address).run d' with
      | .ok c _ => some c
      | .error _ _ => none
  | _ => none

/-- The parcel of `RIL_REQUEST_SET_INITIAL_ATTACH_APN`. -/
def attachItems (apn protocol : Option JString) (authType : ℤ)
    (username password operatorNumber : Option JString) : List ParcelItem :=
  [.string apn, .string protocol, .int authType, .string username,
    .string password, .string operatorNumber, .int 1, .stringArray none]

/-- No request for an emergency call or its category is sent, and none of the
kinds that acknowledge messages. -/
def Ordinary (sent : List Outgoing) : Prop :=
  ∀ rr, Outgoing.request rr ∈ sent →
    rr.mRequest = .setupDataCall ∨ rr.mRequest = .modemPoweron ∨
      rr.mRequest = .modemPoweroff

theorem ordinary_nil : Ordinary [] := by
  intro rr hmem
  cases hmem

theorem mem_requests_iff {sent : List Outgoing} {rr : RILRequest} :
    rr ∈ sent.flatMap Outgoing.requests ↔ Outgoing.request rr ∈ sent := by
  rw [List.mem_flatMap]
  constructor
  · rintro ⟨o, ho, hrr⟩
    cases o with
    | request rr' =>
        obtain rfl := List.mem_singleton.mp hrr
        exact ho
    | _ => cases hrr
  · intro h
    exact ⟨_, h, List.mem_singleton.mpr rfl⟩

/-- What an event sends in a given state. -/
def Sends (P : Platform) (R : SessionRil) (s : Session) (e : SessionEvent)
    (sent : List Outgoing) : Prop :=
  match e with
  | .request (.dial address clirMode uusInfo result) =>
      match emergencyCategory P s.device address with
      | some c =>
          sent = [.request (categoryRequest s.sNextSerial c),
            .request (emergencyDialRequest (s.sNextSerial + 1) address
              clirMode uusInfo result)]
      | none => Ordinary sent
  | .request (.setInitialAttachApn apn protocol authType username password
      operatorNumber _) =>
      sent = [.request
        { mSerial := s.sNextSerial
          mRequest := .setInitialAttachApn
          mResult := none
          mParcel := attachItems apn protocol authType username password
            operatorNumber }]
  | .unsolicited operatorNumber p type =>
      sent = ((Reaction.of R operatorNumber p type).built s.sNextSerial).map
        .request
  | _ => Ordinary sent

section Sent

variable (P : Platform) {R : SessionRil} (s : Session)

theorem sends_dial (address : Option JString) (clirMode : ℤ)
    (uusInfo : Option UUSInfo) (result : Option Message) :
    ∃ sent,
      (stateAfter (dial P address clirMode uusInfo result)
        s.toRilState).outgoing = s.outgoing ++ sent ∧
      Sends P R s (.request (.dial address clirMode uusInfo result)) sent := by
  simp only [Sends, emergencyCategory]
  cases hdecide : (isEmergencyNumberExt P address).run s.device with
  | error thr d =>
      refine ⟨[], ?_, ordinary_nil⟩
      rw [List.append_nil, stateAfter, dial,
        run_bind_of_error (run_onDevice_of_error hdecide)]
  | ok emergency d =>
      cases emergency with
      | false =>
          refine ⟨[.superDial address clirMode uusInfo result], ?_, ?_⟩
          · rw [stateAfter, dial, run_bind_of_ok (run_onDevice_of_ok hdecide)]
            rfl
          · simp [Ordinary]
      | true =>
          cases hcategory : (getServiceCategoryFromEcc P address).run d with
          | error thr d' =>
              simp only [hcategory]
              refine ⟨[], ?_, ordinary_nil⟩
              rw [List.append_nil, stateAfter, dial,
                run_bind_of_ok (run_onDevice_of_ok hdecide), if_pos rfl,
                run_bind_of_error (run_onDevice_of_error hcategory)]
          | ok c d' =>
              simp only [hcategory]
              refine ⟨_, ?_, rfl⟩
              rw [stateAfter, dial,
                run_bind_of_ok (run_onDevice_of_ok hdecide), if_pos rfl,
                run_bind_of_ok (run_onDevice_of_ok hcategory)]
              exact List.append_assoc _ _ _

theorem sends_setRadioPower (on : Bool) (result : Option Message) :
    ∃ sent,
      (stateAfter (setRadioPower on result) s.toRilState).outgoing =
        s.outgoing ++ sent ∧ Ordinary sent := by
  obtain ⟨t, hrun, hsent, -⟩ := setRadioPower_run on result s.toRilState
  refine ⟨_, by rw [stateAfter_of_ok hrun]; exact hsent, ?_⟩
  intro rr hmem
  have hout := List.mem_singleton.mp hmem
  rw [powerOutgoing] at hout
  split at hout
  next request hdecision =>
    injection hout with hrr
    rw [hrr]
    exact Or.inr (powerDecision_modemPower _ _ _ request hdecision)
  next => cases hout

theorem sends_session (hR : R.Regular) (e : SessionEvent) :
    ∃ sent, (sessionStep P R s e).outgoing = s.outgoing ++ sent ∧
      Sends P R s e sent := by
  cases e with
  | request e =>
      cases e with
      | setupDataCall args =>
          refine ⟨_, rfl, ?_⟩
          intro rr hmem
          rw [eq_of_request_mem_singleton hmem]
          exact Or.inl rfl
      | deactivateDataCall cid reason result =>
          exact ⟨_, rfl, by simp [Sends, Ordinary]⟩
      | dial address clirMode uusInfo result =>
          exact sends_dial P s address clirMode uusInfo result
      | setRadioPower on result => exact sends_setRadioPower s on result
      | setInitialAttachApn apn protocol authType username password
          operatorNumber result =>
          exact ⟨_, rfl, rfl⟩
      | superRequest request result =>
          exact ⟨[], (List.append_nil _).symm, ordinary_nil⟩
      | retired serial =>
          exact ⟨[], (List.append_nil _).symm, ordinary_nil⟩
      | environment device airplaneModeOn =>
          exact ⟨[], (List.append_nil _).symm, ordinary_nil⟩
  | solicited p type =>
      refine ⟨[], ?_, ordinary_nil⟩
      have hissuing := keeps_issuing_processSolicited hR p type s.toRilState
      rw [List.append_nil]
      exact (Prod.mk.inj hissuing).2
  | unsolicited operatorNumber p type =>
      refine ⟨_, ?_, rfl⟩
      simp only [sessionStep, stateAfter_processUnsolicited]
      rfl

end Sent

section Log

variable {ι : Type} [DecidableEq ι] (P : Platform) {R : SessionRil}
  (hR : R.Regular)

include hR

/-- A view of the log that every event extends by its own part, over a whole
run. -/
theorem log_run {β : Type} (view : List Outgoing → List β)
    {adds : Session → SessionEvent → List β}
    (hadds : ∀ s e sent, Sends P R s e sent →
      view (s.outgoing ++ sent) = view s.outgoing ++ adds s e)
    (d : Instances ι) (es : List (ι × SessionEvent)) :
    view (run (instancesStep P R) d es).shared.outgoing =
      view d.shared.outgoing ++
        contributions (instancesStep P R) (fun d e => adds (d.enter e.1) e.2)
          d es := by
  apply run_contributions (instancesStep P R)
    fun d : Instances ι => view d.shared.outgoing
  intro d e
  obtain ⟨sent, hsent, hsends⟩ := sends_session P (d.enter e.1) hR e.2
  have hlog : (instancesStep P R d e).shared.outgoing =
      (d.enter e.1).outgoing ++ sent := hsent
  rw [hlog, hadds _ _ _ hsends]
  rfl

end Log

/-! ## Acknowledgements -/

/-- Every message is acknowledged with one of the three kinds. -/
theorem acknowledges_of_kind
    {p : Parcel} {type : ℤ} {c : Reaction} (h : c.Kind p type)
    {request : Request} {items : List ParcelItem}
    (hasked : c.acknowledgement = some (request, items)) :
    Reaction.acknowledges request = true := by
  cases h with
  | acknowledged hmessage hrequest =>
      cases hasked
      exact hrequest
  | silent => cases hasked
  | told => cases hasked
  | forwarded => cases hasked

section Runs

variable {ι : Type} [DecidableEq ι] (P : Platform) {R : SessionRil}
  (hR : R.Regular) {d : Instances ι} (hd : d.Fresh)
  (es : List (ι × SessionEvent))

include hR hd

end Runs

/-- A message of the modem with small numbers behind its own. -/
def message (number0 number1 : UInt8) (numbers : List UInt8) : Parcel where
  data := [number0, number1, 0, 0] ++
    numbers.flatMap fun number => [number, 0, 0, 0]

/-- The registration of one phone is suspended while the other one dials 112;
the message has the number 3024. -/
def suspendedRun : List (Fin 2 × SessionEvent) :=
  (secondPhone, .unsolicited none (message 0xd0 0x0b [1, 5]) 0) ::
    (emergencyRun.map fun e => (firstPhone, .request e)) ++
      [(secondPhone, .unsolicited none (message 0xd0 0x0b [0]) 0)]

/-- What the modem knows of emergency calls: the category it was told last, and
the calls it was to dial, each with the category at that time. -/
structure ModemView where
  category : Option ℤ := none
  calls : List (Option ℤ × Option JString) := []
  deriving DecidableEq, Repr

/-- The modem receives a request. -/
def ModemView.receive (v : ModemView) (rr : RILRequest) : ModemView :=
  match rr.mRequest, rr.mParcel with
  | .setEccServiceCategory, [.int 1, .int category] =>
      { v with category := some category }
  | .emergencyDial, .string address :: _ =>
      { v with calls := v.calls ++ [(v.category, address)] }
  | _, _ => v

/-- The modem after everything that has been sent. -/
def modemView (outgoing : List Outgoing) : ModemView :=
  (outgoing.flatMap Outgoing.requests).foldl ModemView.receive {}

/-- The emergency call that an event asks for, with the category looked up in
the state in which it is dialled. -/
def emergencyCalls (P : Platform) (s : Session) :
    SessionEvent → List (Option ℤ × Option JString)
  | .request (.dial address _ _ _) =>
      match emergencyCategory P s.device address with
      | some c => [(some c, address)]
      | none => []
  | _ => []

theorem modemView_append (outgoing sent : List Outgoing) :
    modemView (outgoing ++ sent) =
      (sent.flatMap Outgoing.requests).foldl ModemView.receive
        (modemView outgoing) := by
  simp [modemView]

/-- Requests of other kinds tell the modem nothing about emergency calls. -/
theorem foldl_receive_of_other {requests : List RILRequest}
    (h : ∀ rr ∈ requests, rr.mRequest ≠ .setEccServiceCategory ∧
      rr.mRequest ≠ .emergencyDial) (v : ModemView) :
    requests.foldl ModemView.receive v = v := by
  induction requests with
  | nil => rfl
  | cons rr requests ih =>
      obtain ⟨hcategory, hdial⟩ := h rr List.mem_cons_self
      have hsame : v.receive rr = v := by
        rw [ModemView.receive]
        split
        next hkind _ => exact absurd hkind hcategory
        next hkind _ => exact absurd hkind hdial
        next => rfl
      rw [List.foldl_cons, hsame]
      exact ih fun rr' hmem => h rr' (List.mem_cons_of_mem _ hmem)

/-- None of the requests is about an emergency call. -/
def NoEmergency (sent : List Outgoing) : Prop :=
  ∀ rr ∈ sent.flatMap Outgoing.requests,
    rr.mRequest ≠ .setEccServiceCategory ∧ rr.mRequest ≠ .emergencyDial

theorem NoEmergency.calls {sent : List Outgoing} (h : NoEmergency sent)
    (outgoing : List Outgoing) :
    (modemView (outgoing ++ sent)).calls =
      (modemView outgoing).calls ++ [] := by
  rw [modemView_append, foldl_receive_of_other h, List.append_nil]

theorem noEmergency_of_ordinary {sent : List Outgoing} (h : Ordinary sent) :
    NoEmergency sent := by
  intro rr hmem
  rcases h rr (mem_requests_iff.mp hmem) with hkind | hkind | hkind
  · rw [hkind]
    decide
  · rw [hkind]
    decide
  · rw [hkind]
    decide

theorem noEmergency_of_reaction
    (R : SessionRil) (operatorNumber : Option JString) (p : Parcel)
    (type serial : ℤ) :
    NoEmergency
      (((Reaction.of R operatorNumber p type).built serial).map
        .request) := by
  rw [Reaction.built]
  split
  next request items hasked =>
    have hkind := acknowledges_of_kind (Reaction.kind_of ..) hasked
    simp only [NoEmergency, List.map_cons, List.map_nil, List.flatMap_cons,
      List.flatMap_nil, Outgoing.requests, List.append_nil,
      List.forall_mem_singleton]
    constructor
    · rintro rfl
      cases hkind
    · rintro rfl
      cases hkind
  next =>
    intro rr hmem
    cases hmem

/-- An event lets the modem dial the emergency call that it asks for. -/
theorem calls_of_sends
    {P : Platform} {R : SessionRil} {s : Session} {e : SessionEvent}
    {sent : List Outgoing} (h : Sends P R s e sent) :
    (modemView (s.outgoing ++ sent)).calls =
      (modemView s.outgoing).calls ++ emergencyCalls P s e := by
  rw [Sends.eq_def] at h
  split at h
  · rw [emergencyCalls]
    split at h
    · rw [h, modemView_append]
      rfl
    · exact (noEmergency_of_ordinary h).calls _
  · rw [h]
    refine NoEmergency.calls ?_ _
    simp [NoEmergency, Outgoing.requests]
  · rw [h]
    exact (noEmergency_of_reaction _ _ _ _ _).calls _
  next hdial hattach hmessage =>
    have hnone : emergencyCalls P s e = [] := by
      rw [emergencyCalls.eq_def]
      split
      · exact (hdial _ _ _ _ rfl).elim
      · rfl
    rw [hnone]
    exact (noEmergency_of_ordinary h).calls _

/-- In every run, the modem dials the emergency calls that are asked for, in
order, each under the category that was looked up for it. -/
theorem emergencyCalls_run
    {ι : Type} [DecidableEq ι] (P : Platform) {R : SessionRil}
    (hR : R.Regular) {d : Instances ι} (hd : d.Fresh)
    (es : List (ι × SessionEvent)) :
    (modemView (run (instancesStep P R) d es).shared.outgoing).calls =
      contributions (instancesStep P R)
        (fun d e => emergencyCalls P (d.enter e.1) e.2) d es := by
  rw [log_run P hR (fun outgoing => (modemView outgoing).calls)
    (fun s e sent => calls_of_sends) d es, hd.outgoing]
  rfl

theorem emergencyCalls_suspendedRun :
    (modemView (run (instancesStep plainPlatform plainSession)
        idleInstances suspendedRun).shared.outgoing).calls =
      [(some 1, some "112".toList)] :=
  (emergencyCalls_run plainPlatform plainSession_regular
    idleInstances_fresh suspendedRun).trans (by decide)

/-! ## Listeners -/

/-- The reaction of an instance to an event; other events than messages tell
the listeners nothing. -/
def reaction (R : SessionRil) : SessionEvent → Reaction
  | .unsolicited operatorNumber p type =>
      Reaction.of R operatorNumber p type
  | _ => {}

/-- The messages that come to one instance. -/
def reactionsOf {ι : Type} [DecidableEq ι] (R : SessionRil) (i : ι)
    (es : List (ι × SessionEvent)) : List Reaction :=
  (es.filter fun e => e.1 = i).map fun e => reaction R e.2

/-- What the listeners have been told after the given reactions. -/
def Listeners.after (l : Listeners) (cs : List Reaction) : Listeners where
  callStateNotifications :=
    l.callStateNotifications + cs.countP Reaction.callState
  ussdRegistrant := l.ussdRegistrant
  ussd := l.ussd ++ if l.ussdRegistrant then cs.filterMap Reaction.ussd else []
  forwarded := l.forwarded ++ cs.filterMap Reaction.forwarded

theorem Listeners.after_append (l : Listeners) (cs cs' : List Reaction) :
    l.after (cs ++ cs') = (l.after cs).after cs' := by
  cases hregistrant : l.ussdRegistrant with
  | false => simp [Listeners.after, hregistrant, Nat.add_assoc]
  | true => simp [Listeners.after, hregistrant, Nat.add_assoc]

theorem reactionsOf_append {ι : Type} [DecidableEq ι] (R : SessionRil) (i : ι)
    (es es' : List (ι × SessionEvent)) :
    reactionsOf R i (es ++ es') = reactionsOf R i es ++ reactionsOf R i es' := by
  simp [reactionsOf]

theorem toListeners_react (s : Session) (c : Reaction) :
    (s.react c).toListeners = s.toListeners.after [c] := by
  have hcount : [c].countP Reaction.callState = c.callState.toNat := by
    cases hc : c.callState with
    | false => simp [hc]
    | true => simp [hc]
  have hussd : [c].filterMap Reaction.ussd = c.ussd.toList := by
    cases hc : c.ussd with
    | none => simp [hc]
    | some fields => simp [hc]
  have hforwarded : [c].filterMap Reaction.forwarded = c.forwarded.toList := by
    cases hc : c.forwarded with
    | none => simp [hc]
    | some message => simp [hc]
  simp only [Session.react, Listeners.after, hcount, hussd, hforwarded]

theorem Listeners.after_nothing (l : Listeners) : l.after [{}] = l := by
  simp [Listeners.after]

/-- One event, as the listeners of its instance see it. -/
theorem toListeners_sessionStep
    (P : Platform) (R : SessionRil) (s : Session) (e : SessionEvent) :
    (sessionStep P R s e).toListeners =
      s.toListeners.after [reaction R e] := by
  cases e with
  | request e => exact s.toListeners.after_nothing.symm
  | solicited p type => exact s.toListeners.after_nothing.symm
  | unsolicited operatorNumber p type =>
      simp only [sessionStep, stateAfter_processUnsolicited, reaction]
      exact toListeners_react s _

section Listening

variable {ι : Type} [DecidableEq ι] (P : Platform) (R : SessionRil)

theorem listeners_instancesStep
    (d : Instances ι) (e : ι × SessionEvent) (i : ι) :
    (instancesStep P R d e).listeners i =
      (d.listeners i).after (reactionsOf R i [e]) := by
  by_cases hi : e.1 = i
  · subst hi
    simp only [instancesStep, Instances.leave, Function.update_self,
      toListeners_sessionStep, reactionsOf]
    simp [Instances.enter]
  · have hnone : reactionsOf R i [e] = [] := by
      simp [reactionsOf, hi]
    rw [hnone]
    simp [instancesStep, Instances.leave, Function.update_of_ne (Ne.symm hi),
      Listeners.after]

/-- In every run, the listeners of an instance are told what the messages that
come to this instance ask for, and nothing else. -/
theorem listeners_run (d : Instances ι) (es : List (ι × SessionEvent))
    (i : ι) :
    (run (instancesStep P R) d es).listeners i =
      (d.listeners i).after (reactionsOf R i es) := by
  apply run_history_invariant (instancesStep P R) d
    (I := fun es t => t.listeners i =
      (d.listeners i).after (reactionsOf R i es))
  · simp [reactionsOf, Listeners.after]
  · intro es t e ht
    rw [listeners_instancesStep, ht, reactionsOf_append,
      Listeners.after_append]

end Listening

/-! ## USSD messages -/

/-- A USSD message as its listener expects it: there are two fields at least,
and the first one, unless it is null, is a number which does not stand for an
end of the session that the listener does not know. -/
def WellFormedUssd (fields : List (Option JString)) : Prop :=
  2 ≤ fields.length ∧
    ∀ text, fields.head? = some (some text) →
      ∃ value, Java.parseInt text = .ok value ∧ ¬(2 ≤ value ∧ value ≤ 5)

theorem wellFormedUssd_of_ussdFields
    {ret fields : List (Option JString)} (h : ussdFields ret = .ok fields) :
    WellFormedUssd fields := by
  cases ret with
  | nil => cases h
  | cons first rest =>
      have hlength : ∀ head : Option JString,
          2 ≤ (head :: if rest.isEmpty then [none] else rest).length := by
        cases rest with
        | nil => simp
        | cons second rest => simp
      cases first with
      | none =>
          cases h
          refine ⟨hlength _, ?_⟩
          rintro text ⟨⟩
      | some text =>
          simp only [ussdFields] at h
          split at h
          next => cases h
          next value hvalue =>
            by_cases hrange : 2 ≤ value ∧ value ≤ 5
            · rw [if_pos hrange] at h
              cases h
              refine ⟨hlength _, ?_⟩
              rintro text' ⟨⟩
              exact ⟨0, rfl, by decide⟩
            · rw [if_neg hrange] at h
              cases h
              refine ⟨hlength _, ?_⟩
              rintro text' ⟨⟩
              exact ⟨value, hvalue, hrange⟩

theorem wellFormedUssd_of_kind
    {p : Parcel} {type : ℤ} {c : Reaction} (h : c.Kind p type)
    {fields : List (Option JString)} (hussd : c.ussd = some fields) :
    WellFormedUssd fields := by
  cases h with
  | acknowledged => cases hussd
  | silent => cases hussd
  | @told ret hmessage =>
      cases hfields : ussdFields ret with
      | error thr =>
          rw [hfields] at hussd
          cases hussd
      | ok fields' =>
          rw [hfields] at hussd
          cases hussd
          exact wellFormedUssd_of_ussdFields hfields
  | forwarded => cases hussd

theorem wellFormedUssd_of_reaction
    {R : SessionRil} {e : SessionEvent} {fields : List (Option JString)}
    (h : (reaction R e).ussd = some fields) : WellFormedUssd fields := by
  cases e with
  | request e => cases h
  | solicited p type => cases h
  | unsolicited operatorNumber p type =>
      exact wellFormedUssd_of_kind (Reaction.kind_of ..) h

/-- In every run, everything that the USSD listener of an instance is told is
well formed. -/
theorem wellFormedUssd_run
    {ι : Type} [DecidableEq ι] (P : Platform) (R : SessionRil)
    (d : Instances ι) (i : ι) (hd : (d.listeners i).ussd = [])
    (es : List (ι × SessionEvent)) :
    ∀ fields ∈ ((run (instancesStep P R) d es).listeners i).ussd,
      WellFormedUssd fields := by
  intro fields hmem
  rw [listeners_run, Listeners.after, hd, List.nil_append] at hmem
  split_ifs at hmem
  · obtain ⟨c, hc, hussd⟩ := List.mem_filterMap.mp hmem
    obtain ⟨e, -, rfl⟩ := List.mem_map.mp hc
    exact wellFormedUssd_of_reaction hussd
  · cases hmem

/-- A session that ends with the code 3 and no text. -/
theorem wellFormedUssd_session_end :
    ((run (instancesStep plainPlatform
        { plainSession with
          responseStrings := fun _ => .ok (some [some "3".toList]) })
        idleInstances
        [(1, .unsolicited none (message 0xee 0x03 []) 0)]).listeners 1).ussd =
          [[some "0".toList, none]] ∧
      WellFormedUssd [some "0".toList, none] := by
  have hussd : ((run (instancesStep plainPlatform
      { plainSession with
        responseStrings := fun _ => .ok (some [some "3".toList]) })
      idleInstances
      [(1, .unsolicited none (message 0xee 0x03 []) 0)]).listeners 1).ussd =
        [[some "0".toList, none]] := by decide
  refine ⟨hussd, ?_⟩
  apply wellFormedUssd_run plainPlatform _ idleInstances 1 rfl
  rw [hussd]
  exact List.mem_singleton.mpr rfl

/-! ## Messages for the superclass -/

/-- The message of an event, if it is none of the six kinds. -/
def unhandled {ι : Type} [DecidableEq ι] (i : ι) :
    ι × SessionEvent → Option (Parcel × ℤ)
  | (j, .unsolicited _ p type) =>
      if j = i ∧ messageOf p = none then some (p, type) else none
  | _ => none

theorem forwarded_of_kind
    {p : Parcel} {type : ℤ} {c : Reaction} (h : c.Kind p type) :
    c.forwarded = if messageOf p = none then some (p, type) else none := by
  cases h with
  | acknowledged hmessage => rw [if_neg hmessage]
  | silent hmessage => rw [if_neg hmessage]
  | told hmessage => rw [if_neg hmessage]
  | forwarded hmessage => rw [if_pos hmessage]

theorem filterMap_forwarded
    {ι : Type} [DecidableEq ι] (R : SessionRil) (i : ι)
    (es : List (ι × SessionEvent)) :
    (reactionsOf R i es).filterMap Reaction.forwarded =
      es.filterMap (unhandled i) := by
  rw [reactionsOf, List.filterMap_map, List.filterMap_filter]
  congr 1
  funext ⟨j, e⟩
  cases e with
  | request e => simp [unhandled, reaction]
  | solicited p type => simp [unhandled, reaction]
  | unsolicited operatorNumber p type =>
      have hforwarded :=
        forwarded_of_kind (Reaction.kind_of R operatorNumber p type)
      by_cases hj : j = i
      · simp [unhandled, reaction, hj, hforwarded]
      · simp [unhandled, hj]

/-- In every run, the superclass of an instance is handed the messages for that
instance which are none of the six kinds, in order and as they came. -/
theorem forwarded_run
    {ι : Type} [DecidableEq ι] (P : Platform) (R : SessionRil)
    (d : Instances ι) (i : ι) (es : List (ι × SessionEvent)) :
    ((run (instancesStep P R) d es).listeners i).forwarded =
      (d.listeners i).forwarded ++ es.filterMap (unhandled i) := by
  rw [listeners_run, Listeners.after, filterMap_forwarded]

end SmartSurf.Ril
