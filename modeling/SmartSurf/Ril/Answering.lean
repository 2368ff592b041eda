import SmartSurf.Ril.Solicited

/-!
# Requests and the replies to them

A pending request should be answered once: removed from the list, and its
caller told the outcome.  `MT6735.processSolicited` misses this where code
throws after the request was looked up and before its caller was told, and it
reports a failed request as a success where the modem sends a payload along
with an error.  Both conditions are exact.
-/

namespace SmartSurf.Ril

open Support

section Pending

variable {s : RilState} {serial : ℤ} {tr : RILRequest}
  (htr : pendingRequest s serial = some tr)

include htr

theorem mem_of_pendingRequest : tr ∈ s.mRequestList :=
  List.mem_of_find?_eq_some htr

theorem mSerial_of_pendingRequest : tr.mSerial = serial := by
  have hserial := List.find?_some htr
  simpa using hserial

/-- A pending request is no longer in the list without it. -/
theorem ne_without_of_pendingRequest :
    s.mRequestList ≠ without s.mRequestList serial := by
  intro heq
  have hmem := mem_of_pendingRequest htr
  rw [heq] at hmem
  have hserial := (List.mem_filter.mp hmem).2
  rw [mSerial_of_pendingRequest htr] at hserial
  simp at hserial

end Pending

theorem decodable_of_not_intercepted
    (R : StockRil) {request : Request}
    (hkind : request.isIntercepted = false) (p : Parcel) :
    Decodable R request p := by
  cases request with
  | dataRegistrationState => cases hkind
  | setupDataCall => cases hkind
  | _ => trivial

/-! ## A superclass -/

/-- A superclass that answers errors and vendor requests with an exception and
everything else with a result. -/
def plainReply (rr : RILRequest) (error : ℤ) : AsyncResult :=
  if error = 0 ∧ ¬rr.mRequest.IsVendor then
    { result := some (.stock rr.mRequest.number), exception := none }
  else
    { result := none, exception := some (.platform rr.mRequest.number) }

def plainFindAndRemove (serial : ℤ) : RilM (Option RILRequest) := do
  let s ← get
  set { s with mRequestList := without s.mRequestList serial }
  return pendingRequest s serial

/-- Reading an empty payload gives no strings, and no data call. -/
def plainRil : StockRil where
  readStringArray _ := .ok (some [])
  responseSetupDataCall _ := .error (.numberFormat [])
  findAndRemoveRequestFromList := plainFindAndRemove
  processSolicited p _ := do
    match ← plainFindAndRemove (serialOf p) with
    | none => return none
    | some rr =>
        sendToTarget rr.mResult (plainReply rr (errorOf p))
        return some rr

theorem plainFindAndRemove_run (serial : ℤ) (s : RilState) :
    (plainFindAndRemove serial).run s =
      .ok (pendingRequest s serial)
        { s with mRequestList := without s.mRequestList serial } := rfl

theorem plainRil_findsAndRemoves : plainRil.FindsAndRemoves := by
  intro s serial rr _ hrr
  rw [← hrr]
  rfl

theorem plainRil_answers
    {ok : RILRequest → ℤ → AsyncResult → Prop}
    (hok : ∀ rr error, ok rr error (plainReply rr error)) :
    plainRil.Answers ok := by
  intro s p type rr _ hrr
  have hremove := plainFindAndRemove_run (serialOf p) s
  rw [hrr] at hremove
  refine ⟨plainReply rr (errorOf p),
    { s with
      mRequestList := without s.mRequestList (serialOf p)
      replies := s.replies ++
        repliesTo rr.mResult (plainReply rr (errorOf p)) },
    ?_, rfl, rfl, hok rr _⟩
  simp only [plainRil, run_bind_of_ok hremove]
  rfl

/-- A pending request of some caller, with serial number 1. -/
def awaiting (request : Request) : RILRequest where
  mSerial := 1
  mRequest := request
  mResult := some { id := 0 }

/-- An instance that waits for the response to one request. -/
def stateAwaiting (request : Request) (list : List Ecc.EccEntry) : RilState :=
  { idleState with
    device := { idleState.device with customizedEccList := list }
    mRequestList := [awaiting request] }

/-- A response with small numbers in its header. -/
def response (serial error : UInt8) (payload : List UInt8) : Parcel where
  data := [serial, 0, 0, 0, error, 0, 0, 0] ++ payload

/-! ## Answered exactly once -/

/-- The request is no longer pending, all others are, and its caller got one
reply. -/
def AnsweredOnce (R : StockRil) (s : RilState) (p : Parcel) (type : ℤ)
    (tr : RILRequest) : Prop :=
  (stateAfter (processSolicited R p type) s).mRequestList =
      without s.mRequestList (serialOf p) ∧
    ∀ message, tr.mResult = some message →
      ∃ ar, (stateAfter (processSolicited R p type) s).replies =
        s.replies ++ [(message, ar)]

/-- Nothing throws on the way to the reply: the refreshed properties can be
stored, and the payload of a request with a caller can be decoded. -/
def ReachesReply (R : StockRil) (s : RilState) (p : Parcel)
    (tr : RILRequest) : Prop :=
  hasAnswer p = true →
    (tr.mRequest = .getSimStatus → RefreshFits s.device) ∧
      (tr.mResult ≠ none → Decodable R tr.mRequest (payloadOf p))

section Outcomes

variable {R : StockRil} {s : RilState} {p : Parcel} {type : ℤ}
  {tr : RILRequest}

theorem Leaves.reply {requests : List RILRequest} {ar : AsyncResult}
    (h : Leaves R s p type requests (repliesTo tr.mResult ar))
    {message : Message} (hresult : tr.mResult = some message) :
    (stateAfter (processSolicited R p type) s).replies =
      s.replies ++ [(message, ar)] := by
  rw [h.2, hresult]
  rfl

theorem Leaves.no_reply {requests : List RILRequest}
    (h : Leaves R s p type requests []) (message : Message)
    (ar : AsyncResult) :
    (stateAfter (processSolicited R p type) s).replies ≠
      s.replies ++ [(message, ar)] := by
  intro hreplies
  rw [h.2, List.append_cancel_left_eq] at hreplies
  cases hreplies

theorem answeredOnce_of_leaves {ar : AsyncResult}
    (h : Leaves R s p type (without s.mRequestList (serialOf p))
      (repliesTo tr.mResult ar)) :
    AnsweredOnce R s p type tr := by
  refine ⟨h.1, ?_⟩
  intro message hmessage
  exact ⟨ar, h.reply hmessage⟩

variable (hdistinct : SerialsDistinct s)
  (htr : pendingRequest s (serialOf p) = some tr)

include htr

theorem not_answeredOnce_of_refresh_error
    (hanswer : hasAnswer p = true) (hsim : tr.mRequest = .getSimStatus)
    (hfits : ¬RefreshFits s.device) :
    ¬AnsweredOnce R s p type tr := by
  rintro ⟨hlist, -⟩
  obtain ⟨thr, hleft, -⟩ :=
    leaves_of_refresh_error (R := R) type htr hanswer hsim hfits
  exact ne_without_of_pendingRequest htr (hleft.symm.trans hlist)

include hdistinct

theorem not_answeredOnce_of_not_decodable
    (hfind : R.FindsAndRemoves) (hanswer : hasAnswer p = true)
    (hkind : tr.mRequest.isIntercepted = true)
    (hfails : ¬Decodable R tr.mRequest (payloadOf p))
    (hresult : tr.mResult ≠ none) :
    ¬AnsweredOnce R s p type tr := by
  rintro ⟨-, hreply⟩
  obtain ⟨message, hmessage⟩ := Option.ne_none_iff_exists'.mp hresult
  obtain ⟨ar, hreplies⟩ := hreply message hmessage
  have hleaves := leaves_of_not_decodable type hdistinct htr hfind hanswer
    hkind hfails
  exact hleaves.no_reply message ar hreplies

/-- A request the class answers itself, with an answer to decode. -/
theorem answeredOnce_intercepted_iff
    (hfind : R.FindsAndRemoves) (hanswer : hasAnswer p = true)
    (hkind : tr.mRequest.isIntercepted = true) :
    AnsweredOnce R s p type tr ↔
      (tr.mResult ≠ none → Decodable R tr.mRequest (payloadOf p)) := by
  by_cases hdecodes : Decodable R tr.mRequest (payloadOf p)
  · obtain ⟨ret, hleaves⟩ :=
      leaves_of_decodable type hdistinct htr hfind hanswer hkind hdecodes
    exact iff_of_true (answeredOnce_of_leaves hleaves) fun _ => hdecodes
  · constructor
    · intro hanswered hresult
      exact absurd hanswered (not_answeredOnce_of_not_decodable hdistinct htr
        hfind hanswer hkind hdecodes hresult)
    · intro hresult
      have hnone : tr.mResult = none := by
        by_contra hne
        exact hdecodes (hresult hne)
      have hleaves := leaves_of_not_decodable type hdistinct htr hfind hanswer
        hkind hdecodes
      refine ⟨hleaves.1, ?_⟩
      intro message hmessage
      rw [hnone] at hmessage
      cases hmessage

end Outcomes

/-- For distinct serial numbers, a pending request is retired and answered
exactly once by the response to it if and only if nothing throws on the way to
the reply. -/
theorem answeredOnce_iff
    {R : StockRil} (hfind : R.FindsAndRemoves)
    (hsuper : R.Answers fun _ _ _ => True)
    {s : RilState} (hdistinct : SerialsDistinct s) {p : Parcel}
    {tr : RILRequest} (htr : pendingRequest s (serialOf p) = some tr)
    (type : ℤ) :
    AnsweredOnce R s p type tr ↔ ReachesReply R s p tr := by
  by_cases hforwarded : IsForwarded s p tr
  · obtain ⟨ar, hleaves, -⟩ :=
      leaves_of_forwarded type hdistinct htr hsuper hforwarded
    refine iff_of_true (answeredOnce_of_leaves hleaves) ?_
    intro hanswer
    obtain ⟨hkind, hfits⟩ := hforwarded hanswer
    exact ⟨hfits, fun _ => decodable_of_not_intercepted R hkind _⟩
  · rw [IsForwarded] at hforwarded
    push Not at hforwarded
    obtain ⟨hanswer, hnot⟩ := hforwarded
    simp only [ReachesReply, hanswer, true_imp_iff]
    cases hkind : tr.mRequest.isIntercepted with
    | false =>
        obtain ⟨hsim, hfits⟩ := hnot hkind
        refine iff_of_false
          (not_answeredOnce_of_refresh_error htr hanswer hsim hfits) ?_
        rintro ⟨hrefresh, -⟩
        exact hfits (hrefresh hsim)
    | true =>
        have hsim : tr.mRequest ≠ .getSimStatus := by
          intro heq
          rw [heq] at hkind
          cases hkind
        rw [answeredOnce_intercepted_iff hdistinct htr hfind hanswer hkind]
        simp [hsim]

theorem answeredOnce_emergencyDial :
    AnsweredOnce plainRil (stateAwaiting .emergencyDial []) (response 1 0 []) 0
      (awaiting .emergencyDial) :=
  (answeredOnce_iff plainRil_findsAndRemoves
    (plainRil_answers fun _ _ => trivial) (by decide) (by decide) 0).mpr
      fun _ => ⟨by decide, fun _ => trivial⟩

/-- The answer to `GET_SIM_STATUS` leaves the request pending if a refreshed
property gets too long, and an empty answer to `SETUP_DATA_CALL` is never
passed on. -/
theorem not_answeredOnce :
    ¬AnsweredOnce plainRil
        (stateAwaiting .getSimStatus
          [{ mEcc := List.replicate 92 '1', mCondition := "1".toList }])
        (response 1 0 []) 0 (awaiting .getSimStatus) ∧
      ¬AnsweredOnce plainRil (stateAwaiting .setupDataCall [])
        (response 1 0 []) 0 (awaiting .setupDataCall) := by
  constructor
  · apply not_answeredOnce_of_refresh_error
    all_goals decide
  · apply not_answeredOnce_of_not_decodable _ _ plainRil_findsAndRemoves
    · decide
    · decide
    · rintro ⟨ret, hret⟩
      cases hret
    · decide
    · decide
    · decide

/-! ## Failures reported as failures -/

/-- The caller gets one reply, with an exception. -/
def ReportedFailure (R : StockRil) (s : RilState) (p : Parcel) (type : ℤ)
    (message : Message) : Prop :=
  ∃ ar, (stateAfter (processSolicited R p type) s).replies =
    s.replies ++ [(message, ar)] ∧ ar.exception ≠ none

/-- The caller gets one reply, without an exception. -/
def ReportedSuccess (R : StockRil) (s : RilState) (p : Parcel) (type : ℤ)
    (message : Message) : Prop :=
  ∃ ar, (stateAfter (processSolicited R p type) s).replies =
    s.replies ++ [(message, ar)] ∧ ar.exception = none

/-- A nonzero error code is answered with an exception. -/
def ErrorsRaise (_ : RILRequest) (error : ℤ) (ar : AsyncResult) : Prop :=
  error ≠ 0 → ar.exception ≠ none

section Reports

variable {R : StockRil} {s : RilState} {p : Parcel} {type : ℤ}
  {message : Message}

theorem not_reportedSuccess_of_reportedFailure
    (h : ReportedFailure R s p type message) :
    ¬ReportedSuccess R s p type message := by
  obtain ⟨ar, hreplies, hexception⟩ := h
  rintro ⟨ar', hreplies', hnone⟩
  rw [hreplies, List.append_cancel_left_eq] at hreplies'
  simp only [List.cons.injEq, Prod.mk.injEq, true_and, and_true] at hreplies'
  rw [hreplies'] at hexception
  exact hexception hnone

theorem hasAnswer_of_error (herror : errorOf p ≠ 0) :
    hasAnswer p = true ↔ (payloadOf p).dataAvail > 0 := by
  simp [hasAnswer, herror]

variable {tr : RILRequest} (hdistinct : SerialsDistinct s)
  (htr : pendingRequest s (serialOf p) = some tr)
  (hresult : tr.mResult = some message)

include hdistinct htr hresult

theorem reportedFailure_of_not_intercepted
    (hsuper : R.Answers ErrorsRaise) (herror : errorOf p ≠ 0)
    (hkind : ¬(tr.mRequest.isIntercepted = true ∧
      (payloadOf p).dataAvail > 0)) :
    ReportedFailure R s p type message := by
  by_cases hforwarded : IsForwarded s p tr
  · obtain ⟨ar, hleaves, hraises⟩ :=
      leaves_of_forwarded type hdistinct htr hsuper hforwarded
    exact ⟨ar, hleaves.reply hresult, hraises herror⟩
  · rw [IsForwarded] at hforwarded
    push Not at hforwarded
    obtain ⟨hanswer, hnot⟩ := hforwarded
    have hkind' : tr.mRequest.isIntercepted = false := by
      by_contra htrue
      rw [Bool.not_eq_false] at htrue
      exact hkind ⟨htrue, (hasAnswer_of_error herror).mp hanswer⟩
    obtain ⟨hsim, hfits⟩ := hnot hkind'
    obtain ⟨thr, hleaves⟩ :=
      leaves_of_refresh_error (R := R) type htr hanswer hsim hfits
    exact ⟨_, hleaves.reply hresult, Option.some_ne_none thr⟩

theorem reportedSuccess_of_decodable
    (hfind : R.FindsAndRemoves) (hanswer : hasAnswer p = true)
    (hkind : tr.mRequest.isIntercepted = true)
    (hdecodes : Decodable R tr.mRequest (payloadOf p)) :
    ReportedSuccess R s p type message := by
  obtain ⟨ret, hleaves⟩ :=
    leaves_of_decodable type hdistinct htr hfind hanswer hkind hdecodes
  exact ⟨_, hleaves.reply hresult, rfl⟩

omit hresult in
/-- Without a reply there is neither a failure nor a success. -/
theorem not_reported_of_not_decodable
    (hfind : R.FindsAndRemoves) (hanswer : hasAnswer p = true)
    (hkind : tr.mRequest.isIntercepted = true)
    (hfails : ¬Decodable R tr.mRequest (payloadOf p)) :
    ¬ReportedFailure R s p type message ∧
      ¬ReportedSuccess R s p type message := by
  have hleaves := leaves_of_not_decodable type hdistinct htr hfind hanswer
    hkind hfails
  constructor
  · rintro ⟨ar, hreplies, -⟩
    exact hleaves.no_reply message ar hreplies
  · rintro ⟨ar, hreplies, -⟩
    exact hleaves.no_reply message ar hreplies

end Reports

/-- A failed request is reported to its caller with an exception if and only if
it is not one of the intercepted kinds with a payload behind the error code;
it is reported as a success exactly if it is one and the payload can be
decoded. -/
theorem reportedFailure_iff
    {R : StockRil} (hfind : R.FindsAndRemoves)
    (hsuper : R.Answers ErrorsRaise)
    {s : RilState} (hdistinct : SerialsDistinct s) {p : Parcel}
    {tr : RILRequest} (htr : pendingRequest s (serialOf p) = some tr)
    {message : Message} (hresult : tr.mResult = some message)
    (herror : errorOf p ≠ 0) (type : ℤ) :
    (ReportedFailure R s p type message ↔
      ¬(tr.mRequest.isIntercepted = true ∧ (payloadOf p).dataAvail > 0)) ∧
    (ReportedSuccess R s p type message ↔
      tr.mRequest.isIntercepted = true ∧ (payloadOf p).dataAvail > 0 ∧
        Decodable R tr.mRequest (payloadOf p)) := by
  by_cases hkind : tr.mRequest.isIntercepted = true ∧
      (payloadOf p).dataAvail > 0
  · have hanswer := (hasAnswer_of_error herror).mpr hkind.2
    by_cases hdecodes : Decodable R tr.mRequest (payloadOf p)
    · have hsuccess : ReportedSuccess R s p type message :=
        reportedSuccess_of_decodable hdistinct htr hresult hfind hanswer
          hkind.1 hdecodes
      have hnot : ¬ReportedFailure R s p type message := fun hfailure =>
        not_reportedSuccess_of_reportedFailure hfailure hsuccess
      exact ⟨iff_of_false hnot (not_not_intro hkind),
        iff_of_true hsuccess ⟨hkind.1, hkind.2, hdecodes⟩⟩
    · have hnot : ¬ReportedFailure R s p type message ∧
          ¬ReportedSuccess R s p type message :=
        not_reported_of_not_decodable hdistinct htr hfind hanswer hkind.1
          hdecodes
      obtain ⟨hfailure, hsuccess⟩ := hnot
      exact ⟨iff_of_false hfailure (not_not_intro hkind),
        iff_of_false hsuccess fun h => hdecodes h.2.2⟩
  · have hfailure : ReportedFailure R s p type message :=
      reportedFailure_of_not_intercepted hdistinct htr hresult hsuper herror
        hkind
    exact ⟨iff_of_true hfailure hkind,
      iff_of_false (not_reportedSuccess_of_reportedFailure hfailure)
        fun h => hkind ⟨h.1, h.2.1⟩⟩

theorem plainRil_errorsRaise : plainRil.Answers ErrorsRaise := by
  apply plainRil_answers
  intro rr error herror
  simp [plainReply, herror]

theorem reportedFailure_emergencyDial :
    ReportedFailure plainRil (stateAwaiting .emergencyDial [])
      (response 1 2 []) 0 { id := 0 } :=
  have htr : pendingRequest (stateAwaiting .emergencyDial [])
      (serialOf (response 1 2 [])) = some (awaiting .emergencyDial) := by
    decide
  (reportedFailure_iff plainRil_findsAndRemoves plainRil_errorsRaise
    (by decide) htr rfl (by decide) 0).1.mpr (by decide)

/-- A failed emergency dial with four bytes behind the error code is reported
as a success. -/
theorem not_reportedFailure_of_payload :
    ¬ReportedFailure plainRil (stateAwaiting .emergencyDial [])
        (response 1 2 [0, 0, 0, 0]) 0 { id := 0 } ∧
      ReportedSuccess plainRil (stateAwaiting .emergencyDial [])
        (response 1 2 [0, 0, 0, 0]) 0 { id := 0 } := by
  have htr : pendingRequest (stateAwaiting .emergencyDial [])
      (serialOf (response 1 2 [0, 0, 0, 0])) =
        some (awaiting .emergencyDial) := by
    decide
  have hsuccess : ReportedSuccess plainRil (stateAwaiting .emergencyDial [])
      (response 1 2 [0, 0, 0, 0]) 0 { id := 0 } :=
    reportedSuccess_of_decodable (by decide) htr rfl plainRil_findsAndRemoves
      (by decide) (by decide) trivial
  refine ⟨fun hfailure => ?_, hsuccess⟩
  exact not_reportedSuccess_of_reportedFailure hfailure hsuccess

end SmartSurf.Ril
