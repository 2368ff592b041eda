import SmartSurf.Ril.FailedSetup
import SmartSurf.Ril.Session
import SmartSurf.Support.SlotSet

/-!
# The recorded data calls in a run of all instances

An instance changes its table of identifiers in two places only: where it
decodes a response to one of its own setup requests, and where it deactivates
a call.  In every run of all instances the table is therefore that of these
events alone.  If the modem does not hand out an identifier that the instance
still has, the table stands for a set of at most four calls.
-/

namespace SmartSurf.Ril

open Support

/-! ## What happens to a table -/

def tableStep (t : Cids) : CidEvent → Cids
  | .setupSucceeded _ cid => fillFirst slots isFree t cid
  | .deactivated cid _ _ => clearFirst slots (-1) t cid

/-- The event that a decoded response to a setup request is for the table. -/
def recordedBy (ret : DataCallResponse) : List CidEvent :=
  if 0 ≤ ret.cid then [.setupSucceeded ret.status ret.cid.toNat] else []

/-- What an event means for the table of the instance it comes to. -/
def cidEvents (R : StockRil) (s : RilState) : SessionEvent → List CidEvent
  | .request (.deactivateDataCall cid reason result) =>
      [.deactivated cid reason result]
  | .solicited p _ =>
      match pendingRequest s (serialOf p) with
      | some tr =>
          if tr.mRequest = .setupDataCall ∧ hasAnswer p = true then
            match R.responseSetupDataCall (payloadOf p) with
            | .ok ret => recordedBy ret
            | .error _ => []
          else []
      | none => []
  | _ => []

theorem run_recordedBy (t : Cids) (ret : DataCallResponse) :
    run tableStep t (recordedBy ret) =
      if 0 ≤ ret.cid then fillFirst slots isFree t ret.cid else t := by
  rw [recordedBy]
  split_ifs with hcid
  · change fillFirst slots isFree t (ret.cid.toNat : ℤ) = _
    rw [Int.toNat_of_nonneg hcid]
  · rfl

/-! ## The set of recorded calls -/

/-- What an event means for the set of recorded calls. -/
def callStep (calls : Finset ℤ) : CidEvent → Finset ℤ
  | .setupSucceeded _ cid => addBounded slots.length calls cid
  | .deactivated cid _ _ => calls.erase cid

/-- The modem hands out no identifier that is still recorded, unless there is
no room for it. -/
def Unrecorded (calls : Finset ℤ) : CidEvent → Prop
  | .setupSucceeded _ cid => (cid : ℤ) ∉ calls ∨ slots.length ≤ calls.card
  | .deactivated _ _ _ => True

instance (calls : Finset ℤ) : DecidablePred (Unrecorded calls)
  | .setupSucceeded _ cid =>
      inferInstanceAs (Decidable ((cid : ℤ) ∉ calls ∨ slots.length ≤ calls.card))
  | .deactivated _ _ _ => inferInstanceAs (Decidable True)

/-- The table holds the calls of a set, each of them once. -/
structure Represents (t : Cids) (calls : Finset ℤ) : Prop where
  once : OccupiedOnce slots isFree t
  occupants : Support.occupants slots isFree t = calls

theorem represents_emptyCids : Represents emptyCids ∅ where
  once _ _ _ _ _ hocc := by cases hocc
  occupants := by decide

section Represents

variable {t : Cids} {calls : Finset ℤ} (h : Represents t calls)

include h

theorem Represents.mem_iff {cid : ℤ} :
    cid ∈ calls ↔ 0 ≤ cid ∧ Holds slots t cid := by
  rw [← h.occupants, mem_occupants, and_comm, isFree, decide_eq_false_iff_not,
    not_lt]

theorem Represents.firstFreeSlot_ne_none_iff :
    firstFreeSlot t ≠ none ↔ calls.card < slots.length := by
  rw [← h.occupants]
  exact firstSlot_ne_none_iff (by decide) h.once

/-- An event keeps the table and the set together. -/
theorem Represents.step {e : CidEvent} (he : Unrecorded calls e) :
    Represents (tableStep t e) (callStep calls e) := by
  cases e with
  | setupSucceeded status cid =>
      have hcid := isFree_natCast cid
      refine ⟨?_, ?_⟩
      · rcases he with hnew | hfull
        · refine occupiedOnce_fillFirst h.once fun hholds => hnew ?_
          exact h.mem_iff.mpr ⟨Int.natCast_nonneg cid, hholds⟩
        · have hnone : firstFreeSlot t = none :=
            not_not.mp (mt h.firstFreeSlot_ne_none_iff.mp (not_lt.mpr hfull))
          rw [tableStep, fillFirst_eq_of_none hnone]
          exact h.once
      · rw [tableStep, callStep, ← h.occupants]
        exact occupants_fillFirst (by decide) h.once hcid
  | deactivated cid reason result =>
      refine ⟨occupiedOnce_clearFirst rfl h.once, ?_⟩
      rw [tableStep, callStep, ← h.occupants]
      exact occupants_clearFirst h.once rfl cid

/-- A setup is sent with the interface number zero exactly if the set is
full. -/
theorem Represents.availableInterfaceId_eq_zero_iff :
    availableInterfaceId t = 0 ↔ calls.card = slots.length := by
  have hle : calls.card ≤ slots.length := by
    rw [← h.occupants]
    exact card_occupants_le slots isFree t
  have hroom := h.firstFreeSlot_ne_none_iff
  rw [availableInterfaceId]
  cases hfirst : firstFreeSlot t with
  | none =>
      have hfull : ¬calls.card < slots.length := mt hroom.mpr (by simp [hfirst])
      exact iff_of_true rfl (by omega)
  | some i =>
      have hlt := hroom.mp (by simp [hfirst])
      exact iff_of_false (Nat.succ_ne_zero _) (by omega)

end Represents

/-! ## Responses -/

theorem keeps_cids_decodeResponse
    (R : StockRil) {request : Request} (hkind : request ≠ .setupDataCall)
    (p : Parcel) :
    Keeps (fun s : RilState => s.dataCallCids) (decodeResponse R request p) := by
  cases request with
  | dataRegistrationState =>
      simp only [decodeResponse, fixupPSBearerDataRegistration]
      split
      · exact keeps_throw _
      · exact keeps_throw _
      · split
        · exact keeps_throw _
        · exact keeps_pure _
  | setupDataCall => exact absurd rfl hkind
  | _ => exact fun _ => rfl

section Responses

variable {R : StockRil} (hfind : R.FindsAndRemoves) (hkeeps : R.KeepsCids)
  {s : RilState} (hdistinct : SerialsDistinct s) {p : Parcel}

include hkeeps

theorem dataCallCids_of_forwarded {t : RilState}
    (hpreview : (preview p).run s = .ok .forwarded t)
    (hcids : t.dataCallCids = s.dataCallCids) (type : ℤ) :
    (stateAfter (processSolicited R p type) s).dataCallCids =
      s.dataCallCids := by
  have hrun := processSolicited_of_forwarded R type hpreview
  rw [stateAfter, hrun]
  exact (hkeeps t p type).trans hcids

include hfind hdistinct

/-- The response to another request than a setup leaves the table alone. -/
theorem dataCallCids_of_other {tr : RILRequest}
    (htr : pendingRequest s (serialOf p) = some tr)
    (hkind : tr.mRequest ≠ .setupDataCall) (type : ℤ) :
    (stateAfter (processSolicited R p type) s).dataCallCids =
      s.dataCallCids := by
  cases hanswer : hasAnswer p with
  | false => exact dataCallCids_of_no_answer type htr hkeeps hanswer
  | true =>
      cases hintercepted : tr.mRequest.isIntercepted with
      | true =>
          have hrun := processSolicited_run_of_intercepted type hdistinct htr
            hfind hanswer hintercepted
          have hreply : ∀ ret, Keeps (fun s : RilState => s.dataCallCids) (do
              sendToTarget tr.mResult { result := ret, exception := none }
              return some tr) :=
            fun ret _ => rfl
          rw [stateAfter, hrun]
          exact keeps_bind (keeps_cids_decodeResponse R hkind (payloadOf p))
            hreply
            { s with mRequestList := without s.mRequestList (serialOf p) }
      | false =>
          by_cases hsim : tr.mRequest = .getSimStatus
          · cases hrefresh : Ecc.updateEmergencyNumbersProperty.run s.device with
            | ok _ d =>
                exact dataCallCids_of_forwarded hkeeps
                  (preview_of_refresh htr hanswer hsim hrefresh) rfl type
            | error thr d =>
                have hrun := processSolicited_of_returned R type
                  (preview_of_refresh_error htr hanswer hsim hrefresh)
                rw [stateAfter, hrun]
          · exact dataCallCids_of_forwarded hkeeps
              (preview_of_stock htr hintercepted hsim) rfl type

theorem dataCallCids_solicited (type : ℤ) :
    (stateAfter (processSolicited R p type) s).dataCallCids =
      run tableStep s.dataCallCids (cidEvents R s (.solicited p type)) := by
  rw [cidEvents]
  cases htr : pendingRequest s (serialOf p) with
  | none =>
      have hpreview : (preview p).run s = .ok .forwarded s := by
        simp [preview, htr]
      exact dataCallCids_of_forwarded hkeeps hpreview rfl type
  | some tr =>
      dsimp only
      split_ifs with hsetup
      · obtain ⟨hkind, hanswer⟩ := hsetup
        cases hdecode : R.responseSetupDataCall (payloadOf p) with
        | error thr =>
            exact dataCallCids_of_error type hdistinct htr hkind hfind hanswer
              hdecode
        | ok ret =>
            rw [dataCallCids_of_decoded type hdistinct htr hkind hfind hanswer
              hdecode]
            exact (run_recordedBy _ ret).symm
      · by_cases hkind : tr.mRequest = .setupDataCall
        · have hanswer : hasAnswer p = false :=
            Bool.eq_false_iff.mpr fun h => hsetup ⟨hkind, h⟩
          exact dataCallCids_of_no_answer type htr hkeeps hanswer
        · exact dataCallCids_of_other hfind hkeeps hdistinct htr hkind type

end Responses

/-! ## Runs of all instances -/

theorem dataCallCids_requestStep
    (P : Platform) (R : StockRil) (s : RilState) (e : RequestEvent) :
    (requestStep P s e).dataCallCids =
      run tableStep s.dataCallCids (cidEvents R s (.request e)) := by
  cases e with
  | dial address clirMode uusInfo result =>
      obtain ⟨d, hstate | hstate | ⟨c, hstate⟩⟩ :=
        dial_stateAfter clirMode uusInfo result P s address
      · rw [requestStep, hstate]
        rfl
      · rw [requestStep, hstate]
        rfl
      · rw [requestStep, hstate]
        rfl
  | setRadioPower on result =>
      exact (Prod.mk.inj (keeps_setRadioPower on result s)).2
  | _ => rfl

/-- What one event does to the table of the instance it comes to. -/
theorem dataCallCids_sessionStep
    (P : Platform) {R : SessionRil} (hfind : R.FindsAndRemoves)
    (hkeeps : R.KeepsCids) {s : Session}
    (hdistinct : SerialsDistinct s.toRilState) (e : SessionEvent) :
    (sessionStep P R s e).dataCallCids =
      run tableStep s.dataCallCids
        (cidEvents R.toStockRil s.toRilState e) := by
  cases e with
  | request e => exact dataCallCids_requestStep P _ s.toRilState e
  | solicited p type =>
      exact dataCallCids_solicited hfind hkeeps hdistinct type
  | unsolicited operatorNumber p type =>
      rw [sessionStep, stateAfter_processUnsolicited]
      rfl

section Runs

variable {ι : Type} [DecidableEq ι] (P : Platform) (R : SessionRil)

/-- What the events of a run mean for the table of one instance. -/
def cidEventsOf (i : ι) (d : Instances ι) (es : List (ι × SessionEvent)) :
    List CidEvent :=
  contributions (instancesStep P R)
    (fun d e =>
      if e.1 = i then cidEvents R.toStockRil (d.enter i).toRilState e.2
      else [])
    d es

variable {R} (hR : R.Regular) (hkeeps : R.KeepsCids) {d : Instances ι}
  (hd : d.Fresh) (es : List (ι × SessionEvent)) (i : ι)

include hR hkeeps hd

/-- In every run, the table of an instance is that of its own setup responses
and deactivations. -/
theorem table_run :
    ((run (instancesStep P R) d es).phone i).dataCallCids =
      run tableStep (d.phone i).dataCallCids (cidEventsOf P R i d es) := by
  refine run_view _ (fun d : Instances ι => (d.phone i).dataCallCids) ?_ es
  intro before e
  by_cases hi : e.1 = i
  · subst hi
    simp only [instancesStep, Instances.leave, Function.update_self, if_true]
    exact dataCallCids_sessionStep P hR.finds hkeeps
      (serialsDistinct_run P hR hd before e.1) e.2
  · simp only [instancesStep, Instances.leave,
      Function.update_of_ne (Ne.symm hi), if_neg hi]
    rfl

/-- If the modem hands out no identifier that an instance still has, its table
holds exactly the calls of the abstract set, each of them once, and a setup
request carries the interface number 0 exactly if four calls are recorded. -/
theorem recordedCalls_run
    (htable : (d.phone i).dataCallCids = emptyCids)
    (hmodem : Meets callStep Unrecorded ∅ (cidEventsOf P R i d es)) :
    let s := run (instancesStep P R) d es
    let t := (s.phone i).dataCallCids
    let calls := run callStep ∅ (cidEventsOf P R i d es)
    OccupiedOnce slots isFree t ∧
      (∀ cid, cid ∈ calls ↔ 0 ≤ cid ∧ Holds slots t cid) ∧
      ∀ args : SetupArgs, ∃ rr,
        sentBy args.setupDataCall (s.enter i).toRilState = [.request rr] ∧
        (rr.mParcel.getLast? = some (.string (intToString 0)) ↔
          calls.card = 4) := by
  have h : Represents (run tableStep emptyCids (cidEventsOf P R i d es))
      (run callStep ∅ (cidEventsOf P R i d es)) :=
    run_simulation (fun t calls e h he => h.step he) represents_emptyCids
      hmodem
  rw [← htable, ← table_run P hR hkeeps hd es i] at h
  refine ⟨h.once, fun _ => h.mem_iff, fun args => ?_⟩
  obtain ⟨rr, hsent, -, htext⟩ := sentBy_setupDataCall args
    ((run (instancesStep P R) d es).enter i).toRilState
  refine ⟨rr, hsent, ?_⟩
  rw [htext, Option.some_inj, ParcelItem.string.injEq, Option.some_inj]
  exact (interfaceText_eq_zero_iff _).trans
    h.availableInterfaceId_eq_zero_iff

end Runs

/-! ## Two calls with one identifier -/

/-- `plainSession`, with the decoder of setup responses. -/
def decodingSession : SessionRil :=
  { plainSession with toStockRil := decodingRil }

theorem decodingSession_regular : decodingSession.Regular where
  finds := decodingRil_findsAndRemoves
  answers := plainSession_regular.answers
  ignores := plainSession_regular.ignores
  keeps_find := plainSession_regular.keeps_find
  keeps_process := plainSession_regular.keeps_process

/-- Both phones set up a call and are given the identifier 5, and the second
one deactivates its call. -/
def sameCidRun : List (Fin 2 × SessionEvent) :=
  [(firstPhone,
      .request (.setupDataCall { radioTechnology := 14, profile := 0 })),
    (secondPhone,
      .request (.setupDataCall { radioTechnology := 14, profile := 0 })),
    (firstPhone, .solicited (response 0 0 (setupPayload 0 5)) 0),
    (secondPhone, .solicited (response 1 0 (setupPayload 0 5)) 0),
    (secondPhone, .request (.deactivateDataCall 5 0 none))]

theorem recordedCalls_of_sameCidRun :
    Holds slots ((run (instancesStep plainPlatform decodingSession)
        idleInstances sameCidRun).phone firstPhone).dataCallCids 5 ∧
      ¬Holds slots ((run (instancesStep plainPlatform decodingSession)
        idleInstances sameCidRun).phone secondPhone).dataCallCids 5 := by
  have hfirst := recordedCalls_run plainPlatform decodingSession_regular
    decodingRil_keepsCids idleInstances_fresh sameCidRun firstPhone rfl
    (by decide)
  have hsecond := recordedCalls_run plainPlatform decodingSession_regular
    decodingRil_keepsCids idleInstances_fresh sameCidRun secondPhone rfl
    (by decide)
  refine ⟨((hfirst.2.1 5).mp (by decide)).2, fun hholds => ?_⟩
  exact absurd ((hsecond.2.1 5).mpr ⟨by decide, hholds⟩) (by decide)

end SmartSurf.Ril
