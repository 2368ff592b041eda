import SmartSurf.Ril.Unsolicited
import SmartSurf.Support.Frame
import SmartSurf.Support.Ledger

/-!
# Several instances with one request counter

Each instance of `MT6735` has its own list of pending requests, but all of them
draw their serial numbers from one counter.  A run interleaves calls of the
request methods, solicited responses and unsolicited messages of all
instances in any order; a response may carry any serial number, may come again,
and may not be decodable.

Every step of the instances is followed by a step of the account in
`Support.Ledger`, so that a request is answered at most once, and is pending
until a response with its serial number comes to its instance.
-/

namespace SmartSurf.Ril

open Support

/-! ## One instance -/

/-- What happens to one instance: a step of `RequestEvent`, a response or a
message of the modem. -/
inductive SessionEvent where
  | request (e : RequestEvent)
  | solicited (p : Parcel) (type : ℤ)
  | unsolicited (operatorNumber : Option JString) (p : Parcel) (type : ℤ)

def sessionStep (P : Platform) (R : SessionRil) (s : Session) :
    SessionEvent → Session
  | .request e => { s with toRilState := requestStep P s.toRilState e }
  | .solicited p type =>
      { s with
        toRilState :=
          stateAfter (processSolicited R.toStockRil p type) s.toRilState }
  | .unsolicited operatorNumber p type =>
      stateAfter (processUnsolicited R operatorNumber p type) s

/-- The serial number by which an event refers to a request. -/
def SessionEvent.serial : SessionEvent → Option ℤ
  | .request (.retired serial) => some serial
  | .solicited p _ => some (serialOf p)
  | _ => none

/-- What is changed by issuing requests. -/
def issuing (s : RilState) : ℤ × List Outgoing :=
  (s.sNextSerial, s.outgoing)

/-- The superclass finds and answers pending requests, does nothing to the
requests of an instance in response to a serial number that it does not know,
and issues no requests on the way. -/
structure StockRil.Regular (R : StockRil) : Prop where
  finds : R.FindsAndRemoves
  answers : R.Answers fun _ _ _ => True
  ignores : ∀ s p type, pendingRequest s (serialOf p) = none →
    (stateAfter (R.processSolicited p type) s).mRequestList =
        s.mRequestList ∧
      (stateAfter (R.processSolicited p type) s).replies = s.replies
  keeps_find : ∀ serial, Keeps issuing (R.findAndRemoveRequestFromList serial)
  keeps_process : ∀ p type, Keeps issuing (R.processSolicited p type)

/-- What an event does to the requests of an instance: requests are issued, or
the event refers to no pending request, or the request it refers to is dropped,
or it is a response and the request is answered and no longer pending, or the
request is one for the status of the SIM and is answered and stays pending. -/
inductive Moves (s t : RilState) (e : SessionEvent) : Prop
  | issues {built : List RILRequest} {sent : List Outgoing}
      (hserial : e.serial = none)
      (hlist : t.mRequestList = s.mRequestList ++ built)
      (hnext : s.sNextSerial ≤ t.sNextSerial)
      (hrange : ∀ rr ∈ built,
        s.sNextSerial ≤ rr.mSerial ∧ rr.mSerial < t.sNextSerial)
      (hnodup : (built.map RILRequest.mSerial).Nodup)
      (hsent : t.outgoing = s.outgoing ++ sent)
      (hbuilt : ∀ rr, Outgoing.request rr ∈ sent → rr ∈ built)
      (hreplies : t.replies = s.replies)
  | ignores {k : ℤ} (hserial : e.serial = some k)
      (hlist : t.mRequestList = s.mRequestList)
      (hreplies : t.replies = s.replies) (hissuing : issuing t = issuing s)
  | drops {k : ℤ} {rr : RILRequest} (hserial : e.serial = some k)
      (hrr : pendingRequest s k = some rr)
      (hlist : t.mRequestList = without s.mRequestList k)
      (hreplies : t.replies = s.replies)
      (hissuing : issuing t = issuing s)
  | settles {p : Parcel} {type : ℤ} {rr : RILRequest} {ar : AsyncResult}
      (hresponse : e = .solicited p type)
      (hrr : pendingRequest s (serialOf p) = some rr)
      (hlist : t.mRequestList = without s.mRequestList (serialOf p))
      (hreplies : t.replies = s.replies ++ repliesTo rr.mResult ar)
      (hissuing : issuing t = issuing s)
  | renews {p : Parcel} {type : ℤ} {rr : RILRequest} {ar : AsyncResult}
      (hresponse : e = .solicited p type)
      (hrr : pendingRequest s (serialOf p) = some rr)
      (hsim : rr.mRequest = .getSimStatus)
      (hlist : t.mRequestList = s.mRequestList)
      (hreplies : t.replies = s.replies ++ repliesTo rr.mResult ar)
      (hissuing : issuing t = issuing s)

section Issuing

variable {s t : RilState} {e : SessionEvent} (he : e.serial = none)

include he

/-- Nothing becomes pending, and no request leaves the class. -/
theorem Moves.quiet {sent : List Outgoing}
    (hlist : t.mRequestList = s.mRequestList)
    (hnext : s.sNextSerial ≤ t.sNextSerial)
    (hsent : t.outgoing = s.outgoing ++ sent)
    (hforwarded : ∀ rr, Outgoing.request rr ∉ sent)
    (hreplies : t.replies = s.replies) :
    Moves s t e := by
  have hnone : t.mRequestList = s.mRequestList ++ [] := by
    rw [hlist, List.append_nil]
  refine .issues he hnone hnext (by simp) List.nodup_nil hsent ?_ hreplies
  intro rr hmem
  exact absurd hmem (hforwarded rr)

/-- One request with the next serial number becomes pending. -/
theorem Moves.single {rr : RILRequest} {sent : List Outgoing}
    (hserial : rr.mSerial = s.sNextSerial)
    (hlist : t.mRequestList = s.mRequestList ++ [rr])
    (hnext : t.sNextSerial = s.sNextSerial + 1)
    (hsent : t.outgoing = s.outgoing ++ sent)
    (hbuilt : ∀ rr', Outgoing.request rr' ∈ sent → rr' = rr)
    (hreplies : t.replies = s.replies) :
    Moves s t e := by
  refine .issues he hlist (by omega) ?_ (List.nodup_singleton _) hsent ?_
    hreplies
  · intro rr' hmem
    rw [List.mem_singleton.mp hmem]
    omega
  · intro rr' hmem
    exact List.mem_singleton.mpr (hbuilt rr' hmem)

omit he in
theorem eq_of_request_mem_singleton {rr rr' : RILRequest}
    (h : Outgoing.request rr' ∈ [Outgoing.request rr]) : rr' = rr := by
  simpa using h

/-- Two requests with the next serial numbers become pending. -/
theorem Moves.pair {rr rr' : RILRequest}
    (hserial : rr.mSerial = s.sNextSerial)
    (hserial' : rr'.mSerial = s.sNextSerial + 1)
    (hlist : t.mRequestList = s.mRequestList ++ [rr, rr'])
    (hnext : t.sNextSerial = s.sNextSerial + 2)
    (hsent : t.outgoing = s.outgoing ++ [.request rr, .request rr'])
    (hreplies : t.replies = s.replies) :
    Moves s t e := by
  refine .issues he hlist (by omega) ?_ ?_ hsent ?_ hreplies
  · intro x hmem
    rcases List.mem_pair.mp hmem with rfl | rfl
    · omega
    · omega
  · simp only [List.map_cons, List.map_nil, List.nodup_cons,
      List.mem_singleton, List.not_mem_nil, not_false_iff, List.nodup_nil,
      and_true]
    omega
  · intro x hmem
    simpa using hmem

end Issuing

/-! ## Request methods -/

/-- What does not belong to the device is kept by its methods. -/
theorem keeps_onDevice
    {α β : Type} {view : RilState → β}
    (hview : ∀ s d, view { s with device := d } = view s) (x : Ecc.EccM α) :
    Keeps view (onDevice x) :=
  keeps_zoom hview x

/-- Setting the radio power tells callers nothing and leaves the data calls
alone. -/
theorem keeps_setRadioPower (on : Bool) (result : Option Message) :
    Keeps (fun s : RilState => (s.replies, s.dataCallCids))
      (setRadioPower on result) := by
  have hset : ∀ property val,
      Keeps (fun s : RilState => (s.replies, s.dataCallCids))
        (setProperty property val) :=
    fun _ _ => keeps_onDevice (fun _ _ => rfl) _
  have hpower : ∀ val request,
      Keeps (fun s : RilState => (s.replies, s.dataCallCids)) (do
        setProperty .eboot val
        let rr ← obtainRequest request result
        send rr) := by
    intro val request
    refine keeps_bind (hset _ _) fun _ => keeps_bind (fun _ => rfl) ?_
    exact fun _ _ => rfl
  refine keeps_bind keeps_get fun s => keeps_bind (hset _ _) fun _ => ?_
  split_ifs
  · exact hpower _ _
  · exact hpower _ _
  · exact fun _ => rfl

theorem moves_setRadioPower (on : Bool) (result : Option Message)
    (s : RilState) :
    Moves s (stateAfter (setRadioPower on result) s)
      (.request (.setRadioPower on result)) := by
  obtain ⟨t, hrun, hsent, -, hlist, hnext⟩ := setRadioPower_run on result s
  have hreplies := (Prod.mk.inj ((keeps_setRadioPower on result).of_ok hrun)).1
  rw [stateAfter_of_ok hrun]
  cases hdecision : powerDecision on
      (s.device.props .airplaneModeOn == "true".toList)
      (s.airplaneModeOn == 1) with
  | none =>
      rw [powerOutgoing, hdecision] at hsent hlist hnext
      refine .quiet rfl (hlist.trans (List.append_nil _)) ?_ hsent (by simp)
        hreplies
      exact Int.le_of_eq (hnext.trans (Int.add_zero _)).symm
  | some request =>
      rw [powerOutgoing, hdecision] at hsent hlist hnext
      exact .single rfl rfl hlist hnext hsent
        (fun _ => eq_of_request_mem_singleton) hreplies

theorem moves_dial (P : Platform) (address : Option JString) (clirMode : ℤ)
    (uusInfo : Option UUSInfo) (result : Option Message) (s : RilState) :
    Moves s (stateAfter (dial P address clirMode uusInfo result) s)
      (.request (.dial address clirMode uusInfo result)) := by
  obtain ⟨d, hstate | hstate | ⟨c, hstate⟩⟩ :=
    dial_stateAfter clirMode uusInfo result P s address
  · rw [hstate]
    exact .quiet rfl rfl (Int.le_refl _) (List.append_nil _).symm (by simp) rfl
  · rw [hstate]
    exact .quiet rfl rfl (Int.le_refl _) rfl (by simp) rfl
  · rw [hstate]
    refine .pair rfl rfl rfl (List.append_assoc _ _ _) ?_
      (List.append_assoc _ _ _) rfl
    simp only [Int.add_assoc]
    rfl

theorem without_eq_self_of_none {s : RilState} {serial : ℤ}
    (h : pendingRequest s serial = none) :
    without s.mRequestList serial = s.mRequestList := by
  apply List.filter_eq_self.mpr
  intro rr hmem
  have hne := List.find?_eq_none.mp h rr hmem
  simpa using hne

theorem moves_retired (serial : ℤ) (s : RilState) :
    Moves s { s with mRequestList := without s.mRequestList serial }
      (.request (.retired serial)) := by
  cases hrr : pendingRequest s serial with
  | none => exact .ignores rfl (without_eq_self_of_none hrr) rfl rfl
  | some rr => exact .drops rfl hrr rfl rfl rfl

theorem moves_request (P : Platform) (e : RequestEvent) (s : RilState) :
    Moves s (requestStep P s e) (.request e) := by
  cases e with
  | setupDataCall args =>
      exact .single rfl rfl rfl rfl rfl (fun _ => eq_of_request_mem_singleton) rfl
  | deactivateDataCall cid reason result =>
      exact .quiet rfl rfl (Int.le_refl _) rfl (by simp) rfl
  | dial address clirMode uusInfo result =>
      exact moves_dial P address clirMode uusInfo result s
  | setRadioPower on result => exact moves_setRadioPower on result s
  | setInitialAttachApn apn protocol authType username password
      operatorNumber result =>
      exact .single rfl rfl rfl rfl rfl (fun _ => eq_of_request_mem_singleton) rfl
  | superRequest request result =>
      exact .single rfl rfl rfl rfl (List.append_nil _).symm (by simp) rfl
  | retired serial => exact moves_retired serial s
  | environment device airplaneModeOn =>
      exact .quiet rfl rfl (Int.le_refl _) (List.append_nil _).symm (by simp) rfl

/-! ## Responses -/

theorem keeps_issuing_sendToTarget
    (result : Option Message) (ar : AsyncResult) :
    Keeps issuing (sendToTarget result ar) :=
  keeps_modify fun _ => rfl

theorem keeps_issuing_preview (p : Parcel) : Keeps issuing (preview p) := by
  refine keeps_bind keeps_get fun s => ?_
  cases pendingRequest s (serialOf p) with
  | none => exact keeps_pure _
  | some tr =>
      dsimp only
      split_ifs
      · refine keeps_tryCatch ?_ fun thr => ?_
        · rw [previewSwitch]
          split_ifs
          · exact keeps_pure _
          · exact keeps_bind (keeps_onDevice (fun _ _ => rfl) _)
              fun _ => keeps_pure _
          · exact keeps_pure _
        · exact keeps_bind (keeps_issuing_sendToTarget _ _)
            fun _ => keeps_pure _
      · exact keeps_pure _

theorem keeps_issuing_decodeResponse
    (R : StockRil) (request : Request) (p : Parcel) :
    Keeps issuing (decodeResponse R request p) := by
  cases request with
  | dataRegistrationState =>
      simp only [decodeResponse, fixupPSBearerDataRegistration]
      split
      · exact keeps_throw _
      · exact keeps_throw _
      · split
        · exact keeps_throw _
        · exact keeps_pure _
  | setupDataCall =>
      simp only [decodeResponse, fetchCidFromDataCall]
      split
      · exact keeps_throw _
      · refine keeps_bind ?_ fun _ => keeps_pure _
        rw [recordCid]
        split_ifs
        · exact keeps_modify fun _ => rfl
        · exact keeps_pure _
  | allowData => exact fun _ => rfl
  | _ => exact fun _ => rfl

section Responses

variable {R : StockRil} (hR : R.Regular)

include hR

theorem keeps_issuing_processSolicited (p : Parcel) (type : ℤ) :
    Keeps issuing (processSolicited R p type) := by
  refine keeps_bind (keeps_issuing_preview p) fun previewed => ?_
  cases previewed with
  | returned tr => exact keeps_pure _
  | forwarded => exact hR.keeps_process _ _
  | intercepted =>
      refine keeps_bind (hR.keeps_find _) fun found => ?_
      cases found with
      | none => exact keeps_pure _
      | some rr =>
          have hreply : ∀ ret, Keeps issuing (do
              sendToTarget rr.mResult { result := ret, exception := none }
              return some rr) :=
            fun ret => keeps_bind (keeps_issuing_sendToTarget _ _)
              fun _ => keeps_pure _
          dsimp only
          split_ifs
          · exact keeps_bind (keeps_issuing_decodeResponse R _ _) hreply
          · exact keeps_bind (keeps_pure _) hreply

/-- A response with an unknown serial number goes to the superclass. -/
theorem moves_of_unknown {s : RilState} {p : Parcel}
    (hrr : pendingRequest s (serialOf p) = none) (type : ℤ) :
    Moves s (stateAfter (processSolicited R p type) s)
      (.solicited p type) := by
  have hissuing := keeps_issuing_processSolicited hR p type s
  have hpreview : (preview p).run s = .ok .forwarded s := by
    simp [preview, hrr]
  have hstate : stateAfter (processSolicited R p type) s =
      stateAfter (R.processSolicited p type) s := by
    rw [stateAfter, processSolicited_of_forwarded R type hpreview]
    rfl
  obtain ⟨hlist, hreplies⟩ := hR.ignores s p type hrr
  rw [hstate] at hissuing ⊢
  exact .ignores rfl hlist hreplies hissuing

theorem moves_solicited {s : RilState} (hdistinct : SerialsDistinct s)
    (p : Parcel) (type : ℤ) :
    Moves s (stateAfter (processSolicited R p type) s)
      (.solicited p type) := by
  cases hrr : pendingRequest s (serialOf p) with
  | none => exact moves_of_unknown hR hrr type
  | some rr =>
      have hissuing := keeps_issuing_processSolicited hR p type s
      by_cases hforwarded : IsForwarded s p rr
      · obtain ⟨ar, ⟨hlist, hreplies⟩, -⟩ :=
          leaves_of_forwarded type hdistinct hrr hR.answers hforwarded
        exact .settles rfl hrr hlist hreplies hissuing
      · rw [IsForwarded] at hforwarded
        push Not at hforwarded
        obtain ⟨hanswer, hnot⟩ := hforwarded
        cases hkind : rr.mRequest.isIntercepted with
        | false =>
            obtain ⟨hsim, hfits⟩ := hnot hkind
            obtain ⟨thr, hlist, hreplies⟩ :=
              leaves_of_refresh_error (R := R) type hrr hanswer hsim hfits
            exact .renews rfl hrr hsim hlist hreplies hissuing
        | true =>
            by_cases hdecodes : Decodable R rr.mRequest (payloadOf p)
            · obtain ⟨ret, hlist, hreplies⟩ := leaves_of_decodable type
                hdistinct hrr hR.finds hanswer hkind hdecodes
              exact .settles rfl hrr hlist hreplies hissuing
            · obtain ⟨hlist, hreplies⟩ := leaves_of_not_decodable type
                hdistinct hrr hR.finds hanswer hkind hdecodes
              exact .drops rfl hrr hlist
                (hreplies.trans (List.append_nil _)) hissuing

end Responses

/-- A message of the modem issues the request that acknowledges it, if any. -/
theorem moves_react (s : Session) (c : Reaction) {e : SessionEvent}
    (he : e.serial = none) :
    Moves s.toRilState (s.react c).toRilState e := by
  have hlist : (s.react c).mRequestList =
      s.mRequestList ++ c.built s.sNextSerial := rfl
  refine .issues he hlist ?_ ?_ ?_ rfl ?_ rfl
  · simp only [Session.react, Reaction.serials]
    split_ifs
    · omega
    · omega
  · intro rr hmem
    rw [Reaction.built] at hmem
    split at hmem
    next hasked =>
      rw [List.mem_singleton.mp hmem]
      simp only [Session.react, Reaction.serials, hasked]
      exact ⟨Int.le_refl _, Int.lt_succ _⟩
    next => cases hmem
  · rw [Reaction.built]
    split
    · exact List.nodup_singleton _
    · exact List.nodup_nil
  · intro rr hmem
    simpa using hmem

/-- What one step of an instance does to its requests. -/
theorem moves_session
    (P : Platform) {R : SessionRil} (hR : R.Regular) {s : Session}
    (hdistinct : SerialsDistinct s.toRilState) (e : SessionEvent) :
    Moves s.toRilState (sessionStep P R s e).toRilState e := by
  cases e with
  | request e => exact moves_request P e s.toRilState
  | solicited p type => exact moves_solicited hR hdistinct p type
  | unsolicited operatorNumber p type =>
      simp only [sessionStep, stateAfter_processUnsolicited]
      exact moves_react s _ rfl

/-! ## All instances -/

/-- Several instances, with what they share. -/
structure Instances (ι : Type) where
  shared : Shared
  phone : ι → Phone
  listeners : ι → Listeners

section System

variable {ι : Type} [DecidableEq ι]

/-- One instance, in the state in which its methods run. -/
def Instances.enter (d : Instances ι) (i : ι) : Session where
  toShared := d.shared
  toPhone := d.phone i
  toListeners := d.listeners i

/-- All instances, after a method of one of them. -/
def Instances.leave (d : Instances ι) (i : ι) (s : Session) :
    Instances ι where
  shared := s.toShared
  phone := Function.update d.phone i s.toPhone
  listeners := Function.update d.listeners i s.toListeners

def instancesStep (P : Platform) (R : SessionRil) (d : Instances ι)
    (e : ι × SessionEvent) : Instances ι :=
  d.leave e.1 (sessionStep P R (d.enter e.1) e.2)

/-- The instance and the serial number that an event refers to. -/
def reference (e : ι × SessionEvent) : Option (ι × ℤ) :=
  e.2.serial.map fun serial => (e.1, serial)

/-- Instances that have not sent or received anything. -/
structure Instances.Fresh (d : Instances ι) : Prop where
  mRequestList : ∀ i, (d.phone i).mRequestList = []
  outgoing : d.shared.outgoing = []
  replies : d.shared.replies = []

/-- A request that stays pending when it is answered in vain. -/
def staysPending (rr : RILRequest) : Bool :=
  rr.mRequest == .getSimStatus

/-- The replies that a list of answers amounts to. -/
def repliesOf (answers : List (RILRequest × AsyncResult)) :
    List (Message × AsyncResult) :=
  answers.flatMap fun x => repliesTo x.1.mResult x.2

/-- A response with the serial number of the request came to an instance where
it was pending. -/
def Prompted (P : Platform) (R : SessionRil) (d : Instances ι)
    (es : List (ι × SessionEvent)) (rr : RILRequest) : Prop :=
  ∃ before after i p type,
    es = before ++ (i, .solicited p type) :: after ∧
    serialOf p = rr.mSerial ∧
    rr ∈ ((run (instancesStep P R) d before).phone i).mRequestList

/-- The instances follow an account. -/
structure Accounts (P : Platform) (R : SessionRil) (d₀ : Instances ι)
    (es : List (ι × SessionEvent)) (d : Instances ι)
    (L : Ledger ι RILRequest AsyncResult) : Prop where
  sound : L.Sound RILRequest.mSerial staysPending
  state : d = run (instancesStep P R) d₀ es
  next : L.next = d.shared.sNextSerial
  pending : ∀ i, L.pending i = (d.phone i).mRequestList
  replies : d.shared.replies = repliesOf L.answers
  prompted : ∀ x ∈ L.answers, Prompted P R d₀ es x.1

theorem Prompted.concat
    {P : Platform} {R : SessionRil} {d : Instances ι}
    {es : List (ι × SessionEvent)} {rr : RILRequest}
    (h : Prompted P R d es rr) (e : ι × SessionEvent) :
    Prompted P R d (es ++ [e]) rr := by
  obtain ⟨before, after, i, p, type, rfl, hserial, hmem⟩ := h
  exact ⟨before, after ++ [e], i, p, type, by simp, hserial, hmem⟩

/-- The pending requests of all instances after a method of one of them. -/
theorem update_pending
    {d : Instances ι} {pending : ι → List RILRequest}
    (hpending : ∀ j, pending j = (d.phone j).mRequestList)
    (i : ι) (t : Session) (j : ι) :
    Function.update pending i t.mRequestList j =
      ((d.leave i t).phone j).mRequestList := by
  by_cases hj : j = i
  · subst hj
    simp [Instances.leave]
  · simp [Instances.leave, hj, hpending]

theorem keep_pending
    {d : Instances ι} {pending : ι → List RILRequest}
    (hpending : ∀ j, pending j = (d.phone j).mRequestList)
    {i : ι} {t : Session}
    (hlist : t.mRequestList = (d.enter i).mRequestList) (j : ι) :
    pending j = ((d.leave i t).phone j).mRequestList := by
  have hsame : t.mRequestList = pending i := hlist.trans (hpending i).symm
  rw [← update_pending hpending i t j, hsame, Function.update_eq_self]

section Account

variable {P : Platform} {R : SessionRil} {d₀ d : Instances ι}
  {es : List (ι × SessionEvent)} {L : Ledger ι RILRequest AsyncResult}

theorem Accounts.of_fresh (hd : d.Fresh) :
    Accounts P R d [] d (Ledger.start d.shared.sNextSerial) where
  sound := Ledger.sound_start _
  state := rfl
  next := rfl
  pending i := (hd.mRequestList i).symm
  replies := hd.replies
  prompted := by simp [Ledger.start]

variable (h : Accounts P R d₀ es d L)

include h

theorem Accounts.serialsDistinct (i : ι) :
    SerialsDistinct (d.enter i).toRilState := by
  have hnodup := h.sound.pending_nodup i
  rw [h.pending i] at hnodup
  exact hnodup

theorem Accounts.mem_pending {i : ι} {serial : ℤ} {rr : RILRequest}
    (hrr : pendingRequest (d.enter i).toRilState serial = some rr) :
    rr ∈ L.pending i := by
  rw [h.pending i]
  exact mem_of_pendingRequest hrr

theorem Accounts.filter_pending (i : ι) (serial : ℤ) :
    (L.pending i).filter (fun rr => rr.mSerial != serial) =
      without (d.enter i).mRequestList serial := by
  rw [h.pending i]
  rfl

/-- A step of the account that fits a step of the instances. -/
theorem Accounts.follow
    {e : ι × SessionEvent} {L' : Ledger ι RILRequest AsyncResult}
    (hstep :
      Ledger.Step RILRequest.mSerial staysPending L (reference e) L')
    (hnext : L'.next = (instancesStep P R d e).shared.sNextSerial)
    (hpending : ∀ i, L'.pending i =
      ((instancesStep P R d e).phone i).mRequestList)
    (hreplies : (instancesStep P R d e).shared.replies =
      repliesOf L'.answers)
    (hprompted : ∀ x ∈ L'.answers, Prompted P R d₀ (es ++ [e]) x.1) :
    ∃ L', Ledger.Step RILRequest.mSerial staysPending L (reference e) L' ∧
      Accounts P R d₀ (es ++ [e]) (instancesStep P R d e) L' := by
  refine ⟨L', hstep, h.sound.step hstep, ?_, hnext, hpending, hreplies,
    hprompted⟩
  rw [run_concat, ← h.state]

theorem Accounts.follow_issue
    {i : ι} {e : SessionEvent} (hserial : e.serial = none)
    {built : List RILRequest}
    (hlist : (sessionStep P R (d.enter i) e).mRequestList =
      (d.enter i).mRequestList ++ built)
    (hnext : (d.enter i).sNextSerial ≤
      (sessionStep P R (d.enter i) e).sNextSerial)
    (hrange : ∀ rr ∈ built, (d.enter i).sNextSerial ≤ rr.mSerial ∧
      rr.mSerial < (sessionStep P R (d.enter i) e).sNextSerial)
    (hnodup : (built.map RILRequest.mSerial).Nodup)
    (hreplies : (sessionStep P R (d.enter i) e).replies =
      (d.enter i).replies) :
    ∃ L', Ledger.Step RILRequest.mSerial staysPending L (reference (i, e))
        L' ∧
      Accounts P R d₀ (es ++ [(i, e)]) (instancesStep P R d (i, e)) L' := by
  have hpending : L.pending i ++ built =
      (sessionStep P R (d.enter i) e).mRequestList := by
    rw [h.pending i, hlist]
    rfl
  have hlabel : reference (i, e) = none := by
    rw [reference, hserial]
    rfl
  have hstart : L.next = (d.enter i).sNextSerial := h.next
  rw [← hstart] at hnext hrange
  have hstep : Ledger.Step RILRequest.mSerial staysPending L none _ :=
    .issue (i := i) hnext hrange hnodup
  rw [← hlabel] at hstep
  refine h.follow hstep rfl ?_ (hreplies.trans h.replies)
    fun x hx => (h.prompted x hx).concat _
  intro j
  rw [hpending]
  exact update_pending h.pending i _ j

/-- A response that issues nothing. -/
theorem Accounts.follow_response
    {i : ι} {e : SessionEvent} {k : ℤ} (hserial : e.serial = some k)
    (pending : ι → List RILRequest)
    (given : List (RILRequest × AsyncResult))
    (hstep : Ledger.Step RILRequest.mSerial staysPending L (some (i, k))
      { L with pending := pending, answers := L.answers ++ given })
    (hpending : ∀ j, pending j =
      ((instancesStep P R d (i, e)).phone j).mRequestList)
    (hreplies : (sessionStep P R (d.enter i) e).replies =
      (d.enter i).replies ++ repliesOf given)
    (hissuing : issuing (sessionStep P R (d.enter i) e).toRilState =
      issuing (d.enter i).toRilState)
    (hprompted : ∀ x ∈ given, Prompted P R d₀ (es ++ [(i, e)]) x.1) :
    ∃ L', Ledger.Step RILRequest.mSerial staysPending L (reference (i, e))
        L' ∧
      Accounts P R d₀ (es ++ [(i, e)]) (instancesStep P R d (i, e)) L' := by
  have hlabel : reference (i, e) = some (i, k) := by
    rw [reference, hserial]
    rfl
  have hnext := (Prod.mk.inj hissuing).1
  rw [← hlabel] at hstep
  refine h.follow hstep ?_ hpending ?_ ?_
  · exact h.next.trans hnext.symm
  · have hold : (d.enter i).replies = repliesOf L.answers := h.replies
    rw [hold] at hreplies
    exact hreplies.trans List.flatMap_append.symm
  · intro x hx
    rcases List.mem_append.mp hx with hold | hnew
    · exact (h.prompted x hold).concat _
    · exact hprompted x hnew

theorem Accounts.prompted_now
    {i : ι} {p : Parcel} {rr : RILRequest}
    (hrr : pendingRequest (d.enter i).toRilState (serialOf p) = some rr)
    (type : ℤ) :
    Prompted P R d₀ (es ++ [(i, .solicited p type)]) rr := by
  refine ⟨es, [], i, p, type, rfl, (mSerial_of_pendingRequest hrr).symm, ?_⟩
  rw [← h.state]
  exact mem_of_pendingRequest hrr

/-- An event after which the request it refers to is no longer pending. -/
theorem Accounts.follow_settle
    {i : ι} {e : SessionEvent} {k : ℤ} (hserial : e.serial = some k)
    {rr : RILRequest}
    (hrr : pendingRequest (d.enter i).toRilState k = some rr)
    (hlist : (sessionStep P R (d.enter i) e).mRequestList =
      without (d.enter i).mRequestList k)
    {given : List (RILRequest × AsyncResult)}
    (hgiven : given = [] ∨ ∃ ar, given = [(rr, ar)])
    (hreplies : (sessionStep P R (d.enter i) e).replies =
      (d.enter i).replies ++ repliesOf given)
    (hissuing : issuing (sessionStep P R (d.enter i) e).toRilState =
      issuing (d.enter i).toRilState)
    (hprompted : ∀ x ∈ given, Prompted P R d₀ (es ++ [(i, e)]) x.1) :
    ∃ L', Ledger.Step RILRequest.mSerial staysPending L (reference (i, e))
        L' ∧
      Accounts P R d₀ (es ++ [(i, e)]) (instancesStep P R d (i, e)) L' := by
  have hk := mSerial_of_pendingRequest hrr
  have hstep : Ledger.Step RILRequest.mSerial staysPending L
      (some (i, rr.mSerial)) _ :=
    .settle (h.mem_pending hrr) hgiven
  rw [hk, h.filter_pending i k, ← hlist] at hstep
  exact h.follow_response hserial _ given hstep (update_pending h.pending i _)
    hreplies hissuing hprompted

/-- Every step of the instances is a step of the account. -/
theorem Accounts.step (hR : R.Regular) (e : ι × SessionEvent) :
    ∃ L', Ledger.Step RILRequest.mSerial staysPending L (reference e) L' ∧
      Accounts P R d₀ (es ++ [e]) (instancesStep P R d e) L' := by
  obtain ⟨i, e⟩ := e
  cases moves_session P hR (h.serialsDistinct i) e with
  | issues hserial hlist hnext hrange hnodup hsent hbuilt hreplies =>
      exact h.follow_issue hserial hlist hnext hrange hnodup hreplies
  | ignores hserial hlist hreplies hissuing =>
      refine h.follow_response hserial L.pending [] ?_
        (keep_pending h.pending hlist) ?_ hissuing (by simp)
      · rw [List.append_nil]
        exact .ignore
      · exact hreplies.trans (List.append_nil _).symm
  | drops hserial hrr hlist hreplies hissuing =>
      exact h.follow_settle hserial hrr hlist (Or.inl rfl)
        (hreplies.trans (List.append_nil _).symm) hissuing (by simp)
  | @settles p type rr ar hresponse hrr hlist hreplies hissuing =>
      subst hresponse
      refine h.follow_settle rfl hrr hlist (Or.inr ⟨ar, rfl⟩) ?_ hissuing ?_
      · rw [hreplies, repliesOf, List.flatMap_singleton]
      · rw [List.forall_mem_singleton]
        exact h.prompted_now hrr type
  | @renews p type rr ar hresponse hrr hsim hlist hreplies hissuing =>
      subst hresponse
      have hk := mSerial_of_pendingRequest hrr
      refine h.follow_response rfl L.pending [(rr, ar)] ?_
        (keep_pending h.pending hlist) ?_ hissuing ?_
      · rw [← hk]
        exact .renew (h.mem_pending hrr) (beq_iff_eq.mpr hsim)
      · rw [hreplies, repliesOf, List.flatMap_singleton]
      · rw [List.forall_mem_singleton]
        exact h.prompted_now hrr type

/-- The account follows from any state on. -/
theorem Accounts.run_from (hR : R.Regular) (after : List (ι × SessionEvent)) :
    ∃ L' : Ledger ι RILRequest AsyncResult,
      Path (Ledger.Step RILRequest.mSerial staysPending) L
        (after.map reference) L' ∧
      Accounts P R d₀ (es ++ after) (run (instancesStep P R) d after) L' := by
  apply run_followed (I := fun after d L => Accounts P R d₀ (es ++ after) d L)
  · rw [List.append_nil]
    exact h
  · intro after t L e h
    rw [← List.append_assoc]
    exact h.step hR e

end Account

/-! ## Runs -/

section Runs

variable (P : Platform) {R : SessionRil} (hR : R.Regular) {d : Instances ι}
  (hd : d.Fresh) (es : List (ι × SessionEvent))

include hR hd

/-- Every run of the instances is followed by a run of the account. -/
theorem accounts_run :
    ∃ L : Ledger ι RILRequest AsyncResult,
      Path (Ledger.Step RILRequest.mSerial staysPending)
        (Ledger.start d.shared.sNextSerial) (es.map reference) L ∧
      Accounts P R d es (run (instancesStep P R) d es) L := by
  exact (Accounts.of_fresh hd).run_from hR es

theorem serialsDistinct_run (i : ι) :
    SerialsDistinct ((run (instancesStep P R) d es).enter i).toRilState := by
  obtain ⟨L, -, h⟩ := accounts_run P hR hd es
  exact h.serialsDistinct i

end Runs

end System

/-! ## Two idle instances -/

/-- `plainRil`, with unsolicited messages that decode to nothing. -/
def plainSession : SessionRil where
  toStockRil := plainRil
  responseStrings _ := .ok (some [])
  responseInts _ := .ok []
  newIntArray _ := .ok ()

theorem plainSession_regular : plainSession.Regular where
  finds := plainRil_findsAndRemoves
  answers := plainRil_answers fun _ _ => trivial
  ignores := by
    intro s p type hrr
    have hrun := plainFindAndRemove_run (serialOf p) s
    rw [hrr, without_eq_self_of_none hrr] at hrun
    have hprocess : (plainSession.processSolicited p type).run s =
        .ok none s := by
      simp only [plainSession, plainRil, run_bind_of_ok hrun]
      rfl
    rw [stateAfter_of_ok hprocess]
    exact ⟨rfl, rfl⟩
  keeps_find _ _ := rfl
  keeps_process p type := by
    refine keeps_bind (fun _ => rfl) fun found => ?_
    cases found with
    | none => exact keeps_pure _
    | some rr =>
        exact keeps_bind (keeps_issuing_sendToTarget _ _) fun _ => keeps_pure _

def idleInstances : Instances (Fin 2) where
  shared := idleState.toShared
  phone _ := idleState.toPhone
  listeners _ :=
    { callStateNotifications := 0
      ussdRegistrant := true
      ussd := []
      forwarded := [] }

theorem idleInstances_fresh : idleInstances.Fresh where
  mRequestList _ := rfl
  outgoing := rfl
  replies := rfl

def firstPhone : Fin 2 := 0

def secondPhone : Fin 2 := 1

end SmartSurf.Ril
