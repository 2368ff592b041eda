import SmartSurf.Ril.Answering
import SmartSurf.Ril.Dial
import SmartSurf.Ril.RadioPower
import SmartSurf.Support.Run

/-!
# Requests issued for callers

The request methods of `MT6735` build four kinds of requests with the result
message of a caller.  Along every run of these methods, interleaved with
requests of the superclass, with responses and with changes of the device, a
well-formed answer without an error lets such a request succeed exactly if it
is not one of the two modem power requests: these are vendor requests, which
the superclass gets to answer and does not know.
-/

namespace SmartSurf.Ril

open Support

/-- `MT6735.setInitialAttachApn`; the message of the caller is not used. -/
def setInitialAttachApn (apn protocol : Option JString) (authType : ℤ)
    (username password operatorNumber : Option JString)
    (_result : Option Message) : RilM Unit := do
  let rr ← obtainRequest .setInitialAttachApn none
  send { rr with
    mParcel :=
      [.string apn, .string protocol, .int authType, .string username,
        .string password, .string operatorNumber, .int 1,
        .stringArray none] }

/-- A request built and sent by the superclass. -/
def superRequest (request : Request) (result : Option Message) :
    RilM Unit := do
  let rr ← obtainRequest request result
  modify fun s => { s with mRequestList := s.mRequestList ++ [rr] }

/-- One step of a run: a request method, a request of the superclass, the
retirement of an answered request, or a change of the device. -/
inductive RequestEvent where
  | setupDataCall (args : SetupArgs)
  | deactivateDataCall (cid reason : ℤ) (result : Option Message)
  | dial (address : Option JString) (clirMode : ℤ)
      (uusInfo : Option UUSInfo) (result : Option Message)
  | setRadioPower (on : Bool) (result : Option Message)
  | setInitialAttachApn (apn protocol : Option JString) (authType : ℤ)
      (username password operatorNumber : Option JString)
      (result : Option Message)
  | superRequest (request : Request) (result : Option Message)
  | retired (serial : ℤ)
  | environment (device : Ecc.Device) (airplaneModeOn : ℤ)

def requestStep (P : Platform) (s : RilState) : RequestEvent → RilState
  | .setupDataCall args => stateAfter args.setupDataCall s
  | .deactivateDataCall cid reason result =>
      stateAfter (deactivateDataCall cid reason result) s
  | .dial address clirMode uusInfo result =>
      stateAfter (dial P address clirMode uusInfo result) s
  | .setRadioPower on result => stateAfter (setRadioPower on result) s
  | .setInitialAttachApn apn protocol authType username password
      operatorNumber result =>
      stateAfter (setInitialAttachApn apn protocol authType username password
        operatorNumber result) s
  | .superRequest request result => stateAfter (superRequest request result) s
  | .retired serial =>
      { s with mRequestList := without s.mRequestList serial }
  | .environment device airplaneModeOn =>
      { s with device := device, airplaneModeOn := airplaneModeOn }

/-- The kinds of requests that are built with the message of a caller. -/
def ForCallers (request : Request) : Prop :=
  request = .setupDataCall ∨ request = .emergencyDial ∨
    request = .modemPoweron ∨ request = .modemPoweroff

/-! ## What a run preserves -/

/-- The serial numbers of pending requests are distinct and have been handed
out, and requests sent with a message are of the four kinds. -/
structure Issued (s : RilState) : Prop where
  serialsDistinct : SerialsDistinct s
  serialsUsed : ∀ rr ∈ s.mRequestList, rr.mSerial < s.sNextSerial
  forCallers : ∀ rr, Outgoing.request rr ∈ s.outgoing →
    rr.mResult ≠ none → ForCallers rr.mRequest

section Preservation

variable {s t : RilState} (h : Issued s)

include h

/-- A new request with the next serial number becomes pending. -/
theorem Issued.add {rr : RILRequest} {sent : List Outgoing}
    (hserial : rr.mSerial = s.sNextSerial)
    (hlist : t.mRequestList = s.mRequestList ++ [rr])
    (hnext : t.sNextSerial = s.sNextSerial + 1)
    (hsent : t.outgoing = s.outgoing ++ sent)
    (hkind : ∀ rr', Outgoing.request rr' ∈ sent → rr'.mResult ≠ none →
      ForCallers rr'.mRequest) :
    Issued t where
  serialsDistinct := by
    rw [SerialsDistinct, hlist, List.map_append, List.nodup_append]
    refine ⟨h.serialsDistinct, List.nodup_singleton _, ?_⟩
    intro serial hold serial' hnew
    obtain ⟨old, hmem, rfl⟩ := List.mem_map.mp hold
    rw [List.map_singleton, List.mem_singleton] at hnew
    have hused := h.serialsUsed old hmem
    omega
  serialsUsed := by
    rw [hlist, hnext]
    intro rr' hmem
    rcases List.mem_append.mp hmem with hold | hnew
    · have hused := h.serialsUsed rr' hold
      omega
    · rw [List.mem_singleton.mp hnew]
      omega
  forCallers := by
    rw [hsent]
    intro rr' hmem hresult
    rcases List.mem_append.mp hmem with hold | hnew
    · exact h.forCallers rr' hold hresult
    · exact hkind rr' hnew hresult

/-- Nothing becomes pending, and nothing but forwarded calls leaves the
class. -/
theorem Issued.keep {sent : List Outgoing}
    (hlist : t.mRequestList.Sublist s.mRequestList)
    (hnext : t.sNextSerial = s.sNextSerial)
    (hsent : t.outgoing = s.outgoing ++ sent)
    (hforwarded : ∀ o ∈ sent, o.requests = []) :
    Issued t where
  serialsDistinct := h.serialsDistinct.sublist (hlist.map _)
  serialsUsed := by
    rw [hnext]
    intro rr hmem
    exact h.serialsUsed rr (hlist.subset hmem)
  forCallers := by
    rw [hsent]
    intro rr hmem hresult
    rcases List.mem_append.mp hmem with hold | hnew
    · exact h.forCallers rr hold hresult
    · cases hforwarded _ hnew

end Preservation

/-- What is to be shown of a request when it is sent. -/
theorem forCallers_of_mem_singleton {rr : RILRequest}
    (h : rr.mResult ≠ none → ForCallers rr.mRequest) :
    ∀ rr', Outgoing.request rr' ∈ [Outgoing.request rr] →
      rr'.mResult ≠ none → ForCallers rr'.mRequest := by
  intro rr' hmem hresult
  rw [List.mem_singleton] at hmem
  injection hmem with heq
  subst heq
  exact h hresult

section Steps

variable {s : RilState} (h : Issued s)

include h

theorem Issued.setupDataCall (args : SetupArgs) :
    Issued (stateAfter args.setupDataCall s) := by
  obtain ⟨rr, t, hrun, hsent, hlist, hnext, -, hserial, hkind, -, -⟩ :=
    setupDataCall_run args s
  rw [stateAfter_of_ok hrun]
  refine h.add hserial hlist hnext hsent (forCallers_of_mem_singleton ?_)
  intro _
  exact Or.inl hkind

theorem Issued.dial (P : Platform) (address : Option JString) (clirMode : ℤ)
    (uusInfo : Option UUSInfo) (result : Option Message) :
    Issued (stateAfter (dial P address clirMode uusInfo result) s) := by
  obtain ⟨d, hstate | hstate | ⟨c, hstate⟩⟩ :=
    dial_stateAfter clirMode uusInfo result P s address
  · rw [hstate]
    exact h.keep (List.Sublist.refl _) rfl (List.append_nil _).symm (by simp)
  · rw [hstate]
    exact h.keep (List.Sublist.refl _) rfl rfl
      (List.forall_mem_singleton.mpr rfl)
  · rw [hstate]
    have hfirst : Issued { s with
        sNextSerial := s.sNextSerial + 1
        mRequestList := s.mRequestList ++ [categoryRequest s.sNextSerial c]
        outgoing := s.outgoing ++
          [.request (categoryRequest s.sNextSerial c)] } := by
      refine h.add rfl rfl rfl rfl (forCallers_of_mem_singleton ?_)
      intro hresult
      exact absurd rfl hresult
    refine hfirst.add rfl rfl rfl rfl (forCallers_of_mem_singleton ?_)
    intro _
    exact Or.inr (Or.inl rfl)

theorem Issued.setRadioPower (on : Bool) (result : Option Message) :
    Issued (stateAfter (setRadioPower on result) s) := by
  obtain ⟨t, hrun, hsent, -, hlist, hnext⟩ := setRadioPower_run on result s
  rw [stateAfter_of_ok hrun]
  cases hdecision : powerDecision on
      (s.device.props .airplaneModeOn == "true".toList)
      (s.airplaneModeOn == 1) with
  | none =>
      have hout : powerOutgoing s on result =
          .superSetRadioPower on result := by
        rw [powerOutgoing, hdecision]
      rw [hout] at hsent hlist hnext
      have hsame : t.mRequestList = s.mRequestList :=
        hlist.trans (List.append_nil _)
      have hcount : t.sNextSerial = s.sNextSerial :=
        hnext.trans (Int.add_zero _)
      refine h.keep ?_ hcount hsent (List.forall_mem_singleton.mpr rfl)
      rw [hsame]
  | some request =>
      have hout : powerOutgoing s on result =
          .request { mSerial := s.sNextSerial
                     mRequest := request
                     mResult := result } := by
        rw [powerOutgoing, hdecision]
      rw [hout] at hsent hlist hnext
      refine h.add rfl hlist hnext hsent (forCallers_of_mem_singleton ?_)
      intro _
      rcases powerDecision_modemPower _ _ _ request hdecision with hon | hoff
      · exact Or.inr (Or.inr (Or.inl hon))
      · exact Or.inr (Or.inr (Or.inr hoff))

theorem Issued.step (P : Platform) (e : RequestEvent) :
    Issued (requestStep P s e) := by
  cases e with
  | setupDataCall args => exact h.setupDataCall args
  | deactivateDataCall cid reason result =>
      exact h.keep (List.Sublist.refl _) rfl rfl
        (List.forall_mem_singleton.mpr rfl)
  | dial address clirMode uusInfo result =>
      exact h.dial P address clirMode uusInfo result
  | setRadioPower on result => exact h.setRadioPower on result
  | setInitialAttachApn apn protocol authType username password
      operatorNumber result =>
      refine h.add rfl rfl rfl rfl (forCallers_of_mem_singleton ?_)
      intro hresult
      exact absurd rfl hresult
  | superRequest request result =>
      exact h.add rfl rfl rfl (List.append_nil _).symm (by simp)
  | retired serial =>
      exact h.keep List.filter_sublist rfl (List.append_nil _).symm (by simp)
  | environment device airplaneModeOn =>
      exact h.keep (List.Sublist.refl _) rfl (List.append_nil _).symm (by simp)

end Steps

/-- An instance that has not sent anything. -/
def Fresh (s : RilState) : Prop :=
  s.mRequestList = [] ∧ s.outgoing = []

theorem Issued.of_fresh {s : RilState} (h : Fresh s) : Issued s where
  serialsDistinct := by
    rw [SerialsDistinct, h.1]
    exact List.nodup_nil
  serialsUsed := by
    rw [h.1]
    simp
  forCallers := by
    rw [h.2]
    simp

theorem Issued.run {s : RilState} (h : Issued s) (P : Platform)
    (es : List RequestEvent) : Issued (run (requestStep P) s es) := by
  apply run_history_invariant (requestStep P) s (I := fun _ t => Issued t)
  · exact h
  · intro _ t e ht
    exact ht.step P e

/-- With distinct serial numbers, a request in the list is found. -/
theorem pendingRequest_of_mem
    {s : RilState} (hdistinct : SerialsDistinct s) {rr : RILRequest}
    (hmem : rr ∈ s.mRequestList) :
    pendingRequest s rr.mSerial = some rr := by
  cases hfind : pendingRequest s rr.mSerial with
  | none =>
      have hnot := List.find?_eq_none.mp hfind rr hmem
      simp at hnot
  | some found =>
      have hserial := mSerial_of_pendingRequest hfind
      have heq := List.inj_on_of_nodup_map hdistinct
        (mem_of_pendingRequest hfind) hmem hserial
      rw [heq]

/-! ## Which requests can succeed -/

/-- A request number the superclass does not know is answered with an
exception. -/
def VendorRaises (rr : RILRequest) (_ : ℤ) (ar : AsyncResult) : Prop :=
  rr.mRequest.IsVendor → ar.exception ≠ none

/-- A vendor request that the class does not answer itself fails. -/
theorem not_reportedSuccess_of_vendor
    {R : StockRil} (hsuper : R.Answers VendorRaises)
    {s : RilState} (hdistinct : SerialsDistinct s) {p : Parcel}
    {rr : RILRequest} (hrr : pendingRequest s (serialOf p) = some rr)
    {message : Message} (hresult : rr.mResult = some message)
    (hvendor : rr.mRequest.IsVendor)
    (hkind : rr.mRequest.isIntercepted = false) (type : ℤ) :
    ¬ReportedSuccess R s p type message := by
  have hforwarded : IsForwarded s p rr := by
    intro _
    refine ⟨hkind, ?_⟩
    intro hsim
    rw [hsim] at hvendor
    exact absurd hvendor (by decide)
  obtain ⟨ar, hleaves, hraises⟩ :=
    leaves_of_forwarded type hdistinct hrr hsuper hforwarded
  apply not_reportedSuccess_of_reportedFailure
  exact ⟨ar, hleaves.reply hresult, hraises hvendor⟩

/-- In every run, a well-formed answer without an error lets a pending request
that the class built for a caller succeed if and only if it is not a modem
power request. -/
theorem callerRequest_succeeds_iff
    (P : Platform) {R : StockRil} (hfind : R.FindsAndRemoves)
    (hsuper : R.Answers VendorRaises)
    {s : RilState} (hs : Fresh s) (es : List RequestEvent)
    {rr : RILRequest}
    (hpending : rr ∈ (run (requestStep P) s es).mRequestList)
    (hbuilt : Outgoing.request rr ∈ (run (requestStep P) s es).outgoing)
    {message : Message} (hresult : rr.mResult = some message)
    {p : Parcel} (hserial : serialOf p = rr.mSerial)
    (herror : errorOf p = 0)
    (hpayload : Decodable R rr.mRequest (payloadOf p)) (type : ℤ) :
    ReportedSuccess R (run (requestStep P) s es) p type message ↔
      rr.mRequest ≠ .modemPoweron ∧ rr.mRequest ≠ .modemPoweroff := by
  have hissued := (Issued.of_fresh hs).run P es
  have hdistinct := hissued.serialsDistinct
  have hrr := pendingRequest_of_mem hdistinct hpending
  rw [← hserial] at hrr
  have hanswer : hasAnswer p = true := by
    simp [hasAnswer, herror]
  have hcaller : rr.mResult ≠ none := by
    rw [hresult]
    exact Option.some_ne_none message
  rcases hissued.forCallers rr hbuilt hcaller with
    hkind | hkind | hkind | hkind
  · refine iff_of_true ?_ (by simp [hkind])
    exact reportedSuccess_of_decodable hdistinct hrr hresult hfind hanswer
      (by rw [hkind]; rfl) hpayload
  · refine iff_of_true ?_ (by simp [hkind])
    exact reportedSuccess_of_decodable hdistinct hrr hresult hfind hanswer
      (by rw [hkind]; rfl) hpayload
  · refine iff_of_false ?_ (by simp [hkind])
    exact not_reportedSuccess_of_vendor hsuper hdistinct hrr hresult
      (by rw [hkind]; decide) (by rw [hkind]; rfl) type
  · refine iff_of_false ?_ (by simp [hkind])
    exact not_reportedSuccess_of_vendor hsuper hdistinct hrr hresult
      (by rw [hkind]; decide) (by rw [hkind]; rfl) type

theorem plainRil_vendorRaises : plainRil.Answers VendorRaises := by
  apply plainRil_answers
  intro rr error hvendor
  simp [plainReply, hvendor]

/-- A run in which the number 112 is dialled in airplane mode, on a device
whose network list knows it. -/
def emergencyRun : List RequestEvent :=
  [.environment
      { idleState.device with
        props := fun property =>
          if property = .eccServiceCategoryList then "112,1".toList else [] }
      1,
    .dial (some "112".toList) 0 none (some { id := 7 })]

theorem emergencyDial_succeeds :
    ReportedSuccess plainRil
      (run (requestStep plainPlatform) idleState emergencyRun)
      (response 1 0 []) 0 { id := 7 } :=
  have hpending : emergencyDialRequest 1 (some "112".toList) 0 none
      (some { id := 7 }) ∈
        (run (requestStep plainPlatform) idleState emergencyRun).mRequestList := by
    decide
  (callerRequest_succeeds_iff plainPlatform plainRil_findsAndRemoves
    plainRil_vendorRaises ⟨rfl, rfl⟩ emergencyRun hpending (by decide) rfl
    (by decide) (by decide) trivial 0).mpr (by decide)

/-- The modem is powered off in airplane mode and answers without an error, and
the caller gets an exception. -/
theorem modemPoweroff_fails :
    Outgoing.request (awaiting .modemPoweroff) ∈
        (run (requestStep plainPlatform) idleState
          [.environment idleState.device 1,
            .superRequest .getSimStatus none,
            .setRadioPower false (some { id := 0 })]).outgoing ∧
      ¬ReportedSuccess plainRil
        (run (requestStep plainPlatform) idleState
          [.environment idleState.device 1,
            .superRequest .getSimStatus none,
            .setRadioPower false (some { id := 0 })])
        (response 1 0 []) 0 { id := 0 } := by
  refine ⟨by decide, ?_⟩
  have hrr : pendingRequest
      (run (requestStep plainPlatform) idleState
        [.environment idleState.device 1,
          .superRequest .getSimStatus none,
          .setRadioPower false (some { id := 0 })])
      (serialOf (response 1 0 [])) = some (awaiting .modemPoweroff) := by
    decide
  exact not_reportedSuccess_of_vendor plainRil_vendorRaises (by decide) hrr
    rfl (by decide) rfl 0

end SmartSurf.Ril
