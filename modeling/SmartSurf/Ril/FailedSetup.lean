import SmartSurf.Ril.Answering

/-!
# Failed data call setups

The class records the identifier of a data call whenever it decodes a response
to `SETUP_DATA_CALL`, and looks neither at the error code of the response nor
at the status inside.  A failed setup therefore takes a slot of the table if
its response carries an identifier.
-/

namespace SmartSurf.Ril

open Support

/-- The response reports a failure, by its error code or by its status. -/
def FailedSetup (R : StockRil) (p : Parcel) : Prop :=
  errorOf p ≠ 0 ∨
    ∃ ret, R.responseSetupDataCall (payloadOf p) = .ok ret ∧ ret.status ≠ 0

/-- A failed setup leaves the table of identifiers alone. -/
def FailureKeepsCids (R : StockRil) (s : RilState) (p : Parcel) (type : ℤ) :
    Prop :=
  FailedSetup R p →
    (stateAfter (processSolicited R p type) s).dataCallCids = s.dataCallCids

/-- The response carries an identifier and there is a slot for it. -/
def StoresCid (R : StockRil) (s : RilState) (p : Parcel) : Prop :=
  hasAnswer p = true ∧
    (∃ ret, R.responseSetupDataCall (payloadOf p) = .ok ret ∧ 0 ≤ ret.cid) ∧
    firstFreeSlot s.dataCallCids ≠ none

/-- The table is a private field of the subclass. -/
def StockRil.KeepsCids (R : StockRil) : Prop :=
  ∀ s p type,
    (stateAfter (R.processSolicited p type) s).dataCallCids = s.dataCallCids

/-! ## The table after a response -/

section

variable {R : StockRil} {s : RilState} {p : Parcel} (type : ℤ)
  {tr : RILRequest} (hdistinct : SerialsDistinct s)
  (htr : pendingRequest s (serialOf p) = some tr)
  (hkind : tr.mRequest = .setupDataCall)

include htr

theorem dataCallCids_of_no_answer
    (hkeeps : R.KeepsCids) (hanswer : hasAnswer p = false) :
    (stateAfter (processSolicited R p type) s).dataCallCids =
      s.dataCallCids := by
  have hforwarded := processSolicited_of_forwarded R type
    (preview_of_no_answer htr hanswer)
  rw [stateAfter, hforwarded]
  exact hkeeps s p type

include hdistinct hkind

/-- A response that cannot be decoded ends with an exception before the table
is reached. -/
theorem dataCallCids_of_error
    (hfind : R.FindsAndRemoves) (hanswer : hasAnswer p = true)
    {thr : Throwable}
    (hdecode : R.responseSetupDataCall (payloadOf p) = .error thr) :
    (stateAfter (processSolicited R p type) s).dataCallCids =
      s.dataCallCids := by
  have hrun := processSolicited_run_of_intercepted type hdistinct htr hfind
    hanswer (by rw [hkind]; rfl)
  rw [hkind] at hrun
  simp only [decodeResponse, fetchCidFromDataCall, hdecode] at hrun
  rw [stateAfter, hrun]
  rfl

/-- A decoded response fills the first free slot, whatever its error code and
its status. -/
theorem dataCallCids_of_decoded
    (hfind : R.FindsAndRemoves) (hanswer : hasAnswer p = true)
    {ret : DataCallResponse}
    (hdecode : R.responseSetupDataCall (payloadOf p) = .ok ret) :
    (stateAfter (processSolicited R p type) s).dataCallCids =
      if 0 ≤ ret.cid then fillFirst slots isFree s.dataCallCids ret.cid
      else s.dataCallCids := by
  have hrun := processSolicited_run_of_intercepted type hdistinct htr hfind
    hanswer (by rw [hkind]; rfl)
  rw [hkind] at hrun
  simp only [decodeResponse, fetchCidFromDataCall, hdecode] at hrun
  rw [stateAfter, hrun]
  by_cases hcid : 0 ≤ ret.cid
  · rw [if_pos hcid, EStateM.run_bind, run_bind_of_ok
      (recordCid_run_of_nonneg hcid _)]
    rfl
  · rw [if_neg hcid, EStateM.run_bind, run_bind_of_ok
      (recordCid_run_of_neg (by omega) _)]
    rfl

theorem dataCallCids_unchanged_iff
    (hfind : R.FindsAndRemoves) (hkeeps : R.KeepsCids) :
    (stateAfter (processSolicited R p type) s).dataCallCids =
        s.dataCallCids ↔
      ¬StoresCid R s p := by
  by_cases hanswer : hasAnswer p = true
  · rcases hdecode : R.responseSetupDataCall (payloadOf p) with thr | ret
    · refine iff_of_true (dataCallCids_of_error type hdistinct htr hkind hfind
        hanswer hdecode) ?_
      rintro ⟨_, ⟨ret, hret, _⟩, _⟩
      rw [hdecode] at hret
      cases hret
    · rw [dataCallCids_of_decoded type hdistinct htr hkind hfind hanswer
        hdecode]
      by_cases hcid : 0 ≤ ret.cid
      · rw [if_pos hcid, fillFirst_eq_self_iff (isFree_eq_false hcid)]
        simp [StoresCid, hanswer, hdecode, hcid, firstFreeSlot]
      · simp [StoresCid, hdecode, hcid]
  · refine iff_of_true (dataCallCids_of_no_answer type htr hkeeps
      (Bool.eq_false_iff.mpr hanswer)) ?_
    rintro ⟨hanswered, _⟩
    exact hanswer hanswered

end

/-! ## Failed setups -/

/-- A failed setup leaves the table alone unless its response carries an
identifier and a slot is free. -/
theorem failureKeepsCids_iff
    {R : StockRil} {s : RilState} {p : Parcel} {tr : RILRequest}
    (hfind : R.FindsAndRemoves) (hkeeps : R.KeepsCids)
    (hdistinct : SerialsDistinct s)
    (htr : pendingRequest s (serialOf p) = some tr)
    (hkind : tr.mRequest = .setupDataCall) (type : ℤ) :
    FailureKeepsCids R s p type ↔ ¬(FailedSetup R p ∧ StoresCid R s p) := by
  rw [FailureKeepsCids,
    dataCallCids_unchanged_iff type hdistinct htr hkind hfind hkeeps, not_and]

/-- The superclass with its decoder of the responses of version 5 and later:
one call, of which the status, the retry time and the identifier come first. -/
def decodingRil : StockRil :=
  { plainRil with
    responseSetupDataCall := fun p =>
      let (_, p) := p.readInt
      let (num, p) := p.readInt
      let (status, p) := p.readInt
      let (_, p) := p.readInt
      let (cid, _) := p.readInt
      if num ≠ 1 then .error (.numberFormat [])
      else .ok { status := status, cid := cid } }

theorem decodingRil_findsAndRemoves : decodingRil.FindsAndRemoves :=
  plainRil_findsAndRemoves

theorem decodingRil_keepsCids : decodingRil.KeepsCids := by
  intro s p type
  have hremove := plainFindAndRemove_run (serialOf p) s
  simp only [decodingRil, plainRil, stateAfter, run_bind_of_ok hremove]
  cases pendingRequest s (serialOf p) <;> rfl

/-- The payload of a response with one call. -/
def setupPayload (status cid : UInt8) : List UInt8 :=
  [6, 0, 0, 0, 1, 0, 0, 0, status, 0, 0, 0, 0, 0, 0, 0, cid, 0, 0, 0]

theorem failureKeepsCids_of_no_payload :
    FailedSetup decodingRil (response 1 2 []) ∧
      FailureKeepsCids decodingRil (stateAwaiting .setupDataCall [])
        (response 1 2 []) 0 := by
  have htr : pendingRequest (stateAwaiting .setupDataCall [])
      (serialOf (response 1 2 [])) = some (awaiting .setupDataCall) := by
    decide
  refine ⟨Or.inl (by decide), ?_⟩
  refine (failureKeepsCids_iff decodingRil_findsAndRemoves
    decodingRil_keepsCids (by decide) htr rfl 0).mpr ?_
  rintro ⟨_, hanswer, _⟩
  revert hanswer
  decide

/-- A response with status 33 and identifier 5, and one with error code 2,
each take the first slot. -/
theorem not_failureKeepsCids :
    ¬FailureKeepsCids decodingRil (stateAwaiting .setupDataCall [])
        (response 1 0 (setupPayload 33 5)) 0 ∧
      ¬FailureKeepsCids decodingRil (stateAwaiting .setupDataCall [])
        (response 1 2 (setupPayload 0 5)) 0 := by
  constructor
  · intro hkeeps
    have hsame := hkeeps (Or.inr ⟨{ status := 33, cid := 5 }, by decide,
      by decide⟩)
    exact absurd (congrFun hsame 0) (by decide)
  · intro hkeeps
    have hsame := hkeeps (Or.inl (by decide))
    exact absurd (congrFun hsame 0) (by decide)

end SmartSurf.Ril
