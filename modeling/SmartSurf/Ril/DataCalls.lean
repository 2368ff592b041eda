import SmartSurf.Ril.State
import SmartSurf.Support.Run
import SmartSurf.Support.SlotTable

/-!
# The table of data call identifiers

`MT6735` keeps the identifiers of running data calls in the first four
elements of `dataCallCids`.  Setting up a call takes the number of the first
free slot as the interface of the call; the slot itself is taken when the
response arrives, and released when the call is deactivated.
-/

namespace SmartSurf.Ril

open Support

/-- The indices of the loops `for (int i = 0; i < 4; i++)`. -/
def slots : List (Fin 5) := [0, 1, 2, 3]

/-- `dataCallCids[i] < 0`. -/
def isFree (cid : ℤ) : Bool := cid < 0

def firstFreeSlot (t : Cids) : Option (Fin 5) :=
  firstSlot slots isFree t

/-- The first available interface number, or zero if there is none. -/
def availableInterfaceId (t : Cids) : ℕ :=
  match firstFreeSlot t with
  | some i => i.val + 1
  | none => 0

/-- `Integer.toString`. -/
def intToString (n : ℤ) : JString := (toString n).toList

/-- `MT6735.setupDataCall`; the sum is the 32-bit one of Java. -/
def setupDataCall (radioTechnology profile : ℤ)
    (apn user password : Option JString) (authType : ℤ)
    (protocol : Option JString) (result : Option Message) : RilM Unit := do
  let rr ← obtainRequest .setupDataCall result
  let s ← get
  let interfaceId := availableInterfaceId s.dataCallCids
  send { rr with
    mParcel :=
      [.int 8,
        .string (intToString ((radioTechnology + 2).bmod 0x100000000)),
        .string (intToString profile),
        .string apn,
        .string user,
        .string password,
        .string (intToString authType),
        .string protocol,
        .string (intToString interfaceId)] }

/-- The arguments of a call of `setupDataCall`. -/
structure SetupArgs where
  radioTechnology : ℤ
  profile : ℤ
  apn : Option JString := none
  user : Option JString := none
  password : Option JString := none
  authType : ℤ := 0
  protocol : Option JString := none
  result : Option Message := none
  deriving DecidableEq, Repr

def SetupArgs.setupDataCall (args : SetupArgs) : RilM Unit :=
  Ril.setupDataCall args.radioTechnology args.profile args.apn args.user
    args.password args.authType args.protocol args.result

/-- `MT6735.deactivateDataCall`. -/
def deactivateDataCall (cid reason : ℤ) (result : Option Message) :
    RilM Unit := do
  modify fun s =>
    { s with dataCallCids := clearFirst slots (-1) s.dataCallCids cid }
  forward (.superDeactivateDataCall cid reason result)

/-- The loop of `MT6735.fetchCidFromDataCall` on a decoded response. -/
def recordCid (ret : DataCallResponse) : RilM Unit := do
  if ret.cid ≥ 0 then
    modify fun s =>
      { s with dataCallCids := fillFirst slots isFree s.dataCallCids ret.cid }

/-! ## Effects on the table -/

/-- The request sent by `setupDataCall` ends with the number of the first free
slot; the table is not touched. -/
theorem setupDataCall_run (args : SetupArgs) (s : RilState) :
    ∃ rr t,
      args.setupDataCall.run s = .ok () t ∧
      t.outgoing = s.outgoing ++ [.request rr] ∧
      t.mRequestList = s.mRequestList ++ [rr] ∧
      t.sNextSerial = s.sNextSerial + 1 ∧
      t.dataCallCids = s.dataCallCids ∧
      rr.mSerial = s.sNextSerial ∧ rr.mRequest = .setupDataCall ∧
      rr.mResult = args.result ∧
      rr.mParcel.getLast? = some (.string
        (intToString (availableInterfaceId s.dataCallCids))) := by
  exact ⟨_, _, rfl, rfl, rfl, rfl, rfl, rfl, rfl, rfl, rfl⟩

/-- What a method sends. -/
def sentBy (x : RilM Unit) (s : RilState) : List Outgoing :=
  (stateAfter x s).outgoing.drop s.outgoing.length

/-- The interface number at the end of a setup request. -/
def RILRequest.interfaceId (rr : RILRequest) : ℕ :=
  match rr.mParcel.getLast? with
  | some (.string (some text)) =>
      match Java.parseInt text with
      | .ok value => value.toNat
      | .error _ => 0
  | _ => 0

theorem availableInterfaceId_le (t : Cids) : availableInterfaceId t ≤ 5 := by
  rw [availableInterfaceId]
  split
  next i _ => exact i.isLt
  · exact Nat.zero_le 5

theorem interfaceId_of_text
    {rr : RILRequest} {t : Cids}
    (h : rr.mParcel.getLast? =
      some (.string (intToString (availableInterfaceId t)))) :
    rr.interfaceId = availableInterfaceId t := by
  have hparse : ∀ n ≤ 5, Java.parseInt (intToString (n : ℕ)) =
      .ok (n : ℤ) := by
    decide
  rw [RILRequest.interfaceId, h]
  simp only [hparse _ (availableInterfaceId_le t), Int.toNat_natCast]

theorem interfaceText_eq_zero_iff (t : Cids) :
    intToString (availableInterfaceId t) = intToString 0 ↔
      availableInterfaceId t = 0 := by
  have htext : ∀ n ≤ 5, intToString (n : ℕ) = intToString 0 ↔ n = 0 := by
    decide
  exact htext _ (availableInterfaceId_le t)

/-- A setup request is sent with the number of the first free slot. -/
theorem sentBy_setupDataCall (args : SetupArgs) (s : RilState) :
    ∃ rr, sentBy args.setupDataCall s = [.request rr] ∧
      rr.mSerial = s.sNextSerial ∧
      rr.mParcel.getLast? = some (.string
        (intToString (availableInterfaceId s.dataCallCids))) := by
  obtain ⟨rr, t, hrun, hsent, -, -, -, hserial, -, -, htext⟩ :=
    setupDataCall_run args s
  refine ⟨rr, ?_, hserial, htext⟩
  rw [sentBy, stateAfter_of_ok hrun, hsent, List.drop_left]

theorem deactivateDataCall_run
    (cid reason : ℤ) (result : Option Message) (s : RilState) :
    (deactivateDataCall cid reason result).run s =
      .ok () { s with
        dataCallCids := clearFirst slots (-1) s.dataCallCids cid
        outgoing := s.outgoing ++
          [.superDeactivateDataCall cid reason result] } := rfl

theorem recordCid_run_of_nonneg
    {ret : DataCallResponse} (h : 0 ≤ ret.cid) (s : RilState) :
    (recordCid ret).run s =
      .ok () { s with
        dataCallCids :=
          fillFirst slots isFree s.dataCallCids ret.cid } := by
  simp [recordCid, h]

theorem recordCid_run_of_neg
    {ret : DataCallResponse} (h : ret.cid < 0) (s : RilState) :
    (recordCid ret).run s = .ok () s := by
  have hnot : ¬ret.cid ≥ 0 := by omega
  simp [recordCid, hnot]

/-! ## Runs of setup responses and deactivations -/

/-- What happens to the table: a successful setup response with a nonnegative
identifier, or a deactivation. -/
inductive CidEvent where
  | setupSucceeded (status : ℤ) (cid : ℕ)
  | deactivated (cid reason : ℤ) (result : Option Message)
  deriving DecidableEq, Repr

def cidStep (s : RilState) : CidEvent → RilState
  | .setupSucceeded status cid =>
      stateAfter (recordCid { status := status, cid := cid }) s
  | .deactivated cid reason result =>
      stateAfter (deactivateDataCall cid reason result) s

theorem cidStep_setupSucceeded (s : RilState) (status : ℤ) (cid : ℕ) :
    (cidStep s (.setupSucceeded status cid)).dataCallCids =
      fillFirst slots isFree s.dataCallCids cid := by
  rw [cidStep, stateAfter_of_ok (recordCid_run_of_nonneg (by simp) s)]

theorem cidStep_deactivated
    (s : RilState) (cid reason : ℤ) (result : Option Message) :
    (cidStep s (.deactivated cid reason result)).dataCallCids =
      clearFirst slots (-1) s.dataCallCids cid := by
  rw [cidStep, stateAfter_of_ok (deactivateDataCall_run cid reason result s)]

/-- No nonnegative identifier occupies two slots. -/
def CidsDistinct (s : RilState) : Prop :=
  OccupiedOnce slots isFree s.dataCallCids

instance (s : RilState) : Decidable (CidsDistinct s) :=
  inferInstanceAs (Decidable (∀ i ∈ slots, ∀ j ∈ slots, _ → _ → i = j))

/-- After the event the table holds every identifier at most once, and no
longer holds one that was just deactivated. -/
def CidsExact (s : RilState) (e : CidEvent) : Prop :=
  CidsDistinct (cidStep s e) ∧
    match e with
    | .setupSucceeded _ _ => True
    | .deactivated cid _ _ =>
        0 ≤ cid → ¬Holds slots (cidStep s e).dataCallCids cid

/-- The identifier of a setup response is not in the table yet, or there is no
slot left to store it. -/
def CidUnused (s : RilState) : CidEvent → Prop
  | .setupSucceeded _ cid =>
      ¬Holds slots s.dataCallCids cid ∨ firstFreeSlot s.dataCallCids = none
  | .deactivated _ _ _ => True

theorem isFree_natCast (cid : ℕ) : isFree (cid : ℤ) = false := by
  simp [isFree]

theorem isFree_eq_false {cid : ℤ} (h : 0 ≤ cid) : isFree cid = false := by
  simpa [isFree] using h

/-- In a table without duplicates, exactly the events with an unused
identifier keep it exact. -/
theorem cidsExact_iff_cidUnused
    {s : RilState} (hs : CidsDistinct s) (e : CidEvent) :
    CidsExact s e ↔ CidUnused s e := by
  cases e with
  | setupSucceeded status cid =>
      simp only [CidsExact, CidUnused, CidsDistinct, and_true,
        cidStep_setupSucceeded]
      constructor
      · intro hdistinct
        by_contra hused
        push Not at hused
        obtain ⟨hheld, hfree⟩ := hused
        obtain ⟨k, hk⟩ := Option.ne_none_iff_exists'.mp hfree
        exact not_occupiedOnce_fillFirst (isFree_natCast cid) hheld hk
          hdistinct
      · rintro (hnew | hfull)
        · exact occupiedOnce_fillFirst hs hnew
        · rw [fillFirst_eq_of_none hfull]
          exact hs
  | deactivated cid reason result =>
      simp only [CidsExact, CidUnused, CidsDistinct, iff_true,
        cidStep_deactivated]
      constructor
      · exact occupiedOnce_clearFirst rfl hs
      · intro hcid
        exact not_holds_clearFirst rfl (isFree_eq_false hcid) hs

/-- Along a run from the empty table, every identifier is held once and
released fully if and only if no setup response brings an identifier that the
table still holds while a slot is free. -/
theorem dataCallCids_exact_iff
    {s : RilState} (hs : s.dataCallCids = emptyCids) (es : List CidEvent) :
    Meets cidStep CidsExact s es ↔ Meets cidStep CidUnused s es := by
  apply meets_congr_of_invariant (I := CidsDistinct)
  · intro t e ht
    exact cidsExact_iff_cidUnused ht e
  · intro t e _ hexact
    exact hexact.1
  · rw [CidsDistinct, hs]
    intro i _ j _ _ hocc
    cases hocc

theorem dataCallCids_exact_after_deactivation :
    Meets cidStep CidsExact idleState
      [.setupSucceeded 0 7, .deactivated 7 0 none, .setupSucceeded 0 7] :=
  (dataCallCids_exact_iff rfl _).mpr
    ⟨Or.inl (by decide), trivial, Or.inl (by decide), trivial⟩

/-- An identifier handed out again before it was deactivated occupies two
slots, and its deactivation releases only one of them. -/
theorem dataCallCids_not_exact_of_reused_cid :
    ¬Meets cidStep CidsExact idleState
        [.setupSucceeded 0 7, .setupSucceeded 0 7] ∧
      Holds slots
        (run cidStep idleState
          [.setupSucceeded 0 7, .setupSucceeded 0 7,
            .deactivated 7 0 none]).dataCallCids 7 := by
  constructor
  · rintro ⟨-, hexact, -⟩
    have hdistinct := hexact.1
    revert hdistinct
    decide
  · decide

end SmartSurf.Ril
