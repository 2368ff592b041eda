import Mathlib.Order.Fin.Basic
import SmartSurf.Ril.DataCalls

/-!
# Interfaces of concurrent data calls

The interface number of a data call is fixed when its setup request is sent,
but the table slot of that number is only taken when the response arrives, and
the slot then taken is the first one free at that moment.  This module follows
the data calls through all interleavings of setup requests, responses and
deactivations, and shows that no interface is shared as long as the first free
slot does not move between a setup request and its response.
-/

namespace SmartSurf.Ril

open Support

/-- A data call between its setup request and its failure or deactivation.
The identifier is `none` while the response is outstanding. -/
structure DataCall where
  serial : ℤ
  interfaceId : ℕ
  cid : Option ℤ
  deriving DecidableEq, Repr

/-- The instance together with the active data calls. -/
structure DataSystem where
  ril : RilState
  calls : List DataCall

inductive DataEvent where
  | setup (args : SetupArgs)
  | succeeded (serial : ℤ) (ret : DataCallResponse)
  | failed (serial : ℤ) (ret : DataCallResponse)
  | deactivated (cid reason : ℤ) (result : Option Message)
  deriving DecidableEq, Repr

/-- Record the identifier of the call with the given serial. -/
def markLive (serial cid : ℤ) (calls : List DataCall) : List DataCall :=
  calls.map fun c => if c.serial = serial then { c with cid := some cid } else c

/-- A data call as its request is sent. -/
def DataCall.ofRequest (rr : RILRequest) : DataCall where
  serial := rr.mSerial
  interfaceId := rr.interfaceId
  cid := none

/-- One event.  New calls are those whose requests are sent. -/
def dataStep (s : DataSystem) : DataEvent → DataSystem
  | .setup args =>
      { ril := stateAfter args.setupDataCall s.ril
        calls := s.calls ++
          ((sentBy args.setupDataCall s.ril).flatMap Outgoing.requests).map
            DataCall.ofRequest }
  | .succeeded serial ret =>
      { ril := stateAfter (recordCid ret) s.ril
        calls := markLive serial ret.cid s.calls }
  | .failed serial ret =>
      { ril := stateAfter (recordCid ret) s.ril
        calls := s.calls.filter fun c => c.serial ≠ serial }
  | .deactivated cid reason result =>
      { ril := stateAfter (deactivateDataCall cid reason result) s.ril
        calls := s.calls.filter fun c => c.cid ≠ some cid }

theorem calls_dataStep_setup (s : DataSystem) (args : SetupArgs) :
    (dataStep s (.setup args)).calls = s.calls ++
      [{ serial := s.ril.sNextSerial
         interfaceId := availableInterfaceId s.ril.dataCallCids
         cid := none }] := by
  obtain ⟨rr, hsent, hserial, htext⟩ := sentBy_setupDataCall args s.ril
  rw [dataStep, hsent, ← hserial, ← interfaceId_of_text htext]
  rfl

/-- A setup request with this serial awaits its response. -/
def Outstanding (s : DataSystem) (serial : ℤ) : Prop :=
  ∃ c ∈ s.calls, c.serial = serial ∧ c.cid = none

instance (s : DataSystem) (serial : ℤ) : Decidable (Outstanding s serial) :=
  inferInstanceAs
    (Decidable (∃ c ∈ s.calls, c.serial = serial ∧ c.cid = none))

/-- The events that can happen: responses belong to outstanding requests, a
success brings an identifier that no live call has, and only live calls are
deactivated. -/
def Possible (s : DataSystem) : DataEvent → Prop
  | .setup _ => True
  | .succeeded serial ret =>
      Outstanding s serial ∧ 0 ≤ ret.cid ∧
        ∀ c ∈ s.calls, c.cid ≠ some ret.cid
  | .failed serial ret => Outstanding s serial ∧ ret.cid < 0
  | .deactivated cid _ _ => ∃ c ∈ s.calls, c.cid = some cid

instance (s : DataSystem) : (e : DataEvent) → Decidable (Possible s e)
  | .setup _ => inferInstanceAs (Decidable True)
  | .succeeded _ _ => inferInstanceAs (Decidable (_ ∧ _ ∧ ∀ c ∈ s.calls, _))
  | .failed _ _ => inferInstanceAs (Decidable (_ ∧ _))
  | .deactivated _ _ _ => inferInstanceAs (Decidable (∃ c ∈ s.calls, _))

/-- The first free slot stays where it is while it is needed: a call is set up
only when no other setup is outstanding or no slot is free, and while a setup
with an interface is outstanding only slots above the first free one are
released. -/
def KeepsFirstSlot (s : DataSystem) : DataEvent → Prop
  | .setup _ =>
      (∀ c ∈ s.calls, c.cid ≠ none) ∨
        firstFreeSlot s.ril.dataCallCids = none
  | .deactivated cid _ _ =>
      (∀ c ∈ s.calls, c.cid = none → c.interfaceId = 0) ∨
        ∀ i ∈ slots, s.ril.dataCallCids i = cid →
          ∀ j, firstFreeSlot s.ril.dataCallCids = some j → j < i
  | _ => True

instance (s : DataSystem) : (e : DataEvent) → Decidable (KeepsFirstSlot s e)
  | .setup _ => inferInstanceAs (Decidable ((∀ c ∈ s.calls, _) ∨ _))
  | .succeeded _ _ => inferInstanceAs (Decidable True)
  | .failed _ _ => inferInstanceAs (Decidable True)
  | .deactivated _ _ _ =>
      inferInstanceAs (Decidable ((∀ c ∈ s.calls, _) ∨ ∀ i ∈ slots, _ → _))

/-- No two active data calls were sent with the same interface. -/
def InterfacesUnshared (s : DataSystem) : Prop :=
  ∀ a ∈ s.calls, ∀ b ∈ s.calls, a.serial ≠ b.serial →
    a.interfaceId ≠ 0 → a.interfaceId ≠ b.interfaceId

/-! ## The table and the active calls -/

/-- The invariant between the table and the active calls: a live call with an
interface occupies the slot of that interface, and the slot of an outstanding
one is the first free slot. -/
structure Aligned (t : Cids) (calls : List DataCall) : Prop where
  serialsDistinct :
    ∀ a ∈ calls, ∀ b ∈ calls, a.serial = b.serial → a = b
  liveDistinct :
    ∀ a ∈ calls, ∀ b ∈ calls, ∀ cid,
      a.cid = some cid → b.cid = some cid → a = b
  liveNonneg : ∀ a ∈ calls, ∀ cid, a.cid = some cid → 0 ≤ cid
  tableDistinct : OccupiedOnce slots isFree t
  heldLive :
    ∀ cid, 0 ≤ cid → Holds slots t cid → ∃ a ∈ calls, a.cid = some cid
  liveSlot :
    ∀ a ∈ calls, ∀ cid, a.cid = some cid → a.interfaceId ≠ 0 →
      ∃ i ∈ slots, i.val + 1 = a.interfaceId ∧ t i = cid
  pendingSlot :
    ∀ a ∈ calls, a.cid = none → a.interfaceId ≠ 0 →
      (∃ i, firstFreeSlot t = some i ∧ i.val + 1 = a.interfaceId) ∧
        ∀ b ∈ calls, b.cid = none → b = a

theorem slots_sorted : slots.Pairwise (· < ·) := by
  decide

theorem aligned_nil : Aligned emptyCids [] where
  serialsDistinct := by simp
  liveDistinct := by simp
  liveNonneg := by simp
  tableDistinct := by
    intro i _ j _ _ hocc
    cases hocc
  heldLive := by
    rintro cid hcid ⟨i, _, hi⟩
    rw [← hi] at hcid
    simp [emptyCids] at hcid
  liveSlot := by simp
  pendingSlot := by simp

theorem availableInterfaceId_ne_zero
    {t : Cids} (h : availableInterfaceId t ≠ 0) :
    ∃ i, firstFreeSlot t = some i ∧ i.val + 1 = availableInterfaceId t := by
  unfold availableInterfaceId at h ⊢
  cases hfirst : firstFreeSlot t with
  | none => simp [hfirst] at h
  | some i => exact ⟨i, rfl, rfl⟩

/-- Sending a setup request keeps the invariant if nothing is outstanding or
no slot is free. -/
theorem aligned_setup
    {t : Cids} {calls : List DataCall} (h : Aligned t calls) {serial : ℤ}
    (hserial : ∀ c ∈ calls, c.serial ≠ serial)
    (hkeeps : (∀ c ∈ calls, c.cid ≠ none) ∨ firstFreeSlot t = none) :
    Aligned t
      (calls ++
        [{ serial := serial
           interfaceId := availableInterfaceId t
           cid := none }]) where
  serialsDistinct := by
    intro a ha b hb hab
    rcases List.mem_append.mp ha with ha | ha
    · rcases List.mem_append.mp hb with hb | hb
      · exact h.serialsDistinct a ha b hb hab
      · obtain rfl := List.mem_singleton.mp hb
        exact absurd hab (hserial a ha)
    · obtain rfl := List.mem_singleton.mp ha
      rcases List.mem_append.mp hb with hb | hb
      · exact absurd hab.symm (hserial b hb)
      · exact (List.mem_singleton.mp hb).symm
  liveDistinct := by
    intro a ha b hb cid hacid hbcid
    rcases List.mem_append.mp ha with ha | ha
    · rcases List.mem_append.mp hb with hb | hb
      · exact h.liveDistinct a ha b hb cid hacid hbcid
      · obtain rfl := List.mem_singleton.mp hb
        cases hbcid
    · obtain rfl := List.mem_singleton.mp ha
      cases hacid
  liveNonneg := by
    intro a ha cid hacid
    rcases List.mem_append.mp ha with ha | ha
    · exact h.liveNonneg a ha cid hacid
    · obtain rfl := List.mem_singleton.mp ha
      cases hacid
  tableDistinct := h.tableDistinct
  heldLive := by
    intro cid hcid hheld
    obtain ⟨a, ha, hacid⟩ := h.heldLive cid hcid hheld
    exact ⟨a, List.mem_append_left _ ha, hacid⟩
  liveSlot := by
    intro a ha cid hacid hinterface
    rcases List.mem_append.mp ha with ha | ha
    · exact h.liveSlot a ha cid hacid hinterface
    · obtain rfl := List.mem_singleton.mp ha
      cases hacid
  pendingSlot := by
    intro a ha hpending hinterface
    rcases List.mem_append.mp ha with ha | ha
    · obtain ⟨⟨i, hfirst, -⟩, -⟩ := h.pendingSlot a ha hpending hinterface
      rcases hkeeps with hnone | hfull
      · exact absurd hpending (hnone a ha)
      · rw [hfull] at hfirst
        cases hfirst
    · obtain rfl := List.mem_singleton.mp ha
      refine ⟨availableInterfaceId_ne_zero hinterface, ?_⟩
      intro b hb hbpending
      rcases List.mem_append.mp hb with hb | hb
      · rcases hkeeps with hnone | hfull
        · exact absurd hbpending (hnone b hb)
        · simp [availableInterfaceId, hfull] at hinterface
      · exact List.mem_singleton.mp hb

theorem mem_markLive
    {serial cid : ℤ} {calls : List DataCall} {a : DataCall} :
    a ∈ markLive serial cid calls ↔
      (∃ c ∈ calls, c.serial = serial ∧ a = { c with cid := some cid }) ∨
        a ∈ calls ∧ a.serial ≠ serial := by
  constructor
  · intro ha
    obtain ⟨c, hc, rfl⟩ := List.mem_map.mp ha
    by_cases hserial : c.serial = serial
    · exact Or.inl ⟨c, hc, hserial, if_pos hserial⟩
    · rw [if_neg hserial]
      exact Or.inr ⟨hc, hserial⟩
  · rintro (⟨c, hc, hserial, rfl⟩ | ⟨ha, hserial⟩)
    · exact List.mem_map.mpr ⟨c, hc, if_pos hserial⟩
    · exact List.mem_map.mpr ⟨a, ha, if_neg hserial⟩

/-- The answered call is the only one whose identifier changes. -/
theorem mem_markLive_of_outstanding
    {t : Cids} {calls : List DataCall} (h : Aligned t calls)
    {c : DataCall} (hc : c ∈ calls) {cid : ℤ} {a : DataCall} :
    a ∈ markLive c.serial cid calls ↔
      a = { c with cid := some cid } ∨ a ∈ calls ∧ a.serial ≠ c.serial := by
  rw [mem_markLive]
  constructor
  · rintro (⟨b, hb, hserial, rfl⟩ | ha)
    · obtain rfl := h.serialsDistinct b hb c hc hserial
      exact Or.inl rfl
    · exact Or.inr ha
  · rintro (rfl | ha)
    · exact Or.inl ⟨c, hc, rfl, rfl⟩
    · exact Or.inr ha

/-- A successful response puts the call into the slot of its interface. -/
theorem aligned_succeeded
    {t : Cids} {calls : List DataCall} (h : Aligned t calls)
    {c : DataCall} (hc : c ∈ calls) (hpending : c.cid = none)
    {cid : ℤ} (hcid : 0 ≤ cid) (hnew : ∀ a ∈ calls, a.cid ≠ some cid) :
    Aligned (fillFirst slots isFree t cid)
      (markLive c.serial cid calls) where
  serialsDistinct := by
    intro a ha b hb hab
    rcases (mem_markLive_of_outstanding h hc).mp ha with rfl | ⟨ha, hac⟩
    · rcases (mem_markLive_of_outstanding h hc).mp hb with rfl | ⟨hb, hbc⟩
      · rfl
      · exact absurd hab.symm hbc
    · rcases (mem_markLive_of_outstanding h hc).mp hb with rfl | ⟨hb, hbc⟩
      · exact absurd hab hac
      · exact h.serialsDistinct a ha b hb hab
  liveDistinct := by
    intro a ha b hb x hax hbx
    rcases (mem_markLive_of_outstanding h hc).mp ha with rfl | ⟨ha, -⟩
    · rcases (mem_markLive_of_outstanding h hc).mp hb with rfl | ⟨hb, -⟩
      · rfl
      · exact absurd (hbx.trans hax.symm) (hnew b hb)
    · rcases (mem_markLive_of_outstanding h hc).mp hb with rfl | ⟨hb, -⟩
      · exact absurd (hax.trans hbx.symm) (hnew a ha)
      · exact h.liveDistinct a ha b hb x hax hbx
  liveNonneg := by
    intro a ha x hax
    rcases (mem_markLive_of_outstanding h hc).mp ha with rfl | ⟨ha, -⟩
    · obtain rfl := Option.some.inj hax
      exact hcid
    · exact h.liveNonneg a ha x hax
  tableDistinct := by
    apply occupiedOnce_fillFirst h.tableDistinct
    intro hheld
    obtain ⟨a, ha, hacid⟩ := h.heldLive cid hcid hheld
    exact hnew a ha hacid
  heldLive := by
    intro x hx hheld
    rcases holds_fillFirst hheld with rfl | hheld
    · exact ⟨_, (mem_markLive_of_outstanding h hc).mpr (Or.inl rfl), rfl⟩
    · obtain ⟨a, ha, hax⟩ := h.heldLive x hx hheld
      refine ⟨a, (mem_markLive_of_outstanding h hc).mpr (Or.inr ⟨ha, ?_⟩), hax⟩
      intro hserial
      obtain rfl := h.serialsDistinct a ha c hc hserial
      rw [hpending] at hax
      cases hax
  liveSlot := by
    intro a ha x hax hinterface
    rcases (mem_markLive_of_outstanding h hc).mp ha with rfl | ⟨ha, -⟩
    · obtain rfl := Option.some.inj hax
      obtain ⟨⟨i, hfirst, hi⟩, -⟩ := h.pendingSlot c hc hpending hinterface
      refine ⟨i, (firstSlot_some hfirst).1, hi, ?_⟩
      rw [fillFirst_eq_of_some hfirst]
      exact Function.update_self _ _ _
    · obtain ⟨i, hi, hval, hti⟩ := h.liveSlot a ha x hax hinterface
      refine ⟨i, hi, hval, ?_⟩
      have hocc : isFree (t i) = false := by
        rw [hti]
        exact isFree_eq_false (h.liveNonneg a ha x hax)
      rw [fillFirst_occupied cid hocc, hti]
  pendingSlot := by
    intro a ha hapending hinterface
    rcases (mem_markLive_of_outstanding h hc).mp ha with rfl | ⟨ha, hac⟩
    · cases hapending
    · obtain ⟨-, honly⟩ := h.pendingSlot a ha hapending hinterface
      exact absurd (congrArg DataCall.serial (honly c hc hpending)).symm hac

/-- Dropping calls keeps the invariant if the new table holds remaining calls
only, leaves their slots alone, and has the same first free slot while one of
them waits for it. -/
theorem aligned_filter
    {t t' : Cids} {calls : List DataCall} (h : Aligned t calls)
    {keep : DataCall → Bool} (htable : OccupiedOnce slots isFree t')
    (hheld : ∀ cid, 0 ≤ cid → Holds slots t' cid →
      ∃ a ∈ calls, keep a = true ∧ a.cid = some cid)
    (hlive : ∀ a ∈ calls, keep a = true →
      ∀ i, a.cid = some (t i) → t' i = t i)
    (hpending : ∀ a ∈ calls, a.cid = none → a.interfaceId ≠ 0 →
      ∀ i, firstFreeSlot t = some i → firstFreeSlot t' = some i) :
    Aligned t' (calls.filter keep) where
  serialsDistinct := fun a ha b hb =>
    h.serialsDistinct a (List.mem_of_mem_filter ha)
      b (List.mem_of_mem_filter hb)
  liveDistinct := fun a ha b hb =>
    h.liveDistinct a (List.mem_of_mem_filter ha)
      b (List.mem_of_mem_filter hb)
  liveNonneg := fun a ha => h.liveNonneg a (List.mem_of_mem_filter ha)
  tableDistinct := htable
  heldLive := by
    intro cid hcid hholds
    obtain ⟨a, ha, hkeep, hacid⟩ := hheld cid hcid hholds
    exact ⟨a, List.mem_filter.mpr ⟨ha, hkeep⟩, hacid⟩
  liveSlot := by
    intro a ha cid hacid hinterface
    obtain ⟨ha, hkeep⟩ := List.mem_filter.mp ha
    obtain ⟨i, hi, hval, hti⟩ := h.liveSlot a ha cid hacid hinterface
    refine ⟨i, hi, hval, ?_⟩
    rw [hlive a ha hkeep i (by rw [hacid, hti]), hti]
  pendingSlot := by
    intro a ha hapending hinterface
    have hmem := List.mem_of_mem_filter ha
    obtain ⟨⟨i, hfirst, hval⟩, honly⟩ :=
      h.pendingSlot a hmem hapending hinterface
    refine ⟨⟨i, hpending a hmem hapending hinterface i hfirst, hval⟩, ?_⟩
    intro b hb
    exact honly b (List.mem_of_mem_filter hb)

/-- A failed response drops the call; the table keeps its live calls. -/
theorem aligned_failed
    {t : Cids} {calls : List DataCall} (h : Aligned t calls)
    {c : DataCall} (hc : c ∈ calls) (hpending : c.cid = none) :
    Aligned t (calls.filter fun a => a.serial ≠ c.serial) := by
  apply aligned_filter h h.tableDistinct
  · intro cid hcid hheld
    obtain ⟨a, ha, hacid⟩ := h.heldLive cid hcid hheld
    refine ⟨a, ha, decide_eq_true ?_, hacid⟩
    intro hserial
    obtain rfl := h.serialsDistinct a ha c hc hserial
    rw [hpending] at hacid
    cases hacid
  · intro _ _ _ _ _
    rfl
  · intro _ _ _ _ _ hfirst
    exact hfirst

/-- Releasing slots above the first free one does not move it. -/
theorem firstFreeSlot_clearFirst
    {t : Cids} {cid : ℤ} (hcid : 0 ≤ cid) {i : Fin 5}
    (hfirst : firstFreeSlot t = some i)
    (habove : ∀ j ∈ slots, t j = cid → i < j) :
    firstFreeSlot (clearFirst slots (-1) t cid) = some i := by
  obtain ⟨hi, hfree⟩ := firstSlot_some hfirst
  apply firstSlot_eq_of_least slots_sorted hi
  · have hne : t i ≠ cid := by
      intro heq
      rw [heq, isFree_eq_false hcid] at hfree
      cases hfree
    rw [clearFirst_of_ne hne]
    exact hfree
  · intro j hj hji
    have hne : t j ≠ cid := by
      intro heq
      exact absurd (habove j hj heq) (lt_asymm hji)
    rw [clearFirst_of_ne hne]
    exact firstSlot_least slots_sorted hfirst hj hji

/-- Deactivating a live call keeps the invariant unless it moves the first
free slot under an outstanding setup. -/
theorem aligned_deactivated
    {t : Cids} {calls : List DataCall} (h : Aligned t calls)
    {cid : ℤ} (hcid : 0 ≤ cid)
    (hkeeps : (∀ c ∈ calls, c.cid = none → c.interfaceId = 0) ∨
      ∀ i ∈ slots, t i = cid → ∀ j, firstFreeSlot t = some j → j < i) :
    Aligned (clearFirst slots (-1) t cid)
      (calls.filter fun a => a.cid ≠ some cid) := by
  apply aligned_filter h (occupiedOnce_clearFirst rfl h.tableDistinct)
  · rintro x hx ⟨i, hi, hix⟩
    have hne : x ≠ cid := by
      rintro rfl
      exact not_holds_clearFirst rfl (isFree_eq_false hcid) h.tableDistinct
        ⟨i, hi, hix⟩
    rcases clearFirst_eq_or slots (-1) t cid i with hkept | hblank
    · obtain ⟨a, ha, hax⟩ := h.heldLive x hx ⟨i, hi, hkept.symm.trans hix⟩
      refine ⟨a, ha, decide_eq_true ?_, hax⟩
      rw [hax]
      exact fun heq => hne (Option.some.inj heq)
    · omega
  · intro a _ hkeep i hacid
    apply clearFirst_of_ne
    intro heq
    rw [hacid, heq] at hkeep
    simp at hkeep
  · intro a ha hapending hinterface i hfirst
    rcases hkeeps with hnone | habove
    · exact absurd (hnone a ha hapending) hinterface
    · exact firstFreeSlot_clearFirst hcid hfirst
        fun j hj heq => habove j hj heq i hfirst

/-- Under the invariant an interface belongs to one call: two live calls would
share a slot, and the slot of an outstanding call is free. -/
theorem Aligned.interfaces_distinct
    {t : Cids} {calls : List DataCall} (h : Aligned t calls)
    {a b : DataCall} (ha : a ∈ calls) (hb : b ∈ calls)
    (hinterface : a.interfaceId ≠ 0) (heq : a.interfaceId = b.interfaceId) :
    a = b := by
  have hlive : ∀ {a b : DataCall}, a ∈ calls → b ∈ calls →
      a.interfaceId ≠ 0 → a.interfaceId = b.interfaceId →
      a.cid = none → b.cid = none := by
    intro a b ha hb hinterface heq hpending
    cases hbcid : b.cid with
    | none => rfl
    | some y =>
        obtain ⟨⟨i, hfirst, hi⟩, -⟩ := h.pendingSlot a ha hpending hinterface
        obtain ⟨j, -, hj, htj⟩ :=
          h.liveSlot b hb y hbcid (heq ▸ hinterface)
        have hij : i = j := Fin.ext (by omega)
        have hfree := (firstSlot_some hfirst).2
        rw [hij, htj, isFree_eq_false (h.liveNonneg b hb y hbcid)] at hfree
        cases hfree
  cases hacid : a.cid with
  | none =>
      have hbcid := hlive ha hb hinterface heq hacid
      exact ((h.pendingSlot a ha hacid hinterface).2 b hb hbcid).symm
  | some x =>
      cases hbcid : b.cid with
      | none =>
          rw [hlive hb ha (heq ▸ hinterface) heq.symm hbcid] at hacid
          cases hacid
      | some y =>
          obtain ⟨i, -, hi, hti⟩ := h.liveSlot a ha x hacid hinterface
          obtain ⟨j, -, hj, htj⟩ :=
            h.liveSlot b hb y hbcid (heq ▸ hinterface)
          have hij : i = j := Fin.ext (by omega)
          have hxy : x = y := by rw [← hti, ← htj, hij]
          subst hxy
          exact h.liveDistinct a ha b hb x hacid hbcid

/-! ## Runs -/

/-- The invariant of a run: the calls are aligned with the table, and no call
has a serial that is still to be handed out. -/
structure SystemAligned (s : DataSystem) : Prop where
  aligned : Aligned s.ril.dataCallCids s.calls
  serialsUsed : ∀ c ∈ s.calls, c.serial < s.ril.sNextSerial

theorem SystemAligned.step
    {s : DataSystem} (h : SystemAligned s) {e : DataEvent}
    (hpossible : Possible s e) (hkeeps : KeepsFirstSlot s e) :
    SystemAligned (dataStep s e) := by
  cases e with
  | setup args =>
      obtain ⟨rr, t, hrun, -, -, hserial, hcids, -⟩ :=
        setupDataCall_run args s.ril
      have hril : (dataStep s (.setup args)).ril = t := stateAfter_of_ok hrun
      constructor
      · rw [calls_dataStep_setup, hril, hcids]
        apply aligned_setup h.aligned _ hkeeps
        intro c hc
        have hused := h.serialsUsed c hc
        omega
      · rw [calls_dataStep_setup, hril, hserial]
        intro c hc
        rcases List.mem_append.mp hc with hc | hc
        · have hused := h.serialsUsed c hc
          omega
        · obtain rfl := List.mem_singleton.mp hc
          exact Int.lt_add_one_of_le (le_refl s.ril.sNextSerial)
  | succeeded serial ret =>
      obtain ⟨⟨c, hc, rfl, hpending⟩, hcid, hnew⟩ := hpossible
      have hstate := stateAfter_of_ok (recordCid_run_of_nonneg hcid s.ril)
      constructor
      · simp only [dataStep, hstate]
        exact aligned_succeeded h.aligned hc hpending hcid hnew
      · simp only [dataStep, hstate]
        intro a ha
        rcases mem_markLive.mp ha with ⟨b, hb, -, rfl⟩ | ⟨ha, -⟩
        · exact h.serialsUsed b hb
        · exact h.serialsUsed a ha
  | failed serial ret =>
      obtain ⟨⟨c, hc, rfl, hpending⟩, hcid⟩ := hpossible
      have hstate := stateAfter_of_ok (recordCid_run_of_neg hcid s.ril)
      constructor
      · simp only [dataStep, hstate]
        exact aligned_failed h.aligned hc hpending
      · simp only [dataStep, hstate]
        intro a ha
        exact h.serialsUsed a (List.mem_of_mem_filter ha)
  | deactivated cid reason result =>
      obtain ⟨c, hc, hccid⟩ := hpossible
      have hstate :=
        stateAfter_of_ok (deactivateDataCall_run cid reason result s.ril)
      constructor
      · simp only [dataStep, hstate]
        apply aligned_deactivated h.aligned _ hkeeps
        exact h.aligned.liveNonneg c hc cid hccid
      · simp only [dataStep, hstate]
        intro a ha
        exact h.serialsUsed a (List.mem_of_mem_filter ha)

/-- An instance without data calls. -/
def DataSystem.Idle (s : DataSystem) : Prop :=
  s.ril.dataCallCids = emptyCids ∧ s.calls = []

theorem SystemAligned.of_idle {s : DataSystem} (h : s.Idle) :
    SystemAligned s := by
  constructor
  · rw [h.1, h.2]
    exact aligned_nil
  · simp [h.2]

/-- From an instance without data calls, every run that keeps the first free
slot in place while a setup depends on it reaches only states in which no
interface is shared. -/
theorem interfaces_unshared
    {s : DataSystem} (hs : s.Idle) (es : List DataEvent)
    (hrun : Meets dataStep (fun t e => Possible t e ∧ KeepsFirstSlot t e)
      s es) :
    InterfacesUnshared (run dataStep s es) := by
  have hinv : SystemAligned (run dataStep s es) :=
    run_invariant (fun _ _ ht he => ht.step he.1 he.2)
      (SystemAligned.of_idle hs) hrun
  intro a ha b hb hserial hinterface heq
  have hab := hinv.aligned.interfaces_distinct ha hb hinterface heq
  exact hserial (congrArg DataCall.serial hab)

def idleSystem : DataSystem := { ril := idleState, calls := [] }

/-- A call set up, answered, and joined by a second one that is deactivated
while a third is outstanding. -/
theorem interfaces_unshared_of_sequential_setups :
    InterfacesUnshared (run dataStep idleSystem
      [.setup { radioTechnology := 3, profile := 0 },
        .succeeded 0 { status := 0, cid := 7 },
        .setup { radioTechnology := 3, profile := 0 },
        .succeeded 1 { status := 0, cid := 8 },
        .deactivated 7 0 none,
        .setup { radioTechnology := 3, profile := 0 },
        .deactivated 8 0 none]) :=
  interfaces_unshared ⟨rfl, rfl⟩ _ (by decide)

/-- Two setups sent before either is answered carry the same interface. -/
theorem not_interfaces_unshared_of_overlapping_setups :
    ¬InterfacesUnshared (run dataStep idleSystem
      [.setup { radioTechnology := 3, profile := 0 },
        .setup { radioTechnology := 3, profile := 1 }]) := by
  intro h
  exact h ⟨0, 1, none⟩ (by decide) ⟨1, 1, none⟩ (by decide) (by decide)
    (by decide) rfl

end SmartSurf.Ril
