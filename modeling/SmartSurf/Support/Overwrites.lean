import Mathlib.Logic.Function.Basic

/-!
# Maps that are overwritten key by key

A list of writes is applied to a map in order.  A write may come without a
value, and then changes nothing.  Behind the writes a key holds the last value
that was written to it.
-/

namespace SmartSurf.Support

variable {κ ν : Type} [DecidableEq κ]

/-- Write a value to a key, if there is one. -/
def put (m : κ → Option ν) (k : κ) (value : Option ν) : κ → Option ν :=
  match value with
  | some v => Function.update m k (some v)
  | none => m

/-- Apply writes in order. -/
def putAll (m : κ → Option ν) (writes : List (κ × Option ν)) : κ → Option ν :=
  writes.foldl (fun m write => put m write.1 write.2) m

/-- The last value that is written to a key. -/
def lastPut (k : κ) : List (κ × Option ν) → Option ν
  | [] => none
  | write :: writes =>
      (lastPut k writes).or (if write.1 = k then write.2 else none)

theorem put_apply (m : κ → Option ν) (k k' : κ) (value : Option ν) :
    put m k value k' = (if k = k' then value else none).or (m k') := by
  by_cases hk : k = k'
  · subst hk
    cases value with
    | none => simp [put]
    | some v => simp [put]
  · cases value with
    | none => simp [put, hk]
    | some v => simp [put, hk, Function.update_of_ne (Ne.symm hk)]

theorem putAll_apply
    (m : κ → Option ν) (writes : List (κ × Option ν)) (k : κ) :
    putAll m writes k = (lastPut k writes).or (m k) := by
  induction writes generalizing m with
  | nil => rfl
  | cons write writes ih =>
      have htail := ih (put m write.1 write.2)
      rw [put_apply, ← Option.or_assoc] at htail
      exact htail

theorem lastPut_eq_none_iff {k : κ} {writes : List (κ × Option ν)} :
    lastPut k writes = none ↔
      ∀ write ∈ writes, write.1 = k → write.2 = none := by
  induction writes with
  | nil => simp [lastPut]
  | cons write writes ih =>
      rw [lastPut, Option.or_eq_none_iff, ih, List.forall_mem_cons, and_comm]
      by_cases hk : write.1 = k
      · simp [hk]
      · simp [hk]

theorem mem_of_lastPut
    {k : κ} {writes : List (κ × Option ν)} {v : ν}
    (h : lastPut k writes = some v) :
    (k, some v) ∈ writes := by
  induction writes with
  | nil => cases h
  | cons write writes ih =>
      rw [lastPut, Option.or_eq_some_iff] at h
      rcases h with htail | ⟨-, hhead⟩
      · exact List.mem_cons_of_mem _ (ih htail)
      · by_cases hk : write.1 = k
        · rw [if_pos hk] at hhead
          rw [← hk, ← hhead]
          exact List.mem_cons_self
        · rw [if_neg hk] at hhead
          cases hhead

/-! ## Writes that belong to the items of a list -/

/-- An item with a property, behind which no item has it. -/
def IsLast {ι : Type} (p : ι → Prop) (items : List ι) (item : ι) : Prop :=
  ∃ before after, items = before ++ item :: after ∧ p item ∧
    ∀ other ∈ after, ¬p other

section

variable {ι : Type} {key : ι → κ} {items : List ι} {k : κ}

/-- Only the values for the key in question matter. -/
theorem lastPut_congr
    {f g : ι → Option ν}
    (h : ∀ item ∈ items, key item = k → f item = g item) :
    lastPut k (items.map fun item => (key item, f item)) =
      lastPut k (items.map fun item => (key item, g item)) := by
  induction items with
  | nil => rfl
  | cons item items ih =>
      have htail := ih fun item' hitem' =>
        h item' (List.mem_cons_of_mem _ hitem')
      rw [List.map_cons, List.map_cons, lastPut, lastPut, htail]
      by_cases hk : key item = k
      · rw [h item List.mem_cons_self hk]
      · simp only [if_neg hk]

/-- If all values for a key are one value or missing, that value stays. -/
theorem lastPut_eq_some
    {f : ι → Option ν} {v : ν}
    (hall : ∀ item ∈ items, key item = k → f item = some v ∨ f item = none)
    (hsome : ∃ item ∈ items, key item = k ∧ f item ≠ none) :
    lastPut k (items.map fun item => (key item, f item)) = some v := by
  obtain ⟨item, hitem, hk, hvalue⟩ := hsome
  rcases hlast : lastPut k (items.map fun item => (key item, f item)) with
    _ | w
  · rw [lastPut_eq_none_iff] at hlast
    exact absurd (hlast _ (List.mem_map_of_mem hitem) hk) hvalue
  · obtain ⟨item', hitem', heq⟩ := List.mem_map.mp (mem_of_lastPut hlast)
    rw [Prod.mk.injEq] at heq
    obtain ⟨hk', hw⟩ := heq
    rcases hall item' hitem' hk' with hv | hnone
    · rw [← hw, hv]
    · rw [hnone] at hw
      cases hw

omit [DecidableEq κ] in
theorem IsLast.mem {p : ι → Prop} {item : ι} (h : IsLast p items item) :
    item ∈ items := by
  obtain ⟨before, after, rfl, -, -⟩ := h
  exact List.mem_append_right _ List.mem_cons_self

omit [DecidableEq κ] in
theorem IsLast.prop {p : ι → Prop} {item : ι} (h : IsLast p items item) :
    p item := by
  obtain ⟨-, -, -, hp, -⟩ := h
  exact hp

omit [DecidableEq κ] in
/-- The last item with a property is the last one with a stronger property if
it has that one too. -/
theorem IsLast.of_imp
    {p q : ι → Prop} (hpq : ∀ item, q item → p item) {item : ι}
    (h : IsLast p items item) (hq : q item) :
    IsLast q items item := by
  obtain ⟨before, after, hitems, -, hafter⟩ := h
  exact ⟨before, after, hitems, hq, fun other hother hother' =>
    hafter other hother (hpq other hother')⟩

omit [DecidableEq κ] in
theorem isLast_cons_iff {p : ι → Prop} {item item' : ι} :
    IsLast p (item :: items) item' ↔
      IsLast p items item' ∨
        item = item' ∧ p item ∧ ∀ other ∈ items, ¬p other := by
  constructor
  · rintro ⟨before, after, hitems, hp, hafter⟩
    cases before with
    | nil =>
        obtain ⟨rfl, rfl⟩ := List.cons.inj hitems
        exact .inr ⟨rfl, hp, hafter⟩
    | cons first before =>
        obtain ⟨-, htail⟩ := List.cons.inj hitems
        exact .inl ⟨before, after, htail, hp, hafter⟩
  · rintro (⟨before, after, rfl, hp, hafter⟩ | ⟨rfl, hp, hafter⟩)
    · exact ⟨item :: before, after, rfl, hp, hafter⟩
    · exact ⟨[], items, rfl, hp, hafter⟩

/-- A key holds the value of the last item that has one for it. -/
theorem lastPut_eq_some_iff {f : ι → Option ν} {v : ν} :
    lastPut k (items.map fun item => (key item, f item)) = some v ↔
      ∃ item, IsLast (fun item => key item = k ∧ f item ≠ none) items item ∧
        f item = some v := by
  induction items with
  | nil =>
      simp [lastPut, IsLast]
  | cons item items ih =>
      rw [List.map_cons, lastPut, Option.or_eq_some_iff, ih,
        lastPut_eq_none_iff]
      simp only [isLast_cons_iff, or_and_right, exists_or]
      refine or_congr_right ?_
      constructor
      · rintro ⟨hnone, hvalue⟩
        rw [Option.ite_none_right_eq_some] at hvalue
        obtain ⟨hk, hv⟩ := hvalue
        refine ⟨item, ⟨rfl, ⟨hk, ?_⟩, ?_⟩, hv⟩
        · rw [hv]
          exact Option.some_ne_none v
        · intro other hother h
          exact h.2 (hnone _ (List.mem_map_of_mem hother) h.1)
      · rintro ⟨_, ⟨rfl, ⟨hk, -⟩, hafter⟩, hv⟩
        rw [if_pos hk]
        refine ⟨?_, hv⟩
        intro write hwrite hkey
        obtain ⟨other, hother, rfl⟩ := List.mem_map.mp hwrite
        by_contra hne
        exact hafter other hother ⟨hkey, hne⟩

end

end SmartSurf.Support
