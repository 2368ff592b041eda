import Mathlib.Data.List.Basic
import Mathlib.Logic.Function.Basic

/-!
# Byte-addressed stores

A store is a function from addresses to cells.  The lemmas below say how runs
of cells are read and written: what a write leaves alone, what is read back,
and when writing changes nothing.
-/

namespace SmartSurf.Support

variable {α : Type}

/-- The `n` cells from address `off` on. -/
def load (mem : ℕ → α) (off n : ℕ) : List α :=
  (List.range n).map fun i => mem (off + i)

/-- The store after writing a list of cells from address `off` on. -/
def store (mem : ℕ → α) (off : ℕ) (xs : List α) : ℕ → α := fun i =>
  if off ≤ i then (xs[i - off]?).getD (mem i) else mem i

@[simp] theorem length_load (mem : ℕ → α) (off n : ℕ) :
    (load mem off n).length = n := by
  simp [load]

theorem load_congr
    {mem mem' : ℕ → α} {off n : ℕ}
    (h : ∀ i < n, mem (off + i) = mem' (off + i)) :
    load mem off n = load mem' off n := by
  apply List.map_congr_left
  intro i hi
  exact h i (List.mem_range.mp hi)

/-- Adjacent runs of cells are read one after the other. -/
theorem load_add (mem : ℕ → α) (off m n : ℕ) :
    load mem off (m + n) = load mem off m ++ load mem (off + m) n := by
  simp [load, List.range_add, Nat.add_assoc]

theorem take_load (mem : ℕ → α) (off : ℕ) {m n : ℕ} (h : m ≤ n) :
    (load mem off n).take m = load mem off m := by
  obtain ⟨k, rfl⟩ := Nat.exists_eq_add_of_le h
  rw [load_add, List.take_left' (length_load _ _ _)]

theorem take_load_min (mem : ℕ → α) (off k n : ℕ) :
    (load mem off n).take k = load mem off (min k n) := by
  rcases Nat.le_total k n with hle | hle
  · rw [take_load mem off hle, Nat.min_eq_left hle]
  · rw [List.take_of_length_le (by rwa [length_load]), Nat.min_eq_right hle]

theorem drop_load (mem : ℕ → α) (off : ℕ) {m n : ℕ} (h : m ≤ n) :
    (load mem off n).drop m = load mem (off + m) (n - m) := by
  obtain ⟨k, rfl⟩ := Nat.exists_eq_add_of_le h
  rw [load_add, List.drop_left' (length_load _ _ _), Nat.add_sub_cancel_left]

@[simp] theorem store_nil (mem : ℕ → α) (off : ℕ) : store mem off [] = mem := by
  funext i
  simp [store]

theorem store_of_lt
    (mem : ℕ → α) {off i : ℕ} (xs : List α) (hi : i < off) :
    store mem off xs i = mem i := by
  rw [store, if_neg (by omega)]

theorem store_of_le
    (mem : ℕ → α) {off i : ℕ} {xs : List α} (hi : off + xs.length ≤ i) :
    store mem off xs i = mem i := by
  rw [store, if_pos (by omega), List.getElem?_eq_none (by omega)]
  rfl

theorem store_add
    (mem : ℕ → α) (off : ℕ) {i : ℕ} {xs : List α} (hi : i < xs.length) :
    store mem off xs (off + i) = xs[i] := by
  rw [store, if_pos (by omega), Nat.add_sub_cancel_left,
    List.getElem?_eq_getElem hi]
  rfl

/-- Adjacent runs of cells are written one after the other. -/
theorem store_append (mem : ℕ → α) (off : ℕ) (xs ys : List α) :
    store mem off (xs ++ ys) =
      store (store mem off xs) (off + xs.length) ys := by
  funext i
  by_cases hlow : i < off
  · rw [store_of_lt mem _ hlow, store_of_lt _ _ (by omega),
      store_of_lt mem _ hlow]
  by_cases hmid : i < off + xs.length
  · obtain ⟨k, rfl⟩ := Nat.exists_eq_add_of_le (Nat.not_lt.mp hlow)
    have hk : k < xs.length := by omega
    rw [store_of_lt _ ys hmid, store_add mem off hk,
      store_add mem off (by rw [List.length_append]; omega),
      List.getElem_append_left hk]
  by_cases hhigh : i < off + xs.length + ys.length
  · obtain ⟨k, rfl⟩ := Nat.exists_eq_add_of_le (Nat.not_lt.mp hmid)
    have hk : k < ys.length := by omega
    rw [store_add _ _ hk, Nat.add_assoc,
      store_add mem off (by rw [List.length_append]; omega),
      List.getElem_append_right (by omega)]
    simp
  · rw [store_of_le mem (by rw [List.length_append]; omega),
      store_of_le _ (by omega), store_of_le mem (by omega)]

/-- Writing back what is there changes nothing. -/
theorem store_load_self (mem : ℕ → α) (off n : ℕ) :
    store mem off (load mem off n) = mem := by
  funext i
  by_cases hlow : i < off
  · exact store_of_lt mem _ hlow
  by_cases hhigh : i < off + n
  · obtain ⟨k, rfl⟩ := Nat.exists_eq_add_of_le (Nat.not_lt.mp hlow)
    have hk : k < n := by omega
    rw [store_add mem off (by rwa [length_load])]
    simp [load]
  · exact store_of_le mem (by rw [length_load]; omega)

theorem load_store_self
    (mem : ℕ → α) (off : ℕ) {xs : List α} {n : ℕ} (hn : xs.length = n) :
    load (store mem off xs) off n = xs := by
  subst n
  apply List.ext_getElem (length_load _ _ _)
  intro i _ hi
  simp [load, store_add mem off hi]

/-- Cells in front of a written run keep their values. -/
theorem load_store_before
    (mem : ℕ → α) {off off' n : ℕ} (xs : List α) (h : off' + n ≤ off) :
    load (store mem off xs) off' n = load mem off' n := by
  apply load_congr
  intro i hi
  exact store_of_lt mem xs (by omega)

/-- Cells behind a written run keep their values. -/
theorem load_store_behind
    (mem : ℕ → α) {off off' : ℕ} {xs : List α} (n : ℕ)
    (h : off + xs.length ≤ off') :
    load (store mem off xs) off' n = load mem off' n := by
  apply load_congr
  intro i _
  exact store_of_le mem (by omega)

/-- A part of a written run is read back from its place. -/
theorem load_store_within
    (mem : ℕ → α) (off : ℕ) {k n : ℕ} {xs : List α} (h : k + n ≤ xs.length) :
    load (store mem off xs) (off + k) n = (xs.drop k).take n := by
  apply List.ext_getElem
  · rw [length_load, List.length_take, List.length_drop]
    omega
  · intro i hi _
    rw [length_load] at hi
    have hstored := store_add mem off (show k + i < xs.length by omega)
    simp [load, Nat.add_assoc, hstored]

/-- Writing a run of cells twice is writing it once. -/
theorem store_store_self (mem : ℕ → α) (off : ℕ) (xs : List α) :
    store (store mem off xs) off xs = store mem off xs := by
  have hread : load (store mem off xs) off xs.length = xs :=
    load_store_self mem off rfl
  calc
    store (store mem off xs) off xs =
        store (store mem off xs) off
          (load (store mem off xs) off xs.length) := by rw [hread]
    _ = store mem off xs := store_load_self _ _ _

/-- A run of cells with another one written over its beginning. -/
def overwrite (xs ys : List α) : List α :=
  xs ++ ys.drop xs.length

theorem length_overwrite (xs ys : List α) :
    (overwrite xs ys).length = max xs.length ys.length := by
  rw [overwrite, List.length_append, List.length_drop]
  omega

/-- Of two beginnings of one run, the longer one stays. -/
theorem overwrite_take (xs : List α) (i j : ℕ) :
    overwrite (xs.take j) (xs.take i) = xs.take (max i j) := by
  rw [overwrite]
  rcases Nat.le_total i j with hle | hle
  · rw [Nat.max_eq_right hle, List.drop_eq_nil_of_le, List.append_nil]
    rw [List.length_take, List.length_take]
    omega
  · have hstart : xs.take j = (xs.take i).take (xs.take j).length := by
      rw [List.take_take, List.length_take]
      apply List.take_eq_take_iff.mpr
      omega
    have hsplit := List.take_append_drop (xs.take j).length (xs.take i)
    rw [← hstart] at hsplit
    rw [Nat.max_eq_left hle, hsplit]

/-- Of two runs written to one address, the later one stays on top. -/
theorem store_store (mem : ℕ → α) (off : ℕ) (xs ys : List α) :
    store (store mem off ys) off xs = store mem off (overwrite xs ys) := by
  funext i
  by_cases hlow : i < off
  · rw [store_of_lt _ _ hlow, store_of_lt _ _ hlow, store_of_lt _ _ hlow]
  obtain ⟨k, rfl⟩ := Nat.exists_eq_add_of_le (Nat.not_lt.mp hlow)
  have hlength := length_overwrite xs ys
  by_cases hxs : k < xs.length
  · rw [store_add _ off hxs, store_add _ off (by omega)]
    simp only [overwrite]
    rw [List.getElem_append_left hxs]
  by_cases hys : k < ys.length
  · rw [store_of_le _ (by omega), store_add _ off hys,
      store_add _ off (by omega)]
    simp only [overwrite]
    rw [List.getElem_append_right (by omega), List.getElem_drop]
    congr 1
    omega
  · rw [store_of_le _ (by omega), store_of_le _ (by omega),
      store_of_le _ (by omega)]

end SmartSurf.Support
