import Mathlib.Data.List.Basic
import Mathlib.Data.List.Perm.Basic

/-!
# Tables that are searched for the first match

A table is a list of rows with different keys, and an input is routed to the key
of the first row that matches it.  Reordering the table matters only for rows
that match the same input.
-/

namespace SmartSurf.Support

variable {ρ κ : Type} [DecidableEq κ] {key : ρ → κ}

/-- The position of a key in a table. -/
def position (key : ρ → κ) (rows : List ρ) (k : κ) : ℕ :=
  (rows.map key).idxOf k

/-- The first match stands in front of every other match. -/
theorem position_le_of_find
    {rows : List ρ} (hnodup : (rows.map key).Nodup) {p : ρ → Bool} {r r' : ρ}
    (hfind : rows.find? p = some r) (hmem : r' ∈ rows) (hp : p r' = true) :
    position key rows (key r) ≤ position key rows (key r') := by
  obtain ⟨-, front, back, rfl, hfront⟩ := List.find?_eq_some_iff_append.mp hfind
  have hfirst : position key (front ++ r :: back) (key r) ≤ front.length := by
    rw [position, List.map_append, List.map_cons]
    by_cases hkey : key r ∈ front.map key
    · rw [List.idxOf_append_of_mem hkey, ← List.length_map (f := key)]
      exact List.idxOf_le_length
    · exact Nat.le_of_eq (by rw [List.idxOf_append_of_notMem hkey,
        List.idxOf_cons_self, List.length_map, Nat.add_zero])
  have hother : r' ∈ r :: back := by
    rcases List.mem_append.mp hmem with hearly | hlate
    · have hnot := hfront r' hearly
      rw [hp] at hnot
      cases hnot
    · exact hlate
  have hlate : key r' ∉ front.map key := by
    rw [List.map_append, List.nodup_append] at hnodup
    exact fun hkey => hnodup.2.2 _ hkey _ (List.mem_map_of_mem hother) rfl
  calc
    position key (front ++ r :: back) (key r) ≤ front.length := hfirst
    _ ≤ position key (front ++ r :: back) (key r') := by
      rw [position, List.map_append, List.idxOf_append_of_notMem hlate,
        List.length_map]
      exact Nat.le_add_right _ _

theorem key_eq_of_position_eq
    {rows : List ρ} {r : ρ} {k : κ} (hmem : r ∈ rows)
    (h : position key rows (key r) = position key rows k) :
    key r = k :=
  (List.idxOf_inj (List.mem_map_of_mem hmem)).mp h

/-- Two orders of a table route an input alike, if they agree on the order of
the rows that match it. -/
theorem find_map_eq_of_order
    {rows rows' : List ρ} (hperm : rows.Perm rows')
    (hnodup : (rows.map key).Nodup) {p : ρ → Bool}
    (horder : ∀ r ∈ rows, ∀ r' ∈ rows, p r = true → p r' = true →
      position key rows (key r) ≤ position key rows (key r') →
        position key rows' (key r) ≤ position key rows' (key r')) :
    (rows.find? p).map key = (rows'.find? p).map key := by
  cases hfind : rows.find? p with
  | none =>
      have hnone : rows'.find? p = none := by
        rw [List.find?_eq_none] at hfind ⊢
        exact fun r hr => hfind r (hperm.mem_iff.mpr hr)
      rw [hnone]
  | some r =>
      have hr : r ∈ rows := List.mem_of_find?_eq_some hfind
      have hp : p r = true := List.find?_some hfind
      obtain ⟨r', hfind'⟩ : ∃ r', rows'.find? p = some r' := by
        rw [← Option.isSome_iff_exists, List.find?_isSome]
        exact ⟨r, hperm.mem_iff.mp hr, hp⟩
      have hr' : r' ∈ rows := hperm.mem_iff.mpr (List.mem_of_find?_eq_some hfind')
      have hp' : p r' = true := List.find?_some hfind'
      have hle := horder r hr r' hr' hp hp'
        (position_le_of_find hnodup hfind hr' hp')
      have hge := position_le_of_find ((hperm.map key).nodup_iff.mp hnodup)
        hfind' (hperm.mem_iff.mp hr) hp
      rw [hfind', Option.map_some, Option.map_some,
        key_eq_of_position_eq (hperm.mem_iff.mp hr) (Nat.le_antisymm hle hge)]

end SmartSurf.Support
