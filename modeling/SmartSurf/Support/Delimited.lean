import Mathlib.Data.List.DropRight
import Mathlib.Data.List.Basic

/-!
# Delimited texts

Splitting a text at a separator and dropping the trailing empty pieces, and
joining pieces with a separator.  The empty text has one empty piece, while a
text made of separators only has none.  Joining is inverted by splitting as
long as no piece contains the separator and the last piece is not empty.
-/

namespace SmartSurf.Support

variable {α : Type} [DecidableEq α]

/-- Pieces of `s` between separators, without trailing empty pieces. -/
def splitTrim (sep : α) (s : List α) : List (List α) :=
  if s = [] then [[]] else (s.splitOn sep).rdropWhile List.isEmpty

/-- The pieces in order, with `sep` between neighbours. -/
def joinWith (sep : α) (pieces : List (List α)) : List α :=
  [sep].intercalate pieces

omit [DecidableEq α] in
@[simp] theorem joinWith_singleton (sep : α) (piece : List α) :
    joinWith sep [piece] = piece := by
  simp [joinWith]

omit [DecidableEq α] in
theorem joinWith_cons_cons (sep : α) (p q : List α) (ps : List (List α)) :
    joinWith sep (p :: q :: ps) = p ++ sep :: joinWith sep (q :: ps) := by
  simp [joinWith, List.intercalate]

omit [DecidableEq α] in
/-- A joined text is empty only when there is nothing to join. -/
theorem joinWith_ne_nil {sep : α} {pieces : List (List α)}
    (hne : pieces ≠ []) (hpieces : ∀ p ∈ pieces, p ≠ []) :
    joinWith sep pieces ≠ [] := by
  match pieces, hne with
  | [p], _ => simpa using hpieces p (by simp)
  | p :: q :: ps, _ =>
      rw [joinWith_cons_cons]
      simp

/-- Splitting inverts joining when no piece contains the separator and the
last piece is not empty. -/
theorem splitTrim_joinWith {sep : α} {pieces : List (List α)}
    (hne : pieces ≠ []) (hfree : ∀ p ∈ pieces, sep ∉ p)
    (hlast : pieces.getLast hne ≠ []) :
    splitTrim sep (joinWith sep pieces) = pieces := by
  have hsplit : (joinWith sep pieces).splitOn sep = pieces :=
    List.splitOn_intercalate sep hfree hne
  have hnonempty : joinWith sep pieces ≠ [] := by
    intro hnil
    rw [hnil, List.splitOn_nil] at hsplit
    subst hsplit
    exact hlast rfl
  rw [splitTrim, if_neg hnonempty, hsplit, List.rdropWhile_eq_self_iff]
  intro _ hempty
  exact hlast (List.isEmpty_iff.mp hempty)

/-- The pieces of a text consist of its characters, without the separator. -/
theorem mem_splitOn {sep : α} {s piece : List α}
    (hpiece : piece ∈ s.splitOn sep) :
    sep ∉ piece ∧ ∀ c ∈ piece, c ∈ s := by
  induction s generalizing piece with
  | nil =>
      rw [List.splitOn_nil, List.mem_singleton] at hpiece
      simp [hpiece]
  | cons x s ih =>
      rw [List.splitOn_cons_eq_if_modifyHead] at hpiece
      obtain ⟨first, rest, hsplit⟩ :=
        List.exists_cons_of_ne_nil (List.splitOn_ne_nil sep s)
      rw [hsplit] at hpiece ih
      by_cases hx : x = sep
      · subst x
        rw [if_pos (by simp), List.mem_cons] at hpiece
        rcases hpiece with rfl | hmem
        · simp
        · obtain ⟨hsep, hchars⟩ := ih hmem
          exact ⟨hsep, fun c hc => List.mem_cons_of_mem _ (hchars c hc)⟩
      · rw [if_neg (by simpa using hx), List.modifyHead_cons,
          List.mem_cons] at hpiece
        rcases hpiece with rfl | hmem
        · obtain ⟨hsep, hchars⟩ := ih List.mem_cons_self
          refine ⟨?_, ?_⟩
          · rw [List.mem_cons, not_or]
            exact ⟨fun heq => hx heq.symm, hsep⟩
          · intro c hc
            rcases List.mem_cons.mp hc with rfl | hc
            · exact List.mem_cons_self
            · exact List.mem_cons_of_mem _ (hchars c hc)
        · obtain ⟨hsep, hchars⟩ := ih (List.mem_cons_of_mem _ hmem)
          exact ⟨hsep, fun c hc => List.mem_cons_of_mem _ (hchars c hc)⟩

theorem mem_splitTrim {sep : α} {s piece : List α}
    (hpiece : piece ∈ splitTrim sep s) :
    sep ∉ piece ∧ ∀ c ∈ piece, c ∈ s := by
  rw [splitTrim] at hpiece
  by_cases hs : s = []
  · rw [if_pos hs, List.mem_singleton] at hpiece
    simp [hpiece]
  · rw [if_neg hs] at hpiece
    exact mem_splitOn ((List.rdropWhile_prefix _ _).subset hpiece)

/-- Tokens are nonempty pieces without the separator. -/
def Tokens (sep : α) (pieces : List (List α)) : Prop :=
  ∀ p ∈ pieces, p ≠ [] ∧ sep ∉ p

theorem splitTrim_joinWith_of_tokens {sep : α} {pieces : List (List α)}
    (hne : pieces ≠ []) (htokens : Tokens sep pieces) :
    splitTrim sep (joinWith sep pieces) = pieces :=
  splitTrim_joinWith hne (fun p hp => (htokens p hp).2)
    (htokens _ (List.getLast_mem hne)).1

end SmartSurf.Support
