import SmartSurf.Support.Memory

/-!
# Reports printed into a bounded buffer

Texts are printed one after the other into a buffer of a given size.  A text
that does not fit is cut off, leaving room for a terminating zero, and ends the
report.

The second half concerns reports whose texts depend on a hidden input.  A
report is made of pieces; a piece is determined when the hidden input does not
matter to it, and exposed when already its first character can differ.  The
printed buffer is independent of the hidden input exactly when no exposed piece
starts inside the visible part, which is what `Settled` says.
-/

namespace SmartSurf.Support

/-! ## Printing -/

/-- Memory after `snprintf(buf + pos, n, …)` has produced a text. -/
def printAt (buf : ℕ → UInt8) (pos n : ℕ) (text : List UInt8) : ℕ → UInt8 :=
  if n = 0 then buf else store buf pos (text.take (n - 1) ++ [0])

/-- Print texts into `size` bytes, starting at `pos`.  When a text does not
fit, the result is `full pos` for the position it would have started at. -/
def printTexts (size : ℕ) (full : ℕ → ℕ) :
    List (List UInt8) → ℕ → (ℕ → UInt8) → ℕ × (ℕ → UInt8)
  | [], pos, buf => (pos, buf)
  | text :: texts, pos, buf =>
      if size - pos ≤ text.length then
        (full pos, printAt buf pos (size - pos) text)
      else
        printTexts size full texts (pos + text.length)
          (printAt buf pos (size - pos) text)

theorem printAt_below
    (buf : ℕ → UInt8) {pos i : ℕ} (n : ℕ) (text : List UInt8) (hi : i < pos) :
    printAt buf pos n text i = buf i := by
  rw [printAt]
  split
  · rfl
  · exact store_of_lt buf _ hi

/-- The visible characters of a text stand in the buffer. -/
theorem printAt_add
    (buf : ℕ → UInt8) (pos : ℕ) {n k : ℕ} {text : List UInt8}
    (hk : k < text.length) (hn : k + 1 < n) :
    printAt buf pos n text (pos + k) = text[k] := by
  have hlength : k < (text.take (n - 1)).length := by
    rw [List.length_take]
    omega
  rw [printAt, if_neg (by omega),
    store_add buf pos (by rw [List.length_append]; omega),
    List.getElem_append_left hlength, List.getElem_take]

theorem printTexts_below
    (size : ℕ) (full : ℕ → ℕ) (texts : List (List UInt8))
    {pos i : ℕ} (buf : ℕ → UInt8) (hi : i < pos) :
    (printTexts size full texts pos buf).2 i = buf i := by
  induction texts generalizing pos buf with
  | nil => rfl
  | cons text texts ih =>
      rw [printTexts]
      split
      · exact printAt_below buf _ text hi
      · rw [ih _ (by omega), printAt_below buf _ text hi]

/-- The visible characters of the whole report stand in the buffer. -/
theorem printTexts_add
    (size : ℕ) (full : ℕ → ℕ) (texts : List (List UInt8))
    (pos : ℕ) (buf : ℕ → UInt8) {k : ℕ}
    (hk : k < texts.flatten.length) (hsize : pos + k + 1 < size) :
    (printTexts size full texts pos buf).2 (pos + k) = texts.flatten[k] := by
  induction texts generalizing pos buf k with
  | nil => simp at hk
  | cons text texts ih =>
      rw [printTexts]
      by_cases hfirst : k < text.length
      · have hprint := printAt_add buf pos hfirst
          (show k + 1 < size - pos by omega)
        have hget : (text :: texts).flatten[k] = text[k] := by
          simp only [List.flatten_cons]
          exact List.getElem_append_left hfirst
        rw [hget]
        split
        · exact hprint
        · rw [printTexts_below size full texts _ (by omega), hprint]
      · obtain ⟨j, rfl⟩ := Nat.exists_eq_add_of_le (Nat.not_lt.mp hfirst)
        have hj : j < texts.flatten.length := by
          rw [List.flatten_cons, List.length_append] at hk
          omega
        have hget : (text :: texts).flatten[text.length + j] =
            texts.flatten[j] := by
          simp only [List.flatten_cons]
          rw [List.getElem_append_right (by omega)]
          simp
        rw [if_neg (by omega), hget, ← Nat.add_assoc]
        exact ih _ _ hj (by omega)

/-! ## How far a report gets -/

/-- Nothing is written behind the end of the buffer. -/
theorem printAt_outside
    (buf : ℕ → UInt8) {pos n i : ℕ} (text : List UInt8) (hi : pos + n ≤ i) :
    printAt buf pos n text i = buf i := by
  rw [printAt]
  split
  · rfl
  · apply store_of_le
    rw [List.length_append, List.length_take, List.length_singleton]
    omega

theorem printAt_terminated
    (buf : ℕ → UInt8) (pos : ℕ) {n : ℕ} {text : List UInt8}
    (hn : text.length < n) :
    printAt buf pos n text (pos + text.length) = 0 := by
  rw [printAt, if_neg (by omega), List.take_of_length_le (by omega),
    store_add buf pos (by simp)]
  simp

theorem printTexts_outside
    (size : ℕ) (full : ℕ → ℕ) (texts : List (List UInt8))
    {pos i : ℕ} (buf : ℕ → UInt8) (hpos : pos ≤ size) (hi : size ≤ i) :
    (printTexts size full texts pos buf).2 i = buf i := by
  induction texts generalizing pos buf with
  | nil => rfl
  | cons text texts ih =>
      rw [printTexts]
      split
      · exact printAt_outside buf text (by omega)
      · rw [ih _ (by omega), printAt_outside buf text (by omega)]

/-- A report that fits is followed by a zero. -/
theorem printTexts_terminated
    {size : ℕ} (full : ℕ → ℕ) {texts : List (List UInt8)}
    (hne : texts ≠ []) {pos : ℕ} (buf : ℕ → UInt8)
    (hfits : pos + texts.flatten.length < size) :
    (printTexts size full texts pos buf).2 (pos + texts.flatten.length) =
      0 := by
  induction texts generalizing pos buf with
  | nil => exact absurd rfl hne
  | cons text texts ih =>
      rw [List.flatten_cons, List.length_append] at hfits ⊢
      rw [printTexts, if_neg (by omega)]
      by_cases hlast : texts = []
      · subst hlast
        exact printAt_terminated buf pos (by simp at hfits; omega)
      · rw [← Nat.add_assoc]
        exact ih hlast _ (by omega)

/-- Length of the first `n` texts. -/
def lengthOf (texts : List (List UInt8)) (n : ℕ) : ℕ :=
  (texts.take n).flatten.length

theorem lengthOf_cons_succ (text : List UInt8) (texts : List (List UInt8))
    (n : ℕ) :
    lengthOf (text :: texts) (n + 1) = text.length + lengthOf texts n := by
  simp [lengthOf]

theorem lengthOf_mono {texts : List (List UInt8)} {m n : ℕ} (h : m ≤ n) :
    lengthOf texts m ≤ lengthOf texts n := by
  obtain ⟨k, rfl⟩ := Nat.exists_eq_add_of_le h
  rw [lengthOf, lengthOf, List.take_add, List.flatten_append,
    List.length_append]
  exact Nat.le_add_right _ _

theorem lengthOf_length (texts : List (List UInt8)) :
    lengthOf texts texts.length = texts.flatten.length := by
  rw [lengthOf, List.take_length]

/-- The first `n` texts fit into the buffer, and no more. -/
structure Reaches (size : ℕ) (texts : List (List UInt8)) (pos n : ℕ) : Prop where
  le : n ≤ texts.length
  fits : n = 0 ∨ pos + lengthOf texts n < size
  next : n < texts.length → size ≤ pos + lengthOf texts (n + 1)

/-- The texts are printed as far as they fit; the result is the position behind
them, passed through `full` unless they are all. -/
theorem exists_reaches_printTexts
    (size : ℕ) (full : ℕ → ℕ) (texts : List (List UInt8))
    (pos : ℕ) (buf : ℕ → UInt8) :
    ∃ n, Reaches size texts pos n ∧
      (printTexts size full texts pos buf).1 =
        if n = texts.length then pos + lengthOf texts n
        else full (pos + lengthOf texts n) := by
  induction texts generalizing pos buf with
  | nil =>
      refine ⟨0, ⟨Nat.le_refl _, .inl rfl, fun hlt => ?_⟩, rfl⟩
      exact absurd hlt (Nat.lt_irrefl 0)
  | cons text texts ih =>
      rw [printTexts]
      by_cases hfull : size - pos ≤ text.length
      · refine ⟨0, ⟨Nat.zero_le _, .inl rfl, fun _ => ?_⟩, ?_⟩
        · rw [lengthOf_cons_succ]
          omega
        · rw [if_pos hfull]
          rfl
      · obtain ⟨n, hn, hresult⟩ :=
          ih (pos + text.length) (printAt buf pos (size - pos) text)
        refine ⟨n + 1, ⟨?_, .inr ?_, fun hlt => ?_⟩, ?_⟩
        · exact Nat.succ_le_succ hn.le
        · rw [lengthOf_cons_succ]
          rcases hn.fits with rfl | hfits
          · rw [lengthOf, List.take_zero, List.flatten_nil, List.length_nil]
            omega
          · omega
        · rw [lengthOf_cons_succ]
          have hnext := hn.next (Nat.lt_of_succ_lt_succ hlt)
          omega
        · rw [if_neg hfull, hresult, lengthOf_cons_succ, List.length_cons,
            Nat.add_assoc]
          simp only [Nat.add_right_cancel_iff]

/-- No longer part of the texts fits. -/
theorem Reaches.le_of_fits
    {size : ℕ} {texts : List (List UInt8)} {pos n : ℕ}
    (h : Reaches size texts pos n) {m : ℕ} (hm : m ≤ texts.length)
    (hfits : pos + lengthOf texts m < size) :
    m ≤ n := by
  by_contra hlt
  have hnext := h.next (by omega)
  have hmono : lengthOf texts (n + 1) ≤ lengthOf texts m :=
    lengthOf_mono (by omega)
  omega

theorem Reaches.eq_length_iff
    {size : ℕ} {texts : List (List UInt8)} {pos n : ℕ}
    (h : Reaches size texts pos n) (hne : texts.flatten ≠ []) :
    n = texts.length ↔ pos + texts.flatten.length < size := by
  rw [← lengthOf_length]
  constructor
  · rintro rfl
    rcases h.fits with hzero | hfits
    · rw [List.length_eq_zero_iff] at hzero
      exact absurd (by rw [hzero, List.flatten_nil]) hne
    · exact hfits
  · intro hfits
    exact Nat.le_antisymm h.le (h.le_of_fits (Nat.le_refl _) hfits)

/-- What fits stands at the start of the buffer. -/
theorem load_printTexts
    {size : ℕ} (full : ℕ → ℕ) {texts : List (List UInt8)} (buf : ℕ → UInt8)
    {n : ℕ} (h : Reaches size texts 0 n) :
    load (printTexts size full texts 0 buf).2 0 (lengthOf texts n) =
      (texts.take n).flatten := by
  have hsplit : texts.flatten =
      (texts.take n).flatten ++ (texts.drop n).flatten := by
    rw [← List.flatten_append, List.take_append_drop]
  apply List.ext_getElem
  · rw [length_load, lengthOf]
  · intro k hk hk'
    have hlength : k < texts.flatten.length := by
      rw [hsplit, List.length_append]
      omega
    have hsize : 0 + k + 1 < size := by
      rcases h.fits with rfl | hfits
      · simp at hk'
      · rw [length_load] at hk
        omega
    have hprint := printTexts_add size full texts 0 buf hlength hsize
    have hget : texts.flatten[k] = (texts.take n).flatten[k] := by
      simp only [hsplit]
      exact List.getElem_append_left hk'
    simp only [load, List.getElem_map, List.getElem_range]
    rw [hprint, hget]

/-! ## What is evaluated on the way -/

/-- Print texts as `printTexts` does, each of them with a label, and list the
labels of the texts that are tried. -/
def printLogged {β : Type} (size : ℕ) (full : ℕ → ℕ) :
    List (β × List UInt8) → ℕ → (ℕ → UInt8) → List β × ℕ × (ℕ → UInt8)
  | [], pos, buf => ([], pos, buf)
  | (label, text) :: items, pos, buf =>
      if size - pos ≤ text.length then
        ([label], full pos, printAt buf pos (size - pos) text)
      else
        let rest := printLogged size full items (pos + text.length)
          (printAt buf pos (size - pos) text)
        (label :: rest.1, rest.2)

section

variable {β : Type} {size : ℕ} (full : ℕ → ℕ)

theorem printLogged_snd
    (items : List (β × List UInt8)) (pos : ℕ) (buf : ℕ → UInt8) :
    (printLogged size full items pos buf).2 =
      printTexts size full (items.map Prod.snd) pos buf := by
  induction items generalizing pos buf with
  | nil => rfl
  | cons item items ih =>
      obtain ⟨label, text⟩ := item
      rw [List.map_cons, printLogged, printTexts]
      split
      · rfl
      · exact ih _ _

/-- The texts that fit are tried, and the one behind them. -/
theorem printLogged_fst
    {items : List (β × List UInt8)} {pos n : ℕ}
    (h : Reaches size (items.map Prod.snd) pos n) (buf : ℕ → UInt8) :
    (printLogged size full items pos buf).1 =
      (items.map Prod.fst).take (n + 1) := by
  induction items generalizing pos n buf with
  | nil => rfl
  | cons item items ih =>
      obtain ⟨label, text⟩ := item
      change Reaches size (text :: items.map Prod.snd) pos n at h
      rw [printLogged, List.map_cons, List.take_succ_cons]
      rcases n with _ | n
      · have hnext := h.next (Nat.succ_pos _)
        rw [lengthOf_cons_succ, lengthOf, List.take_zero, List.flatten_nil,
          List.length_nil] at hnext
        rw [if_pos (by omega)]
        rfl
      · have hfits : pos + (text.length + lengthOf (items.map Prod.snd) n) <
            size := by
          rw [← lengthOf_cons_succ]
          exact h.fits.resolve_left (Nat.succ_ne_zero n)
        have hrest : Reaches size (items.map Prod.snd) (pos + text.length) n :=
          { le := Nat.le_of_succ_le_succ h.le
            fits := .inr (by omega)
            next := fun hlt => by
              have hnext := h.next (Nat.succ_lt_succ hlt)
              rw [lengthOf_cons_succ] at hnext
              omega }
        rw [if_neg (by omega)]
        exact congrArg (label :: ·) (ih hrest _)

end

/-! ## Reports that depend on a hidden input -/

variable {ι : Type}

/-- The hidden input does not matter to the piece. -/
def Determined (p : ι → List UInt8) : Prop :=
  ∀ i j, p i = p j

/-- The first character of the piece depends on the hidden input. -/
def Exposed (p : ι → List UInt8) : Prop :=
  ∃ i j a b, (p i)[0]? = some a ∧ (p j)[0]? = some b ∧ a ≠ b

/-- The text of a list of pieces. -/
def textOf (ps : List (ι → List UInt8)) (i : ι) : List UInt8 :=
  (ps.map fun p => p i).flatten

/-- Every piece that starts within the next `m` characters is determined. -/
def Settled : ℕ → List (ι → List UInt8) → Prop
  | _, [] => True
  | m, p :: ps => m = 0 ∨ (Determined p ∧ ∀ i, Settled (m - (p i).length) ps)

theorem textOf_cons (p : ι → List UInt8) (ps : List (ι → List UInt8)) (i : ι) :
    textOf (p :: ps) i = p i ++ textOf ps i := by
  simp [textOf]

/-- A report that is not settled shows a difference in its visible part. -/
theorem exists_differ_of_not_settled
    {m : ℕ} {ps : List (ι → List UInt8)}
    (hps : ∀ p ∈ ps, Determined p ∨ Exposed p) (h : ¬Settled m ps) :
    ∃ i j k a b, k < m ∧ (textOf ps i)[k]? = some a ∧
      (textOf ps j)[k]? = some b ∧ a ≠ b := by
  induction ps generalizing m with
  | nil => exact absurd trivial h
  | cons p ps ih =>
      rw [Settled, not_or] at h
      obtain ⟨hm, hrest⟩ := h
      rcases hps p List.mem_cons_self with hdet | hexp
      · rw [not_and, not_forall] at hrest
        obtain ⟨i₀, hnot⟩ := hrest hdet
        obtain ⟨i, j, k, a, b, hk, hi, hj, hab⟩ :=
          ih (fun q hq => hps q (List.mem_cons_of_mem p hq)) hnot
        refine ⟨i, j, (p i₀).length + k, a, b, by omega, ?_, ?_, hab⟩
        · rw [textOf_cons, hdet i i₀,
            List.getElem?_append_right (by omega), Nat.add_sub_cancel_left]
          exact hi
        · rw [textOf_cons, hdet j i₀,
            List.getElem?_append_right (by omega), Nat.add_sub_cancel_left]
          exact hj
      · obtain ⟨i, j, a, b, hi, hj, hab⟩ := hexp
        refine ⟨i, j, 0, a, b, by omega, ?_, ?_, hab⟩
        · rw [textOf_cons, List.getElem?_append_left, hi]
          exact (List.getElem?_eq_some_iff.mp hi).1
        · rw [textOf_cons, List.getElem?_append_left, hj]
          exact (List.getElem?_eq_some_iff.mp hj).1

/-- The first part of a settled report is either determined as a whole, or
longer than what is visible and determined as far as that. -/
theorem Settled.append
    {m : ℕ} {ps qs : List (ι → List UInt8)}
    (hps : ∀ p ∈ ps, ∀ i, p i ≠ []) (h : Settled m (ps ++ qs)) :
    (Determined (textOf ps) ∧
        ∀ i, Settled (m - (textOf ps i).length) qs) ∨
      ((∀ i, m < (textOf ps i).length) ∧
        ∀ i j, (textOf ps i).take m = (textOf ps j).take m) := by
  induction ps generalizing m with
  | nil => exact Or.inl ⟨fun _ _ => rfl, fun _ => h⟩
  | cons p ps ih =>
      have hlength : ∀ i, 0 < (p i).length := by
        intro i
        exact List.length_pos_iff.mpr (hps p List.mem_cons_self i)
      rcases h with rfl | ⟨hdet, hrest⟩
      · right
        refine ⟨?_, fun _ _ => by rw [List.take_zero, List.take_zero]⟩
        intro i
        have hpos := hlength i
        rw [textOf_cons, List.length_append]
        omega
      · by_cases hι : Nonempty ι
        · obtain ⟨i₀⟩ := hι
          have hps' : ∀ q ∈ ps, ∀ i, q i ≠ [] := fun q hq =>
            hps q (List.mem_cons_of_mem p hq)
          rcases ih hps' (hrest i₀) with ⟨hall, hqs⟩ | ⟨hlong, htake⟩
          · left
            constructor
            · intro i j
              rw [textOf_cons, textOf_cons, hdet i j, hall i j]
            · intro i
              rw [textOf_cons, List.length_append, hdet i i₀, ← Nat.sub_sub]
              exact hqs i
          · right
            constructor
            · intro i
              have hi := hlong i
              rw [textOf_cons, List.length_append, hdet i i₀]
              omega
            · intro i j
              rw [textOf_cons, textOf_cons, hdet i i₀, hdet j i₀,
                List.take_append, List.take_append, htake i j]
        · left
          exact ⟨fun i => absurd ⟨i⟩ hι, fun i => absurd ⟨i⟩ hι⟩

/-- A settled report is printed in the same way whatever the hidden input. -/
theorem printTexts_eq_of_settled
    {size : ℕ} (full : ℕ → ℕ) {calls : List (List (ι → List UInt8))}
    (hne : ∀ c ∈ calls, ∀ p ∈ c, ∀ i, p i ≠ [])
    {pos : ℕ} (hpos : pos < size)
    (h : Settled (size - 1 - pos) calls.flatten)
    (buf : ℕ → UInt8) (i j : ι) :
    printTexts size full (calls.map fun c => textOf c i) pos buf =
      printTexts size full (calls.map fun c => textOf c j) pos buf := by
  induction calls generalizing pos buf with
  | nil => rfl
  | cons c calls ih =>
      rw [List.map_cons, List.map_cons, printTexts, printTexts]
      rcases Settled.append (hne c List.mem_cons_self) h with
        ⟨hdet, hrest⟩ | ⟨hlong, htake⟩
      · rw [hdet i j]
        by_cases hfull : size - pos ≤ (textOf c j).length
        · rw [if_pos hfull, if_pos hfull]
        · rw [if_neg hfull, if_neg hfull]
          apply ih
          · exact fun d hd => hne d (List.mem_cons_of_mem c hd)
          · omega
          · have hsettled := hrest j
            rwa [Nat.sub_sub] at hsettled
      · have hi := hlong i
        have hj := hlong j
        have hvisible : (textOf c i).take (size - pos - 1) =
            (textOf c j).take (size - pos - 1) := by
          rw [show size - pos - 1 = size - 1 - pos by omega]
          exact htake i j
        rw [if_pos (by omega), if_pos (by omega), printAt, printAt, hvisible]

/-- A report is printed independently of the hidden input exactly when no
exposed piece starts in the visible part of the buffer. -/
theorem printTexts_independent_iff
    (size : ℕ) (full : ℕ → ℕ) {calls : List (List (ι → List UInt8))}
    (hne : ∀ c ∈ calls, ∀ p ∈ c, ∀ i, p i ≠ [])
    (hpieces : ∀ c ∈ calls, ∀ p ∈ c, Determined p ∨ Exposed p)
    (buf : ℕ → UInt8) :
    (∀ i j,
      printTexts size full (calls.map fun c => textOf c i) 0 buf =
        printTexts size full (calls.map fun c => textOf c j) 0 buf) ↔
      Settled (size - 1) calls.flatten := by
  have htext : ∀ i, (calls.map fun c => textOf c i).flatten =
      textOf calls.flatten i := by
    intro i
    simp [textOf, List.map_flatten, List.flatten_flatten]
    rfl
  constructor
  · intro hsame
    by_contra hnot
    have hflat : ∀ p ∈ calls.flatten, Determined p ∨ Exposed p := by
      intro p hp
      obtain ⟨c, hc, hp⟩ := List.mem_flatten.mp hp
      exact hpieces c hc p hp
    obtain ⟨i, j, k, a, b, hk, hi, hj, hab⟩ :=
      exists_differ_of_not_settled hflat hnot
    rw [← htext] at hi hj
    obtain ⟨hilt, hi⟩ := List.getElem?_eq_some_iff.mp hi
    obtain ⟨hjlt, hj⟩ := List.getElem?_eq_some_iff.mp hj
    have hia := printTexts_add size full _ 0 buf hilt (by omega)
    have hjb := printTexts_add size full _ 0 buf hjlt (by omega)
    rw [hsame i j, hjb, hi, hj] at hia
    exact hab hia.symm
  · intro hsettled i j
    by_cases hsize : size = 0
    · subst size
      rcases calls with _ | ⟨c, calls⟩
      · rfl
      · simp [printTexts, printAt]
    · exact printTexts_eq_of_settled full hne (by omega) hsettled buf i j

end SmartSurf.Support
