import SmartSurf.Platform.CText

/-!
# The tokeniser of C's string library

`strtok_r` is called again and again with a saved pointer.  It skips delimiters,
overwrites the delimiter behind the token by a terminator, and saves where to go
on.  A pointer is given by the cells from it to the end of the object, as
elsewhere, and the null pointer is `none`.

On a terminated text the successive calls deliver the non-empty pieces between
the delimiters and never look at a cell behind the terminator.
-/

namespace SmartSurf.C

/-- The characters inside a token. -/
def inToken (delim b : UInt8) : Bool :=
  b != delim && b != 0

/-- `strtok_r` on a saved pointer.  The result is `none` if it leaves the
object, `some none` if it returns the null pointer, and otherwise the token with
the pointer saved for the next call. -/
def strtokR (delim : UInt8) :
    Option (List UInt8) → Option (Option (CText × Option (List UInt8)))
  | none => some none
  | some mem =>
      match mem.dropWhile (· == delim) with
      | [] => none
      | c :: rest =>
          if c = 0 then some none
          else
            match (c :: rest).dropWhile (inToken delim) with
            | [] => none
            | d :: after =>
                some (some ((c :: rest).takeWhile (inToken delim),
                  if d = 0 then none else some after))

/-- The number of calls that a saved pointer allows for. -/
def savedSize : Option (List UInt8) → ℕ
  | none => 0
  | some mem => mem.length + 1

/-- Every token uses up some of the text. -/
theorem savedSize_lt_of_strtokR
    {delim : UInt8} {saved saved' : Option (List UInt8)} {token : CText}
    (h : strtokR delim saved = some (some (token, saved'))) :
    savedSize saved' < savedSize saved := by
  rcases saved with _ | mem
  · simp [strtokR] at h
  · have hskip := (List.dropWhile_suffix (· == delim) (l := mem)).length_le
    rw [strtokR] at h
    split at h
    next => cases h
    next c rest hrest =>
      rw [hrest] at hskip
      split at h
      next => cases h
      next =>
        have htoken :=
          (List.dropWhile_suffix (inToken delim) (l := c :: rest)).length_le
        split at h
        next => cases h
        next d after hafter =>
          rw [hafter] at htoken
          obtain ⟨-, rfl⟩ := Prod.mk.inj (Option.some.inj (Option.some.inj h))
          simp only [List.length_cons] at hskip htoken
          split
          · simp [savedSize]
          · simp only [savedSize]
            omega

/-- The tokens that the calls deliver until one returns the null pointer. -/
inductive Tokens (delim : UInt8) : Option (List UInt8) → List CText → Prop
  | done {saved : Option (List UInt8)}
      (h : strtokR delim saved = some none) : Tokens delim saved []
  | next {saved saved' : Option (List UInt8)} {token : CText}
      {tokens : List CText}
      (h : strtokR delim saved = some (some (token, saved')))
      (hrest : Tokens delim saved' tokens) :
      Tokens delim saved (token :: tokens)

/-! ## The pieces of a text -/

theorem strtok_nil (delim : UInt8) : strtok delim [] = [] := by
  simp [strtok]

theorem strtok_delim (delim : UInt8) (text : CText) :
    strtok delim (delim :: text) = strtok delim text := by
  simp [strtok, List.splitOn_cons_eq_if_modifyHead]

theorem strtok_dropWhile (delim : UInt8) (text : CText) :
    strtok delim (text.dropWhile (· == delim)) = strtok delim text := by
  induction text with
  | nil => rfl
  | cons b text ih =>
      by_cases hb : b = delim
      · rw [hb, strtok_delim, ← ih]
        simp
      · rw [List.dropWhile_cons_of_neg (by simpa using hb)]

theorem strtok_token
    {delim : UInt8} {token : CText} (hne : token ≠ []) (hfree : delim ∉ token)
    (after : CText) :
    strtok delim (token ++ delim :: after) = token :: strtok delim after := by
  rw [strtok, List.splitOn_append_cons_self_of_not_mem hfree, strtok,
    List.filter_cons_of_pos (by simpa using hne)]

theorem strtok_last
    {delim : UInt8} {token : CText} (hne : token ≠ [])
    (hfree : delim ∉ token) :
    strtok delim token = [token] := by
  rw [strtok, List.splitOn_eq_singleton hfree,
    List.filter_cons_of_pos (by simpa using hne), List.filter_nil]

/-! ## Terminated texts -/

/-- A text either consists of delimiters, or has a first token, which ends with
the text or at a delimiter. -/
theorem exists_token (delim : UInt8) (text : CText) :
    text.dropWhile (· == delim) = [] ∨
      ∃ token, token ≠ [] ∧ delim ∉ token ∧
        (text.dropWhile (· == delim) = token ∨
          ∃ after, text.dropWhile (· == delim) = token ++ delim :: after) := by
  rcases hskip : text.dropWhile (· == delim) with _ | ⟨c, rest⟩
  · exact .inl rfl
  right
  have hc : c ≠ delim := by
    have hhead := List.head?_dropWhile_not (· == delim) text
    rw [hskip] at hhead
    simpa using hhead
  refine ⟨(c :: rest).takeWhile (· != delim), ?_, ?_, ?_⟩
  · simp [hc]
  · intro hmem
    have hne := List.mem_takeWhile_imp hmem
    simp at hne
  · have hsplit := List.takeWhile_append_dropWhile
      (p := (· != delim)) (l := c :: rest)
    rcases hafter : (c :: rest).dropWhile (· != delim) with _ | ⟨d, after⟩
    · left
      rw [hafter, List.append_nil] at hsplit
      exact hsplit.symm
    · right
      have hd : d = delim := by
        have hhead := List.head?_dropWhile_not (· != delim) (c :: rest)
        rw [hafter] at hhead
        simpa using hhead
      rw [hafter, hd] at hsplit
      exact ⟨after, hsplit.symm⟩

section

variable {delim : UInt8} (hdelim : delim ≠ 0)

include hdelim

/-- The terminator stops the skipping of delimiters. -/
theorem dropWhile_terminated (text : CText) (rest : List UInt8) :
    (text ++ 0 :: rest).dropWhile (· == delim) =
      text.dropWhile (· == delim) ++ 0 :: rest := by
  have hzero : (0 :: rest).dropWhile (· == delim) = 0 :: rest :=
    List.dropWhile_cons_of_neg (by simpa using hdelim.symm)
  rw [List.dropWhile_append, hzero]
  split
  next hempty => rw [List.isEmpty_iff.mp hempty, List.nil_append]
  next => rfl

theorem strtokR_of_delimiters
    {text : CText} (hskip : text.dropWhile (· == delim) = [])
    (rest : List UInt8) :
    strtokR delim (some (text ++ 0 :: rest)) = some none := by
  rw [strtokR, dropWhile_terminated hdelim, hskip]
  simp

omit hdelim in
/-- A token is delivered up to the delimiter or the terminator behind it. -/
theorem strtokR_of_token
    {mem token tail : List UInt8} {d : UInt8}
    (hskip : mem.dropWhile (· == delim) = token ++ d :: tail)
    (hne : token ≠ []) (hfree : delim ∉ token) (hzero : 0 ∉ token)
    (hd : d = delim ∨ d = 0) :
    strtokR delim (some mem) =
      some (some (token, if d = 0 then none else some tail)) := by
  have hin : ∀ b ∈ token, inToken delim b = true := by
    intro b hb
    have hb' : b ≠ delim := fun h => hfree (h ▸ hb)
    have hb0 : b ≠ 0 := fun h => hzero (h ▸ hb)
    simp [inToken, hb', hb0]
  have hout : inToken delim d = false := by
    rcases hd with rfl | rfl
    · simp [inToken]
    · simp [inToken]
  have hafter : (token ++ d :: tail).dropWhile (inToken delim) =
      d :: tail := by
    rw [List.dropWhile_append_of_pos hin,
      List.dropWhile_cons_of_neg (by simp [hout])]
  have htoken : (token ++ d :: tail).takeWhile (inToken delim) = token := by
    rw [List.takeWhile_append_of_pos hin,
      List.takeWhile_cons_of_neg (by simp [hout]), List.append_nil]
  obtain ⟨c, token, rfl⟩ := List.exists_cons_of_ne_nil hne
  have hc : c ≠ 0 := fun h => hzero (h ▸ List.mem_cons_self)
  rw [List.cons_append] at hskip hafter htoken
  simp only [strtokR, hskip, if_neg hc, hafter, htoken]

/-- The calls on a terminated text deliver its non-empty pieces. -/
theorem tokens_of_terminated
    {text : CText} (htext : 0 ∉ text) (rest : List UInt8) :
    Tokens delim (some (text ++ 0 :: rest)) (strtok delim text) := by
  induction hn : text.length using Nat.strong_induction_on generalizing text
    with
  | h n ih =>
      have hskip := dropWhile_terminated hdelim text rest
      have hsuffix := List.dropWhile_suffix (· == delim) (l := text)
      have hzero : 0 ∉ text.dropWhile (· == delim) :=
        fun h => htext (hsuffix.subset h)
      rw [← strtok_dropWhile]
      rcases exists_token delim text with
        hnil | ⟨token, hne, hfree, hlast | ⟨after, hafter⟩⟩
      · rw [hnil, strtok_nil]
        exact .done (strtokR_of_delimiters hdelim hnil rest)
      · rw [hlast] at hskip hzero ⊢
        rw [strtok_last hne hfree]
        have hcall := strtokR_of_token hskip hne hfree hzero (.inr rfl)
        exact .next hcall (.done rfl)
      · rw [hafter] at hskip hzero hsuffix ⊢
        rw [strtok_token hne hfree]
        have htoken : 0 ∉ token :=
          fun h => hzero (List.mem_append_left _ h)
        have hrest : 0 ∉ after := fun h =>
          hzero (List.mem_append_right _ (List.mem_cons_of_mem _ h))
        rw [List.append_assoc, List.cons_append] at hskip
        have hcall := strtokR_of_token hskip hne hfree htoken (.inl rfl)
        rw [if_neg hdelim] at hcall
        have hshorter : after.length < n := by
          have hlength := hsuffix.length_le
          rw [List.length_append, List.length_cons] at hlength
          omega
        exact .next hcall (ih _ hshorter hrest rfl)

end

end SmartSurf.C
