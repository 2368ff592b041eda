import SmartSurf.Blobs.Entries

/-!
# The makefile for the proprietary files

`setup-makefiles.sh` writes one line into the list `PRODUCT_COPY_FILES` for
every unmarked entry whose file is there.  A line is continued by a backslash
unless a countdown over all entries has come to its end.  So the last line lacks
its backslash only if the last entry of the list has a line.
-/

namespace SmartSurf.Blobs

open Support Shell

/-! ## The loop -/

def outdir : Word :=
  "vendor/mts/smart_surf2_4g".toList

/-- The line for a file, up to `LINEEND`. -/
def copyLine (file : Word) : Word :=
  "    ".toList ++ outdir ++ "/proprietary/".toList ++ file ++
    ":system/".toList ++ file

/-- `LINEEND` in front of the last round. -/
def continuation : Word :=
  " \\".toList

/-- `COUNT` and `LINEEND`, and the lines written to the makefile. -/
structure BlockState where
  count : ℕ
  lineend : Word
  lines : List Word

/-- One round of the loop; `present` says which files are there. -/
def blockRound (present : Word → Bool) (st : BlockState) (word : Word) :
    BlockState :=
  let count := st.count - 1
  let lineend := if count = 0 then [] else st.lineend
  let array := parsingArray word
  if word.head? = some '-' then
    ⟨count, lineend, st.lines⟩
  else
    let file := fileOf array
    let dest := element array 1
    let file := if dest = [] then file else dest
    if present file then
      ⟨count, lineend, st.lines ++ [copyLine file ++ lineend]⟩
    else
      ⟨count, lineend, st.lines⟩

/-- The lines of `PRODUCT_COPY_FILES`. -/
def copyBlock (present : Word → Bool) (list : List Line) : List Word :=
  let files := blobWords list
  (files.foldl (blockRound present)
    ⟨(echo files).length, continuation, []⟩).lines

/-! ## What one round writes -/

/-- The entries that have a line. -/
def Entry.isWritten (present : Word → Bool) (e : Entry) : Bool :=
  !e.marked && present e.destination

/-- The lines of one entry. -/
def Entry.lines (present : Word → Bool) (lineend : Word) (e : Entry) :
    List Word :=
  if e.isWritten present then [copyLine e.destination ++ lineend] else []

theorem blockRound_word
    (present : Word → Bool) (st : BlockState) {lineend : Word}
    (hlineend : (if st.count - 1 = 0 then [] else st.lineend) = lineend)
    (e : Entry) :
    blockRound present st e.word =
      ⟨st.count - 1, lineend, st.lines ++ e.lines present lineend⟩ := by
  have hdest : (if element (parsingArray e.word) 1 = [] then e.file.text
      else element (parsingArray e.word) 1) = e.destination := by
    rw [e.element_one_word, Entry.destination]
    rcases e.dest with _ | d
    · rfl
    · exact if_neg d.nonempty
  simp only [blockRound, hlineend, e.head_word_eq_iff]
  rw [Entry.lines, Entry.isWritten]
  by_cases hmarked : e.marked = true
  · simp [hmarked]
  · have hoption : ¬e.isOption = true := mt e.marked_of_isOption hmarked
    rw [e.fileOf_word, if_neg hoption, hdest, if_neg hmarked]
    by_cases hpresent : present e.destination = true
    · simp [hmarked, hpresent]
    · simp [hmarked, hpresent]

/-! ## What the loop writes -/

/-- The lines of some entries, if the last of them is the last of the list. -/
def linesOf (present : Word → Bool) : List Entry → List Word
  | [] => []
  | e :: es =>
      e.lines present (if es.isEmpty then [] else continuation) ++
        linesOf present es

theorem foldl_blockRound
    (present : Word → Bool) (es : List Entry) (lines : List Word) :
    ((es.map Entry.word).foldl (blockRound present)
      ⟨es.length, continuation, lines⟩).lines =
      lines ++ linesOf present es := by
  induction es generalizing lines with
  | nil => exact (List.append_nil lines).symm
  | cons e es ih =>
      rw [List.map_cons, List.foldl_cons]
      rcases es with _ | ⟨e', es⟩
      · rw [blockRound_word present _ rfl e]
        exact congrArg (lines ++ ·) (List.append_nil _).symm
      · have hlineend : (if (e :: e' :: es).length - 1 = 0 then []
            else continuation) = continuation :=
          if_neg (Nat.succ_ne_zero _)
        rw [blockRound_word present _ hlineend e]
        exact (ih _).trans (List.append_assoc _ _ _)

/-- Entries without a line may be left out at the start. -/
theorem linesOf_dropWhile
    {present : Word → Bool} {p : Entry → Bool}
    (h : ∀ e, p e = true → e.isWritten present = false) (es : List Entry) :
    linesOf present (es.dropWhile p) = linesOf present es := by
  induction es with
  | nil => rfl
  | cons e es ih =>
      by_cases hp : p e = true
      · have hlines : ∀ lineend, e.lines present lineend = [] := by
          intro lineend
          rw [Entry.lines, h e hp]
          rfl
        rw [List.dropWhile_cons_of_pos hp, ih, linesOf, hlines,
          List.nil_append]
      · rw [List.dropWhile_cons_of_neg hp]

theorem copyBlock_eq (present : Word → Bool) (list : List Line) :
    copyBlock present list = linesOf present (entriesOf list) := by
  have hwritten : ∀ e : Entry, Shell.isOption e.word = true →
      e.isWritten present = false := by
    intro e hoption
    have hmarked := e.marked_of_isOption (e.isOption_word hoption).2
    rw [Entry.isWritten, hmarked]
    rfl
  have hwords : blobWords list =
      ((entriesOf list).dropWhile fun e => Shell.isOption e.word).map
        Entry.word := by
    rw [blobWords_eq, echo, List.dropWhile_map]
    rfl
  have hcount : (echo (blobWords list)).length =
      ((entriesOf list).dropWhile fun e => Shell.isOption e.word).length := by
    rw [blobWords_eq, echo_echo, ← blobWords_eq, hwords, List.length_map]
  rw [copyBlock, hcount, hwords, foldl_blockRound, List.nil_append]
  exact linesOf_dropWhile hwritten _

/-- The lines of the entries in front of the last one. -/
def earlyLines (present : Word → Bool) (es : List Entry) : List Word :=
  (es.filter (Entry.isWritten present)).map
    fun e => copyLine e.destination ++ continuation

/-- Only the line of the last entry is not continued. -/
theorem linesOf_append_singleton
    (present : Word → Bool) (es : List Entry) (e : Entry) :
    linesOf present (es ++ [e]) =
      earlyLines present es ++ e.lines present [] := by
  induction es with
  | nil => exact List.append_nil _
  | cons e' es ih =>
      have hrest : (es ++ [e]).isEmpty = false := by
        simp
      rw [List.cons_append, linesOf, hrest, ih, earlyLines, earlyLines]
      by_cases hwritten : e'.isWritten present = true
      · rw [Entry.lines, if_pos hwritten, List.filter_cons_of_pos hwritten]
        rfl
      · rw [Entry.lines, if_neg hwritten, List.filter_cons_of_neg hwritten]
        rfl

/-! ## Well-formed blocks -/

/-- The line is continued on the next one. -/
def Continued (line : Word) : Prop :=
  line.getLast? = some '\\'

instance (line : Word) : Decidable (Continued line) :=
  inferInstanceAs (Decidable (_ = _))

/-- A line without its continuation. -/
def uncontinued (line : Word) : Word :=
  if Continued line then line.take (line.length - 2) else line

/-- The block has one line for each unmarked entry whose file is there, in the
order of the list.  All of them but the last are continued. -/
structure WellFormedBlock (present : Word → Bool) (list : List Line)
    (lines : List Word) : Prop where
  contents : lines.map uncontinued =
    ((entriesOf list).filter (Entry.isWritten present)).map
      fun e => copyLine e.destination
  continued : ∀ line ∈ lines.dropLast, Continued line
  ended : ∀ line ∈ lines.getLast?, ¬Continued line

theorem continued_append_continuation (line : Word) :
    Continued (line ++ continuation) := by
  rw [Continued, continuation, List.getLast?_append]
  rfl

/-- A line ends with the name of its file. -/
theorem exists_copyLine_eq (file : Word) :
    ∃ front, copyLine file = front ++ file :=
  ⟨_, rfl⟩

theorem not_continued_copyLine (e : Entry) :
    ¬Continued (copyLine e.destination) := by
  intro h
  obtain ⟨front, hline⟩ := exists_copyLine_eq e.destination
  rw [Continued, hline, List.getLast?_append] at h
  have hne : e.destination ≠ [] := (e.dest.getD e.file).nonempty
  rw [List.getLast?_eq_some_getLast hne, Option.some_or,
    Option.some.injEq] at h
  have hplain := (e.dest.getD e.file).plain _ (List.getLast_mem hne)
  change isPlain (e.destination.getLast hne) = true at hplain
  rw [h] at hplain
  exact absurd hplain (by decide)

theorem uncontinued_copyLine (e : Entry) :
    uncontinued (copyLine e.destination) = copyLine e.destination :=
  if_neg (not_continued_copyLine e)

theorem uncontinued_append_continuation (line : Word) :
    uncontinued (line ++ continuation) = line := by
  rw [uncontinued, if_pos (continued_append_continuation line),
    List.length_append, continuation]
  exact List.take_left

theorem map_uncontinued_lines
    (present : Word → Bool) (e : Entry) {lineend : Word}
    (h : lineend = [] ∨ lineend = continuation) :
    (e.lines present lineend).map uncontinued =
      ([e].filter (Entry.isWritten present)).map
        fun e => copyLine e.destination := by
  rw [Entry.lines]
  by_cases hwritten : e.isWritten present = true
  · rw [if_pos hwritten, List.filter_cons_of_pos hwritten,
      List.map_singleton]
    rcases h with rfl | rfl
    · rw [List.append_nil, uncontinued_copyLine]
      rfl
    · rw [uncontinued_append_continuation]
      rfl
  · rw [if_neg hwritten, List.filter_cons_of_neg hwritten]
    rfl

/-- Apart from the continuations the block is always right. -/
theorem map_uncontinued_linesOf (present : Word → Bool) (es : List Entry) :
    (linesOf present es).map uncontinued =
      (es.filter (Entry.isWritten present)).map
        fun e => copyLine e.destination := by
  induction es with
  | nil => rfl
  | cons e es ih =>
      have hlineend : (if es.isEmpty then [] else continuation) = [] ∨
          (if es.isEmpty then [] else continuation) = continuation := by
        by_cases hes : es.isEmpty = true
        · exact .inl (if_pos hes)
        · exact .inr (if_neg hes)
      rw [linesOf, List.map_append, map_uncontinued_lines present e hlineend,
        ih, ← List.map_append, ← List.filter_append]
      rfl

section

variable (present : Word → Bool) (es : List Entry)

theorem continued_of_mem_earlyLines {line : Word}
    (h : line ∈ earlyLines present es) :
    Continued line := by
  obtain ⟨e, -, rfl⟩ := List.mem_map.mp h
  exact continued_append_continuation _

/-- If there are early lines and no line behind them, the last of them should
not be continued. -/
theorem earlyLines_ended_iff :
    (∀ line ∈ (earlyLines present es).getLast?, ¬Continued line) ↔
      earlyLines present es = [] := by
  constructor
  · intro h
    by_contra hne
    exact h _ (List.getLast?_eq_some_getLast hne)
      (continued_of_mem_earlyLines present es (List.getLast_mem hne))
  · intro hnil line hline
    rw [hnil] at hline
    exact absurd hline (Option.not_mem_none line)

theorem earlyLines_eq_nil_iff :
    earlyLines present es = [] ↔ ∀ e ∈ es, e.isWritten present = false := by
  rw [earlyLines, List.map_eq_nil_iff, List.filter_eq_nil_iff]
  simp only [Bool.not_eq_true]

end

/-- The block is well formed exactly if no entry has a line, or the last entry
of the list has one. -/
theorem wellFormedBlock_iff (present : Word → Bool) (list : List Line) :
    WellFormedBlock present list (copyBlock present list) ↔
      (∀ e ∈ entriesOf list, e.isWritten present = false) ∨
        ∃ e, (entriesOf list).getLast? = some e ∧
          e.isWritten present = true := by
  have hcontents := map_uncontinued_linesOf present (entriesOf list)
  rw [copyBlock_eq]
  rcases List.eq_nil_or_concat' (entriesOf list) with hnil | ⟨es, e, hes⟩
  · have hlines : linesOf present (entriesOf list) = [] := by
      rw [hnil]
      rfl
    refine iff_of_true ⟨hcontents, ?_, ?_⟩ (.inl ?_)
    · simp [hlines]
    · simp [hlines]
    · simp [hnil]
  have hlines : linesOf present (entriesOf list) =
      earlyLines present es ++ e.lines present [] := by
    rw [hes]
    exact linesOf_append_singleton present es e
  have hlast : (entriesOf list).getLast? = some e := by
    rw [hes]
    exact List.getLast?_concat
  by_cases hwritten : e.isWritten present = true
  · rw [Entry.lines, if_pos hwritten, List.append_nil] at hlines
    refine iff_of_true ⟨hcontents, ?_, ?_⟩ (.inr ⟨e, hlast, hwritten⟩)
    · rw [hlines, List.dropLast_concat]
      exact fun line => continued_of_mem_earlyLines present es
    · rw [hlines, List.getLast?_concat]
      rintro line ⟨⟩
      exact not_continued_copyLine e
  · rw [Entry.lines, if_neg hwritten, List.append_nil] at hlines
    have hcondition : ((∀ e ∈ entriesOf list, e.isWritten present = false) ∨
        ∃ e, (entriesOf list).getLast? = some e ∧
          e.isWritten present = true) ↔ earlyLines present es = [] := by
      rw [earlyLines_eq_nil_iff, hes]
      simp [hwritten, or_imp, forall_and]
    rw [hcondition, ← earlyLines_ended_iff, ← hlines]
    constructor
    · exact fun h => h.ended
    · intro hended
      refine ⟨hcontents, ?_, hended⟩
      rw [hlines]
      exact fun line hline =>
        continued_of_mem_earlyLines present es (List.dropLast_subset _ hline)

/-- The entry `lib/a.so`, and the marked entry `-lib/b.so` behind it. -/
def markedList : List Line :=
  [.entry { marked := false, file := libA, dest := none },
    .entry { marked := true, file := libB, dest := none }]

/-- The countdown ends at the marked entry, and the only line is continued. -/
theorem not_wellFormedBlock_of_marked :
    copyBlock (fun _ => true) markedList =
        [("    vendor/mts/smart_surf2_4g/proprietary/lib/a.so" ++
          ":system/lib/a.so \\").toList] ∧
      ¬WellFormedBlock (fun _ => true) markedList
        (copyBlock (fun _ => true) markedList) := by
  have hblock : copyBlock (fun _ => true) markedList =
      [("    vendor/mts/smart_surf2_4g/proprietary/lib/a.so" ++
        ":system/lib/a.so \\").toList] := by
    decide +kernel
  have hlast := congrArg List.getLast? hblock
  exact ⟨hblock, fun h => h.ended _ hlast (by decide +kernel)⟩

end SmartSurf.Blobs
