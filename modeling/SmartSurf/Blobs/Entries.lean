import SmartSurf.Platform.Shell

/-!
# The list of proprietary files

Both scripts read a list of entries `FILE` or `FILE:DEST`, which may be marked
with a dash in front, between comments and empty lines.  The entry is taken
apart by the shell: the array that is split at colons, and `echo` with `sed`
to remove the mark.  A marked name made of the letters `n`, `e` and `E` is an
option of `echo`, so that nothing is left of it.
-/

namespace SmartSurf.Blobs

open Support Shell

/-! ## Entries -/

/-- The name of a file: characters that the shell leaves alone, without a
colon, and none in front that is read as a mark or a comment. -/
structure BlobPath where
  text : Word
  allPlain : text.all isPlain = true
  unsplit : ':' ∉ text
  nonempty : text ≠ []
  allowedStart : text.head?.all (fun c => c != '-' && c != '#') = true

theorem BlobPath.plain (path : BlobPath) :
    ∀ c ∈ path.text, isPlain c = true :=
  List.all_eq_true.mp path.allPlain

theorem BlobPath.start (path : BlobPath) {c : Char}
    (hc : path.text.head? = some c) :
    c ≠ '-' ∧ c ≠ '#' := by
  have hallowed := path.allowedStart
  rw [hc, Option.all_some, Bool.and_eq_true, bne_iff_ne, bne_iff_ne]
    at hallowed
  exact hallowed

/-- An entry of the list. -/
structure Entry where
  marked : Bool
  file : BlobPath
  dest : Option BlobPath

namespace Entry

/-- What stands in front of the colon. -/
def name (e : Entry) : Word :=
  if e.marked then '-' :: e.file.text else e.file.text

/-- The entry as it is written. -/
def word (e : Entry) : Word :=
  joinWith ':' (e.name :: e.dest.toList.map BlobPath.text)

/-- Where the file goes: `DEST`, or `FILE` if there is none. -/
def destination (e : Entry) : Word :=
  (e.dest.getD e.file).text

end Entry

/-- A line of the list. -/
inductive Line where
  | empty
  | comment (text : Word)
  | entry (e : Entry)

def Line.text : Line → Word
  | .empty => []
  | .comment text => '#' :: text
  | .entry e => e.word

def Line.entry? : Line → Option Entry
  | .entry e => some e
  | _ => none

/-- The entries of a list, in order. -/
def entriesOf (list : List Line) : List Entry :=
  list.filterMap Line.entry?

/-! ## How the scripts read them -/

/-- The words of a list: `eval echo` with the lines that `egrep` prints. -/
def blobWords (list : List Line) : List Word :=
  echo ((egrep (list.map Line.text)).flatMap words)

/-- `PARSING_ARRAY`, which is split with `IFS=":"`. -/
def parsingArray (word : Word) : List Word :=
  splitFields ':' word

/-- `FILE`, read from the array with `echo` and `sed`. -/
def fileOf (array : List Word) : Word :=
  stripDash (echo [element array 0]).flatten

/-! ## What they read -/

namespace Entry

variable (e : Entry)

/-- The entry is an option of `echo`. -/
def isOption : Bool :=
  Shell.isOption e.name

theorem name_ne_nil : e.name ≠ [] := by
  rw [name]
  split
  · exact List.cons_ne_nil _ _
  · exact e.file.nonempty

theorem plain_name : ∀ c ∈ e.name, isPlain c = true := by
  intro c hc
  rw [name] at hc
  split at hc
  · rcases List.mem_cons.mp hc with rfl | hc
    · decide
    · exact e.file.plain c hc
  · exact e.file.plain c hc

theorem unsplit_name : ':' ∉ e.name := by
  rw [name]
  split
  · rw [List.mem_cons, not_or]
    exact ⟨by decide, e.file.unsplit⟩
  · exact e.file.unsplit

theorem tokens_word :
    Tokens ':' (e.name :: e.dest.toList.map BlobPath.text) := by
  rw [Tokens, List.forall_mem_cons]
  refine ⟨⟨e.name_ne_nil, e.unsplit_name⟩, ?_⟩
  intro p hp
  obtain ⟨d, -, rfl⟩ := List.mem_map.mp hp
  exact ⟨d.nonempty, d.unsplit⟩

theorem parsingArray_word :
    parsingArray e.word = e.name :: e.dest.toList.map BlobPath.text :=
  splitFields_joinWith (List.cons_ne_nil _ _) e.tokens_word

theorem word_of_none (h : e.dest = none) : e.word = e.name := by
  rw [word, h]
  exact joinWith_singleton _ _

theorem word_of_some {d : BlobPath} (h : e.dest = some d) :
    e.word = e.name ++ ':' :: d.text := by
  rw [word, h]
  simp [joinWith_cons_cons]

/-- The word of an entry is that of its name, up to its destination. -/
theorem exists_word_eq : ∃ rest, e.word = e.name ++ rest ∧
    ∀ c ∈ rest, isPlain c = true := by
  rcases h : e.dest with _ | d
  · exact ⟨[], by rw [e.word_of_none h, List.append_nil], by simp⟩
  · refine ⟨':' :: d.text, e.word_of_some h, ?_⟩
    rw [List.forall_mem_cons]
    exact ⟨by decide, d.plain⟩

theorem plain_word : ∀ c ∈ e.word, isPlain c = true := by
  obtain ⟨rest, hword, hrest⟩ := e.exists_word_eq
  rw [hword, List.forall_mem_append]
  exact ⟨e.plain_name, hrest⟩

theorem word_ne_nil : e.word ≠ [] := by
  obtain ⟨rest, hword, -⟩ := e.exists_word_eq
  rw [hword]
  exact List.append_ne_nil_of_left_ne_nil e.name_ne_nil rest

theorem element_zero_word : element (parsingArray e.word) 0 = e.name := by
  rw [parsingArray_word]
  rfl

theorem element_one_word :
    element (parsingArray e.word) 1 =
      (e.dest.map BlobPath.text).getD [] := by
  rw [parsingArray_word]
  rcases e.dest with _ | d
  · rfl
  · rfl

/-- The first character tells whether the entry is marked. -/
theorem head_word :
    ∃ c, e.word.head? = some c ∧ c ≠ '#' ∧ (c = '-' ↔ e.marked = true) := by
  obtain ⟨c, cs, hfile⟩ := List.exists_cons_of_ne_nil e.file.nonempty
  have hhead : e.file.text.head? = some c := by
    rw [hfile]
    rfl
  obtain ⟨hmark, hcomment⟩ := e.file.start hhead
  obtain ⟨rest, hword, -⟩ := e.exists_word_eq
  rw [hword, name, hfile]
  rcases hmarked : e.marked with _ | _
  · exact ⟨c, rfl, hcomment, iff_of_false hmark (by decide)⟩
  · exact ⟨'-', rfl, by decide, iff_of_true rfl rfl⟩

theorem head_word_eq_iff : e.word.head? = some '-' ↔ e.marked = true := by
  obtain ⟨c, hhead, -, hdash⟩ := e.head_word
  rw [hhead, Option.some.injEq, hdash]

theorem head_name : e.name.head? = e.word.head? := by
  obtain ⟨rest, hword, -⟩ := e.exists_word_eq
  obtain ⟨c, cs, hname⟩ := List.exists_cons_of_ne_nil e.name_ne_nil
  rw [hword, hname]
  rfl

theorem marked_of_isOption (h : e.isOption = true) : e.marked = true := by
  obtain ⟨c, cs, hname, -⟩ := isOption_iff.mp h
  rw [← e.head_word_eq_iff, ← e.head_name, hname]
  rfl

/-- A whole entry is an option only if it has no destination. -/
theorem isOption_word (h : Shell.isOption e.word = true) :
    e.dest = none ∧ e.isOption = true := by
  rcases hdest : e.dest with _ | d
  · rw [e.word_of_none hdest] at h
    exact ⟨rfl, h⟩
  · obtain ⟨c, cs, hword, hall⟩ := isOption_iff.mp h
    have hcolon : ':' ∈ e.word := by
      rw [e.word_of_some hdest]
      simp
    rw [hword, List.mem_cons] at hcolon
    rcases hcolon with hdash | hletters
    · exact absurd hdash (by decide)
    · exact absurd (hall _ hletters) (by decide)

theorem fileOf_word :
    fileOf (parsingArray e.word) =
      if e.isOption then [] else e.file.text := by
  rw [fileOf, e.element_zero_word, echo, Entry.isOption]
  by_cases hoption : Shell.isOption e.name = true
  · rw [if_pos hoption, List.dropWhile_cons_of_pos hoption]
    rfl
  · rw [if_neg hoption, List.dropWhile_cons_of_neg hoption]
    simp only [List.flatten_cons, List.flatten_nil, List.append_nil]
    rcases hmarked : e.marked with _ | _
    · have hname : e.name = e.file.text := by
        rw [name, hmarked]
        rfl
      have hhead : e.name.head? ≠ some '-' := by
        rw [e.head_name, Ne, e.head_word_eq_iff, hmarked]
        decide
      rw [stripDash_of_head hhead, hname]
    · rw [name, hmarked]
      rfl

end Entry

theorem egrep_cons_entry (e : Entry) (lines : List Word) :
    egrep (e.word :: lines) = e.word :: egrep lines := by
  obtain ⟨c, hhead, hcomment, -⟩ := e.head_word
  apply List.filter_cons_of_pos
  rw [hhead]
  simpa using hcomment

/-- The words of a list are its entries, without the options at the start. -/
theorem blobWords_eq (list : List Line) :
    blobWords list = echo ((entriesOf list).map Entry.word) := by
  rw [blobWords]
  congr 1
  induction list with
  | nil => rfl
  | cons line list ih =>
      cases line with
      | empty => exact ih
      | comment text => exact ih
      | entry e =>
          have hwords := words_of_plain e.word_ne_nil e.plain_word
          rw [List.map_cons, Line.text, egrep_cons_entry, List.flatMap_cons,
            hwords, ih]
          rfl

/-! ## Two names -/

def libA : BlobPath where
  text := "lib/a.so".toList
  allPlain := by decide
  unsplit := by decide
  nonempty := by decide
  allowedStart := by decide

def libB : BlobPath where
  text := "lib/b.so".toList
  allPlain := by decide
  unsplit := by decide
  nonempty := by decide
  allowedStart := by decide

end SmartSurf.Blobs
