import SmartSurf.Support.Delimited

/-!
# The parts of the shell used by the scripts

Texts are lists of characters.  The functions say what bash and the tools it
calls do with words in which nothing is left to expand: no quotes, no
substitutions and no file name patterns.
-/

namespace SmartSurf

/-- A word of a command, or a line of a file. -/
abbrev Word := List Char

namespace Shell

open Support

/-! ## Characters and words -/

/-- The visible characters that mean something to the shell inside a word; the
last six are the quotes, the backslash and the braces. -/
def special : List Char :=
  ['|', '&', ';', '<', '>', '(', ')', '$', '*', '?', '[', '~',
    '\x22', '\x27', '\x60', '\x5c', '\x7b', '\x7d']

/-- A visible character which the shell leaves as it is. -/
def isPlain (c : Char) : Bool :=
  ' ' < c && c ≤ '~' && !special.contains c

def isBlank (c : Char) : Bool :=
  c == ' ' || c == '\t'

/-- The words of a line. -/
def words (line : Word) : List Word :=
  (line.splitOnP isBlank).filter (· != [])

theorem isBlank_of_isPlain {c : Char} (h : isPlain c = true) :
    isBlank c = false := by
  rw [Bool.eq_false_iff]
  intro hblank
  rw [isBlank, Bool.or_eq_true, beq_iff_eq, beq_iff_eq] at hblank
  rcases hblank with rfl | rfl
  · exact absurd h (by decide)
  · exact absurd h (by decide)

theorem words_of_plain
    {w : Word} (hne : w ≠ []) (hplain : ∀ c ∈ w, isPlain c = true) :
    words w = [w] := by
  have hblank : ∀ c ∈ w, isBlank c = false := fun c hc =>
    isBlank_of_isPlain (hplain c hc)
  rw [words, List.splitOnP_eq_singleton hblank]
  simp [hne]

/-! ## Commands -/

/-- An argument in front of the first text which `echo` takes as an option:
`-` and some of the letters `n`, `e` and `E`. -/
def isOption : Word → Bool
  | '-' :: c :: cs => (c :: cs).all fun d => d == 'n' || d == 'e' || d == 'E'
  | _ => false

/-- The words that `echo` prints. -/
def echo (args : List Word) : List Word :=
  args.dropWhile isOption

/-- The lines that `egrep -v '(^#|^$)'` prints. -/
def egrep (lines : List Word) : List Word :=
  lines.filter fun line => line.head? != none && line.head? != some '#'

/-- The call of `sed` that removes a dash at the start of a line. -/
def stripDash : Word → Word
  | '-' :: cs => cs
  | cs => cs

theorem isOption_iff {w : Word} :
    isOption w = true ↔
      ∃ c cs, w = '-' :: c :: cs ∧
        ∀ d ∈ c :: cs, d = 'n' ∨ d = 'e' ∨ d = 'E' := by
  rw [isOption.eq_def]
  split
  next c cs =>
    simp only [List.all_eq_true, Bool.or_eq_true, beq_iff_eq, or_assoc]
    constructor
    · intro hall
      exact ⟨c, cs, rfl, hall⟩
    · rintro ⟨c', cs', heq, hall⟩
      obtain ⟨-, rfl, rfl⟩ := heq
      exact hall
  next hshape =>
    refine iff_of_false (by decide) ?_
    rintro ⟨c, cs, rfl, -⟩
    exact hshape c cs rfl

theorem stripDash_of_head {w : Word} (h : w.head? ≠ some '-') :
    stripDash w = w := by
  rw [stripDash.eq_def]
  split
  next cs => exact absurd rfl h
  next => rfl

theorem echo_echo (args : List Word) : echo (echo args) = echo args :=
  List.dropWhile_idempotent _ _

/-- A loop over the words that `echo` prints is one over its arguments, if it
does nothing for options. -/
theorem foldl_echo
    {β : Type} {f : β → Word → β} {args : List Word}
    (h : ∀ w ∈ args, isOption w = true → ∀ b, f b w = b) (b : β) :
    (echo args).foldl f b = args.foldl f b := by
  rw [echo]
  induction args with
  | nil => rfl
  | cons w args ih =>
      by_cases hoption : isOption w = true
      · rw [List.dropWhile_cons_of_pos hoption, List.foldl_cons,
          h w List.mem_cons_self hoption]
        exact ih fun w' hw' => h w' (List.mem_cons_of_mem _ hw')
      · rw [List.dropWhile_cons_of_neg hoption]

/-! ## Arrays -/

/-- The array `($w)` if `IFS` is one character that is not a blank.  Every
separator ends an element. -/
def splitFields (sep : Char) (w : Word) : List Word :=
  let pieces := w.splitOn sep
  if pieces.getLast? = some [] then pieces.dropLast else pieces

/-- `${array[i]}`. -/
def element (array : List Word) (i : ℕ) : Word :=
  array[i]?.getD []

theorem splitFields_joinWith
    {sep : Char} {pieces : List Word}
    (hne : pieces ≠ []) (htokens : Tokens sep pieces) :
    splitFields sep (joinWith sep pieces) = pieces := by
  have hsplit : (joinWith sep pieces).splitOn sep = pieces :=
    List.splitOn_intercalate sep (fun p hp => (htokens p hp).2) hne
  have hlast : pieces.getLast? ≠ some [] := by
    intro hnil
    exact (htokens [] (List.mem_of_getLast? hnil)).1 rfl
  rw [splitFields, hsplit, if_neg hlast]

end Shell

end SmartSurf
