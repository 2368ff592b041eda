import SmartSurf.Blobs.Entries
import SmartSurf.Support.Overwrites

/-!
# Extracting the proprietary files

`extract` takes the files of the list from a device with `adb pull`, or from an
unpacked ROM with `cp`.  The file at the destination of an entry should be
preferred, and the file under its first name taken otherwise.  The device is
asked for both in this order.  In the unpacked ROM the test for the first one
looks at the text of its path, which is never empty, so that the file under the
first name is always taken.
-/

namespace SmartSurf.Blobs

open Support Shell

/-! ## The function -/

/-- `DEST`, which is `FILE` if the entry has none. -/
def destOf (array : List Word) : Word :=
  if element array 1 = [] then fileOf array else element array 1

section

variable {P C : Type} {place : Word → P}

/-- The files below `/system` of a device, or below `system/` of an unpacked
ROM; `place` says which file a name denotes.  The empty name denotes the tree
itself, which is not a file. -/
structure Tree (place : Word → P) (C : Type) where
  file : P → Option C
  root : file (place []) = none

/-- The file with a name. -/
def Tree.named (T : Tree place C) (name : Word) : Option C :=
  T.file (place name)

variable [DecidableEq P]

/-- `adb pull` or `cp` of a file to `$BASE/target`, with its success. -/
def copy (T : Tree place C) (source target : Word) (base : P → Option C) :
    Bool × (P → Option C) :=
  ((T.named source).isSome, put base (place target) (T.named source))

def adb : Word :=
  "adb".toList

/-- One round of the loop, with the value of `SRC`. -/
def extractRound (src : Word) (device rom : Tree place C)
    (base : P → Option C) (word : Word) : P → Option C :=
  let array := parsingArray word
  let file := fileOf array
  let dest := destOf array
  if src = adb then
    let pulled := copy device dest dest base
    if pulled.1 then pulled.2 else (copy device file dest pulled.2).2
  else if src ++ "/system/".toList ++ dest = [] then
    (copy rom dest dest base).2
  else
    (copy rom file dest base).2

/-- The function `extract` of `extract-files.sh`. -/
def extract (src : Word) (device rom : Tree place C) (list : List Line)
    (base : P → Option C) : P → Option C :=
  (blobWords list).foldl (extractRound src device rom) base

/-- The path of an unpacked ROM: one word, which is not read as an option of
`cp` and not taken for the device. -/
structure RomPath where
  text : Word
  allPlain : text.all isPlain = true
  allowedStart : text.head? ≠ some '-'
  ne_adb : text ≠ adb

/-! ## What one round copies -/

/-- What the rule wants: the file at the destination if there is one, and the
file under the first name otherwise. -/
def Entry.wanted (T : Tree place C) (e : Entry) : Option C :=
  (T.named e.destination).or (T.named e.file.text)

/-- What is copied from a device. -/
def Entry.pulled (T : Tree place C) (e : Entry) : Option C :=
  if e.isOption then e.dest.bind fun d => T.named d.text else e.wanted T

/-- What is copied from an unpacked ROM. -/
def Entry.copied (T : Tree place C) (e : Entry) : Option C :=
  if e.isOption then none else T.named e.file.text

section

omit [DecidableEq P]

variable {T : Tree place C} {e : Entry}

theorem Entry.wanted_of_none (h : T.named e.destination = none) :
    e.wanted T = T.named e.file.text := by
  rw [Entry.wanted, h]
  rfl

theorem Entry.wanted_of_some {c : C} (h : T.named e.destination = some c) :
    e.wanted T = some c := by
  rw [Entry.wanted, h]
  rfl

/-- Without a file at the destination, both sources give the same. -/
theorem Entry.pulled_of_none (h : T.named e.destination = none) :
    e.pulled T = e.copied T := by
  rw [Entry.pulled, Entry.copied, Entry.wanted_of_none h]
  by_cases hoption : e.isOption = true
  · rw [if_pos hoption, if_pos hoption]
    rcases hdest : e.dest with _ | d
    · rfl
    · rw [Entry.destination, hdest] at h
      exact h
  · rw [if_neg hoption, if_neg hoption]

/-- With a file at the destination, the device gives that file, unless the
whole entry is an option. -/
theorem Entry.pulled_of_some {c : C} (h : T.named e.destination = some c) :
    e.pulled T = some c ∨ e.pulled T = none ∧ e.copied T = none := by
  rw [Entry.pulled, Entry.copied, Entry.wanted_of_some h]
  by_cases hoption : e.isOption = true
  · rw [if_pos hoption, if_pos hoption]
    rcases hdest : e.dest with _ | d
    · exact .inr ⟨rfl, rfl⟩
    · rw [Entry.destination, hdest] at h
      exact .inl h
  · rw [if_neg hoption]
    exact .inl rfl

end

theorem copy_or (T : Tree place C) (dest file : Word) (base : P → Option C) :
    (if (copy T dest dest base).1 then (copy T dest dest base).2
      else (copy T file dest (copy T dest dest base).2).2) =
      put base (place dest) ((T.named dest).or (T.named file)) := by
  rcases hdest : T.named dest with _ | c
  · simp [copy, hdest, put]
  · simp [copy, hdest]

theorem destOf_word (e : Entry) :
    destOf (parsingArray e.word) =
      if e.dest = none ∧ e.isOption = true then [] else e.destination := by
  rw [destOf, e.element_one_word, e.fileOf_word, Entry.destination]
  rcases e.dest with _ | d
  · simp
  · simp [d.nonempty]

theorem extractRound_adb
    (device rom : Tree place C) (base : P → Option C) (e : Entry) :
    extractRound adb device rom base e.word =
      put base (place e.destination) (e.pulled device) := by
  have hroot : device.named [] = none := device.root
  simp only [extractRound, destOf_word, e.fileOf_word, copy_or, if_true]
  rw [Entry.pulled, Entry.wanted, Entry.destination]
  by_cases hoption : e.isOption = true
  · rcases e.dest with _ | d
    · simp [hoption, hroot, put]
    · simp [hoption, hroot]
  · simp [hoption]

theorem extractRound_rom
    (src : RomPath) (device rom : Tree place C) (base : P → Option C)
    (e : Entry) :
    extractRound src.text device rom base e.word =
      put base (place e.destination) (e.copied rom) := by
  have hroot : rom.named [] = none := rom.root
  have hpath (dest : Word) : ¬src.text ++ "/system/".toList ++ dest = [] := by
    simp
  simp only [extractRound, destOf_word, e.fileOf_word, if_neg src.ne_adb,
    if_neg (hpath _), copy]
  rw [Entry.copied]
  by_cases hoption : e.isOption = true
  · simp [hoption, hroot, put]
  · simp [hoption]

/-! ## What a run copies -/

/-- The copies of a run: for each entry its destination, and what is taken for
it. -/
def copies (place : Word → P) (taken : Entry → Option C) (list : List Line) :
    List (P × Option C) :=
  (entriesOf list).map fun e => (place e.destination, taken e)

/-- A run makes the copies of its entries in order. -/
theorem extract_eq_putAll
    {src : Word} {device rom : Tree place C} {taken : Entry → Option C}
    (hround : ∀ base e, extractRound src device rom base e.word =
      put base (place e.destination) (taken e))
    (hoption : ∀ e : Entry, e.dest = none → e.isOption = true →
      taken e = none)
    (list : List Line) (base : P → Option C) :
    extract src device rom list base =
      putAll base (copies place taken list) := by
  have hskip : ∀ w ∈ (entriesOf list).map Entry.word, isOption w = true →
      ∀ base, extractRound src device rom base w = base := by
    intro w hw hword base
    obtain ⟨e, -, rfl⟩ := List.mem_map.mp hw
    obtain ⟨hdest, hname⟩ := e.isOption_word hword
    rw [hround, hoption e hdest hname]
    rfl
  rw [extract, blobWords_eq, foldl_echo hskip, List.foldl_map, putAll, copies,
    List.foldl_map]
  simp only [hround]

theorem extract_adb (device rom : Tree place C) (list : List Line)
    (base : P → Option C) :
    extract adb device rom list base =
      putAll base (copies place (Entry.pulled device) list) := by
  apply extract_eq_putAll (extractRound_adb device rom)
  intro e hdest hname
  rw [Entry.pulled, if_pos hname, hdest]
  rfl

theorem extract_rom (src : RomPath) (device rom : Tree place C)
    (list : List Line) (base : P → Option C) :
    extract src.text device rom list base =
      putAll base (copies place (Entry.copied rom) list) := by
  apply extract_eq_putAll (extractRound_rom src device rom)
  intro e _ hname
  rw [Entry.copied, if_pos hname]

/-! ## The rule for renamed files -/

/-- `$BASE` filled by the rule. -/
def specified (T : Tree place C) (list : List Line) (base : P → Option C) :
    P → Option C :=
  putAll base (copies place (Entry.wanted T) list)

/-- The last file under the first name of an entry for a place. -/
def lastNamed (T : Tree place C) (list : List Line) (x : P) : Option C :=
  lastPut x (copies place (fun e => T.named e.file.text) list)

/-- The last of these files that is copied from an unpacked ROM. -/
def lastCopied (T : Tree place C) (list : List Line) (x : P) : Option C :=
  lastPut x (copies place (Entry.copied T) list)

section

variable {T : Tree place C} {list : List Line} {base : P → Option C} {x : P}

omit [DecidableEq P] in
theorem named_destination {e : Entry} (hplace : place e.destination = x) :
    T.named e.destination = T.file x := by
  rw [Tree.named, hplace]

theorem lastPut_wanted_of_some
    {c : C} (hx : T.file x = some c)
    (hdest : ∃ e ∈ entriesOf list, place e.destination = x) :
    lastPut x (copies place (Entry.wanted T) list) = some c := by
  have hvalue : ∀ e : Entry, place e.destination = x →
      e.wanted T = some c := fun e hplace =>
    e.wanted_of_some ((named_destination hplace).trans hx)
  obtain ⟨e, he, hplace⟩ := hdest
  apply lastPut_eq_some
  · intro e' _ hplace'
    exact .inl (hvalue e' hplace')
  · refine ⟨e, he, hplace, ?_⟩
    rw [hvalue e hplace]
    exact Option.some_ne_none c

theorem specified_apply
    (hdest : ∃ e ∈ entriesOf list, place e.destination = x) :
    specified T list base x =
      ((T.file x).or (lastNamed T list x)).or (base x) := by
  rw [specified, putAll_apply]
  rcases hx : T.file x with _ | c
  · have hnamed : lastPut x (copies place (Entry.wanted T) list) =
        lastNamed T list x :=
      lastPut_congr fun e _ hplace =>
        e.wanted_of_none ((named_destination hplace).trans hx)
    rw [hnamed]
    rfl
  · rw [lastPut_wanted_of_some hx hdest]
    rfl

/-- A place which is no destination keeps its contents. -/
theorem putAll_apply_of_not_dest
    (hdest : ¬∃ e ∈ entriesOf list, place e.destination = x)
    (taken : Entry → Option C) :
    putAll base (copies place taken list) x = base x := by
  have hnone : lastPut x (copies place taken list) = none := by
    rw [lastPut_eq_none_iff]
    intro write hwrite hkey
    obtain ⟨e, he, rfl⟩ := List.mem_map.mp hwrite
    exact absurd ⟨e, he, hkey⟩ hdest
  rw [putAll_apply, hnone]
  rfl

/-- From a device, a place gets what it should get, or what it gets from an
unpacked ROM. -/
theorem lastPut_pulled (T : Tree place C) (list : List Line) (x : P) :
    lastPut x (copies place (Entry.pulled T) list) = lastCopied T list x ∨
      lastPut x (copies place (Entry.pulled T) list) =
        lastPut x (copies place (Entry.wanted T) list) := by
  rcases hx : T.file x with _ | c
  · left
    apply lastPut_congr
    intro e _ hplace
    exact e.pulled_of_none ((named_destination hplace).trans hx)
  have hpulled : ∀ e : Entry, place e.destination = x →
      e.pulled T = some c ∨ e.pulled T = none ∧ e.copied T = none :=
    fun e hplace => e.pulled_of_some ((named_destination hplace).trans hx)
  by_cases hsome : ∃ e ∈ entriesOf list, place e.destination = x ∧
      e.pulled T ≠ none
  · right
    have hdest : ∃ e ∈ entriesOf list, place e.destination = x := by
      obtain ⟨e, he, hplace, -⟩ := hsome
      exact ⟨e, he, hplace⟩
    rw [lastPut_wanted_of_some hx hdest]
    refine lastPut_eq_some ?_ hsome
    intro e _ hplace
    exact (hpulled e hplace).imp_right And.left
  · left
    apply lastPut_congr
    intro e he hplace
    have hnone : e.pulled T = none := by
      by_contra hne
      exact hsome ⟨e, he, hplace, hne⟩
    rcases hpulled e hplace with hc | ⟨-, hcopied⟩
    · rw [hnone] at hc
      cases hc
    · rw [hnone, hcopied]

/-- An entry for a place whose file under the first name the tree has. -/
def Entry.Supplies (T : Tree place C) (x : P) (e : Entry) : Prop :=
  place e.destination = x ∧ T.named e.file.text ≠ none

theorem lastPut_copies_eq_none_iff {taken : Entry → Option C} :
    lastPut x (copies place taken list) = none ↔
      ∀ e ∈ entriesOf list, place e.destination = x → taken e = none := by
  rw [lastPut_eq_none_iff, copies, List.forall_mem_map]

theorem lastNamed_eq_some_iff {c : C} :
    lastNamed T list x = some c ↔
      ∃ e, IsLast (Entry.Supplies T x) (entriesOf list) e ∧
        T.named e.file.text = some c :=
  lastPut_eq_some_iff

theorem lastNamed_eq_none_iff :
    lastNamed T list x = none ↔ ∀ e ∈ entriesOf list, ¬e.Supplies T x := by
  rw [lastNamed, lastPut_copies_eq_none_iff]
  simp only [Entry.Supplies, not_and, not_not]

omit [DecidableEq P] in
theorem Entry.copied_ne_none_iff {e : Entry} :
    place e.destination = x ∧ e.copied T ≠ none ↔
      e.isOption = false ∧ e.Supplies T x := by
  rw [Entry.copied, Entry.Supplies]
  cases e.isOption with
  | false => simp
  | true => simp

theorem lastCopied_eq_some_iff {c : C} :
    lastCopied T list x = some c ↔
      ∃ e, IsLast (fun e => e.isOption = false ∧ e.Supplies T x)
          (entriesOf list) e ∧
        T.named e.file.text = some c := by
  rw [lastCopied, copies, lastPut_eq_some_iff]
  simp only [Entry.copied_ne_none_iff]
  refine exists_congr fun e => and_congr_right fun hlast => ?_
  rw [Entry.copied, hlast.prop.1]
  rfl

theorem lastCopied_eq_none_iff :
    lastCopied T list x = none ↔
      ∀ e ∈ entriesOf list, e.isOption = false → ¬e.Supplies T x := by
  rw [lastCopied, lastPut_copies_eq_none_iff]
  refine forall₂_congr fun e _ => ?_
  rw [← not_and, ← Entry.copied_ne_none_iff, not_and, not_not]

/-! ## When both runs follow the rule -/

/-- A run with the device and a run with an unpacked ROM, both of which have
the files of `T`, fill `$BASE` by the rule. -/
def FollowRule (src : RomPath) (T device rom : Tree place C)
    (list : List Line) (base : P → Option C) : Prop :=
  extract adb T rom list base = specified T list base ∧
    extract src.text device T list base = specified T list base

/-- If the unpacked ROM gives every destination the right file, so does the
device. -/
theorem followRule_iff_lastCopied
    (src : RomPath) (T device rom : Tree place C) (list : List Line)
    (base : P → Option C) :
    FollowRule src T device rom list base ↔
      ∀ e ∈ entriesOf list,
        (lastCopied T list (place e.destination)).or
            (base (place e.destination)) =
          ((T.named e.destination).or
            (lastNamed T list (place e.destination))).or
            (base (place e.destination)) := by
  have hcopied : ∀ x, extract src.text device T list base x =
      (lastCopied T list x).or (base x) := by
    intro x
    rw [extract_rom, putAll_apply]
    rfl
  constructor
  · rintro ⟨-, hrom⟩ e he
    rw [← hcopied, hrom]
    exact specified_apply ⟨e, he, rfl⟩
  · intro h
    have hrom : extract src.text device T list base =
        specified T list base := by
      funext x
      by_cases hdest : ∃ e ∈ entriesOf list, place e.destination = x
      · rw [hcopied, specified_apply hdest]
        obtain ⟨e, he, rfl⟩ := hdest
        exact h e he
      · rw [extract_rom, specified, putAll_apply_of_not_dest hdest,
          putAll_apply_of_not_dest hdest]
    refine ⟨?_, hrom⟩
    funext x
    rw [extract_adb, putAll_apply]
    rcases lastPut_pulled T list x with hsame | hright
    · rw [hsame, ← hcopied, hrom]
    · rw [hright, specified, putAll_apply]

/-- Both runs follow the rule exactly if two kinds of files come out of the
unpacked ROM all the same: a file that the tree has at a destination, and the
file of an entry that `echo` takes as an option, where it is the last one for a
destination which the tree does not have.  Such a file comes out if the last
readable entry for the destination whose first name the tree has stands for the
same contents, or if there is no such entry and `$BASE` has them already. -/
theorem followRule_iff
    (src : RomPath) (T device rom : Tree place C) (list : List Line)
    (base : P → Option C) :
    FollowRule src T device rom list base ↔
      ∀ e ∈ entriesOf list, ∀ c,
        T.named e.destination = some c ∨
          T.named e.destination = none ∧ e.isOption = true ∧
            IsLast (Entry.Supplies T (place e.destination))
              (entriesOf list) e ∧
            T.named e.file.text = some c →
        (∃ e', IsLast (fun e' => e'.isOption = false ∧
              e'.Supplies T (place e.destination)) (entriesOf list) e' ∧
            T.named e'.file.text = some c) ∨
          (∀ e' ∈ entriesOf list, e'.isOption = false →
            ¬e'.Supplies T (place e.destination)) ∧
            base (place e.destination) = some c := by
  simp only [← lastCopied_eq_some_iff, ← lastCopied_eq_none_iff,
    ← Option.or_eq_some_iff]
  rw [followRule_iff_lastCopied]
  constructor
  · intro h e he c hc
    rw [h e he]
    rcases hc with hdest | ⟨hdest, -, hlast, hfile⟩
    · rw [hdest]
      rfl
    · rw [hdest, lastNamed_eq_some_iff.mpr ⟨e, hlast, hfile⟩]
      rfl
  · intro h e he
    -- Without a file at the destination the rule takes the last first name.
    rcases hdest : T.named e.destination with _ | c
    · rcases hnamed : lastNamed T list (place e.destination) with _ | c
      · have hcopied : lastCopied T list (place e.destination) = none :=
          lastCopied_eq_none_iff.mpr fun e' he' _ =>
            lastNamed_eq_none_iff.mp hnamed e' he'
        rw [hcopied]
        rfl
      · obtain ⟨e', hlast, hfile⟩ := lastNamed_eq_some_iff.mp hnamed
        have hplace := hlast.prop.1
        -- If the last entry is not lost as an option, it is the last readable
        -- one as well; otherwise the condition speaks of it.
        by_cases hoption : e'.isOption = true
        · have hsame := h e' hlast.mem c
          rw [hplace] at hsame
          refine hsame (.inr ⟨?_, hoption, hlast, hfile⟩)
          rw [← hdest, named_destination hplace, named_destination rfl]
        · have hread : e'.isOption = false := Bool.not_eq_true _ ▸ hoption
          rw [lastCopied_eq_some_iff.mpr ⟨e', hlast.of_imp
            (fun _ => And.right) ⟨hread, hlast.prop⟩, hfile⟩]
          rfl
    · exact h e he c (.inl hdest)

end

end

/-- The list with the one entry `lib/a.so:lib/b.so`. -/
def renamedList : List Line :=
  [.entry { marked := false, file := libA, dest := some libB }]

/-- A tree with both files of the entry. -/
def renamedTree : Tree (id : Word → Word) ℕ where
  file w :=
    if w = libA.text then some 1
    else if w = libB.text then some 2
    else none
  root := rfl

/-- The device gives the file at the destination, an unpacked ROM with the same
files the one under the first name. -/
theorem not_followRule_of_renamed :
    extract adb renamedTree renamedTree renamedList (fun _ => none)
        libB.text = some 2 ∧
      extract "rom".toList renamedTree renamedTree renamedList (fun _ => none)
        libB.text = some 1 ∧
      ¬FollowRule ⟨"rom".toList, by decide, by decide, by decide⟩ renamedTree
        renamedTree renamedTree renamedList fun _ => none := by
  have hdevice : extract adb renamedTree renamedTree renamedList
      (fun _ => none) libB.text = some 2 := by
    decide +kernel
  have hrom : extract "rom".toList renamedTree renamedTree renamedList
      (fun _ => none) libB.text = some 1 := by
    decide +kernel
  refine ⟨hdevice, hrom, ?_⟩
  rintro ⟨hadb, hdirectory⟩
  have hsame := congrFun (hadb.trans hdirectory.symm) libB.text
  rw [hdevice, hrom] at hsame
  exact absurd hsame (by decide)

end SmartSurf.Blobs
