import SmartSurf.Blobs.Extract
import SmartSurf.Blobs.Makefile
import SmartSurf.Support.Run

/-!
# The whole script

`extract-files.sh` empties the directory of the vendor files, extracts the files
of the list from the device or from an unpacked ROM, and has the makefile
written.  With a wrong number of arguments it stops in front of all this.  So
only the last complete run counts: what earlier runs have left behind neither
remains in the directory nor in the makefile.

The directory is emptied with `rm -rf $BASE/*`, and the pattern does not match
names that begin with a dot; `hidden` says which places lie below such names.
What is extracted to such a place stays there, so only lists without such
destinations are considered.
-/

namespace SmartSurf.Blobs

open Support Shell

/-! ## The script -/

/-- The directory `$BASE`, and the lines of `PRODUCT_COPY_FILES` in the
makefile. -/
structure Vendor (P C : Type) where
  base : P → Option C
  block : List Word

/-- The value of `SRC`: the word `adb`, or the path of an unpacked ROM. -/
inductive Source where
  | device
  | rom (path : RomPath)

def Source.text : Source → Word
  | .device => adb
  | .rom path => path.text

section

variable {P C : Type} [DecidableEq P] {place : Word → P}

/-- A call of the script: its arguments, the device, the trees that the
arguments may name, and the list. -/
structure Call (place : Word → P) (C : Type) where
  args : List Source
  device : Tree place C
  rom : Word → Tree place C
  list : List Line

/-- `SRC`; with more than one argument the script ends. -/
def Call.src (c : Call place C) : Option Source :=
  match c.args with
  | [] => some .device
  | [source] => some source
  | _ => none

/-- `rm -rf $BASE/*`. -/
def removeShown (hidden : P → Bool) (base : P → Option C) : P → Option C :=
  fun x => if hidden x then base x else none

/-- `setup-makefiles.sh`. -/
def setupMakefiles (place : Word → P) (list : List Line)
    (base : P → Option C) : Vendor P C where
  base := base
  block := copyBlock (fun file => (base (place file)).isSome) list

/-- `extract-files.sh`. -/
def extractFiles (hidden : P → Bool) (vendor : Vendor P C)
    (c : Call place C) : Vendor P C :=
  match c.src with
  | none => vendor
  | some src =>
      setupMakefiles place c.list
        (extract src.text c.device (c.rom src.text) c.list
          (removeShown hidden vendor.base))

/-! ## What a run leaves -/

/-- What is taken for an entry. -/
def Call.taken (c : Call place C) : Source → Entry → Option C
  | .device => Entry.pulled c.device
  | .rom path => Entry.copied (c.rom path.text)

/-- The file that a run puts to a place. -/
def Call.obtained (c : Call place C) (src : Source) (x : P) : Option C :=
  lastPut x (copies place (c.taken src) c.list)

theorem extract_source
    (c : Call place C) (src : Source) (base : P → Option C) (x : P) :
    extract src.text c.device (c.rom src.text) c.list base x =
      (c.obtained src x).or (base x) := by
  have hputAll : extract src.text c.device (c.rom src.text) c.list base =
      putAll base (copies place (c.taken src) c.list) := by
    cases src with
    | device => exact extract_adb c.device _ c.list base
    | rom path => exact extract_rom path c.device _ c.list base
  rw [hputAll, putAll_apply, Call.obtained]

section

variable {hidden : P → Bool} {vendor : Vendor P C} {c : Call place C}
  {src : Source} (hsrc : c.src = some src)

include hsrc

theorem extractFiles_eq :
    extractFiles hidden vendor c =
      setupMakefiles place c.list
        (extract src.text c.device (c.rom src.text) c.list
          (removeShown hidden vendor.base)) := by
  rw [extractFiles, hsrc]

theorem base_extractFiles (x : P) :
    (extractFiles hidden vendor c).base x =
      (c.obtained src x).or (if hidden x then vendor.base x else none) := by
  rw [extractFiles_eq hsrc]
  exact extract_source c src _ x

end

/-! ## Many runs -/

theorem extractFiles_of_hidden
    {hidden : P → Bool} {vendor vendor' : Vendor P C} {c : Call place C}
    (hsrc : c.src.isSome = true)
    (h : ∀ x, hidden x = true → vendor'.base x = vendor.base x) :
    extractFiles hidden vendor' c = extractFiles hidden vendor c := by
  have hremoved : removeShown hidden vendor'.base =
      removeShown hidden vendor.base := by
    funext x
    rw [removeShown, removeShown]
    split
    next hx => exact h x hx
    · rfl
  obtain ⟨src, hsome⟩ := Option.isSome_iff_exists.mp hsrc
  rw [extractFiles_eq hsome, extractFiles_eq hsome, hremoved]

/-- A run leaves the hidden places alone, if they are no destinations. -/
theorem base_extractFiles_of_hidden
    {hidden : P → Bool} {c : Call place C}
    (hshown : ∀ e ∈ entriesOf c.list, hidden (place e.destination) = false)
    (vendor : Vendor P C) {x : P} (hx : hidden x = true) :
    (extractFiles hidden vendor c).base x = vendor.base x := by
  cases hsrc : c.src with
  | none => rw [extractFiles, hsrc]
  | some src =>
      have hnone : c.obtained src x = none := by
        refine lastPut_eq_none_iff.mpr fun write hwrite hkey => ?_
        obtain ⟨e, he, rfl⟩ := List.mem_map.mp hwrite
        have hfalse : hidden x = false := hkey ▸ hshown e he
        rw [hx] at hfalse
        cases hfalse
      rw [base_extractFiles hsrc, hnone, if_pos hx, Option.none_or]

/-- Of many runs, with any arguments, devices and lists, only the last one with
the right number of arguments counts, as long as no list has a destination below
a hidden name.  Without such a run nothing changes. -/
theorem vendor_run
    {hidden : P → Bool} {cs : List (Call place C)}
    (hshown : ∀ c ∈ cs, ∀ e ∈ entriesOf c.list,
      hidden (place e.destination) = false)
    (vendor : Vendor P C) :
    run (extractFiles hidden) vendor cs =
      match (cs.filter fun c => c.src.isSome).getLast? with
      | some last => extractFiles hidden vendor last
      | none => vendor := by
  rw [← List.filterMap_eq_filter]
  refine run_last_write
    (I := fun t : Vendor P C => ∀ x, hidden x = true →
      t.base x = vendor.base x)
    (H := fun t (last : Option (Call place C)) => t = match last with
      | some last => extractFiles hidden vendor last
      | none => vendor)
    ?_ ?_ ?_ (fun x hx => rfl) rfl
  · intro t c hc ht x hx
    rw [base_extractFiles_of_hidden (hshown c hc) t hx, ht x hx]
  · intro t c last ht hwrite
    obtain ⟨rfl, hsrc⟩ := Option.guard_eq_some_iff.mp hwrite
    exact extractFiles_of_hidden hsrc ht
  · intro t c last ht hnone hkept
    have hsrc : c.src = none := by
      simpa using Option.guard_eq_none_iff.mp hnone
    rw [extractFiles, hsrc]
    exact hkept

end

/-- Names that begin with a dot. -/
def dotted (name : Word) : Bool :=
  name.head? == some '.'

/-- Extracting `lib/a.so:lib/b.so` from the device. -/
def renamedCall : Call (id : Word → Word) ℕ where
  args := []
  device := renamedTree
  rom _ := renamedTree
  list := renamedList

/-- A directory in which there is some file everywhere. -/
def staleVendor : Vendor Word ℕ where
  base _ := some 0
  block := []

theorem shown_renamedList :
    ∀ e ∈ entriesOf renamedList, dotted (id e.destination) = false := by
  intro e he
  obtain rfl := List.mem_singleton.mp he
  decide

/-- A call with two arguments changes nothing, whether or not there has been a
complete one. -/
theorem vendor_run_of_refused :
    run (extractFiles dotted) staleVendor
        [renamedCall, { renamedCall with args := [.device, .device] }] =
      extractFiles dotted staleVendor renamedCall ∧
    run (extractFiles dotted) staleVendor
        [{ renamedCall with args := [.device, .device] }] = staleVendor := by
  refine ⟨vendor_run ?_ staleVendor, vendor_run ?_ staleVendor⟩
  · intro c hc
    rcases List.mem_cons.mp hc with rfl | hc
    · exact shown_renamedList
    · obtain rfl := List.mem_singleton.mp hc
      exact shown_renamedList
  · intro c hc
    obtain rfl := List.mem_singleton.mp hc
    exact shown_renamedList

end SmartSurf.Blobs
