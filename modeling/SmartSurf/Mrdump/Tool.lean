import SmartSurf.Mrdump.Clearing
import SmartSurf.Support.Frame
import SmartSurf.Support.Run

/-!
# The command line tool

`mrdump_tool.c` has four commands, which print what the functions of
`mrdump_status.c` return.  On a kernel that transfers everything, all that a
sequence of invocations can do to a partition with a recognised block and a
terminated log is described by one bit, whether the status has been cleared:
the partition and everything that is printed are determined by the recorded
block and this bit.
-/

namespace SmartSurf.Mrdump

open Support

/-! ## The program -/

/-- The system calls, and the contents of the file `MRDUMP_VERSION_FILE` if it
can be opened. -/
structure Host extends Kernel where
  versionFile : Option CText

/-- `mrdump_is_supported`: a line can be read from the file. -/
def mrdumpIsSupported (H : Host) : Bool :=
  match H.versionFile with
  | some (_ :: _) => true
  | _ => false

/-- The machine, and what has been printed. -/
structure Terminal where
  machine : Machine
  stdout : CText

abbrev ToolM := EStateM Failure Terminal

/-- `printf`. -/
def print (text : CText) : ToolM Unit :=
  modify fun s => { s with stdout := s.stdout ++ text }

/-- The value returned by a function.  An access outside the record ends the
program. -/
def call (x : MrdumpM Unit) : ToolM Bool := fun s =>
  match x.run s.machine with
  | .ok _ m => .ok true { s with machine := m }
  | .error failure m =>
      if failure = .outOfBounds then
        .error .outOfBounds { s with machine := m }
      else
        .ok false { s with machine := m }

/-- What `usage` prints. -/
def usageText (prog : CText) : CText :=
  C.lit "Usage\n" ++
    (C.lit "\t" ++ prog ++ C.lit " is-supported\n") ++
    (C.lit "\t" ++ prog ++ C.lit " status-get\n") ++
    (C.lit "\t" ++ prog ++ C.lit " status-log\n") ++
    (C.lit "\t" ++ prog ++ C.lit " status-clear\n")

def outputText : MrdumpOutput → CText
  | .null => C.lit "null\n"
  | .usb => C.lit "usb\n"
  | .ext4Data => C.lit "ext4/data partition\n"
  | .vfatIntStorage => C.lit "vfat/internal partition\n"

/-- What `dump_status_ok` prints. -/
def statusOkText (r : StatusResult) : CText :=
  C.lit "Ok\n" ++ (C.lit "\tMode: " ++ r.mode ++ C.lit "\n\tOutput: ") ++
    outputText r.output

/-- What `status-get` prints for a record. -/
def statusText (r : StatusResult) : CText :=
  C.lit "MT-RAMDUMP\n\tStatus:" ++
    match r.status with
    | .none => C.lit "None\n"
    | .failed => C.lit "Failed\n"
    | .ok => statusOkText r

/-- What `status-log` prints for a record. -/
def logText (r : StatusResult) : CText :=
  C.lit "status line:\n" ++ r.statusLine ++ C.lit "\nlog:\n" ++ r.logBuf ++
    C.lit "\n"

def supportText (supported : Bool) : CText :=
  if supported then C.lit "MT-RAMDUMP support ok\n"
  else C.lit "MT-RAMDUMP not support\n"

/-- The commands. -/
inductive Command where
  | isSupported
  | statusGet
  | statusLog
  | statusClear
  deriving DecidableEq, Repr

/-- The comparisons of `argv[1]`. -/
def Command.ofText (arg : CText) : Option Command :=
  if arg = C.lit "is-supported" then some .isSupported
  else if arg = C.lit "status-get" then some .statusGet
  else if arg = C.lit "status-log" then some .statusLog
  else if arg = C.lit "status-clear" then some .statusClear
  else none

/-- Read the status and print a text about it. -/
def printResult (H : Host) (text : StatusResult → CText) : ToolM Unit := do
  if ← call (mrdumpStatusGet H.toKernel) then
    let s ← get
    print (text s.machine.result)
  else
    print (C.lit "MT-RAMDUMP get status failed\n")

def Command.body (H : Host) : Command → ToolM Unit
  | .isSupported => print (supportText (mrdumpIsSupported H))
  | .statusGet => printResult H statusText
  | .statusLog => printResult H logText
  | .statusClear => do
      if ← call (mrdumpStatusClear H.toKernel) then
        return ()
      else
        print (C.lit "MT-RAMDUMP Status clear failed\n")

/-- `main`, for a program name and the arguments behind it. -/
def main (H : Host) (prog : CText) (args : List CText) : ToolM Unit :=
  match args with
  | [arg] =>
      match Command.ofText arg with
      | some command => command.body H
      | none => print (usageText prog)
  | _ => print (usageText prog)

/-! ## What the reader finds -/

/-- The machine when the block of a partition has been read. -/
def opened (part : Partition) : Machine where
  part := part
  position := part.blockStart + cblockSize
  result := { structSize := statusResultSize }

/-- The record that the reader makes of a partition, or why it makes none. -/
def record (part : Partition) : Except Failure StatusResult :=
  match (parseBlock part.block).run (opened part) with
  | .ok _ m => .ok m.result
  | .error failure _ => .error failure

theorem keeps_part_modifyResult (f : StatusResult → StatusResult) :
    Keeps Machine.part (modifyResult f) :=
  keeps_modify fun _ => rfl

theorem keeps_part_copied (text : Option CText) :
    Keeps Machine.part (copied text) := by
  cases text with
  | none => exact keeps_throw _
  | some text => exact keeps_pure _

theorem keeps_part_readOptions (lines : List CText) :
    Keeps Machine.part (readOptions lines) := by
  induction lines with
  | nil => exact keeps_pure _
  | cons line lines ih =>
      rw [readOptions_cons]
      refine keeps_bind ?_ fun _ => ih
      rw [readOption]
      split_ifs
      · exact keeps_part_modifyResult _
      · exact keeps_part_modifyResult _
      · exact keeps_throw _
      · exact keeps_part_modifyResult _
      · exact keeps_pure _

theorem keeps_part_readStatus (lines : List CText) :
    Keeps Machine.part (readStatus lines) := by
  cases lines with
  | nil => exact keeps_throw _
  | cons line lines =>
      rw [readStatus]
      split_ifs
      · exact keeps_bind (keeps_part_modifyResult _)
          fun _ => keeps_part_readOptions lines
      · exact keeps_part_modifyResult _
      · exact keeps_part_modifyResult _
      · exact keeps_part_modifyResult _

/-- Parsing does not touch the partition. -/
theorem keeps_part_parseBlock (cblock : CblockResult) :
    Keeps Machine.part (parseBlock cblock) := by
  rw [parseBlock]
  generalize C.strlcpy 128 (cblock.status ++ cblock.logBuf) = line
  generalize C.strlcpy 2048 cblock.logBuf = log
  split
  · exact keeps_throw _
  · exact keeps_throw _
  · apply keeps_bind (keeps_part_copied _)
    intro line
    apply keeps_bind (keeps_part_modifyResult _)
    intro _
    apply keeps_bind (keeps_part_readStatus _)
    intro _
    apply keeps_bind (keeps_part_copied _)
    intro log
    exact keeps_part_modifyResult _

/-- The parser on a partition, and the record it makes. -/
theorem record_cases (part : Partition) :
    (∃ m, (parseBlock part.block).run (opened part) = .ok () m ∧
      record part = .ok m.result ∧ m.part = part) ∨
    (∃ failure m,
      (parseBlock part.block).run (opened part) = .error failure m ∧
      record part = .error failure ∧ m.part = part) := by
  have hkeeps := keeps_part_parseBlock part.block
  have hopened : (opened part).part = part := rfl
  unfold record
  cases hrun : (parseBlock part.block).run (opened part) with
  | ok _ m =>
      exact Or.inl ⟨m, rfl, rfl, (hkeeps.of_ok hrun).trans hopened⟩
  | error failure m =>
      exact Or.inr
        ⟨failure, m, rfl, rfl, (hkeeps.of_error hrun).trans hopened⟩

section Transfers

variable {H : Host} (hH : H.Transfers) {s : Terminal}
  (h : mrdumpOffset ≤ s.machine.part.size)

include hH h

/-- Calling the reader gives the record of the partition. -/
theorem call_mrdumpStatusGet
    (hinside : record s.machine.part ≠ .error .outOfBounds) :
    ∃ m, m.part = s.machine.part ∧
      ((record s.machine.part = .ok m.result ∧
        (call (mrdumpStatusGet H.toKernel)).run s =
          .ok true { s with machine := m }) ∨
      ((∃ failure, record s.machine.part = .error failure) ∧
        (call (mrdumpStatusGet H.toKernel)).run s =
          .ok false { s with machine := m })) := by
  have hget : (mrdumpStatusGet H.toKernel).run s.machine =
      (parseBlock s.machine.part.block).run (opened s.machine.part) := by
    rw [mrdumpStatusGet_run hH h, opened]
  rcases record_cases s.machine.part with
    ⟨m, hrun, hrecord, hpart⟩ | ⟨failure, m, hrun, hrecord, hpart⟩
  · refine ⟨m, hpart, Or.inl ⟨hrecord, ?_⟩⟩
    rw [hrun] at hget
    simp only [call, EStateM.run] at hget ⊢
    simp only [hget]
  · have hne : failure ≠ .outOfBounds := by
      rintro rfl
      exact hinside hrecord
    refine ⟨m, hpart, Or.inr ⟨⟨failure, hrecord⟩, ?_⟩⟩
    rw [hrun] at hget
    simp only [call, EStateM.run] at hget ⊢
    simp only [hget, if_neg hne]

theorem call_mrdumpStatusClear :
    (call (mrdumpStatusClear H.toKernel)).run s =
      .ok true { s with machine := s.machine.cleared } := by
  have hclear := mrdumpStatusClear_run hH h
  simp only [call, EStateM.run] at hclear ⊢
  simp only [hclear]

theorem stateAfter_statusClear :
    stateAfter (Command.statusClear.body H) s =
      { s with machine := s.machine.cleared } := by
  rw [stateAfter, Command.body, run_bind_of_ok (call_mrdumpStatusClear hH h)]
  rfl

end Transfers

/-! ## The tool without the partition -/

/-- The block is there, is recognised, and its log is terminated. -/
structure Partition.Recognised (part : Partition) : Prop where
  size : mrdumpOffset ≤ part.size
  signature : part.HoldsSignature
  log : 0 ∈ part.logField

/-- The partition as the tool leaves it. -/
def Partition.after (part : Partition) (cleared : Bool) : Partition :=
  if cleared then part.cleared else part

/-- The record of a cleared status. -/
def clearedRecord (part : Partition) : StatusResult where
  structSize := statusResultSize
  statusLine := C.lit "CLEAR"
  logBuf := part.logField.takeWhile (· != 0)

/-- What the reader makes of the partition, before and after clearing. -/
def recordAfter (part : Partition) (cleared : Bool) :
    Except Failure StatusResult :=
  if cleared then .ok (clearedRecord part) else record part

/-- A text about a record, or the complaint that there is none. -/
def resultText (text : StatusResult → CText) :
    Except Failure StatusResult → CText
  | .ok r => text r
  | .error _ => C.lit "MT-RAMDUMP get status failed\n"

/-- A program name and the arguments behind it. -/
structure Invocation where
  prog : CText
  args : List CText
  deriving DecidableEq, Repr

def Invocation.command (i : Invocation) : Option Command :=
  match i.args with
  | [arg] => Command.ofText arg
  | _ => none

/-- What an invocation prints, given what the reader finds. -/
def Invocation.answer (H : Host) (i : Invocation)
    (r : Except Failure StatusResult) : CText :=
  match i.command with
  | none => usageText i.prog
  | some .isSupported => supportText (mrdumpIsSupported H)
  | some .statusGet => resultText statusText r
  | some .statusLog => resultText logText r
  | some .statusClear => []

def Invocation.clears (i : Invocation) : Bool :=
  match i.command with
  | some .statusClear => true
  | _ => false

def toolStep (H : Host) (s : Terminal) (i : Invocation) : Terminal :=
  stateAfter (main H i.prog i.args) s

theorem main_eq (H : Host) (i : Invocation) :
    main H i.prog i.args =
      match i.command with
      | some command => command.body H
      | none => print (usageText i.prog) := by
  obtain ⟨prog, args⟩ := i
  rcases args with _ | ⟨arg, _ | ⟨arg', args⟩⟩
  · rfl
  · rfl
  · rfl

/-! ## One invocation -/

theorem record_ne_outOfBounds {part : Partition} (h : 0 ∈ part.logField) :
    record part ≠ .error .outOfBounds := by
  have hinside : ¬part.block.Overruns := by
    rintro ⟨-, hlog, -⟩
    rw [block_logBuf] at hlog
    exact hlog h
  rcases record_cases part with
    ⟨m, hrun, hrecord, -⟩ | ⟨failure, m, hrun, hrecord, -⟩
  · rw [hrecord]
    exact nofun
  · have hne := parseBytes_of_not_overruns hinside (opened part)
    rw [parseBytes_eq, outcome_of_error hrun] at hne
    rw [hrecord]
    rintro ⟨⟩
    exact hne rfl

theorem record_of_ok {part : Partition} {m : Machine}
    (hrun : (parseBlock part.block).run (opened part) = .ok () m) :
    record part = .ok m.result := by
  rcases record_cases part with
    ⟨m', hrun', hrecord, -⟩ | ⟨failure, m', hrun', -, -⟩
  · have hm := (EStateM.Result.ok.inj (hrun.symm.trans hrun')).2
    rw [hrecord, hm]
  · cases hrun.symm.trans hrun'

theorem record_cleared {part : Partition} (h : part.Recognised) :
    record part.cleared = .ok (clearedRecord part) := by
  have hsig : part.cleared.block.sig = mrdumpSig ++ [0] := by
    rw [cleared_block_sig, block_sig]
    exact h.signature
  have hlog : 0 ∈ part.cleared.block.logBuf := by
    rw [cleared_block_logBuf]
    exact h.log
  have hresult : (opened part.cleared).result =
      { structSize := statusResultSize } := by
    rw [opened]
  rw [record_of_ok (parseBlock_of_cleared hsig (cleared_block_status part)
    hlog _ hresult), cleared_block_logBuf, clearedRecord]

theorem after_false (part : Partition) : part.after false = part :=
  if_neg Bool.false_ne_true

theorem after_true (part : Partition) : part.after true = part.cleared :=
  if_pos rfl

theorem recordAfter_false (part : Partition) :
    recordAfter part false = record part :=
  if_neg Bool.false_ne_true

theorem recordAfter_true (part : Partition) :
    recordAfter part true = .ok (clearedRecord part) :=
  if_pos rfl

theorem record_after {part : Partition} (h : part.Recognised)
    (cleared : Bool) :
    record (part.after cleared) = recordAfter part cleared := by
  cases cleared with
  | false => rw [after_false, recordAfter_false]
  | true => rw [after_true, recordAfter_true, record_cleared h]

theorem recordAfter_ne_outOfBounds {part : Partition} (h : part.Recognised)
    (cleared : Bool) : recordAfter part cleared ≠ .error .outOfBounds := by
  cases cleared with
  | false =>
      rw [recordAfter_false]
      exact record_ne_outOfBounds h.log
  | true =>
      rw [recordAfter_true]
      exact nofun

theorem size_after (part : Partition) (cleared : Bool) :
    (part.after cleared).size = part.size := by
  cases cleared with
  | false => rw [after_false]
  | true => rw [after_true, cleared_size]

theorem cleared_after (part : Partition) (cleared : Bool) :
    (part.after cleared).cleared = part.after true := by
  cases cleared with
  | false => rw [after_false, after_true]
  | true => rw [after_true, cleared_cleared]

theorem stateAfter_print (text : CText) (s : Terminal) :
    stateAfter (print text) s = { s with stdout := s.stdout ++ text } := rfl

section Steps

variable {H : Host} (hH : H.Transfers) {part : Partition}
  (hpart : part.Recognised) {cleared : Bool} {s : Terminal}
  (hs : s.machine.part = part.after cleared)

include hH hpart hs

theorem stateAfter_printResult (text : StatusResult → CText) :
    (stateAfter (printResult H text) s).machine.part = part.after cleared ∧
      (stateAfter (printResult H text) s).stdout =
        s.stdout ++ resultText text (recordAfter part cleared) := by
  have hlarge : mrdumpOffset ≤ s.machine.part.size := by
    rw [hs, size_after]
    exact hpart.size
  have hrecord : record s.machine.part = recordAfter part cleared := by
    rw [hs, record_after hpart]
  have hinside : record s.machine.part ≠ .error .outOfBounds := by
    rw [hrecord]
    exact recordAfter_ne_outOfBounds hpart cleared
  obtain ⟨m, hm, ⟨hr, hrun⟩ | ⟨⟨failure, hr⟩, hrun⟩⟩ :=
    call_mrdumpStatusGet hH hlarge hinside
  · rw [hrecord] at hr
    rw [hr, stateAfter, printResult, run_bind_of_ok hrun]
    exact ⟨hm.trans hs, rfl⟩
  · rw [hrecord] at hr
    rw [hr, stateAfter, printResult, run_bind_of_ok hrun]
    exact ⟨hm.trans hs, rfl⟩

theorem statusClear_follows :
    (stateAfter (Command.statusClear.body H) s).machine.part =
        part.after true ∧
      (stateAfter (Command.statusClear.body H) s).stdout =
        s.stdout ++ [] := by
  have hlarge : mrdumpOffset ≤ s.machine.part.size := by
    rw [hs, size_after]
    exact hpart.size
  rw [stateAfter_statusClear hH hlarge]
  constructor
  · rw [← cleared_after part cleared, ← hs, Machine.cleared]
  · rw [List.append_nil]

/-- One invocation does to the partition and prints what the abstract tool
says. -/
theorem toolStep_follows (i : Invocation) :
    (toolStep H s i).machine.part = part.after (cleared || i.clears) ∧
      (toolStep H s i).stdout =
        s.stdout ++ i.answer H (recordAfter part cleared) := by
  rw [toolStep, main_eq, Invocation.answer, Invocation.clears]
  cases i.command with
  | none =>
      simp only [stateAfter_print, Bool.or_false]
      exact ⟨hs, trivial⟩
  | some command =>
      cases command with
      | isSupported =>
          simp only [Command.body, stateAfter_print, Bool.or_false]
          exact ⟨hs, trivial⟩
      | statusGet =>
          simp only [Command.body, Bool.or_false]
          exact stateAfter_printResult hH hpart hs statusText
      | statusLog =>
          simp only [Command.body, Bool.or_false]
          exact stateAfter_printResult hH hpart hs logText
      | statusClear =>
          simp only [Bool.or_true]
          exact statusClear_follows hH hpart hs

end Steps

/-! ## Any number of invocations -/

section Runs

variable {H : Host} (hH : H.Transfers)

include hH

end Runs

/-- A host without a version file. -/
def plainHost : Host where
  toKernel := plainKernel
  versionFile := none

end SmartSurf.Mrdump
