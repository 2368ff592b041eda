import SmartSurf.Mrdump.Reading

/-!
# Clearing the ramdump status

On a partition that is large enough, clearing replaces the 128 bytes of the
status field and nothing else, whatever the block holds.  The reader then sees
a cleared status in every block that it recognises.  Clearing itself does not
look at the signature.
-/

namespace SmartSurf.Mrdump

open Support

/-! ## The cleared partition -/

/-- The partition with the status field cleared. -/
def Partition.cleared (part : Partition) : Partition :=
  part.write (part.blockStart + 9) clearedStatus

/-- The machine after the status field has been cleared. -/
def Machine.cleared (m : Machine) : Machine :=
  { m with
    part := m.part.cleared
    position := m.part.blockStart + cblockSize }

theorem cleared_size (part : Partition) :
    part.cleared.size = part.size := by
  rw [Partition.cleared, Partition.write]

theorem cleared_byte (part : Partition) :
    part.cleared.byte =
      store part.byte (part.blockStart + 9) clearedStatus := by
  rw [Partition.cleared, Partition.write]

theorem cleared_blockStart (part : Partition) :
    part.cleared.blockStart = part.blockStart := by
  rw [Partition.blockStart, Partition.blockStart, cleared_size]

theorem toBytes_clear (cblock : CblockResult) :
    cblock.clear.toBytes =
      cblock.sig ++ (clearedStatus ++ cblock.logBuf) := rfl

/-- Writing the cleared block writes the cleared status only. -/
theorem write_clear_block (part : Partition) :
    part.write part.blockStart part.block.clear.toBytes = part.cleared := by
  have hbytes : part.block.clear.toBytes =
      load part.byte part.blockStart 9 ++ (clearedStatus ++
        load part.byte (part.blockStart + 137) 2048) := by
    rw [toBytes_clear, block_sig, block_logBuf, Partition.logField]
  have hlog : load part.byte (part.blockStart + 137) 2048 =
      load (store part.byte (part.blockStart + 9) clearedStatus)
        (part.blockStart + 9 + clearedStatus.length) 2048 := by
    rw [load_store_behind part.byte 2048 (Nat.le_refl _),
      length_clearedStatus]
  rw [Partition.write, Partition.cleared, Partition.write, hbytes,
    store_append, store_load_self, length_load, store_append]
  rw [hlog, store_load_self]

theorem cleared_byte_outside
    (part : Partition) {i : ℕ}
    (hi : i < part.blockStart + 9 ∨ part.blockStart + 136 < i) :
    part.cleared.byte i = part.byte i := by
  rcases hi with hbelow | habove
  · rw [cleared_byte, store_of_lt part.byte clearedStatus hbelow]
  · rw [cleared_byte, store_of_le part.byte]
    rw [length_clearedStatus]
    omega

theorem cleared_cleared (part : Partition) :
    part.cleared.cleared = part.cleared := by
  apply Partition.ext
  · rw [cleared_size]
  · rw [cleared_byte part.cleared, cleared_blockStart, cleared_byte,
      store_store_self]

theorem cleared_block_sig (part : Partition) :
    part.cleared.block.sig = part.block.sig := by
  rw [block_sig, block_sig, cleared_blockStart, cleared_byte,
    load_store_before part.byte clearedStatus (Nat.le_refl _)]

theorem cleared_block_status (part : Partition) :
    part.cleared.block.status = clearedStatus := by
  rw [block_status, cleared_blockStart, cleared_byte,
    load_store_self part.byte _ length_clearedStatus]

theorem cleared_block_logBuf (part : Partition) :
    part.cleared.block.logBuf = part.logField := by
  rw [block_logBuf, Partition.logField, Partition.logField,
    cleared_blockStart, cleared_byte, load_store_behind part.byte]
  rw [length_clearedStatus]

section Transfers

variable {K : Kernel} (hK : K.Transfers)

include hK

/-- A partition smaller than the distance of the block is left alone. -/
theorem mrdumpStatusClear_run_of_lt
    {m : Machine} (h : m.part.size < mrdumpOffset) :
    (mrdumpStatusClear K).run m =
      .error .cantSeek { m with position := 0 } := by
  obtain ⟨blksize, hopen⟩ := expdbOpen_run hK m hK.opens
  rw [mrdumpStatusClear, run_bind_of_ok hopen]
  exact run_bind_of_error
    (seekBlock_run_of_lt hK (m := { m with position := 0 }) h blksize) _

/-- Otherwise the status field is cleared, whatever the block holds. -/
theorem mrdumpStatusClear_run
    {m : Machine} (h : mrdumpOffset ≤ m.part.size) :
    (mrdumpStatusClear K).run m = .ok () m.cleared := by
  obtain ⟨blksize, hopen⟩ := expdbOpen_run hK m hK.opens
  have hseek := seekBlock_run hK (m := { m with position := 0 }) h blksize
  have hread := readBlock_run hK
    (m := { m with position := m.part.blockStart }) h rfl
  have hseek' := seekBlock_run hK
    (m := { m with position := m.part.blockStart + cblockSize }) h blksize
  have hwrite := writeBlock_run hK
    (m := { m with position := m.part.blockStart }) h rfl m.part.block.clear
  rw [mrdumpStatusClear, run_bind_of_ok hopen, run_bind_of_ok hseek,
    run_bind_of_ok hread, run_bind_of_ok hseek', hwrite, write_clear_block,
    Machine.cleared]

end Transfers

/-! ## Clearing and reading -/

theorem statusText_clearedStatus
    {cblock : CblockResult} (h : cblock.status = clearedStatus) :
    cblock.statusText = C.lit "CLEAR" := by
  have htake : clearedStatus.take 127 =
      C.lit "CLEAR" ++ 0 :: List.replicate 121 0 := by
    simp [clearedStatus, C.lit]
  rw [CblockResult.statusText, h, htake,
    C.takeWhile_of_terminated (by decide)]

theorem statusLines_clearedStatus
    {cblock : CblockResult} (h : cblock.status = clearedStatus) :
    statusLines cblock = [C.lit "CLEAR"] := by
  rw [statusLines, ← CblockResult.statusText, statusText_clearedStatus h]
  decide

/-- A recognised block with a cleared status and a terminated log is read as a
cleared status. -/
theorem parseBlock_of_cleared
    {cblock : CblockResult} (hsig : cblock.sig = mrdumpSig ++ [0])
    (hstatus : cblock.status = clearedStatus) (hlog : 0 ∈ cblock.logBuf)
    (m : Machine) (hresult : m.result = { structSize := statusResultSize }) :
    (parseBlock cblock).run m =
      .ok () { m with
        result :=
          { structSize := statusResultSize
            statusLine := C.lit "CLEAR"
            logBuf := cblock.logBuf.takeWhile (· != 0) } } := by
  have hlines := statusLines_clearedStatus hstatus
  have htext := statusText_clearedStatus hstatus
  have haccepted : Accepted (statusLines cblock) := by
    rw [hlines]
    decide
  rw [← parseBytes_eq,
    parseBytes_of_accepted hsig (List.mem_append_right _ hlog) haccepted,
    strlcpy_log hlog, hlines, htext, hresult]
  rfl

/-- Clearing returns `true`, changes the status field only, changes nothing
when repeated, and makes the reader report a cleared status with the log of
the partition. -/
structure ClearsExactly (K : Kernel) (m : Machine) : Prop where
  returns : returnValue (outcome (mrdumpStatusClear K) m) = some true
  size : (stateAfter (mrdumpStatusClear K) m).part.size = m.part.size
  outside : ∀ i, i < m.part.blockStart + 9 ∨ m.part.blockStart + 136 < i →
    (stateAfter (mrdumpStatusClear K) m).part.byte i = m.part.byte i
  again : (stateAfter (mrdumpStatusClear K)
    (stateAfter (mrdumpStatusClear K) m)).part =
      (stateAfter (mrdumpStatusClear K) m).part
  reads : returnValue (outcome (mrdumpStatusGet K)
    (stateAfter (mrdumpStatusClear K) m)) = some true
  result : (stateAfter (mrdumpStatusGet K)
    (stateAfter (mrdumpStatusClear K) m)).result =
      { structSize := statusResultSize
        status := .none
        output := .null
        mode := []
        statusLine := C.lit "CLEAR"
        logBuf := m.part.logField.takeWhile (· != 0) }

theorem clearsExactly_of_signature
    {K : Kernel} (hK : K.Transfers) {m : Machine}
    (h : mrdumpOffset ≤ m.part.size) (hsig : m.part.HoldsSignature)
    (hlog : 0 ∈ m.part.logField) :
    ClearsExactly K m := by
  have hclear := mrdumpStatusClear_run hK h
  have hsize : mrdumpOffset ≤ m.cleared.part.size := by
    rw [Machine.cleared, cleared_size]
    exact h
  have hagain := mrdumpStatusClear_run hK hsize
  have hget := mrdumpStatusGet_run hK hsize
  rw [Machine.cleared, parseBlock_of_cleared
    ((cleared_block_sig m.part).trans ((block_sig m.part).trans hsig))
    (cleared_block_status m.part)
    (by rw [cleared_block_logBuf]; exact hlog) _ rfl,
    cleared_block_logBuf, ← Machine.cleared] at hget
  refine ⟨?_, ?_, ?_, ?_, ?_, ?_⟩
  · rw [outcome_of_ok hclear, returnValue]
  · rw [stateAfter_of_ok hclear, Machine.cleared, cleared_size]
  · intro i hi
    rw [stateAfter_of_ok hclear]
    exact cleared_byte_outside m.part hi
  · rw [stateAfter_of_ok hclear, stateAfter_of_ok hagain]
    exact cleared_cleared m.part
  · rw [stateAfter_of_ok hclear, outcome_of_ok hget, returnValue]
  · rw [stateAfter_of_ok hclear, stateAfter_of_ok hget]

/-- A partition that is too small is left alone; on every other partition with
the signature and a terminated log, clearing is exact. -/
theorem mrdumpStatusClear_exact
    {K : Kernel} (hK : K.Transfers) (m : Machine) :
    (m.part.size < mrdumpOffset →
      returnValue (outcome (mrdumpStatusClear K) m) = some false ∧
        (stateAfter (mrdumpStatusClear K) m).part = m.part) ∧
      (mrdumpOffset ≤ m.part.size → m.part.HoldsSignature →
        0 ∈ m.part.logField → ClearsExactly K m) := by
  constructor
  · intro hsmall
    have hrun := mrdumpStatusClear_run_of_lt hK hsmall
    constructor
    · rw [outcome_of_error hrun, returnValue]
      exact nofun
    · rw [stateAfter_of_error hrun]
  · intro hlarge hsig hlog
    exact clearsExactly_of_signature hK hlarge hsig hlog

theorem mrdumpStatusClear_of_blank_status :
    ClearsExactly plainKernel (machineOf (mrdumpSig ++ [0])) :=
  (mrdumpStatusClear_exact plainKernel_transfers
    (machineOf (mrdumpSig ++ [0]))).2 (Nat.le_refl mrdumpOffset)
      holdsSignature_partitionOf (zero_mem_logField_partitionOf (by decide))

/-! ## Agreement of the two functions -/

/-- If the reader rejects the block for its signature, clearing returns
`false` and leaves the partition alone. -/
def ClearsRecognisedOnly (K : Kernel) (m : Machine) : Prop :=
  outcome (mrdumpStatusGet K) m = .error .signatureMismatched →
    returnValue (outcome (mrdumpStatusClear K) m) = some false ∧
      (stateAfter (mrdumpStatusClear K) m).part = m.part

theorem mrdumpStatusGet_mismatch_iff
    {K : Kernel} (hK : K.Transfers) {m : Machine}
    (h : mrdumpOffset ≤ m.part.size) :
    outcome (mrdumpStatusGet K) m = .error .signatureMismatched ↔
      ¬m.part.HoldsSignature := by
  rw [outcome_congr (mrdumpStatusGet_run hK h), Partition.HoldsSignature,
    ← block_sig]
  constructor
  · intro hmismatch hsig
    rw [← parseBytes_eq] at hmismatch
    exact (parseBytes_of_match hsig).outcome_ne _ hmismatch
  · intro hsig
    exact outcome_of_error (parseBlock_of_mismatch hsig _)

/-- Clearing always succeeds, so it agrees with the reader exactly on the
blocks that carry the signature. -/
theorem clearsRecognisedOnly_iff
    {K : Kernel} (hK : K.Transfers) {m : Machine}
    (h : mrdumpOffset ≤ m.part.size) :
    ClearsRecognisedOnly K m ↔ m.part.HoldsSignature := by
  have hclear := outcome_of_ok (mrdumpStatusClear_run hK h)
  rw [ClearsRecognisedOnly, mrdumpStatusGet_mismatch_iff hK h, hclear,
    returnValue]
  constructor
  · intro hagrees
    by_contra hsig
    obtain ⟨hfalse, -⟩ := hagrees hsig
    cases hfalse
  · intro hsig hnot
    exact absurd hsig hnot

theorem clearsRecognisedOnly_of_signature :
    ClearsRecognisedOnly plainKernel (machineOf (mrdumpSig ++ [0])) :=
  (clearsRecognisedOnly_iff plainKernel_transfers
    (m := machineOf (mrdumpSig ++ [0])) (Nat.le_refl mrdumpOffset)).mpr
      holdsSignature_partitionOf

/-- On a blank partition the reader finds no signature, while clearing returns
`true` and writes to the partition. -/
theorem not_clearsRecognisedOnly_of_blank :
    outcome (mrdumpStatusGet plainKernel) (machineOf []) =
        .error .signatureMismatched ∧
      returnValue (outcome (mrdumpStatusClear plainKernel) (machineOf [])) =
        some true ∧
      (stateAfter (mrdumpStatusClear plainKernel) (machineOf [])).part.byte 9 ≠
        (machineOf []).part.byte 9 := by
  have hsize : mrdumpOffset ≤ (machineOf []).part.size :=
    Nat.le_refl mrdumpOffset
  have hclear := mrdumpStatusClear_run plainKernel_transfers hsize
  refine ⟨?_, ?_, ?_⟩
  · rw [mrdumpStatusGet_mismatch_iff plainKernel_transfers hsize,
      Partition.HoldsSignature, machineOf, blockStart_partitionOf]
    decide
  · rw [outcome_of_ok hclear, returnValue]
  · rw [stateAfter_of_ok hclear, Machine.cleared, cleared_byte, machineOf,
      blockStart_partitionOf]
    decide

end SmartSurf.Mrdump
