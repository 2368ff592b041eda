import SmartSurf.Mrdump.Tool

/-!
# Clearing on a kernel that fails

System calls can fail, and reads and writes can transfer less than was asked
for, for instance because the device loses power.  Clearing then leaves the
beginning of a cleared status in front of the rest of the old one, and nothing
else is touched.  Since the first byte that is written already differs from
that of `OK`, the reader never takes a half-cleared status for a dump.
-/

namespace SmartSurf.Mrdump

open Support

/-! ## Kernels that fail -/

/-- Every call may fail.  Seeking and reading leave the partition alone, what
is read is what is stored there, and what is written is the beginning of what
was handed over, all of it if the call says so. -/
structure Kernel.MayFail (K : Kernel) : Prop where
  blkGetSize64 : ∀ part size, K.blkGetSize64 part = some size →
    size = part.size
  seek_part : ∀ m off, (K.lseek64 m off).2.part = m.part
  seek_result : ∀ m off, (K.lseek64 m off).2.result = m.result
  seek_position : ∀ m off, 0 ≤ (K.lseek64 m off).1 →
    0 ≤ off ∧ (K.lseek64 m off).2.position = off.toNat
  read_part : ∀ m n, (K.read m n).2.part = m.part
  read_result : ∀ m n, (K.read m n).2.result = m.result
  read_bytes : ∀ m n bytes, (K.read m n).1 = some bytes →
    bytes = load m.part.byte m.position bytes.length
  write_part : ∀ m bytes, ∃ k,
    (K.write m bytes).2.part = m.part.write m.position (bytes.take k) ∧
      ((K.write m bytes).1 = bytes.length → bytes.length ≤ k)

/-! ## Half-cleared partitions -/

/-- The partition with the first `j` bytes of a cleared status written. -/
def Partition.clearedTo (part : Partition) (j : ℕ) : Partition :=
  part.write (part.blockStart + 9) (clearedStatus.take j)

theorem clearedTo_zero (part : Partition) : part.clearedTo 0 = part := by
  rw [Partition.clearedTo, List.take_zero, Partition.write, store_nil]

theorem clearedTo_of_le (part : Partition) {j : ℕ} (h : 128 ≤ j) :
    part.clearedTo j = part.cleared := by
  rw [Partition.clearedTo, List.take_of_length_le
    (length_clearedStatus.trans_le h), Partition.cleared]

theorem clearedTo_min (part : Partition) (j : ℕ) :
    part.clearedTo (min j 128) = part.clearedTo j := by
  rcases Nat.le_total j 128 with hle | hle
  · rw [Nat.min_eq_left hle]
  · rw [Nat.min_eq_right hle, clearedTo_of_le part (Nat.le_refl 128),
      clearedTo_of_le part hle]

theorem size_clearedTo (part : Partition) (j : ℕ) :
    (part.clearedTo j).size = part.size := by
  rw [Partition.clearedTo, Partition.write]

theorem byte_clearedTo (part : Partition) (j : ℕ) :
    (part.clearedTo j).byte =
      store part.byte (part.blockStart + 9) (clearedStatus.take j) := by
  rw [Partition.clearedTo, Partition.write]

theorem blockStart_clearedTo (part : Partition) (j : ℕ) :
    (part.clearedTo j).blockStart = part.blockStart := by
  rw [Partition.blockStart, size_clearedTo, Partition.blockStart]

/-- Clearing again continues where the furthest attempt ended. -/
theorem clearedTo_clearedTo (part : Partition) (i j : ℕ) :
    (part.clearedTo i).clearedTo j = part.clearedTo (max i j) := by
  rw [Partition.clearedTo, blockStart_clearedTo, Partition.clearedTo,
    Partition.clearedTo, Partition.write, Partition.write, Partition.write]
  simp only [store_store, overwrite_take]

/-- The beginning of the cleared block, in its three fields. -/
theorem take_toBytes_clear (part : Partition) (k : ℕ) :
    part.block.clear.toBytes.take k =
      load part.byte part.blockStart (min k 9) ++
        (clearedStatus.take (k - 9) ++
          load part.byte (part.blockStart + 137) (min (k - 137) 2048)) := by
  have hrest : k - 9 - 128 = k - 137 := by omega
  rw [toBytes_clear, block_sig, block_logBuf, Partition.logField,
    List.take_append, List.take_append, take_load_min, take_load_min,
    length_load, length_clearedStatus, hrest]

/-- Writing back the log behind a cleared status changes nothing. -/
theorem store_log_behind_status (part : Partition) {xs : List UInt8}
    (hxs : xs.length = 128) (n : ℕ) :
    store (store part.byte (part.blockStart + 9) xs) (part.blockStart + 137)
        (load part.byte (part.blockStart + 137) n) =
      store part.byte (part.blockStart + 9) xs := by
  have hsame : load part.byte (part.blockStart + 137) n =
      load (store part.byte (part.blockStart + 9) xs)
        (part.blockStart + 137) n := by
    rw [load_store_behind]
    rw [hxs]
  rw [hsame, store_load_self]

/-- The beginning of the cleared block, written over the block. -/
theorem write_take_clear_block (part : Partition) (k : ℕ) :
    part.write part.blockStart (part.block.clear.toBytes.take k) =
      part.clearedTo (k - 9) := by
  have hempty : ∀ off, load part.byte off 0 = [] := fun _ => rfl
  rw [take_toBytes_clear, Partition.write, Partition.clearedTo,
    Partition.write, store_append, store_load_self, length_load, store_append]
  by_cases hsig : k ≤ 9
  · have hstatus : k - 9 = 0 := by omega
    have hlog : min (k - 137) 2048 = 0 := by omega
    simp only [hstatus, hlog, hempty, List.take_zero, store_nil]
  have hnine : min k 9 = 9 := by omega
  by_cases hstatus : k < 137
  · have hlog : min (k - 137) 2048 = 0 := by omega
    simp only [hnine, hlog, hempty, store_nil]
  · have hlength : (clearedStatus.take (k - 9)).length = 128 := by
      rw [List.length_take, length_clearedStatus]
      omega
    have hplace : part.blockStart + 9 + 128 = part.blockStart + 137 := by
      omega
    simp only [hnine, hlength, hplace, store_log_behind_status part hlength]

/-! ## Clearing -/

section Faults

variable {K : Kernel} (hK : K.MayFail)

include hK

theorem ends_expdbOpen (devs : List String) (m : Machine) :
    Ends (expdbOpen K devs) m
      (fun info t => info.size = m.part.size ∧ t.part = m.part ∧
        t.result = m.result)
      fun failure t => failure ≠ .outOfBounds ∧ t.part = m.part := by
  induction devs with
  | nil => exact ⟨by decide, rfl⟩
  | cons dev devs ih =>
      rw [expdbOpen]
      split_ifs
      · rw [ends_bind, ends_get]
        cases hsize : K.blkGetSize64 m.part with
        | none => exact ⟨by decide, rfl⟩
        | some size =>
            cases K.blkSszGet m.part with
            | none => exact ⟨by decide, rfl⟩
            | some blksize =>
                exact ⟨hK.blkGetSize64 m.part size hsize, rfl, rfl⟩
      · exact ih

theorem ends_seekBlock (partinfo : Partinfo) {m : Machine}
    (hsize : partinfo.size = m.part.size) :
    Ends (seekBlock K partinfo) m
      (fun _ t => t.part = m.part ∧ t.result = m.result ∧
        t.position = m.part.blockStart)
      fun failure t => failure ≠ .outOfBounds ∧ t.part = m.part := by
  rw [Ends, seekBlock_eq]
  split_ifs with hfailed
  · exact ⟨by decide, hK.seek_part m _⟩
  · refine ⟨hK.seek_part m _, hK.seek_result m _, ?_⟩
    obtain ⟨hnonneg, hposition⟩ :=
      hK.seek_position m (blockOffset partinfo.size) (by omega)
    rw [hsize] at hnonneg hposition
    have hlarge : mrdumpOffset ≤ m.part.size := by
      by_contra hsmall
      have hnegative := blockOffset_of_lt (Nat.lt_of_not_le hsmall)
      omega
    rw [hsize, hposition, blockOffset_of_le hlarge m.part.size_lt,
      Int.toNat_natCast, Partition.blockStart]

theorem ends_readBlock {m : Machine}
    (hposition : m.position = m.part.blockStart) :
    Ends (readBlock K) m
      (fun cblock t => cblock = m.part.block ∧ t.part = m.part ∧
        t.result = m.result)
      fun failure t => failure ≠ .outOfBounds ∧ t.part = m.part := by
  have hpart := hK.read_part m cblockSize
  have hresult := hK.read_result m cblockSize
  have hbytes := hK.read_bytes m cblockSize
  rw [readBlock, ends_bind, ends_get]
  generalize K.read m cblockSize = transfer at hpart hresult hbytes ⊢
  obtain ⟨bytes, t⟩ := transfer
  rw [ends_bind, ends_set]
  cases bytes with
  | none => exact ⟨by decide, hpart⟩
  | some bytes =>
      dsimp only
      split_ifs with hlength
      · refine ⟨?_, hpart, hresult⟩
        have hload := hbytes bytes rfl
        rw [hposition, hlength] at hload
        simp only [hload, Partition.block]
      · exact ⟨by decide, hpart⟩

theorem ends_writeBlock (cblock : CblockResult) (m : Machine) :
    Ends (writeBlock K cblock) m
      (fun _ t => t.part = m.part.write m.position cblock.toBytes)
      fun failure t => failure ≠ .outOfBounds ∧ ∃ k,
        t.part = m.part.write m.position (cblock.toBytes.take k) := by
  have hlength : cblock.toBytes.length = cblockSize := by
    simp [CblockResult.toBytes, cblock.sig_length, cblock.status_length,
      cblock.logBuf_length, cblockSize]
  obtain ⟨k, hpart, hall⟩ := hK.write_part m cblock.toBytes
  rw [writeBlock, ends_bind, ends_get]
  generalize K.write m cblock.toBytes = transfer at hpart hall ⊢
  obtain ⟨ret, t⟩ := transfer
  rw [ends_bind, ends_set, ends_ite]
  split_ifs with hfailed
  · exact ⟨by decide, k, hpart⟩
  · have hret : ret = cblockSize := by
      by_contra hne
      exact hfailed hne
    have hk : cblock.toBytes.length ≤ k := hall (by rw [hret, hlength])
    rw [List.take_of_length_le hk] at hpart
    exact hpart

/-- Clearing writes the beginning of a cleared status, and all of it if it
returns `true`. -/
theorem ends_mrdumpStatusClear (m : Machine) :
    Ends (mrdumpStatusClear K) m
      (fun _ t => t.part = m.part.cleared)
      fun failure t => failure ≠ .outOfBounds ∧
        ∃ j, t.part = m.part.clearedTo j := by
  have huntouched : ∀ (failure : Failure) (t : Machine),
      failure ≠ .outOfBounds ∧ t.part = m.part →
      failure ≠ .outOfBounds ∧ ∃ j, t.part = m.part.clearedTo j := by
    rintro failure t ⟨hinside, ht⟩
    exact ⟨hinside, 0, ht.trans (clearedTo_zero m.part).symm⟩
  rw [mrdumpStatusClear, ends_bind]
  refine (ends_expdbOpen hK expdbDevs m).imp ?_ huntouched
  rintro info m₁ ⟨hsize, hpart₁, -⟩
  rw [← hpart₁] at hsize huntouched ⊢
  rw [ends_bind]
  refine (ends_seekBlock hK info hsize).imp ?_ huntouched
  rintro _ m₂ ⟨hpart₂, -, hposition₂⟩
  rw [← hpart₂] at hsize huntouched hposition₂ ⊢
  rw [ends_bind]
  refine (ends_readBlock hK hposition₂).imp ?_ huntouched
  rintro cblock m₃ ⟨rfl, hpart₃, -⟩
  rw [← hpart₃] at hsize huntouched ⊢
  rw [ends_bind]
  refine (ends_seekBlock hK info hsize).imp ?_ huntouched
  rintro _ m₄ ⟨hpart₄, -, hposition₄⟩
  rw [← hpart₄] at hposition₄ ⊢
  refine (ends_writeBlock hK _ m₄).imp ?_ ?_
  · intro _ t ht
    rw [ht, hposition₄, write_clear_block]
  · rintro failure t ⟨hinside, k, ht⟩
    rw [hposition₄, write_take_clear_block] at ht
    exact ⟨hinside, k - 9, ht⟩

theorem ends_loadCblock (m : Machine) :
    Ends (loadCblock K) m
      (fun cblock t => cblock = m.part.block ∧ t.part = m.part)
      fun failure t => failure ≠ .outOfBounds ∧ t.part = m.part := by
  rw [loadCblock, ends_bind]
  change Ends (do
    let partinfo ← expdbOpen K expdbDevs
    seekBlock K partinfo
    readBlock K) { m with result := { structSize := statusResultSize } } _ _
  rw [ends_bind]
  refine (ends_expdbOpen hK expdbDevs _).mono ?_
  rintro info m₁ ⟨hsize, hpart₁, -⟩
  rw [← show m₁.part = m.part from hpart₁] at hsize ⊢
  rw [ends_bind]
  refine (ends_seekBlock hK info hsize).mono ?_
  rintro _ m₂ ⟨hpart₂, -, hposition₂⟩
  rw [← hpart₂] at hposition₂ ⊢
  exact (ends_readBlock hK hposition₂).mono fun _ _ h => ⟨h.1, h.2.1⟩

end Faults

theorem status_withStatus (r : StatusResult) (lines : List CText) :
    (r.withStatus lines).status = statusOf lines := by
  rw [StatusResult.withStatus, statusOf]
  split_ifs
  · rfl
  · rfl
  · rfl

/-- The status that a parsed block is given is the one its first line stands
for. -/
theorem ends_parseBlock (cblock : CblockResult) (m : Machine) :
    Ends (parseBlock cblock) m
      (fun _ t => t.result.status = statusOf (statusLines cblock))
      fun _ _ => True := by
  rw [← parseBytes_eq]
  by_cases hsig : cblock.sig = mrdumpSig ++ [0]
  · by_cases hline : 0 ∈ cblock.status ++ cblock.logBuf
    · by_cases haccepted : Accepted (statusLines cblock)
      · rw [ends_congr (parseBytes_of_accepted hsig hline haccepted m)]
        generalize C.strlcpy 2048 cblock.logBuf = log
        cases log with
        | none => trivial
        | some log => exact status_withStatus _ _
      · obtain ⟨failure, left, hrun, -⟩ :=
          parseBytes_of_not_accepted hsig hline haccepted m
        rw [Ends, hrun]
        trivial
    · rw [Ends, parseBytes_of_unterminated hsig hline m]
      trivial
  · rw [parseBytes_eq, Ends, parseBlock_of_mismatch hsig m]
    trivial

/-- The first line of a text begins as the text does. -/
theorem head_strtok {c : UInt8} (hc : c ≠ 10) (text : CText) :
    ∃ line rest, C.strtok 10 (c :: text) = (c :: line) :: rest := by
  have hskip : (c :: text).dropWhile (· == 10) = c :: text :=
    List.dropWhile_cons_of_neg (by simpa using hc)
  rcases C.exists_token 10 (c :: text) with
    hnone | ⟨token, hne, hfree, htoken | ⟨after, htoken⟩⟩
  · rw [hskip] at hnone
    cases hnone
  · rw [hskip] at htoken
    rw [htoken, C.strtok_last hne hfree, ← htoken]
    exact ⟨text, [], rfl⟩
  · rw [hskip] at htoken
    rw [htoken, C.strtok_token hne hfree]
    obtain ⟨c', line, rfl⟩ := List.exists_cons_of_ne_nil hne
    cases htoken
    exact ⟨line, _, rfl⟩

/-- A status field that begins as a cleared one is not that of a dump. -/
theorem statusOf_ne_ok {cblock : CblockResult}
    (h : cblock.status.head? = some 67) :
    statusOf (statusLines cblock) ≠ .ok := by
  obtain ⟨rest, hstatus⟩ := List.head?_eq_some_iff.mp h
  have htext : (cblock.status.take 127).takeWhile (· != 0) =
      67 :: (rest.take 126).takeWhile (· != 0) := by
    rw [hstatus]
    rfl
  obtain ⟨line, lines, hlines⟩ :=
    head_strtok (show (67 : UInt8) ≠ 10 by decide)
      ((rest.take 126).takeWhile (· != 0))
  rw [statusLines, htext, hlines, statusOf, List.head?_cons]
  have hne : (67 :: line : CText) ≠ C.lit "OK" := by
    intro heq
    exact absurd (List.cons.inj heq).1 (by decide)
  rw [if_neg (by simpa using hne)]
  split_ifs
  · decide
  · decide

theorem head_status_clearedTo (part : Partition) {j : ℕ} (hj : 0 < j) :
    (part.clearedTo j).block.status.head? = some 67 := by
  have hlength : 0 < (clearedStatus.take j).length := by
    rw [List.length_take, length_clearedStatus]
    omega
  have hfirst : (clearedStatus.take j)[0] = 67 := by
    rw [List.getElem_take]
    rfl
  have hbyte : (part.clearedTo j).byte (part.blockStart + 9 + 0) = 67 := by
    rw [byte_clearedTo, store_add _ _ hlength, hfirst]
  have hhead : (List.range 128).head? = some 0 := rfl
  rw [block_status, blockStart_clearedTo, load, List.head?_map, hhead,
    Option.map_some, hbyte]

/-! ## One invocation -/

theorem ends_call
    {x : MrdumpM Unit} {s : Terminal} {Q : Bool → Terminal → Prop}
    {E : Failure → Terminal → Prop} :
    Ends (call x) s Q E ↔
      Ends x s.machine (fun _ m => Q true { s with machine := m })
        fun failure m =>
          if failure = .outOfBounds then
            E .outOfBounds { s with machine := m }
          else Q false { s with machine := m } := by
  rw [Ends, Ends, EStateM.run, call, EStateM.run]
  cases x s.machine with
  | ok _ m => exact Iff.rfl
  | error failure m =>
      dsimp only
      split_ifs
      · exact Iff.rfl
      · exact Iff.rfl

/-- What `status-get` prints first if there is a dump. -/
def dumpReport : CText := C.lit "MT-RAMDUMP\n\tStatus:Ok\n"

/-- What an invocation can do to the terminal on a host that fails. -/
structure Invocation.Effect (i : Invocation) (s t : Terminal) : Prop where
  part : ∃ j, t.machine.part = s.machine.part.clearedTo j ∧
    (i.clears = false → j = 0)
  confirmed : i.clears = true → t.stdout = s.stdout →
    t.machine.part = s.machine.part.cleared
  printed : ∃ text, t.stdout = s.stdout ++ text ∧
    (dumpReport <+: text → statusOf (statusLines s.machine.part.block) = .ok)

/-- An invocation that does not clear and leaves the partition alone. -/
theorem Invocation.Effect.of_untouched
    {i : Invocation} {s t : Terminal} (hi : i.clears = false)
    (hpart : t.machine.part = s.machine.part) {text : CText}
    (hprinted : t.stdout = s.stdout ++ text)
    (hreport : dumpReport <+: text →
      statusOf (statusLines s.machine.part.block) = .ok) :
    i.Effect s t where
  part := ⟨0, hpart.trans (clearedTo_zero _).symm, fun _ => rfl⟩
  confirmed := by
    intro hclears
    rw [hi] at hclears
    cases hclears
  printed := ⟨text, hprinted, hreport⟩

theorem dumpReport_eq :
    dumpReport = C.lit "MT-RAMDUMP\n\tStatus:" ++ C.lit "Ok\n" := by
  decide +kernel

/-- The report begins with an `M`. -/
theorem not_report_of_head
    {c : UInt8} (hc : c ≠ 77) {front : CText} (hfront : front.head? = some c)
    (text : CText) :
    ¬dumpReport <+: front ++ text := by
  have hreport : dumpReport.head? = some 77 := by decide +kernel
  rintro ⟨rest, hrest⟩
  have hheads := congrArg List.head? hrest
  rw [List.head?_append, List.head?_append, hreport, hfront] at hheads
  exact hc (Option.some.inj hheads).symm

theorem not_report_usageText (prog : CText) :
    ¬dumpReport <+: usageText prog := by
  have hhead : (C.lit "Usage\n").head? = some 85 := by decide +kernel
  rw [usageText, List.append_assoc, List.append_assoc, List.append_assoc]
  exact not_report_of_head (by decide) hhead _

theorem not_report_supportText (supported : Bool) :
    ¬dumpReport <+: supportText supported := by
  cases supported with
  | false => decide
  | true => decide

theorem not_report_logText (r : StatusResult) :
    ¬dumpReport <+: logText r := by
  have hhead : (C.lit "status line:\n").head? = some 115 := by decide +kernel
  rw [logText, List.append_assoc, List.append_assoc, List.append_assoc]
  exact not_report_of_head (by decide) hhead _

theorem status_of_report_statusText {r : StatusResult}
    (h : dumpReport <+: statusText r) : r.status = .ok := by
  rw [statusText, dumpReport_eq, List.prefix_append_right_inj] at h
  cases hstatus : r.status with
  | none =>
      have hno : ¬C.lit "Ok\n" <+: C.lit "None\n" := by decide +kernel
      rw [hstatus] at h
      exact absurd h hno
  | failed =>
      have hno : ¬C.lit "Ok\n" <+: C.lit "Failed\n" := by decide +kernel
      rw [hstatus] at h
      exact absurd h hno
  | ok => rfl

section Effects

variable {H : Host} (hH : H.toKernel.MayFail)

include hH

/-- Reading keeps the partition, and the status is that of the block. -/
theorem ends_mrdumpStatusGet (m : Machine) :
    Ends (mrdumpStatusGet H.toKernel) m
      (fun _ t => t.part = m.part ∧
        t.result.status = statusOf (statusLines m.part.block))
      fun _ t => t.part = m.part := by
  rw [mrdumpStatusGet_eq, ends_bind]
  refine (ends_loadCblock hH m).imp ?_ fun _ _ h => h.2
  rintro cblock t ⟨hcblock, ht⟩
  rw [← hcblock]
  have hparse :=
    (keeps_part_parseBlock cblock).ends (ends_parseBlock cblock t)
  refine hparse.imp ?_ ?_
  · rintro _ u ⟨hu, hstatus⟩
    exact ⟨hu.trans ht, hstatus⟩
  · rintro _ u ⟨hu, -⟩
    exact hu.trans ht

/-- Only the report about a dump depends on the status. -/
theorem effect_printResult
    {i : Invocation} (hi : i.clears = false) {text : StatusResult → CText}
    (htext : ∀ r, dumpReport <+: text r → r.status = .ok) (s : Terminal) :
    Ends (printResult H text) s (fun _ t => i.Effect s t)
      fun _ t => i.Effect s t := by
  rw [printResult, ends_bind, ends_call]
  refine (ends_mrdumpStatusGet hH s.machine).imp ?_ ?_
  · rintro _ m ⟨hpart, hstatus⟩
    refine Invocation.Effect.of_untouched hi hpart rfl fun hreport => ?_
    rw [← hstatus]
    exact htext m.result hreport
  · intro failure m hpart
    by_cases hfailure : failure = .outOfBounds
    · rw [if_pos hfailure]
      exact Invocation.Effect.of_untouched hi hpart
        (List.append_nil s.stdout).symm
        fun hreport => absurd hreport (by decide)
    · rw [if_neg hfailure, if_neg Bool.false_ne_true]
      exact Invocation.Effect.of_untouched hi hpart rfl
        fun hreport => absurd hreport (by decide)

theorem effect_statusClear
    {i : Invocation} (hi : i.clears = true) (s : Terminal) :
    Ends (Command.statusClear.body H) s (fun _ t => i.Effect s t)
      fun _ t => i.Effect s t := by
  rw [Command.body, ends_bind, ends_call]
  refine (ends_mrdumpStatusClear hH s.machine).imp ?_ ?_
  · intro _ m hpart
    have hall : m.part = s.machine.part.clearedTo 128 := by
      rw [hpart, clearedTo_of_le _ (Nat.le_refl 128)]
    refine ⟨⟨128, hall, fun hno => ?_⟩, fun _ _ => hpart, [],
      (List.append_nil s.stdout).symm, fun hreport => ?_⟩
    · rw [hi] at hno
      cases hno
    · exact absurd hreport (by decide)
  · rintro failure m ⟨hinside, j, hpart⟩
    rw [if_neg hinside, if_neg Bool.false_ne_true]
    refine ⟨⟨j, hpart, fun hno => ?_⟩, fun _ hsilent => ?_, _, rfl,
      fun hreport => ?_⟩
    · rw [hi] at hno
      cases hno
    · exact absurd (List.append_right_eq_self.mp hsilent) (by decide)
    · exact absurd hreport (by decide)

/-- Whatever the host does, an invocation has one of the effects above. -/
theorem toolStep_effect (s : Terminal) (i : Invocation) :
    i.Effect s (toolStep H s i) := by
  rw [toolStep, main_eq]
  apply Ends.stateAfter (P := i.Effect s)
  cases hi : i.command with
  | none =>
      have hclears : i.clears = false := by rw [Invocation.clears, hi]
      exact Invocation.Effect.of_untouched hclears rfl rfl
        fun hreport => absurd hreport (not_report_usageText i.prog)
  | some command =>
      cases command with
      | isSupported =>
          have hclears : i.clears = false := by rw [Invocation.clears, hi]
          exact Invocation.Effect.of_untouched hclears rfl rfl
            fun hreport => absurd hreport (not_report_supportText _)
      | statusGet =>
          have hclears : i.clears = false := by rw [Invocation.clears, hi]
          exact effect_printResult hH hclears
            (fun _ => status_of_report_statusText) s
      | statusLog =>
          have hclears : i.clears = false := by rw [Invocation.clears, hi]
          exact effect_printResult hH hclears
            (fun r hreport => absurd hreport (not_report_logText r)) s
      | statusClear =>
          have hclears : i.clears = true := by rw [Invocation.clears, hi]
          exact effect_statusClear hH hclears s

end Effects

/-! ## Any number of invocations -/

/-- An invocation of the tool, with the host it runs on. -/
abbrev Attempt := Host × Invocation

def attemptStep (s : Terminal) (a : Attempt) : Terminal :=
  toolStep a.1 s a.2

theorem exists_clearedTo_run
    {as : List Attempt} (has : ∀ a ∈ as, a.1.toKernel.MayFail)
    (s : Terminal) :
    ∃ j, (run attemptStep s as).machine.part = s.machine.part.clearedTo j ∧
      ((∀ a ∈ as, a.2.clears = false) → j = 0) := by
  induction as generalizing s with
  | nil => exact ⟨0, (clearedTo_zero _).symm, fun _ => rfl⟩
  | cons a as ih =>
      obtain ⟨i, hi, hfirst⟩ :=
        (toolStep_effect (has a List.mem_cons_self) s a.2).part
      obtain ⟨j, hj, hrest⟩ :=
        ih (fun b hb => has b (List.mem_cons_of_mem a hb)) (attemptStep s a)
      refine ⟨max i j, ?_, fun hkeep => ?_⟩
      · rw [← clearedTo_clearedTo, ← hi]
        exact hj
      · rw [hfirst (hkeep a List.mem_cons_self),
          hrest fun b hb => hkeep b (List.mem_cons_of_mem a hb), Nat.max_self]

/-- However often the tool is run and however the hosts fail, the partition
differs from the original in the first bytes of the status field at most, which
are those of a cleared status, and not at all if nobody clears. -/
theorem torn_run
    {as : List Attempt} (has : ∀ a ∈ as, a.1.toKernel.MayFail)
    (s : Terminal) :
    ∃ j ≤ 128,
      (run attemptStep s as).machine.part = s.machine.part.clearedTo j ∧
      ((∀ a ∈ as, a.2.clears = false) → j = 0) := by
  obtain ⟨j, hj, hkeep⟩ := exists_clearedTo_run has s
  refine ⟨min j 128, Nat.min_le_right j 128, ?_, fun h => ?_⟩
  · rw [clearedTo_min]
    exact hj
  · rw [hkeep h, Nat.zero_min]

theorem cleared_clearedTo (part : Partition) (j : ℕ) :
    (part.clearedTo j).cleared = part.cleared := by
  rw [← clearedTo_of_le (part.clearedTo j) (Nat.le_refl 128),
    clearedTo_clearedTo, clearedTo_of_le part (Nat.le_max_right j 128)]

theorem clearedTo_cleared (part : Partition) (j : ℕ) :
    part.cleared.clearedTo j = part.cleared := by
  rw [← clearedTo_of_le part (Nat.le_refl 128), clearedTo_clearedTo,
    clearedTo_of_le part (Nat.le_max_left 128 j),
    clearedTo_of_le part (Nat.le_refl 128)]

/-- Once `status-clear` has not complained, the status is cleared, and stays
so whatever is tried later. -/
theorem confirmed_clear_lasts
    {before after : List Attempt} {a : Attempt}
    (hhosts : ∀ b ∈ before ++ a :: after, b.1.toKernel.MayFail)
    (s : Terminal) (hclears : a.2.clears = true)
    (hsilent : (attemptStep (run attemptStep s before) a).stdout =
      (run attemptStep s before).stdout) :
    (run attemptStep s (before ++ a :: after)).machine.part =
      s.machine.part.cleared := by
  have ha : a ∈ before ++ a :: after :=
    List.mem_append_right before List.mem_cons_self
  obtain ⟨i, hi, -⟩ := exists_clearedTo_run
    (fun b hb => hhosts b (List.mem_append_left _ hb)) s
  have hcleared := (toolStep_effect (hhosts a ha)
    (run attemptStep s before) a.2).confirmed hclears hsilent
  rw [hi, cleared_clearedTo] at hcleared
  obtain ⟨j, hj, -⟩ := exists_clearedTo_run
    (fun b hb => hhosts b
      (List.mem_append_right before (List.mem_cons_of_mem a hb)))
    (attemptStep (run attemptStep s before) a)
  rw [attemptStep, hcleared, clearedTo_cleared] at hj
  rw [run, List.foldl_append]
  exact hj

/-- If an invocation reports a dump, then all earlier attempts to clear have
left the partition as it was: a half-cleared status is never reported as a
dump. -/
theorem dump_report_genuine
    {as : List Attempt} {a : Attempt}
    (hhosts : ∀ b ∈ a :: as, b.1.toKernel.MayFail) (s : Terminal)
    {text : CText}
    (hprinted : (attemptStep (run attemptStep s as) a).stdout =
      (run attemptStep s as).stdout ++ text)
    (hreport : dumpReport <+: text) :
    (run attemptStep s as).machine.part = s.machine.part := by
  obtain ⟨j, hj, -⟩ := exists_clearedTo_run
    (fun b hb => hhosts b (List.mem_cons_of_mem a hb)) s
  obtain ⟨text', htext', hgenuine⟩ := (toolStep_effect
    (hhosts a List.mem_cons_self) (run attemptStep s as) a.2).printed
  have heq : text = text' :=
    List.append_cancel_left (hprinted.symm.trans htext')
  rw [heq] at hreport
  have hok := hgenuine hreport
  rw [hj] at hok ⊢
  rcases Nat.eq_zero_or_pos j with rfl | hpos
  · exact clearedTo_zero _
  · exact absurd hok
      (statusOf_ne_ok (head_status_clearedTo s.machine.part hpos))

/-! ## A kernel that stops writing -/

theorem plainKernel_mayFail : plainKernel.MayFail where
  blkGetSize64 part size h := (Option.some.inj h).symm
  seek_part m off := by
    simp only [plainKernel]
    split_ifs
    · rfl
    · rfl
  seek_result m off := by
    simp only [plainKernel]
    split_ifs
    · rfl
    · rfl
  seek_position m off h := by
    simp only [plainKernel] at h ⊢
    split_ifs at h ⊢ with hoff
    · simp at h
    · exact ⟨h, rfl⟩
  read_part _ _ := rfl
  read_result _ _ := rfl
  read_bytes m n bytes h := by
    have hbytes := Option.some.inj h
    rw [← hbytes, length_load]
  write_part m bytes := by
    refine ⟨min bytes.length (m.part.size - m.position), rfl, fun h => ?_⟩
    exact (Int.ofNat.inj h).ge

/-- The plain kernel, with writes that end after `n` bytes. -/
def tornKernel (n : ℕ) : Kernel where
  opens := plainKernel.opens
  blkGetSize64 := plainKernel.blkGetSize64
  blkSszGet := plainKernel.blkSszGet
  lseek64 := plainKernel.lseek64
  read := plainKernel.read
  write m bytes := plainKernel.write m (bytes.take n)

theorem tornKernel_mayFail (n : ℕ) : (tornKernel n).MayFail where
  blkGetSize64 := plainKernel_mayFail.blkGetSize64
  seek_part := plainKernel_mayFail.seek_part
  seek_result := plainKernel_mayFail.seek_result
  seek_position := plainKernel_mayFail.seek_position
  read_part := plainKernel_mayFail.read_part
  read_result := plainKernel_mayFail.read_result
  read_bytes := plainKernel_mayFail.read_bytes
  write_part m bytes := by
    obtain ⟨k, hpart, hall⟩ := plainKernel_mayFail.write_part m (bytes.take n)
    have hcount : (plainKernel.write m (bytes.take n)).1 ≤
        (bytes.take n).length := by
      simp only [plainKernel]
      omega
    refine ⟨min k n, ?_, fun hret => ?_⟩
    · rw [← List.take_take]
      exact hpart
    · have hret' : (plainKernel.write m (bytes.take n)).1 = bytes.length := hret
      have hlength : (bytes.take n).length = min n bytes.length :=
        List.length_take
      have hk := hall (by omega)
      omega

def tornHost (n : ℕ) : Host where
  toKernel := tornKernel n
  versionFile := none

def clearInvocation : Invocation where
  prog := C.lit "mrdump"
  args := [C.lit "status-clear"]

def getInvocation : Invocation where
  prog := C.lit "mrdump"
  args := [C.lit "status-get"]

/-- A terminal on a partition with a dump. -/
def dumpTerminal : Terminal where
  machine := machineOf dumpBytes
  stdout := []

theorem recognised_dumpTerminal :
    dumpTerminal.machine.part.Recognised where
  size := Nat.le_refl mrdumpOffset
  signature := holdsSignature_dumpBytes
  log := zero_mem_logField_partitionOf (by decide)

/-- Two attempts to clear that end early. -/
def tornAttempts : List Attempt :=
  [(tornHost 12, clearInvocation), (tornHost 40, clearInvocation)]

theorem tornAttempts_mayFail :
    ∀ a ∈ tornAttempts, a.1.toKernel.MayFail := by
  simp only [tornAttempts, List.forall_mem_cons, tornHost]
  exact ⟨tornKernel_mayFail 12, tornKernel_mayFail 40, List.forall_mem_nil _⟩

theorem torn_run_of_dump :
    ∃ j ≤ 128, (run attemptStep dumpTerminal tornAttempts).machine.part =
      dumpTerminal.machine.part.clearedTo j := by
  obtain ⟨j, hj, hpart, -⟩ := torn_run tornAttempts_mayFail dumpTerminal
  exact ⟨j, hj, hpart⟩

/-- Clearing is silent if everything is transferred. -/
theorem stdout_statusClear {H : Host} (hH : H.Transfers) {s : Terminal}
    (h : mrdumpOffset ≤ s.machine.part.size) :
    (toolStep H s clearInvocation).stdout = s.stdout := by
  have hcommand : clearInvocation.command = some .statusClear := rfl
  rw [toolStep, main_eq, hcommand]
  simp only [stateAfter_statusClear hH h]

/-- The third attempt succeeds, and a fourth one cannot undo that. -/
theorem confirmed_clear_lasts_of_dump :
    (run attemptStep dumpTerminal
      (tornAttempts ++ (plainHost, clearInvocation) ::
        [(tornHost 12, clearInvocation)])).machine.part =
      dumpTerminal.machine.part.cleared := by
  have hhosts : ∀ a ∈ tornAttempts ++ (plainHost, clearInvocation) ::
      [(tornHost 12, clearInvocation)], a.1.toKernel.MayFail := by
    simp only [List.forall_mem_append, List.forall_mem_cons, plainHost,
      tornHost]
    exact ⟨tornAttempts_mayFail, plainKernel_mayFail, tornKernel_mayFail 12,
      List.forall_mem_nil _⟩
  obtain ⟨j, hj, -⟩ := exists_clearedTo_run tornAttempts_mayFail dumpTerminal
  have hsize : mrdumpOffset ≤
      (run attemptStep dumpTerminal tornAttempts).machine.part.size := by
    rw [hj, size_clearedTo]
    exact recognised_dumpTerminal.size
  have hclears : clearInvocation.clears = true := rfl
  have hsilent :
      (attemptStep (run attemptStep dumpTerminal tornAttempts)
        (plainHost, clearInvocation)).stdout =
      (run attemptStep dumpTerminal tornAttempts).stdout := by
    rw [attemptStep]
    exact stdout_statusClear plainKernel_transfers hsize
  rw [confirmed_clear_lasts hhosts dumpTerminal hclears hsilent]

theorem copyLog_run (log : CText) (m : Machine) :
    (do
      let log ← copied (some log)
      modifyResult fun r => { r with logBuf := log } : MrdumpM Unit).run m =
      .ok () { m with result := { m.result with logBuf := log } } := rfl

theorem status_of_parseBlock
    {cblock : CblockResult} {m t : Machine}
    (hrun : (parseBlock cblock).run m = .ok () t) :
    t.result.status = statusOf (statusLines cblock) := by
  have hends := ends_parseBlock cblock m
  rw [Ends, hrun] at hends
  exact hends

/-- The record of an accepted status. -/
theorem record_of_accepted {part : Partition} (h : part.Recognised)
    (haccepted : Accepted (statusLines part.block)) :
    ∃ r, record part = .ok r ∧
      r.status = statusOf (statusLines part.block) := by
  have hsig : part.block.sig = mrdumpSig ++ [0] :=
    (block_sig part).trans h.signature
  have hlog : 0 ∈ part.block.logBuf := by
    rw [block_logBuf]
    exact h.log
  have hrun := parseBytes_of_accepted hsig (List.mem_append_right _ hlog)
    haccepted (opened part)
  rw [parseBytes_eq, strlcpy_log hlog, copyLog_run] at hrun
  obtain ⟨m, hm⟩ :
      ∃ m, (parseBlock part.block).run (opened part) = .ok () m := ⟨_, hrun⟩
  exact ⟨m.result, record_of_ok hm, status_of_parseBlock hm⟩

theorem statusLines_dumpTerminal :
    statusLines dumpTerminal.machine.part.block =
      linesOf (dumpBytes.drop 9) := by
  rw [← statusText_dumpBytes, Partition.statusText, statusLines,
    block_status]
  rfl

theorem dumpReport_statusText {r : StatusResult} (h : r.status = .ok) :
    dumpReport <+: statusText r := by
  rw [statusText, h, dumpReport_eq, List.prefix_append_right_inj,
    statusOkText, List.append_assoc]
  exact List.prefix_append _ _

theorem dump_report_genuine_of_dump :
    (run attemptStep dumpTerminal [(tornHost 12, getInvocation)]).machine.part =
      dumpTerminal.machine.part := by
  have hhosts : ∀ a ∈ [(plainHost, getInvocation), (tornHost 12, getInvocation)],
      a.1.toKernel.MayFail := by
    simp only [List.forall_mem_cons, plainHost, tornHost]
    exact ⟨plainKernel_mayFail, tornKernel_mayFail 12, List.forall_mem_nil _⟩
  have haccepted : Accepted (linesOf (dumpBytes.drop 9)) := by
    decide +kernel
  have hok : statusOf (linesOf (dumpBytes.drop 9)) = .ok := by
    decide +kernel
  rw [← statusLines_dumpTerminal] at haccepted hok
  obtain ⟨r, hrecord, hstatus⟩ :=
    record_of_accepted recognised_dumpTerminal haccepted
  rw [hok] at hstatus
  obtain ⟨j, hj, hkeep⟩ := exists_clearedTo_run
    (fun b hb => hhosts b (List.mem_cons_of_mem _ hb)) dumpTerminal
  have hfirst : (run attemptStep dumpTerminal
      [(tornHost 12, getInvocation)]).machine.part =
        dumpTerminal.machine.part.after false := by
    rw [hj, hkeep (by decide), clearedTo_zero, after_false]
  obtain ⟨-, hprinted⟩ := toolStep_follows (H := plainHost)
    plainKernel_transfers recognised_dumpTerminal hfirst getInvocation
  have hanswer : getInvocation.answer plainHost
      (recordAfter dumpTerminal.machine.part false) = statusText r := by
    rw [recordAfter_false, hrecord]
    rfl
  rw [hanswer] at hprinted
  rw [dump_report_genuine hhosts dumpTerminal hprinted
    (dumpReport_statusText hstatus)]

end SmartSurf.Mrdump
