import SmartSurf.Mrdump.Status

/-!
# Access to the status block

Where the block and its fields lie on the partition, and what the system calls
do one after the other on a kernel that transfers everything.  The last section
has a concrete kernel and concrete partitions.
-/

namespace SmartSurf.Mrdump

open Support

/-! ## Places on the partition -/

/-- Address of the status block. -/
def Partition.blockStart (part : Partition) : ℕ :=
  part.size - mrdumpOffset

/-- The signature of the block with its terminator. -/
def Partition.HoldsSignature (part : Partition) : Prop :=
  load part.byte part.blockStart 9 = mrdumpSig ++ [0]

/-- The log field of the block. -/
def Partition.logField (part : Partition) : List UInt8 :=
  load part.byte (part.blockStart + 137) 2048

/-- The block as it is stored. -/
def Partition.block (part : Partition) : CblockResult :=
  CblockResult.ofBytes (load part.byte part.blockStart cblockSize)
    (length_load _ _ _)

theorem block_sig (part : Partition) :
    part.block.sig = load part.byte part.blockStart 9 := by
  have hsize : 9 ≤ cblockSize := by decide
  rw [Partition.block, CblockResult.ofBytes]
  simp only [take_load _ _ hsize]

theorem block_status (part : Partition) :
    part.block.status = load part.byte (part.blockStart + 9) 128 := by
  have hsize : 9 ≤ cblockSize := by decide
  have hrest : 128 ≤ cblockSize - 9 := by decide
  rw [Partition.block, CblockResult.ofBytes]
  simp only [drop_load _ _ hsize, take_load _ _ hrest]

theorem block_logBuf (part : Partition) :
    part.block.logBuf = part.logField := by
  have hsize : 137 ≤ cblockSize := by decide
  have hrest : cblockSize - 137 = 2048 := rfl
  rw [Partition.block, CblockResult.ofBytes]
  simp only [drop_load _ _ hsize, hrest, Partition.logField]

/-! ## The system calls in sequence -/

theorem blockOffset_of_lt {size : ℕ} (h : size < mrdumpOffset) :
    blockOffset size < 0 := by
  unfold mrdumpOffset at h
  unfold blockOffset mrdumpOffset
  rw [Int.bmod_def]
  split
  · omega
  · omega

theorem blockOffset_of_le
    {size : ℕ} (h : mrdumpOffset ≤ size) (hlt : size < 0x8000000000000000) :
    blockOffset size = ((size - mrdumpOffset : ℕ) : ℤ) := by
  unfold mrdumpOffset at h
  unfold blockOffset mrdumpOffset
  rw [Int.bmod_def]
  split
  · omega
  · omega

theorem seekBlock_eq (K : Kernel) (partinfo : Partinfo) (m : Machine) :
    (seekBlock K partinfo).run m =
      if (K.lseek64 m (blockOffset partinfo.size)).1 < 0 then
        .error .cantSeek (K.lseek64 m (blockOffset partinfo.size)).2
      else
        .ok () (K.lseek64 m (blockOffset partinfo.size)).2 := by
  unfold seekBlock
  generalize blockOffset partinfo.size = off
  simp only [EStateM.run_bind, EStateM.run_get, EStateM.run_set]
  split
  · rfl
  · rfl

/-- `mrdump_status_get` up to the reading of the block. -/
def loadCblock (K : Kernel) : MrdumpM CblockResult := do
  modifyResult fun _ => { structSize := statusResultSize }
  let partinfo ← expdbOpen K expdbDevs
  seekBlock K partinfo
  readBlock K

theorem mrdumpStatusGet_eq (K : Kernel) :
    mrdumpStatusGet K = loadCblock K >>= parseBlock := by
  simp only [mrdumpStatusGet, loadCblock, bind_assoc]

section Transfers

variable {K : Kernel} (hK : K.Transfers)

include hK

theorem expdbOpen_run
    (m : Machine) {devs : List String}
    (hdevs : ∃ dev ∈ devs, K.opens dev = true) :
    ∃ blksize, (expdbOpen K devs).run m =
      .ok { size := m.part.size, blksize := blksize }
        { m with position := 0 } := by
  obtain ⟨blksize, hblksize⟩ := hK.blkSszGet m.part
  induction devs with
  | nil =>
      obtain ⟨dev, hdev, -⟩ := hdevs
      cases hdev
  | cons dev devs ih =>
      by_cases hopen : K.opens dev = true
      · refine ⟨blksize, ?_⟩
        simp only [expdbOpen, hopen, if_true, EStateM.run_bind,
          EStateM.run_get, hK.blkGetSize64, hblksize, EStateM.run_set]
        rfl
      · have hrest : ∃ dev ∈ devs, K.opens dev = true := by
          obtain ⟨dev', hmem, hopen'⟩ := hdevs
          rcases List.mem_cons.mp hmem with rfl | hmem
          · exact absurd hopen' hopen
          · exact ⟨dev', hmem, hopen'⟩
        simpa [expdbOpen, hopen] using ih hrest

theorem seekBlock_run_of_lt
    {m : Machine} (h : m.part.size < mrdumpOffset) (blksize : ℕ) :
    (seekBlock K { size := m.part.size, blksize := blksize }).run m =
      .error .cantSeek m := by
  obtain ⟨hret, hm⟩ := hK.seek_negative m _ (blockOffset_of_lt h)
  rw [seekBlock_eq, if_pos hret, hm]

theorem seekBlock_run
    {m : Machine} (h : mrdumpOffset ≤ m.part.size) (blksize : ℕ) :
    (seekBlock K { size := m.part.size, blksize := blksize }).run m =
      .ok () { m with position := m.part.blockStart } := by
  have hseek := hK.seek m (m.part.size - mrdumpOffset) (Nat.sub_le _ _)
  rw [← blockOffset_of_le h m.part.size_lt] at hseek
  rw [seekBlock_eq, hseek, if_neg]
  · rfl
  · rw [blockOffset_of_le h m.part.size_lt]
    omega

theorem readBlock_run
    {m : Machine} (h : mrdumpOffset ≤ m.part.size)
    (hposition : m.position = m.part.blockStart) :
    (readBlock K).run m =
      .ok m.part.block
        { m with position := m.part.blockStart + cblockSize } := by
  have hroom : m.position + cblockSize ≤ m.part.size := by
    rw [hposition, Partition.blockStart]
    unfold mrdumpOffset at h ⊢
    unfold cblockSize
    omega
  have hread := hK.read m cblockSize hroom
  simp only [readBlock, EStateM.run_bind, EStateM.run_get, EStateM.run_set,
    hread, length_load, dif_pos]
  simp [hposition, Partition.block]

theorem writeBlock_run
    {m : Machine} (h : mrdumpOffset ≤ m.part.size)
    (hposition : m.position = m.part.blockStart) (cblock : CblockResult) :
    (writeBlock K cblock).run m =
      .ok () { m with
        part := m.part.write m.part.blockStart cblock.toBytes
        position := m.part.blockStart + cblockSize } := by
  have hlength : cblock.toBytes.length = cblockSize := by
    simp [CblockResult.toBytes, cblock.sig_length, cblock.status_length,
      cblock.logBuf_length, cblockSize]
  have hroom : m.position + cblock.toBytes.length ≤ m.part.size := by
    rw [hlength, hposition, Partition.blockStart]
    unfold mrdumpOffset at h ⊢
    unfold cblockSize
    omega
  have hwrite := hK.write m cblock.toBytes hroom
  simp only [writeBlock, EStateM.run_bind, EStateM.run_get, EStateM.run_set,
    hwrite]
  simp [hposition, hlength]

theorem loadCblock_run
    {m : Machine} (h : mrdumpOffset ≤ m.part.size) :
    (loadCblock K).run m =
      .ok m.part.block
        { m with
          result := { structSize := statusResultSize }
          position := m.part.blockStart + cblockSize } := by
  let r := { m with result := { structSize := statusResultSize } }
  obtain ⟨blksize, hopen⟩ := expdbOpen_run hK r hK.opens
  have hreset :
      (modifyResult fun _ => { structSize := statusResultSize }).run m =
        .ok () r := rfl
  have hseek := seekBlock_run hK (m := { r with position := 0 }) h blksize
  have hread := readBlock_run hK
    (m := { r with position := r.part.blockStart }) h rfl
  rw [loadCblock, run_bind_of_ok hreset, run_bind_of_ok hopen,
    run_bind_of_ok hseek, hread]

theorem mrdumpStatusGet_run
    {m : Machine} (h : mrdumpOffset ≤ m.part.size) :
    (mrdumpStatusGet K).run m =
      (parseBlock m.part.block).run
        { m with
          result := { structSize := statusResultSize }
          position := m.part.blockStart + cblockSize } := by
  rw [mrdumpStatusGet_eq, run_bind_of_ok (loadCblock_run hK h)]

end Transfers

/-! ## A plain kernel -/

/-- A kernel whose calls transfer as much as the partition holds. -/
def plainKernel : Kernel where
  opens _ := true
  blkGetSize64 part := some part.size
  blkSszGet _ := some 512
  lseek64 m off :=
    if off < 0 ∨ m.part.size < off.toNat then (-1, m)
    else (off, { m with position := off.toNat })
  read m n :=
    let count := min n (m.part.size - m.position)
    (some (load m.part.byte m.position count),
      { m with position := m.position + count })
  write m bytes :=
    let count := min bytes.length (m.part.size - m.position)
    ((count : ℤ),
      { m with
        part := m.part.write m.position (bytes.take count)
        position := m.position + count })

theorem plainKernel_transfers : plainKernel.Transfers where
  opens := ⟨_, List.mem_cons_self, rfl⟩
  blkGetSize64 _ := rfl
  blkSszGet _ := ⟨512, rfl⟩
  seek_negative m off hoff := by
    simp [plainKernel, hoff]
  seek m off hoff := by
    have hinside : ¬((off : ℤ) < 0 ∨ m.part.size < off) := by omega
    simp only [plainKernel, Int.toNat_natCast, if_neg hinside]
  read m n hroom := by
    have hcount : min n (m.part.size - m.position) = n := by omega
    simp only [plainKernel, hcount]
  write m bytes hroom := by
    have hcount : min bytes.length (m.part.size - m.position) =
        bytes.length := by omega
    simp only [plainKernel, hcount, List.take_length]

/-- A partition that consists of the area behind the block offset, with the
given bytes in front and zeros behind. -/
def partitionOf (bytes : List UInt8) : Partition where
  size := mrdumpOffset
  byte i := (bytes[i]?).getD 0
  size_lt := by decide

/-- The machine before the first call. -/
def machineOf (bytes : List UInt8) : Machine where
  part := partitionOf bytes
  position := 0
  result := {}

theorem blockStart_partitionOf (bytes : List UInt8) :
    (partitionOf bytes).blockStart = 0 := by
  rw [Partition.blockStart, partitionOf, Nat.sub_self]

theorem zero_mem_logField_partitionOf
    {bytes : List UInt8} (h : bytes.length ≤ 137) :
    0 ∈ (partitionOf bytes).logField := by
  have hzero : (partitionOf bytes).byte (0 + 137 + 0) = 0 := by
    change (bytes[137]?).getD 0 = 0
    rw [List.getElem?_eq_none h, Option.getD_none]
  rw [Partition.logField, blockStart_partitionOf, load, List.mem_map]
  exact ⟨0, List.mem_range.mpr (by decide), hzero⟩

theorem holdsSignature_partitionOf :
    (partitionOf (mrdumpSig ++ [0])).HoldsSignature := by
  rw [Partition.HoldsSignature, blockStart_partitionOf]
  decide

end SmartSurf.Mrdump
