import Mathlib.Algebra.Ring.Int.Defs
import SmartSurf.Platform.CText
import SmartSurf.Support.Memory
import SmartSurf.Support.Sequencing

/-!
# The ramdump status block

`mrdump_status.c` keeps one packed record on the `expdb` partition, at a fixed
distance from its end.  `mrdump_status_clear` reads the record, replaces its
status field and writes the record back; `mrdump_status_get` parses it.

The block device is a parameter.  Every return of `false` is an exception that
names the message logged in front of it, and `outOfBounds` stands for an access
outside the record, after which the C program has no defined behaviour.
-/

namespace SmartSurf.Mrdump

open Support

/-! ## Data -/

/-- `MRDUMP_OFFSET`. -/
def mrdumpOffset : ℕ := 3145728

/-- `MRDUMP_SIG`. -/
def mrdumpSig : CText := C.lit "MRDUMP04"

/-- `expdb_devs`. -/
def expdbDevs : List String :=
  ["/dev/block/platform/mtk-msdc.0/11230000.msdc0/by-name/expdb",
    "/dev/block/platform/mtk-msdc.0/11230000.MSDC0/by-name/expdb"]

/-- The contents of the `expdb` partition.  Only the addresses below `size`
belong to it. -/
@[ext] structure Partition where
  size : ℕ
  byte : ℕ → UInt8
  size_lt : size < 0x8000000000000000

def Partition.write (part : Partition) (off : ℕ) (bytes : List UInt8) :
    Partition :=
  { part with byte := store part.byte off bytes }

/-- `struct partinfo` without the descriptor. -/
structure Partinfo where
  size : ℕ
  blksize : ℕ
  deriving DecidableEq, Repr

/-- `sizeof(struct mrdump_cblock_result)`. -/
def cblockSize : ℕ := 2185

/-- `struct mrdump_cblock_result`, which is packed. -/
structure CblockResult where
  sig : List UInt8
  status : List UInt8
  logBuf : List UInt8
  sig_length : sig.length = 9
  status_length : status.length = 128
  logBuf_length : logBuf.length = 2048

namespace CblockResult

def ofBytes (bytes : List UInt8) (h : bytes.length = cblockSize) :
    CblockResult where
  sig := bytes.take 9
  status := (bytes.drop 9).take 128
  logBuf := bytes.drop 137
  sig_length := by simp [h, cblockSize]
  status_length := by simp [h, cblockSize]
  logBuf_length := by simp [h, cblockSize]

def toBytes (cblock : CblockResult) : List UInt8 :=
  cblock.sig ++ (cblock.status ++ cblock.logBuf)

end CblockResult

/-- `MRDUMP_STATUS`. -/
inductive MrdumpStatus where
  | none
  | failed
  | ok
  deriving DecidableEq, Repr

/-- `MRDUMP_OUTPUT`. -/
inductive MrdumpOutput where
  | null
  | usb
  | ext4Data
  | vfatIntStorage
  deriving DecidableEq, Repr

/-- `struct mrdump_status_result`, with its character arrays as strings; the
default value is the cleared record. -/
structure StatusResult where
  structSize : ℕ := 0
  status : MrdumpStatus := .none
  output : MrdumpOutput := .null
  mode : CText := []
  statusLine : CText := []
  logBuf : CText := []
  deriving DecidableEq, Repr

/-- `sizeof(struct mrdump_status_result)`. -/
def statusResultSize : ℕ := 2220

/-! ## The machine -/

/-- The partition, the offset of the open descriptor, and the record of the
caller. -/
structure Machine where
  part : Partition
  position : ℕ
  result : StatusResult

/-- Why a function did not return `true`. -/
inductive Failure where
  | noPartition
  | noPartitionSize
  | noSectorSize
  | cantSeek
  | cantRead
  | cantWrite
  | signatureMismatched
  | statusParsing
  | unknownOutput
  | outOfBounds
  deriving DecidableEq, Repr

abbrev MrdumpM := EStateM Failure Machine

/-- The value returned by a function; an access outside the record has none. -/
def returnValue : Except Failure Unit → Option Bool
  | .ok _ => some true
  | .error .outOfBounds => none
  | .error _ => some false

/-- The system calls.  `read` gives the bytes transferred. -/
structure Kernel where
  opens : String → Bool
  blkGetSize64 : Partition → Option ℕ
  blkSszGet : Partition → Option ℕ
  lseek64 : Machine → ℤ → ℤ × Machine
  read : Machine → ℕ → Option (List UInt8) × Machine
  write : Machine → List UInt8 → ℤ × Machine

/-- The partition is there, seeks inside it succeed and seeks to a negative
offset do not, and reads and writes inside it transfer everything. -/
structure Kernel.Transfers (K : Kernel) : Prop where
  opens : ∃ dev ∈ expdbDevs, K.opens dev = true
  blkGetSize64 : ∀ part, K.blkGetSize64 part = some part.size
  blkSszGet : ∀ part, ∃ blksize, K.blkSszGet part = some blksize
  seek_negative : ∀ m off, off < 0 →
    (K.lseek64 m off).1 < 0 ∧ (K.lseek64 m off).2 = m
  seek : ∀ m (off : ℕ), off ≤ m.part.size →
    K.lseek64 m off = ((off : ℤ), { m with position := off })
  read : ∀ m n, m.position + n ≤ m.part.size →
    K.read m n = (some (load m.part.byte m.position n),
      { m with position := m.position + n })
  write : ∀ m bytes, m.position + bytes.length ≤ m.part.size →
    K.write m bytes = ((bytes.length : ℤ),
      { m with
        part := m.part.write m.position bytes
        position := m.position + bytes.length })

/-! ## The functions -/

/-- `expdb_open`, for the device names still to be tried. -/
def expdbOpen (K : Kernel) : List String → MrdumpM Partinfo
  | [] => throw .noPartition
  | dev :: devs =>
      if K.opens dev then do
        let m ← get
        match K.blkGetSize64 m.part with
        | none => throw .noPartitionSize
        | some size =>
            match K.blkSszGet m.part with
            | none => throw .noSectorSize
            | some blksize =>
                set { m with position := 0 }
                return { size := size, blksize := blksize }
      else
        expdbOpen K devs

/-- `partinfo.size - MRDUMP_OFFSET`: an unsigned difference, passed as a signed
offset. -/
def blockOffset (size : ℕ) : ℤ :=
  Int.bmod (((size + 0x10000000000000000 - mrdumpOffset) %
    0x10000000000000000 : ℕ) : ℤ) 0x10000000000000000

def seekBlock (K : Kernel) (partinfo : Partinfo) : MrdumpM Unit := do
  let m ← get
  let (ret, m) := K.lseek64 m (blockOffset partinfo.size)
  set m
  if ret < 0 then throw .cantSeek

def readBlock (K : Kernel) : MrdumpM CblockResult := do
  let m ← get
  let (bytes, m) := K.read m cblockSize
  set m
  match bytes with
  | none => throw .cantRead
  | some bytes =>
      if h : bytes.length = cblockSize then
        return CblockResult.ofBytes bytes h
      else
        throw .cantRead

def writeBlock (K : Kernel) (cblock : CblockResult) : MrdumpM Unit := do
  let m ← get
  let (ret, m) := K.write m cblock.toBytes
  set m
  if ret ≠ cblockSize then throw .cantWrite

/-- The status field after `memset` and `strcpy(status, "CLEAR")`. -/
def clearedStatus : List UInt8 :=
  C.lit "CLEAR" ++ 0 :: List.replicate 122 0

theorem length_clearedStatus : clearedStatus.length = 128 := by
  simp [clearedStatus, C.lit]

def CblockResult.clear (cblock : CblockResult) : CblockResult :=
  { cblock with
    status := clearedStatus
    status_length := length_clearedStatus }

/-- `mrdump_status_clear`. -/
def mrdumpStatusClear (K : Kernel) : MrdumpM Unit := do
  let partinfo ← expdbOpen K expdbDevs
  seekBlock K partinfo
  let cblock ← readBlock K
  seekBlock K partinfo
  writeBlock K cblock.clear

def modifyResult (f : StatusResult → StatusResult) : MrdumpM Unit :=
  modify fun m => { m with result := f m.result }

/-- A copy that leaves the record is not carried out. -/
def copied : Option CText → MrdumpM CText
  | none => throw .outOfBounds
  | some text => return text

/-- The loop over the lines behind `OK`. -/
def readOptions : List CText → MrdumpM Unit
  | [] => return ()
  | strval :: rest => do
      if (C.lit "OUTPUT:").isPrefixOf strval then
        if strval.drop 7 = C.lit "EXT4_DATA" then
          modifyResult fun r => { r with output := .ext4Data }
        else if strval.drop 7 = C.lit "VFAT_INT_STORAGE" then
          modifyResult fun r => { r with output := .vfatIntStorage }
        else
          throw .unknownOutput
      else if (C.lit "MODE:").isPrefixOf strval then
        modifyResult fun r => { r with mode := (strval.drop 5).take 31 }
      readOptions rest

/-- The lines of the status field, whose last byte is set to zero first. -/
def statusLines (cblock : CblockResult) : List CText :=
  C.strtok 10 ((cblock.status.take 127).takeWhile (· != 0))

def readStatus : List CText → MrdumpM Unit
  | [] => throw .statusParsing
  | strval :: rest =>
      if strval = C.lit "OK" then do
        modifyResult fun r => { r with status := .ok, output := .null }
        readOptions rest
      else if strval = C.lit "NONE" then
        modifyResult fun r => { r with status := .none }
      else if strval = C.lit "CLEAR" then
        modifyResult fun r => { r with status := .none }
      else
        modifyResult fun r => { r with status := .failed }

/-- The part of `mrdump_status_get` behind the reading of the block.  The
copy of the status line scans on into the log. -/
def parseBlock (cblock : CblockResult) : MrdumpM Unit := do
  match C.strcmpEq cblock.toBytes mrdumpSig with
  | none => throw .outOfBounds
  | some false => throw .signatureMismatched
  | some true =>
      let line ← copied (C.strlcpy 128 (cblock.status ++ cblock.logBuf))
      modifyResult fun r => { r with statusLine := line }
      readStatus (statusLines cblock)
      let log ← copied (C.strlcpy 2048 cblock.logBuf)
      modifyResult fun r => { r with logBuf := log }

/-- `mrdump_status_get`. -/
def mrdumpStatusGet (K : Kernel) : MrdumpM Unit := do
  modifyResult fun _ => { structSize := statusResultSize }
  let partinfo ← expdbOpen K expdbDevs
  seekBlock K partinfo
  let cblock ← readBlock K
  parseBlock cblock

end SmartSurf.Mrdump
