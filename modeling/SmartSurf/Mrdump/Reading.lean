import SmartSurf.Mrdump.Access
import SmartSurf.Platform.Strtok

/-!
# Reading the ramdump status

The first part follows the parser byte by byte: a saved pointer runs through the
block, and the tokeniser writes terminators into it.  Since the last byte of the
status field is set to zero in front of the loop, the lines are those of the
text in front of the first zero, and the parser is the one of `parseBlock`.

The second part says which status fields the parser accepts, what it makes of
them, and for which blocks it looks at bytes behind the end of the record.
-/

namespace SmartSurf.Mrdump

open Support

/-! ## The parser on the bytes of the block -/

/-- The bytes from the status field on, after the store to its last byte. -/
def CblockResult.statusMemory (cblock : CblockResult) : List UInt8 :=
  cblock.status.set 127 0 ++ cblock.logBuf

def isOutput (strval : CText) : Bool :=
  (C.lit "OUTPUT:").isPrefixOf strval

def isMode (strval : CText) : Bool :=
  (C.lit "MODE:").isPrefixOf strval

/-- One line behind `OK`. -/
def readOption (strval : CText) : MrdumpM Unit :=
  if isOutput strval then
    if strval.drop 7 = C.lit "EXT4_DATA" then
      modifyResult fun r => { r with output := .ext4Data }
    else if strval.drop 7 = C.lit "VFAT_INT_STORAGE" then
      modifyResult fun r => { r with output := .vfatIntStorage }
    else
      throw .unknownOutput
  else if isMode strval then
    modifyResult fun r => { r with mode := (strval.drop 5).take 31 }
  else
    return ()

/-- The loop of `mrdump_status_get`, from a saved pointer on. -/
def optionLoop (saveptr : Option (List UInt8)) : MrdumpM Unit :=
  match _h : C.strtokR 10 saveptr with
  | none => throw .outOfBounds
  | some none => return ()
  | some (some (strval, saveptr')) => do
      readOption strval
      optionLoop saveptr'
termination_by C.savedSize saveptr
decreasing_by exact C.savedSize_lt_of_strtokR _h

/-- The first call of the tokeniser and the branches on its result. -/
def readStatusBytes (mem : List UInt8) : MrdumpM Unit :=
  match C.strtokR 10 (some mem) with
  | none => throw .outOfBounds
  | some none => throw .statusParsing
  | some (some (strval, saveptr)) =>
      if strval = C.lit "OK" then do
        modifyResult fun r => { r with status := .ok, output := .null }
        optionLoop saveptr
      else if strval = C.lit "NONE" then
        modifyResult fun r => { r with status := .none }
      else if strval = C.lit "CLEAR" then
        modifyResult fun r => { r with status := .none }
      else
        modifyResult fun r => { r with status := .failed }

/-- The part of `mrdump_status_get` behind the reading of the block. -/
def parseBytes (cblock : CblockResult) : MrdumpM Unit := do
  match C.strcmpEq cblock.toBytes mrdumpSig with
  | none => throw .outOfBounds
  | some false => throw .signatureMismatched
  | some true =>
      let line ← copied (C.strlcpy 128 (cblock.status ++ cblock.logBuf))
      modifyResult fun r => { r with statusLine := line }
      readStatusBytes cblock.statusMemory
      let log ← copied (C.strlcpy 2048 cblock.logBuf)
      modifyResult fun r => { r with logBuf := log }

/-- `mrdump_status_get`, byte by byte. -/
def mrdumpStatusGetBytes (K : Kernel) : MrdumpM Unit := do
  let cblock ← loadCblock K
  parseBytes cblock

/-! ## The lines of the status field -/

theorem readOptions_cons (strval : CText) (rest : List CText) :
    readOptions (strval :: rest) =
      (readOption strval >>= fun _ => readOptions rest) := by
  rw [readOptions, readOption, isOutput, isMode]
  split_ifs
  · rfl
  · rfl
  · rfl
  · rfl
  · simp

theorem optionLoop_of_tokens
    {saveptr : Option (List UInt8)} {lines : List CText}
    (h : C.Tokens 10 saveptr lines) :
    optionLoop saveptr = readOptions lines := by
  induction h with
  | done hcall =>
      rw [optionLoop, readOptions]
      split
      next hnone => simp [hcall] at hnone
      next => rfl
      next hsome => simp [hcall] at hsome
  | next hcall hrest ih =>
      rw [optionLoop, readOptions_cons, ← ih]
      split
      next hnone => simp [hcall] at hnone
      next hnull => simp [hcall] at hnull
      next strval saveptr' hsome =>
        rw [hcall] at hsome
        obtain ⟨rfl, rfl⟩ :=
          Prod.mk.inj (Option.some.inj (Option.some.inj hsome))
        rfl

/-- The field in front of its last byte, split at the first zero. -/
theorem statusMemory_eq (cblock : CblockResult) :
    ∃ rest, cblock.statusMemory =
      (cblock.status.take 127).takeWhile (· != 0) ++ 0 :: rest := by
  have hset : cblock.status.set 127 0 = cblock.status.take 127 ++ [0] := by
    rw [List.set_eq_take_append_cons_drop,
      if_pos (by rw [cblock.status_length]; omega),
      List.drop_of_length_le (by rw [cblock.status_length])]
  have hsplit := List.takeWhile_append_dropWhile
    (p := (· != 0)) (l := cblock.status.take 127)
  rw [CblockResult.statusMemory, hset]
  rcases hrest : (cblock.status.take 127).dropWhile (· != 0) with _ | ⟨b, rest⟩
  · rw [hrest, List.append_nil] at hsplit
    exact ⟨cblock.logBuf, by rw [hsplit]; simp⟩
  · have hb : b = 0 := by
      have hhead := List.head?_dropWhile_not (· != 0) (cblock.status.take 127)
      rw [hrest] at hhead
      simpa using hhead
    rw [hrest, hb] at hsplit
    refine ⟨rest ++ 0 :: cblock.logBuf, ?_⟩
    nth_rewrite 1 [← hsplit]
    simp

theorem tokens_statusMemory (cblock : CblockResult) :
    C.Tokens 10 (some cblock.statusMemory) (statusLines cblock) := by
  obtain ⟨rest, hmemory⟩ := statusMemory_eq cblock
  have hfree : 0 ∉ (cblock.status.take 127).takeWhile (· != 0) := by
    intro hmem
    have hne := List.mem_takeWhile_imp hmem
    simp at hne
  rw [hmemory, statusLines]
  exact C.tokens_of_terminated (by decide) hfree rest

theorem readStatusBytes_of_tokens
    {mem : List UInt8} {lines : List CText}
    (h : C.Tokens 10 (some mem) lines) :
    readStatusBytes mem = readStatus lines := by
  rcases h with hcall | ⟨hcall, hrest⟩
  · rw [readStatusBytes, hcall, readStatus]
  · rw [readStatusBytes, hcall, readStatus, ← optionLoop_of_tokens hrest]

/-- Byte by byte, the parser goes through the lines of the field. -/
theorem parseBytes_eq (cblock : CblockResult) :
    parseBytes cblock = parseBlock cblock := by
  have hstatus := readStatusBytes_of_tokens (tokens_statusMemory cblock)
  rw [parseBytes]
  generalize readStatusBytes cblock.statusMemory = read at hstatus ⊢
  subst hstatus
  rfl

theorem mrdumpStatusGetBytes_eq (K : Kernel) :
    mrdumpStatusGetBytes K = mrdumpStatusGet K := by
  simp only [mrdumpStatusGetBytes, mrdumpStatusGet_eq, parseBytes_eq]

theorem mrdumpStatusGetBytes_run
    {K : Kernel} (hK : K.Transfers) {m : Machine}
    (h : mrdumpOffset ≤ m.part.size) :
    (mrdumpStatusGetBytes K).run m =
      (parseBytes m.part.block).run
        { m with
          result := { structSize := statusResultSize }
          position := m.part.blockStart + cblockSize } := by
  rw [mrdumpStatusGetBytes_eq, mrdumpStatusGet_run hK h, parseBytes_eq]

/-! ## The status grammar -/

/-- The lines `OUTPUT:` that the reader knows. -/
def KnownOutput (line : CText) : Prop :=
  line = C.lit "OUTPUT:EXT4_DATA" ∨ line = C.lit "OUTPUT:VFAT_INT_STORAGE"

instance (line : CText) : Decidable (KnownOutput line) :=
  inferInstanceAs (Decidable (_ ∨ _))

/-- Every line `OUTPUT:` is known. -/
def OutputsKnown (lines : List CText) : Prop :=
  ∀ line ∈ lines, isOutput line = true → KnownOutput line

instance (lines : List CText) : Decidable (OutputsKnown lines) :=
  inferInstanceAs (Decidable (∀ line ∈ lines, _))

/-- The lines of a status for which the reader returns `true`. -/
def Accepted (lines : List CText) : Prop :=
  lines ≠ [] ∧
    (lines.head? = some (C.lit "OK") → OutputsKnown lines.tail)

instance (lines : List CText) : Decidable (Accepted lines) :=
  inferInstanceAs (Decidable (_ ∧ _))

/-- The status that the first line stands for. -/
def statusOf (lines : List CText) : MrdumpStatus :=
  if lines.head? = some (C.lit "OK") then .ok
  else if lines.head? = some (C.lit "NONE") ∨
      lines.head? = some (C.lit "CLEAR") then .none
  else .failed

def lineOutput (line : CText) : MrdumpOutput :=
  if line = C.lit "OUTPUT:EXT4_DATA" then .ext4Data else .vfatIntStorage

/-- The output of the last line `OUTPUT:`. -/
def lastOutput (lines : List CText) (output : MrdumpOutput) : MrdumpOutput :=
  (((lines.filter isOutput).getLast?).map lineOutput).getD output

/-- The first 31 bytes of the value of the last line `MODE:`. -/
def lastMode (lines : List CText) (mode : CText) : CText :=
  (((lines.filter isMode).getLast?).map fun line =>
    (line.drop 5).take 31).getD mode

/-! ### The lines behind `OK` -/

theorem lastOutput_cons
    (line : CText) (lines : List CText) (output : MrdumpOutput) :
    lastOutput (line :: lines) output =
      lastOutput lines (if isOutput line then lineOutput line else output) := by
  rw [lastOutput, lastOutput, List.filter_cons]
  split
  · rw [List.getLast?_cons]
    rcases (lines.filter isOutput).getLast? with _ | last
    · rfl
    · rfl
  · rfl

theorem lastMode_cons (line : CText) (lines : List CText) (mode : CText) :
    lastMode (line :: lines) mode =
      lastMode lines (if isMode line then (line.drop 5).take 31 else mode) := by
  rw [lastMode, lastMode, List.filter_cons]
  split
  · rw [List.getLast?_cons]
    rcases (lines.filter isMode).getLast? with _ | last
    · rfl
    · rfl
  · rfl

/-- A line `OUTPUT:` is known by the text behind the colon. -/
theorem knownOutput_iff {line : CText} (h : isOutput line = true) :
    KnownOutput line ↔
      line.drop 7 = C.lit "EXT4_DATA" ∨
        line.drop 7 = C.lit "VFAT_INT_STORAGE" := by
  obtain ⟨value, rfl⟩ := List.isPrefixOf_iff_prefix.mp h
  have hdrop : (C.lit "OUTPUT:" ++ value).drop 7 = value := rfl
  have hext4 : C.lit "OUTPUT:EXT4_DATA" =
      C.lit "OUTPUT:" ++ C.lit "EXT4_DATA" := by decide
  have hvfat : C.lit "OUTPUT:VFAT_INT_STORAGE" =
      C.lit "OUTPUT:" ++ C.lit "VFAT_INT_STORAGE" := by decide
  rw [KnownOutput, hdrop, hext4, hvfat, List.append_cancel_left_eq,
    List.append_cancel_left_eq]

/-- The record after one line. -/
def StatusResult.withOption (r : StatusResult) (line : CText) :
    StatusResult :=
  { r with
    output := if isOutput line then lineOutput line else r.output
    mode := if isMode line then (line.drop 5).take 31 else r.mode }

theorem readOption_run
    {line : CText} (h : isOutput line = true → KnownOutput line)
    (m : Machine) :
    (readOption line).run m =
      .ok () { m with result := m.result.withOption line } := by
  by_cases houtput : isOutput line = true
  · rcases h houtput with rfl | rfl
    · rfl
    · rfl
  · rw [readOption, if_neg houtput]
    by_cases hmode : isMode line = true
    · rw [if_pos hmode]
      simp [StatusResult.withOption, houtput, hmode, modifyResult]
    · rw [if_neg hmode]
      simp [StatusResult.withOption, houtput, hmode]

theorem readOption_run_of_unknown
    {line : CText} (houtput : isOutput line = true)
    (hunknown : ¬KnownOutput line) (m : Machine) :
    (readOption line).run m = .error .unknownOutput m := by
  rw [knownOutput_iff houtput, not_or] at hunknown
  rw [readOption, if_pos houtput, if_neg hunknown.1, if_neg hunknown.2]
  rfl

theorem readOptions_run
    {lines : List CText} (h : OutputsKnown lines) (m : Machine) :
    (readOptions lines).run m =
      .ok () { m with
        result := { m.result with
          output := lastOutput lines m.result.output
          mode := lastMode lines m.result.mode } } := by
  induction lines generalizing m with
  | nil => rfl
  | cons line lines ih =>
      have hline := readOption_run (h line List.mem_cons_self) m
      have hrest : OutputsKnown lines :=
        fun l hl => h l (List.mem_cons_of_mem line hl)
      rw [readOptions_cons, run_bind_of_ok hline, ih hrest, lastOutput_cons,
        lastMode_cons]
      rfl

theorem readOptions_run_of_unknown
    {lines : List CText} (h : ¬OutputsKnown lines) (m : Machine) :
    ∃ left, (readOptions lines).run m = .error .unknownOutput left := by
  induction lines generalizing m with
  | nil => exact absurd (fun _ hl => absurd hl List.not_mem_nil) h
  | cons line lines ih =>
      rw [readOptions_cons]
      by_cases hline : isOutput line = true → KnownOutput line
      · have hrest : ¬OutputsKnown lines := by
          intro hrest
          apply h
          intro l hl
          rcases List.mem_cons.mp hl with rfl | hl
          · exact hline
          · exact hrest l hl
        rw [run_bind_of_ok (readOption_run hline m)]
        exact ih hrest _
      · rw [Classical.not_imp] at hline
        exact ⟨m, run_bind_of_error
          (readOption_run_of_unknown hline.1 hline.2 m) _⟩

/-! ### The whole field -/

/-- The record after the lines of an accepted status. -/
def StatusResult.withStatus (r : StatusResult) (lines : List CText) :
    StatusResult :=
  if lines.head? = some (C.lit "OK") then
    { r with
      status := .ok
      output := lastOutput lines.tail .null
      mode := lastMode lines.tail r.mode }
  else
    { r with status := statusOf lines }

/-- A first line other than `OK` decides the status and nothing else. -/
theorem readStatus_of_not_ok
    {strval : CText} (hok : strval ≠ C.lit "OK") (rest : List CText) :
    readStatus (strval :: rest) =
      modifyResult fun r =>
        { r with status := statusOf (strval :: rest) } := by
  rw [readStatus, if_neg hok]
  simp only [statusOf, List.head?_cons, Option.some.injEq, if_neg hok]
  by_cases hnone : strval = C.lit "NONE"
  · rw [if_pos hnone, if_pos (.inl hnone)]
  · by_cases hclear : strval = C.lit "CLEAR"
    · rw [if_neg hnone, if_pos hclear, if_pos (.inr hclear)]
    · rw [if_neg hnone, if_neg hclear, if_neg (not_or.mpr ⟨hnone, hclear⟩)]

theorem readStatus_run
    {lines : List CText} (h : Accepted lines) (m : Machine) :
    (readStatus lines).run m =
      .ok () { m with result := m.result.withStatus lines } := by
  obtain ⟨strval, rest, rfl⟩ := List.exists_cons_of_ne_nil h.1
  by_cases hok : strval = C.lit "OK"
  · have hknown : OutputsKnown rest := h.2 (by rw [hok]; rfl)
    have hstart : (modifyResult fun r =>
        { r with status := .ok, output := .null }).run m =
          .ok () { m with
            result := { m.result with status := .ok, output := .null } } :=
      rfl
    rw [readStatus, if_pos hok, run_bind_of_ok hstart, readOptions_run hknown]
    simp [StatusResult.withStatus, hok]
  · rw [readStatus_of_not_ok hok]
    simp [StatusResult.withStatus, hok, modifyResult]

/-- Any other status is rejected with one of two messages. -/
theorem readStatus_run_of_not_accepted
    {lines : List CText} (h : ¬Accepted lines) (m : Machine) :
    ∃ failure left, (readStatus lines).run m = .error failure left ∧
      (failure = .statusParsing ∨ failure = .unknownOutput) := by
  rcases lines with _ | ⟨strval, rest⟩
  · exact ⟨_, _, rfl, .inl rfl⟩
  · have hok : strval = C.lit "OK" := by
      by_contra hok
      exact h ⟨List.cons_ne_nil _ _, fun hhead =>
        absurd (Option.some.inj hhead) hok⟩
    have hunknown : ¬OutputsKnown rest :=
      fun hknown => h ⟨List.cons_ne_nil _ _, fun _ => hknown⟩
    obtain ⟨left, hrun⟩ := readOptions_run_of_unknown hunknown
      { m with result := { m.result with status := .ok, output := .null } }
    refine ⟨_, left, ?_, .inr rfl⟩
    rw [readStatus, if_pos hok]
    exact hrun

/-- The text of the status field. -/
def CblockResult.statusText (cblock : CblockResult) : CText :=
  (cblock.status.take 127).takeWhile (· != 0)

theorem strcmpEq_sig (cblock : CblockResult) :
    C.strcmpEq cblock.toBytes mrdumpSig =
      some (decide (cblock.sig = mrdumpSig ++ [0])) := by
  have hlength : mrdumpSig.length = 8 := rfl
  rw [C.strcmpEq_eq, hlength, CblockResult.toBytes,
    List.take_left' cblock.sig_length]
  rw [hlength, CblockResult.toBytes, List.length_append, cblock.sig_length]
  omega

/-- A block with another signature is rejected. -/
theorem parseBlock_of_mismatch
    {cblock : CblockResult} (h : cblock.sig ≠ mrdumpSig ++ [0])
    (m : Machine) :
    (parseBlock cblock).run m = .error .signatureMismatched m := by
  simp only [parseBlock, strcmpEq_sig, h, decide_false]
  rfl

theorem strlcpy_log {cblock : CblockResult} (h : 0 ∈ cblock.logBuf) :
    C.strlcpy 2048 cblock.logBuf =
      some (cblock.logBuf.takeWhile (· != 0)) := by
  rw [← cblock.logBuf_length]
  exact C.strlcpy_of_mem h

theorem strlcpy_status
    {cblock : CblockResult} (h : 0 ∈ cblock.status ++ cblock.logBuf) :
    C.strlcpy 128 (cblock.status ++ cblock.logBuf) =
      some cblock.statusText := by
  have htake : (cblock.status ++ cblock.logBuf).take 127 =
      cblock.status.take 127 :=
    List.take_append_of_le_length (by rw [cblock.status_length]; omega)
  rw [C.strlcpy, C.string, if_pos h, Option.map_some, List.take_takeWhile,
    htake, CblockResult.statusText]

theorem strlcpy_of_not_mem
    {mem : List UInt8} (h : 0 ∉ mem) (size : ℕ) :
    C.strlcpy size mem = none := by
  rw [C.strlcpy, C.string, if_neg h, Option.map_none]

section

variable {cblock : CblockResult} (hsig : cblock.sig = mrdumpSig ++ [0])

include hsig

/-- The parser of a block with the signature. -/
theorem parseBytes_of_signature :
    parseBytes cblock = (do
      let line ← copied (C.strlcpy 128 (cblock.status ++ cblock.logBuf))
      modifyResult fun r => { r with statusLine := line }
      readStatus (statusLines cblock)
      let log ← copied (C.strlcpy 2048 cblock.logBuf)
      modifyResult fun r => { r with logBuf := log }) := by
  rw [parseBytes_eq, parseBlock, strcmpEq_sig, decide_eq_true hsig]

/-- Without any terminator the first copy leaves the block. -/
theorem parseBytes_of_unterminated
    (h : 0 ∉ cblock.status ++ cblock.logBuf) (m : Machine) :
    (parseBytes cblock).run m = .error .outOfBounds m := by
  rw [parseBytes_of_signature hsig, strlcpy_of_not_mem h]
  rfl

variable (hline : 0 ∈ cblock.status ++ cblock.logBuf)

include hline

theorem parseBytes_of_line (m : Machine) :
    (parseBytes cblock).run m =
      (do
        readStatus (statusLines cblock)
        let log ← copied (C.strlcpy 2048 cblock.logBuf)
        modifyResult fun r => { r with logBuf := log } : MrdumpM Unit).run
          { m with
            result := { m.result with statusLine := cblock.statusText } } := by
  rw [parseBytes_of_signature hsig, strlcpy_status hline]
  rfl

theorem parseBytes_of_not_accepted
    (h : ¬Accepted (statusLines cblock)) (m : Machine) :
    ∃ failure left, (parseBytes cblock).run m = .error failure left ∧
      (failure = .statusParsing ∨ failure = .unknownOutput) := by
  obtain ⟨failure, left, hrun, hfailure⟩ :=
    readStatus_run_of_not_accepted h
      { m with result := { m.result with statusLine := cblock.statusText } }
  refine ⟨failure, left, ?_, hfailure⟩
  rw [parseBytes_of_line hsig hline]
  exact run_bind_of_error hrun _

/-- Behind an accepted status the log is copied. -/
theorem parseBytes_of_accepted
    (h : Accepted (statusLines cblock)) (m : Machine) :
    (parseBytes cblock).run m =
      (do
        let log ← copied (C.strlcpy 2048 cblock.logBuf)
        modifyResult fun r => { r with logBuf := log } : MrdumpM Unit).run
          { m with
            result :=
              StatusResult.withStatus
                { m.result with statusLine := cblock.statusText }
                (statusLines cblock) } := by
  rw [parseBytes_of_line hsig hline]
  exact run_bind_of_ok (readStatus_run h _) _

end

/-- A block with the signature is not rejected for it. -/
theorem parseBytes_of_match
    {cblock : CblockResult} (hsig : cblock.sig = mrdumpSig ++ [0]) :
    Avoids .signatureMismatched (parseBytes cblock) := by
  intro m left hrun
  by_cases hline : 0 ∈ cblock.status ++ cblock.logBuf
  · by_cases haccepted : Accepted (statusLines cblock)
    · rw [parseBytes_of_accepted hsig hline haccepted] at hrun
      generalize C.strlcpy 2048 cblock.logBuf = log at hrun
      rcases log with _ | log
      · cases hrun
      · cases hrun
    · obtain ⟨failure, left', hrun', hfailure⟩ :=
        parseBytes_of_not_accepted hsig hline haccepted m
      rw [hrun'] at hrun
      rcases hfailure with rfl | rfl
      · cases hrun
      · cases hrun
  · rw [parseBytes_of_unterminated hsig hline] at hrun
    cases hrun

/-! ## What the reader returns -/

/-- The text of the status field, up to its first zero. -/
def Partition.statusText (part : Partition) : CText :=
  ((load part.byte (part.blockStart + 9) 128).take 127).takeWhile (· != 0)

/-- The non-empty lines of a text. -/
def linesOf (text : CText) : List CText :=
  (text.splitOn 10).filter (· != [])

/-- The record that the reader fills in for an accepted status. -/
def parsedResult (text log : CText) : StatusResult where
  structSize := statusResultSize
  status := statusOf (linesOf text)
  output :=
    if (linesOf text).head? = some (C.lit "OK") then
      lastOutput (linesOf text).tail .null
    else .null
  mode :=
    if (linesOf text).head? = some (C.lit "OK") then
      lastMode (linesOf text).tail []
    else []
  statusLine := text
  logBuf := log

theorem withStatus_eq_parsedResult (text log : CText) :
    { StatusResult.withStatus
        { structSize := statusResultSize, statusLine := text }
        (linesOf text) with
      logBuf := log } = parsedResult text log := by
  rw [StatusResult.withStatus, parsedResult]
  by_cases hok : (linesOf text).head? = some (C.lit "OK")
  · simp [hok, statusOf]
  · simp [hok]

/-- Given the signature and a terminated log, the reader accepts exactly the
statuses of the grammar, and fills in the record as the grammar says. -/
theorem mrdumpStatusGetBytes_grammar
    {K : Kernel} (hK : K.Transfers) {m : Machine}
    (hsize : mrdumpOffset ≤ m.part.size) (hsig : m.part.HoldsSignature)
    (hlog : 0 ∈ m.part.logField) :
    returnValue (outcome (mrdumpStatusGetBytes K) m) =
        some (decide (Accepted (linesOf m.part.statusText))) ∧
      (Accepted (linesOf m.part.statusText) →
        (stateAfter (mrdumpStatusGetBytes K) m).result =
          parsedResult m.part.statusText
            (m.part.logField.takeWhile (· != 0))) := by
  have hrun := mrdumpStatusGetBytes_run hK hsize
  have hblock : m.part.block.sig = mrdumpSig ++ [0] :=
    (block_sig m.part).trans hsig
  have htext : m.part.block.statusText = m.part.statusText := by
    rw [CblockResult.statusText, block_status, Partition.statusText]
  have hlines : statusLines m.part.block = linesOf m.part.statusText := by
    rw [← htext]
    rfl
  have hline : 0 ∈ m.part.block.status ++ m.part.block.logBuf := by
    rw [block_logBuf]
    exact List.mem_append_right _ hlog
  by_cases haccepted : Accepted (linesOf m.part.statusText)
  · rw [parseBytes_of_accepted hblock hline (hlines ▸ haccepted),
      strlcpy_log (by rw [block_logBuf]; exact hlog), block_logBuf, hlines,
      htext] at hrun
    have hok : (mrdumpStatusGetBytes K).run m = .ok ()
        { m with
          result := parsedResult m.part.statusText
            (m.part.logField.takeWhile (· != 0))
          position := m.part.blockStart + cblockSize } := by
      rw [hrun, ← withStatus_eq_parsedResult]
      rfl
    rw [outcome_of_ok hok, stateAfter_of_ok hok, decide_eq_true haccepted]
    exact ⟨rfl, fun _ => rfl⟩
  · obtain ⟨failure, left, herror, hfailure⟩ := parseBytes_of_not_accepted
      hblock hline (hlines ▸ haccepted)
      { m with
        result := { structSize := statusResultSize }
        position := m.part.blockStart + cblockSize }
    rw [herror] at hrun
    rw [outcome_of_error hrun, decide_eq_false haccepted]
    refine ⟨?_, fun h => absurd h haccepted⟩
    rcases hfailure with rfl | rfl
    · rfl
    · rfl

/-- A recorded dump: the block up to the end of its status text. -/
def dumpBytes : List UInt8 :=
  mrdumpSig ++ [0] ++
    C.lit "OK\nMODE:KERNEL_OOPS\n\nOUTPUT:VFAT_INT_STORAGE\nTIME:5"

theorem holdsSignature_dumpBytes :
    (partitionOf dumpBytes).HoldsSignature := by
  rw [Partition.HoldsSignature, blockStart_partitionOf]
  decide

theorem statusText_dumpBytes :
    (partitionOf dumpBytes).statusText = dumpBytes.drop 9 := by
  rw [Partition.statusText, blockStart_partitionOf]
  decide +kernel

theorem mrdumpStatusGetBytes_of_dump :
    returnValue
        (outcome (mrdumpStatusGetBytes plainKernel) (machineOf dumpBytes)) =
        some true ∧
      (stateAfter (mrdumpStatusGetBytes plainKernel)
        (machineOf dumpBytes)).result.output = .vfatIntStorage ∧
      (stateAfter (mrdumpStatusGetBytes plainKernel)
        (machineOf dumpBytes)).result.mode = C.lit "KERNEL_OOPS" := by
  have haccepted : Accepted (linesOf (dumpBytes.drop 9)) := by
    decide +kernel
  obtain ⟨hreturns, hresult⟩ :=
    mrdumpStatusGetBytes_grammar plainKernel_transfers
      (m := machineOf dumpBytes) (Nat.le_refl mrdumpOffset)
        holdsSignature_dumpBytes (zero_mem_logField_partitionOf (by decide))
  rw [machineOf, statusText_dumpBytes] at hreturns hresult
  rw [decide_eq_true haccepted] at hreturns
  rw [machineOf, hresult haccepted, parsedResult]
  exact ⟨hreturns, by decide +kernel, by decide +kernel⟩

/-! ## Reads behind the end of the block -/

/-- The block makes a copy run over its end: there is no terminator behind the
text that is copied.  The log is copied behind an accepted status only. -/
def CblockResult.Overruns (cblock : CblockResult) : Prop :=
  cblock.sig = mrdumpSig ++ [0] ∧ 0 ∉ cblock.logBuf ∧
    (0 ∉ cblock.status ∨ Accepted (statusLines cblock))

theorem parseBytes_of_overruns
    {cblock : CblockResult} (h : cblock.Overruns) (m : Machine) :
    outcome (parseBytes cblock) m = .error .outOfBounds := by
  obtain ⟨hsig, hlog, hstatus⟩ := h
  by_cases hline : 0 ∈ cblock.status ++ cblock.logBuf
  · have hterminated : 0 ∈ cblock.status :=
      (List.mem_append.mp hline).resolve_right hlog
    have haccepted := hstatus.resolve_left (not_not_intro hterminated)
    rw [outcome_congr (parseBytes_of_accepted hsig hline haccepted m),
      strlcpy_of_not_mem hlog]
    rfl
  · exact outcome_of_error (parseBytes_of_unterminated hsig hline m)

theorem parseBytes_of_not_overruns
    {cblock : CblockResult} (h : ¬cblock.Overruns) (m : Machine) :
    outcome (parseBytes cblock) m ≠ .error .outOfBounds := by
  by_cases hsig : cblock.sig = mrdumpSig ++ [0]
  · by_cases haccepted : Accepted (statusLines cblock)
    · have hlog : 0 ∈ cblock.logBuf := by
        by_contra hlog
        exact h ⟨hsig, hlog, .inr haccepted⟩
      have hline := List.mem_append_right cblock.status hlog
      rw [outcome_congr (parseBytes_of_accepted hsig hline haccepted m),
        strlcpy_log hlog]
      intro hout
      cases hout
    · have hline : 0 ∈ cblock.status ++ cblock.logBuf := by
        by_contra hline
        rw [List.mem_append, not_or] at hline
        exact h ⟨hsig, hline.2, .inl hline.1⟩
      obtain ⟨failure, left, hrun, hfailure⟩ :=
        parseBytes_of_not_accepted hsig hline haccepted m
      rw [outcome_of_error hrun]
      rcases hfailure with rfl | rfl
      · decide
      · decide
  · rw [parseBytes_eq, outcome_of_error (parseBlock_of_mismatch hsig m)]
    decide

/-- The reader stays inside the block that it loaded exactly if the block does
not make a copy run over its end. -/
theorem mrdumpStatusGetBytes_inside_iff
    {K : Kernel} {m loaded : Machine} {cblock : CblockResult}
    (hload : (loadCblock K).run m = .ok cblock loaded) :
    outcome (mrdumpStatusGetBytes K) m ≠ .error .outOfBounds ↔
      ¬(cblock.sig = mrdumpSig ++ [0] ∧ 0 ∉ cblock.logBuf ∧
        (0 ∉ cblock.status ∨ Accepted (statusLines cblock))) := by
  have hrun : (mrdumpStatusGetBytes K).run m = (parseBytes cblock).run loaded :=
    run_bind_of_ok hload parseBytes
  rw [outcome_congr hrun]
  constructor
  · intro hinside hoverruns
    exact hinside (parseBytes_of_overruns hoverruns loaded)
  · intro hoverruns
    exact parseBytes_of_not_overruns hoverruns loaded

theorem mrdumpStatusGetBytes_inside_of_dump :
    outcome (mrdumpStatusGetBytes plainKernel) (machineOf dumpBytes) ≠
      .error .outOfBounds := by
  have hload := loadCblock_run plainKernel_transfers
    (m := machineOf dumpBytes) (Nat.le_refl mrdumpOffset)
  rw [mrdumpStatusGetBytes_inside_iff hload, block_logBuf]
  intro hoverruns
  exact hoverruns.2.1 (zero_mem_logField_partitionOf (by decide))

/-- A partition that consists of the area behind the block offset, with the
given bytes in front and no zeros behind. -/
def filledPartition (bytes : List UInt8) : Partition :=
  { partitionOf bytes with byte := fun i => (bytes[i]?).getD 65 }

/-- The machine with the status `OK` and a log without a terminator. -/
def unterminatedMachine : Machine where
  part := filledPartition (mrdumpSig ++ [0] ++ C.lit "OK" ++ [0])
  position := 0
  result := {}

theorem overruns_unterminated :
    unterminatedMachine.part.block.Overruns := by
  have hstart : unterminatedMachine.part.blockStart = 0 := by
    rw [Partition.blockStart, unterminatedMachine, filledPartition,
      partitionOf, Nat.sub_self]
  refine ⟨?_, ?_, .inr ?_⟩
  · rw [block_sig, hstart]
    decide
  · rw [block_logBuf, Partition.logField, hstart, load, List.mem_map]
    rintro ⟨i, -, hzero⟩
    have hfilled : unterminatedMachine.part.byte (0 + 137 + i) = 65 := by
      change ((mrdumpSig ++ [0] ++ C.lit "OK" ++ [0])[0 + 137 + i]?).getD 65 =
        65
      rw [List.getElem?_eq_none (by simp [mrdumpSig, C.lit]; omega),
        Option.getD_none]
    rw [hfilled] at hzero
    exact absurd hzero (by decide)
  · rw [statusLines, block_status, hstart]
    decide +kernel

/-- Behind the status `OK` the copy of the log runs over the end of the
block. -/
theorem mrdumpStatusGetBytes_outside_of_unterminated :
    outcome (mrdumpStatusGetBytes plainKernel) unterminatedMachine =
      .error .outOfBounds := by
  have hrun := mrdumpStatusGetBytes_run plainKernel_transfers
    (m := unterminatedMachine) (Nat.le_refl mrdumpOffset)
  rw [outcome_congr hrun]
  exact parseBytes_of_overruns overruns_unterminated _

end SmartSurf.Mrdump
