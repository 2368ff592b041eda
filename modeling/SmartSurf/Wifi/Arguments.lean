import SmartSurf.Wifi.Commands

/-!
# The arguments of the driver commands

Three groups of commands take their arguments from the text behind the keyword
without looking at its form: `COUNTRY` reads from a fixed offset and prints into
an array of 11 characters, the receive filter commands add a number to an
operation code, and two of the P2P test commands expect spaces.  Each section
says for which arguments this does what is intended.
-/

namespace SmartSurf.Wifi

open Support C

/-! ## The country -/

/-- Every command that begins with `COUNTRY`, in any case, is routed to its
branch. -/
theorem selectBranch_country
    {cmd : CText} (h : startsWithCase (lit "COUNTRY") cmd = true)
    (cfg : Config) :
    selectBranch cfg cmd = some .country :=
  selectBranch_of_keyword 4 rfl rfl h (by decide +kernel)

theorem ends_setCountry
    {cfg : Config} {env : Env} {s : CmdState} {drv : Drv} {alpha2 : CText} :
    Ends (setCountry cfg env drv alpha2) s (fun _ _ => True)
        (fun stop _ => stop ≠ .outOfBounds) ↔
      env.socket < 0 ∨ alpha2.length ≤ 2 := by
  have hlength : (lit "COUNTRY " ++ alpha2).length + 1 = alpha2.length + 9 := by
    rw [List.length_append]
    change 8 + alpha2.length + 1 = alpha2.length + 9
    omega
  rw [setCountry, hlength]
  by_cases hsocket : env.socket < 0
  · simp [hsocket]
  · by_cases htext : 11 < alpha2.length + 9
    · simp [hsocket, htext]
      omega
    · simp [hsocket, htext]
      omega

/-- The country command stays within the command and its local array exactly if
there is a character behind the keyword and, unless no socket can be opened, at
most two characters behind that. -/
theorem driverCmd_country_inside_iff
    {cfg : Config} {env : Env} {s : CmdState} {drv : Drv}
    (hopen : openDrv env s.wpaS = some drv)
    (hcmd : startsWithCase (lit "COUNTRY") s.cmd = true) :
    outcome (wpaDriverNl80211DriverCmd cfg env) s ≠ .error .outOfBounds ↔
      8 ≤ s.cmd.length ∧ (env.socket < 0 ∨ s.cmd.length ≤ 10) := by
  rw [outcome_ne_error_iff, ends_driverCmd hopen (selectBranch_country hcmd cfg)]
  change Ends (country cfg env drv) s _ _ ↔ _
  rw [country, ends_bind, ends_get, ends_ite]
  by_cases hlength : s.cmd.length < 8
  · rw [if_pos hlength, ends_throw]
    constructor
    · intro hne
      exact absurd rfl hne
    · intro h
      omega
  · simp only [if_neg hlength, ends_bind, ends_pure, conclude,
      ends_setCountry, List.length_drop]
    omega

theorem driverCmd_country_inside_of_two_letters :
    outcome (wpaDriverNl80211DriverCmd {} wlanEnv)
        (.given plainSupplicant (lit "country US") none) ≠
      .error .outOfBounds :=
  (driverCmd_country_inside_iff (s := .given plainSupplicant _ _) rfl
    (by decide)).mpr (by decide)

/-- Without a space behind the keyword the argument lies behind the terminator,
and three characters do not fit into the array. -/
theorem driverCmd_country_outside :
    outcome (wpaDriverNl80211DriverCmd {} wlanEnv)
        (.given plainSupplicant (lit "COUNTRY") none) =
        .error .outOfBounds ∧
      outcome (wpaDriverNl80211DriverCmd {} wlanEnv)
        (.given plainSupplicant (lit "COUNTRY USA") none) =
        .error .outOfBounds := by
  decide +kernel

/-! ## Receive filters -/

/-- The data words that were sent to the firmware. -/
def swWords (effects : List Effect) : List UInt32 :=
  effects.filterMap fun
    | .testmode (.swCmd _ _ data) _ => some data
    | _ => none

/-- The data words that a command sends. -/
def wordsOf (cfg : Config) (env : Env) (wpaS : Supplicant)
    (buf : Option Buffer) (cmd : CText) : List UInt32 :=
  swWords (stateAfter (wpaDriverNl80211DriverCmd cfg env)
    (.given wpaS cmd buf)).effects

section

variable {cfg : Config} {env : Env} {wpaS : Supplicant} {buf : Option Buffer}

/-- A number behind the keyword makes the word a fixed one. -/
theorem indexedSwCmd_run
    {s : CmdState} {n : ℕ} {idx : ℤ} (h : strtol 0 (s.cmd.drop n) = some idx)
    (adr offset : UInt32) :
    (indexedSwCmd cfg env n adr offset).run s =
      (fixedSwCmd cfg env adr (UInt32.ofInt idx + offset)).run s := by
  have hargument : (argument n).run s = .ok (s.cmd.drop n) s := rfl
  rw [indexedSwCmd, run_bind_of_ok hargument, h, fixedSwCmd]

/-- A branch that sends a fixed word sends that word only. -/
theorem wordsOf_of_fixed
    {cmd : CText} {drv : Drv} {branch : Branch} {adr data : UInt32}
    (hopen : openDrv env wpaS = some drv)
    (hselect : selectBranch cfg cmd = some branch)
    (hbody : (branch.body cfg env drv).run (.given wpaS cmd buf) =
      (fixedSwCmd cfg env adr data).run (.given wpaS cmd buf)) :
    wordsOf cfg env wpaS buf cmd = [data] := by
  have hstate : stateAfter (wpaDriverNl80211DriverCmd cfg env)
      (.given wpaS cmd buf) = (CmdState.given wpaS cmd buf).log
        (.testmode (.swCmd 1 adr data) (testmodeValue cfg env.exchange)) := by
    rw [stateAfter_eq_iff, ends_driverCmd hopen hselect, ends_congr hbody,
      fixedSwCmd, driverSwCmd]
    simp only [ends_bind, ends_testmodeCall, ends_pure, conclude]
    rcases testmodeValue cfg env.exchange with _ | ret
    · simp
    · simp
  rw [wordsOf, hstate]
  rfl

variable {drv : Drv} (hopen : openDrv env wpaS = some drv)

include hopen

theorem wordsOf_add {a : CText} {x : ℤ} (ha : strtol 0 a = some x) :
    wordsOf cfg env wpaS buf (lit "rxfilter-add" ++ a) =
      [UInt32.ofInt x + 0x00900200] := by
  have hselect : selectBranch cfg (lit "rxfilter-add" ++ a) =
      some .rxfilterAdd :=
    selectBranch_of_keyword 10 rfl rfl
      (startsWithCase_append _ a) (by decide +kernel)
  exact wordsOf_of_fixed hopen hselect (indexedSwCmd_run
    (s := .given wpaS (lit "rxfilter-add" ++ a) buf) (n := 12) ha _ _)

theorem wordsOf_remove {b : CText} {y : ℤ} (hb : strtol 0 b = some y) :
    wordsOf cfg env wpaS buf (lit "rxfilter-remove" ++ b) =
      [UInt32.ofInt y + 0x00900300] := by
  have hselect : selectBranch cfg (lit "rxfilter-remove" ++ b) =
      some .rxfilterRemove :=
    selectBranch_of_keyword 11 rfl rfl
      (startsWithCase_append _ b) (by decide +kernel)
  exact wordsOf_of_fixed hopen hselect (indexedSwCmd_run
    (s := .given wpaS (lit "rxfilter-remove" ++ b) buf) (n := 15) hb _ _)

theorem wordsOf_stop :
    wordsOf cfg env wpaS buf (lit "rxfilter-stop") = [0x00900000] := by
  have hselect : selectBranch cfg (lit "rxfilter-stop") =
      some .rxfilterStop :=
    selectBranch_of_keyword 12 rfl rfl (by decide) (by decide +kernel)
  exact wordsOf_of_fixed hopen hselect rfl

theorem wordsOf_start :
    wordsOf cfg env wpaS buf (lit "rxfilter-start") = [0x00900100] := by
  have hselect : selectBranch cfg (lit "rxfilter-start") =
      some .rxfilterStart :=
    selectBranch_of_keyword 13 rfl rfl (by decide) (by decide +kernel)
  exact wordsOf_of_fixed hopen hselect rfl

end

/-- The words of the receive filter commands tell the commands apart, and those
of two additions tell the numbers `x` and `x'` apart. -/
def Unambiguous (words : CText → List UInt32) (a a' b : CText) (x x' : ℤ) :
    Prop :=
  words (lit "rxfilter-add" ++ a) ≠ words (lit "rxfilter-remove" ++ b) ∧
    words (lit "rxfilter-add" ++ a) ≠ words (lit "rxfilter-start") ∧
    words (lit "rxfilter-add" ++ a) ≠ words (lit "rxfilter-stop") ∧
    words (lit "rxfilter-remove" ++ b) ≠ words (lit "rxfilter-start") ∧
    words (lit "rxfilter-remove" ++ b) ≠ words (lit "rxfilter-stop") ∧
    (words (lit "rxfilter-add" ++ a) = words (lit "rxfilter-add" ++ a') ↔
      x % 2 ^ 32 = x' % 2 ^ 32)

theorem uint32_ofInt_eq_iff (x y : ℤ) :
    UInt32.ofInt x = UInt32.ofInt y ↔ x % 2 ^ 32 = y % 2 ^ 32 := by
  rw [← UInt32.toNat_inj, UInt32.ofInt, UInt32.ofInt, UInt32.toNat_ofNat',
    UInt32.toNat_ofNat']
  omega

/-- The receive filter commands are told apart by their words exactly if the
numbers do not make up for the distance of the operation codes. -/
theorem rxfilter_unambiguous_iff
    {cfg : Config} {env : Env} {wpaS : Supplicant} {drv : Drv}
    (hopen : openDrv env wpaS = some drv) (buf : Option Buffer)
    {a a' b : CText} {x x' y : ℤ} (ha : strtol 0 a = some x)
    (ha' : strtol 0 a' = some x') (hb : strtol 0 b = some y) :
    Unambiguous (wordsOf cfg env wpaS buf) a a' b x x' ↔
      (x - y) % 2 ^ 32 ≠ 0x100 ∧
        x % 2 ^ 32 ≠ 0xFFFFFF00 ∧ x % 2 ^ 32 ≠ 0xFFFFFE00 ∧
        y % 2 ^ 32 ≠ 0xFFFFFE00 ∧ y % 2 ^ 32 ≠ 0xFFFFFD00 := by
  have hadd : ∀ z, UInt32.ofInt z + 0x00900200 =
      UInt32.ofInt (z + 0x00900200) :=
    fun z => (UInt32.ofInt_add z 0x00900200).symm
  have hremove : UInt32.ofInt y + 0x00900300 =
      UInt32.ofInt (y + 0x00900300) :=
    (UInt32.ofInt_add y 0x00900300).symm
  have hstart : (0x00900100 : UInt32) = UInt32.ofInt 0x00900100 := rfl
  have hstop : (0x00900000 : UInt32) = UInt32.ofInt 0x00900000 := rfl
  rw [Unambiguous, wordsOf_add hopen ha, wordsOf_add hopen ha',
    wordsOf_remove hopen hb, wordsOf_start hopen, wordsOf_stop hopen, hadd,
    hadd, hremove, hstart, hstop]
  simp only [ne_eq, List.cons.injEq, and_true, uint32_ofInt_eq_iff]
  have hremoved : (x + 0x00900200) % 2 ^ 32 = (y + 0x00900300) % 2 ^ 32 ↔
      (x - y) % 2 ^ 32 = 0x100 := by omega
  have hstarted : (x + 0x00900200) % 2 ^ 32 = 0x00900100 % 2 ^ 32 ↔
      x % 2 ^ 32 = 0xFFFFFF00 := by omega
  have hstopped : (x + 0x00900200) % 2 ^ 32 = 0x00900000 % 2 ^ 32 ↔
      x % 2 ^ 32 = 0xFFFFFE00 := by omega
  have hstarted' : (y + 0x00900300) % 2 ^ 32 = 0x00900100 % 2 ^ 32 ↔
      y % 2 ^ 32 = 0xFFFFFE00 := by omega
  have hstopped' : (y + 0x00900300) % 2 ^ 32 = 0x00900000 % 2 ^ 32 ↔
      y % 2 ^ 32 = 0xFFFFFD00 := by omega
  have hadded : (x + 0x00900200) % 2 ^ 32 = (x' + 0x00900200) % 2 ^ 32 ↔
      x % 2 ^ 32 = x' % 2 ^ 32 := by omega
  rw [hremoved, hstarted, hstopped, hstarted', hstopped', iff_true_intro hadded,
    and_true]

theorem rxfilter_unambiguous_of_small :
    Unambiguous (wordsOf {} wlanEnv plainSupplicant none)
      (lit " 1") (lit " 0x2") (lit " 3") 1 2 :=
  (rxfilter_unambiguous_iff rfl none (by decide) (by decide)
    (y := 3) (by decide)).mpr (by decide)

/-- Adding filter 256 and removing filter 0 send the same word, and so do adding
filter -256 and starting the filters. -/
theorem rxfilter_ambiguous :
    wordsOf {} wlanEnv plainSupplicant none (lit "rxfilter-add 256") =
        [0x00900300] ∧
      wordsOf {} wlanEnv plainSupplicant none (lit "rxfilter-remove 0") =
        [0x00900300] ∧
      wordsOf {} wlanEnv plainSupplicant none (lit "rxfilter-add -256") =
        [0x00900100] ∧
      wordsOf {} wlanEnv plainSupplicant none (lit "rxfilter-start") =
        [0x00900100] := by
  decide +kernel

/-! ## P2P tests

### Addresses -/

def IsHexDigit (b : UInt8) : Prop :=
  (48 ≤ b ∧ b ≤ 57) ∨ (65 ≤ b ∧ b ≤ 70) ∨ (97 ≤ b ∧ b ≤ 102)

/-- The text begins with so many pairs of hexadecimal digits, separated by
colons. -/
inductive BeginsWithOctets : ℕ → CText → Prop
  | last {a b : UInt8} {rest : CText} (ha : IsHexDigit a)
      (hb : IsHexDigit b) : BeginsWithOctets 1 (a :: b :: rest)
  | next {n : ℕ} {a b : UInt8} {rest : CText} (ha : IsHexDigit a)
      (hb : IsHexDigit b) (hrest : BeginsWithOctets n rest) :
      BeginsWithOctets (n + 1) (a :: b :: 58 :: rest)

/-- The documented behaviour of `hwaddr_aton`: it accepts the texts that begin
with a hardware address. -/
def AcceptsAddresses (hwaddrAton : CText → Option EthAddr) : Prop :=
  ∀ text, (hwaddrAton text).isSome ↔ BeginsWithOctets 6 text

theorem isHexDigit_iff (b : UInt8) :
    IsHexDigit b ↔ ∃ x, digitValue b = some x ∧ x < 16 := by
  have hadd : 65 ≤ b.toNat → b.toNat ≤ 90 → (b + 32).toNat = b.toNat + 32 := by
    intro hlow hhigh
    rw [UInt8.toNat_add]
    change (b.toNat + 32) % 256 = _
    omega
  simp only [IsHexDigit, digitValue, toLower, UInt8.le_iff_toNat_le] at *
  simp only [UInt8.reduceToNat]
  by_cases hdigit : 48 ≤ b.toNat ∧ b.toNat ≤ 57
  · simp [hdigit]
    omega
  · by_cases hupper : 65 ≤ b.toNat ∧ b.toNat ≤ 90
    · have hvalue := hadd hupper.1 hupper.2
      simp [hdigit, hupper, hvalue]
      omega
    · simp [hdigit, hupper]
      omega

theorem isSome_hexPair_iff (a b : UInt8) :
    (hexPair a b).isSome ↔ IsHexDigit a ∧ IsHexDigit b := by
  rw [isHexDigit_iff, isHexDigit_iff, hexPair]
  rcases digitValue a with _ | x
  · simp
  · rcases digitValue b with _ | y
    · simp
    · simp only [Option.some.injEq, exists_eq_left']
      by_cases h : x < 16 ∧ y < 16
      · simp [h]
      · simp [h]

/-- One more pair of digits in front. -/
theorem isSome_parseAddr_cons (n : ℕ) (a b : UInt8) (rest : CText) :
    (parseAddr (n + 2) (a :: b :: 58 :: rest)).isSome ↔
      (IsHexDigit a ∧ IsHexDigit b) ∧ (parseAddr (n + 1) rest).isSome := by
  rw [parseAddr, ← isSome_hexPair_iff]
  · rcases hexPair a b with _ | byte
    · simp
    · rcases parseAddr (n + 1) rest with _ | bytes
      · simp
      · simp
  · intro h
    omega

theorem parseAddr_of_no_colon
    {n : ℕ} {text : CText} (h : ∀ a b rest, text ≠ a :: b :: 58 :: rest) :
    parseAddr (n + 2) text = none := by
  rw [parseAddr]
  · simp
  · simp
  · intro _ a b rest _ htext
    exact h a b rest htext

theorem isSome_parseAddr_iff (n : ℕ) (text : CText) :
    (parseAddr (n + 1) text).isSome ↔ BeginsWithOctets (n + 1) text := by
  induction n generalizing text with
  | zero =>
      constructor
      · rcases text with _ | ⟨a, _ | ⟨b, rest⟩⟩
        · intro h
          cases h
        · intro h
          cases h
        · intro h
          have hpair : (hexPair a b).isSome := by
            simpa [parseAddr] using h
          rw [isSome_hexPair_iff] at hpair
          exact .last hpair.1 hpair.2
      · intro h
        rcases h with ⟨ha, hb⟩ | ⟨ha, hb, hrest⟩
        · have hpair := (isSome_hexPair_iff _ _).mpr ⟨ha, hb⟩
          simpa [parseAddr] using hpair
        · cases hrest
  | succ n ih =>
      constructor
      · intro h
        by_cases hshape : ∃ a b rest, text = a :: b :: 58 :: rest
        · obtain ⟨a, b, rest, rfl⟩ := hshape
          rw [isSome_parseAddr_cons, ih] at h
          exact .next h.1.1 h.1.2 h.2
        · rw [parseAddr_of_no_colon (by simpa using hshape)] at h
          cases h
      · intro h
        rcases h with _ | ⟨ha, hb, hrest⟩
        rw [isSome_parseAddr_cons, ih]
        exact ⟨⟨ha, hb⟩, hrest⟩

theorem length_of_parseAddr
    {n : ℕ} {text : CText} {bytes : List UInt8}
    (h : parseAddr n text = some bytes) :
    bytes.length = n := by
  fun_induction parseAddr n text generalizing bytes with
  | case1 =>
      obtain rfl := Option.some.inj h
      rfl
  | case2 a b rest =>
      obtain ⟨byte, -, rfl⟩ := Option.map_eq_some_iff.mp h
      rfl
  | case3 n a b rest _ byte tail htail hbyte ih =>
      obtain rfl := Option.some.inj h
      rw [List.length_cons, ih htail]
  | case4 => cases h
  | case5 => cases h

/-- The function of the supplicant behaves as documented. -/
theorem acceptsAddresses_hwaddrAton : AcceptsAddresses hwaddrAton := by
  intro text
  rw [← isSome_parseAddr_iff, hwaddrAton]
  rcases hbytes : parseAddr 6 text with _ | bytes
  · simp
  · simp [length_of_parseAddr hbytes]

/-! ### Fields -/

/-- The text behind the first space. -/
def behindSpace (text : CText) : CText :=
  (text.dropWhile (· != 32)).tail

theorem strchr_of_mem {c : UInt8} {text : CText} (h : c ∈ text) :
    strchr c text = some (text.dropWhile (· != c)).tail := by
  induction text with
  | nil => exact absurd h List.not_mem_nil
  | cons b bs ih =>
      rw [strchr]
      by_cases hb : b = c
      · simp [hb]
      · have hmem : c ∈ bs := (List.mem_cons.mp h).resolve_left (Ne.symm hb)
        rw [if_neg hb, ih hmem, List.dropWhile_cons_of_pos (by simpa using hb)]

theorem strchr_of_not_mem {c : UInt8} {text : CText} (h : c ∉ text) :
    strchr c text = none := by
  induction text with
  | nil => rfl
  | cons b bs ih =>
      rw [List.mem_cons, not_or] at h
      rw [strchr, if_neg (Ne.symm h.1), ih h.2]

/-- The fields that `p2p_set_opps` needs: a number, an address and a name. -/
def OppsFields (text : CText) : Prop :=
  32 ∈ text ∧ BeginsWithOctets 6 (behindSpace text) ∧ 32 ∈ behindSpace text

/-- The fields that `p2p_set_sleep` needs: an address and a name. -/
def SleepFields (text : CText) : Prop :=
  BeginsWithOctets 6 text ∧ 32 ∈ text

/-- A command follows no missing separator, returns -1 without a message if a
field is missing, and otherwise sends the one message. -/
def ChecksFields (cfg : Config) (env : Env) (s : CmdState) (fields : Prop)
    (msg : Message) : Prop :=
  outcome (wpaDriverNl80211DriverCmd cfg env) s ≠ .error .nullPointer ∧
    (¬fields →
      outcome (wpaDriverNl80211DriverCmd cfg env) s = .ok (-1) ∧
        (stateAfter (wpaDriverNl80211DriverCmd cfg env) s).effects =
          s.effects) ∧
    (fields → ∃ reply,
      (stateAfter (wpaDriverNl80211DriverCmd cfg env) s).effects =
        s.effects ++ [.testmode msg reply])

section

variable {cfg : Config} {env : Env} {s t : CmdState} {fields : Prop}
  {msg : Message}

theorem not_checksFields
    (h : Ends (wpaDriverNl80211DriverCmd cfg env) s (fun _ _ => False)
      fun stop _ => stop = .nullPointer) :
    ¬ChecksFields cfg env s fields msg := by
  rintro ⟨hpointer, -, -⟩
  rw [Ends] at h
  split at h
  next => exact h
  next hrun =>
    obtain rfl := h
    exact hpointer (outcome_of_error hrun)

theorem checksFields_of_rejected
    (h : Ends (wpaDriverNl80211DriverCmd cfg env) s
      (fun ret u => ret = -1 ∧ u.effects = s.effects) fun _ _ => False)
    (hfields : ¬fields) :
    ChecksFields cfg env s fields msg := by
  obtain ⟨ret, u, hrun, rfl, heffects⟩ := h.exists_ok
  refine ⟨?_, fun _ => ⟨outcome_of_ok hrun, ?_⟩, fun h => absurd h hfields⟩
  · rw [outcome_of_ok hrun]
    intro h
    cases h
  · rw [stateAfter_of_ok hrun, heffects]

theorem checksFields_of_sent
    (h : Ends (wpaDriverNl80211DriverCmd cfg env) s
      (fun _ u => ∃ reply, u.effects = s.effects ++ [.testmode msg reply])
      fun stop u => stop = .blocked ∧
        ∃ reply, u.effects = s.effects ++ [.testmode msg reply])
    (hfields : fields) :
    ChecksFields cfg env s fields msg := by
  rw [Ends] at h
  rw [ChecksFields, outcome, stateAfter]
  split at h
  next => exact ⟨by simp, fun hnot => absurd hfields hnot, fun _ => h⟩
  next =>
    exact ⟨by simp [h.1], fun hnot => absurd hfields hnot, fun _ => h.2⟩

/-- The state after the command has been cut at a space. -/
def CmdState.cut (s : CmdState) (n : ℕ) : CmdState :=
  { s with cmd := s.cmd.take n ++ (s.cmd.drop n).takeWhile (· != 32) }

/-- `p2p_ctrl_iface_set_opps`, by the fields of its argument. -/
theorem ends_p2pSetOpps
    (hap : env.isAp = false) {text : CText}
    (htext : s.cmd.drop 13 = text) {Q : Verdict → CmdState → Prop}
    {E : Stop → CmdState → Prop} :
    Ends (p2pSetOpps cfg env) s Q E ↔
      if 32 ∈ text then
        if (env.hwaddrAton (behindSpace text)).isSome then
          if 32 ∈ behindSpace text then
            Ends (sigmaTestMode cfg env s.wpaS 107 (atoi text)) (s.cut 13)
              (fun _ u => Q (.done 0) u) E
          else E .nullPointer (s.cut 13)
        else Q (.done (-1)) (s.cut 13)
      else E .nullPointer s := by
  simp only [p2pSetOpps, ends_bind, ends_readWpaS, hap, Bool.false_eq_true,
    if_false, ends_argument, ends_cutAtSpace, htext]
  by_cases hspace : 32 ∈ text
  · rw [strchr_of_mem hspace, if_pos hspace]
    simp only []
    rw [← behindSpace]
    rcases env.hwaddrAton (behindSpace text) with _ | addr
    · simp [CmdState.cut, htext]
    · by_cases hsecond : 32 ∈ behindSpace text
      · simp [strchr_of_mem hsecond, hsecond, CmdState.cut, htext]
      · simp [strchr_of_not_mem hsecond, hsecond, CmdState.cut, htext]
  · rw [strchr_of_not_mem hspace, if_neg hspace]
    exact ends_throw

/-- `p2p_ctrl_iface_set_sleep`, by the fields of its argument. -/
theorem ends_p2pSetSleep
    (hap : env.isAp = false) {text : CText}
    (htext : s.cmd.drop 14 = text) {Q : Verdict → CmdState → Prop}
    {E : Stop → CmdState → Prop} :
    Ends (p2pSetSleep cfg env) s Q E ↔
      if (env.hwaddrAton text).isSome then
        if 32 ∈ text then
          Ends (sigmaTestMode cfg env s.wpaS 106 0) (s.cut 14)
            (fun _ u => Q (.done 0) u) E
        else E .nullPointer s
      else Q (.done (-1)) s := by
  simp only [p2pSetSleep, ends_bind, ends_readWpaS, hap, Bool.false_eq_true,
    if_false, ends_argument, htext]
  rcases env.hwaddrAton text with _ | addr
  · simp
  · by_cases hspace : 32 ∈ text
    · simp [ends_cutAtSpace, htext, strchr_of_mem hspace, hspace, CmdState.cut]
    · simp [ends_cutAtSpace, htext, strchr_of_not_mem hspace, hspace]

theorem ends_sigmaTestMode
    {wpaS : Supplicant} (hpriv : ¬(cfg.mtkTurnkeyWlan ∧ ¬wpaS.drvPriv))
    {index value : ℤ} {Q : CmdState → Prop} {E : Stop → CmdState → Prop}
    (hQ : ∀ reply, Q (t.log (.testmode
      (.sigma (UInt32.ofInt index) (UInt32.ofInt value)) reply)))
    (hE : ∀ reply, E .blocked (t.log (.testmode
      (.sigma (UInt32.ofInt index) (UInt32.ofInt value)) reply))) :
    Ends (sigmaTestMode cfg env wpaS index value) t (fun _ u => Q u) E := by
  rw [sigmaTestMode, ends_testmodeCall, if_neg hpriv]
  rcases testmodeValue cfg env.exchange with _ | ret
  · exact hE none
  · exact hQ (some ret)

end

section

variable {cfg : Config} {env : Env} {wpaS : Supplicant} {drv : Drv}
  (hsigma : cfg.mtkP2pSigma = true)
  (hopen : openDrv env wpaS = some drv) (hap : env.isAp = false)
  (hpriv : ¬(cfg.mtkTurnkeyWlan ∧ ¬wpaS.drvPriv))
  (haton : AcceptsAddresses env.hwaddrAton)

include hsigma hopen hap hpriv haton

theorem p2pSetOpps_checksFields_iff (buf : Option Buffer) (text : CText) :
    ChecksFields cfg env (.given wpaS (lit "p2p_set_opps " ++ text) buf)
        (OppsFields text) (.sigma 107 (UInt32.ofInt (atoi text))) ↔
      32 ∈ text ∧
        (BeginsWithOctets 6 (behindSpace text) →
          32 ∈ behindSpace text) := by
  have hselect : selectBranch cfg (lit "p2p_set_opps " ++ text) =
      some .p2pSetOpps :=
    selectBranch_of_keyword 29 rfl hsigma (startsWith_append _ text)
      (by decide +kernel)
  have htext : (CmdState.given wpaS (lit "p2p_set_opps " ++ text) buf).cmd.drop
      13 = text := rfl
  have hends {Q E} : Ends (wpaDriverNl80211DriverCmd cfg env)
      (.given wpaS (lit "p2p_set_opps " ++ text) buf) Q E ↔
        Ends (p2pSetOpps cfg env)
        (.given wpaS (lit "p2p_set_opps " ++ text) buf)
        (fun verdict u => Ends (conclude env verdict) u Q E) E := by
    rw [ends_driverCmd hopen hselect]
    exact Iff.rfl
  by_cases hspace : 32 ∈ text
  · by_cases haddr : BeginsWithOctets 6 (behindSpace text)
    · by_cases hsecond : 32 ∈ behindSpace text
      · refine iff_of_true (checksFields_of_sent ?_ ⟨hspace, haddr, hsecond⟩)
          ⟨hspace, fun _ => hsecond⟩
        rw [hends, ends_p2pSetOpps hap htext, if_pos hspace,
          if_pos ((haton _).mpr haddr), if_pos hsecond]
        exact ends_sigmaTestMode hpriv (fun reply => ⟨reply, rfl⟩)
          fun reply => ⟨rfl, reply, rfl⟩
      · refine iff_of_false (not_checksFields ?_)
          fun h => hsecond (h.2 haddr)
        rw [hends, ends_p2pSetOpps hap htext, if_pos hspace,
          if_pos ((haton _).mpr haddr), if_neg hsecond]
    · refine iff_of_true (checksFields_of_rejected ?_ fun h => haddr h.2.1)
        ⟨hspace, fun h => absurd h haddr⟩
      rw [hends, ends_p2pSetOpps hap htext, if_pos hspace,
        if_neg (mt (haton _).mp haddr)]
      exact ⟨rfl, rfl⟩
  · refine iff_of_false (not_checksFields ?_) fun h => hspace h.1
    rw [hends, ends_p2pSetOpps hap htext, if_neg hspace]

theorem p2pSetSleep_checksFields_iff (buf : Option Buffer) (text : CText) :
    ChecksFields cfg env (.given wpaS (lit "p2p_set_sleep " ++ text) buf)
        (SleepFields text) (.sigma 106 0) ↔
      (BeginsWithOctets 6 text → 32 ∈ text) := by
  have hselect : selectBranch cfg (lit "p2p_set_sleep " ++ text) =
      some .p2pSetSleep :=
    selectBranch_of_keyword 31 rfl hsigma (startsWith_append _ text)
      (by decide +kernel)
  have htext : (CmdState.given wpaS (lit "p2p_set_sleep " ++ text) buf).cmd.drop
      14 = text := rfl
  have hends {Q E} : Ends (wpaDriverNl80211DriverCmd cfg env)
      (.given wpaS (lit "p2p_set_sleep " ++ text) buf) Q E ↔
        Ends (p2pSetSleep cfg env)
        (.given wpaS (lit "p2p_set_sleep " ++ text) buf)
        (fun verdict u => Ends (conclude env verdict) u Q E) E := by
    rw [ends_driverCmd hopen hselect]
    exact Iff.rfl
  by_cases haddr : BeginsWithOctets 6 text
  · by_cases hspace : 32 ∈ text
    · refine iff_of_true (checksFields_of_sent ?_ ⟨haddr, hspace⟩)
        fun _ => hspace
      rw [hends, ends_p2pSetSleep hap htext, if_pos ((haton _).mpr haddr),
        if_pos hspace]
      exact ends_sigmaTestMode hpriv (fun reply => ⟨reply, rfl⟩)
        fun reply => ⟨rfl, reply, rfl⟩
    · refine iff_of_false (not_checksFields ?_) fun h => hspace (h haddr)
      rw [hends, ends_p2pSetSleep hap htext, if_pos ((haton _).mpr haddr),
        if_neg hspace]
  · refine iff_of_true (checksFields_of_rejected ?_ fun h => haddr h.1)
      fun h => absurd h haddr
    rw [hends, ends_p2pSetSleep hap htext, if_neg (mt (haton _).mp haddr)]
    exact ⟨rfl, rfl⟩

/-- The two test commands check their fields exactly if every separator is there
that they look for: behind the number, and behind an address. -/
theorem p2pTests_checkFields_iff (buf : Option Buffer) (text : CText) :
    (ChecksFields cfg env (.given wpaS (lit "p2p_set_opps " ++ text) buf)
        (OppsFields text) (.sigma 107 (UInt32.ofInt (atoi text))) ↔
      32 ∈ text ∧
        (BeginsWithOctets 6 (behindSpace text) → 32 ∈ behindSpace text)) ∧
    (ChecksFields cfg env (.given wpaS (lit "p2p_set_sleep " ++ text) buf)
        (SleepFields text) (.sigma 106 0) ↔
      (BeginsWithOctets 6 text → 32 ∈ text)) :=
  ⟨p2pSetOpps_checksFields_iff hsigma hopen hap hpriv haton buf text,
    p2pSetSleep_checksFields_iff hsigma hopen hap hpriv haton buf text⟩

end

/-- A build with the P2P tests. -/
def sigmaConfig : Config :=
  { mtkP2pSigma := true }

theorem p2pTests_checkFields_of_fields :
    ChecksFields sigmaConfig wlanEnv
        (.given plainSupplicant
          (lit "p2p_set_opps " ++ lit "5 00:11:22:33:44:55 name") none)
        (OppsFields (lit "5 00:11:22:33:44:55 name")) (.sigma 107 5) ∧
      ChecksFields sigmaConfig wlanEnv
        (.given plainSupplicant
          (lit "p2p_set_sleep " ++ lit "5 00:11:22:33:44:55 name") none)
        (SleepFields (lit "5 00:11:22:33:44:55 name")) (.sigma 106 0) := by
  have hsigma : sigmaConfig.mtkP2pSigma = true := rfl
  have hopen : openDrv wlanEnv plainSupplicant = some
      { ctx := true, associated := false, firstIfname := lit "wlan0" } := rfl
  have hpriv : ¬(sigmaConfig.mtkTurnkeyWlan ∧ ¬plainSupplicant.drvPriv) := by
    decide
  obtain ⟨hopps, hsleep⟩ := p2pTests_checkFields_iff hsigma hopen rfl hpriv
    acceptsAddresses_hwaddrAton none (lit "5 00:11:22:33:44:55 name")
  exact ⟨hopps.mpr ⟨by decide, fun _ => by decide⟩,
    hsleep.mpr fun _ => by decide⟩

/-- Without the separators both commands write through a null pointer. -/
theorem p2pTests_follow_missing_separator :
    outcome (wpaDriverNl80211DriverCmd sigmaConfig wlanEnv)
        (.given plainSupplicant (lit "p2p_set_opps 5") none) =
        .error .nullPointer ∧
      outcome (wpaDriverNl80211DriverCmd sigmaConfig wlanEnv)
        (.given plainSupplicant (lit "p2p_set_sleep 00:11:22:33:44:55") none) =
        .error .nullPointer := by
  decide +kernel

end SmartSurf.Wifi
