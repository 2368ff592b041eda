import SmartSurf.Wifi.Commands

/-!
# The message for a WAPI key

The length of the sequence is checked, that of the key is not.  The message
carries the key that was given if the key fits into its array and the index
into one byte.  A longer key is cut, or copied over the end of the structure,
and the length of a missing key reaches only one of the two length fields.
-/

namespace SmartSurf.Wifi

open Support C

/-! ## A message that carries the key -/

/-- The structure is what the arguments say, field by field. -/
structure CarriesKey (p : WapiKeyParam) (msg : WapiKeyMessage) : Prop where
  keyIndex : (msg.keyIndex.toNat : ℤ) = p.keyIdx + 1
  keyLen : msg.keyLen.toNat = p.keyLen.toNat
  extKeyLen : msg.extKeyLen.toNat = p.keyLen.toNat
  key : ∃ n, msg.key.take 32 =
    copied p.key p.keyLen.toNat ++ List.replicate n 0
  seq : ∃ n, msg.seq = copied p.seq p.seqLen.toNat ++ List.replicate n 0
  addr : msg.addr = p.addr.getD EthAddr.broadcast
  group : msg.extFlags &&& 4 ≠ 0 ↔
    p.addr = none ∨ p.addr = some EthAddr.broadcast
  tx : msg.extFlags &&& 8 ≠ 0 ↔ p.setTx ≠ 0
  alg : msg.alg = 0x20

/-- The function fails without a call, or sends a message that carries the
key.  It does neither if a copy leaves the structure. -/
def SendsKey (cfg : Config) (env : Env) (p : WapiKeyParam) (s : CmdState) :
    Prop :=
  Sends (wpaDriverNl80211SetWapiKey cfg env p) s .wapiKey (CarriesKey p)

theorem length_copied_le (source : Option Buffer) (n : ℕ) :
    (copied source n).length ≤ n := by
  rcases source with _ | mem
  · exact Nat.zero_le n
  · exact (length_load mem 0 n).le

theorem filled_of_length_le {size : ℕ} {bytes : List UInt8}
    (h : bytes.length ≤ size) :
    filled size bytes = bytes ++ List.replicate (size - bytes.length) 0 := by
  rw [filled, List.take_append, List.take_of_length_le h, List.take_replicate,
    Nat.min_eq_left (Nat.sub_le _ _)]

theorem take_filled {m n : ℕ} (h : m ≤ n) (bytes : List UInt8) :
    (filled n bytes).take m = filled m bytes := by
  rw [filled, filled, List.take_take, Nat.min_eq_left h, List.take_append,
    List.take_append, List.take_replicate, List.take_replicate]
  congr 2
  omega

theorem wapiFlags_group (p : WapiKeyParam) :
    wapiFlags p &&& 4 ≠ 0 ↔
      p.addr = none ∨ p.addr = some EthAddr.broadcast := by
  rw [wapiFlags]
  by_cases hgroup : p.addr = none ∨ p.addr = some EthAddr.broadcast
  · rw [if_pos hgroup]
    split
    · exact iff_of_true (by decide) hgroup
    · exact iff_of_true (by decide) hgroup
  · rw [if_neg hgroup]
    split
    · exact iff_of_false (by decide) hgroup
    · exact iff_of_false (by decide) hgroup

theorem wapiFlags_tx (p : WapiKeyParam) :
    wapiFlags p &&& 8 ≠ 0 ↔ p.setTx ≠ 0 := by
  rw [wapiFlags]
  by_cases htx : p.setTx ≠ 0
  · rw [if_pos htx]
    split
    · exact iff_of_true (by decide) htx
    · exact iff_of_true (by decide) htx
  · rw [if_neg htx]
    split
    · exact iff_of_false (by decide) htx
    · exact iff_of_false (by decide) htx

/-- The arguments for which nothing is lost: an index that fits into a byte, a
key that fits into its array, and no length without a key. -/
def WapiKeyParam.Fits (p : WapiKeyParam) : Prop :=
  -1 ≤ p.keyIdx ∧ p.keyIdx ≤ 254 ∧ p.keyLen.toNat ≤ 32 ∧
    (p.key = none → p.keyLen = 0)

theorem toNat_uint8_ofInt_eq_iff (z : ℤ) :
    ((UInt8.ofInt z).toNat : ℤ) = z ↔ 0 ≤ z ∧ z ≤ 255 := by
  rw [UInt8.ofInt, UInt8.toNat_ofNat']
  omega

theorem fits_of_carriesKey
    {p : WapiKeyParam} {msg : WapiKeyMessage}
    (hmsg : wapiKeyMessage p = some msg) (h : CarriesKey p msg) :
    p.Fits := by
  rw [wapiKeyMessage] at hmsg
  split at hmsg
  next => cases hmsg
  next =>
    obtain rfl := Option.some.inj hmsg
    obtain ⟨hlow, hhigh⟩ := (toNat_uint8_ofInt_eq_iff _).mp h.keyIndex
    have hextLen := h.extKeyLen
    obtain ⟨n, hkey⟩ := h.key
    have hlength := congrArg List.length hkey
    rw [take_filled (by decide), length_filled, List.length_append,
      List.length_replicate] at hlength
    refine ⟨by omega, by omega, ?_, ?_⟩
    · rcases hp : p.key with _ | mem
      · simp only [hp] at hextLen
        change 0 = p.keyLen.toNat at hextLen
        omega
      · rw [hp, copied, length_load] at hlength
        omega
    · intro hnull
      simp only [hnull] at hextLen
      exact UInt32.toNat_inj.mp hextLen.symm

theorem carriesKey_of_fits
    {p : WapiKeyParam} (hseq : p.seqLen.toNat ≤ 16) {msg : WapiKeyMessage}
    (hmsg : wapiKeyMessage p = some msg) (h : p.Fits) :
    CarriesKey p msg := by
  obtain ⟨hlow, hhigh, hlen, hnull⟩ := h
  rw [wapiKeyMessage] at hmsg
  split at hmsg
  next => cases hmsg
  next =>
    obtain rfl := Option.some.inj hmsg
    have hkey : (copied p.key p.keyLen.toNat).length ≤ 32 :=
      (length_copied_le _ _).trans hlen
    have hcopied : (copied p.seq p.seqLen.toNat).length ≤ 16 :=
      (length_copied_le _ _).trans hseq
    refine
      { keyIndex := (toNat_uint8_ofInt_eq_iff _).mpr ⟨by omega, by omega⟩
        keyLen := ?_
        extKeyLen := ?_
        key := ⟨_, (take_filled (by decide) _).trans
          (filled_of_length_le hkey)⟩
        seq := ⟨_, filled_of_length_le hcopied⟩
        addr := rfl
        group := wapiFlags_group p
        tx := wapiFlags_tx p
        alg := rfl }
    · rw [UInt8.toNat_ofNat']
      omega
    · change (if p.key.isSome then UInt16.ofNat p.keyLen.toNat else 0).toNat = _
      rcases hp : p.key with _ | mem
      · rw [hnull hp]
        rfl
      · rw [Option.isSome_some, if_pos rfl, UInt16.toNat_ofNat']
        omega

/-! ## Which keys are sent as they are given -/

section

variable {cfg : Config} {env : Env} {p : WapiKeyParam} {s : CmdState}

theorem sendsKey_of_seq (hseq : 16 < p.seqLen.toNat) :
    SendsKey cfg env p s := by
  refine .inl ⟨-1, by decide, ?_⟩
  rw [wpaDriverNl80211SetWapiKey, if_pos hseq]
  rfl

theorem sendsKey_iff_carriesKey
    (hseq : p.seqLen.toNat ≤ 16) {params : WapiKeyMessage}
    (hparams : wapiKeyMessage p = some params) :
    SendsKey cfg env p s ↔ CarriesKey p params := by
  have hstate : stateAfter (wpaDriverNl80211SetWapiKey cfg env p) s =
      s.log (.testmode (.wapiKey params)
        (testmodeValue cfg env.exchange)) := by
    rw [wpaDriverNl80211SetWapiKey, if_neg (Nat.not_lt.mpr hseq), hparams]
    exact (stateAfter_bind_pure _ _ _).trans
      (stateAfter_testmodeCall (by simp) _)
  exact sends_iff_of_logged (fun _ _ => Message.wapiKey.inj) hstate

theorem not_sendsKey_of_outside
    (hseq : p.seqLen.toNat ≤ 16) (hparams : wapiKeyMessage p = none) :
    ¬SendsKey cfg env p s := by
  have hrun : (wpaDriverNl80211SetWapiKey cfg env p).run s =
      .error .outOfBounds s := by
    rw [wpaDriverNl80211SetWapiKey, if_neg (Nat.not_lt.mpr hseq), hparams]
    rfl
  exact not_sends_of_error hrun

/-- A key is sent as it is given, or refused, exactly if the sequence is too
long or the arguments fit into the message. -/
theorem sendsKey_iff (cfg : Config) (env : Env) (p : WapiKeyParam)
    (s : CmdState) :
    SendsKey cfg env p s ↔
      16 < p.seqLen.toNat ∨
        (-1 ≤ p.keyIdx ∧ p.keyIdx ≤ 254 ∧ p.keyLen.toNat ≤ 32 ∧
          (p.key = none → p.keyLen = 0)) := by
  by_cases hseq : 16 < p.seqLen.toNat
  · exact iff_of_true (sendsKey_of_seq hseq) (.inl hseq)
  · have hle := Nat.not_lt.mp hseq
    rw [or_iff_right hseq]
    rcases hparams : wapiKeyMessage p with _ | params
    · refine iff_of_false (not_sendsKey_of_outside hle hparams) ?_
      rintro ⟨-, -, hlen, -⟩
      rw [wapiKeyMessage, if_neg (by omega)] at hparams
      cases hparams
    · rw [sendsKey_iff_carriesKey hle hparams]
      exact ⟨fits_of_carriesKey hparams, carriesKey_of_fits hle hparams⟩

end

/-- A key of 48 bytes. -/
def longKey : WapiKeyParam :=
  { wlanEnv.wapiKey with key := some fun _ => 1, keyLen := 48 }

/-- A key of 48 bytes is copied over the end of the structure. -/
theorem not_sendsKey_of_long_key :
    outcome
        (wpaDriverNl80211SetWapiKey { wapiSupport := true } wlanEnv longKey)
        (.given plainSupplicant (lit "set-wapi-key") (some fun _ => 0)) =
        .error .outOfBounds ∧
      ¬SendsKey { wapiSupport := true } wlanEnv longKey
        (.given plainSupplicant (lit "set-wapi-key") (some fun _ => 0)) :=
  ⟨rfl, not_sendsKey_of_outside (by decide) rfl⟩

end SmartSurf.Wifi
