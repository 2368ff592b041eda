import SmartSurf.Wifi.Commands

/-!
# The Wi-Fi Display update

`wpas_wfd_data_update` copies the fields of a caller's structure one by one
into the message.  The information element is copied with the length which the
caller gives, into an array of 192 bytes in the middle of the message.  Behind
the array stand its length, which has been copied before, and fields which are
copied after it.  A longer element replaces the length by what happens to stand
behind the array of the caller, and one that is longer than the rest of the
message is copied over its end.
-/

namespace SmartSurf.Wifi

open Support C

/-! ## The fields of the message -/

/-- The structure is what the caller gives, field by field. -/
structure CarriesData (p : WfdRequest) (msg : WfdData) : Prop where
  front : msg = { p.toWfdData with tail := msg.tail }
  sessionInformationIE :
    (load msg.tail 0 192).take p.ieLen = load p.tail 0 p.ieLen
  sessionInformationIELen : load msg.tail 192 2 = leBytes 2 p.ieLen
  primarySinkMac : load msg.tail 196 6 = p.wfdPrimarySinkMac.val
  secondarySinkMac : load msg.tail 202 6 = p.wfdSecondarySinkMac.val
  advancedFlag : load msg.tail 208 4 = leBytes 4 p.wfdAdvancedFlag.toNat
  localIp : load msg.tail 212 4 = leBytes 4 p.wfdLocalIp.toNat

section

variable (p : WfdRequest)

/-- The fields behind the length are copied last, and are what they should be
whatever the length. -/
theorem load_wfdTail_fields :
    load (wfdTail p) 196 6 = p.wfdPrimarySinkMac.val ∧
      load (wfdTail p) 202 6 = p.wfdSecondarySinkMac.val ∧
      load (wfdTail p) 208 4 = leBytes 4 p.wfdAdvancedFlag.toNat ∧
      load (wfdTail p) 212 4 = leBytes 4 p.wfdLocalIp.toNat := by
  have hprimary := p.wfdPrimarySinkMac.property
  have hsecondary := p.wfdSecondarySinkMac.property
  refine ⟨?_, ?_, ?_, ?_⟩
  · rw [wfdTail, load_store_before _ _ (by decide),
      load_store_before _ _ (by decide), load_store_before _ _ (by decide),
      load_store_self _ _ hprimary]
  · rw [wfdTail, load_store_before _ _ (by decide),
      load_store_before _ _ (by decide), load_store_self _ _ hsecondary]
  · rw [wfdTail, load_store_before _ _ (by decide),
      load_store_self _ _ (length_leBytes _ _)]
  · rw [wfdTail, load_store_self _ _ (length_leBytes _ _)]

/-- In front of these fields stands what the first two copies have left. -/
theorem load_wfdTail_front {off n : ℕ} (h : off + n ≤ 196) :
    load (wfdTail p) off n =
      load (store (store (fun _ => 0) 192 (leBytes 2 p.ieLen)) 0
        (load p.tail 0 p.ieLen)) off n := by
  rw [wfdTail, load_store_before _ _ (by omega),
    load_store_before _ _ (by omega), load_store_before _ _ (by omega),
    load_store_before _ _ h]

/-- The bytes of an element that fits into the array follow each other from its
start. -/
theorem take_load_wfdTail (h : p.ieLen ≤ 192) :
    (load (wfdTail p) 0 192).take p.ieLen = load p.tail 0 p.ieLen := by
  rw [take_load _ _ h, load_wfdTail_front p (by omega),
    load_store_self _ _ (length_load _ _ _)]

theorem load_wfdTail_length (h : p.ieLen ≤ 192) :
    load (wfdTail p) 192 2 = leBytes 2 p.ieLen := by
  rw [load_wfdTail_front p (by decide),
    load_store_behind _ _ (by rw [length_load]; omega),
    load_store_self _ _ (length_leBytes _ _)]

/-- A longer element replaces the length by what stands behind the array of the
caller. -/
theorem load_wfdTail_length_of_long (h : 194 ≤ p.ieLen) :
    load (wfdTail p) 192 2 = load p.tail 192 2 := by
  have hwithin := load_store_within
    (store (fun _ => 0) 192 (leBytes 2 p.ieLen)) 0
    (show 192 + 2 ≤ (load p.tail 0 p.ieLen).length by rwa [length_load])
  obtain ⟨k, hk⟩ := Nat.exists_eq_add_of_le h
  rw [load_wfdTail_front p (by decide), ← Nat.zero_add 192, hwithin, hk,
    load_add, load_add p.tail 0 192 2]
  simp

variable {p}

theorem carriesData_of_le (h : p.ieLen ≤ 192) :
    CarriesData p { p.toWfdData with tail := wfdTail p } := by
  obtain ⟨hprimary, hsecondary, hflag, hlocal⟩ := load_wfdTail_fields p
  exact
    { front := rfl
      sessionInformationIE := take_load_wfdTail p h
      sessionInformationIELen := load_wfdTail_length p h
      primarySinkMac := hprimary
      secondarySinkMac := hsecondary
      advancedFlag := hflag
      localIp := hlocal }

/-- The array of the message has no more than 192 bytes. -/
theorem le_of_carriesData {msg : WfdData} (h : CarriesData p msg) :
    p.ieLen ≤ 192 := by
  have hlength := congrArg List.length h.sessionInformationIE
  rw [List.length_take, length_load, length_load] at hlength
  omega

end

/-! ## Which updates arrive -/

/-- The function fails without a call, or sends a message that carries the data
of the caller.  It does neither if a copy leaves the structure. -/
def SendsData (cfg : Config) (env : Env) (wpaS : Supplicant) (p : WfdRequest)
    (s : CmdState) : Prop :=
  Sends (wpasWfdDataUpdate cfg env wpaS p) s .wfdData (CarriesData p)

section

variable {cfg : Config} {env : Env} {wpaS : Supplicant} {p : WfdRequest}
  {s : CmdState}

theorem not_sendsData_of_outside (h : 404 < p.ieLen) :
    ¬SendsData cfg env wpaS p s := by
  have hrun : (wpasWfdDataUpdate cfg env wpaS p).run s =
      .error .outOfBounds s := by
    rw [wpasWfdDataUpdate, wfdRequestMessage, wfdTailSize, if_pos h]
    rfl
  exact not_sends_of_error hrun

theorem not_sendsData_of_null
    (hnull : cfg.mtkTurnkeyWlan ∧ ¬wpaS.drvPriv) (h : p.ieLen ≤ 404) :
    ¬SendsData cfg env wpaS p s := by
  have hrun : (wpasWfdDataUpdate cfg env wpaS p).run s =
      .error .nullPointer s := by
    rw [wpasWfdDataUpdate, wfdRequestMessage, wfdTailSize,
      if_neg (Nat.not_lt.mpr h)]
    simp only [testmodeCall, if_pos hnull]
    rfl
  exact not_sends_of_error hrun

theorem sendsData_iff_carriesData
    (hpriv : ¬(cfg.mtkTurnkeyWlan ∧ ¬wpaS.drvPriv)) (h : p.ieLen ≤ 404) :
    SendsData cfg env wpaS p s ↔
      CarriesData p { p.toWfdData with tail := wfdTail p } := by
  have hstate : stateAfter (wpasWfdDataUpdate cfg env wpaS p) s =
      s.log (.testmode (.wfdData { p.toWfdData with tail := wfdTail p })
        (testmodeValue cfg env.exchange)) := by
    rw [wpasWfdDataUpdate, wfdRequestMessage, wfdTailSize,
      if_neg (Nat.not_lt.mpr h)]
    exact stateAfter_testmodeCall hpriv _
  exact sends_iff_of_logged (fun _ _ => Message.wfdData.inj) hstate

/-- The data of the caller arrives exactly if the driver is there and the
information element fits into its array. -/
theorem sendsData_iff (cfg : Config) (env : Env) (wpaS : Supplicant)
    (p : WfdRequest) (s : CmdState) :
    SendsData cfg env wpaS p s ↔
      ¬(cfg.mtkTurnkeyWlan ∧ ¬wpaS.drvPriv) ∧
        p.wfdSessionInformationIELen.toNat ≤ 192 := by
  change _ ↔ _ ∧ p.ieLen ≤ 192
  by_cases hinside : p.ieLen ≤ 404
  · by_cases hnull : cfg.mtkTurnkeyWlan ∧ ¬wpaS.drvPriv
    · exact iff_of_false (not_sendsData_of_null hnull hinside)
        fun h => h.1 hnull
    · rw [sendsData_iff_carriesData hnull hinside, and_iff_right hnull]
      exact ⟨le_of_carriesData, carriesData_of_le⟩
  · refine iff_of_false (not_sendsData_of_outside (by omega)) ?_
    rintro ⟨-, hle⟩
    omega

end

/-- A structure of zeros with the given length. -/
def zeroRequest (len : UInt16) : WfdRequest :=
  { wlanEnv.wfdData with wfdSessionInformationIELen := len }

/-- A build with Wi-Fi Display. -/
def wfdConfig : Config :=
  { mtkTurnkeyWlan := true, mtkP2p := true }

/-- An element of 256 bytes takes the place of its own length, and one of 405
bytes is copied over the end of the structure. -/
theorem not_sendsData_of_long_element :
    (wfdRequestMessage (zeroRequest 256)).map
        (fun msg => load msg.tail 192 2) = some [0, 0] ∧
      ¬SendsData wfdConfig wlanEnv plainSupplicant (zeroRequest 256)
        (.given plainSupplicant (lit "wfd_data_update") (some fun _ => 0)) ∧
      outcome
        (wpasWfdDataUpdate wfdConfig wlanEnv plainSupplicant (zeroRequest 405))
        (.given plainSupplicant (lit "wfd_data_update") (some fun _ => 0)) =
        .error .outOfBounds ∧
      ¬SendsData wfdConfig wlanEnv plainSupplicant (zeroRequest 405)
        (.given plainSupplicant (lit "wfd_data_update")
          (some fun _ => 0)) := by
  refine ⟨?_, ?_, rfl, not_sendsData_of_outside (by decide)⟩
  · have hinside : ¬wfdTailSize < (zeroRequest 256).ieLen := by
      decide
    rw [wfdRequestMessage, if_neg hinside, Option.map_some,
      load_wfdTail_length_of_long _ (by decide)]
    rfl
  · rw [sendsData_iff_carriesData (by decide) (by decide)]
    intro hcarries
    exact absurd (le_of_carriesData hcarries) (by decide)

end SmartSurf.Wifi
