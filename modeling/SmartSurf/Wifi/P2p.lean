import Mathlib.Logic.Function.Basic
import SmartSurf.Platform.CText
import SmartSurf.Wifi.Netlink

/-!
# The P2P operating channel

The parts of the P2P state of the supplicant which the driver commands read and
write, the conversion of a frequency to a channel, and
`p2p_wfd_sink_config_scc`, which either shares the channel of a connection or
goes back to the configured channels.

The latter passes two local variables without a value to the conversion and
does not look at its result; `Locals` is what these variables hold at first.
-/

namespace SmartSurf.Wifi

/-- `struct p2p_reg_class` of `p2p_channels`. -/
structure RegClass where
  regClass : UInt8
  channel : Fin 20 → UInt8
  channels : ℕ

/-- `struct p2p_channels`. -/
@[ext] structure P2pChannels where
  regClasses : ℕ
  regClass : Fin 10 → RegClass

/-- The fields of `struct p2p_config` in use. -/
@[ext] structure P2pConfig where
  channels : P2pChannels
  cfgOpChannel : UInt8
  concurrentOperations : UInt8

/-- The fields of `struct p2p_data` in use; `cfg` may be a null pointer. -/
@[ext] structure P2pData where
  devCapab : UInt8
  opRegClass : UInt8
  opChannel : UInt8
  channels : P2pChannels
  cfg : Option P2pConfig
  p2pUseMcc : UInt8

/-- The fields of `struct wpa_config` in use. -/
structure SupplicantConf where
  p2pOperRegClass : ℤ
  p2pOperChannel : ℤ
  deriving DecidableEq, Repr

/-! ## Frequencies -/

/-- `priv_p2p_freq_to_channel`: operating class and channel, or `none` for the
result `-1`, with which nothing is written. -/
def privP2pFreqToChannel (cfg : Config) (freq : ℕ) : Option (UInt8 × UInt8) :=
  if 2412 ≤ freq ∧ freq ≤ 2472 then
    if (freq - 2407) % 5 ≠ 0 then none
    else some (81, UInt8.ofNat ((freq - 2407) / 5))
  else if freq = 2484 then
    some (82, 14)
  else if 5180 ≤ freq ∧ freq ≤ 5240 then
    if (freq - 5000) % 5 ≠ 0 then none
    else some (115, UInt8.ofNat ((freq - 5000) / 5))
  else if cfg.mtkP2p5g ∧ 5260 ≤ freq ∧ freq ≤ 5320 then
    some (118, UInt8.ofNat ((freq - 5000) / 5))
  else if cfg.mtkP2p5g ∧ 5500 ≤ freq ∧ freq ≤ 5700 then
    some (121, UInt8.ofNat ((freq - 5000) / 5))
  else if 5745 ≤ freq ∧ freq ≤ 5805 then
    if (freq - 5000) % 5 ≠ 0 then none
    else some (124, UInt8.ofNat ((freq - 5000) / 5))
  else if cfg.mtkP2p5g ∧ 5825 ≤ freq ∧ freq ≤ 5845 then
    some (125, UInt8.ofNat ((freq - 5000) / 5))
  else
    none

/-- The frequency of a channel of an operating class. -/
def channelFreq (opClass channel : UInt8) : ℕ :=
  if opClass = 81 then 2407 + 5 * channel.toNat
  else if opClass = 82 then 2484
  else 5000 + 5 * channel.toNat

/-- If the frequency is converted, it is the frequency of its channel. -/
def RoundTrips (cfg : Config) (freq : ℕ) : Prop :=
  ∀ opClass channel,
    privP2pFreqToChannel cfg freq = some (opClass, channel) →
      channelFreq opClass channel = freq

/-- The frequencies between the channels which the conversion lets through: the
three ranges of `CONFIG_MTK_P2P_5G` have no test of the remainder. -/
def Misaligned (cfg : Config) (freq : ℕ) : Prop :=
  cfg.mtkP2p5g ∧ freq % 5 ≠ 0 ∧
    (5260 ≤ freq ∧ freq ≤ 5320 ∨ 5500 ≤ freq ∧ freq ≤ 5700 ∨
      5825 ≤ freq ∧ freq ≤ 5845)

theorem roundTrips_of_none
    {cfg : Config} {freq : ℕ} (h : privP2pFreqToChannel cfg freq = none) :
    RoundTrips cfg freq := by
  intro opClass channel hsome
  rw [h] at hsome
  cases hsome

theorem roundTrips_of_some
    {cfg : Config} {freq : ℕ} {opClass channel : UInt8}
    (h : privP2pFreqToChannel cfg freq = some (opClass, channel)) :
    RoundTrips cfg freq ↔ channelFreq opClass channel = freq := by
  constructor
  · intro hround
    exact hround opClass channel h
  · intro hfreq opClass' channel' hsome
    rw [h, Option.some.injEq, Prod.mk.injEq] at hsome
    rw [← hsome.1, ← hsome.2, hfreq]

theorem channelFreq_2g
    {freq : ℕ} (hlow : 2412 ≤ freq) (hhigh : freq ≤ 2472) :
    channelFreq 81 (UInt8.ofNat ((freq - 2407) / 5)) = freq ↔
      (freq - 2407) % 5 = 0 := by
  rw [channelFreq, if_pos rfl, UInt8.toNat_ofNat']
  omega

theorem channelFreq_5g
    {opClass : UInt8} (hclass : opClass ≠ 81 ∧ opClass ≠ 82) {freq : ℕ}
    (hlow : 5180 ≤ freq) (hhigh : freq ≤ 5845) :
    channelFreq opClass (UInt8.ofNat ((freq - 5000) / 5)) = freq ↔
      freq % 5 = 0 := by
  rw [channelFreq, if_neg hclass.1, if_neg hclass.2, UInt8.toNat_ofNat']
  omega

theorem roundTrips_iff (cfg : Config) (freq : ℕ) :
    RoundTrips cfg freq ↔ ¬Misaligned cfg freq := by
  rw [Misaligned]
  have hconv := privP2pFreqToChannel.eq_1 cfg freq
  split_ifs at hconv with h81 hrem h82 h115 hrem h118 h121 h124 hrem h125
  · refine iff_of_true (roundTrips_of_none hconv) ?_
    omega
  · rw [roundTrips_of_some hconv, channelFreq_2g h81.1 h81.2]
    omega
  · have hround : RoundTrips cfg freq := by
      rw [roundTrips_of_some hconv, h82]
      rfl
    refine iff_of_true hround ?_
    omega
  · refine iff_of_true (roundTrips_of_none hconv) ?_
    omega
  · rw [roundTrips_of_some hconv, channelFreq_5g (by decide) h115.1 (by omega)]
    omega
  · rw [roundTrips_of_some hconv,
      channelFreq_5g (by decide) (by omega) (by omega)]
    simp [h118]
  · rw [roundTrips_of_some hconv,
      channelFreq_5g (by decide) (by omega) (by omega)]
    simp [h121]
  · refine iff_of_true (roundTrips_of_none hconv) ?_
    omega
  · rw [roundTrips_of_some hconv,
      channelFreq_5g (by decide) (by omega) (by omega)]
    omega
  · rw [roundTrips_of_some hconv,
      channelFreq_5g (by decide) (by omega) h125.2.2]
    simp [h125]
  · refine iff_of_true (roundTrips_of_none hconv) ?_
    rintro ⟨h5g, -, hrange⟩
    rcases hrange with hrange | hrange | hrange
    · exact h118 ⟨h5g, hrange⟩
    · exact h121 ⟨h5g, hrange⟩
    · exact h125 ⟨h5g, hrange⟩

/-- The conversion is inverted by the frequencies of the channels, and tells two
frequencies apart, exactly if neither lies between the channels of a range
without a test. -/
theorem freqToChannel_invertible_iff (cfg : Config) (freq freq' : ℕ) :
    (RoundTrips cfg freq ∧ RoundTrips cfg freq' ∧
      ∀ opClass channel,
        privP2pFreqToChannel cfg freq = some (opClass, channel) →
        privP2pFreqToChannel cfg freq' = some (opClass, channel) →
        freq = freq') ↔
      ¬Misaligned cfg freq ∧ ¬Misaligned cfg freq' := by
  rw [← roundTrips_iff, ← roundTrips_iff]
  constructor
  · rintro ⟨hround, hround', -⟩
    exact ⟨hround, hround'⟩
  · rintro ⟨hround, hround'⟩
    refine ⟨hround, hround', fun opClass channel hconv hconv' => ?_⟩
    rw [← hround opClass channel hconv, ← hround' opClass channel hconv']

/-- The frequencies 5260 and 5261 are both converted to channel 52. -/
theorem freqToChannel_not_invertible :
    privP2pFreqToChannel { mtkP2p5g := true } 5260 = some (118, 52) ∧
      privP2pFreqToChannel { mtkP2p5g := true } 5261 = some (118, 52) ∧
      channelFreq 118 52 = 5260 := by
  decide

/-- The conversion from `int` to `unsigned int`. -/
def toUnsigned (z : ℤ) : ℕ :=
  (z % 0x100000000).toNat

/-! ## Choosing the channel -/

/-- What the local variables `op_reg_class` and `op_channel` hold at first. -/
structure Locals where
  opRegClass : UInt8
  opChannel : UInt8
  deriving DecidableEq, Repr

/-- The first operating class of a channel list. -/
def P2pChannels.first (channels : P2pChannels) : RegClass :=
  channels.regClass 0

/-- The first channel of an operating class. -/
def RegClass.firstChannel (regClass : RegClass) : UInt8 :=
  regClass.channel 0

/-- The channel list with a single channel written to its first entry. -/
def P2pChannels.single (channels : P2pChannels) (opRegClass opChannel : UInt8) :
    P2pChannels where
  regClasses := 1
  regClass := Function.update channels.regClass 0
    { regClass := opRegClass
      channel := Function.update (channels.regClass 0).channel 0 opChannel
      channels := 1 }

/-- The part of `p2p_wfd_sink_config_scc` that shares a channel. -/
def P2pData.share (p2p : P2pData) (opRegClass opChannel : UInt8) : P2pData :=
  { p2p with
    opRegClass := opRegClass
    opChannel := opChannel
    channels := p2p.channels.single opRegClass opChannel }

/-- The part of `p2p_wfd_sink_config_scc` that goes back to the configured
channels; `r` is the random number. -/
def P2pData.goBack (p2p : P2pData) (cfg : P2pConfig) (conf : SupplicantConf)
    (r : UInt32) : P2pData :=
  if conf.p2pOperRegClass ≠ 0 ∧ conf.p2pOperChannel ≠ 0 then
    { p2p with
      opRegClass := UInt8.ofInt conf.p2pOperRegClass
      opChannel := UInt8.ofInt conf.p2pOperChannel
      cfg := some { cfg with cfgOpChannel := 1 }
      channels := cfg.channels }
  else
    { p2p with
      opRegClass := 81
      opChannel := UInt8.ofNat (1 + r.toNat % 3 * 5)
      cfg := some { cfg with cfgOpChannel := 0 }
      channels := cfg.channels }

/-- `p2p_wfd_sink_config_scc` on an existing `p2p`; `none` if it follows the
null pointer `p2p->cfg`. -/
def p2pWfdSinkConfigScc (cfg : Config) (conf : SupplicantConf)
    (locals : Locals) (r : UInt32) (scc : Bool) (operFreq : ℕ)
    (p2p : P2pData) : Option P2pData :=
  if scc ∧ operFreq ≠ 0 then
    let (opRegClass, opChannel) :=
      (privP2pFreqToChannel cfg operFreq).getD
        (locals.opRegClass, locals.opChannel)
    some (p2p.share opRegClass opChannel)
  else
    p2p.cfg.map fun pcfg => p2p.goBack pcfg conf r

end SmartSurf.Wifi
