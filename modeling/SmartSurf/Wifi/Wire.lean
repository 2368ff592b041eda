import SmartSurf.Platform.Numerals
import SmartSurf.Support.Layout
import SmartSurf.Wifi.Messages

/-!
# The bytes of the driver messages

Every message is a structure that begins with `struct wpa_driver_test_mode_info`
and is handed to `wpa_driver_nl80211_testmode` as it lies in memory.  Two pairs
of commands use the same index.  Their structures differ in size, so the bytes
still determine the message.  All structures but that of `SETSUSPENDMODE` are
cleared before they are assigned.
-/

namespace SmartSurf.Wifi

open Support C

/-! ## Layout -/

/-- The kinds of messages. -/
inductive Kind where
  | staStatistics
  | linkDetect
  | swCmd
  | hotspot
  | wapiKey
  | wfdData
  | beamplusGoReady
  | beamplus
  | sigma
  | suspend
  deriving DecidableEq, Repr

namespace Kind

def all : List Kind :=
  [.staStatistics, .linkDetect, .swCmd, .hotspot, .wapiKey, .wfdData,
    .beamplusGoReady, .beamplus, .sigma, .suspend]

/-- The number in `hdr.index`, without the version. -/
def index : Kind → ℕ
  | .staStatistics => 0x10
  | .linkDetect => 0x20
  | .swCmd => 1
  | .hotspot => 3
  | .wapiKey => 2
  | .wfdData => 2
  | .beamplusGoReady => 0x12
  | .beamplus => 0x11
  | .sigma => 1
  | .suspend => 101

/-- Alignment and size of the members behind the header, for pointers of four
bytes. -/
def body : Kind → List (ℕ × ℕ)
  | .staStatistics => [(4, 4), (4, 4), (1, 6), (4, 4)]
  | .linkDetect => [(4, 4)]
  | .swCmd => [(1, 1), (4, 4), (4, 4)]
  | .hotspot => [(1, 1), (1, 6)]
  | .wapiKey =>
      [(1, 1), (1, 1), (4, 4), (1, 16), (1, 6), (2, 2), (2, 2), (1, 34)]
  | .wfdData =>
      [(4, 4), (1, 1), (1, 1), (1, 1), (1, 1), (2, 2), (2, 2), (2, 2), (2, 2),
        (1, 6), (1, 6), (1, 4), (1, 4), (2, 2), (2, 2), (4, 4), (4, 4), (4, 4),
        (1, 404)]
  | .beamplusGoReady => [(4, 4)]
  | .beamplus => [(4, 4)]
  | .sigma => [(4, 4), (4, 4)]
  | .suspend => [(1, 1)]

/-- The members of the structure, with those of the header. -/
def shapes (kind : Kind) : List (ℕ × ℕ) :=
  (4, 4) :: (4, 4) :: kind.body

/-- `sizeof` of the structure. -/
def size (kind : Kind) : ℕ :=
  structSize kind.shapes

end Kind

/-! ## Bytes -/

def u8Member (x : UInt8) : Member UInt8 := ⟨1, [x]⟩

def u16Member (x : UInt16) : Member UInt8 := ⟨2, leBytes 2 x.toNat⟩

def u32Member (x : UInt32) : Member UInt8 := ⟨4, leBytes 4 x.toNat⟩

def arrayMember (bytes : List UInt8) : Member UInt8 := ⟨1, bytes⟩

def Message.kind : Message → Kind
  | .staStatistics _ => .staStatistics
  | .linkDetect => .linkDetect
  | .swCmd _ _ _ => .swCmd
  | .hotspot _ _ => .hotspot
  | .wapiKey _ => .wapiKey
  | .wfdData _ => .wfdData
  | .beamplusGoReady => .beamplusGoReady
  | .beamplus _ => .beamplus
  | .sigma _ _ => .sigma
  | .suspend _ => .suspend

/-- What the bytes depend on besides the message: the address of the record for
the answer, `sizeof(struct wfd_data_s)`, and the stack where the structure
lies. -/
structure Placement where
  reply : UInt32
  wfdDataSize : UInt32
  stack : ℕ → UInt8

/-- `hdr.buflen`. -/
def Message.buflen (place : Placement) (msg : Message) : UInt32 :=
  match msg with
  | .wfdData _ => place.wfdDataSize
  | msg => UInt32.ofNat msg.kind.size

/-- The members behind the header. -/
def Message.body (place : Placement) : Message → List (Member UInt8)
  | .staStatistics addr =>
      [u32Member 0, u32Member 0, arrayMember addr.val, u32Member place.reply]
  | .linkDetect => [u32Member place.reply]
  | .swCmd set adr data => [u8Member set, u32Member adr, u32Member data]
  | .hotspot blocked bssid => [u8Member blocked, arrayMember bssid.val]
  | .wapiKey p =>
      [u8Member p.keyIndex, u8Member p.keyLen, u32Member p.extFlags,
        arrayMember p.seq, arrayMember p.addr.val, u16Member p.alg,
        u16Member p.extKeyLen, arrayMember p.key]
  | .wfdData p =>
      [u32Member p.wfdCmdType, u8Member p.wfdEnable,
        u8Member p.wfdCoupleSinkStatus, u8Member p.wfdSessionAvailable,
        u8Member p.wfdSigmaMode, u16Member p.wfdDevInfo,
        u16Member p.wfdControlPort, u16Member p.wfdMaximumTp,
        u16Member p.wfdExtendCap, arrayMember p.wfdCoupleSinkAddress.val,
        arrayMember p.wfdAssociatedBssid.val,
        arrayMember (leBytes 4 p.wfdVideoIp.toNat),
        arrayMember (leBytes 4 p.wfdAudioIp.toNat), u16Member p.wfdVideoPort,
        u16Member p.wfdAudioPort, u32Member p.wfdFlag, u32Member p.wfdPolicy,
        u32Member p.wfdState, arrayMember (load p.tail 0 wfdTailSize)]
  | .beamplusGoReady => [u32Member 0]
  | .beamplus value => [u32Member value]
  | .sigma idx value => [u32Member idx, u32Member value]
  | .suspend value => [u8Member value]

/-- The members of the structure; the version in the header is 1. -/
def Message.members (place : Placement) (msg : Message) : List (Member UInt8) :=
  u32Member (UInt32.ofNat msg.kind.index ||| 0x1000000) ::
    u32Member (msg.buflen place) :: msg.body place

/-- What the structure is assigned over: zeros, or the stack if there is no
`os_memset`. -/
def Message.background (place : Placement) : Message → ℕ → UInt8
  | .suspend _ => place.stack
  | _ => fun _ => 0

/-- The bytes handed to `wpa_driver_nl80211_testmode`. -/
def Message.bytes (place : Placement) (msg : Message) : List UInt8 :=
  structBytes (msg.background place) (msg.members place)

/-! ## Reading a message -/

def u8Of (bytes : List UInt8) : UInt8 := UInt8.ofNat (leValue bytes)

def u16Of (bytes : List UInt8) : UInt16 := UInt16.ofNat (leValue bytes)

def u32Of (bytes : List UInt8) : UInt32 := UInt32.ofNat (leValue bytes)

/-- The address in six bytes. -/
def EthAddr.ofBytes (bytes : List UInt8) : Option EthAddr :=
  if h : bytes.length = 6 then some ⟨bytes, h⟩ else none

/-- A buffer that holds the given bytes in front of zeros. -/
def bufferOf (bytes : List UInt8) : Buffer :=
  fun i => (bytes[i]?).getD 0

/-- The message of a kind, from the bytes of its members.  Members that the
driver does not need, such as the address for the answer, are skipped. -/
def Kind.build : Kind → List (List UInt8) → Option Message
  | .staStatistics, [_, _, _, _, addr, _] =>
      (EthAddr.ofBytes addr).map .staStatistics
  | .linkDetect, [_, _, _] => some .linkDetect
  | .swCmd, [_, _, set, adr, data] =>
      some (.swCmd (u8Of set) (u32Of adr) (u32Of data))
  | .hotspot, [_, _, blocked, bssid] =>
      (EthAddr.ofBytes bssid).map (.hotspot (u8Of blocked))
  | .wapiKey, [_, _, keyIndex, keyLen, extFlags, seq, addr, alg, extKeyLen,
      key] =>
      match EthAddr.ofBytes addr with
      | none => none
      | some addr =>
          if h : seq.length = 16 ∧ key.length = 34 then
            some (.wapiKey {
              keyIndex := u8Of keyIndex
              keyLen := u8Of keyLen
              extFlags := u32Of extFlags
              seq := seq
              addr := addr
              alg := u16Of alg
              extKeyLen := u16Of extKeyLen
              key := key
              length_seq := h.1
              length_key := h.2 })
          else none
  | .wfdData, [_, _, cmdType, enable, sinkStatus, session, sigmaMode, devInfo,
      controlPort, maximumTp, extendCap, sinkAddress, bssid, videoIp, audioIp,
      videoPort, audioPort, flag, policy, state, tail] =>
      match EthAddr.ofBytes sinkAddress, EthAddr.ofBytes bssid with
      | some sinkAddress, some bssid =>
          some (.wfdData {
            wfdCmdType := u32Of cmdType
            wfdEnable := u8Of enable
            wfdCoupleSinkStatus := u8Of sinkStatus
            wfdSessionAvailable := u8Of session
            wfdSigmaMode := u8Of sigmaMode
            wfdDevInfo := u16Of devInfo
            wfdControlPort := u16Of controlPort
            wfdMaximumTp := u16Of maximumTp
            wfdExtendCap := u16Of extendCap
            wfdCoupleSinkAddress := sinkAddress
            wfdAssociatedBssid := bssid
            wfdVideoIp := u32Of videoIp
            wfdAudioIp := u32Of audioIp
            wfdVideoPort := u16Of videoPort
            wfdAudioPort := u16Of audioPort
            wfdFlag := u32Of flag
            wfdPolicy := u32Of policy
            wfdState := u32Of state
            tail := bufferOf tail })
      | _, _ => none
  | .beamplusGoReady, [_, _, _] => some .beamplusGoReady
  | .beamplus, [_, _, value] => some (.beamplus (u32Of value))
  | .sigma, [_, _, idx, value] => some (.sigma (u32Of idx) (u32Of value))
  | .suspend, [_, _, value] => some (.suspend (u8Of value))
  | _, _ => none

/-- The kind of a message, by its index and its size. -/
def kindOf (bytes : List UInt8) : Option Kind :=
  Kind.all.find? fun kind =>
    kind.index = leValue (bytes.take 4) % 0x1000000 ∧
      kind.size = bytes.length

/-- The message with the given bytes. -/
def messageOf (bytes : List UInt8) : Option Message :=
  match kindOf bytes with
  | none => none
  | some kind => kind.build (readMembers 0 kind.shapes bytes)

/-! ## The bytes determine the message -/

@[simp] theorem u8Of_bytes (x : UInt8) : u8Of (u8Member x).bytes = x := by
  simp [u8Of, u8Member, leValue]

@[simp] theorem u16Of_bytes (x : UInt16) : u16Of (u16Member x).bytes = x := by
  have hlt : x.toNat < 256 ^ 2 := x.toNat_lt
  rw [u16Of, u16Member, leValue_leBytes, Nat.mod_eq_of_lt hlt,
    UInt16.ofNat_toNat]

theorem u32Of_leBytes (x : UInt32) : u32Of (leBytes 4 x.toNat) = x := by
  have hlt : x.toNat < 256 ^ 4 := x.toNat_lt
  rw [u32Of, leValue_leBytes, Nat.mod_eq_of_lt hlt, UInt32.ofNat_toNat]

@[simp] theorem u32Of_bytes (x : UInt32) : u32Of (u32Member x).bytes = x :=
  u32Of_leBytes x

@[simp] theorem ofBytes_val (addr : EthAddr) :
    EthAddr.ofBytes addr.val = some addr := by
  rw [EthAddr.ofBytes, dif_pos addr.property]

/-- The kinds are told apart by index and size together. -/
theorem kind_unique :
    ∀ a ∈ Kind.all, ∀ b ∈ Kind.all, a.index = b.index → a.size = b.size →
      a = b := by
  decide

theorem Kind.mem_all (kind : Kind) : kind ∈ Kind.all := by
  cases kind <;> decide

@[simp] theorem shape_u8Member (x : UInt8) : (u8Member x).shape = (1, 1) :=
  rfl

@[simp] theorem shape_u16Member (x : UInt16) : (u16Member x).shape = (2, 2) :=
  rfl

@[simp] theorem shape_u32Member (x : UInt32) : (u32Member x).shape = (4, 4) :=
  rfl

@[simp] theorem shape_arrayMember (bytes : List UInt8) :
    (arrayMember bytes).shape = (1, bytes.length) :=
  rfl

/-- The members have the alignments and sizes of the kind. -/
theorem shape_members (place : Placement) (msg : Message) :
    (msg.members place).map Member.shape = msg.kind.shapes := by
  rw [Message.members, Kind.shapes, List.map_cons, List.map_cons,
    shape_u32Member, shape_u32Member]
  congr 2
  cases msg with
  | staStatistics addr =>
      simp [Message.body, Message.kind, Kind.body, addr.property]
  | linkDetect => simp [Message.body, Message.kind, Kind.body]
  | swCmd set adr data => simp [Message.body, Message.kind, Kind.body]
  | hotspot blocked bssid =>
      simp [Message.body, Message.kind, Kind.body, bssid.property]
  | wapiKey p =>
      simp [Message.body, Message.kind, Kind.body, p.length_seq, p.length_key,
        p.addr.property]
  | wfdData p =>
      simp [Message.body, Message.kind, Kind.body, length_leBytes, wfdTailSize,
        p.wfdCoupleSinkAddress.property, p.wfdAssociatedBssid.property]
  | beamplusGoReady => simp [Message.body, Message.kind, Kind.body]
  | beamplus value => simp [Message.body, Message.kind, Kind.body]
  | sigma idx value => simp [Message.body, Message.kind, Kind.body]
  | suspend value => simp [Message.body, Message.kind, Kind.body]

theorem length_bytes (place : Placement) (msg : Message) :
    (msg.bytes place).length = msg.kind.size := by
  rw [Message.bytes, length_structBytes, shape_members, Kind.size]

theorem index_version :
    ∀ kind ∈ Kind.all,
      (UInt32.ofNat kind.index ||| 0x1000000).toNat % 256 ^ 4 % 0x1000000 =
        kind.index := by
  decide

/-- The index can be read from the first four bytes. -/
theorem index_bytes (place : Placement) (msg : Message) :
    leValue ((msg.bytes place).take 4) % 0x1000000 = msg.kind.index := by
  have htake : (msg.bytes place).take 4 =
      (u32Member (UInt32.ofNat msg.kind.index ||| 0x1000000)).bytes := by
    rw [Message.bytes, Message.members]
    exact take_structBytes _ (u32Member _) _
  rw [htake, u32Member, leValue_leBytes, index_version _ msg.kind.mem_all]

theorem kindOf_bytes (place : Placement) (msg : Message) :
    kindOf (msg.bytes place) = some msg.kind := by
  rw [kindOf, index_bytes, length_bytes]
  cases hfind : Kind.all.find? fun kind =>
      decide (kind.index = msg.kind.index ∧ kind.size = msg.kind.size) with
  | none =>
      have hnot := List.find?_eq_none.mp hfind msg.kind msg.kind.mem_all
      simp at hnot
  | some kind =>
      have hkind := List.find?_some hfind
      rw [decide_eq_true_eq] at hkind
      rw [kind_unique kind kind.mem_all msg.kind msg.kind.mem_all hkind.1
        hkind.2]

/-- The bytes behind the end of the structure are zero. -/
def Message.WellFormed : Message → Prop
  | .wfdData p => ∀ i, wfdTailSize ≤ i → p.tail i = 0
  | _ => True

theorem bufferOf_load {p : WfdData} (h : (Message.wfdData p).WellFormed) :
    bufferOf (load p.tail 0 wfdTailSize) = p.tail := by
  funext i
  by_cases hi : i < wfdTailSize
  · simp [bufferOf, load, hi]
  · rw [bufferOf, List.getElem?_eq_none (by rw [length_load]; omega)]
    exact (h i (by omega)).symm

theorem build_members
    (place : Placement) {msg : Message} (h : msg.WellFormed) :
    msg.kind.build ((msg.members place).map Member.bytes) = some msg := by
  cases msg with
  | staStatistics addr =>
      simp [Message.kind, Message.members, Message.body, Kind.build,
        arrayMember]
  | linkDetect => rfl
  | swCmd set adr data =>
      simp [Message.kind, Message.members, Message.body, Kind.build]
  | hotspot blocked bssid =>
      simp [Message.kind, Message.members, Message.body, Kind.build,
        arrayMember]
  | wapiKey p =>
      simp [Message.kind, Message.members, Message.body, Kind.build,
        arrayMember, p.length_seq, p.length_key]
  | wfdData p =>
      simp [Message.kind, Message.members, Message.body, Kind.build,
        arrayMember, u32Of_leBytes, bufferOf_load h]
  | beamplusGoReady => rfl
  | beamplus value =>
      simp [Message.kind, Message.members, Message.body, Kind.build]
  | sigma idx value =>
      simp [Message.kind, Message.members, Message.body, Kind.build]
  | suspend value =>
      simp [Message.kind, Message.members, Message.body, Kind.build]

/-- The bytes of a message determine it. -/
theorem messageOf_bytes
    (place : Placement) {msg : Message} (h : msg.WellFormed) :
    messageOf (msg.bytes place) = some msg := by
  have hread : readMembers 0 msg.kind.shapes (msg.bytes place) =
      (msg.members place).map Member.bytes := by
    rw [← shape_members place msg, Message.bytes, readMembers_structBytes]
  rw [messageOf, kindOf_bytes]
  dsimp only
  rw [hread, build_members place h]

/-! ## What the structures hold -/

/-- The structure of `wpas_wfd_data_update` ends where it is copied to. -/
theorem wellFormed_wfdRequestMessage
    {p : WfdRequest} {msg : WfdData} (h : wfdRequestMessage p = some msg) :
    (Message.wfdData msg).WellFormed := by
  intro i hi
  rw [wfdRequestMessage] at h
  split at h
  · cases h
  next hlen =>
    obtain rfl := Option.some.inj h
    have hprimary := p.wfdPrimarySinkMac.property
    have hsecondary := p.wfdSecondarySinkMac.property
    rw [wfdTailSize] at hi hlen
    dsimp only
    rw [wfdTail, store_of_le _ (by rw [length_leBytes]; omega),
      store_of_le _ (by rw [length_leBytes]; omega),
      store_of_le _ (by omega), store_of_le _ (by omega),
      store_of_le _ (by rw [length_load]; omega),
      store_of_le _ (by rw [length_leBytes]; omega)]

theorem members_withStack
    (place : Placement) (stack : ℕ → UInt8) (msg : Message) :
    msg.members { place with stack := stack } = msg.members place := by
  rcases msg with _ | _ | _ | _ | _ | _ | _ | _ | _ | _ <;> rfl

theorem background_eq_zero
    (place : Placement) {msg : Message} (h : msg.kind ≠ .suspend) :
    msg.background place = fun _ => 0 := by
  cases msg with
  | suspend value => exact absurd rfl h
  | _ => rfl

/-- The bytes depend on the stack for `SETSUSPENDMODE` only, whose structure
ends in three bytes that are never assigned. -/
theorem bytes_stack_iff
    (place : Placement) (stack : ℕ → UInt8) (msg : Message) :
    msg.bytes { place with stack := stack } = msg.bytes place ↔
      (msg.kind = .suspend →
        ∀ i ∈ [9, 10, 11], stack i = place.stack i) := by
  rw [Message.bytes, Message.bytes, members_withStack]
  by_cases hkind : msg.kind = .suspend
  · have hpadding : padding msg.kind.shapes = [9, 10, 11] := by
      rw [hkind]
      decide
    have hbackground : ∀ place : Placement,
        msg.background place = place.stack := by
      intro place
      cases msg with
      | suspend value => rfl
      | _ => cases hkind
    rw [structBytes_eq_iff, shape_members, hpadding, hbackground, hbackground]
    exact ⟨fun h _ => h, fun h => h hkind⟩
  · rw [background_eq_zero _ hkind, background_eq_zero _ hkind]
    exact ⟨fun _ h => absurd h hkind, fun _ => rfl⟩

end SmartSurf.Wifi
