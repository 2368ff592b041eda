import SmartSurf.Support.Memory

/-!
# Structures in memory

A structure is a list of members with their alignments.  The bytes in front of a
member that bring it to a multiple of its alignment, and those behind the last
member, are not assigned and hold what was in memory before.  The members can be
read back from the bytes by their sizes and alignments alone.
-/

namespace SmartSurf.Support

variable {α : Type}

/-- A member: its alignment and its bytes. -/
structure Member (α : Type) where
  align : ℕ
  bytes : List α

/-- Number of bytes to the next multiple of the alignment. -/
def gap (off align : ℕ) : ℕ :=
  (align - off % align) % align

/-- What the layout depends on: the alignment and the size of the member. -/
def Member.shape (member : Member α) : ℕ × ℕ :=
  (member.align, member.bytes.length)

/-- The offset behind the members, if the first of them is at `off`. -/
def endOffset : ℕ → List (ℕ × ℕ) → ℕ
  | off, [] => off
  | off, (align, size) :: shapes => endOffset (off + gap off align + size) shapes

/-- The largest alignment of a member. -/
def structAlign (shapes : List (ℕ × ℕ)) : ℕ :=
  (shapes.map Prod.fst).foldl max 1

/-- `sizeof`: the members, and what brings the end to the alignment. -/
def structSize (shapes : List (ℕ × ℕ)) : ℕ :=
  endOffset 0 shapes + gap (endOffset 0 shapes) (structAlign shapes)

/-- The bytes of the members from offset `off` on, over the memory `mem`. -/
def placeMembers (mem : ℕ → α) : ℕ → List (Member α) → List α
  | _, [] => []
  | off, member :: members =>
      load mem off (gap off member.align) ++
        (member.bytes ++
          placeMembers mem (off + gap off member.align + member.bytes.length)
            members)

/-- The bytes of a structure that is assigned member by member over `mem`. -/
def structBytes (mem : ℕ → α) (members : List (Member α)) : List α :=
  placeMembers mem 0 members ++
    load mem (endOffset 0 (members.map Member.shape))
      (gap (endOffset 0 (members.map Member.shape))
        (structAlign (members.map Member.shape)))

/-- Read members of the given shapes from the bytes at offset `off`. -/
def readMembers : ℕ → List (ℕ × ℕ) → List α → List (List α)
  | _, [], _ => []
  | off, (align, size) :: shapes, bytes =>
      (bytes.drop (gap off align)).take size ::
        readMembers (off + gap off align + size) shapes
          (bytes.drop (gap off align + size))

theorem length_placeMembers (mem : ℕ → α) (off : ℕ) (members : List (Member α)) :
    off + (placeMembers mem off members).length =
      endOffset off (members.map Member.shape) := by
  induction members generalizing off with
  | nil => rfl
  | cons member members ih =>
      rw [placeMembers, List.map_cons, Member.shape, endOffset, ← ih,
        List.length_append, List.length_append, length_load]
      omega

theorem length_structBytes (mem : ℕ → α) (members : List (Member α)) :
    (structBytes mem members).length = structSize (members.map Member.shape) := by
  have hmembers := length_placeMembers mem 0 members
  rw [structBytes, structSize, List.length_append, length_load]
  omega

/-- The members are read back, whatever the memory held. -/
theorem readMembers_placeMembers
    (mem : ℕ → α) (off : ℕ) (members : List (Member α)) (rest : List α) :
    readMembers off (members.map Member.shape)
        (placeMembers mem off members ++ rest) =
      members.map Member.bytes := by
  induction members generalizing off with
  | nil => rfl
  | cons member members ih =>
      have hskip : ∀ tail : List α,
          (load mem off (gap off member.align) ++ (member.bytes ++ tail)).drop
            (gap off member.align) = member.bytes ++ tail := by
        intro tail
        exact List.drop_left' (length_load _ _ _)
      rw [List.map_cons, List.map_cons, Member.shape, readMembers, placeMembers,
        List.append_assoc, List.append_assoc, ← List.drop_drop, hskip,
        List.take_left, List.drop_left, ih]

theorem readMembers_structBytes (mem : ℕ → α) (members : List (Member α)) :
    readMembers 0 (members.map Member.shape) (structBytes mem members) =
      members.map Member.bytes :=
  readMembers_placeMembers mem 0 members _

/-- There is no padding in front of the first member. -/
theorem take_structBytes
    (mem : ℕ → α) (member : Member α) (members : List (Member α)) :
    (structBytes mem (member :: members)).take member.bytes.length =
      member.bytes := by
  have hgap : gap 0 member.align = 0 := by simp [gap]
  have hnone : load mem 0 0 = [] := rfl
  rw [structBytes, placeMembers, hgap, hnone, List.nil_append,
    List.append_assoc, List.take_left]

/-! ## Padding -/

/-- The offsets of the bytes in front of members that belong to no member. -/
def innerPadding : ℕ → List (ℕ × ℕ) → List ℕ
  | _, [] => []
  | off, (align, size) :: shapes =>
      List.range' off (gap off align) ++
        innerPadding (off + gap off align + size) shapes

/-- The offsets of all bytes that belong to no member. -/
def padding (shapes : List (ℕ × ℕ)) : List ℕ :=
  innerPadding 0 shapes ++
    List.range' (endOffset 0 shapes)
      (gap (endOffset 0 shapes) (structAlign shapes))

theorem load_eq_load_iff {mem mem' : ℕ → α} {off n : ℕ} :
    load mem off n = load mem' off n ↔
      ∀ i ∈ List.range' off n, mem i = mem' i := by
  rw [load, load, List.map_inj_left, List.range'_eq_map_range]
  simp

theorem placeMembers_eq_iff
    {mem mem' : ℕ → α} {off : ℕ} {members : List (Member α)} :
    placeMembers mem off members = placeMembers mem' off members ↔
      ∀ i ∈ innerPadding off (members.map Member.shape), mem i = mem' i := by
  induction members generalizing off with
  | nil => simp [placeMembers, innerPadding]
  | cons member members ih =>
      rw [placeMembers, placeMembers, List.map_cons, Member.shape, innerPadding,
        List.forall_mem_append, ← load_eq_load_iff, ← ih]
      constructor
      · intro h
        have hsplit := List.append_inj h (by simp)
        exact ⟨hsplit.1, List.append_cancel_left hsplit.2⟩
      · rintro ⟨hgap, hrest⟩
        rw [hgap, hrest]

/-- The bytes of a structure depend on the memory at its padding only. -/
theorem structBytes_eq_iff {mem mem' : ℕ → α} {members : List (Member α)} :
    structBytes mem members = structBytes mem' members ↔
      ∀ i ∈ padding (members.map Member.shape), mem i = mem' i := by
  have hlength := length_placeMembers mem 0 members
  have hlength' := length_placeMembers mem' 0 members
  rw [structBytes, structBytes, padding, List.forall_mem_append,
    ← load_eq_load_iff, ← placeMembers_eq_iff]
  constructor
  · intro h
    exact List.append_inj h (by omega)
  · rintro ⟨hmembers, hend⟩
    rw [hmembers, hend]

end SmartSurf.Support
