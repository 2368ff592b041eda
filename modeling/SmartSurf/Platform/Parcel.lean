import Mathlib.Data.Int.Basic

/-!
# Parcels

A parcel is a byte buffer with a read position.  Integers are stored in four
bytes, least significant byte first; reading one past the end of the buffer
yields zero and does not move the position.
-/

namespace SmartSurf

structure Parcel where
  data : List UInt8
  dataPosition : ℕ := 0
  deriving DecidableEq, Repr

namespace Parcel

/-- `Parcel.dataAvail`. -/
def dataAvail (p : Parcel) : ℕ :=
  p.data.length - p.dataPosition

/-- `Parcel.setDataPosition`. -/
def setDataPosition (p : Parcel) (dataPosition : ℕ) : Parcel :=
  { p with dataPosition := dataPosition }

/-- The signed integer stored in four bytes. -/
def int32 (b0 b1 b2 b3 : UInt8) : ℤ :=
  Int.bmod (b0.toNat + 0x100 * b1.toNat + 0x10000 * b2.toNat +
    0x1000000 * b3.toNat) 0x100000000

/-- `Parcel.readInt`: the integer at the current position, and the parcel after
reading it. -/
def readInt (p : Parcel) : ℤ × Parcel :=
  match p.data.drop p.dataPosition with
  | b0 :: b1 :: b2 :: b3 :: _ =>
      (int32 b0 b1 b2 b3, p.setDataPosition (p.dataPosition + 4))
  | _ => (0, p)

theorem readInt_data (p : Parcel) : p.readInt.2.data = p.data := by
  rw [readInt]
  split
  · rfl
  · rfl

/-- Setting back the position after reading gives back the parcel. -/
theorem setDataPosition_of_data
    {p q : Parcel} (h : q.data = p.data) :
    q.setDataPosition p.dataPosition = p := by
  rw [setDataPosition, h]

end Parcel

end SmartSurf
