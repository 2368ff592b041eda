import Mathlib.Data.Nat.Digits.Defs
import SmartSurf.Platform.CText

/-!
# The conversions of `printf` used by the native code

A conversion renders an object of a fixed width, given by its bytes with the
least significant byte first.  Doubles are rendered by `%.1f` from their bits,
rounded to the nearest tenth and to the even one in the middle.
-/

namespace SmartSurf.C

/-! ## Numbers in memory -/

/-- The number stored in a list of bytes. -/
def leValue : List UInt8 → ℕ
  | [] => 0
  | b :: bs => b.toNat + 256 * leValue bs

/-- The bytes of a number, reduced to the given width. -/
def leBytes : ℕ → ℕ → List UInt8
  | 0, _ => []
  | width + 1, n => UInt8.ofNat n :: leBytes width (n / 256)

theorem length_leBytes (width n : ℕ) : (leBytes width n).length = width := by
  induction width generalizing n with
  | zero => rfl
  | succ width ih => rw [leBytes, List.length_cons, ih]

/-- The bytes of the value of some bytes are these bytes. -/
theorem leBytes_leValue {width : ℕ} {xs : List UInt8} (h : xs.length = width) :
    leBytes width (leValue xs) = xs := by
  induction xs generalizing width with
  | nil =>
      subst h
      rfl
  | cons b xs ih =>
      subst h
      have hb : b.toNat < 256 := b.toNat_lt
      have hlow : UInt8.ofNat (b.toNat + 256 * leValue xs) = b := by
        apply UInt8.toNat_inj.mp
        rw [UInt8.toNat_ofNat']
        omega
      have hhigh : (b.toNat + 256 * leValue xs) / 256 = leValue xs := by
        omega
      rw [List.length_cons, leBytes, leValue, hlow, hhigh, ih rfl]

/-! ## Conversions -/

def decimal (n : ℕ) : CText :=
  (Nat.toDigits 10 n).map fun c => UInt8.ofNat c.toNat

def signedDecimal (z : ℤ) : CText :=
  if z < 0 then 45 :: decimal z.natAbs else decimal z.natAbs

def hexDigit (upper : Bool) (n : ℕ) : UInt8 :=
  if n < 10 then UInt8.ofNat (48 + n)
  else UInt8.ofNat ((if upper then 55 else 87) + n)

def hexByte (upper : Bool) (b : UInt8) : CText :=
  [hexDigit upper (b.toNat / 16), hexDigit upper (b.toNat % 16)]

/-- A quotient rounded to the nearest integer, and to the even one in the
middle. -/
def roundDiv (num den : ℕ) : ℕ :=
  if den < 2 * (num % den) ∨ (2 * (num % den) = den ∧ num / den % 2 = 1) then
    num / den + 1
  else
    num / den

/-- A finite double without its sign, in tenths. -/
def doubleTenths (bits : ℕ) : ℕ :=
  let exponent := bits / 0x10000000000000 % 0x800
  let fraction := bits % 0x10000000000000
  if exponent = 0 then
    roundDiv (10 * fraction) (2 ^ 1074)
  else if exponent < 1075 then
    roundDiv (10 * (fraction + 0x10000000000000)) (2 ^ (1075 - exponent))
  else
    10 * (fraction + 0x10000000000000) * 2 ^ (exponent - 1075)

/-- The digits of `%.1f`, without the sign. -/
def doubleBody (bits : ℕ) : CText :=
  if bits / 0x10000000000000 % 0x800 = 0x7ff then
    if bits % 0x10000000000000 = 0 then lit "inf" else lit "nan"
  else
    decimal (doubleTenths bits / 10) ++
      46 :: decimal (doubleTenths bits % 10)

/-- `%.1f`. -/
def fixedDouble (bits : ℕ) : CText :=
  if 0x8000000000000000 ≤ bits then 45 :: doubleBody bits else doubleBody bits

/-- The conversions, with the type of their argument. -/
inductive Format where
  | u8
  | u64
  | int
  | hex (width : ℕ) (upper : Bool)
  | double
  deriving DecidableEq, Repr

/-- Number of bytes of the argument. -/
def Format.width : Format → ℕ
  | .u8 => 1
  | .u64 => 8
  | .int => 4
  | .hex width _ => width
  | .double => 8

/-- The text of an argument: `%d` of a byte, `%llu`, `%d`, `%08X` and `%02x`,
and `%.1f`. -/
def Format.render : Format → List UInt8 → CText
  | .u8, bytes => decimal (leValue bytes)
  | .u64, bytes => decimal (leValue bytes)
  | .int, bytes => signedDecimal (Int.bmod (leValue bytes) 0x100000000)
  | .hex _ upper, bytes => bytes.reverse.flatMap (hexByte upper)
  | .double, bytes => fixedDouble (leValue bytes)

/-! ## First characters -/

theorem leValue_append (xs : List UInt8) (top : UInt8) :
    leValue (xs ++ [top]) = leValue xs + 256 ^ xs.length * top.toNat := by
  induction xs with
  | nil => simp [leValue]
  | cons b xs ih =>
      rw [List.cons_append, leValue, ih, leValue, List.length_cons, pow_succ]
      ring

theorem leValue_lt (xs : List UInt8) : leValue xs < 256 ^ xs.length := by
  induction xs with
  | nil => simp [leValue]
  | cons b xs ih =>
      have hb : b.toNat < 256 := b.toNat_lt
      rw [leValue, List.length_cons, pow_succ]
      omega

/-- A decimal numeral starts with a digit. -/
theorem decimal_head (n : ℕ) :
    ∃ d, (decimal n)[0]? = some d ∧ 48 ≤ d.toNat ∧ d.toNat ≤ 57 := by
  obtain ⟨c, cs, hdigits⟩ :=
    List.exists_cons_of_ne_nil (Nat.toDigits_ne_nil (n := n) (b := 10))
  have hmem : c ∈ Nat.toDigits 10 n := by
    rw [hdigits]
    exact List.mem_cons_self
  have hdigit := Nat.isDigit_of_mem_toDigits (by decide) (by decide) hmem
  have hbounds : 48 ≤ c.toNat ∧ c.toNat ≤ 57 :=
    Char.isDigit_iff_toNat.mp hdigit
  have hsize : c.toNat < UInt8.size := by
    change c.toNat < 256
    omega
  refine ⟨UInt8.ofNat c.toNat, ?_, ?_⟩
  · simp [decimal, hdigits]
  · rw [UInt8.toNat_ofNat_of_lt' hsize]
    exact hbounds

theorem doubleBody_head
    {bits : ℕ} (h : bits / 0x10000000000000 % 0x800 ≠ 0x7ff) :
    ∃ d, (doubleBody bits)[0]? = some d ∧ 48 ≤ d.toNat ∧ d.toNat ≤ 57 := by
  obtain ⟨d, hd, hbounds⟩ := decimal_head (doubleTenths bits / 10)
  refine ⟨d, ?_, hbounds⟩
  rw [doubleBody, if_neg h, List.getElem?_append_left, hd]
  exact (List.getElem?_eq_some_iff.mp hd).1

/-- A rendered argument is never empty. -/
theorem Format.render_ne_nil
    (format : Format) {bytes : List UInt8} (h : bytes ≠ []) :
    format.render bytes ≠ [] := by
  have hdecimal : ∀ n, decimal n ≠ [] := by
    intro n hnil
    obtain ⟨d, hd, -⟩ := decimal_head n
    rw [hnil] at hd
    cases hd
  have hbody : ∀ bits, doubleBody bits ≠ [] := by
    intro bits
    rw [doubleBody]
    split_ifs
    · decide
    · decide
    · simp
  rcases format with _ | _ | _ | ⟨width, upper⟩ | _
  · exact hdecimal _
  · exact hdecimal _
  · rw [render, signedDecimal]
    split_ifs
    · exact List.cons_ne_nil _ _
    · exact hdecimal _
  · rw [render]
    obtain ⟨b, bs, hbytes⟩ :=
      List.exists_cons_of_ne_nil (List.reverse_ne_nil_iff.mpr h)
    rw [hbytes, List.flatMap_cons, hexByte]
    exact List.cons_ne_nil _ _
  · rw [render, fixedDouble]
    split_ifs
    · exact List.cons_ne_nil _ _
    · exact hbody _

/-- Two arguments which differ in the topmost bit only are rendered with
different first characters; for `%llu` the other bits are zero. -/
theorem Format.render_top_bit
    (format : Format) {xs : List UInt8} (h : xs.length + 1 = format.width)
    (hzero : format = .u64 → xs = List.replicate 7 0) :
    ∃ a b, (format.render (xs ++ [0]))[0]? = some a ∧
      (format.render (xs ++ [0x80]))[0]? = some b ∧ a ≠ b := by
  have hlt := leValue_lt xs
  rcases format with _ | _ | _ | ⟨width, upper⟩ | _
  · obtain rfl : xs = [] := List.length_eq_zero_iff.mp (by simpa [width] using h)
    exact ⟨48, 49, by decide, by decide, by decide⟩
  · obtain rfl := hzero rfl
    exact ⟨48, 57, by decide, by decide, by decide⟩
  · have hlength : xs.length = 3 := by simpa [width] using h
    rw [hlength] at hlt
    obtain ⟨d, hd, hbounds⟩ := decimal_head (leValue xs)
    refine ⟨d, 45, ?_, ?_, ?_⟩
    · have hvalue : Int.bmod (leValue (xs ++ [0])) 0x100000000 =
          leValue xs := by
        rw [leValue_append, Int.bmod_def]
        simp only [UInt8.toNat_zero, Nat.mul_zero, Nat.add_zero]
        omega
      rw [render, hvalue, signedDecimal, if_neg (by omega), Int.natAbs_natCast]
      exact hd
    · have hvalue : Int.bmod (leValue (xs ++ [0x80])) 0x100000000 < 0 := by
        rw [leValue_append, Int.bmod_def, hlength]
        have htop : (0x80 : UInt8).toNat = 128 := rfl
        rw [htop]
        omega
      rw [render, signedDecimal, if_pos hvalue]
      rfl
    · rintro rfl
      exact absurd hbounds (by decide)
  · refine ⟨48, 56, ?_, ?_, by decide⟩
    · rw [render, List.reverse_append]
      cases upper with
      | false => rfl
      | true => rfl
    · rw [render, List.reverse_append]
      cases upper with
      | false => rfl
      | true => rfl
  · have hlength : xs.length = 7 := by simpa [width] using h
    rw [hlength] at hlt
    have hlow : leValue (xs ++ [0]) < 0x100000000000000 := by
      rw [leValue_append]
      simp only [UInt8.toNat_zero, Nat.mul_zero, Nat.add_zero]
      omega
    have hhigh : 0x8000000000000000 ≤ leValue (xs ++ [0x80]) := by
      rw [leValue_append, hlength]
      have htop : (0x80 : UInt8).toNat = 128 := rfl
      rw [htop]
      omega
    obtain ⟨d, hd, hbounds⟩ :=
      doubleBody_head (h := show leValue (xs ++ [0]) / 0x10000000000000 %
        0x800 ≠ 0x7ff by omega)
    refine ⟨d, 45, ?_, ?_, ?_⟩
    · rw [render, fixedDouble, if_neg (by omega)]
      exact hd
    · rw [render, fixedDouble, if_pos hhigh]
      rfl
    · rintro rfl
      exact absurd hbounds (by decide)

end SmartSurf.C
