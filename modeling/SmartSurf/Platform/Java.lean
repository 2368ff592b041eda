import Mathlib.Algebra.Ring.Int.Defs
import Mathlib.Data.List.AList
import SmartSurf.Support.Delimited

/-!
# The parts of Java's library used by the telephony classes

Strings are lists of characters.  The definitions below follow the documented
behaviour of `String.split`, `TextUtils.join`, `Integer.parseInt` and
`HashMap`; exceptions are values of `Throwable`.
-/

namespace SmartSurf

open Support

/-- A Java string as the sequence of its characters. -/
abbrev JString := List Char

/-- The exceptions that the modelled code raises or passes on. -/
inductive Throwable where
  | numberFormat (text : JString)
  | nullPointer
  | valueTooLarge (key : String) (value : JString)
  | runtime (message : String)
  | platform (code : ℕ)
  deriving DecidableEq, Repr

namespace Java

/-- `s.split(sep)` for a one-character separator. -/
def split (s : JString) (sep : Char) : List JString :=
  splitTrim sep s

/-- `TextUtils.join(sep, pieces)`. -/
def join (sep : Char) (pieces : List JString) : JString :=
  joinWith sep pieces

/-- First code point of every block of ten decimal digits in the basic
multilingual plane. -/
def digitBlocks : List ℕ :=
  [0x30, 0x660, 0x6f0, 0x7c0, 0x966, 0x9e6, 0xa66, 0xae6, 0xb66, 0xbe6,
    0xc66, 0xce6, 0xd66, 0xde6, 0xe50, 0xed0, 0xf20, 0x1040, 0x1090, 0x17e0,
    0x1810, 0x1946, 0x19d0, 0x1a80, 0x1a90, 0x1b50, 0x1bb0, 0x1c40, 0x1c50,
    0xa620, 0xa8d0, 0xa900, 0xa9d0, 0xa9f0, 0xaa50, 0xabf0, 0xff10]

/-- `Character.digit(c, 10)`, with `none` for the result `-1`. -/
def digit (c : Char) : Option ℕ :=
  (digitBlocks.find? fun first => first ≤ c.toNat ∧ c.toNat < first + 10).map
    fun first => c.toNat - first

/-- Value of a sequence of decimal digits. -/
def digitsValue (cs : JString) : Option ℕ :=
  cs.foldlM (fun n c => (digit c).map fun d => 10 * n + d) 0

/-- `Integer.parseInt(s)`: an optional sign, then at least one decimal digit,
with a value in the range of a 32-bit integer. -/
def parseInt (s : JString) : Except Throwable ℤ :=
  let negative := s.head? = some '-'
  let digits := if negative ∨ s.head? = some '+' then s.tail else s
  if digits = [] then
    .error (.numberFormat s)
  else
    match digitsValue digits with
    | none => .error (.numberFormat s)
    | some n =>
        let value : ℤ := if negative then -n else n
        if -2 ^ 31 ≤ value ∧ value < 2 ^ 31 then
          .ok value
        else
          .error (.numberFormat s)

/-- `Integer.parseInt` accepts `s`. -/
def IsDecimal (s : JString) : Prop :=
  ∃ value, parseInt s = .ok value

instance (s : JString) : Decidable (IsDecimal s) :=
  match h : parseInt s with
  | .ok value => isTrue ⟨value, h⟩
  | .error e => isFalse (by rintro ⟨value, hvalue⟩; rw [h] at hvalue; cases hvalue)

/-- A `HashMap<String, Integer>`.  The order of its entries is not the order
in which Java iterates over the keys. -/
abbrev HashMap := AList fun _ : JString => ℤ

end Java

/-- The platform code the telephony classes call and which is not part of the
repository: the number normalisation of `PhoneNumberUtils`, and the order in
which a `HashMap` with given keys lists them. -/
structure Platform where
  extractNetworkPortionAlt : JString → JString
  keySet : List JString → List JString
  keySet_perm : ∀ keys, (keySet keys).Perm keys

theorem Platform.mem_keySet (P : Platform) {keys : List JString}
    {key : JString} :
    key ∈ P.keySet keys ↔ key ∈ keys :=
  (P.keySet_perm keys).mem_iff

/-- The characters a telephone number is dialled with. -/
def isDialable (c : Char) : Bool :=
  c.isDigit || c == '*' || c == '#' || c == '+' || c == 'N'

/-- A platform which keeps the dialable characters in front of the first pause
or wait character, and whose maps list their keys in stored order. -/
def plainPlatform : Platform where
  extractNetworkPortionAlt number :=
    (number.takeWhile fun c => c != ',' && c != ';').filter isDialable
  keySet keys := keys
  keySet_perm := List.Perm.refl

theorem plainPlatform_digits {number : JString}
    (h : ∀ c ∈ number, c.isDigit = true) :
    plainPlatform.extractNetworkPortionAlt number = number := by
  have hall : (number.takeWhile fun c => c != ',' && c != ';') = number := by
    rw [List.takeWhile_eq_self_iff]
    intro c hc
    have hdigit := h c hc
    have hcomma : c ≠ ',' := by
      rintro rfl
      simp at hdigit
    have hsemicolon : c ≠ ';' := by
      rintro rfl
      simp at hdigit
    simp [hcomma, hsemicolon]
  simp only [plainPlatform, hall, List.filter_eq_self]
  intro c hc
  simp [isDialable, h c hc]

end SmartSurf
