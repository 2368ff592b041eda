import Mathlib.Algebra.Ring.Int.Defs
import Mathlib.Data.List.Basic
import Mathlib.Data.List.TakeWhile

/-!
# The parts of C's string library used by the native code

Characters are bytes, and a string is the list of its characters in front of
the terminator.  A function that scans memory is given the cells from its
pointer to the end of the object; the result `none` means that the scan leaves
the object.
-/

namespace SmartSurf

/-- A C string without its terminator. -/
abbrev CText := List UInt8

namespace C

/-- The characters of a string literal. -/
def lit (s : String) : CText :=
  s.toList.map fun c => UInt8.ofNat c.toNat

/-- The string that starts at the head of an object. -/
def string (mem : List UInt8) : Option CText :=
  if 0 ∈ mem then some (mem.takeWhile (· != 0)) else none

/-- `strcmp(mem, text) == 0`. -/
def strcmpEq : List UInt8 → CText → Option Bool
  | [], _ => none
  | b :: _, [] => some (b == 0)
  | b :: bs, c :: cs => if b = c then strcmpEq bs cs else some false

/-- What `strlcpy(dst, mem, size)` leaves in `dst`. -/
def strlcpy (size : ℕ) (mem : List UInt8) : Option CText :=
  (string mem).map (List.take (size - 1))

/-- The successive results of `strtok_r` with one delimiter. -/
def strtok (delim : UInt8) (text : CText) : List CText :=
  (text.splitOn delim).filter (· != [])

/-! ## Comparing and searching -/

def toLower (b : UInt8) : UInt8 :=
  if 65 ≤ b ∧ b ≤ 90 then b + 32 else b

/-- `strncmp(text, keyword, strlen(keyword)) == 0`. -/
def startsWith (keyword text : CText) : Bool :=
  keyword.isPrefixOf text

/-- `strncasecmp(text, keyword, strlen(keyword)) == 0`. -/
def startsWithCase (keyword text : CText) : Bool :=
  (keyword.map toLower).isPrefixOf (text.map toLower)

/-- `strcasecmp(text, keyword) == 0`. -/
def equalsCase (keyword text : CText) : Bool :=
  keyword.map toLower == text.map toLower

theorem startsWith_append (keyword text : CText) :
    startsWith keyword (keyword ++ text) = true :=
  List.isPrefixOf_iff_prefix.mpr (List.prefix_append _ text)

theorem startsWithCase_append (keyword text : CText) :
    startsWithCase keyword (keyword ++ text) = true := by
  rw [startsWithCase, List.isPrefixOf_iff_prefix, List.map_append]
  exact List.prefix_append _ _

/-- The text behind the first occurrence of a character; `none` is the result
`NULL` of `strchr`. -/
def strchr (c : UInt8) : CText → Option CText
  | [] => none
  | b :: bs => if b = c then some bs else strchr c bs

/-- The text from the first occurrence of `needle` on. -/
def strstr (needle : CText) : CText → Option CText
  | [] => if needle = [] then some [] else none
  | b :: bs =>
      if needle.isPrefixOf (b :: bs) then some (b :: bs) else strstr needle bs

/-! ## Numbers -/

def isSpace (b : UInt8) : Bool :=
  b == 32 || (9 ≤ b && b ≤ 13)

/-- The value of a digit in any base up to 36. -/
def digitValue (b : UInt8) : Option ℕ :=
  if 48 ≤ b ∧ b ≤ 57 then some (b.toNat - 48)
  else if 97 ≤ toLower b ∧ toLower b ≤ 122 then some ((toLower b).toNat - 87)
  else none

/-- The digits at the head of a text. -/
def takeDigits (base : ℕ) : CText → List ℕ
  | [] => []
  | b :: bs =>
      match digitValue b with
      | some d => if d < base then d :: takeDigits base bs else []
      | none => []

/-- Saturation at the range of a 32-bit `long`. -/
def clampLong (z : ℤ) : ℤ :=
  max (-0x80000000) (min 0x7fffffff z)

/-- The base given by the head of a numeral, and the numeral without it. -/
def baseOf (base : ℕ) (text : CText) : ℕ × CText :=
  match text with
  | 48 :: x :: rest =>
      if (base = 0 ∨ base = 16) ∧ toLower x = 120 ∧ takeDigits 16 rest ≠ [] then
        (16, rest)
      else if base = 0 then (8, text) else (base, text)
  | 48 :: _ => if base = 0 then (8, text) else (base, text)
  | _ => if base = 0 then (10, text) else (base, text)

/-- `strtol(text, &endp, base)`; `none` means that `endp` is set to the start
of the text, since there is no numeral. -/
def strtol (base : ℕ) (text : CText) : Option ℤ :=
  let text := text.dropWhile isSpace
  let negative := text.head? = some 45
  let text := if negative ∨ text.head? = some 43 then text.tail else text
  let (base, text) := baseOf base text
  match takeDigits base text with
  | [] => none
  | digits =>
      let value : ℤ := digits.foldl (fun n d => base * n + d) (0 : ℕ)
      some (clampLong (if negative then -value else value))

/-- `atoi(text)`. -/
def atoi (text : CText) : ℤ :=
  (strtol 10 text).getD 0

/-! ## Terminated strings -/

theorem takeWhile_of_terminated
    {text : CText} (htext : 0 ∉ text) (rest : List UInt8) :
    (text ++ 0 :: rest).takeWhile (· != 0) = text := by
  rw [List.takeWhile_append_of_pos]
  · simp
  · intro b hb
    have hne : b ≠ 0 := by
      rintro rfl
      exact htext hb
    simpa using hne

/-- A terminated string is shorter than the object it is in. -/
theorem length_takeWhile_lt {mem : List UInt8} (h : 0 ∈ mem) :
    (mem.takeWhile (· != 0)).length < mem.length := by
  induction mem with
  | nil => cases h
  | cons b mem ih =>
      by_cases hb : b = 0
      · simp [hb]
      · have hmem : 0 ∈ mem := by
          rcases List.mem_cons.mp h with heq | hmem
          · exact absurd heq.symm hb
          · exact hmem
        simpa [List.takeWhile_cons, hb] using ih hmem

/-- A terminated string is copied whole into an array as long as the object
it is in. -/
theorem strlcpy_of_mem {mem : List UInt8} (h : 0 ∈ mem) :
    strlcpy mem.length mem = some (mem.takeWhile (· != 0)) := by
  have hlt := length_takeWhile_lt h
  rw [strlcpy, string, if_pos h, Option.map_some,
    List.take_of_length_le (by omega)]

/-- Comparing an object with a literal that fits into it does not leave the
object and finds whether it starts with the literal and its terminator. -/
theorem strcmpEq_eq
    {mem : List UInt8} {text : CText} (hlength : text.length < mem.length) :
    strcmpEq mem text =
      some (decide (mem.take (text.length + 1) = text ++ [0])) := by
  induction text generalizing mem with
  | nil =>
      obtain ⟨b, mem, rfl⟩ := List.exists_cons_of_length_pos hlength
      simp [strcmpEq, beq_eq_decide]
  | cons c text ih =>
      obtain ⟨b, mem, rfl⟩ :=
        List.exists_cons_of_length_pos (Nat.zero_lt_of_lt hlength)
      rw [strcmpEq]
      by_cases hbc : b = c
      · rw [if_pos hbc, ih (by simpa using hlength)]
        simp [hbc]
      · rw [if_neg hbc]
        simp [hbc]

end C

end SmartSurf
