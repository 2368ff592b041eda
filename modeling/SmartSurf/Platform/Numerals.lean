import SmartSurf.Platform.Printf

/-!
# Reading printed numbers

A number that has been printed in decimal digits is read back by `strtol`, and
a numeral in front of a character that is not a digit can be told from what
follows it.
-/

namespace SmartSurf.C

/-- A decimal digit. -/
def IsDigit (b : UInt8) : Prop :=
  48 ≤ b ∧ b ≤ 57

instance (b : UInt8) : Decidable (IsDigit b) :=
  inferInstanceAs (Decidable (_ ∧ _))

/-- The text does not go on with a digit. -/
def EndsNumeral (text : CText) : Prop :=
  ∀ b ∈ text.head?, ¬IsDigit b

instance (text : CText) : Decidable (EndsNumeral text) :=
  match text with
  | [] => .isTrue nofun
  | b :: _ => decidable_of_iff (¬IsDigit b) (by simp [EndsNumeral])

/-- The number with the given digits. -/
def numeralValue (digits : List ℕ) : ℕ :=
  digits.foldl (fun n d => 10 * n + d) 0

theorem digitByte_eq {d : ℕ} (h : d < 10) :
    UInt8.ofNat (Nat.digitChar d).toNat = UInt8.ofNat (48 + d) := by
  rw [Nat.toNat_digitChar_of_lt_ten h]

/-- The last digit is the remainder by ten. -/
theorem decimal_eq (n : ℕ) :
    decimal n = (if n < 10 then [] else decimal (n / 10)) ++
      [UInt8.ofNat (48 + n % 10)] := by
  by_cases h : n < 10
  · rw [if_pos h, decimal, Nat.toDigits_of_lt_base h, List.map_singleton,
      digitByte_eq h, Nat.mod_eq_of_lt h, List.nil_append]
  · rw [if_neg h, decimal, Nat.toDigits_of_base_le (by decide) (by omega),
      List.map_append, List.map_singleton,
      digitByte_eq (Nat.mod_lt n (by decide)), decimal]

theorem toNat_digitByte (n : ℕ) :
    (UInt8.ofNat (48 + n % 10)).toNat = 48 + n % 10 := by
  rw [UInt8.toNat_ofNat']
  omega

theorem isDigit_digitByte (n : ℕ) : IsDigit (UInt8.ofNat (48 + n % 10)) := by
  have hvalue := toNat_digitByte n
  refine ⟨UInt8.le_iff_toNat_le.mpr ?_, UInt8.le_iff_toNat_le.mpr ?_⟩
  · rw [hvalue]
    exact Nat.le_add_right 48 _
  · rw [hvalue]
    change 48 + n % 10 ≤ 57
    omega

theorem isDigit_of_mem_decimal {n : ℕ} {b : UInt8} (h : b ∈ decimal n) :
    IsDigit b := by
  induction n using Nat.strongRecOn with
  | ind n ih =>
      rw [decimal_eq, List.mem_append, List.mem_singleton] at h
      rcases h with hinit | rfl
      · split_ifs at hinit with hn
        · exact absurd hinit List.not_mem_nil
        · exact ih (n / 10) (by omega) hinit
      · exact isDigit_digitByte n

/-- The digits of a printed number have its value. -/
theorem numeralValue_decimal (n : ℕ) :
    numeralValue ((decimal n).map fun b => b.toNat - 48) = n := by
  induction n using Nat.strongRecOn with
  | ind n ih =>
      rw [decimal_eq, List.map_append, List.map_singleton, toNat_digitByte,
        numeralValue, List.foldl_append]
      by_cases hn : n < 10
      · rw [if_pos hn]
        simp only [List.map_nil, List.foldl_nil, List.foldl_cons]
        omega
      · have hinit := ih (n / 10) (by omega)
        rw [numeralValue] at hinit
        rw [if_neg hn, hinit]
        simp only [List.foldl_nil, List.foldl_cons]
        omega

/-! ## Reading -/

theorem digitValue_of_isDigit {b : UInt8} (h : IsDigit b) :
    digitValue b = some (b.toNat - 48) :=
  if_pos h

theorem takeDigits_of_endsNumeral {text : CText} (h : EndsNumeral text) :
    takeDigits 10 text = [] := by
  rcases text with _ | ⟨b, text⟩
  · rfl
  · have hb : ¬(48 ≤ b ∧ b ≤ 57) := h b rfl
    rw [takeDigits, digitValue, if_neg hb]
    by_cases hletter : 97 ≤ toLower b ∧ toLower b ≤ 122
    · -- The digits of larger bases are worth ten and more.
      have hle := UInt8.le_iff_toNat_le.mp hletter.1
      change 97 ≤ (toLower b).toNat at hle
      simp only [if_pos hletter]
      rw [if_neg (by omega)]
    · simp only [if_neg hletter]

/-- The digits at the head of a text are read up to its end. -/
theorem takeDigits_append
    {digits : CText} (hdigits : ∀ b ∈ digits, IsDigit b) {rest : CText}
    (hrest : EndsNumeral rest) :
    takeDigits 10 (digits ++ rest) = digits.map fun b => b.toNat - 48 := by
  induction digits with
  | nil => exact takeDigits_of_endsNumeral hrest
  | cons b digits ih =>
      have hb := hdigits b List.mem_cons_self
      have hlt : b.toNat - 48 < 10 := by
        have hle := UInt8.le_iff_toNat_le.mp hb.2
        change b.toNat ≤ 57 at hle
        omega
      rw [List.cons_append, takeDigits, digitValue_of_isDigit hb]
      simp only [if_pos hlt]
      rw [ih fun c hc => hdigits c (List.mem_cons_of_mem b hc), List.map_cons]

theorem takeDigits_decimal (n : ℕ) {rest : CText} (hrest : EndsNumeral rest) :
    takeDigits 10 (decimal n ++ rest) =
      (decimal n).map fun b => b.toNat - 48 :=
  takeDigits_append (fun _ => isDigit_of_mem_decimal) hrest

theorem baseOf_ten (text : CText) : baseOf 10 text = (10, text) := by
  rw [baseOf.eq_def]
  split
  · simp
  · simp
  · simp

theorem exists_decimal_cons (n : ℕ) :
    ∃ d digits, decimal n = d :: digits ∧ IsDigit d := by
  obtain ⟨d, digits, hcons⟩ : ∃ d digits, decimal n = d :: digits := by
    apply List.exists_cons_of_ne_nil
    rw [decimal_eq]
    exact List.append_ne_nil_of_right_ne_nil _ (List.cons_ne_nil _ _)
  refine ⟨d, digits, hcons, isDigit_of_mem_decimal (n := n) ?_⟩
  rw [hcons]
  exact List.mem_cons_self

/-- The sum of the digits can be formed among the integers. -/
theorem foldl_cast (digits : List ℕ) (n : ℕ) :
    List.foldl (fun n d : ℤ => 10 * n + d) n
        (digits.map (Nat.cast : ℕ → ℤ)) =
      ((digits.foldl (fun n d => 10 * n + d) n : ℕ) : ℤ) := by
  induction digits generalizing n with
  | nil => rfl
  | cons d digits ih =>
      rw [List.map_cons, List.foldl_cons, List.foldl_cons, ← ih]
      push_cast
      rfl

/-- A printed number is read back, up to the range of the type. -/
theorem strtol_decimal (n : ℕ) {rest : CText} (hrest : EndsNumeral rest) :
    strtol 10 (decimal n ++ rest) = some (clampLong n) := by
  obtain ⟨d, digits, hcons, hd⟩ := exists_decimal_cons n
  have hread := takeDigits_decimal n hrest
  have hvalue := numeralValue_decimal n
  have hlow := UInt8.le_iff_toNat_le.mp hd.1
  change 48 ≤ d.toNat at hlow
  have hne : ∀ c : UInt8, c.toNat < 48 → d ≠ c := by
    rintro c hc rfl
    omega
  have hspace : isSpace d = false := by
    have hlarge : ¬d ≤ 13 := by
      rw [UInt8.le_iff_toNat_le]
      change ¬d.toNat ≤ 13
      omega
    simp [isSpace, hne 32 (by decide), hlarge]
  rw [hcons] at hvalue
  rw [hcons, List.cons_append] at hread ⊢
  have hdrop : (d :: (digits ++ rest)).dropWhile isSpace =
      d :: (digits ++ rest) := by
    simp [hspace]
  simp only [strtol, hdrop, List.head?_cons, Option.some.injEq,
    hne 45 (by decide), hne 43 (by decide), or_self, if_false, baseOf_ten,
    hread]
  rw [← hvalue, numeralValue, ← foldl_cast]
  simp only [List.map_cons, Nat.cast_ofNat, List.pure_def,
    List.bind_eq_flatMap, ← List.map_eq_flatMap]

theorem atoi_decimal {n : ℕ} (hn : n ≤ 0x7fffffff) {rest : CText}
    (hrest : EndsNumeral rest) :
    atoi (decimal n ++ rest) = n := by
  rw [atoi, strtol_decimal n hrest, Option.getD_some, clampLong]
  omega

/-- A numeral can be told from what follows it. -/
theorem decimal_append_inj
    {m n : ℕ} {rest rest' : CText} (hrest : EndsNumeral rest)
    (hrest' : EndsNumeral rest')
    (h : decimal m ++ rest = decimal n ++ rest') :
    m = n ∧ rest = rest' := by
  have hm := takeDigits_decimal m hrest
  have hn := takeDigits_decimal n hrest'
  rw [h, hn] at hm
  have heq : m = n := by
    rw [← numeralValue_decimal m, ← hm, numeralValue_decimal n]
  subst heq
  exact ⟨rfl, List.append_cancel_left h⟩

/-! ## Printed arguments -/

theorem endsNumeral_nil : EndsNumeral [] := by
  decide

theorem decimal_inj {m n : ℕ} (h : decimal m = decimal n) : m = n :=
  (decimal_append_inj endsNumeral_nil endsNumeral_nil
    (congrArg (· ++ []) h)).1

theorem decimal_append_head (n : ℕ) (rest : CText) :
    (decimal n ++ rest).head? ≠ some 45 := by
  obtain ⟨d, digits, hcons, hd⟩ := exists_decimal_cons n
  rw [hcons, List.cons_append, List.head?_cons]
  rintro ⟨rfl⟩
  exact absurd hd (by decide)

/-- An optional sign in front of texts that do not begin with one. -/
theorem sign_append_inj
    {P Q : Prop} [Decidable P] [Decidable Q] {a b rest rest' : CText}
    (ha : (a ++ rest).head? ≠ some 45) (hb : (b ++ rest').head? ≠ some 45)
    (h : (if P then 45 :: a else a) ++ rest =
      (if Q then 45 :: b else b) ++ rest') :
    (P ↔ Q) ∧ a ++ rest = b ++ rest' := by
  by_cases hP : P
  · by_cases hQ : Q
    · rw [if_pos hP, if_pos hQ, List.cons_append, List.cons_append,
        List.cons.injEq] at h
      exact ⟨iff_of_true hP hQ, h.2⟩
    · rw [if_pos hP, if_neg hQ, List.cons_append] at h
      exact absurd (by rw [← h, List.head?_cons]) hb
  · by_cases hQ : Q
    · rw [if_neg hP, if_pos hQ, List.cons_append] at h
      exact absurd (by rw [h, List.head?_cons]) ha
    · rw [if_neg hP, if_neg hQ] at h
      exact ⟨iff_of_false hP hQ, h⟩

theorem signedDecimal_append_inj
    {y z : ℤ} {rest rest' : CText} (hrest : EndsNumeral rest)
    (hrest' : EndsNumeral rest')
    (h : signedDecimal y ++ rest = signedDecimal z ++ rest') :
    y = z ∧ rest = rest' := by
  obtain ⟨hsign, hbody⟩ := sign_append_inj (decimal_append_head _ rest)
    (decimal_append_head _ rest') h
  obtain ⟨habs, heq⟩ := decimal_append_inj hrest hrest' hbody
  exact ⟨by omega, heq⟩

/-- The digits of `%.1f` begin with a letter or with a numeral and a point. -/
theorem doubleBody_cases (bits : ℕ) :
    (∃ c, ¬IsDigit c ∧ c ≠ 45 ∧ (doubleBody bits).head? = some c ∧
        (doubleBody bits).length = 3) ∨
      ∃ m n, doubleBody bits = decimal m ++ 46 :: decimal n := by
  rw [doubleBody]
  split
  · split
    · exact .inl ⟨105, by decide, by decide, rfl, rfl⟩
    · exact .inl ⟨110, by decide, by decide, rfl, rfl⟩
  · exact .inr ⟨_, _, rfl⟩

theorem doubleBody_append_head (bits : ℕ) (rest : CText) :
    (doubleBody bits ++ rest).head? ≠ some 45 := by
  rcases doubleBody_cases bits with ⟨c, -, hc, hhead, -⟩ | ⟨m, n, hbody⟩
  · rw [List.head?_append, hhead, Option.some_or]
    exact fun h => hc (Option.some.inj h)
  · rw [hbody, List.append_assoc]
    exact decimal_append_head m _

theorem endsNumeral_point (text : CText) : EndsNumeral (46 :: text) := by
  intro c hc
  obtain rfl := Option.mem_some.mp hc
  decide

theorem doubleBody_append_inj
    {m n : ℕ} {rest rest' : CText} (hrest : EndsNumeral rest)
    (hrest' : EndsNumeral rest')
    (h : doubleBody m ++ rest = doubleBody n ++ rest') :
    doubleBody m = doubleBody n ∧ rest = rest' := by
  -- A letter is not the first digit of a numeral.
  have hletter : ∀ {bits : ℕ} {c : UInt8} {a b : ℕ} {rest rest' : CText},
      ¬IsDigit c → (doubleBody bits).head? = some c →
      doubleBody bits ++ rest ≠ decimal a ++ 46 :: decimal b ++ rest' := by
    intro bits c a b rest rest' hc hhead heq
    obtain ⟨d, digits, hcons, hd⟩ := exists_decimal_cons a
    have hheads := congrArg List.head? heq
    rw [List.head?_append, hhead, Option.some_or, hcons] at hheads
    exact hc (Option.some.inj hheads ▸ hd)
  rcases doubleBody_cases m with ⟨c, hc, -, hhead, hlength⟩ | ⟨a, b, hm⟩
  · rcases doubleBody_cases n with ⟨-, -, -, -, hlength'⟩ | ⟨a', b', hn⟩
    · exact List.append_inj h (hlength.trans hlength'.symm)
    · rw [hn] at h
      exact absurd h (hletter hc hhead)
  · rcases doubleBody_cases n with ⟨c, hc, -, hhead, -⟩ | ⟨a', b', hn⟩
    · rw [hm] at h
      exact absurd h.symm (hletter hc hhead)
    · rw [hm, hn] at h ⊢
      rw [List.append_assoc, List.append_assoc] at h
      obtain ⟨ha, htail⟩ := decimal_append_inj (endsNumeral_point _)
        (endsNumeral_point _) h
      obtain ⟨hb, heq⟩ := decimal_append_inj hrest hrest'
        (List.cons.inj htail).2
      rw [ha, hb]
      exact ⟨rfl, heq⟩

/-- The conversions to a fixed number of characters. -/
def Format.isHex : Format → Bool
  | .hex _ _ => true
  | _ => false

/-- A printed argument can be told from what follows it. -/
theorem Format.render_append_inj
    {format : Format} {bytes bytes' : List UInt8} {rest rest' : CText}
    (hlength : bytes.length = bytes'.length)
    (hends : format.isHex = false → EndsNumeral rest ∧ EndsNumeral rest')
    (h : format.render bytes ++ rest = format.render bytes' ++ rest') :
    format.render bytes = format.render bytes' ∧ rest = rest' := by
  cases format with
  | u8 =>
      obtain ⟨hvalue, heq⟩ := decimal_append_inj (hends rfl).1 (hends rfl).2 h
      exact ⟨congrArg decimal hvalue, heq⟩
  | u64 =>
      obtain ⟨hvalue, heq⟩ := decimal_append_inj (hends rfl).1 (hends rfl).2 h
      exact ⟨congrArg decimal hvalue, heq⟩
  | int =>
      obtain ⟨hvalue, heq⟩ :=
        signedDecimal_append_inj (hends rfl).1 (hends rfl).2 h
      exact ⟨congrArg signedDecimal hvalue, heq⟩
  | hex width upper =>
      refine List.append_inj h ?_
      simp [render, hexByte, List.length_flatMap, hlength]
  | double =>
      obtain ⟨hsign, hbody⟩ := sign_append_inj (doubleBody_append_head _ rest)
        (doubleBody_append_head _ rest') h
      obtain ⟨hvalue, heq⟩ :=
        doubleBody_append_inj (hends rfl).1 (hends rfl).2 hbody
      refine ⟨?_, heq⟩
      rw [render, render, fixedDouble, fixedDouble, hvalue]
      simp only [hsign]

theorem hexByte_inj {upper : Bool} {a b : UInt8}
    (h : hexByte upper a = hexByte upper b) : a = b := by
  have hdigit : ∀ (upper : Bool) (m n : Fin 16),
      hexDigit upper m = hexDigit upper n → m = n := by
    decide
  have ha : a.toNat < 256 := a.toNat_lt
  have hb : b.toNat < 256 := b.toNat_lt
  simp only [hexByte, List.cons.injEq, and_true] at h
  have hhigh := hdigit upper ⟨a.toNat / 16, by omega⟩ ⟨b.toNat / 16, by omega⟩
    h.1
  have hlow := hdigit upper ⟨a.toNat % 16, by omega⟩ ⟨b.toNat % 16, by omega⟩
    h.2
  rw [Fin.mk.injEq] at hhigh hlow
  exact UInt8.toNat_inj.mp (by omega)

theorem flatMap_hexByte_inj {upper : Bool} {xs ys : List UInt8}
    (h : xs.flatMap (hexByte upper) = ys.flatMap (hexByte upper)) :
    xs = ys := by
  induction xs generalizing ys with
  | nil =>
      rcases ys with _ | ⟨y, ys⟩
      · rfl
      · exact absurd h (by simp [hexByte])
  | cons x xs ih =>
      rcases ys with _ | ⟨y, ys⟩
      · exact absurd h (by simp [hexByte])
      · rw [List.flatMap_cons, List.flatMap_cons] at h
        obtain ⟨hbyte, hrest⟩ := List.append_inj h rfl
        rw [hexByte_inj hbyte, ih hrest]

theorem leValue_leBytes (width n : ℕ) :
    leValue (leBytes width n) = n % 256 ^ width := by
  induction width generalizing n with
  | zero => simp [leBytes, leValue, Nat.mod_one]
  | succ width ih =>
      have hlow : (UInt8.ofNat n).toNat = n % 256 := UInt8.toNat_ofNat'
      rw [leBytes, leValue, ih, hlow, pow_succ', Nat.mod_mul]

theorem leValue_inj {xs ys : List UInt8} (hlength : xs.length = ys.length)
    (h : leValue xs = leValue ys) : xs = ys := by
  rw [← leBytes_leValue hlength, h, leBytes_leValue rfl]

/-- Except for `%.1f`, the text of an argument determines its bytes. -/
theorem Format.render_inj
    {format : Format} (hformat : format ≠ .double) {bytes bytes' : List UInt8}
    (hlength : bytes.length = format.width)
    (hlength' : bytes'.length = format.width)
    (h : format.render bytes = format.render bytes') :
    bytes = bytes' := by
  have hlengths := hlength.trans hlength'.symm
  cases format with
  | u8 => exact leValue_inj hlengths (decimal_inj h)
  | u64 => exact leValue_inj hlengths (decimal_inj h)
  | int =>
      have hvalue := (signedDecimal_append_inj endsNumeral_nil
        endsNumeral_nil (congrArg (· ++ []) h)).1
      have hlt := leValue_lt bytes
      have hlt' := leValue_lt bytes'
      rw [hlength, width] at hlt
      rw [hlength', width] at hlt'
      rw [Int.bmod_def, Int.bmod_def] at hvalue
      exact leValue_inj hlengths (by omega)
  | hex width upper => exact List.reverse_inj.mp (flatMap_hexByte_inj h)
  | double => exact absurd rfl hformat

end SmartSurf.C
