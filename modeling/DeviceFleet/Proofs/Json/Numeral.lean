/-
# The texts of numbers

A number is written as a sign, whole digits with no zero in front, a fraction and an exponent, of
which only the whole digits have to be there.  Passing over a number takes any such text
(`Numeral.skipScalar_text`).  Only a whole number without sign, fraction and exponent that fits into
64 bits is read as a natural number; every other number is read as something else, if it is not
refused (`Numeral.readNumber_text`).  So a port is read from the digits of a number below `2 ^ 16`
and from no other number (`Numeral.answers`).
-/
import DeviceFleet.Json.Writer
import DeviceFleet.Proofs.Json.Reading

namespace DeviceFleet.Json

variable {s t rest : List Char}

/-! ## Digits -/

lemma startsWithDigit_of_endsNumber (h : EndsNumber rest) : startsWithDigit rest = false := by
  rcases rest with _ | ⟨c, rest⟩
  · rfl
  · have hc : continuesNumber c = false := h c rfl
    simp only [continuesNumber, Bool.or_eq_false_iff] at hc
    exact hc.1.1.1

lemma skipDigits_of_digits {digits : List Char} (hdigits : ∀ d ∈ digits, d.isDigit = true)
    (hs : startsWithDigit s = false) : skipDigits (digits ++ s) = s := by
  rw [skipDigits, List.dropWhile_append_of_pos hdigits]
  rcases s with _ | ⟨c, s⟩
  · rfl
  · have hc : c.isDigit = false := hs
    exact List.dropWhile_cons_of_neg (by simp [hc])

lemma le_ofDigitChars (digits : List Char) (value : Nat) :
    value ≤ Nat.ofDigitChars 10 digits value := by
  have hpow : 0 < 10 ^ digits.length := Nat.pow_pos (by decide)
  have hle := Nat.le_mul_of_pos_left value hpow
  rw [Nat.ofDigitChars_eq_ofDigitChars_zero]
  omega

/-- Digits are read up to their end if their number stays within the limit; otherwise a digit is
left. -/
lemma readDigits_of_digits {limit value : Nat} {digits : List Char}
    (hdigits : ∀ d ∈ digits, d.isDigit = true) (hs : startsWithDigit s = false)
    (hvalue : value ≤ limit) :
    if Nat.ofDigitChars 10 digits value ≤ limit then
      readDigits limit value (digits ++ s) = (Nat.ofDigitChars 10 digits value, s)
    else startsWithDigit (readDigits limit value (digits ++ s)).2 = true := by
  induction digits generalizing value with
  | nil =>
    rw [List.nil_append, Nat.ofDigitChars_nil, if_pos hvalue]
    rcases s with _ | ⟨c, s⟩
    · rfl
    · have hc : c.isDigit = false := hs
      rw [readDigits, if_neg (by simp [hc])]
  | cons d digits ih =>
    obtain ⟨hd, hdigits⟩ := List.forall_mem_cons.mp hdigits
    have hnext : 10 * value + (d.toNat - '0'.toNat) = value * 10 + digitValue d := by
      rw [Nat.mul_comm]
      rfl
    rw [Nat.ofDigitChars_cons, hnext, List.cons_append]
    by_cases hlimit : value * 10 + digitValue d ≤ limit
    · have hstep : readDigits limit value (d :: (digits ++ s)) =
          readDigits limit (value * 10 + digitValue d) (digits ++ s) := by
        rw [readDigits, if_pos (by simp [hd, hlimit])]
      rw [hstep]
      exact ih hdigits hlimit
    · have hstop : readDigits limit value (d :: (digits ++ s)) = (value, d :: (digits ++ s)) := by
        rw [readDigits, if_neg (by simp [hlimit])]
      have hle := le_ofDigitChars digits (value * 10 + digitValue d)
      rw [if_neg (by omega), hstop]
      exact hd

/-! ## Whole numbers -/

/-- Digits as they are written for a number: one zero alone, or the first is not zero. -/
inductive Canonical : Nat → List Char → Prop
  | zero : Canonical 0 ['0']
  | positive {c : Char} {digits : List Char} {n : Nat} (hc : c.isDigit = true) (hzero : c ≠ '0')
      (hdigits : ∀ d ∈ digits, d.isDigit = true)
      (hvalue : Nat.ofDigitChars 10 digits (digitValue c) = n) : Canonical n (c :: digits)

lemma decimalDigits_eq (n : Nat) : Decimal.decimalDigits n = Nat.toDigits 10 n := by
  rw [Decimal.decimalDigits, Nat.repr_eq_ofList_toDigits, String.toList_ofList]

/-- A number above zero is not written with a zero in front. -/
lemma head?_toDigits_ne {n : Nat} (hn : 0 < n) : (Nat.toDigits 10 n).head? ≠ some '0' := by
  induction n using Nat.strongRecOn with
  | ind n ih =>
    by_cases hsmall : n < 10
    · rw [Nat.toDigits_of_lt_base hsmall]
      simp only [List.head?_cons, ne_eq, Option.some.injEq, Nat.digitChar_eq_zero]
      omega
    · have hfirst := ih (n / 10) (by omega) (by omega)
      rw [Nat.toDigits_of_base_le (by decide) (by omega)]
      cases hd : Nat.toDigits 10 (n / 10) with
      | nil => exact absurd hd Nat.toDigits_ne_nil
      | cons c digits => rwa [hd] at hfirst

lemma canonical_writeNat (n : Nat) : Canonical n (writeNat n) := by
  rw [writeNat, decimalDigits_eq]
  rcases Nat.eq_zero_or_pos n with rfl | hn
  · exact .zero
  · have hall : ∀ c ∈ Nat.toDigits 10 n, c.isDigit = true :=
      fun c hc => Nat.isDigit_of_mem_toDigits (by decide) (by decide) hc
    have hvalue := Nat.ofDigitChars_ten_toDigits (n := n)
    have hhead := head?_toDigits_ne hn
    cases hd : Nat.toDigits 10 n with
    | nil => exact absurd hd Nat.toDigits_ne_nil
    | cons c digits =>
      rw [hd] at hall hvalue hhead
      refine .positive (hall c List.mem_cons_self) (fun hc => hhead (by rw [hc]; rfl))
        (fun d hmem => hall d (List.mem_cons_of_mem c hmem)) ?_
      rw [Nat.ofDigitChars_cons] at hvalue
      simpa [digitValue] using hvalue

lemma writeNat_injective : Function.Injective writeNat := by
  intro m n h
  rw [writeNat, writeNat, decimalDigits_eq, decimalDigits_eq] at h
  calc
    m = Nat.ofDigitChars 10 (Nat.toDigits 10 m) 0 := Nat.ofDigitChars_ten_toDigits.symm
    _ = Nat.ofDigitChars 10 (Nat.toDigits 10 n) 0 := by rw [h]
    _ = n := Nat.ofDigitChars_ten_toDigits

/-- A written number starts with a digit. -/
lemma exists_writeNat_eq (n : Nat) : ∃ c digits, writeNat n = c :: digits ∧ c.isDigit = true := by
  have hcanonical := canonical_writeNat n
  generalize writeNat n = digits at hcanonical ⊢
  cases hcanonical with
  | zero => exact ⟨_, _, rfl, rfl⟩
  | positive hc => exact ⟨_, _, rfl, hc⟩

lemma ne_of_isDigit {c : Char} (hc : c.isDigit = true) {d : Char} (hd : d.isDigit = false) :
    c ≠ d := by
  rintro rfl
  rw [hc] at hd
  cases hd

lemma isSpace_of_isDigit {c : Char} (hc : c.isDigit = true) : isSpace c = false := by
  simp [isSpace, ne_of_isDigit hc]

lemma digitValue_le {c : Char} (hc : c.isDigit = true) : digitValue c ≤ largestWord := by
  have h9 : c.toNat ≤ 57 := by
    simp only [Char.isDigit, Bool.and_eq_true, decide_eq_true_eq] at hc
    exact hc.2
  have hword : 9 ≤ largestWord := by decide
  rw [digitValue]
  omega

lemma skipUnsigned_writeNat (n : Nat) (hs : startsWithDigit s = false) :
    skipUnsigned (writeNat n ++ s) = skipAfterDigits s := by
  have hcanonical := canonical_writeNat n
  generalize writeNat n = digits at hcanonical
  cases hcanonical with
  | zero => rw [List.singleton_append, skipUnsigned, if_pos rfl, if_neg (by simp [hs])]
  | positive hc hzero hdigits hvalue =>
    rw [List.cons_append, skipUnsigned, if_neg hzero, if_pos hc, skipDigits_of_digits hdigits hs]

/-- Whole digits are read exactly if their number fits into 64 bits, and rounded otherwise. -/
lemma readUnsigned_writeNat (negative : Bool) (n : Nat) (hs : startsWithDigit s = false) :
    if n ≤ largestWord then
      readUnsigned negative (writeNat n ++ s) =
        readAfterDigits negative n 0 (wholeNumber negative n s) s
    else ∃ m power beyond, readUnsigned negative (writeNat n ++ s) =
      readAfterDigits negative m power (rounded negative m power beyond) beyond := by
  have hcanonical := canonical_writeNat n
  generalize writeNat n = digits at hcanonical
  cases hcanonical with
  | zero =>
    rw [if_pos (by decide), List.singleton_append, readUnsigned, if_pos rfl, if_neg (by simp [hs])]
  | @positive c digits _ hc hzero hdigits hvalue =>
    subst hvalue
    have hread := readDigits_of_digits hdigits hs (digitValue_le hc)
    rw [List.cons_append, readUnsigned, if_neg hzero, if_pos hc]
    by_cases hlimit : Nat.ofDigitChars 10 digits (digitValue c) ≤ largestWord
    · rw [if_pos hlimit] at hread ⊢
      simp only [hread, hs, Bool.false_eq_true, if_false]
    · rw [if_neg hlimit] at hread ⊢
      simp only [hread, if_true]
      exact ⟨_, _, _, rfl⟩

/-! ## Numerals -/

/-- Digits after a point or a letter, of which there is at least one. -/
structure Digits where
  /-- The first digit. -/
  first : Char
  /-- The others. -/
  others : List Char
  /-- The first is a digit. -/
  isDigit_first : first.isDigit = true
  /-- The others are digits. -/
  isDigit_others : ∀ d ∈ others, d.isDigit = true

/-- The text of digits. -/
def Digits.text (d : Digits) : List Char := d.first :: d.others

/-- An exponent. -/
structure Exponent where
  /-- Its letter is a capital. -/
  capital : Bool
  /-- Its sign, if it has one: a plus or a minus. -/
  plus? : Option Bool
  /-- Its digits. -/
  digits : Digits

/-- The sign of an exponent. -/
def Exponent.sign (e : Exponent) : List Char :=
  match e.plus? with
  | none => []
  | some true => ['+']
  | some false => ['-']

/-- The text of an exponent. -/
def Exponent.text (e : Exponent) : List Char :=
  (if e.capital then 'E' else 'e') :: (e.sign ++ e.digits.text)

/-- A number as it is spelled. -/
structure Numeral where
  /-- It has a sign. -/
  negative : Bool
  /-- The number of its whole digits. -/
  whole : Nat
  /-- Its fraction, if it has one. -/
  fraction? : Option Digits
  /-- Its exponent, if it has one. -/
  exponent? : Option Exponent

namespace Numeral

/-- A whole number without sign. -/
def ofNat (n : Nat) : Numeral := ⟨false, n, none, none⟩

/-- The text of the exponent, if there is one. -/
def exponentText (n : Numeral) : List Char := n.exponent?.elim [] Exponent.text

/-- The text behind the whole digits. -/
def tail (n : Numeral) : List Char :=
  n.fraction?.elim n.exponentText fun d => '.' :: (d.text ++ n.exponentText)

/-- The text of a number without its sign. -/
def unsigned (n : Numeral) : List Char := writeNat n.whole ++ n.tail

/-- The text of a number. -/
def text (n : Numeral) : List Char := if n.negative then '-' :: n.unsigned else n.unsigned

lemma text_ofNat (n : Nat) : (ofNat n).text = writeNat n := List.append_nil _

end Numeral

/-! ### Passing over numerals -/

lemma Digits.startsWithDigit_text (d : Digits) (s : List Char) :
    startsWithDigit (d.text ++ s) = true :=
  d.isDigit_first

lemma Digits.skipDigits_text (d : Digits) (hs : startsWithDigit s = false) :
    skipDigits (d.text ++ s) = s :=
  skipDigits_of_digits (List.forall_mem_cons.mpr ⟨d.isDigit_first, d.isDigit_others⟩) hs

/-- The sign of an exponent is taken off its digits. -/
lemma Exponent.readExponentSign_sign (e : Exponent) (s : List Char) :
    (readExponentSign (e.sign ++ (e.digits.text ++ s))).2 = e.digits.text ++ s := by
  rcases hplus : e.plus? with _ | _ | _
  · rw [Exponent.sign, hplus, Digits.text, List.nil_append, List.cons_append]
    unfold readExponentSign
    split
    · next h => exact absurd (List.cons.inj h).1 (ne_of_isDigit e.digits.isDigit_first (by decide))
    · next h => exact absurd (List.cons.inj h).1 (ne_of_isDigit e.digits.isDigit_first (by decide))
    · rfl
  · rw [Exponent.sign, hplus]
    rfl
  · rw [Exponent.sign, hplus]
    rfl

lemma Exponent.skipExponent_digits (e : Exponent) (hs : startsWithDigit s = false) :
    skipExponent (e.sign ++ (e.digits.text ++ s)) = .ok s := by
  simp only [skipExponent, e.readExponentSign_sign, e.digits.startsWithDigit_text, if_true,
    e.digits.skipDigits_text hs]

namespace Numeral

lemma startsWithDigit_exponentText (n : Numeral) (hrest : EndsNumber rest) :
    startsWithDigit (n.exponentText ++ rest) = false := by
  rcases he : n.exponent? with _ | e
  · rw [exponentText, he]
    exact startsWithDigit_of_endsNumber hrest
  · rw [exponentText, he]
    cases hcapital : e.capital <;> simp [Exponent.text, hcapital, startsWithDigit]

/-- Behind its whole digits a number does not go on with a digit. -/
lemma startsWithDigit_tail (n : Numeral) (hrest : EndsNumber rest) :
    startsWithDigit (n.tail ++ rest) = false := by
  rcases hd : n.fraction? with _ | d
  · rw [tail, hd]
    exact n.startsWithDigit_exponentText hrest
  · rw [tail, hd]
    rfl

lemma skipFraction_digits (n : Numeral) (d : Digits) (hrest : EndsNumber rest) :
    skipFraction (d.text ++ (n.exponentText ++ rest)) = .ok rest := by
  have hstart := n.startsWithDigit_exponentText hrest
  rw [skipFraction, if_pos (d.startsWithDigit_text _)]
  simp only [d.skipDigits_text hstart]
  rcases he : n.exponent? with _ | e
  · rw [exponentText, he, Option.elim_none, List.nil_append]
    rcases rest with _ | ⟨c, rest⟩
    · rfl
    · have hc : continuesNumber c = false := hrest c rfl
      simp only [continuesNumber, Bool.or_eq_false_iff, beq_eq_false_iff_ne] at hc
      simp [hc]
  · have hskip := e.skipExponent_digits (startsWithDigit_of_endsNumber hrest)
    rw [exponentText, he, Option.elim_some, Exponent.text, List.cons_append, List.append_assoc]
    cases hcapital : e.capital <;> simp [hskip]

lemma skipAfterDigits_tail (n : Numeral) (hrest : EndsNumber rest) :
    skipAfterDigits (n.tail ++ rest) = .ok rest := by
  rcases hd : n.fraction? with _ | d
  · rw [tail, hd, Option.elim_none]
    rcases he : n.exponent? with _ | e
    · rw [exponentText, he, Option.elim_none, List.nil_append]
      rcases rest with _ | ⟨c, rest⟩
      · rfl
      · have hc : continuesNumber c = false := hrest c rfl
        simp only [continuesNumber, Bool.or_eq_false_iff, beq_eq_false_iff_ne] at hc
        simp [skipAfterDigits, hc]
    · have hskip := e.skipExponent_digits (startsWithDigit_of_endsNumber hrest)
      rw [exponentText, he, Option.elim_some, Exponent.text, List.cons_append, List.append_assoc]
      cases hcapital : e.capital <;> simp [skipAfterDigits, hskip]
  · rw [tail, hd, Option.elim_some, List.cons_append, List.append_assoc, skipAfterDigits,
      if_pos rfl, n.skipFraction_digits d hrest]

lemma skipUnsigned_unsigned (n : Numeral) (hrest : EndsNumber rest) :
    skipUnsigned (n.unsigned ++ rest) = .ok rest := by
  rw [unsigned, List.append_assoc, skipUnsigned_writeNat _ (n.startsWithDigit_tail hrest),
    n.skipAfterDigits_tail hrest]

lemma exists_unsigned_eq (n : Numeral) : ∃ c s, n.unsigned = c :: s ∧ c.isDigit = true := by
  obtain ⟨c, digits, hwritten, hc⟩ := exists_writeNat_eq n.whole
  exact ⟨c, digits ++ n.tail, by rw [unsigned, hwritten, List.cons_append], hc⟩

/-- A number starts with its sign or a digit. -/
lemma exists_text_eq (n : Numeral) :
    ∃ c s, n.text = c :: s ∧ (c = '-' ∨ c.isDigit = true) := by
  obtain ⟨c, s, hunsigned, hc⟩ := n.exists_unsigned_eq
  cases hnegative : n.negative with
  | true => exact ⟨'-', n.unsigned, by rw [text, if_pos hnegative], .inl rfl⟩
  | false => exact ⟨c, s, by rw [text, if_neg (by simp [hnegative]), hunsigned], .inr hc⟩

/-- **Passing over a number takes its text**, if it does not go on behind it. -/
theorem skipScalar_text (n : Numeral) (hrest : EndsNumber rest) :
    skipScalar (n.text ++ rest) = .ok rest := by
  have hskip := n.skipUnsigned_unsigned hrest
  cases hnegative : n.negative with
  | true =>
    rw [text, if_pos hnegative]
    exact hskip
  | false =>
    obtain ⟨c, s, hunsigned, hc⟩ := n.exists_unsigned_eq
    rw [text, if_neg (by simp [hnegative])]
    rw [hunsigned, List.cons_append] at hskip ⊢
    rw [skipScalar]
    · rw [if_pos hc, hskip]
    -- a digit starts no word and no string, and it is no sign
    all_goals exact ne_of_isDigit hc (by decide)

end Numeral

/-! ### Reading numerals -/

/-- What was read is no natural number. -/
def NeverNatural (reading : Reading Number) : Prop := ∀ m rest, reading ≠ .ok (.natural m, rest)

section NeverNatural

variable {negative : Bool} {m : Nat} {power : Int} {exact : Reading Number}

lemma neverNatural_error {e : Failure} : NeverNatural (.error e) := by
  intro m rest h
  cases h

lemma neverNatural_rounded : NeverNatural (rounded negative m power s) := by
  intro n rest h
  unfold rounded at h
  split at h <;> cases h

lemma neverNatural_readExponent : NeverNatural (readExponent negative m power s) := by
  unfold readExponent
  simp only
  split
  · exact neverNatural_error
  · split
    · split
      · split
        · split
          · intro n rest h
            cases h
          · exact neverNatural_error
        · exact neverNatural_rounded
      · exact neverNatural_rounded
    · exact neverNatural_error

lemma neverNatural_readAfterFraction : NeverNatural (readAfterFraction negative m power s) := by
  unfold readAfterFraction
  split
  · split
    · exact neverNatural_readExponent
    · exact neverNatural_rounded
  · exact neverNatural_rounded

lemma neverNatural_readFraction : NeverNatural (readFraction negative m power s) := by
  unfold readFraction
  simp only
  split
  · exact neverNatural_readAfterFraction
  · split
    · split <;> exact neverNatural_error
    · exact neverNatural_readAfterFraction

lemma neverNatural_readAfterDigits (hexact : NeverNatural exact) :
    NeverNatural (readAfterDigits negative m power exact s) := by
  unfold readAfterDigits
  split
  · split
    · exact neverNatural_readFraction
    · split
      · exact neverNatural_readExponent
      · exact hexact
  · exact hexact

lemma neverNatural_wholeNumber : NeverNatural (wholeNumber true m s) := by
  unfold wholeNumber
  rw [if_neg (by decide)]
  split
  · intro n rest h
    cases h
  · exact neverNatural_rounded

/-- A fraction or an exponent makes a number rounded. -/
lemma Numeral.neverNatural_tail {n : Numeral} (h : n.fraction? ≠ none ∨ n.exponent? ≠ none)
    (rest : List Char) :
    NeverNatural (readAfterDigits negative m power exact (n.tail ++ rest)) := by
  rcases hd : n.fraction? with _ | d
  · rcases he : n.exponent? with _ | e
    · simp [hd, he] at h
    · rw [tail, hd, Option.elim_none, exponentText, he, Option.elim_some, Exponent.text,
        List.cons_append, readAfterDigits]
      cases hcapital : e.capital
      · rw [if_neg Bool.false_ne_true, if_neg (by decide), if_pos (by decide)]
        exact neverNatural_readExponent
      · rw [if_pos rfl, if_neg (by decide), if_pos (by decide)]
        exact neverNatural_readExponent
  · rw [tail, hd, Option.elim_some, List.cons_append, readAfterDigits, if_pos rfl]
    exact neverNatural_readFraction

end NeverNatural

namespace Numeral

lemma readNumber_text_of_negative {n : Numeral} (h : n.negative = true) (rest : List Char) :
    readNumber (n.text ++ rest) = readUnsigned true (n.unsigned ++ rest) := by
  rw [text, if_pos h]
  rfl

lemma readNumber_text_of_unsigned {n : Numeral} (h : n.negative = false) (rest : List Char) :
    readNumber (n.text ++ rest) = readUnsigned false (n.unsigned ++ rest) := by
  obtain ⟨c, s, hunsigned, hc⟩ := n.exists_unsigned_eq
  rw [text, if_neg (by simp [h]), hunsigned, List.cons_append, readNumber]
  rintro r heq
  exact ne_of_isDigit hc (by decide) (List.cons.inj heq).1

/-- Whole numbers that fit into 64 bits are read exactly. -/
lemma readNumber_ofNat {m : Nat} (hm : m ≤ largestWord) (hrest : EndsNumber rest) :
    readNumber ((ofNat m).text ++ rest) = .ok (.natural m, rest) := by
  have hread := readUnsigned_writeNat false m (startsWithDigit_of_endsNumber hrest)
  have hunsigned : (ofNat m).unsigned = writeNat m := text_ofNat m
  rw [if_pos hm] at hread
  rw [readNumber_text_of_unsigned rfl, hunsigned, hread]
  rcases rest with _ | ⟨c, rest⟩
  · rfl
  · have hc : continuesNumber c = false := hrest c rfl
    simp only [continuesNumber, Bool.or_eq_false_iff, beq_eq_false_iff_ne] at hc
    simp [readAfterDigits, hc, wholeNumber]

/-- No other number is read as a natural number. -/
lemma neverNatural_readNumber {n : Numeral} (h : ∀ m ≤ largestWord, n ≠ ofNat m)
    (hrest : EndsNumber rest) : NeverNatural (readNumber (n.text ++ rest)) := by
  have hread := fun negative =>
    readUnsigned_writeNat negative n.whole (n.startsWithDigit_tail hrest)
  by_cases hlimit : n.whole ≤ largestWord
  · simp only [if_pos hlimit] at hread
    cases hnegative : n.negative with
    | true =>
      rw [readNumber_text_of_negative hnegative, unsigned, List.append_assoc, hread]
      exact neverNatural_readAfterDigits neverNatural_wholeNumber
    | false =>
      rw [readNumber_text_of_unsigned hnegative, unsigned, List.append_assoc, hread]
      refine neverNatural_tail ?_ rest
      by_contra hplain
      obtain ⟨hfraction, hexponent⟩ := not_or.mp hplain
      refine h n.whole hlimit ?_
      obtain ⟨negative, whole, fraction?, exponent?⟩ := n
      simp_all [ofNat]
  · simp only [if_neg hlimit] at hread
    cases hnegative : n.negative with
    | true =>
      obtain ⟨m, power, beyond, hread⟩ := hread true
      rw [readNumber_text_of_negative hnegative, unsigned, List.append_assoc, hread]
      exact neverNatural_readAfterDigits neverNatural_rounded
    | false =>
      obtain ⟨m, power, beyond, hread⟩ := hread false
      rw [readNumber_text_of_unsigned hnegative, unsigned, List.append_assoc, hread]
      exact neverNatural_readAfterDigits neverNatural_rounded

lemma portReader_read_text (n : Numeral) {gap : List Char} (hgap : Gap gap) (rest : List Char) :
    portReader.read (gap ++ (n.text ++ rest)) =
      match readNumber (n.text ++ rest) with
      | .error e => .error e
      | .ok (n, rest) => portOf n rest := by
  obtain ⟨c, s, htext, hc⟩ := n.exists_text_eq
  have hspace : isSpace c = false := by
    rcases hc with rfl | hc
    · rfl
    · exact isSpace_of_isDigit hc
  rw [htext, List.cons_append]
  simp only [portReader, skipSpace_gap_cons hgap hspace]
  refine (if_pos ?_).trans rfl
  simpa using hc

/-- **A port is read from the digits of a number below `2 ^ 16`**, and from no other number. -/
theorem answers (n : Numeral) : ∃ answer, portReader.Answers n.text answer ∧
    ∀ port, answer = some port ↔ n = ofNat port.toNat := by
  have hword : 65535 ≤ largestWord := by decide
  by_cases hnatural : ∃ m ≤ largestWord, n = ofNat m
  · obtain ⟨m, hm, rfl⟩ := hnatural
    refine ⟨if m ≤ 65535 then some m.toUInt16 else none, ?_, ?_⟩
    · intro gap rest hgap hrest
      rw [portReader_read_text _ hgap, readNumber_ofNat hm hrest]
      simp only [portOf]
      split <;> rfl
    · intro port
      have hport := port.toNat_lt
      simp only [ofNat, Numeral.mk.injEq, true_and, and_true]
      split
      · next hle =>
        have hsmall : m < UInt16.size := Nat.lt_succ_of_le hle
        rw [Option.some.injEq, ← UInt16.toNat_inj, UInt16.toNat_ofNat_of_lt' hsmall]
      · next hle =>
        simp only [reduceCtorEq, false_iff]
        omega
  · refine ⟨none, ?_, ?_⟩
    · intro gap rest hgap hrest
      have hnever := neverNatural_readNumber (n := n)
        (fun m hm heq => hnatural ⟨m, hm, heq⟩) hrest
      rw [portReader_read_text _ hgap]
      rcases hread : readNumber (n.text ++ rest) with e | ⟨number, r⟩
      · rfl
      · cases number with
        | natural m => exact absurd hread (hnever m r)
        | negative m => rfl
        | real minus x => rfl
    · intro port
      have hport := port.toNat_lt
      simp only [reduceCtorEq, false_iff]
      intro heq
      exact hnatural ⟨port.toNat, by omega, heq⟩

end Numeral

end DeviceFleet.Json
