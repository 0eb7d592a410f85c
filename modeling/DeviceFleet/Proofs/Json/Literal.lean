/-
# Number literals

The grammar of numbers, told by texts alone: a sign or none, whole digits with no zero in front, and
a fraction and an exponent, which may both be missing (`NumberText`).  These are the texts of
numerals (`numberText_iff`), since digits with no zero in front are those that are written for the
number that they spell (`WholeText.eq_writeNat`).

So a literal is the text of a port exactly if it is whole digits alone and their number fits into 16
bits (`exists_port_iff`), and a value that it spells is a port exactly if it is the text of one
(`isPort_iff`).
-/
import DeviceFleet.Proofs.Json.Spelling

namespace DeviceFleet.Json

variable {t : List Char}

/-! ## Whole digits -/

/-- Whole digits: a zero alone, or digits of which the first is not zero. -/
inductive WholeText : List Char → Prop
  | zero : WholeText ['0']
  | positive {c : Char} {digits : List Char} (hc : c.isDigit = true) (hzero : c ≠ '0')
      (hdigits : ∀ d ∈ digits, d.isDigit = true) : WholeText (c :: digits)

/-- The number that digits spell. -/
def numberOf (digits : List Char) : ℕ := Nat.ofDigitChars 10 digits 0

lemma toNat_of_isDigit {c : Char} (hc : c.isDigit = true) : 48 ≤ c.toNat ∧ c.toNat ≤ 57 :=
  Char.isDigit_iff_toNat.mp hc

lemma digitValue_lt {c : Char} (hc : c.isDigit = true) : digitValue c < 10 := by
  obtain ⟨hlow, hhigh⟩ := toNat_of_isDigit hc
  rw [digitValue]
  omega

lemma digitValue_pos {c : Char} (hc : c.isDigit = true) (hzero : c ≠ '0') : 0 < digitValue c := by
  obtain ⟨hlow, hhigh⟩ := toNat_of_isDigit hc
  have hne : c.toNat ≠ 48 := fun h => hzero (Char.toNat_inj.mp h)
  rw [digitValue]
  omega

lemma toDigits_digitValue {c : Char} (hc : c.isDigit = true) :
    Nat.toDigits 10 (digitValue c) = [c] := by
  obtain ⟨hlow, hhigh⟩ := toNat_of_isDigit hc
  have hchar : (digitValue c).digitChar.toNat = c.toNat := by
    rw [Nat.toNat_digitChar_of_lt_ten (digitValue_lt hc), digitValue]
    omega
  rw [Nat.toDigits_of_lt_base (digitValue_lt hc), Char.toNat_inj.mp hchar]

/-- Digits behind those of a number above zero make those of the number that they spell together. -/
lemma toDigits_append {n : ℕ} (hn : 0 < n) {digits : List Char}
    (hdigits : ∀ d ∈ digits, d.isDigit = true) :
    Nat.toDigits 10 n ++ digits = Nat.toDigits 10 (Nat.ofDigitChars 10 digits n) := by
  induction digits generalizing n with
  | nil => rw [List.append_nil, Nat.ofDigitChars_nil]
  | cons d digits ih =>
    obtain ⟨hd, hdigits⟩ := List.forall_mem_cons.mp hdigits
    have hvalue : d.toNat - '0'.toNat = digitValue d := rfl
    calc
      Nat.toDigits 10 n ++ d :: digits
          = Nat.toDigits 10 n ++ Nat.toDigits 10 (digitValue d) ++ digits := by
        rw [toDigits_digitValue hd, List.append_assoc, List.singleton_append]
      _ = Nat.toDigits 10 (10 * n + digitValue d) ++ digits := by
        rw [Nat.toDigits_append_toDigits (by decide) hn (digitValue_lt hd)]
      _ = Nat.toDigits 10 (Nat.ofDigitChars 10 (d :: digits) n) := by
        rw [ih (by omega) hdigits, Nat.ofDigitChars_cons, hvalue]

/-- **Whole digits are those that are written for their number.** -/
theorem WholeText.eq_writeNat (h : WholeText t) : t = writeNat (numberOf t) := by
  rw [writeNat, decimalDigits_eq]
  cases h with
  | zero => rfl
  | @positive c digits hc hzero hdigits =>
    calc
      c :: digits = Nat.toDigits 10 (digitValue c) ++ digits := by
        rw [toDigits_digitValue hc, List.singleton_append]
      _ = Nat.toDigits 10 (Nat.ofDigitChars 10 digits (digitValue c)) :=
        toDigits_append (digitValue_pos hc hzero) hdigits
      _ = Nat.toDigits 10 (numberOf (c :: digits)) := by
        rw [numberOf, Nat.ofDigitChars_cons, Nat.mul_zero, Nat.zero_add]
        rfl

lemma wholeText_writeNat (n : ℕ) : WholeText (writeNat n) := by
  have hcanonical := canonical_writeNat n
  generalize writeNat n = digits at hcanonical
  cases hcanonical with
  | zero => exact .zero
  | positive hc hzero hdigits => exact .positive hc hzero hdigits

lemma numberOf_writeNat (n : ℕ) : numberOf (writeNat n) = n := by
  rw [writeNat, decimalDigits_eq]
  exact Nat.ofDigitChars_ten_toDigits

/-! ## Numbers -/

/-- The texts that are numbers. -/
inductive NumberText : List Char → Prop
  | mk {sign whole fraction exponent : List Char} (hsign : sign = [] ∨ sign = ['-'])
      (hwhole : WholeText whole)
      (hfraction : fraction = [] ∨ ∃ d : Digits, fraction = '.' :: d.text)
      (hexponent : exponent = [] ∨ ∃ e : Exponent, exponent = e.text) :
      NumberText (sign ++ (whole ++ (fraction ++ exponent)))

lemma Numeral.text_eq (n : Numeral) :
    n.text = (if n.negative then ['-'] else []) ++ (writeNat n.whole ++
      (n.fraction?.elim [] (fun d => '.' :: d.text) ++ n.exponent?.elim [] Exponent.text)) := by
  obtain ⟨negative, whole, fraction?, exponent?⟩ := n
  cases negative <;> cases fraction? <;> rfl

/-- **The numbers are the texts of numerals.** -/
theorem numberText_iff : NumberText t ↔ ∃ n : Numeral, n.text = t := by
  constructor
  · rintro (@⟨sign, whole, fraction, exponent, hsign, hwhole, hfraction, hexponent⟩)
    obtain ⟨negative, rfl⟩ : ∃ negative : Bool, sign = if negative then ['-'] else [] := by
      rcases hsign with rfl | rfl
      · exact ⟨false, rfl⟩
      · exact ⟨true, rfl⟩
    obtain ⟨fraction?, rfl⟩ :
        ∃ d? : Option Digits, fraction = d?.elim [] fun d => '.' :: d.text := by
      rcases hfraction with rfl | ⟨d, rfl⟩
      · exact ⟨none, rfl⟩
      · exact ⟨some d, rfl⟩
    obtain ⟨exponent?, rfl⟩ : ∃ e? : Option Exponent, exponent = e?.elim [] Exponent.text := by
      rcases hexponent with rfl | ⟨e, rfl⟩
      · exact ⟨none, rfl⟩
      · exact ⟨some e, rfl⟩
    refine ⟨⟨negative, numberOf whole, fraction?, exponent?⟩, ?_⟩
    rw [Numeral.text_eq, ← hwhole.eq_writeNat]
  · rintro ⟨n, rfl⟩
    rw [n.text_eq]
    refine .mk ?_ (wholeText_writeNat n.whole) ?_ ?_
    · cases n.negative
      · exact .inl rfl
      · exact .inr rfl
    · cases n.fraction? with
      | none => exact .inl rfl
      | some d => exact .inr ⟨d, rfl⟩
    · cases n.exponent? with
      | none => exact .inl rfl
      | some e => exact .inr ⟨e, rfl⟩

/-- A number spells a value. -/
lemma NumberText.exists_spells (h : NumberText t) : ∃ v, Spells v t := by
  obtain ⟨n, rfl⟩ := numberText_iff.mp h
  exact ⟨_, .number n⟩

/-! ## Ports -/

/-- The text of a port: whole digits, and their number fits into 16 bits. -/
def PortText (t : List Char) : Prop := WholeText t ∧ numberOf t ≤ 65535

lemma exists_port_iff : (∃ port : UInt16, t = writeNat port.toNat) ↔ PortText t := by
  constructor
  · rintro ⟨port, rfl⟩
    have hport := port.toNat_lt
    refine ⟨wholeText_writeNat _, ?_⟩
    rw [numberOf_writeNat]
    omega
  · rintro ⟨hwhole, hle⟩
    have hsmall : numberOf t < UInt16.size := Nat.lt_succ_of_le hle
    refine ⟨(numberOf t).toUInt16, ?_⟩
    rw [UInt16.toNat_ofNat_of_lt' hsmall]
    exact hwhole.eq_writeNat

/-- A value is a port exactly if it is spelled as one. -/
lemma isPort_iff {v : Value} (h : Spells v t) {port : UInt16} :
    v.IsPort port ↔ t = writeNat port.toNat := by
  constructor
  · rintro rfl
    cases h with
    | number => exact Numeral.text_ofNat _
  · rintro rfl
    -- the value and the port are spelled alike, so they are read alike
    obtain ⟨answer, hanswers, hport⟩ := follows_port v _ h
    obtain ⟨written, hwritten, hself⟩ := follows_port _ _ (spells_writeNat port.toNat)
    have hsame := (hanswers.decode gap_nil gap_nil).symm.trans (hwritten.decode gap_nil gap_nil)
    exact (hport port).mp (hsame.trans ((hself port).mpr rfl))

end DeviceFleet.Json
