/-
# Reading scalars is local

A reader of strings, numbers or words decides by what it takes off the start of a text and, for a
number, by the one character after it.  So a successful reading stays the same when more text
follows what it left: `readBody_append` and `readWord_append` say so without a condition, since
strings and words end by themselves, and `readNumber_append` for a number after which something is
left.  The same holds of passing over them.
-/
import DeviceFleet.Json.Skip
import Mathlib.Tactic.Common

namespace DeviceFleet.Json

variable {s r t : List Char}

/-- A text of which something is left is not empty. -/
lemma ne_nil_of_length_le (h : r.length ≤ s.length) (hr : r ≠ []) : s ≠ [] := by
  rintro rfl
  exact hr (List.length_eq_zero_iff.mp (Nat.le_zero.mp h))

/-- A changed answer is the change of an answer. -/
lemma exists_of_map_eq_ok {α β : Type} {f : α → β} {reading : Except Failure α} {b : β}
    (h : reading.map f = .ok b) : ∃ a, reading = .ok a ∧ f a = b := by
  cases reading with
  | error e => cases h
  | ok a => exact ⟨a, rfl, Except.ok.inj h⟩

/-! ## Space and strings -/

lemma skipSpace_append {c : Char} (h : skipSpace s = c :: r) :
    skipSpace (s ++ t) = c :: (r ++ t) := by
  have hs : s.dropWhile isSpace = c :: r := h
  rw [skipSpace, List.dropWhile_append, hs]
  rfl

lemma length_lt_of_skipSpace {c : Char} (h : skipSpace s = c :: r) : r.length < s.length := by
  have := length_skipSpace_le s
  rwa [h, List.length_cons] at this

/-- Four characters are four bytes at least. -/
lemma four_le_byteLength (a b c d : Char) (s : List Char) :
    4 ≤ byteLength (a :: b :: c :: d :: s) := by
  have := a.utf8Size_pos
  have := b.utf8Size_pos
  have := c.utf8Size_pos
  have := d.utf8Size_pos
  simp only [byteLength, List.foldr_cons]
  omega

lemma readHex4_append {n : Nat} (h : readHex4 s = .ok (n, r)) :
    readHex4 (s ++ t) = .ok (n, r ++ t) := by
  unfold readHex4 at h
  split at h
  · cases h
  · split at h
    · next a b c d rest hlen =>
      have hlong : ¬ byteLength (a :: b :: c :: d :: (rest ++ t)) < 4 :=
        Nat.not_lt.mpr (four_le_byteLength ..)
      split at h
      · next m hm =>
        obtain ⟨rfl, rfl⟩ := Prod.mk.inj (Except.ok.inj h)
        simp only [readHex4, List.cons_append, if_neg hlong, hm]
      · cases h
    · cases h

lemma readTrailingSurrogate_append {n : Nat} (h : readTrailingSurrogate s = .ok (n, r)) :
    readTrailingSurrogate (s ++ t) = .ok (n, r ++ t) := by
  unfold readTrailingSurrogate at h
  split at h
  · cases h
  · next rest =>
    split at h
    · cases h
    · next m rest' hm =>
      split at h
      · next htrailing =>
        obtain ⟨rfl, rfl⟩ := Prod.mk.inj (Except.ok.inj h)
        simp only [readTrailingSurrogate, List.cons_append, readHex4_append hm, if_pos htrailing]
      · cases h
  · cases h
  · cases h
  · cases h

lemma readCodePoint_append {c : Char} (h : readCodePoint s = .ok (c, r)) :
    readCodePoint (s ++ t) = .ok (c, r ++ t) := by
  unfold readCodePoint at h
  split at h
  · cases h
  · next n rest hn =>
    rw [readCodePoint, readHex4_append hn]
    split at h
    · cases h
    · next htrailing =>
      split at h
      · next hleading =>
        split at h
        · cases h
        · next m rest' hm =>
          obtain ⟨rfl, rfl⟩ := Prod.mk.inj (Except.ok.inj h)
          simp only [if_neg htrailing, if_pos hleading, readTrailingSurrogate_append hm]
      · next hleading =>
        obtain ⟨rfl, rfl⟩ := Prod.mk.inj (Except.ok.inj h)
        simp only [if_neg htrailing, if_neg hleading]

lemma readEscape_append {c : Char} (h : readEscape s = .ok (c, r)) :
    readEscape (s ++ t) = .ok (c, r ++ t) := by
  unfold readEscape at h
  split at h
  case h_1 => cases h
  case h_10 => exact readCodePoint_append h
  case h_11 => cases h
  all_goals
    obtain ⟨rfl, rfl⟩ := Prod.mk.inj (Except.ok.inj h)
    rfl

lemma readBodyFrom_append {read text : List Char} (h : readBodyFrom read s = .ok (text, r)) :
    readBodyFrom read (s ++ t) = .ok (text, r ++ t) := by
  fun_induction readBodyFrom read s with
  | case1 => cases h
  | case2 =>
    obtain ⟨rfl, rfl⟩ := Prod.mk.inj (Except.ok.inj h)
    rw [List.cons_append, readBodyFrom, if_pos rfl]
  | case3 => cases h
  | case4 read rest c rest' hescape hlt hquote ih =>
    rw [List.cons_append, readBodyFrom, if_neg hquote, if_pos rfl]
    split
    · next hescape' => simp [readEscape_append hescape] at hescape'
    · next hescape' =>
      rw [readEscape_append hescape] at hescape'
      obtain ⟨rfl, rfl⟩ := Prod.mk.inj (Except.ok.inj hescape')
      exact ih h
  | case5 => cases h
  | case6 read c rest hquote hslash hcontrol ih =>
    rw [List.cons_append, readBodyFrom, if_neg hquote, if_neg hslash, if_neg hcontrol]
    exact ih h

lemma readBody_append {text : List Char} (h : readBody s = .ok (text, r)) :
    readBody (s ++ t) = .ok (text, r ++ t) :=
  readBodyFrom_append h

lemma skipEscape_append (h : skipEscape s = .ok r) : skipEscape (s ++ t) = .ok (r ++ t) := by
  unfold skipEscape at h
  split at h
  · cases h
  · next c rest =>
    rw [List.cons_append, skipEscape]
    split at h
    · next hu =>
      obtain ⟨⟨n, rest'⟩, hhex, rfl⟩ := exists_of_map_eq_ok h
      rw [if_pos hu, readHex4_append hhex]
      rfl
    · next hu =>
      split at h
      · next hmem =>
        obtain rfl := Except.ok.inj h
        rw [if_neg hu, if_pos hmem]
      · cases h

lemma skipBody_append (h : skipBody s = .ok r) : skipBody (s ++ t) = .ok (r ++ t) := by
  fun_induction skipBody s with
  | case1 => cases h
  | case2 =>
    obtain rfl := Except.ok.inj h
    rw [List.cons_append, skipBody, if_pos rfl]
  | case3 => cases h
  | case4 rest rest' hescape hlt hquote ih =>
    rw [List.cons_append, skipBody, if_neg hquote, if_pos rfl]
    split
    · next hescape' => simp [skipEscape_append hescape] at hescape'
    · next hescape' =>
      rw [skipEscape_append hescape] at hescape'
      obtain rfl := Except.ok.inj hescape'
      exact ih h
  | case5 => cases h
  | case6 c rest hquote hslash hcontrol ih =>
    rw [List.cons_append, skipBody, if_neg hquote, if_neg hslash, if_neg hcontrol]
    exact ih h

/-! ## Numbers -/

section Numbers

variable {negative : Bool} {m : Nat} {power : Int} {n : Number}

lemma readDigits_append {limit value : Nat} {v : Nat} (h : readDigits limit value s = (v, r))
    (hr : r ≠ []) : readDigits limit value (s ++ t) = (v, r ++ t) := by
  induction s generalizing value with
  | nil =>
    obtain ⟨-, rfl⟩ := Prod.mk.inj h
    exact absurd rfl hr
  | cons c s ih =>
    rw [List.cons_append]
    rw [readDigits] at h ⊢
    split at h
    · next hc => rw [if_pos hc, ih h]
    · next hc =>
      obtain ⟨rfl, rfl⟩ := Prod.mk.inj h
      rw [if_neg hc, List.cons_append]

lemma skipDigits_append (h : skipDigits s ≠ []) : skipDigits (s ++ t) = skipDigits s ++ t := by
  have hs : s.dropWhile Char.isDigit ≠ [] := h
  rw [skipDigits, List.dropWhile_append, if_neg (by simpa using hs)]
  rfl

lemma startsWithDigit_append (h : s ≠ []) : startsWithDigit (s ++ t) = startsWithDigit s := by
  cases s with
  | nil => exact absurd rfl h
  | cons c s => rfl

lemma readExponentSign_append (h : s ≠ []) :
    readExponentSign (s ++ t) = ((readExponentSign s).1, (readExponentSign s).2 ++ t) := by
  obtain ⟨c, s, rfl⟩ := List.exists_cons_of_ne_nil h
  unfold readExponentSign
  simp only [List.cons_append]
  split <;> simp_all

lemma rounded_append (h : rounded negative m power s = .ok (n, r)) :
    rounded negative m power (s ++ t) = .ok (n, r ++ t) := by
  unfold rounded at h ⊢
  split at h
  · next x hx =>
    obtain ⟨rfl, rfl⟩ := Prod.mk.inj (Except.ok.inj h)
    rfl
  · cases h

lemma readExponent_append (h : readExponent negative m power s = .ok (n, r)) (hr : r ≠ []) :
    readExponent negative m power (s ++ t) = .ok (n, r ++ t) := by
  unfold readExponent at h
  simp only at h
  split at h
  · cases h
  · next c digits hsign =>
    have hs : s ≠ [] := by
      rintro rfl
      cases hsign
    rw [readExponent, readExponentSign_append hs, hsign]
    simp only [List.cons_append]
    split at h
    · next hc =>
      rw [if_pos hc]
      rcases hd : readDigits largestExponent (digitValue c) digits with ⟨e, rest⟩
      simp only [hd] at h
      cases rest with
      | nil => exact absurd (rest_rounded h) hr
      | cons d beyond =>
        rw [readDigits_append hd (by simp)]
        simp only [List.cons_append] at h ⊢
        split at h
        · next hdigit =>
          rw [if_pos hdigit]
          split at h
          · next hzero =>
            obtain ⟨rfl, rfl⟩ := Prod.mk.inj (Except.ok.inj h)
            rw [if_pos hzero, skipDigits_append hr]
          · cases h
        · next hdigit =>
          rw [if_neg hdigit]
          exact rounded_append h
    · cases h

lemma readAfterFraction_append (h : readAfterFraction negative m power s = .ok (n, r))
    (hr : r ≠ []) : readAfterFraction negative m power (s ++ t) = .ok (n, r ++ t) := by
  unfold readAfterFraction at h
  split at h
  · next c rest =>
    rw [List.cons_append, readAfterFraction]
    split at h
    · next hc => rw [if_pos hc, readExponent_append h hr]
    · next hc =>
      rw [if_neg hc]
      exact rounded_append h
  · exact absurd (rest_rounded h) hr

lemma readFraction_append (h : readFraction negative m power s = .ok (n, r)) (hr : r ≠ []) :
    readFraction negative m power (s ++ t) = .ok (n, r ++ t) := by
  rcases hd : readDigits largestWord m s with ⟨v, rest⟩
  have hplaces : (s ++ t).length - (rest ++ t).length = s.length - rest.length := by
    simp only [List.length_append]
    omega
  unfold readFraction at h ⊢
  simp only [hd] at h
  split at h
  · next hdigit =>
    have hskip := ne_nil_of_length_le (length_readAfterFraction h) hr
    have hrest := ne_nil_of_length_le (length_skipDigits_le rest) hskip
    rw [readDigits_append hd hrest]
    simp only [hplaces, startsWithDigit_append hrest, if_pos hdigit, skipDigits_append hskip,
      readAfterFraction_append h hr]
  · next hdigit =>
    split at h
    · split at h <;> cases h
    · next hsome =>
      have hrest := ne_nil_of_length_le (length_readAfterFraction h) hr
      rw [readDigits_append hd hrest]
      simp only [hplaces, startsWithDigit_append hrest, if_neg hdigit, if_neg hsome,
        readAfterFraction_append h hr]

lemma readAfterDigits_append {exact exact' : Reading Number}
    (hexact : exact = .ok (n, r) → exact' = .ok (n, r ++ t))
    (h : readAfterDigits negative m power exact s = .ok (n, r)) (hr : r ≠ []) (hs : s ≠ []) :
    readAfterDigits negative m power exact' (s ++ t) = .ok (n, r ++ t) := by
  obtain ⟨c, s, rfl⟩ := List.exists_cons_of_ne_nil hs
  rw [List.cons_append]
  unfold readAfterDigits at h ⊢
  simp only at h ⊢
  split at h
  · next hc => rw [if_pos hc, readFraction_append h hr]
  · next hc =>
    rw [if_neg hc]
    split at h
    · next hc => rw [if_pos hc, readExponent_append h hr]
    · next hc => rw [if_neg hc, hexact h]

lemma wholeNumber_append {v : Nat} (h : wholeNumber negative v s = .ok (n, r)) :
    wholeNumber negative v (s ++ t) = .ok (n, r ++ t) := by
  unfold wholeNumber at h ⊢
  split at h
  · next hsign =>
    obtain ⟨rfl, rfl⟩ := Prod.mk.inj (Except.ok.inj h)
    rw [if_pos hsign]
  · next hsign =>
    rw [if_neg hsign]
    split at h
    · next hsmall =>
      obtain ⟨rfl, rfl⟩ := Prod.mk.inj (Except.ok.inj h)
      rw [if_pos hsmall]
    · next hsmall =>
      rw [if_neg hsmall]
      exact rounded_append h

lemma readUnsigned_append (h : readUnsigned negative s = .ok (n, r)) (hr : r ≠ []) :
    readUnsigned negative (s ++ t) = .ok (n, r ++ t) := by
  unfold readUnsigned at h
  split at h
  · cases h
  · next c s =>
    rw [List.cons_append, readUnsigned]
    split at h
    · next hzero =>
      rw [if_pos hzero]
      split at h
      · cases h
      · next hdigit =>
        have hs : s ≠ [] := ne_nil_of_length_le
          (length_readAfterDigits (fun _ _ h => length_wholeNumber_le h) h) hr
        rw [startsWithDigit_append hs, if_neg hdigit]
        exact readAfterDigits_append wholeNumber_append h hr hs
    · next hzero =>
      rw [if_neg hzero]
      split at h
      · next hdigit =>
        rw [if_pos hdigit]
        rcases hd : readDigits largestWord (digitValue c) s with ⟨v, rest⟩
        simp only [hd] at h
        split at h
        · next hmore =>
          have hskip : skipDigits rest ≠ [] := ne_nil_of_length_le
            (length_readAfterDigits (fun _ _ h => length_rounded_le h) h) hr
          have hrest := ne_nil_of_length_le (length_skipDigits_le rest) hskip
          have hpower : (rest ++ t).length - (skipDigits rest ++ t).length =
              rest.length - (skipDigits rest).length := by
            simp only [List.length_append]
            omega
          rw [readDigits_append hd hrest]
          simp only [startsWithDigit_append hrest, if_pos hmore, skipDigits_append hskip, hpower]
          exact readAfterDigits_append rounded_append h hr hskip
        · next hmore =>
          have hrest : rest ≠ [] := ne_nil_of_length_le
            (length_readAfterDigits (fun _ _ h => length_wholeNumber_le h) h) hr
          rw [readDigits_append hd hrest]
          simp only [startsWithDigit_append hrest, if_neg hmore]
          exact readAfterDigits_append wholeNumber_append h hr hrest
      · cases h

lemma readNumber_append (h : readNumber s = .ok (n, r)) (hr : r ≠ []) :
    readNumber (s ++ t) = .ok (n, r ++ t) := by
  unfold readNumber at h
  split at h
  · exact readUnsigned_append h hr
  · next hminus =>
    have hs := ne_nil_of_length_le (Nat.le_of_lt (length_readUnsigned h)) hr
    obtain ⟨c, s, rfl⟩ := List.exists_cons_of_ne_nil hs
    rw [List.cons_append, readNumber]
    · exact readUnsigned_append h hr
    · rintro r' heq
      exact hminus s (by rw [(List.cons.inj heq).1])

/-! ### Passing over numbers -/

lemma skipExponent_append (h : skipExponent s = .ok r) (hr : r ≠ []) :
    skipExponent (s ++ t) = .ok (r ++ t) := by
  unfold skipExponent at h
  simp only at h
  split at h
  · next hdigit =>
    obtain rfl := Except.ok.inj h
    have hsign := ne_nil_of_length_le (length_skipDigits_le _) hr
    have hs : s ≠ [] := by
      rintro rfl
      exact hsign rfl
    rw [skipExponent, readExponentSign_append hs]
    simp only [startsWithDigit_append hsign, if_pos hdigit, skipDigits_append hr]
  · cases h

lemma skipFraction_append (h : skipFraction s = .ok r) (hr : r ≠ []) :
    skipFraction (s ++ t) = .ok (r ++ t) := by
  unfold skipFraction at h
  split at h
  · next hdigit =>
    split at h
    · next c rest hskip =>
      have hskip' : skipDigits s ≠ [] := by simp [hskip]
      have hs := ne_nil_of_length_le (length_skipDigits_le s) hskip'
      rw [skipFraction, startsWithDigit_append hs, if_pos hdigit, skipDigits_append hskip', hskip]
      simp only [List.cons_append]
      split at h
      · next hc => rw [if_pos hc, skipExponent_append h hr]
      · next hc =>
        obtain rfl := Except.ok.inj h
        rw [if_neg hc, List.cons_append]
    · exact absurd (Except.ok.inj h).symm hr
  · cases h

lemma skipAfterDigits_append (h : skipAfterDigits s = .ok r) (hr : r ≠ []) :
    skipAfterDigits (s ++ t) = .ok (r ++ t) := by
  unfold skipAfterDigits at h
  split at h
  · next c rest =>
    rw [List.cons_append, skipAfterDigits]
    split at h
    · next hc => rw [if_pos hc, skipFraction_append h hr]
    · next hc =>
      rw [if_neg hc]
      split at h
      · next hc => rw [if_pos hc, skipExponent_append h hr]
      · next hc =>
        obtain rfl := Except.ok.inj h
        rw [if_neg hc, List.cons_append]
  · exact absurd (Except.ok.inj h).symm hr

lemma skipUnsigned_append (h : skipUnsigned s = .ok r) (hr : r ≠ []) :
    skipUnsigned (s ++ t) = .ok (r ++ t) := by
  unfold skipUnsigned at h
  split at h
  · cases h
  · next c rest =>
    rw [List.cons_append, skipUnsigned]
    split at h
    · next hzero =>
      rw [if_pos hzero]
      split at h
      · cases h
      · next hdigit =>
        have hrest := ne_nil_of_length_le (length_skipAfterDigits h) hr
        rw [startsWithDigit_append hrest, if_neg hdigit, skipAfterDigits_append h hr]
    · next hzero =>
      rw [if_neg hzero]
      split at h
      · next hdigit =>
        have hskip := ne_nil_of_length_le (length_skipAfterDigits h) hr
        rw [if_pos hdigit, skipDigits_append hskip, skipAfterDigits_append h hr]
      · cases h

end Numbers

/-! ## Words and scalars -/

lemma readWord_append {word : List Char} (h : readWord word s = .ok r) :
    readWord word (s ++ t) = .ok (r ++ t) := by
  induction word generalizing s with
  | nil =>
    obtain rfl := Except.ok.inj h
    rfl
  | cons w word ih =>
    cases s with
    | nil => cases h
    | cons c s =>
      rw [List.cons_append]
      rw [readWord] at h ⊢
      split at h
      · next hc => rw [if_pos hc, ih h]
      · cases h

lemma skipScalar_append (h : skipScalar s = .ok r) (hr : r ≠ []) :
    skipScalar (s ++ t) = .ok (r ++ t) := by
  unfold skipScalar at h
  split at h
  · cases h
  · exact readWord_append h
  · exact readWord_append h
  · exact readWord_append h
  · exact skipUnsigned_append h hr
  · exact skipBody_append h
  · next c rest hn ht hf hminus hquote =>
    split at h
    · next hdigit =>
      rw [List.cons_append, skipScalar]
      · rw [if_pos hdigit]
        exact skipUnsigned_append h hr
      all_goals
        intro heq
        subst heq
        simp_all
    · cases h

end DeviceFleet.Json
