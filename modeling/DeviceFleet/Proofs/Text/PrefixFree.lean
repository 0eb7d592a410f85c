/-
# Quoted texts are prefix-free

Wherever a quoted text stands, one sees which text it is and where it ends, whatever follows
(`prefixFree_quote`).  A character inside quotes takes one of several forms, which their first
characters tell apart: `quotedChar?` reads it back, so these forms are a prefix-free code
(`prefixFree_quoteChar`).  None of them starts with the closing quote, and a code stays prefix-free
when lists are encoded and closed by a mark with which no code word starts (`PrefixFree.closed`).
-/
import DeviceFleet.Text.Quoted
import Mathlib.Tactic.Common

namespace DeviceFleet.Text

/-! ## Prefix-free codes -/

section Codes

variable {α : Type*} {encode : α → List Char}

/-- Whatever follows an encoded value, one sees which value it is and where its code ends. -/
def PrefixFree (encode : α → List Char) : Prop :=
  ∀ a b r t, encode a ++ r = encode b ++ t → a = b ∧ r = t

/-- A code that can be read back with anything behind it is prefix-free. -/
lemma prefixFree_of_reader (read : List Char → Option (α × List Char))
    (h : ∀ a r, read (encode a ++ r) = some (a, r)) : PrefixFree encode := by
  intro a b r t heq
  have hread : some (a, r) = some (b, t) := by rw [← h a r, heq, h b t]
  simpa using hread

/-- The code of lists that are closed by a mark with which no code word starts. -/
lemma PrefixFree.closed (h : PrefixFree encode) {mark : Char}
    (hmark : ∀ a r t, encode a ++ r ≠ mark :: t) :
    PrefixFree fun s : List α => s.flatMap encode ++ [mark] := by
  intro s t r u heq
  simp only [List.append_assoc, List.singleton_append] at heq
  induction s generalizing t with
  | nil =>
    cases t with
    | nil => simpa using heq
    | cons b t =>
      rw [List.flatMap_cons, List.append_assoc] at heq
      exact absurd heq.symm (hmark b _ r)
  | cons a s ih =>
    cases t with
    | nil =>
      rw [List.flatMap_cons, List.append_assoc] at heq
      exact absurd heq (hmark a _ u)
    | cons b t =>
      simp only [List.flatMap_cons, List.append_assoc] at heq
      obtain ⟨rfl, hrest⟩ := h a b _ _ heq
      obtain ⟨rfl, hr⟩ := ih t hrest
      exact ⟨rfl, hr⟩

end Codes

/-! ## Reading a character back -/

/-- The number that the digits before a closing brace spell behind those of `n`, and what follows
the brace. -/
def hexBeforeBrace? (n : ℕ) : List Char → Option (ℕ × List Char)
  | [] => none
  | c :: r =>
    if c = '\x7d' then some (n, r)
    else
      match hexValue? c with
      | none => none
      | some d => hexBeforeBrace? (n * 16 + d) r

/-- The character that an escape stands for, given what follows its backslash, and what follows the
escape. -/
def escapedChar? : List Char → Option (Char × List Char)
  | '0' :: r => some ('\x00', r)
  | 't' :: r => some ('\t', r)
  | 'r' :: r => some ('\r', r)
  | 'n' :: r => some ('\n', r)
  | '\\' :: r => some ('\\', r)
  | '"' :: r => some ('"', r)
  | 'u' :: '\x7b' :: r => (hexBeforeBrace? 0 r).map (Prod.map Char.ofNat id)
  | _ => none

/-- The first character inside quotes, if there is one before the closing quote, and what follows
it. -/
def quotedChar? : List Char → Option (Char × List Char)
  | [] => none
  | c :: r => if c = '"' then none else if c = '\\' then escapedChar? r else some (c, r)

lemma hexBeforeBrace?_hexDigit {d : ℕ} (hd : d < 16) (n : ℕ) (r : List Char) :
    hexBeforeBrace? n (hexDigit d :: r) = hexBeforeBrace? (n * 16 + d) r := by
  have hbrace : hexDigit d ≠ '\x7d' := by
    intro h
    have hvalue := hexValue?_hexDigit d hd
    rw [h] at hvalue
    cases hvalue
  rw [hexBeforeBrace?, if_neg hbrace, hexValue?_hexDigit d hd]

/-- The digits of a number spell it. -/
lemma hexBeforeBrace?_toHex (n : ℕ) (r : List Char) :
    hexBeforeBrace? 0 (toHex n ++ r) = hexBeforeBrace? n r := by
  induction n using toHex.induct generalizing r with
  | case1 n hn =>
    rw [toHex, if_pos hn, List.singleton_append, hexBeforeBrace?_hexDigit hn, Nat.zero_mul,
      Nat.zero_add]
  | case2 n hn ih =>
    rw [toHex, if_neg hn, List.append_assoc, ih, List.singleton_append,
      hexBeforeBrace?_hexDigit (Nat.mod_lt n (by decide)), Nat.div_add_mod']

lemma quotedChar?_quoteChar (c : Char) (r : List Char) :
    quotedChar? (quoteChar c ++ r) = some (c, r) := by
  unfold quoteChar
  iterate 4
    split
    · next h => rw [h]; rfl
  split
  · next h => rw [h]; rfl
  · next hslash =>
    split
    · next h => rw [h]; rfl
    · next hquote =>
      split
      · rw [List.singleton_append, quotedChar?, if_neg hquote, if_neg hslash]
      · -- the digits of the code point end at the brace
        have hdigits : hexBeforeBrace? 0 (toHex c.toNat ++ '\x7d' :: r) = some (c.toNat, r) := by
          rw [hexBeforeBrace?_toHex]
          rfl
        show (hexBeforeBrace? 0 (toHex c.toNat ++ ['\x7d'] ++ r)).map _ = _
        rw [List.append_assoc, List.singleton_append, hdigits, Option.map_some, Prod.map_apply,
          Char.ofNat_toNat, id]

/-! ## Quoted texts -/

/-- The forms that characters take inside quotes. -/
theorem prefixFree_quoteChar : PrefixFree quoteChar :=
  prefixFree_of_reader quotedChar? quotedChar?_quoteChar

/-- No character looks like the closing quote. -/
lemma quoteChar_append_ne (c : Char) (r t : List Char) : quoteChar c ++ r ≠ '"' :: t := by
  intro h
  have hread := quotedChar?_quoteChar c r
  rw [h] at hread
  cases hread

/-- **Quoted texts are prefix-free.** -/
theorem prefixFree_quote : PrefixFree quote := by
  intro s t r u heq
  have hinside := prefixFree_quoteChar.closed quoteChar_append_ne
  exact hinside s t r u (List.cons.inj heq).2

/-- Quoted texts as strings: which text it is and where it ends can be seen, whatever follows. -/
lemma quoted_append_inj {s t r u : String} :
    quoted s ++ r = quoted t ++ u ↔ s = t ∧ r = u := by
  constructor
  · intro heq
    have hchars : quote s.toList ++ r.toList = quote t.toList ++ u.toList := by
      simpa [quoted] using congrArg String.toList heq
    obtain ⟨hs, hr⟩ := prefixFree_quote _ _ _ _ hchars
    exact ⟨String.toList_inj.mp hs, String.toList_inj.mp hr⟩
  · rintro ⟨rfl, rfl⟩
    rfl

end DeviceFleet.Text
