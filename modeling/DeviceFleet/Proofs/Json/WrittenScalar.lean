/-
# Reading what was written: strings and whole numbers

A written string is a text of the string (`stringText_writeString`), so it is read as the string and
passed over.  A written number is read as the number, and passing over it stops at the same place.
-/
import DeviceFleet.Instance.Connection
import DeviceFleet.Proofs.Json.Numeral
import DeviceFleet.Proofs.Json.StringText

namespace DeviceFleet.Json

open DeviceFleet.Text

/-! ## Strings -/

/-- A number below `0x10000` is written in four digits. -/
lemma exists_toHexPadded_eq {n : Nat} (hn : n < 0x10000) :
    ∃ a b c d, toHexPadded 4 n = [a, b, c, d] ∧ ofHex4? a b c d = some n := by
  refine ⟨_, _, _, _, rfl, ?_⟩
  have hsum : (n / 16 / 16 / 16 % 16 * 16 + n / 16 / 16 % 16) * 256 + n / 16 % 16 * 16 +
      n % 16 = n := by
    omega
  simp [ofHex4?, hexValue?_hexDigit, Nat.mod_lt, hsum]

/-- A written character is a piece that spells it. -/
lemma exists_piece_escapeChar (c : Char) : ∃ p, PieceText p (escapeChar c) ∧
    ∀ pieces, assemble (p :: pieces) = (assemble pieces).map (c :: ·) := by
  unfold escapeChar
  split
  · next h => exact ⟨.char c, .letter (by simp [letterEscapes, h]), fun _ => rfl⟩
  · next hquote =>
    split
    · next h => exact ⟨.char c, .letter (by simp [letterEscapes, h]), fun _ => rfl⟩
    · next hslash =>
      iterate 5
        split
        · next h => exact ⟨.char c, .letter (by simp [letterEscapes, h]), fun _ => rfl⟩
      split
      · next hcontrol =>
        obtain ⟨a, b, d, e, hdigits, hvalue⟩ := exists_toHexPadded_eq (n := c.toNat) (by omega)
        have hlow : isTrailingSurrogate c.toNat = false ∧ isLeadingSurrogate c.toNat = false := by
          simp only [isTrailingSurrogate, isLeadingSurrogate, Bool.and_eq_false_iff,
            decide_eq_false_iff_not]
          omega
        refine ⟨.unit c.toNat, hdigits ▸ .code hvalue, fun pieces => ?_⟩
        rw [assemble_unit hlow.1 hlow.2, Char.ofNat_toNat]
      · next hcontrol => exact ⟨.char c, .plain hquote hslash hcontrol, fun _ => rfl⟩

/-- A written text consists of pieces that spell it. -/
lemma exists_pieces_written (text : List Char) : ∃ pieces,
    List.Forall₂ PieceText pieces (text.map escapeChar) ∧ assemble pieces = some text := by
  induction text with
  | nil => exact ⟨[], .nil, rfl⟩
  | cons c text ih =>
    obtain ⟨p, hp, hassemble⟩ := exists_piece_escapeChar c
    obtain ⟨pieces, hpieces, htext⟩ := ih
    exact ⟨p :: pieces, .cons hp hpieces, by rw [hassemble, htext]; rfl⟩

/-- A written string is a text of it. -/
lemma stringText_writeString (text : String) : StringText (some text) (writeString text) := by
  obtain ⟨pieces, hpieces, htext⟩ := exists_pieces_written text.toList
  have h := StringText.mk hpieces
  rw [htext, ← List.flatMap_def, Option.map_some, String.ofList_toList] at h
  exact h

lemma reads_writeString (text : String) : textReader.Reads (writeString text) text :=
  answers_some_iff.mp (stringText_writeString text).answers

lemma writeString_injective : Function.Injective writeString := by
  intro a b h
  have hb := reads_writeString b
  rw [← h] at hb
  exact (reads_writeString a).unique hb

/-! ## Ports -/

lemma reads_writeNat (port : UInt16) : portReader.Reads (writeNat port.toNat) port := by
  obtain ⟨answer, hanswers, hanswer⟩ := (Numeral.ofNat port.toNat).answers
  rw [(hanswer port).mpr rfl, Numeral.text_ofNat] at hanswers
  exact answers_some_iff.mp hanswers

end DeviceFleet.Json
