/-
# Reading the text of an aggregate back

The text of an aggregate is cut at the marks of its members (`Text.pieces`).  The line feed that a
mark starts with is nowhere else in it, so no mark begins inside of one and ends behind it.  If no
member has a mark in its rendering, then, whatever fragments of one it starts or ends with, the
pieces are the head line, which tells the number of members, and their renderings in order; this is
`Aggregate.exists_pieces_text`.
-/
import DeviceFleet.Proofs.Fault.Carried

namespace DeviceFleet

namespace Text

/-! ## Pieces -/

/-- The pieces of a text between the occurrences of a separator, which are looked for from the start
on and do not overlap.  So many characters are skipped first. -/
def piecesFrom (separator : List Char) : ℕ → List Char → List (List Char)
  | _, [] => [[]]
  | skip + 1, _ :: s => piecesFrom separator skip s
  | 0, c :: s =>
    if separator <+: c :: s then [] :: piecesFrom separator (separator.length - 1) s
    else (piecesFrom separator 0 s).modifyHead (c :: ·)

/-- The pieces of a text between the occurrences of a separator that is not empty. -/
def pieces (separator text : String) : List String :=
  (piecesFrom separator.toList 0 text.toList).map String.ofList

variable {a : Char} {r piece rest : List Char}

lemma piecesFrom_skip (separator skipped s : List Char) :
    piecesFrom separator skipped.length (skipped ++ s) = piecesFrom separator 0 s := by
  induction skipped with
  | nil => rfl
  | cons c skipped ih => exact ih

/-- A separator at the start is cut off. -/
lemma piecesFrom_separator (a : Char) (r s : List Char) :
    piecesFrom (a :: r) 0 (a :: r ++ s) = [] :: piecesFrom (a :: r) 0 s := by
  have hstart : a :: r <+: a :: (r ++ s) := List.prefix_append (a :: r) s
  rw [List.cons_append, piecesFrom, if_pos hstart, List.length_cons, Nat.add_sub_cancel,
    piecesFrom_skip]

/-- **A separator does not straddle the end of a piece.**  If its first character is nowhere else in
it, and whatever follows the piece starts with this character, then a separator at the start of the
piece ends in the piece. -/
lemma prefix_of_prefix_append (ha : a ∉ r) (hpiece : piece ≠ [])
    (hrest : ∀ c ∈ rest.head?, c = a) (h : a :: r <+: piece ++ rest) : a :: r <+: piece := by
  rcases List.prefix_or_prefix_of_prefix h (List.prefix_append piece rest) with
    hinside | ⟨beyond, hbeyond⟩
  · exact hinside
  rw [← hbeyond, List.prefix_append_right_inj] at h
  cases beyond with
  | nil =>
    rw [List.append_nil] at hbeyond
    exact ⟨[], by rw [hbeyond, List.append_nil]⟩
  | cons b beyond =>
    -- what is left of the separator starts with its first character
    obtain ⟨after, rfl⟩ := h
    obtain rfl : b = a := hrest b rfl
    cases piece with
    | nil => exact absurd rfl hpiece
    | cons c piece =>
      obtain ⟨-, rfl⟩ := List.cons.inj hbeyond
      exact absurd (List.mem_append_right piece List.mem_cons_self) ha

/-- A piece without a separator is one with the first piece of what follows. -/
lemma piecesFrom_append (ha : a ∉ r) (hrest : ∀ c ∈ rest.head?, c = a)
    (hpiece : ¬ a :: r <:+: piece) :
    piecesFrom (a :: r) 0 (piece ++ rest) =
      (piecesFrom (a :: r) 0 rest).modifyHead (piece ++ ·) := by
  induction piece with
  | nil => exact (congrFun List.modifyHead_id _).symm
  | cons c piece ih =>
    have hstart : ¬ a :: r <+: c :: (piece ++ rest) := fun h =>
      hpiece (prefix_of_prefix_append ha (List.cons_ne_nil c piece) hrest h).isInfix
    have hinner : ¬ a :: r <:+: piece := fun h =>
      hpiece (h.trans (List.suffix_cons c piece).isInfix)
    rw [List.cons_append, piecesFrom, if_neg hstart, ih hinner, List.modifyHead_modifyHead]
    rfl

/-- **A text that is made of pieces falls into these pieces**, if no separator is in any of them. -/
theorem piecesFrom_flatMap (ha : a ∉ r) (hpiece : ¬ a :: r <:+: piece) {more : List (List Char)}
    (hmore : ∀ p ∈ more, ¬ a :: r <:+: p) :
    piecesFrom (a :: r) 0 (piece ++ more.flatMap (a :: r ++ ·)) = piece :: more := by
  -- the first piece takes in what is in front of the first separator that is left
  induction more generalizing piece with
  | nil =>
    rw [List.flatMap_nil, piecesFrom_append ha (by simp) hpiece, piecesFrom, List.modifyHead_cons,
      List.append_nil]
  | cons next more ih =>
    obtain ⟨hnext, hmore⟩ := List.forall_mem_cons.mp hmore
    rw [List.flatMap_cons, piecesFrom_append ha (by simp) hpiece, List.append_assoc,
      piecesFrom_separator, ih hnext hmore, List.modifyHead_cons, List.append_nil]

example : pieces ", " "a, b,, c" = ["a", "b,", "c"] := by decide +kernel

end Text

open Text

/-! ## The head line -/

/-- The number that a head line starts with. -/
def headCount (header : String) : ℕ :=
  Nat.ofDigitChars 10 (header.toList.takeWhile Char.isDigit) 0

lemma toList_aggregateHeader {n : ℕ} (hn : n ≠ 1) :
    (aggregateHeader n).toList = Nat.toDigits 10 n ++ " errors occurred:".toList := by
  rw [aggregateHeader, if_neg hn]
  change (Nat.repr n ++ " errors occurred:").toList = _
  rw [String.toList_append, Nat.repr_eq_ofList_toDigits, String.toList_ofList]

lemma isDigit_of_mem_toDigits {n : ℕ} {c : Char} (h : c ∈ Nat.toDigits 10 n) :
    c.isDigit = true :=
  Nat.isDigit_of_mem_toDigits (by decide) (by decide) h

/-- The head line tells the number of members. -/
lemma headCount_aggregateHeader (n : ℕ) : headCount (aggregateHeader n) = n := by
  by_cases hn : n = 1
  · subst hn
    decide
  · rw [headCount, toList_aggregateHeader hn,
      List.takeWhile_append_of_pos fun c hc => isDigit_of_mem_toDigits hc]
    exact (congrArg (Nat.ofDigitChars 10 · 0) (List.append_nil _)).trans
      Nat.ofDigitChars_ten_toDigits

/-- The head line is one line, so no mark begins in it. -/
lemma newline_notMem_aggregateHeader (n : ℕ) : '\n' ∉ (aggregateHeader n).toList := by
  by_cases hn : n = 1
  · subst hn
    decide
  · rw [toList_aggregateHeader hn, List.mem_append, not_or]
    exact ⟨fun h => absurd (isDigit_of_mem_toDigits h) (by decide), by decide⟩

/-! ## The members -/

/-- The text of an aggregate falls into its head line and the texts of its members. -/
lemma pieces_aggregateText {texts : List String} (h : ∀ text ∈ texts, ¬ Occurs memberMark text) :
    pieces memberMark (aggregateText texts) = aggregateHeader texts.length :: texts := by
  have hheader : ¬ memberMark.toList <:+: (aggregateHeader texts.length).toList := fun hmark =>
    newline_notMem_aggregateHeader _ (hmark.mem (by decide))
  have hmembers : ∀ p ∈ texts.map String.toList, ¬ memberMark.toList <:+: p := by
    intro p hp
    obtain ⟨text, htext, rfl⟩ := List.mem_map.mp hp
    exact h text htext
  have hnowhere : '\n' ∉ ['\t', '*', ' '] := by decide
  have hpieces := piecesFrom_flatMap hnowhere hheader hmembers
  rw [pieces, toList_aggregateText]
  rw [List.flatMap_map] at hpieces
  refine (congrArg (List.map String.ofList) hpieces).trans ?_
  simp

namespace Aggregate

variable {faults : List Fault}

lemma pieces_text_of_ofList {a : Aggregate} (ha : ofList? faults = some a)
    (hmarks : ∀ f ∈ faults, ¬ Occurs memberMark f.rendering) :
    pieces memberMark a.text = aggregateHeader faults.length :: faults.map Fault.rendering := by
  have hmembers : a.members = faults := by
    rw [ofList?] at ha
    split at ha
    · cases ha
    · exact congrArg members (Option.some.inj ha).symm
  have htexts : ∀ text ∈ faults.map Fault.rendering, ¬ Occurs memberMark text := by
    intro text htext
    obtain ⟨f, hf, rfl⟩ := List.mem_map.mp htext
    exact hmarks f hf
  rw [text, hmembers, pieces_aggregateText htexts, List.length_map]

/-- **The text of an aggregate can be read back.**  If no member has a mark in its rendering, the
text falls at the marks into the head line, which tells the number of members, and the renderings of
the members in order.  So if two such aggregates have the same text, their members have the same
renderings. -/
theorem exists_pieces_text (hfaults : faults ≠ [])
    (hmarks : ∀ f ∈ faults, ¬ Occurs "\n\t* " f.rendering) :
    ∃ a, ofList? faults = some a ∧
      (∃ header, pieces "\n\t* " a.text = header :: faults.map Fault.rendering ∧
        header = (if faults.length = 1 then "1 error occurred:"
          else toString faults.length ++ " errors occurred:") ∧
        headCount header = faults.length) ∧
      ∀ others b, ofList? others = some b → (∀ f ∈ others, ¬ Occurs "\n\t* " f.rendering) →
        b.text = a.text → others.map Fault.rendering = faults.map Fault.rendering := by
  obtain ⟨a, ha⟩ : ∃ a, ofList? faults = some a := ⟨⟨faults, hfaults⟩, dif_neg hfaults⟩
  have hpieces := pieces_text_of_ofList ha hmarks
  refine ⟨a, ha, ⟨_, hpieces, rfl, headCount_aggregateHeader _⟩, fun others b hb hothers h => ?_⟩
  have hsame := pieces_text_of_ofList hb hothers
  rw [h] at hsame
  exact (List.cons.inj (hsame.symm.trans hpieces)).2

/-- Faults whose renderings start and end with fragments of a mark. -/
def fragmented : List Fault :=
  [.context "\t* a" (.message "b\n\t*"), .message " c\n", .message "\t* \n\t"]

/-- The same renderings, without notes. -/
def fragmentedCauses : List Fault :=
  [.message "\t* a: b\n\t*", .message " c\n", .message "\t* \n\t"]

/-- The fragments do not join to marks. -/
theorem exists_pieces_text_fragmented :
    (∀ f ∈ fragmented, ¬ Occurs "\n\t* " f.rendering) ∧
    (∃ a, ofList? fragmented = some a ∧ pieces "\n\t* " a.text =
      ["3 errors occurred:", "\t* a: b\n\t*", " c\n", "\t* \n\t"]) ∧
    fragmentedCauses.map Fault.rendering = fragmented.map Fault.rendering := by
  have hne : fragmented ≠ [] := List.cons_ne_nil _ _
  have hmarks : ∀ f ∈ fragmented, ¬ Occurs "\n\t* " f.rendering := by decide +kernel
  have hcauses : ∀ f ∈ fragmentedCauses, ¬ Occurs "\n\t* " f.rendering := by decide +kernel
  have htext : aggregateText (fragmentedCauses.map Fault.rendering) =
      aggregateText (fragmented.map Fault.rendering) := by decide +kernel
  obtain ⟨a, ha, ⟨header, hpieces, hheader, -⟩, hsame⟩ := exists_pieces_text hne hmarks
  refine ⟨hmarks, ⟨a, ha, ?_⟩, ?_⟩
  · rw [hpieces, hheader]
    decide +kernel
  · obtain rfl : ⟨fragmented, hne⟩ = a := Option.some.inj ha
    exact hsame _ ⟨fragmentedCauses, List.cons_ne_nil _ _⟩ rfl hcauses htext

end Aggregate

end DeviceFleet
