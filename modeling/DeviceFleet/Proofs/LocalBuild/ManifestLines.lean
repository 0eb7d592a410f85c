/-
# The list of required images, line by line

Lines are cut with a rule of their own for carriage returns and for the end of the text, but names
are trimmed and lines without a name are dropped, so none of this shows: the names in a list are
those of its segments between line feeds (`names_eq`).  From this it follows how the paths of two
lists joined by a line feed come about, that the style of the line endings does not matter, and that
every path lies below the directory that it was made for.
-/
import DeviceFleet.LocalBuild.Manifest
import Mathlib.Data.List.DropRight

namespace DeviceFleet

namespace Text

variable {c : Char} {s : List Char}

lemma trim_eq (s : List Char) : trim s = (s.dropWhile isBlank).rdropWhile isBlank := rfl

/-- A blank at the end is trimmed off. -/
lemma trim_concat (hc : isBlank c = true) (s : List Char) : trim (s ++ [c]) = trim s := by
  rw [trim_eq, trim_eq, List.dropWhile_append]
  split
  · next hempty =>
    rw [List.isEmpty_iff.mp hempty, List.dropWhile_cons_of_pos hc, List.dropWhile_nil]
  · exact List.rdropWhile_concat_pos _ _ _ hc

lemma mem_of_mem_trim (h : c ∈ trim s) : c ∈ s := by
  rw [trim_eq] at h
  exact (List.dropWhile_sublist isBlank).mem ((List.rdropWhile_prefix _ _).sublist.mem h)

end Text

namespace Manifest

open Text

variable {c : Char} {s r reversed : List Char} {content productOut path : String}

/-! ## Names -/

/-- A carriage return before the line feed does not belong to the name. -/
lemma entry_closeLine (reversed : List Char) :
    entry (closeLine reversed) = entry reversed.reverse := by
  unfold closeLine
  split
  · next r =>
    rw [List.reverse_cons, entry, entry, trim_concat (by decide)]
  · rfl

/-- The names on lines, in order; a line without a name has none. -/
def names (lines : List (List Char)) : List (List Char) :=
  (lines.map entry).filter (!·.isEmpty)

lemma names_cons (line : List Char) (lines : List (List Char)) :
    names (line :: lines) = names [line] ++ names lines := by
  rw [names, names, names, ← List.filter_append]
  rfl

lemma names_append (before after : List (List Char)) :
    names (before ++ after) = names before ++ names after := by
  rw [names, names, names, List.map_append, List.filter_append]

lemma names_closeLine (reversed : List Char) :
    names [closeLine reversed] = names [reversed.reverse] := by
  rw [names, names, List.map_singleton, List.map_singleton, entry_closeLine]

lemma names_linesFrom (reversed s : List Char) :
    names (linesFrom reversed s) = names (s.splitOnPPrepend (· == '\n') reversed) := by
  induction s generalizing reversed with
  | nil =>
    rw [linesFrom, List.splitOnPPrepend_nil]
    split
    · next hempty =>
      rw [List.isEmpty_iff.mp hempty]
      rfl
    · rfl
  | cons c s ih =>
    by_cases hc : c = '\n'
    · subst hc
      rw [linesFrom, names_cons, names_closeLine, ih, List.splitOnPPrepend_cons_pos rfl,
        List.splitOnP_eq_splitOnPPrepend, ← names_cons]
    · rw [linesFrom, ih, List.splitOnPPrepend_cons_neg (by simpa using hc)]
      exact hc

/-- **The names in a list are those of its segments between line feeds.** -/
theorem names_eq (s : List Char) : names (lines s) = names (s.splitOn '\n') :=
  names_linesFrom [] s

lemma imagePaths_eq (content productOut : String) :
    imagePaths content productOut = (names (content.toList.splitOn '\n')).map fun name =>
      Path.join productOut (String.ofList name) := by
  rw [← names_eq, imagePaths, entries, List.map_map]
  rfl

/-! ## Line endings -/

/-- The text with every line feed replaced by a carriage return and a line feed. -/
def withCarriageReturns (s : List Char) : List Char :=
  s.flatMap fun c => if c = '\n' then ['\r', '\n'] else [c]

lemma names_withCarriageReturns (s : List Char) (reversed : List Char) :
    names ((withCarriageReturns s).splitOnPPrepend (· == '\n') reversed) =
      names (s.splitOnPPrepend (· == '\n') reversed) := by
  induction s generalizing reversed with
  | nil => rfl
  | cons c s ih =>
    by_cases hc : c = '\n'
    · subst hc
      have hcons : withCarriageReturns ('\n' :: s) = '\r' :: '\n' :: withCarriageReturns s := rfl
      rw [hcons, List.splitOnPPrepend_cons_neg rfl, List.splitOnPPrepend_cons_pos rfl,
        List.splitOnPPrepend_cons_pos rfl, List.splitOnP_eq_splitOnPPrepend,
        List.splitOnP_eq_splitOnPPrepend, names_cons, ih, names_cons reversed.reverse]
      -- the carriage return ends the segment before the line feed
      exact congrArg (· ++ _) (names_closeLine ('\r' :: reversed)).symm
    · have hcons : withCarriageReturns (c :: s) = c :: withCarriageReturns s := by
        rw [withCarriageReturns, List.flatMap_cons, if_neg hc]
        rfl
      rw [hcons, List.splitOnPPrepend_cons_neg (by simpa using hc),
        List.splitOnPPrepend_cons_neg (by simpa using hc), ih]

/-! ## Names and paths -/

/-- What a name on a line looks like. -/
structure IsName (name : List Char) : Prop where
  /-- It is not empty. -/
  nonempty : name ≠ []
  /-- It is on one line. -/
  oneLine : '\n' ∉ name
  /-- It does not start with a slash. -/
  relative : name.head? ≠ some '/'

/-- There is no line feed in what stands between line feeds. -/
lemma notMem_of_mem_splitOnPPrepend {segment : List Char} (hreversed : '\n' ∉ reversed)
    (h : segment ∈ s.splitOnPPrepend (· == '\n') reversed) : '\n' ∉ segment := by
  induction s generalizing reversed with
  | nil =>
    rw [List.splitOnPPrepend_nil, List.mem_singleton] at h
    rw [h, List.mem_reverse]
    exact hreversed
  | cons c s ih =>
    by_cases hc : c = '\n'
    · subst hc
      rw [List.splitOnPPrepend_cons_pos rfl, List.splitOnP_eq_splitOnPPrepend,
        List.mem_cons] at h
      rcases h with rfl | h
      · rwa [List.mem_reverse]
      · exact ih List.not_mem_nil h
    · rw [List.splitOnPPrepend_cons_neg (by simpa using hc)] at h
      refine ih (fun hmem => ?_) h
      rcases List.mem_cons.mp hmem with heq | hmem
      · exact hc heq.symm
      · exact hreversed hmem

lemma isName_of_mem_names {name : List Char} (h : name ∈ names (s.splitOn '\n')) :
    IsName name := by
  rw [names, List.mem_filter, List.mem_map] at h
  obtain ⟨⟨segment, hsegment, rfl⟩, hne⟩ := h
  refine ⟨by simpa using hne, fun hmem => ?_, fun hhead => ?_⟩
  · have hline := notMem_of_mem_splitOnPPrepend List.not_mem_nil hsegment
    exact hline (mem_of_mem_trim ((List.dropWhile_sublist _).mem hmem))
  · have hfirst := List.head?_dropWhile_not (· == '/') (trim segment)
    rw [entry] at hhead
    rw [hhead] at hfirst
    simp at hfirst

/-- A name is put below a directory. -/
lemma join_of_isName {name : List Char} (h : IsName name) (productOut : String) :
    Path.join productOut (String.ofList name) = productOut ++
      (if productOut = "" ∨ productOut.toList.getLast? = some '/' then "" else "/") ++
        String.ofList name := by
  have hrelative : Path.isAbsolute (String.ofList name) = false := by
    rw [Path.isAbsolute, String.toList_ofList, beq_eq_false_iff_ne]
    exact h.relative
  rw [Path.join, hrelative, if_neg Bool.false_ne_true]
  by_cases hopen : productOut = "" ∨ productOut.toList.getLast? = some '/'
  · rw [if_pos (by simpa using hopen), if_pos hopen, String.append_empty]
  · rw [if_neg (by simpa using hopen), if_neg hopen]

/-- **The paths of a list are made segment by segment.**  Between each two line feeds, blanks are
trimmed off both ends and then slashes off the start; what is left, if anything, is joined to the
directory of the target, in order and as often as it occurs.  So the paths of two lists with a line
feed between them are those of the first and then those of the second; it does not matter whether
lines end in a line feed alone or with a carriage return before it, and whether the last line ends
in one; and every path is the directory, a slash unless the directory is empty or ends in one, and a
name on one line that does not start with a slash. -/
theorem imagePaths_by_segment (content productOut : String) :
    imagePaths content productOut =
      (((content.toList.splitOn '\n').map fun segment =>
          ((segment.dropWhile isBlank).rdropWhile isBlank).dropWhile (· == '/')).filter
        (!·.isEmpty)).map (fun name => Path.join productOut (String.ofList name)) ∧
    (∀ more, imagePaths (content ++ "\n" ++ more) productOut =
      imagePaths content productOut ++ imagePaths more productOut) ∧
    imagePaths (String.ofList (withCarriageReturns content.toList)) productOut =
      imagePaths content productOut ∧
    imagePaths (content ++ "\n") productOut = imagePaths content productOut ∧
    ∀ path ∈ imagePaths content productOut, ∃ name, IsName name.toList ∧
      path = productOut ++
        (if productOut = "" ∨ productOut.toList.getLast? = some '/' then "" else "/") ++ name := by
  have happend : ∀ more, imagePaths (content ++ "\n" ++ more) productOut =
      imagePaths content productOut ++ imagePaths more productOut := by
    intro more
    have hlist : (content ++ "\n" ++ more).toList = content.toList ++ '\n' :: more.toList := by
      simp
    rw [imagePaths_eq, imagePaths_eq, imagePaths_eq, hlist, List.splitOn_append_cons_self,
      names_append, List.map_append]
  refine ⟨imagePaths_eq content productOut, happend, ?_, ?_, ?_⟩
  · rw [imagePaths_eq, imagePaths_eq, String.toList_ofList]
    exact congrArg _ (names_withCarriageReturns content.toList [])
  · have hempty : imagePaths "" productOut = [] := rfl
    have hlast := happend ""
    rwa [String.append_empty, hempty, List.append_nil] at hlast
  · intro path hpath
    rw [imagePaths_eq] at hpath
    obtain ⟨name, hname, rfl⟩ := List.mem_map.mp hpath
    have hisName := isName_of_mem_names hname
    exact ⟨String.ofList name, by rwa [String.toList_ofList], join_of_isName hisName productOut⟩

/-- A list with both styles of line endings, a line of slashes and a carriage return at the end. -/
def mixedEndings : String := " /a.img\t\r\n//\nb c.img\r"

/-- The path of its last line is below the directory. -/
theorem imagePaths_by_segment_mixedEndings :
    "out/b c.img" ∈ imagePaths mixedEndings "out" ∧
    imagePaths mixedEndings "out" = ["out/a.img", "out/b c.img"] ∧
    ∃ name, IsName name.toList ∧ "out/b c.img" = "out" ++ "/" ++ name := by
  have hmem : "out/b c.img" ∈ imagePaths mixedEndings "out" := by decide +kernel
  obtain ⟨hpaths, -, -, -, hbelow⟩ := imagePaths_by_segment mixedEndings "out"
  obtain ⟨name, hname, hpath⟩ := hbelow _ hmem
  refine ⟨hmem, ?_, name, hname, ?_⟩
  · rw [hpaths]
    decide +kernel
  · rw [if_neg (by decide)] at hpath
    exact hpath

end Manifest

end DeviceFleet
