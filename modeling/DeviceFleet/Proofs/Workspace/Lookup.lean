/-
# Looking up paths in trees

Every question about a path begins with the same lookup, so a lookup fails for the time of a path
exactly if it fails for its bytes.  In a tree it fails for one of five reasons
(`mem_lookupFaults_of_modified`); where it succeeds, the text is missing only because there is a
directory or the bytes are no text (`text_error_of_modified`).  A link to itself is followed until
no more links may be followed (`modified_of_selfLink`).
-/
import DeviceFleet.Workspace.Tree
import Mathlib.Tactic.Common

namespace DeviceFleet.Workspace

/-- Why a lookup in a tree fails. -/
def lookupFaults : List IoFault :=
  [.notFound, .notDirectory, .tooManyLinks, .nameTooLong, .nulInPath]

lemma checkPath_error {path : String} {cause : IoFault} (h : checkPath path = .error cause) :
    cause ∈ lookupFaults := by
  unfold checkPath at h
  split at h
  · cases h
    simp [lookupFaults]
  · split at h
    · cases h
      simp [lookupFaults]
    · split at h
      · cases h
        simp [lookupFaults]
      · cases h

namespace Tree

variable {t : Tree} {links : Nat} {here : Location} {names : List String}
  {name path : String} {cause : IoFault} {time : Instant}

lemma walk_error (h : t.walk links here names = .error cause) :
    cause ∈ lookupFaults := by
  fun_induction walk t links here names with
  | case1 => cases h
  -- a step in place, and a step up
  | case2 _ _ _ ih => exact ih h
  | case3 _ _ _ _ ih => exact ih h
  -- a name that is too long
  | case4 =>
    cases h
    simp [lookupFaults]
  -- nothing is there
  | case5 =>
    cases h
    simp [lookupFaults]
  -- a directory
  | case6 _ _ _ _ _ _ _ _ ih => exact ih h
  -- a file, at the end and before it
  | case7 => cases h
  | case8 =>
    cases h
    simp [lookupFaults]
  -- a link, after the last that may be followed and before it
  | case9 =>
    cases h
    simp [lookupFaults]
  | case10 _ _ _ _ _ _ _ _ _ _ ih => exact ih h

lemma locate_of_checkPath (h : checkPath path = .ok ()) :
    t.locate path =
      t.walk linkLimit (if Path.isAbsolute path then [] else home) (steps path) := by
  rw [locate, h]
  rfl

lemma find_error (h : t.find path = .error cause) : cause ∈ lookupFaults := by
  unfold find at h
  cases hlocate : t.locate path with
  | error refused =>
    rw [hlocate] at h
    obtain rfl := Except.error.inj h
    cases hcheck : checkPath path with
    | error refused =>
      rw [locate, hcheck] at hlocate
      obtain rfl := Except.error.inj hlocate
      exact checkPath_error hcheck
    | ok u =>
      rw [locate_of_checkPath hcheck] at hlocate
      exact walk_error hlocate
  | ok l =>
    rw [hlocate] at h
    dsimp only at h
    split at h
    · cases h
    · cases h
      simp [lookupFaults]

lemma find_of_modified_error (h : t.fileSystem.modified path = .error cause) :
    t.find path = .error cause := by
  simp only [fileSystem] at h
  split at h
  · next hfind =>
    cases h
    exact hfind
  · cases h

/-- A lookup fails for one of five reasons. -/
lemma mem_lookupFaults_of_modified (h : t.fileSystem.modified path = .error cause) :
    cause ∈ lookupFaults :=
  find_error (find_of_modified_error h)

/-- What is there is a directory, or a file whose bytes may be no text. -/
lemma text_error_of_modified (h : t.fileSystem.modified path = .ok time)
    (htext : t.fileSystem.text path = .error cause) : cause = .isDirectory ∨ cause = .notText := by
  obtain ⟨found, hfind⟩ : ∃ found, t.find path = .ok found := by
    cases hfind : t.find path with
    | ok found => exact ⟨found, rfl⟩
    | error e => simp [fileSystem, hfind] at h
  simp only [FileSystem.text, fileSystem, hfind] at htext
  split at htext
  · next hbytes =>
    cases htext
    split at hbytes <;> simp_all
  · split at htext
    · cases htext
    · cases htext
      exact .inr rfl

/-- Why a text is missing from a tree. -/
lemma text_error (htext : t.fileSystem.text path = .error cause) :
    cause ∈ lookupFaults ∨ cause = .isDirectory ∨ cause = .notText := by
  cases h : t.fileSystem.modified path with
  | ok time => exact .inr (text_error_of_modified h htext)
  | error refused =>
    have hfind := find_of_modified_error h
    simp only [FileSystem.text, fileSystem, hfind] at htext
    obtain rfl := Except.error.inj htext
    exact .inl (find_error hfind)

lemma walk_of_selfLink (hnode : t.node? (here ++ [name]) = some (.link name))
    (hsteps : steps name = [name]) (hrelative : Path.isAbsolute name = false)
    (hname : name ≠ "." ∧ name ≠ ".." ∧ name.utf8ByteSize ≤ nameLimit) :
    t.walk links here [name] = .error .tooManyLinks := by
  obtain ⟨hdot, hup, hlength⟩ := hname
  induction links with
  | zero =>
    rw [walk, if_neg hdot, if_neg hup, if_neg (Nat.not_lt.mpr hlength), hnode]
  | succ links ih =>
    rw [walk, if_neg hdot, if_neg hup, if_neg (Nat.not_lt.mpr hlength), hnode]
    simpa [hrelative, hsteps] using ih

/-- A link to itself leads nowhere. -/
lemma modified_of_selfLink (hcheck : checkPath name = .ok ())
    (hnode : t.node? (home ++ [name]) = some (.link name)) (hsteps : steps name = [name])
    (hrelative : Path.isAbsolute name = false)
    (hname : name ≠ "." ∧ name ≠ ".." ∧ name.utf8ByteSize ≤ nameLimit) :
    t.fileSystem.modified name = .error .tooManyLinks := by
  have hlocate : t.locate name = .error .tooManyLinks := by
    rw [locate_of_checkPath hcheck, hrelative, hsteps]
    exact walk_of_selfLink hnode hsteps hrelative hname
  simp [fileSystem, find, hlocate]

end Tree

end DeviceFleet.Workspace
