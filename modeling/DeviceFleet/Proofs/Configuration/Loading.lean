/-
# Loading the configuration

The configuration is loaded in two steps: its path is looked up, and what is there is read.  If the
lookup fails, nothing is configured, for whatever reason it fails; what is there but cannot be read
or parsed is a fault that names the path.  The main statement is `load_by_lookup`, for any session
and whatever is said of a refused text.
-/
import DeviceFleet.Configuration
import DeviceFleet.Proofs.Workspace.Lookup

namespace DeviceFleet.Configuration

open Workspace

variable {fs : FileSystem} {explain : String → String} {s : Session} {given : Option String}
  {path content : String} {cause : IoFault} {time : Instant} {fault : Fault} {c : Configuration}

lemma load_of_location (hpath : location s given = .ok path) :
    load fs explain s given = if fs.isPresent path then readFile fs explain path else .ok {} := by
  rw [load, hpath]

/-- Nothing is configured where the lookup fails. -/
lemma load_of_modified_error (hpath : location s given = .ok path)
    (h : fs.modified path = .error cause) : load fs explain s given = .ok {} := by
  rw [load_of_location hpath, FileSystem.isPresent, h]
  rfl

lemma load_of_modified_ok (hpath : location s given = .ok path)
    (h : fs.modified path = .ok time) : load fs explain s given = readFile fs explain path := by
  rw [load_of_location hpath, FileSystem.isPresent, h]
  rfl

lemma readFile_of_text_error (h : fs.text path = .error cause) :
    readFile fs explain path = .error ((Fault.io cause).note s!"cannot read {path}") := by
  rw [readFile, h]

lemma readFile_of_text (h : fs.text path = .ok content) :
    readFile fs explain path = Except.withNote s!"cannot parse {path}" (read explain content) := by
  rw [readFile, h]

/-- A refused text is told by what is said of it. -/
lemma eq_yaml_of_read_error (h : read explain content = .error fault) :
    fault = .yaml (explain content) := by
  rw [read] at h
  split at h
  · cases h
  · exact (Except.error.inj h).symm

/-- Connections are loaded only if the configuration is. -/
lemma connections_of_load_error (scope : Scope) (h : load fs explain s given = .error fault) :
    connections fs explain s given scope = .error fault := by
  rw [connections, controlDirOf, h]
  rfl

/-- Connections are loaded from the configured control directory, or from the usual one. -/
lemma connections_of_load (scope : Scope) (h : load fs explain s given = .ok c) :
    connections fs explain s given scope =
      match c.controlDir with
      | some dir => .ok (ControlDir.load fs dir scope)
      | none => (directory s).map fun dir =>
        ControlDir.load fs (defaultControlDir dir) scope := by
  rw [connections, controlDirOf, h]
  obtain ⟨_ | dir⟩ := c
  · dsimp only
    cases directory s <;> rfl
  · rfl

/-- **What is loaded as the configuration.**  If looking its path up fails, nothing is read and the
default is loaded, so connections are loaded from the usual control directory: not only where
nothing is there, but whatever the reason is, of which a tree has five.  If something is there that
cannot be read as a text, both the configuration and the connections end with a fault that names the
path; in a tree it is a directory, or its bytes are no text.  Otherwise the result is what the text
is read as, and if it is read as nothing, a fault that names the path. -/
theorem load_by_lookup (explain : String → String) (hpath : location s given = .ok path)
    (scope : Scope) :
    (∀ (fs : FileSystem) cause, fs.modified path = .error cause →
      (∀ bytes, load { fs with bytes := bytes } explain s given = .ok {}) ∧
      connections fs explain s given scope = (directory s).map fun dir =>
        ControlDir.load fs (defaultControlDir dir) scope) ∧
    (∀ (t : Tree) cause, t.fileSystem.modified path = .error cause →
      cause ∈ [IoFault.notFound, .notDirectory, .tooManyLinks, .nameTooLong, .nulInPath]) ∧
    (∀ (fs : FileSystem) time cause, fs.modified path = .ok time → fs.text path = .error cause →
      ∃ fault : Fault, fault = .context ("cannot read " ++ path) (.io cause) ∧
        load fs explain s given = .error fault ∧
        connections fs explain s given scope = .error fault) ∧
    (∀ (t : Tree) time cause, t.fileSystem.modified path = .ok time →
      t.fileSystem.text path = .error cause → cause = .isDirectory ∨ cause = .notText) ∧
    (∀ (fs : FileSystem) time content, fs.modified path = .ok time →
      fs.text path = .ok content →
      (∀ c, read explain content = .ok c → load fs explain s given = .ok c) ∧
      (∀ refused, read explain content = .error refused → refused = .yaml (explain content) ∧
        ∃ fault : Fault, fault = .context ("cannot parse " ++ path) refused ∧
          load fs explain s given = .error fault ∧
          connections fs explain s given scope = .error fault)) := by
  refine ⟨?_, fun t cause h => Tree.mem_lookupFaults_of_modified h, ?_,
    fun t time cause => Tree.text_error_of_modified, ?_⟩
  · intro fs cause h
    refine ⟨fun bytes => load_of_modified_error hpath h, ?_⟩
    rw [connections_of_load scope (load_of_modified_error hpath h)]
  · intro fs time cause h htext
    have hload : load fs explain s given = .error (.context ("cannot read " ++ path) (.io cause)) :=
      (load_of_modified_ok hpath h).trans (readFile_of_text_error htext)
    exact ⟨_, rfl, hload, connections_of_load_error scope hload⟩
  · intro fs time content h htext
    have hload : load fs explain s given =
        Except.withNote s!"cannot parse {path}" (read explain content) :=
      (load_of_modified_ok hpath h).trans (readFile_of_text htext)
    refine ⟨fun c hread => ?_, fun refused hread => ?_⟩
    · rw [hload, hread]
      rfl
    · rw [hread] at hload
      exact ⟨eq_yaml_of_read_error hread, _, rfl, hload, connections_of_load_error scope hload⟩

/-- A tree in which a link leads to itself. -/
def selfLink : Tree := { nodes := [(home, .directory), (home ++ ["loop.yaml"], .link "loop.yaml")] }

lemma modified_selfLink : selfLink.fileSystem.modified "loop.yaml" = .error .tooManyLinks :=
  Tree.modified_of_selfLink rfl rfl (by decide) rfl (by decide)

/-- A session without variables, of a user without an account. -/
def bareSession : Session where
  environment _ := none
  accountHome := none

/-- Nothing is configured where the path is a link to itself, and any bytes may be behind it. -/
theorem load_by_lookup_selfLink :
    location bareSession (some "loop.yaml") = .ok "loop.yaml" ∧
      load selfLink.fileSystem id bareSession (some "loop.yaml") = .ok {} := by
  have hpath : location bareSession (some "loop.yaml") = .ok "loop.yaml" := rfl
  obtain ⟨hlookup, -⟩ := load_by_lookup id hpath .allHosts
  exact ⟨hpath, (hlookup selfLink.fileSystem .tooManyLinks modified_selfLink).1 _⟩

/-- The default is not loaded only where nothing is there. -/
theorem not_notFound_of_load_default :
    ¬ ∀ (t : Tree) (explain : String → String) (s : Session) (path : String) (cause : IoFault),
      t.fileSystem.modified path = .error cause → cause ≠ .notFound →
        ∃ fault, load t.fileSystem explain s (some path) = .error fault := by
  intro h
  obtain ⟨fault, hfault⟩ := h selfLink id bareSession "loop.yaml" .tooManyLinks
    modified_selfLink (by decide)
  rw [load_of_modified_error rfl modified_selfLink] at hfault
  cases hfault

end DeviceFleet.Configuration
