/-
# Faults of a creation

A creation that fails tells the fault of the call that failed as that call told it, under two notes:
that the creation failed, and what was being done.  Nothing of the fault is lost: its texts follow
the two notes, and its cause is found as before.  The main statement `fault_of_creation` says so of
every call, and of the staging of a local build in particular.
-/
import DeviceFleet.LocalBuild.Staging
import DeviceFleet.Proofs.Creation.Protocol
import DeviceFleet.Proofs.Fault.Notes

namespace DeviceFleet.Creation

open Text

/-- What a creation on the given host is doing when it makes a call. -/
inductive Doing (host : String) : Call → String → Prop
  | requiredFiles : Doing host .requiredFiles "cannot stage local image files"
  | createUpload :
      Doing host (.createUpload host) ("create upload area on host " ++ quoted host)
  | uploadFiles (area : String) (files : List String) :
      Doing host (.uploadFiles host area files)
        ("upload files to " ++ quoted area ++ " on host " ++ quoted host)
  | fetchArtifacts (request : FetchRequest) :
      Doing host (.fetchArtifacts host request) ("fetch artifacts on host " ++ quoted host)
  | createInstances (request : CreationRequest) :
      Doing host (.createInstances host request) ("create cvd on host " ++ quoted host)

variable {answers : Answers} {o : CreateOptions} {endpoint : String}

/-- The notes of the attempts say what is being done. -/
lemma doing_of_mem_preparation {files : List String} {area : String} {attempt : Attempt}
    (h : attempt ∈ preparation o files area) : Doing o.host attempt.call attempt.note := by
  unfold preparation at h
  split at h
  · simp only [List.mem_cons, List.not_mem_nil, or_false] at h
    rcases h with rfl | rfl | rfl
    · exact .requiredFiles
    · exact .createUpload
    · exact .uploadFiles area files
  · rw [List.mem_singleton] at h
    subst h
    exact .fetchArtifacts _

/-- `TellsOf fault note e` says that `fault` is the fault `e` of a call under the note of that call
and the note of the creation, and keeps its texts and its cause. -/
structure TellsOf (fault : Fault) (note : String) (e : Fault) : Prop where
  /-- The texts of `e` follow the two notes. -/
  chain_eq : fault.chain = "failed to create instance" :: note :: e.chain
  /-- A caller finds the same cause. -/
  cause?_eq : fault.cause? = e.cause?

lemma tellsOf_note (note : String) (e : Fault) :
    TellsOf ((e.note note).note "failed to create instance") note e where
  chain_eq := by rw [Fault.note, Fault.note, Fault.chain_context, Fault.chain_context]
  cause?_eq := by rw [Fault.note, Fault.note, Fault.cause?_context, Fault.cause?_context]

/-- The last call of a creation that fails is the one that failed. -/
lemma exists_tellsOf_of_result_eq_error {fault : Fault}
    (h : (run endpoint answers o).result = .error fault) :
    ∃ earlier call e note, (run endpoint answers o).calls = earlier ++ [call] ∧
      answers earlier call = .error e ∧ Doing o.host call note ∧ TellsOf fault note e := by
  obtain ⟨files, area, -, -, hperforms⟩ := exists_performs answers o
  obtain ⟨hcalls, hresult⟩ := run_of_performs endpoint hperforms
  rw [hresult] at h
  obtain ⟨ended, hended, rfl⟩ := exists_of_told_eq_error h
  obtain ⟨before, last, e, hlast, hcut, he, rfl⟩ := exists_attempt_of_outcome_eq_error rfl hended
  refine ⟨before, last.call, e, last.note, by rw [hcalls, hcut], he, ?_, tellsOf_note ..⟩
  rcases List.mem_append.mp hlast with hlast | hlast
  · exact doing_of_mem_preparation hlast
  · rw [List.mem_singleton] at hlast
    subst hlast
    exact .createInstances _

/-- A creation ends well only if its last call does. -/
lemma exists_answer_of_result_eq_ok {summaries : List Summary} {earlier : List Call} {call : Call}
    (h : (run endpoint answers o).result = .ok summaries)
    (hcall : (run endpoint answers o).calls = earlier ++ [call]) :
    ∃ a, answers earlier call = .ok a := by
  obtain ⟨files, area, -, -, hperforms⟩ := exists_performs answers o
  obtain ⟨hcalls, hresult⟩ := run_of_performs endpoint hperforms
  rw [hresult] at h
  obtain ⟨records, hrecords, -⟩ := exists_of_told_eq_ok h
  obtain ⟨hprep, hlast⟩ := outcome_eq_ok_iff.mp hrecords
  have hall : AllSucceed answers [] ((preparation o files area).map Attempt.call ++
      [.createInstances o.host (finalRequest o area)]) :=
    allSucceed_concat.mpr ⟨hprep, records, withNote_eq_ok_iff.mp hlast⟩
  -- all calls were made, and the last of them is the one that the host creates by
  rw [hcalls, cut_of_allSucceed hall] at hcall
  rw [hcall, allSucceed_concat] at hall
  exact hall.2

/-- A call that fails is the last one, and its fault is told. -/
lemma exists_tellsOf_of_answer_eq_error {earlier : List Call} {call : Call} {e : Fault}
    (hcall : (run endpoint answers o).calls = earlier ++ [call])
    (he : answers earlier call = .error e) :
    ∃ fault note, (run endpoint answers o).result = .error fault ∧ Doing o.host call note ∧
      TellsOf fault note e := by
  cases hresult : (run endpoint answers o).result with
  | ok summaries =>
    obtain ⟨a, ha⟩ := exists_answer_of_result_eq_ok hresult hcall
    rw [ha] at he
    cases he
  | error fault =>
    obtain ⟨earlier', call', e', note, hcall', he', hdoing, htells⟩ :=
      exists_tellsOf_of_result_eq_error hresult
    obtain ⟨rfl, hsame⟩ := List.append_inj' (hcall.symm.trans hcall') rfl
    obtain rfl := List.singleton_inj.mp hsame
    obtain rfl := Except.error.inj (he.symm.trans he')
    exact ⟨fault, note, rfl, hdoing, htells⟩

/-- The notes that a fault had are kept, however many, and so is the cause under them. -/
lemma exists_fault_of_answer_eq_under {earlier : List Call} {call : Call} {notes : List String}
    {root : Fault} (hcall : (run endpoint answers o).calls = earlier ++ [call])
    (he : answers earlier call = .error (.under notes root)) :
    ∃ fault note, (run endpoint answers o).result = .error fault ∧ Doing o.host call note ∧
      fault.chain = "failed to create instance" :: note :: (notes ++ root.chain) ∧
      fault.cause? = root.cause? := by
  obtain ⟨fault, note, hresult, hdoing, hchain, hcause⟩ :=
    exists_tellsOf_of_answer_eq_error hcall he
  refine ⟨fault, note, hresult, hdoing, ?_, ?_⟩
  · rw [hchain, Fault.chain_under]
  · rw [hcause, Fault.cause?_under]

/-! ## Staging -/

/-- A local build that cannot be staged ends the creation with its first call. -/
lemma calls_of_requiredFiles_eq_error {e : Fault} (ho : o.source = .localBuild)
    (he : answers [] .requiredFiles = .error e) :
    (run endpoint answers o).calls = [] ++ [.requiredFiles] := by
  obtain ⟨files, area, -, -, hperforms⟩ := exists_performs answers o
  obtain ⟨hcalls, -⟩ := run_of_performs endpoint hperforms
  rw [hcalls, preparation, ho]
  simp only [List.map_cons, List.cons_append, List.nil_append]
  rw [cut, he]

/-- What keeps a local build from being staged is told under the note of the first call. -/
lemma exists_fault_of_requiredFiles_eq_under {notes : List String} {b : BuildFault}
    (ho : o.source = .localBuild)
    (he : answers [] .requiredFiles = .error (.under notes (.build b))) :
    ∃ fault, (run endpoint answers o).result = .error fault ∧
      fault.chain = "failed to create instance" :: "cannot stage local image files" ::
        (notes ++ (Fault.build b).chain) ∧
      fault.cause? = some (.build b) := by
  obtain ⟨fault, note, hresult, hdoing, hchain, hcause⟩ :=
    exists_fault_of_answer_eq_under (calls_of_requiredFiles_eq_error ho he) he
  cases hdoing
  exact ⟨fault, hresult, hchain, hcause⟩

lemma requiredFiles_of_unresolved {fs : FileSystem} {process : Environment} {b : BuildFault}
    (h : BuildEnvironment.resolve process = .error b) :
    Staging.requiredFiles fs none process =
      .error (.under ["cannot retrieve Android build environment variables"] (.build b)) := by
  simp only [Staging.requiredFiles, Staging.environment, h]
  rfl

lemma requiredFiles_of_unstaged {fs : FileSystem} {given : Option BuildEnvironment}
    {process : Environment} {env : BuildEnvironment} {b : BuildFault}
    (henv : Staging.environment given process = .ok env) (h : Staging.stage fs env = .error b) :
    Staging.requiredFiles fs given process = .error (.under [] (.build b)) := by
  simp only [Staging.requiredFiles, henv, h]
  rfl

/-- **A creation that fails keeps the whole fault of the call that failed.**  The texts of that
fault follow what was being done, for calls to the host with the host named in quotes, and the cause
is found as in that fault, whatever notes are around it.  With the files of a local build tree
staged for it, the creation names the first variable that is not set, or else what is wrong with the
tree, and a caller finds this cause. -/
theorem fault_of_creation (endpoint : String) (answers : Answers) (o : CreateOptions) :
    (∀ fault, (run endpoint answers o).result = .error fault →
      ∃ earlier call e note, (run endpoint answers o).calls = earlier ++ [call] ∧
        answers earlier call = .error e ∧ Doing o.host call note ∧ TellsOf fault note e) ∧
    (∀ earlier call notes root, (run endpoint answers o).calls = earlier ++ [call] →
      answers earlier call = .error (.under notes root) →
      ∃ fault note, (run endpoint answers o).result = .error fault ∧ Doing o.host call note ∧
        fault.chain = "failed to create instance" :: note :: (notes ++ root.chain) ∧
        fault.cause? = root.cause?) ∧
    ∀ fs given process, o.source = .localBuild →
      answers [] .requiredFiles = Staging.requiredFiles fs given process →
      (∀ b, given = none → BuildEnvironment.resolve process = .error b →
        ∃ fault, (run endpoint answers o).result = .error fault ∧
          fault.chain = "failed to create instance" :: "cannot stage local image files" ::
            "cannot retrieve Android build environment variables" :: (Fault.build b).chain ∧
          fault.cause? = some (.build b)) ∧
      ∀ env b, Staging.environment given process = .ok env → Staging.stage fs env = .error b →
        ∃ fault, (run endpoint answers o).result = .error fault ∧
          fault.chain = "failed to create instance" :: "cannot stage local image files" ::
            (Fault.build b).chain ∧
          fault.cause? = some (.build b) := by
  refine ⟨fun fault => exists_tellsOf_of_result_eq_error,
    fun earlier call notes root => exists_fault_of_answer_eq_under, ?_⟩
  intro fs given process ho hstager
  constructor
  · rintro b rfl hb
    exact exists_fault_of_requiredFiles_eq_under ho
      (hstager.trans (requiredFiles_of_unresolved hb))
  · intro env b henv hb
    exact exists_fault_of_requiredFiles_eq_under ho
      (hstager.trans (requiredFiles_of_unstaged henv hb))

/-- A file system without files. -/
def noFiles : FileSystem :=
  ⟨fun _ => .error .notFound, fun _ => .error .notFound, fun _ => .error .notFound⟩

/-- Files are staged for a process in which no variable is set; no host can be reached. -/
def withoutVariables : Answers
  | _, .requiredFiles => Staging.requiredFiles noFiles none fun _ => none
  | _, _ => .error (.message "unreachable")

/-- Four texts lead from the creation to the variable. -/
theorem fault_of_creation_withoutVariables :
    ∃ fault, (run "svc" withoutVariables ⟨"h", .localBuild, 1⟩).result = .error fault ∧
      fault.chain = ["failed to create instance", "cannot stage local image files",
        "cannot retrieve Android build environment variables",
        "Missing environment variable: \"ANDROID_BUILD_TOP\""] ∧
      fault.cause? = some (.build (.missingVariable "ANDROID_BUILD_TOP")) := by
  obtain ⟨-, -, hstaging⟩ := fault_of_creation "svc" withoutVariables ⟨"h", .localBuild, 1⟩
  have hresolve : BuildEnvironment.resolve (fun _ => none) =
      .error (.missingVariable "ANDROID_BUILD_TOP") := rfl
  obtain ⟨hunresolved, -⟩ := hstaging noFiles none (fun _ => none) rfl rfl
  obtain ⟨fault, hresult, hchain, hcause⟩ := hunresolved _ rfl hresolve
  refine ⟨fault, hresult, ?_, hcause⟩
  rw [hchain]
  decide

end DeviceFleet.Creation
