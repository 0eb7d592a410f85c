/-
# The call protocol of a creation

A creation makes the calls of one script, in order, and stops after the first that fails.  The
script is fixed by the options but for what earlier calls answer: the files that were collected and
the upload area that was made.  How a call is answered may depend on all calls before it.

A part of a creation is judged by the relation `Performs`: which calls it makes, and how it ends.
`exists_performs` says so of the whole creation, in terms of the attempts that prepare the last
call; the main statement `calls_of_creation` follows from it.
-/
import DeviceFleet.Creation
import Mathlib.Tactic.Common

namespace DeviceFleet.Creation

open Text

variable {answers : Answers} {α β : Type}

/-! ## The calls and the end of a part -/

/-- After the calls `earlier`, the part `m` makes the calls `calls` and ends with `result`. -/
def Performs (earlier : List Call) (m : Script α) (calls : List Call)
    (result : Except Fault α) : Prop :=
  ∀ events, ∃ events',
    m.run.run ⟨earlier, events⟩ = (result, ⟨earlier ++ calls, events'⟩)

lemma run_bind (m : Script α) (next : α → Script β) (journal : Journal) :
    (m >>= next).run.run journal =
      match m.run.run journal with
      | (.ok a, journal) => (next a).run.run journal
      | (.error fault, journal) => (.error fault, journal) := by
  have h : (m >>= next).run.run journal =
      (ExceptT.bindCont next (m.run.run journal).1).run (m.run.run journal).2 := rfl
  rw [h]
  rcases m.run.run journal with ⟨⟨fault⟩ | ⟨a⟩, after⟩ <;> rfl

lemma run_get (journal : Journal) :
    (get : Script Journal).run.run journal = (.ok journal, journal) := rfl

lemma run_set (journal after : Journal) :
    (set after : Script PUnit).run.run journal = (.ok ⟨⟩, after) := rfl

lemma run_ask (earlier : List Call) (call : Call) (note : String) (events : List LogEvent) :
    (ask answers call note).run.run ⟨earlier, events⟩ =
      (Except.withNote note (answers earlier call), ⟨earlier ++ [call], events⟩) := by
  rw [ask, run_bind, run_get]
  dsimp only
  rw [run_bind, run_set]
  dsimp only
  cases answers earlier call <;> rfl

namespace Performs

lemma ask (earlier : List Call) (call : Call) (note : String) :
    Performs earlier (ask answers call note) [call] (Except.withNote note (answers earlier call)) :=
  fun events => ⟨events, run_ask earlier call note events⟩

lemma log_bind {earlier calls : List Call} {next : Unit → Script α} {result : Except Fault α}
    (event : LogEvent) (h : Performs earlier (next ()) calls result) :
    Performs earlier (log event >>= next) calls result := by
  intro events
  obtain ⟨after, h⟩ := h (events ++ [event])
  exact ⟨after, h⟩

lemma ask_bind_ok {earlier calls : List Call} {call : Call} {a : call.Answer}
    {next : call.Answer → Script α} {result : Except Fault α} (note : String)
    (ha : answers earlier call = .ok a)
    (h : Performs (earlier ++ [call]) (next a) calls result) :
    Performs earlier (Creation.ask answers call note >>= next) (call :: calls) result := by
  intro events
  obtain ⟨after, h⟩ := h events
  refine ⟨after, ?_⟩
  rw [run_bind, run_ask, ha]
  simpa only [Except.withNote, List.append_assoc, List.singleton_append] using h

lemma ask_bind_error {earlier : List Call} {call : Call} {fault : Fault}
    {next : call.Answer → Script α} (note : String)
    (hf : answers earlier call = .error fault) :
    Performs earlier (Creation.ask answers call note >>= next) [call]
      (.error (fault.note note)) := by
  intro events
  refine ⟨events, ?_⟩
  rw [run_bind, run_ask, hf]
  rfl

end Performs

/-! ## Scripts that stop at the first fault -/

/-- A call, with the note for its fault. -/
structure Attempt where
  /-- The call. -/
  call : Call
  /-- What is being done. -/
  note : String

/-- The calls of a script up to the first that fails, that one included. -/
def cut (answers : Answers) (earlier : List Call) : List Call → List Call
  | [] => []
  | call :: rest =>
    match answers earlier call with
    | .ok _ => call :: cut answers (earlier ++ [call]) rest
    | .error _ => [call]

/-- Every call of a script succeeds, each after those before it. -/
def AllSucceed (answers : Answers) (earlier : List Call) : List Call → Prop
  | [] => True
  | call :: rest =>
    (∃ a, answers earlier call = .ok a) ∧ AllSucceed answers (earlier ++ [call]) rest

/-- How a part ends that makes some attempts and would then end with `last`. -/
def outcome (answers : Answers) (earlier : List Call) (last : Except Fault α) :
    List Attempt → Except Fault α
  | [] => last
  | attempt :: rest =>
    match answers earlier attempt.call with
    | .ok _ => outcome answers (earlier ++ [attempt.call]) last rest
    | .error fault => .error (fault.note attempt.note)

lemma cut_isPrefix (answers : Answers) (earlier script : List Call) :
    cut answers earlier script <+: script := by
  induction script generalizing earlier with
  | nil => exact List.prefix_rfl
  | cons call rest ih =>
    rw [cut]
    split
    · exact (List.prefix_cons_inj call).mpr (ih _)
    · exact ⟨rest, rfl⟩

lemma allSucceed_concat {earlier script : List Call} {call : Call} :
    AllSucceed answers earlier (script ++ [call]) ↔
      AllSucceed answers earlier script ∧ ∃ a, answers (earlier ++ script) call = .ok a := by
  induction script generalizing earlier with
  | nil => simp [AllSucceed]
  | cons first rest ih =>
    rw [List.cons_append, AllSucceed, AllSucceed, ih, and_assoc, List.append_assoc]
    rfl

lemma outcome_eq_ok_iff {earlier : List Call} {last : Except Fault α} {a : α}
    {attempts : List Attempt} :
    outcome answers earlier last attempts = .ok a ↔
      AllSucceed answers earlier (attempts.map Attempt.call) ∧ last = .ok a := by
  induction attempts generalizing earlier with
  | nil => simp [outcome, AllSucceed]
  | cons attempt rest ih =>
    rw [outcome, List.map_cons, AllSucceed]
    cases answers earlier attempt.call with
    | ok b => simp [ih]
    | error fault => simp

lemma withNote_eq_ok_iff {note : String} {r : Except Fault α} {a : α} :
    Except.withNote note r = .ok a ↔ r = .ok a := by
  cases r <;> simp [Except.withNote]

/-- The fault of a part is that of the last call it made, under the note of its attempt. -/
lemma exists_attempt_of_outcome_eq_error {earlier : List Call} {call : Call} {note : String}
    {final : Except Fault call.Answer} {attempts : List Attempt} {fault : Fault}
    (hfinal : final = answers (earlier ++ attempts.map Attempt.call) call)
    (h : outcome answers earlier (Except.withNote note final) attempts = .error fault) :
    ∃ before last cause,
      last ∈ attempts ++ [⟨call, note⟩] ∧
        cut answers earlier (attempts.map Attempt.call ++ [call]) = before ++ [last.call] ∧
        answers (earlier ++ before) last.call = .error cause ∧ fault = cause.note last.note := by
  induction attempts generalizing earlier with
  | nil =>
    simp only [List.map_nil, List.append_nil] at hfinal
    subst hfinal
    cases hcall : answers earlier call with
    | ok a => simp [outcome, hcall, Except.withNote] at h
    | error cause =>
      refine ⟨[], ⟨call, note⟩, cause, by simp, ?_, ?_, ?_⟩
      · simp [cut, hcall]
      · rw [List.append_nil, hcall]
      · simpa [outcome, hcall, Except.withNote] using h.symm
  | cons attempt rest ih =>
    rw [outcome] at h
    simp only [List.map_cons, List.cons_append]
    rw [cut]
    cases hcall : answers earlier attempt.call with
    | ok a =>
      rw [hcall] at h
      obtain ⟨before, last, cause, hlast, hcut, hcause, hfault⟩ := ih (by simpa using hfinal) h
      refine ⟨attempt.call :: before, last, cause, List.mem_cons_of_mem _ hlast, ?_, ?_, hfault⟩
      · rw [hcut]
        rfl
      · simpa using hcause
    | error cause =>
      rw [hcall] at h
      refine ⟨[], attempt, cause, List.mem_cons_self, rfl, ?_, ?_⟩
      · rw [List.append_nil, hcall]
      · exact (Except.error.inj h).symm

/-- The fault of a part is that of the last call it made, under a note. -/
lemma exists_of_outcome_eq_error {earlier : List Call} {call : Call} {note : String}
    {final : Except Fault call.Answer} {attempts : List Attempt} {fault : Fault}
    (hfinal : final = answers (earlier ++ attempts.map Attempt.call) call)
    (h : outcome answers earlier (Except.withNote note final) attempts = .error fault) :
    ∃ before last cause about,
      cut answers earlier (attempts.map Attempt.call ++ [call]) = before ++ [last] ∧
        answers (earlier ++ before) last = .error cause ∧ fault = cause.note about := by
  obtain ⟨before, last, cause, -, hlast⟩ := exists_attempt_of_outcome_eq_error hfinal h
  exact ⟨before, last.call, cause, last.note, hlast⟩

/-- A script of which every call succeeds is not cut. -/
lemma cut_of_allSucceed {earlier script : List Call} (h : AllSucceed answers earlier script) :
    cut answers earlier script = script := by
  induction script generalizing earlier with
  | nil => rfl
  | cons call rest ih =>
    obtain ⟨⟨a, ha⟩, hrest⟩ := h
    simp only [cut, ha, ih hrest]

/-! ## The whole creation -/

/-- What a creation attempts before it asks the host to create. -/
def preparation (o : CreateOptions) (files : List String) (area : String) : List Attempt :=
  match o.source with
  | .localBuild =>
    [⟨.requiredFiles, "cannot stage local image files"⟩,
      ⟨.createUpload o.host, s!"create upload area on host {quoted o.host}"⟩,
      ⟨.uploadFiles o.host area files,
        s!"upload files to {quoted area} on host {quoted o.host}"⟩]
  | .ci builds =>
    [⟨.fetchArtifacts o.host ⟨builds.main⟩, s!"fetch artifacts on host {quoted o.host}"⟩]

/-- What a creation asks the host for in the end. -/
def finalRequest (o : CreateOptions) (area : String) : CreationRequest where
  source :=
    match o.source with
    | .localBuild => .uploaded area
    | .ci builds => .ci builds.named
  additional := o.additional

/-- An attempt whose answer is known beforehand, if it succeeds, adds its call to a part and its
fault to the ways in which the part can end. -/
lemma Performs.attempt {earlier script : List Call} {call : Call} {note : String}
    {value : call.Answer} {next : call.Answer → Script α} {last : Except Fault α}
    {attempts : List Attempt} (hvalue : ∀ a, answers earlier call = .ok a → value = a)
    (h : Performs (earlier ++ [call]) (next value)
      (cut answers (earlier ++ [call]) script)
      (outcome answers (earlier ++ [call]) last attempts)) :
    Performs earlier (Creation.ask answers call note >>= next)
      (cut answers earlier (call :: script))
      (outcome answers earlier last (⟨call, note⟩ :: attempts)) := by
  rw [cut, outcome]
  cases hcall : answers earlier call with
  | ok a =>
    obtain rfl := hvalue a hcall
    exact .ask_bind_ok note hcall h
  | error fault => exact .ask_bind_error note hcall

lemma Performs.last {earlier : List Call} (call : Call) (note : String) :
    Performs earlier (Creation.ask answers call note) (cut answers earlier [call])
      (outcome answers earlier (Except.withNote note (answers earlier call)) []) := by
  have hcut : cut answers earlier [call] = [call] := by
    rw [cut, cut]
    split <;> rfl
  rw [hcut, outcome]
  exact .ask earlier call note

lemma exists_answer {α : Type} [Inhabited α] (r : Except Fault α) :
    ∃ value, ∀ a, r = .ok a → value = a := by
  cases r with
  | error fault => exact ⟨default, by simp⟩
  | ok a => exact ⟨a, by simp⟩

/-- A creation attempts its preparation and then asks the host to create. -/
lemma exists_performs (answers : Answers) (o : CreateOptions) :
    ∃ files area, (∀ found, answers [] .requiredFiles = .ok found → files = found) ∧
      (∀ made, answers [.requiredFiles] (.createUpload o.host) = .ok made → area = made) ∧
      Performs [] (script answers o)
        (cut answers [] ((preparation o files area).map Attempt.call ++
          [.createInstances o.host (finalRequest o area)]))
        (outcome answers []
          (Except.withNote s!"create cvd on host {quoted o.host}"
            (answers ((preparation o files area).map Attempt.call)
              (.createInstances o.host (finalRequest o area))))
          (preparation o files area)) := by
  -- where one of the two calls fails, no later call is told of its answer
  obtain ⟨files, hfiles⟩ := exists_answer (answers [] .requiredFiles)
  obtain ⟨area, harea⟩ := exists_answer (answers [.requiredFiles] (.createUpload o.host))
  refine ⟨files, area, hfiles, harea, ?_⟩
  obtain ⟨host, source, count⟩ := o
  cases source with
  | localBuild =>
    refine .attempt hfiles ?_
    refine .attempt harea ?_
    refine .log_bind _ ?_
    refine .attempt (fun _ _ => (rfl : () = _)) ?_
    refine .log_bind _ ?_
    exact .last _ _
  | ci builds =>
    refine .attempt (fun _ _ => (rfl : () = _)) ?_
    refine .log_bind _ ?_
    exact .last _ _

/-- The calls of a creation of which none fails: `files` are collected, `area` is made for them, and
`extra` instances are asked for beyond the first. -/
def wholeScript (o : CreateOptions) (extra : UInt32) (files : List String) (area : String) :
    List Call :=
  match o.source with
  | .localBuild =>
    [.requiredFiles, .createUpload o.host, .uploadFiles o.host area files,
      .createInstances o.host ⟨.uploaded area, extra⟩]
  | .ci builds =>
    [.fetchArtifacts o.host ⟨builds.main⟩, .createInstances o.host ⟨.ci builds.named, extra⟩]

lemma wholeScript_eq (o : CreateOptions) (files : List String) (area : String) :
    wholeScript o o.additional files area =
      (preparation o files area).map Attempt.call ++
        [.createInstances o.host (finalRequest o area)] := by
  obtain ⟨host, source, count⟩ := o
  cases source <;> rfl

/-- What is told of a creation whose script ends with `created`. -/
def told (endpoint host : String) : Except Fault (List RemoteRecord) → Except Fault (List Summary)
  | .ok records => .ok (records.map (Summary.ofRemote endpoint host))
  | .error fault => .error (fault.note "failed to create instance")

section Told

variable {endpoint host : String} {created : Except Fault (List RemoteRecord)}

lemma exists_of_told_eq_ok {summaries : List Summary}
    (h : told endpoint host created = .ok summaries) :
    ∃ records, created = .ok records ∧
      summaries = records.map (Summary.ofRemote endpoint host) := by
  cases created with
  | ok records => exact ⟨records, rfl, (Except.ok.inj h).symm⟩
  | error fault => simp [told] at h

lemma exists_of_told_eq_error {fault : Fault} (h : told endpoint host created = .error fault) :
    ∃ ended, created = .error ended ∧ fault = ended.note "failed to create instance" := by
  cases created with
  | ok records => simp [told] at h
  | error ended => exact ⟨ended, rfl, (Except.error.inj h).symm⟩

lemma exists_told_eq_ok_iff :
    (∃ summaries, told endpoint host created = .ok summaries) ↔
      ∃ records, created = .ok records := by
  constructor
  · rintro ⟨summaries, h⟩
    obtain ⟨records, hrecords, -⟩ := exists_of_told_eq_ok h
    exact ⟨records, hrecords⟩
  · rintro ⟨records, rfl⟩
    exact ⟨_, rfl⟩

end Told

lemma run_of_performs {o : CreateOptions} {calls : List Call}
    {created : Except Fault (List RemoteRecord)} (endpoint : String)
    (h : Performs [] (script answers o) calls created) :
    (run endpoint answers o).calls = calls ∧
      (run endpoint answers o).result = told endpoint o.host created := by
  obtain ⟨events, h⟩ := h []
  have hcalls : (run endpoint answers o).calls =
      ((script answers o).run.run ⟨[], []⟩).2.calls := rfl
  have hresult : (run endpoint answers o).result =
      told endpoint o.host ((script answers o).run.run ⟨[], []⟩).1 := rfl
  rw [hcalls, hresult, h]
  exact ⟨rfl, rfl⟩

/-- **A creation is one script of calls, cut after the first that fails.**  The calls it makes are
those of the whole script up to the first that fails, each told what the calls before it answered.
It ends well exactly if the whole script does, and then with a summary for each record that the
last call answered, in that order; otherwise it ends with the fault of the last call it made. -/
theorem calls_of_creation (endpoint : String) (answers : Answers) (o : CreateOptions) :
    ∃ (extra : UInt32) (files : List String) (area : String),
      extra.toNat + 1 = max o.count.toNat 1 ∧
      (∀ found, answers [] .requiredFiles = .ok found → files = found) ∧
      (∀ made, answers [.requiredFiles] (.createUpload o.host) = .ok made → area = made) ∧
      (run endpoint answers o).calls = cut answers [] (wholeScript o extra files area) ∧
      (run endpoint answers o).calls <+: wholeScript o extra files area ∧
      ((∃ summaries, (run endpoint answers o).result = .ok summaries) ↔
        AllSucceed answers [] (wholeScript o extra files area)) ∧
      (∀ summaries, (run endpoint answers o).result = .ok summaries →
        ∃ earlier request records,
          wholeScript o extra files area = earlier ++ [.createInstances o.host request] ∧
          answers earlier (.createInstances o.host request) = .ok records ∧
          summaries = records.map fun r =>
            ⟨⟨endpoint, o.host, r.name⟩, r.status, r.displays, none⟩) ∧
      (∀ fault, (run endpoint answers o).result = .error fault →
        ∃ earlier call cause note,
          (run endpoint answers o).calls = earlier ++ [call] ∧
          answers earlier call = .error cause ∧
          fault = (cause.note note).note "failed to create instance") := by
  obtain ⟨files, area, hfiles, harea, hperforms⟩ := exists_performs answers o
  obtain ⟨hcalls, hresult⟩ := run_of_performs endpoint hperforms
  refine ⟨o.additional, files, area, o.toNat_additional, hfiles, harea, ?_⟩
  rw [hcalls, hresult, wholeScript_eq]
  refine ⟨rfl, cut_isPrefix .., ?_, ?_, ?_⟩
  · rw [allSucceed_concat, List.nil_append, exists_told_eq_ok_iff]
    constructor
    · rintro ⟨records, h⟩
      obtain ⟨hprep, hlast⟩ := outcome_eq_ok_iff.mp h
      exact ⟨hprep, records, withNote_eq_ok_iff.mp hlast⟩
    · rintro ⟨hprep, records, hlast⟩
      exact ⟨records, outcome_eq_ok_iff.mpr ⟨hprep, withNote_eq_ok_iff.mpr hlast⟩⟩
  · intro summaries h
    obtain ⟨records, hrecords, rfl⟩ := exists_of_told_eq_ok h
    obtain ⟨-, hlast⟩ := outcome_eq_ok_iff.mp hrecords
    exact ⟨_, _, records, rfl, withNote_eq_ok_iff.mp hlast, rfl⟩
  · intro fault h
    obtain ⟨ended, hended, rfl⟩ := exists_of_told_eq_error h
    obtain ⟨before, last, cause, about, hcut, hcause, rfl⟩ := exists_of_outcome_eq_error rfl hended
    exact ⟨before, last, cause, about, hcut, hcause, rfl⟩

end DeviceFleet.Creation
