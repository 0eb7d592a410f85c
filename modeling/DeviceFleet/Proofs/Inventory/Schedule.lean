/-
# The steps of a fleet listing

`Inventory.listFleet` says what the listing of a fleet answers; this file says how it comes about.
A coordinator asks for the hosts, loads the recorded connections, spawns one task for each entry of
the enumeration and then joins the tasks in that order.  Each task calls its host and ends, at any
time after it was spawned.  The order of the steps is free but for that, so that a listing is a run
of the relation `Step`.

A host may hold back its answer until another host has been called.  The main statements are that
every step brings a listing closer to its end (`remaining_lt_of_step`), that what `Invariant` says
holds of every state of a run (`invariant_of_reachable`), and that no run gets stuck before its end
(`exists_step`), whichever hosts wait for which.
-/
import DeviceFleet.Inventory.Listing
import Mathlib.Algebra.GroupWithZero.Nat
import Mathlib.Logic.Relation
import Mathlib.Tactic.Common

namespace DeviceFleet.Inventory

/-- What the listing of a fleet meets, whatever the order of its steps. -/
structure Fleet where
  /-- The root of the service. -/
  endpoint : String
  /-- The hosts that the service knows, each with how its listing is going to end. -/
  hosts : Except Fault (List (String × HostAnswer))
  /-- What a load of the recorded connections answers. -/
  connections : Scope → Loaded
  /-- The host that has to be called before the given host answers, if there is one. -/
  waits : String → Option String
  /-- An aggregate has members. -/
  aggregates : ∀ scope fault, (connections scope).fault = some fault →
    fault.root ≠ .aggregate []

/-- How far a task is. -/
inductive Stage where
  /-- It has not called its host. -/
  | spawned
  /-- Its host has not answered. -/
  | called
  /-- It is over. -/
  | ended
deriving DecidableEq, Repr

/-- The listing of one entry of the enumeration. -/
structure Task where
  /-- The host, and how its listing is going to end. -/
  entry : String × HostAnswer
  /-- How far the task is. -/
  stage : Stage

/-- The task at a later stage. -/
def Task.moveTo (stage : Stage) (t : Task) : Task := { t with stage }

/-- The calls that a task has made. -/
def Task.calls (t : Task) : List Call :=
  match t.stage with
  | .spawned => []
  | .called | .ended => [.listInstances t.entry.1]

/-- What the coordinator is at. -/
inductive Phase where
  /-- It has not asked for the hosts. -/
  | starting
  /-- It knows the hosts and has not loaded the connections. -/
  | loading (entries : List (String × HostAnswer))
  /-- It has yet to spawn tasks for the given entries. -/
  | spawning (left : List (String × HostAnswer))
  /-- It has joined that many tasks. -/
  | joining (joined : ℕ)
  /-- It has answered. -/
  | finished (result : Except Fault Listing)

/-- The calls that the coordinator has made. -/
def Phase.calls : Phase → List Call
  | .starting => []
  | .loading _ => [.listHosts]
  | .spawning _ | .joining _ | .finished _ => [.listHosts, .load .allHosts]

/-- A moment of a listing. -/
structure State where
  /-- What the coordinator is at. -/
  phase : Phase := .starting
  /-- The connections that were loaded. -/
  statuses : Statuses := {}
  /-- The tasks in the order in which they were spawned. -/
  tasks : List Task := []
  /-- What the coordinator has to tell so far. -/
  report : Report := {}
  /-- The calls in the order in which they were made. -/
  calls : List Call := []

/-- What the coordinator has to tell when it begins to spawn tasks for so many entries. -/
def openingReport (loaded : Loaded) (count : ℕ) : Report :=
  reportLoad [] loaded.fault ++
    Report.ofEvent ⟨.debug, "listing cvds across hosts", [("hosts", .count count)]⟩

/-- Whether the host may answer: the host that it waits for, if it is enumerated, has been
called. -/
def Released (f : Fleet) (s : State) (host : String) : Prop :=
  ∀ other, f.waits host = some other →
    ∀ entries, f.hosts = .ok entries → other ∈ entries.map Prod.fst → .listInstances other ∈ s.calls

/-- One step of the coordinator or of a task. -/
inductive Step (f : Fleet) : State → State → Prop
  /-- The coordinator learns the hosts. -/
  | enumerate {s : State} {entries : List (String × HostAnswer)} :
      s.phase = .starting → f.hosts = .ok entries →
      Step f s { s with phase := .loading entries, calls := s.calls ++ [.listHosts] }
  /-- The hosts cannot be enumerated. -/
  | refuse {s : State} {fault : Fault} :
      s.phase = .starting → f.hosts = .error fault →
      Step f s { s with
        phase := .finished (.error (fault.note "error listing hosts"))
        calls := s.calls ++ [.listHosts] }
  /-- The coordinator loads the connections of all hosts. -/
  | load {s : State} {entries : List (String × HostAnswer)} :
      s.phase = .loading entries →
      Step f s { s with
        phase := .spawning entries
        statuses := (f.connections .allHosts).statuses
        report := s.report ++ openingReport (f.connections .allHosts) entries.length
        calls := s.calls ++ [.load .allHosts] }
  /-- The coordinator spawns the next task. -/
  | spawn {s : State} {entry : String × HostAnswer} {left : List (String × HostAnswer)} :
      s.phase = .spawning (entry :: left) →
      Step f s { s with phase := .spawning left, tasks := s.tasks ++ [⟨entry, .spawned⟩] }
  /-- With all tasks spawned, the coordinator turns to joining them. -/
  | turn {s : State} : s.phase = .spawning [] → Step f s { s with phase := .joining 0 }
  /-- A task calls its host. -/
  | call {s : State} {i : ℕ} {task : Task} :
      s.tasks[i]? = some task → task.stage = .spawned →
      Step f s { s with
        tasks := s.tasks.modify i (Task.moveTo .called)
        calls := s.calls ++ [.listInstances task.entry.1] }
  /-- The host of a task answers, or takes the task down with it. -/
  | answer {s : State} {i : ℕ} {task : Task} :
      s.tasks[i]? = some task → task.stage = .called → Released f s task.entry.1 →
      Step f s { s with tasks := s.tasks.modify i (Task.moveTo .ended) }
  /-- The coordinator joins the next task. -/
  | join {s : State} {k : ℕ} {task : Task} :
      s.phase = .joining k → s.tasks[k]? = some task → task.stage = .ended →
      Step f s { s with
        phase := .joining (k + 1)
        report := s.report ++ reportHost f.endpoint s.statuses task.entry.1 task.entry.2 }
  /-- With all tasks joined, the coordinator answers. -/
  | finish {s : State} {k : ℕ} :
      s.phase = .joining k → s.tasks[k]? = none →
      Step f s { s with phase := .finished (.ok s.report.listing) }

/-- Some steps lead from one state to the other. -/
def Reaches (f : Fleet) : State → State → Prop := Relation.ReflTransGen (Step f)

/-- The states of the runs. -/
def Reachable (f : Fleet) (s : State) : Prop := Reaches f {} s

/-! ## Moving one task on -/

lemma map_entry_modify (tasks : List Task) (i : ℕ) (stage : Stage) :
    (tasks.modify i (Task.moveTo stage)).map Task.entry = tasks.map Task.entry := by
  apply List.ext_getElem?
  intro j
  rw [List.getElem?_map, List.getElem?_map, List.getElem?_modify]
  by_cases h : i = j
  · simp only [h, if_true, Option.map_eq_map, Option.map_map]
    rfl
  · simp only [h, if_false, Option.map_eq_map, Option.map_id']

lemma modify_split {tasks : List Task} {i : ℕ} {task : Task} (h : tasks[i]? = some task)
    (stage : Stage) : ∃ before after, tasks = before ++ task :: after ∧
      tasks.modify i (Task.moveTo stage) = before ++ task.moveTo stage :: after := by
  obtain ⟨hi, rfl⟩ := List.getElem?_eq_some_iff.mp h
  refine ⟨tasks.take i, tasks.drop (i + 1), by simp, ?_⟩
  rw [List.modify_eq_take_cons_drop hi]

/-- A task that calls its host adds that call. -/
lemma perm_calls_called {tasks : List Task} {i : ℕ} {task : Task} (h : tasks[i]? = some task)
    (hs : task.stage = .spawned) :
    ((tasks.modify i (Task.moveTo .called)).flatMap Task.calls).Perm
      (tasks.flatMap Task.calls ++ [.listInstances task.entry.1]) := by
  obtain ⟨before, after, htasks, hmod⟩ := modify_split h .called
  have hold : task.calls = [] := by rw [Task.calls, hs]
  have hnew : (task.moveTo .called).calls = [.listInstances task.entry.1] := rfl
  rw [hmod, htasks]
  simp only [List.flatMap_append, List.flatMap_cons, hold, hnew, List.nil_append,
    List.append_assoc]
  exact List.perm_append_comm.append_left _

/-- A task that ends makes no call. -/
lemma calls_ended {tasks : List Task} {i : ℕ} {task : Task} (h : tasks[i]? = some task)
    (hs : task.stage = .called) :
    (tasks.modify i (Task.moveTo .ended)).flatMap Task.calls = tasks.flatMap Task.calls := by
  obtain ⟨before, after, htasks, hmod⟩ := modify_split h .ended
  have hold : task.calls = [.listInstances task.entry.1] := by rw [Task.calls, hs]
  have hnew : (task.moveTo .ended).calls = [.listInstances task.entry.1] := rfl
  rw [hmod, htasks]
  simp only [List.flatMap_append, List.flatMap_cons, hold, hnew]

/-! ## Every listing comes to an end -/

/-- The steps that a task at this stage has still to take. -/
def Stage.remaining : Stage → ℕ
  | .spawned => 2
  | .called => 1
  | .ended => 0

/-- The steps that the coordinator has still to take when so many tasks are spawned, together with
all steps of the tasks that are not. -/
def Phase.remaining (f : Fleet) (spawned : ℕ) : Phase → ℕ
  | .starting =>
    match f.hosts with
    | .ok entries => 4 + 4 * entries.length + spawned
    | .error _ => 1
  | .loading entries => 3 + 4 * entries.length + spawned
  | .spawning left => 2 + 4 * left.length + spawned
  | .joining joined => 1 + (spawned - joined)
  | .finished _ => 0

/-- The steps that a listing has still to take. -/
def State.remaining (f : Fleet) (s : State) : ℕ :=
  s.phase.remaining f s.tasks.length + (s.tasks.map fun t => t.stage.remaining).sum

lemma sum_remaining_modify {tasks : List Task} {i : ℕ} {task : Task}
    (h : tasks[i]? = some task) (stage : Stage)
    (hs : stage.remaining < task.stage.remaining) :
    ((tasks.modify i (Task.moveTo stage)).map fun t => t.stage.remaining).sum <
      (tasks.map fun t => t.stage.remaining).sum := by
  obtain ⟨before, after, htasks, hmod⟩ := modify_split h stage
  have hnew : (task.moveTo stage).stage = stage := rfl
  rw [hmod, htasks]
  simp only [List.map_append, List.map_cons, List.sum_append, List.sum_cons, hnew]
  omega

/-- **Every step brings a listing closer to its end**, so that no run is infinite. -/
theorem remaining_lt_of_step {f : Fleet} {s t : State} (h : Step f s t) :
    t.remaining f < s.remaining f := by
  cases h with
  | enumerate hp hh =>
    simp only [State.remaining, hp, Phase.remaining, hh]
    omega
  | refuse hp hh =>
    simp only [State.remaining, hp, Phase.remaining, hh]
    omega
  | load hp =>
    simp only [State.remaining, hp, Phase.remaining]
    omega
  | spawn hp =>
    simp only [State.remaining, hp, Phase.remaining, List.length_append, List.length_cons,
      List.length_nil, List.map_append, List.map_cons, List.map_nil, List.sum_append,
      List.sum_cons, List.sum_nil, Stage.remaining]
    omega
  | turn hp =>
    simp only [State.remaining, hp, Phase.remaining, List.length_nil]
    omega
  | call ht hs =>
    simp only [State.remaining, List.length_modify]
    have := sum_remaining_modify ht .called (by rw [hs]; decide)
    omega
  | answer ht hs hr =>
    simp only [State.remaining, List.length_modify]
    have := sum_remaining_modify ht .ended (by rw [hs]; decide)
    omega
  | join hp ht hs =>
    have hk := (List.getElem?_eq_some_iff.mp ht).1
    simp only [State.remaining, hp, Phase.remaining]
    omega
  | finish hp ht =>
    simp only [State.remaining, hp, Phase.remaining]
    omega

/-! ## What holds of every state of a run -/

section Invariant

variable (f : Fleet) (entries : List (String × HostAnswer))

/-- The first tasks, so many, are over. -/
def Joined (s : State) (k : ℕ) : Prop :=
  ∀ i task, i < k → s.tasks[i]? = some task → task.stage = .ended

/-- The coordinator has told of the load and of the given entries, in this order. -/
def Reported (told : List (String × HostAnswer)) (s : State) : Prop :=
  s.statuses = (f.connections .allHosts).statuses ∧
    s.report = openingReport (f.connections .allHosts) entries.length ++
      Report.join (told.map fun e =>
        reportHost f.endpoint (f.connections .allHosts).statuses e.1 e.2)

/-- How the tasks and the report stand in each phase of the coordinator. -/
def Agrees (s : State) : Prop :=
  match s.phase with
  | .starting => s.tasks = [] ∧ s.report = {}
  | .loading known => known = entries ∧ s.tasks = [] ∧ s.report = {}
  | .spawning left => s.tasks.map Task.entry ++ left = entries ∧ Reported f entries [] s
  | .joining k =>
    s.tasks.map Task.entry = entries ∧ Joined s k ∧ Reported f entries (entries.take k) s
  | .finished result =>
    s.tasks.map Task.entry = entries ∧ Joined s s.tasks.length ∧ Reported f entries entries s ∧
      result = .ok s.report.listing

/-- What holds of every state of a run over the enumerated entries. -/
structure Invariant (s : State) : Prop where
  /-- The coordinator's calls come first, and then those of the tasks. -/
  calls : ∃ made, s.calls = s.phase.calls ++ made ∧ made.Perm (s.tasks.flatMap Task.calls)
  /-- The tasks and the report agree with the phase. -/
  agrees : Agrees f entries s

variable {f entries}

lemma invariant_initial : Invariant f entries {} := ⟨⟨[], rfl, .refl _⟩, rfl, rfl⟩

lemma Joined.moveTo {s : State} {k i : ℕ} {task : Task} (h : Joined s k)
    (ht : s.tasks[i]? = some task) (hs : task.stage ≠ .ended) (stage : Stage)
    (calls : List Call) :
    Joined { s with tasks := s.tasks.modify i (Task.moveTo stage), calls } k := by
  intro j other hj hother
  have hne : i ≠ j := by
    rintro rfl
    exact hs (h i task hj ht)
  rw [List.getElem?_modify_ne _ _ hne] at hother
  exact h j other hj hother

/-- A step of a task leaves the coordinator as it is. -/
lemma Agrees.moveTo {s : State} {i : ℕ} {task : Task} (h : Agrees f entries s)
    (ht : s.tasks[i]? = some task) (hs : task.stage ≠ .ended) (stage : Stage)
    (calls : List Call) :
    Agrees f entries { s with tasks := s.tasks.modify i (Task.moveTo stage), calls } := by
  unfold Agrees at h ⊢
  cases hp : s.phase with
  -- before tasks are spawned, there is none to move on
  | starting =>
    rw [hp] at h
    obtain ⟨htasks, -⟩ := h
    simp [htasks] at ht
  | loading known =>
    rw [hp] at h
    obtain ⟨-, htasks, -⟩ := h
    simp [htasks] at ht
  | spawning left =>
    rw [hp] at h
    obtain ⟨hentries, hreported⟩ := h
    exact ⟨by rw [map_entry_modify, hentries], hreported⟩
  | joining k =>
    rw [hp] at h
    obtain ⟨hentries, hjoined, hreported⟩ := h
    exact ⟨by rw [map_entry_modify, hentries], hjoined.moveTo ht hs stage calls, hreported⟩
  | finished result =>
    rw [hp] at h
    obtain ⟨hentries, hjoined, hreported, hresult⟩ := h
    refine ⟨by rw [map_entry_modify, hentries], ?_, hreported, hresult⟩
    rw [List.length_modify]
    exact hjoined.moveTo ht hs stage calls

/-- What the coordinator has told grows by the next entry. -/
lemma Reported.next {s : State} {k : ℕ} {entry : String × HostAnswer}
    (h : Reported f entries (entries.take k) s) (hk : entries[k]? = some entry) :
    s.report ++ reportHost f.endpoint s.statuses entry.1 entry.2 =
      openingReport (f.connections .allHosts) entries.length ++
        Report.join ((entries.take (k + 1)).map fun e =>
          reportHost f.endpoint (f.connections .allHosts).statuses e.1 e.2) := by
  obtain ⟨hstatuses, hreport⟩ := h
  rw [List.take_add_one, hk, Option.toList_some, List.map_append, List.map_singleton,
    Report.join_concat, hstatuses, hreport, Report.append_assoc]

lemma invariant_of_step (hf : f.hosts = .ok entries) {s t : State}
    (h : Invariant f entries s) (hstep : Step f s t) : Invariant f entries t := by
  obtain ⟨⟨made, hcalls, hperm⟩, hagrees⟩ := h
  cases hstep with
  | enumerate hp hh =>
    simp only [Agrees, hp] at hagrees
    obtain ⟨htasks, hreport⟩ := hagrees
    have hmade : made = [] := by simpa [htasks] using hperm
    have hknown := Except.ok.inj (hh.symm.trans hf)
    refine ⟨⟨[], ?_, ?_⟩, hknown, htasks, hreport⟩
    · rw [hcalls, hp, hmade]
      rfl
    · rw [htasks]
      exact .refl _
  | refuse hp hh =>
    rw [hf] at hh
    cases hh
  | load hp =>
    simp only [Agrees, hp] at hagrees
    obtain ⟨rfl, htasks, hreport⟩ := hagrees
    have hmade : made = [] := by simpa [htasks] using hperm
    refine ⟨⟨[], ?_, ?_⟩, ?_, rfl, ?_⟩
    · rw [hcalls, hp, hmade]
      rfl
    · rw [htasks]
      exact .refl _
    · rw [htasks]
      rfl
    · rw [hreport, Report.empty_append]
      exact (Report.append_empty _).symm
  | spawn hp =>
    simp only [Agrees, hp] at hagrees
    obtain ⟨hentries, hreported⟩ := hagrees
    refine ⟨⟨made, ?_, ?_⟩, ?_, hreported⟩
    · rw [hcalls, hp]
      rfl
    · rw [List.flatMap_append]
      simpa [Task.calls] using hperm
    · simpa [Task.entry] using hentries
  | turn hp =>
    simp only [Agrees, hp] at hagrees
    obtain ⟨hentries, hreported⟩ := hagrees
    refine ⟨⟨made, ?_, hperm⟩, ?_, ?_, ?_⟩
    · rw [hcalls, hp]
      rfl
    · simpa using hentries
    · intro i task hi
      exact absurd hi (Nat.not_lt_zero i)
    · exact hreported
  | @call i task ht hs =>
    refine ⟨⟨made ++ [.listInstances task.entry.1], ?_, ?_⟩,
      hagrees.moveTo ht (by simp [hs]) .called _⟩
    · rw [hcalls, List.append_assoc]
    · exact (hperm.append_right _).trans (perm_calls_called ht hs).symm
  | answer ht hs hr =>
    refine ⟨⟨made, hcalls, ?_⟩, hagrees.moveTo ht (by simp [hs]) .ended s.calls⟩
    rw [calls_ended ht hs]
    exact hperm
  | @join k task hp ht hs =>
    simp only [Agrees, hp] at hagrees
    obtain ⟨hentries, hjoined, hreported⟩ := hagrees
    have hk : entries[k]? = some task.entry := by rw [← hentries, List.getElem?_map, ht]; rfl
    refine ⟨⟨made, ?_, hperm⟩, hentries, ?_, hreported.1, hreported.next hk⟩
    · rw [hcalls, hp]
      rfl
    -- the task that is joined was over, and so were those before it
    · intro i other hi hother
      rcases Nat.lt_succ_iff_lt_or_eq.mp hi with hlt | rfl
      · exact hjoined i other hlt hother
      · rw [Option.some.inj (hother.symm.trans ht), hs]
  | @finish k hp ht =>
    simp only [Agrees, hp] at hagrees
    obtain ⟨hentries, hjoined, hreported⟩ := hagrees
    -- there is no task `k`, so the tasks that are joined are all of them
    have hlength : s.tasks.length ≤ k := List.getElem?_eq_none_iff.mp ht
    refine ⟨⟨made, ?_, hperm⟩, hentries, ?_, ?_, rfl⟩
    · rw [hcalls, hp]
      rfl
    · intro i task hi htask
      exact hjoined i task (Nat.lt_of_lt_of_le hi hlength) htask
    · have hall : entries.take k = entries := by
        apply List.take_of_length_le
        rwa [← hentries, List.length_map]
      rwa [hall] at hreported

/-- **Every state of a run agrees with its phase**, however the steps of the tasks fall. -/
theorem invariant_of_reachable (hf : f.hosts = .ok entries) {s : State} (h : Reachable f s) :
    Invariant f entries s := by
  induction h with
  | refl => exact invariant_initial
  | tail _ hstep ih => exact invariant_of_step hf ih hstep

/-! ## No run gets stuck -/

/-- A host that is held back waits for a host whose task has yet to call it. -/
lemma exists_spawned_of_not_released (hf : f.hosts = .ok entries) {s : State}
    (hi : Invariant f entries s) (hall : s.tasks.map Task.entry = entries) {host : String}
    (hr : ¬ Released f s host) :
    ∃ (i : ℕ) (task : Task), s.tasks[i]? = some task ∧ task.stage = .spawned := by
  simp only [Released, not_forall] at hr
  obtain ⟨other, -, known, hknown, hmem, hcall⟩ := hr
  obtain rfl := Except.ok.inj (hf.symm.trans hknown)
  rw [← hall, List.map_map, List.mem_map] at hmem
  obtain ⟨task, htask, rfl⟩ := hmem
  obtain ⟨i, hget⟩ := List.mem_iff_getElem?.mp htask
  refine ⟨i, task, hget, ?_⟩
  -- had the task called its host, the call would be among those made
  by_contra hstage
  obtain ⟨made, hcalls, hperm⟩ := hi.calls
  have hmade : Call.listInstances task.entry.1 ∈ made := by
    rw [hperm.mem_iff, List.mem_flatMap]
    refine ⟨task, htask, ?_⟩
    cases hs : task.stage with
    | spawned => exact absurd hs hstage
    | called | ended => simp [Task.calls, hs]
  exact hcall (hcalls ▸ List.mem_append_right _ hmade)

/-- **A listing that has not answered can go on**: every task is spawned before the first is
joined, so a host that waits for another never waits for a host that cannot be called. -/
theorem exists_step (hf : f.hosts = .ok entries) {s : State} (hi : Invariant f entries s)
    (hn : ∀ result, s.phase ≠ .finished result) : ∃ t, Step f s t := by
  cases hp : s.phase with
  | starting => exact ⟨_, .enumerate hp hf⟩
  | loading known => exact ⟨_, .load hp⟩
  | spawning left =>
    cases left with
    | nil => exact ⟨_, .turn hp⟩
    | cons entry left => exact ⟨_, .spawn hp⟩
  | joining k =>
    cases ht : s.tasks[k]? with
    | none => exact ⟨_, .finish hp ht⟩
    | some task =>
      cases hs : task.stage with
      | spawned => exact ⟨_, .call ht hs⟩
      | ended => exact ⟨_, .join hp ht hs⟩
      | called =>
        -- a host that is held back leaves another task to take its step
        by_cases hr : Released f s task.entry.1
        · exact ⟨_, .answer ht hs hr⟩
        · have hall : s.tasks.map Task.entry = entries := by
            have hagrees := hi.agrees
            simp only [Agrees, hp] at hagrees
            exact hagrees.1
          obtain ⟨i, other, hother, hspawned⟩ := exists_spawned_of_not_released hf hi hall hr
          exact ⟨_, .call hother hspawned⟩
  | finished result => exact absurd hp (hn result)

/-- Whatever has happened, a listing can still come to an answer. -/
theorem exists_finished (hf : f.hosts = .ok entries) {s : State} (h : Reachable f s) :
    ∃ t result, Reaches f s t ∧ t.phase = .finished result := by
  induction hn : s.remaining f using Nat.strongRecOn generalizing s with
  | ind n ih =>
    by_cases hfin : ∃ result, s.phase = .finished result
    · obtain ⟨result, hp⟩ := hfin
      exact ⟨s, result, .refl, hp⟩
    · have hne : ∀ result, s.phase ≠ .finished result := fun r hr => hfin ⟨r, hr⟩
      obtain ⟨t, hstep⟩ := exists_step hf (invariant_of_reachable hf h) hne
      have hlt : t.remaining f < n := hn ▸ remaining_lt_of_step hstep
      obtain ⟨u, result, hu, hp⟩ := ih _ hlt (h.tail hstep) rfl
      exact ⟨u, result, .head hstep hu, hp⟩

end Invariant

end DeviceFleet.Inventory
