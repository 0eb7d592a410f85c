/-
# Waiting hosts

A host may hold back its answer until another host has been called.  Hosts may wait for each other
in any way, in circles or for themselves, and still a listing of the fleet never hangs: every task
calls its host before it waits, and all tasks are spawned before the coordinator waits for the
first.  The main statement is `listing_completes`: a run goes on until it has answered, cannot go
on forever, and answers what it would have answered had no host waited.
-/
import DeviceFleet.Proofs.Inventory.FleetListing

namespace DeviceFleet.Inventory

/-- The same fleet with hosts that do not wait for each other. -/
def Fleet.unhindered (f : Fleet) : Fleet := { f with waits := fun _ => none }

/-- A run that has come here cannot go on. -/
def Halted (f : Fleet) (s : State) : Prop := ∀ t, ¬ Step f s t

/-- What the coordinator has to tell in the end. -/
def Fleet.report (f : Fleet) : Report :=
  match f.hosts with
  | .error _ => {}
  | .ok entries => reportFleet f.endpoint (f.connections .allHosts) entries

/-- What the coordinator answers. -/
def Fleet.answer (f : Fleet) : Except Fault Listing :=
  match f.hosts with
  | .error fault => .error (fault.note "error listing hosts")
  | .ok _ => .ok f.report.listing

variable {f : Fleet} {s t : State} {entries : List (String × HostAnswer)} {fault : Fault}

/-! ## Where runs end -/

/-- Once the coordinator has answered and every task is over, there is nothing left to do. -/
lemma halted_of_ended {result : Except Fault Listing} (hp : s.phase = .finished result)
    (hended : ∀ (i : Nat) (task : Task), s.tasks[i]? = some task → task.stage = .ended) :
    Halted f s := by
  intro t hstep
  cases hstep with
  | enumerate hp' => rw [hp] at hp'; cases hp'
  | refuse hp' => rw [hp] at hp'; cases hp'
  | load hp' => rw [hp] at hp'; cases hp'
  | spawn hp' => rw [hp] at hp'; cases hp'
  | turn hp' => rw [hp] at hp'; cases hp'
  | call ht hs => rw [hended _ _ ht] at hs; cases hs
  | answer ht hs => rw [hended _ _ ht] at hs; cases hs
  | join hp' => rw [hp] at hp'; cases hp'
  | finish hp' => rw [hp] at hp'; cases hp'

/-- If the hosts cannot be enumerated, a run has asked for them or has not. -/
lemma refused_of_reachable (hf : f.hosts = .error fault) (h : Reachable f s) :
    s = {} ∨ s = { phase := .finished f.answer, calls := [.listHosts] } := by
  induction h with
  | refl => exact .inl rfl
  | tail _ hstep ih =>
    rcases ih with rfl | rfl
    · right
      cases hstep with
      | enumerate _ hh =>
        rw [hf] at hh
        cases hh
      | refuse _ hh =>
        obtain rfl := Except.error.inj (hf.symm.trans hh)
        rw [Fleet.answer, hf]
        rfl
      | load hp => cases hp
      | spawn hp => cases hp
      | turn hp => cases hp
      | call ht => cases ht
      | answer ht => cases ht
      | join hp => cases hp
      | finish hp => cases hp
    · refine absurd hstep (halted_of_ended rfl (fun i task ht => ?_) _)
      cases ht

lemma exists_step_of_reachable (h : Reachable f s) (hn : ∀ result, s.phase ≠ .finished result) :
    ∃ t, Step f s t := by
  cases hf : f.hosts with
  | ok entries => exact exists_step hf (invariant_of_reachable hf h) hn
  | error fault =>
    rcases refused_of_reachable hf h with rfl | rfl
    · exact ⟨_, .refuse rfl hf⟩
    · exact absurd rfl (hn _)

lemma halted_of_finished (h : Reachable f s) {result : Except Fault Listing}
    (hp : s.phase = .finished result) : Halted f s := by
  refine halted_of_ended hp fun i task ht => ?_
  cases hf : f.hosts with
  | ok entries =>
    obtain ⟨-, -, -, hended⟩ := finished_of_run hf h hp
    exact hended task (List.mem_of_getElem? ht)
  | error fault =>
    rcases refused_of_reachable hf h with rfl | rfl
    · cases ht
    · cases ht

/-- A run that cannot go on has answered. -/
lemma finished_of_halted (h : Reachable f s) (hs : Halted f s) :
    s.phase = .finished f.answer ∧ s.report = f.report := by
  obtain ⟨result, hp⟩ : ∃ result, s.phase = .finished result := by
    by_contra! hn
    obtain ⟨t, hstep⟩ := exists_step_of_reachable h hn
    exact hs t hstep
  cases hf : f.hosts with
  | ok entries =>
    obtain ⟨hreport, hresult, -⟩ := finished_of_run hf h hp
    have hreport' : s.report = f.report := by rw [hreport, Fleet.report, hf]
    exact ⟨by rw [hp, hresult, Fleet.answer, hf, hreport'], hreport'⟩
  | error fault =>
    rcases refused_of_reachable hf h with rfl | rfl
    · cases hp
    · exact ⟨rfl, by rw [Fleet.report, hf]⟩

/-! ## Runs are finite -/

/-- Every run comes to where it cannot go on. -/
lemma exists_halted (f : Fleet) (s : State) : ∃ t, Reaches f s t ∧ Halted f t := by
  induction hn : s.remaining f using Nat.strongRecOn generalizing s with
  | ind n ih =>
    by_cases hs : Halted f s
    · exact ⟨s, .refl, hs⟩
    · simp only [Halted, not_forall, not_not] at hs
      obtain ⟨t, hstep⟩ := hs
      obtain ⟨u, hu, hhalted⟩ := ih _ (hn ▸ remaining_lt_of_step hstep) t rfl
      exact ⟨u, .head hstep hu, hhalted⟩

/-- There is no infinite run, from wherever. -/
lemma not_forall_step (run : Nat → State) : ¬ ∀ n, Step f (run n) (run (n + 1)) := by
  intro hrun
  have hbound : ∀ n, (run n).remaining f + n ≤ (run 0).remaining f := by
    intro n
    induction n with
    | zero => exact Nat.le_refl _
    | succ n ih =>
      have := remaining_lt_of_step (hrun n)
      omega
  have := hbound ((run 0).remaining f + 1)
  omega

/-- **A fleet listing never hangs, whichever hosts wait for which.**  A run that has not answered
can go on; every step lowers a measure, so that no run goes on forever; and wherever a run cannot go
on, it has told and answered the same as every such run of the fleet whose hosts do not wait. -/
theorem listing_completes (f : Fleet) :
    (∀ s, Reachable f s → (∀ result, s.phase ≠ .finished result) → ∃ t, Step f s t) ∧
    (∃ measure : State → Nat, ∀ s t, Step f s t → measure t < measure s) ∧
    (∀ run : Nat → State, ¬ ∀ n, Step f (run n) (run (n + 1))) ∧
    (∀ s, Reachable f s → ∃ t, Reaches f s t ∧ Halted f t) ∧
    (∀ s, Reachable f s → (Halted f s ↔ ∃ result, s.phase = .finished result)) ∧
    ∀ s s', Reachable f s → Halted f s → Reachable f.unhindered s' → Halted f.unhindered s' →
      ∃ result, s.phase = .finished result ∧ s'.phase = .finished result ∧
        s.report = s'.report := by
  refine ⟨fun s => exists_step_of_reachable, ⟨State.remaining f, fun s t => remaining_lt_of_step⟩,
    not_forall_step, fun s _ => exists_halted f s, fun s hs => ⟨fun hh => ?_, ?_⟩, ?_⟩
  · exact ⟨_, (finished_of_halted hs hh).1⟩
  · rintro ⟨result, hp⟩
    exact halted_of_finished hs hp
  · intro s s' hs hhalted hs' hhalted'
    obtain ⟨hp, hreport⟩ := finished_of_halted hs hhalted
    obtain ⟨hp', hreport'⟩ := finished_of_halted hs' hhalted'
    -- neither what is told nor what is answered looks at who waits for whom
    exact ⟨f.answer, hp, hp', hreport.trans hreport'.symm⟩

/-- Two hosts that wait for each other, of which one is enumerated twice, a host that waits for
itself, and one that waits for a host that is not there. -/
def circular : Fleet where
  endpoint := "svc"
  hosts := .ok [("a", .listed [⟨"x", "Running", []⟩]), ("b", .failed (.message "unreachable")),
    ("a", .listed [⟨"y", "Running", []⟩]), ("c", .crashed 1 none), ("d", .listed [])]
  connections _ := {}
  waits host := [("a", "b"), ("b", "a"), ("c", "c"), ("d", "e")].lookup host
  aggregates := by
    rintro scope fault ⟨⟩

/-- Every run over these hosts comes to an answer, and to the same. -/
theorem listing_completes_circular :
    ∃ s s' result, Reachable circular s ∧ Halted circular s ∧
      Reachable circular.unhindered s' ∧ Halted circular.unhindered s' ∧
      s.phase = .finished result ∧ s'.phase = .finished result ∧ s.report = s'.report ∧
      s.report.instances.map (·.identity.name) = ["x", "y"] := by
  obtain ⟨-, -, -, hcompletes, -, hsame⟩ := listing_completes circular
  obtain ⟨s, hs, hhalted⟩ := hcompletes {} .refl
  obtain ⟨s', hs', hhalted'⟩ := (listing_completes circular.unhindered).2.2.2.1 {} .refl
  obtain ⟨result, hp, hp', hreport⟩ := hsame s s' hs hhalted hs' hhalted'
  refine ⟨s, s', result, hs, hhalted, hs', hhalted', hp, hp', hreport, ?_⟩
  rw [(finished_of_halted hs hhalted).2]
  rfl

end DeviceFleet.Inventory
