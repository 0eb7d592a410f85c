/-
# Whom a fault is about

The fault of a host that could not be listed names the host, and so do the notes of a creation on
the calls that it makes to a host; an upload names its area as well.  Each name stands between
quotes, behind a phrase.  `Names` says of a text that it starts with such names and that there is no
other way to read it, whatever the names are and whatever stands behind the text.

Two things make this so: quoted texts are prefix-free, so that a name ends where it seems to end,
and no phrase with which a note opens is the start of another.  The main statement `names_of_fault`
is about every run of a fleet listing, every listing of one host and every creation.
-/
import DeviceFleet.Proofs.Creation.Faults
import DeviceFleet.Proofs.Fault.Carried
import DeviceFleet.Proofs.Inventory.Agreement
import DeviceFleet.Proofs.Inventory.Warnings
import DeviceFleet.Proofs.Text.PrefixFree

namespace DeviceFleet

open Text

/-! ## Texts that name -/

/-- A name in a text. -/
@[ext]
structure Mention where
  /-- What stands before the name. -/
  phrase : String
  /-- The name, which stands between quotes. -/
  name : String
deriving DecidableEq, Repr

/-- The text of several names. -/
def naming : List Mention → String
  | [] => ""
  | m :: mentions => m.phrase ++ quoted m.name ++ naming mentions

/-- The phrases of the notes that name whom they are about, one for each name. -/
def namingPhrases : List (List String) :=
  [["list cvds on host "], ["create upload area on host "], ["upload files to ", " on host "],
    ["fetch artifacts on host "], ["create cvd on host "]]

/-- The text gives the names and goes on with the rest, and whatever stands behind it, it cannot be
read as giving other names, with the phrases of any note. -/
structure Names (mentions : List Mention) (text rest : String) : Prop where
  /-- The names come first. -/
  text_eq : text = naming mentions ++ rest
  /-- There is no other way to read the text. -/
  only : ∀ (others : List Mention) (more after : String),
    others.map Mention.phrase ∈ namingPhrases → text ++ more = naming others ++ after →
      others = mentions ∧ after = rest ++ more

section Naming

variable {mentions others : List Mention} {r t : String}

/-- With the same phrases, the names can be told, and where the last of them ends. -/
lemma naming_append_inj_of_phrases
    (hphrases : mentions.map Mention.phrase = others.map Mention.phrase)
    (h : naming mentions ++ r = naming others ++ t) : mentions = others ∧ r = t := by
  induction mentions generalizing others with
  | nil =>
    obtain rfl : others = [] := by simpa using hphrases.symm
    simpa [naming] using h
  | cons m mentions ih =>
    cases others with
    | nil => simp at hphrases
    | cons n others =>
      obtain ⟨hphrase, hrest⟩ := List.cons.inj hphrases
      simp only [naming, hphrase, String.append_assoc, String.append_right_inj] at h
      -- the first name ends at its closing quote, and what stands behind it is left to compare
      obtain ⟨hname, hbehind⟩ := quoted_append_inj.mp h
      obtain ⟨hothers, hr⟩ := ih hrest hbehind
      have hfirst : m = n := Mention.ext hphrase hname
      exact ⟨congrArg₂ List.cons hfirst hothers, hr⟩

/-- No phrase with which a note opens is the start of another. -/
lemma eq_of_opening_isPrefix : ∀ a ∈ namingPhrases, ∀ b ∈ namingPhrases,
    (a.headD "").toList <+: (b.headD "").toList → a = b := by
  decide

/-- A text opens with its first phrase. -/
lemma opening_isPrefix (hmentions : mentions.map Mention.phrase ∈ namingPhrases) (r : String) :
    ((mentions.map Mention.phrase).headD "").toList <+: (naming mentions ++ r).toList := by
  cases mentions with
  | nil => simp [namingPhrases] at hmentions
  | cons m mentions =>
    simp only [List.map_cons, List.headD_cons, naming, String.toList_append, List.append_assoc]
    exact List.prefix_append _ _

/-- **The names in a note can be told**, and where the last of them ends. -/
theorem naming_append_inj (hmentions : mentions.map Mention.phrase ∈ namingPhrases)
    (hothers : others.map Mention.phrase ∈ namingPhrases)
    (h : naming mentions ++ r = naming others ++ t) : mentions = others ∧ r = t := by
  refine naming_append_inj_of_phrases ?_ h
  have hopening := opening_isPrefix hmentions r
  rw [h] at hopening
  rcases List.prefix_or_prefix_of_prefix hopening (opening_isPrefix hothers t) with hle | hle
  · exact eq_of_opening_isPrefix _ hmentions _ hothers hle
  · exact (eq_of_opening_isPrefix _ hothers _ hmentions hle).symm

lemma names_naming (hmentions : mentions.map Mention.phrase ∈ namingPhrases) (rest : String) :
    Names mentions (naming mentions ++ rest) rest where
  text_eq := rfl
  only := by
    intro others more after hothers h
    rw [String.append_assoc] at h
    obtain ⟨hsame, hafter⟩ := naming_append_inj hmentions hothers h
    exact ⟨hsame.symm, hafter.symm⟩

/-- Others than those that are named cannot be read. -/
lemma Names.ne_naming {text rest : String} (h : Names mentions text rest)
    (hothers : others.map Mention.phrase ∈ namingPhrases) (hne : others ≠ mentions)
    (after : String) : text ≠ naming others ++ after := by
  intro heq
  have hread : text ++ "" = naming others ++ after := by rw [String.append_empty, heq]
  exact hne (h.only others "" after hothers hread).1

end Naming

/-! ## Listings -/

namespace Inventory

/-- Whom the fault of a host that could not be listed is about. -/
def mentions (host : String) : List Mention := [⟨"list cvds on host ", host⟩]

/-- What the text of a fault says behind the host. -/
def HostAnswer.afterHost : HostAnswer → String
  | .listed _ => ""
  | .failed cause => String.join (cause.chain.map (": " ++ ·))
  | .crashed task payload => ": " ++ crashText task payload

/-- The fault names the host, in its outermost text and in its whole text, where what the host
answered follows. -/
structure Blames (host : String) (answer : HostAnswer) (fault : Fault) : Prop where
  /-- The outermost text. -/
  outermost : ∃ first ∈ fault.chain.head?, ∃ rest, Names (mentions host) first rest
  /-- The whole text. -/
  whole : Names (mentions host) fault.rendering answer.afterHost

lemma map_phrase_mentions (host : String) :
    (mentions host).map Mention.phrase ∈ namingPhrases := by
  simp [mentions, namingPhrases]

lemma names_host (host rest : String) : Names (mentions host) (hostNote host ++ rest) rest := by
  have hnote : hostNote host = naming (mentions host) := by
    simp only [mentions, naming, String.append_empty]
    rfl
  rw [hnote]
  exact names_naming (map_phrase_mentions host) rest

/-- It is enough that the outermost text starts with the note on the host. -/
lemma blames_of_chain {host rest : String} {answer : HostAnswer} {fault : Fault}
    {texts : List String} (hchain : fault.chain = (hostNote host ++ rest) :: texts)
    (hafter : answer.afterHost = rest ++ String.join (texts.map (": " ++ ·))) :
    Blames host answer fault where
  outermost := by
    refine ⟨hostNote host ++ rest, ?_, rest, names_host host rest⟩
    rw [hchain, List.head?_cons, Option.mem_some_iff]
  whole := by
    rw [Fault.rendering, hchain, joined_cons, String.append_assoc, hafter]
    exact names_host host _

/-- The fault of a host names it. -/
lemma blames_of_fault? {host : String} {answer : HostAnswer} {fault : Fault}
    (h : answer.fault? host = some fault) : Blames host answer fault := by
  cases answer with
  | listed records => cases h
  | failed cause =>
    obtain rfl := Option.some.inj h
    have hchain : (Fault.context (hostNote host) cause).chain =
        (hostNote host ++ "") :: cause.chain := by
      rw [Fault.chain_context, String.append_empty]
    exact blames_of_chain hchain String.empty_append.symm
  | crashed task payload =>
    obtain rfl := Option.some.inj h
    have hchain : (Fault.message s!"{hostNote host}: {crashText task payload}").chain =
        [hostNote host ++ (": " ++ crashText task payload)] := by
      rw [Fault.chain, ← String.append_assoc]
      rfl
    exact blames_of_chain hchain String.append_empty.symm

/-- Each entry that failed or broke off has its fault, in order. -/
lemma forall₂_blames (entries : List (String × HostAnswer)) :
    List.Forall₂ (fun e fault => Blames e.1 e.2 fault) (troubled entries)
      (entries.filterMap fun e => e.2.fault? e.1) := by
  induction entries with
  | nil => exact .nil
  | cons e entries ih =>
    obtain ⟨host, answer⟩ := e
    cases answer with
    | listed records => exact ih
    | failed cause => exact .cons (blames_of_fault? rfl) ih
    | crashed task payload => exact .cons (blames_of_fault? rfl) ih

lemma exists_blames_of_host {service : Service} {connections : Scope → Loaded} {host : String}
    {cause : Fault} (h : service.instances host = .failed cause) :
    ∃ listing fault, (listHost service connections host).result = .ok listing ∧
      listing.faults = (connections (.host host)).faults ++ [fault] ∧
      Blames host (.failed cause) fault := by
  have hanswer : ∀ task payload, service.instances host ≠ .crashed task payload := by
    rw [h]
    rintro task payload ⟨⟩
  refine ⟨_, .context (hostNote host) cause, result_listHost hanswer, ?_, blames_of_fault? rfl⟩
  rw [hostListing, faults_listing, Report.faults_append, faults_reportLoad, faults_reportHost, h]
  rfl

end Inventory

/-! ## Creations -/

namespace Creation

/-- Whom the note of a creation on a host is about, given the call that the note is on. -/
def mentions (host : String) : Call → List Mention
  | .requiredFiles => []
  | .createUpload _ => [⟨"create upload area on host ", host⟩]
  | .uploadFiles _ area _ => [⟨"upload files to ", area⟩, ⟨" on host ", host⟩]
  | .fetchArtifacts .. => [⟨"fetch artifacts on host ", host⟩]
  | .createInstances .. => [⟨"create cvd on host ", host⟩]

/-- The notes on calls to a host have phrases of their own. -/
lemma map_phrase_mentions {call : Call} (h : call ≠ .requiredFiles) (host : String) :
    (mentions host call).map Mention.phrase ∈ namingPhrases := by
  cases call with
  | requiredFiles => exact absurd rfl h
  | createUpload | uploadFiles | fetchArtifacts | createInstances =>
    simp [mentions, namingPhrases]

/-- The note on a call to a host consists of names. -/
lemma Doing.note_eq {host note : String} {call : Call} (h : Doing host call note)
    (hcall : call ≠ .requiredFiles) : note = naming (mentions host call) := by
  cases h with
  | requiredFiles => exact absurd rfl hcall
  | createUpload | uploadFiles | fetchArtifacts | createInstances =>
    simp [mentions, naming, String.append_assoc]

lemma Doing.names {host note : String} {call : Call} (h : Doing host call note)
    (hcall : call ≠ .requiredFiles) : Names (mentions host call) note "" := by
  have hnames := names_naming (map_phrase_mentions hcall host) ""
  rwa [String.append_empty, ← h.note_eq hcall] at hnames

end Creation

open Inventory

/-- **A fault names whom it is about, and nobody else.**  From a quoted text with anything behind it
both can be told.  A fleet whose hosts are enumerated can always come to an answer, and in every run
that has answered, the faults behind those of the load are one for each host that failed or broke
off, in the order of the enumeration: it names that host, with the text of what went wrong behind
the name, and cannot be read as naming another.  So does the fault of a host that failed when it was
listed on its own.  In a creation that fails at a call to the host, the note on the call names the
host, and the upload area if there is one, and can be read in no other way. -/
theorem names_of_fault :
    (∀ s t r u : String, quoted s ++ r = quoted t ++ u ↔ s = t ∧ r = u) ∧
    (∀ (f : Fleet) (entries : List (String × HostAnswer)), f.hosts = .ok entries →
      (∀ s, Reachable f s → ∃ t result, Reaches f s t ∧ t.phase = .finished result) ∧
      ∀ s result, Reachable f s → s.phase = .finished result →
        ∃ listing told, result = .ok listing ∧
          listing.faults = (f.connections .allHosts).faults ++ told ∧
          List.Forall₂ (fun e fault => Blames e.1 e.2 fault) (troubled entries) told) ∧
    (∀ (service : Service) (connections : Scope → Loaded) (host : String) (cause : Fault),
      service.instances host = .failed cause →
      ∃ listing fault, (listHost service connections host).result = .ok listing ∧
        listing.faults = (connections (.host host)).faults ++ [fault] ∧
        Blames host (.failed cause) fault) ∧
    ∀ (endpoint : String) (answers : Creation.Answers) (o : CreateOptions) (fault : Fault),
      (Creation.run endpoint answers o).result = .error fault →
      ∃ earlier call e note, (Creation.run endpoint answers o).calls = earlier ++ [call] ∧
        answers earlier call = .error e ∧
        fault.chain = "failed to create instance" :: note :: e.chain ∧
        (call ≠ .requiredFiles → Names (Creation.mentions o.host call) note "") := by
  refine ⟨fun s t r u => quoted_append_inj, fun f entries hf => ⟨fun s hs => exists_finished hf hs,
    fun s result hs hp => ?_⟩, fun service connections host cause => exists_blames_of_host,
    fun endpoint answers o fault hfault => ?_⟩
  · obtain ⟨hreport, hresult, -⟩ := finished_of_run hf hs hp
    refine ⟨_, _, hresult, ?_, forall₂_blames entries⟩
    rw [faults_listing, hreport, faults_reportFleet]
  · obtain ⟨earlier, call, e, note, hcalls, he, hdoing, htells⟩ :=
      Creation.exists_tellsOf_of_result_eq_error hfault
    exact ⟨earlier, call, e, note, hcalls, he, htells.chain_eq, hdoing.names⟩

/-- Two hosts whose texts would start alike if names were not escaped: what went wrong on the first
reads like the rest of the name of the second. -/
def lookalikes : Fleet where
  endpoint := "svc"
  hosts := .ok [("a", .failed (.message "b\": c")), ("a\": b", .crashed 1 none)]
  connections _ := { fault := some (.message "no directory") }
  waits _ := none
  aggregates := by
    rintro scope fault ⟨⟩
    simp [Fault.root]

/-- The first of these hosts on its own. -/
def firstAlone : Service where
  endpoint := "svc"
  hosts := .ok ["a"]
  instances _ := .failed (.message "b\": c")

/-- An upload area whose name reads like an area on another host; uploads to it are refused. -/
def misleading : Creation.Answers
  | _, .requiredFiles => .ok []
  | _, .createUpload _ => .ok "u\" on host \"b"
  | _, _ => .error (.message "refused")

/-- The second host is not taken for the first, nor the first on its own for the second, nor the
host of the upload for the one in the name of the area. -/
theorem names_of_fault_lookalikes :
    (∃ s listing first second, Reachable lookalikes s ∧ s.phase = .finished (.ok listing) ∧
      listing.faults = [.message "no directory", first, second] ∧
      first.rendering = naming (mentions "a") ++ ": b\": c" ∧
      ∀ after, second.rendering ≠ naming (mentions "a") ++ after) ∧
    (∃ listing fault, (listHost firstAlone lookalikes.connections "a").result = .ok listing ∧
      listing.faults = [.message "no directory", fault] ∧
      ∀ after, fault.rendering ≠ naming (mentions "a\": b") ++ after) ∧
    ∃ fault note, (Creation.run "svc" misleading ⟨"a", .localBuild, 1⟩).result = .error fault ∧
      fault.chain = ["failed to create instance", note, "refused"] ∧
      ∀ after, note ≠ naming [⟨"upload files to ", "u"⟩, ⟨" on host ", "b"⟩] ++ after := by
  obtain ⟨-, hfleet, hhost, hcreation⟩ := names_of_fault
  refine ⟨?_, ?_, ?_⟩
  · obtain ⟨hanswer, hruns⟩ := hfleet lookalikes _ rfl
    obtain ⟨s, result, hs, hp⟩ := hanswer {} .refl
    obtain ⟨listing, told, rfl, hfaults, hblames⟩ := hruns s result hs hp
    obtain ⟨first, second, rfl⟩ : ∃ first second, told = [first, second] :=
      List.length_eq_two.mp hblames.length_eq.symm
    obtain ⟨hfirst, hblames⟩ := List.forall₂_cons.mp hblames
    obtain ⟨hsecond, -⟩ := List.forall₂_cons.mp hblames
    refine ⟨s, listing, first, second, hs, hp, hfaults, hfirst.whole.text_eq, ?_⟩
    exact hsecond.whole.ne_naming (map_phrase_mentions _) (by decide)
  · obtain ⟨listing, fault, hresult, hfaults, hblames⟩ :=
      hhost firstAlone lookalikes.connections "a" _ rfl
    refine ⟨listing, fault, hresult, hfaults, ?_⟩
    exact hblames.whole.ne_naming (map_phrase_mentions _) (by decide)
  · obtain ⟨earlier, call, e, note, hcalls, he, hchain, hnames⟩ :=
      hcreation "svc" misleading ⟨"a", .localBuild, 1⟩ _ rfl
    have hmade : (Creation.run "svc" misleading ⟨"a", .localBuild, 1⟩).calls =
        [.requiredFiles, .createUpload "a"] ++ [.uploadFiles "a" "u\" on host \"b" []] := rfl
    obtain ⟨rfl, hcall⟩ := List.append_inj' (hmade.symm.trans hcalls) rfl
    obtain rfl := List.singleton_inj.mp hcall
    obtain rfl := Except.error.inj he
    refine ⟨_, note, rfl, ?_, ?_⟩
    · rw [hchain, Fault.chain]
    · exact (hnames (by simp)).ne_naming (by simp [namingPhrases]) (by decide)

end DeviceFleet
