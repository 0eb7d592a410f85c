/-
# Recorded ports

A record of a tunnel has its port as one of its values (`AdbStatus.Around`), and so have the records
around it; nothing else is decoded (`exists_around_of_decode`).  A record with everything but the
port in order is decoded exactly if the value in its place is a port, and then this is the port of
the record.  So whatever number is spelled in the place of the port, it is neither wrapped nor
rounded: it is refused unless it is the text of a port, and that is the text that is written for the
port again (`Reader.TakesPort`).  A file of the control directory with another number is reported,
once, and leaves no other trace (`ControlDir.OneFault`).
-/
import DeviceFleet.Proofs.Connections.TornFile
import DeviceFleet.Proofs.Instance.Decoding
import DeviceFleet.Proofs.Json.FullRecord
import DeviceFleet.Proofs.Json.Literal

namespace DeviceFleet

open Json

/-! ## Values around a port -/

variable {port v : Value} {state : String} {i : Identity} {t text before after : List Char}

/-- A value that has the texts of the identity. -/
def Identity.Around (i : Identity) (v : Value) : Prop :=
  v.Has ["service_root_endpoint", "host", "name"]
    [.text (some i.endpoint), .text (some i.host), .text (some i.name)]

/-- A tunnel state with the value in the place of its port. -/
def AdbStatus.Around (port : Value) (state : String) (v : Value) : Prop :=
  v.Has ["port", "state"] [port, .text (some state)]

/-- A connection with the value in the place of the port. -/
def ConnectionStatus.Around (port : Value) (state : String) (v : Value) : Prop :=
  ∃ adb, v.Has ["adb"] [adb] ∧ AdbStatus.Around port state adb

/-- The record of a connection with the value in the place of the port. -/
def ConnectionRecord.Around (port : Value) (state : String) (i : Identity) (v : Value) : Prop :=
  ∃ cvd status, v.Has ["cvd", "status"] [cvd, status] ∧ i.Around cvd ∧
    ConnectionStatus.Around port state status

lemma Identity.denotes_iff (h : i.Around v) {j : Identity} : Denotes rules v j ↔ j = i := by
  refine Iff.trans (denotes_iff_of_has (by decide) h) ?_
  rcases i with ⟨endpoint, host, name⟩
  rcases j with ⟨endpoint', host', name'⟩
  simp [rules, Value.IsText, eq_comm]

lemma AdbStatus.denotes_iff (h : Around port state v) {a : AdbStatus} :
    Denotes rules v a ↔ ∃ p, port.IsPort p ∧ a = ⟨p, state⟩ := by
  refine Iff.trans (denotes_iff_of_has (by decide) h) ?_
  rcases a with ⟨p, state'⟩
  simp [rules, Value.IsText, eq_comm]

lemma ConnectionStatus.denotes_iff (h : Around port state v) {s : ConnectionStatus} :
    Denotes rules v s ↔ ∃ p, port.IsPort p ∧ s = ⟨⟨p, state⟩⟩ := by
  obtain ⟨adb, hv, hadb⟩ := h
  refine Iff.trans (denotes_iff_of_has (by decide) hv) ?_
  rcases s with ⟨a⟩
  simp [rules, AdbStatus.denotes_iff hadb]

lemma ConnectionRecord.denotes_iff (h : Around port state i v) {r : ConnectionRecord} :
    Denotes rules v r ↔ ∃ p, port.IsPort p ∧ r = ⟨i, ⟨⟨p, state⟩⟩⟩ := by
  obtain ⟨cvd, status, hv, hcvd, hstatus⟩ := h
  have hparts : Denotes rules v r ↔
      r.identity = i ∧ ∃ p, port.IsPort p ∧ r.status = ⟨⟨p, state⟩⟩ := by
    refine Iff.trans (denotes_iff_of_has (by decide) hv) ?_
    simp [rules, Identity.denotes_iff hcvd, ConnectionStatus.denotes_iff hstatus]
  rw [hparts]
  constructor
  · rintro ⟨rfl, p, hp, hs⟩
    exact ⟨p, hp, by rw [← hs]⟩
  · rintro ⟨p, hp, rfl⟩
    exact ⟨rfl, p, hp, rfl⟩

/-! ### Every record is around a port -/

lemma Identity.around_of_denotes (h : Denotes rules v i) : i.Around v := by
  obtain ⟨vs, hv, hparts⟩ := exists_has_of_denotes (by simp [rules]) (by decide) h
  rcases hparts with _ | ⟨hendpoint, _ | ⟨hhost, _ | ⟨hname, _ | _⟩⟩⟩
  obtain rfl := hendpoint
  obtain rfl := hhost
  obtain rfl := hname
  exact hv

lemma AdbStatus.exists_around {a : AdbStatus} (h : Denotes rules v a) :
    ∃ port, Around port a.state v := by
  obtain ⟨vs, hv, hparts⟩ := exists_has_of_denotes (by simp [rules]) (by decide) h
  rcases hparts with _ | ⟨-, _ | ⟨hstate, _ | _⟩⟩
  obtain rfl := hstate
  exact ⟨_, hv⟩

lemma ConnectionStatus.exists_around {s : ConnectionStatus} (h : Denotes rules v s) :
    ∃ port, Around port s.adb.state v := by
  obtain ⟨vs, hv, hparts⟩ := exists_has_of_denotes (by simp [rules]) (by decide) h
  rcases hparts with _ | ⟨hadb, _ | _⟩
  obtain ⟨port, hport⟩ := AdbStatus.exists_around hadb
  exact ⟨port, _, hv, hport⟩

lemma ConnectionRecord.exists_around {r : ConnectionRecord} (h : Denotes rules v r) :
    ∃ port, Around port r.status.adb.state r.identity v := by
  obtain ⟨vs, hv, hparts⟩ := exists_has_of_denotes (by simp [rules]) (by decide) h
  rcases hparts with _ | ⟨hcvd, _ | ⟨hstatus, _ | _⟩⟩
  obtain ⟨port, hport⟩ := ConnectionStatus.exists_around hstatus
  exact ⟨port, _, _, hv, Identity.around_of_denotes hcvd, hport⟩

/-- **Whatever is decoded with a port is around one**, so nothing is left out by looking at values
around a port. -/
theorem exists_around_of_decode (hv : Spells v text) :
    (∀ a, AdbStatus.reader.decode text = .ok a → ∃ port, AdbStatus.Around port a.state v) ∧
    (∀ s, ConnectionStatus.reader.decode text = .ok s →
      ∃ port, ConnectionStatus.Around port s.adb.state v) ∧
    ∀ r, ConnectionRecord.reader.decode text = .ok r →
      ∃ port, ConnectionRecord.Around port r.status.adb.state r.identity v := by
  refine ⟨fun a ha => ?_, fun s hs => ?_, fun r hr => ?_⟩
  · exact AdbStatus.exists_around ((decode_self_eq_ok_iff AdbStatus.layout.follows hv).mp ha)
  · exact ConnectionStatus.exists_around
      ((decode_self_eq_ok_iff ConnectionStatus.layout.follows hv).mp hs)
  · exact ConnectionRecord.exists_around
      ((decode_self_eq_ok_iff ConnectionRecord.layout.follows hv).mp hr)

/-! ## Decoding around a port -/

/-- A text with the literal in the place of the port is decoded exactly if the literal is the text
of a port, and the port is then the number that it spells and is written as it was. -/
structure Json.Reader.TakesPort {α : Type} (reader : Reader α) (tunnel : α → AdbStatus)
    (state : String) (t text : List Char) : Prop where
  /-- It is decoded exactly if the literal is the text of a port. -/
  succeeds : (∃ a, reader.decode text = .ok a) ↔ PortText t
  /-- The port is the number. -/
  port : ∀ a, reader.decode text = .ok a → (tunnel a).port.toNat = numberOf t
  /-- The literal is written again. -/
  write : ∀ a, reader.decode text = .ok a →
    (tunnel a).write = writeObject [⟨"port", t⟩, .text "state" state]

section Decoding

variable {α : Type} {reader : Reader α} {rules : List (FieldRule α)} {tunnel : α → AdbStatus}
  {make : UInt16 → α}

/-- The records that are decoded are those with a port that is written as the value is spelled. -/
lemma decode_around_iff (hreader : reader.Follows (Denotes rules))
    (hdenotes : ∀ a, Denotes rules v a ↔ ∃ p, port.IsPort p ∧ a = make p) (ht : Spells port t)
    (hv : Spells v text) (hbefore : Gap before) (hafter : Gap after) {a : α} :
    reader.decode (before ++ text ++ after) = .ok a ↔ ∃ p, t = writeNat p.toNat ∧ a = make p := by
  rw [decode_eq_ok_iff hreader hv hbefore hafter, hdenotes]
  exact exists_congr fun p => and_congr_left fun _ => isPort_iff ht

lemma takesPort_of_decode (make : UInt16 → α) (hmake : ∀ p, tunnel (make p) = ⟨p, state⟩)
    (h : ∀ a, reader.decode text = .ok a ↔ ∃ p, t = writeNat p.toNat ∧ a = make p) :
    reader.TakesPort tunnel state t text where
  succeeds := by
    rw [← exists_port_iff]
    constructor
    · rintro ⟨a, ha⟩
      obtain ⟨p, hp, -⟩ := (h a).mp ha
      exact ⟨p, hp⟩
    · rintro ⟨p, hp⟩
      exact ⟨make p, (h _).mpr ⟨p, hp, rfl⟩⟩
  port a ha := by
    obtain ⟨p, rfl, rfl⟩ := (h a).mp ha
    rw [hmake, numberOf_writeNat]
  write a ha := by
    obtain ⟨p, rfl, rfl⟩ := (h a).mp ha
    rw [hmake]
    rfl

end Decoding

/-! ## Files around a port -/

namespace ControlDir

variable {fs : FileSystem} {controlDir name : String} {front back : List DirectoryEntry}
  {f : Fault}

/-- A file is reported, once, and leaves no other trace. -/
structure OneFault (fs : FileSystem) (controlDir : String) (front : List DirectoryEntry)
    (name : String) (back : List DirectoryEntry) (f : Fault) : Prop where
  /-- The fault is all that the file contributes. -/
  contributes : ∀ scope c, Contributes fs scope (recordPath controlDir name) c ↔ c = .fault f
  /-- A load tells it, and besides only the faults of other entries. -/
  fault : ∀ scope, (load fs controlDir scope).fault = some (.aggregate
    (faultsAt fs (directory controlDir) front ++ f :: faultsAt fs (directory controlDir) back))
  /-- A load has the statuses that it would have without the file. -/
  statuses : ∀ scope fs', fs'.entries (directory controlDir) = .ok (front ++ back) →
    SameFiles controlDir (front ++ back) fs' fs →
      (load fs controlDir scope).statuses = (load fs' controlDir scope).statuses

/-- A file that contributes a fault leaves no other trace. -/
lemma oneFault_of_contributes
    (hentries : fs.entries (directory controlDir) = .ok (front ++ .ok name :: back))
    (hname : Considered name)
    (h : ∀ scope, Contributes fs scope (recordPath controlDir name) (.fault f)) :
    OneFault fs controlDir front name back f where
  contributes scope c := by
    rw [contributes_iff, ← (h scope).eq_contribution]
  fault := fault_load_of_adds hentries (counts_ok.mpr hname) (adds_ok_iff.mpr (h .allHosts))
  statuses scope fs' hentries' hsame :=
    (statuses_load_of_fault hentries hentries' hsame (adds_ok_iff.mpr (h scope))).symm

section File

variable (hdecode : ∀ r, ConnectionRecord.reader.decode text = .ok r ↔
    ∃ p, t = writeNat p.toNat ∧ r = ⟨i, ⟨⟨p, state⟩⟩⟩)
  (hbytes : fs.bytes (recordPath controlDir name) = .ok (String.ofList text).toUTF8)
include hdecode hbytes

/-- With the text of a port, the file contributes the connection with this port. -/
lemma exists_contributes_of_portText (hport : PortText t) :
    ∃ p : UInt16, p.toNat = numberOf t ∧ ∀ scope, scope.includes i.host = true →
      ∀ c, Contributes fs scope (recordPath controlDir name) c ↔ c = .status i ⟨⟨p, state⟩⟩ := by
  obtain ⟨p, rfl⟩ := exists_port_iff.mpr hport
  refine ⟨p, (numberOf_writeNat _).symm, fun scope hscope c => ?_⟩
  have hrecord : ConnectionRecord.reader.decode (String.ofList text).toList =
      .ok ⟨i, ⟨⟨p, state⟩⟩⟩ := by
    rw [String.toList_ofList]
    exact (hdecode _).mpr ⟨p, rfl, rfl⟩
  have hstatus : Contributes fs scope (recordPath controlDir name) (.status i ⟨⟨p, state⟩⟩) :=
    .status (FileSystem.text_of_bytes hbytes) hrecord hscope
  rw [contributes_iff, hstatus.eq_contribution]

/-- With another text, the file is reported. -/
lemma exists_oneFault_of_not_portText
    (hentries : fs.entries (directory controlDir) = .ok (front ++ .ok name :: back))
    (hname : Considered name) (hport : ¬ PortText t) :
    ∃ error, OneFault fs controlDir front name back
      (.context ("parsing connection file " ++ recordPath controlDir name) (.json error)) := by
  cases hresult : ConnectionRecord.reader.decode text with
  | ok r =>
    obtain ⟨p, hp, -⟩ := (hdecode r).mp hresult
    exact absurd (exists_port_iff.mp ⟨p, hp⟩) hport
  | error error =>
    rw [← String.toList_ofList (l := text)] at hresult
    exact ⟨error, oneFault_of_contributes hentries hname fun scope =>
      .undecodable (FileSystem.text_of_bytes hbytes) hresult⟩

end File

/-- **A recorded port is the number that is spelled in its place**, whatever the number is.  A
tunnel state, a connection or the record of a connection with everything but the port in order, as
an object or as an array, is decoded exactly if the number is the text of a port: whole digits
without a sign, a zero in front, a fraction or an exponent, and below `2 ^ 16`.  The port is then
just this number, and it is written as it was spelled.  A file of the control directory with such a
record contributes the connection with this port; with any other number it is reported, once, and
leaves no other trace. -/
theorem takesPort_of_numberText (hnumber : NumberText t) :
    (∃ port, Spells port t) ∧
    ∀ port, Spells port t → ∀ state v text before after, Spells v text → Gap before → Gap after →
      (AdbStatus.Around port state v →
        AdbStatus.reader.TakesPort id state t (before ++ text ++ after)) ∧
      (ConnectionStatus.Around port state v →
        ConnectionStatus.reader.TakesPort (·.adb) state t (before ++ text ++ after)) ∧
      ∀ i, ConnectionRecord.Around port state i v →
        ConnectionRecord.reader.TakesPort (·.status.adb) state t (before ++ text ++ after) ∧
        ∀ fs controlDir front name back,
          fs.entries (directory controlDir) = .ok (front ++ .ok name :: back) → Considered name →
          fs.bytes (recordPath controlDir name) =
            .ok (String.ofList (before ++ text ++ after)).toUTF8 →
          (PortText t → ∃ p : UInt16, p.toNat = numberOf t ∧
            ∀ scope, scope.includes i.host = true → ∀ c,
              Contributes fs scope (recordPath controlDir name) c ↔ c = .status i ⟨⟨p, state⟩⟩) ∧
          (¬ PortText t → ∃ error, OneFault fs controlDir front name back
            (.context ("parsing connection file " ++ recordPath controlDir name)
              (.json error))) := by
  refine ⟨hnumber.exists_spells, ?_⟩
  intro port ht state v text before after hv hbefore hafter
  refine ⟨fun hadb => ?_, fun hstatus => ?_, fun i hrecord => ?_⟩
  · have hdecode := fun a => decode_around_iff AdbStatus.layout.follows
      (fun _ => AdbStatus.denotes_iff hadb) ht hv hbefore hafter (a := a)
    exact takesPort_of_decode (fun p => ⟨p, state⟩) (fun _ => rfl) hdecode
  · have hdecode := fun s => decode_around_iff ConnectionStatus.layout.follows
      (fun _ => ConnectionStatus.denotes_iff hstatus) ht hv hbefore hafter (a := s)
    exact takesPort_of_decode (fun p => ⟨⟨p, state⟩⟩) (fun _ => rfl) hdecode
  · have hdecode := fun r => decode_around_iff ConnectionRecord.layout.follows
      (fun _ => ConnectionRecord.denotes_iff hrecord) ht hv hbefore hafter (a := r)
    refine ⟨takesPort_of_decode (fun p => ⟨i, ⟨⟨p, state⟩⟩⟩) (fun _ => rfl) hdecode, ?_⟩
    intro fs controlDir front name back hentries hname hbytes
    exact ⟨exists_contributes_of_portText hdecode hbytes,
      exists_oneFault_of_not_portText hdecode hbytes hentries hname⟩

/-- The record of a connection as an array, with a value in the place of the port. -/
def recordAround (port : Value) : Value :=
  .list [.list (["h", "h", "h"].map fun s => .text (some s)),
    .list [.list [port, .text (some "h")]]]

/-- Its text, with a text in the place of the port. -/
def recordText (t : List Char) : List Char :=
  writeList [writeList (["h", "h", "h"].map writeString),
    writeList [writeList [t, writeString "h"]]]

lemma around_recordAround (port : Value) :
    ConnectionRecord.Around port "h" ⟨"h", "h", "h"⟩ (recordAround port) :=
  ⟨_, _, ⟨rfl, rfl⟩, ⟨rfl, rfl⟩, _, ⟨rfl, rfl⟩, ⟨rfl, rfl⟩⟩

lemma spells_recordText (ht : Spells port t) : Spells (recordAround port) (recordText t) := by
  have hidentity : Spells (.list (["h", "h", "h"].map fun s => .text (some s)))
      (writeList (["h", "h", "h"].map writeString)) :=
    spells_writeList fun s _ => spells_writeString s
  have htunnel : ∀ part ∈ [(port, t), (.text (some "h"), writeString "h")],
      Spells part.1 part.2 :=
    List.forall_mem_cons.mpr ⟨ht, List.forall_mem_singleton.mpr (spells_writeString "h")⟩
  have hstatus : ∀ part ∈ [(_, _)], Spells part.1 part.2 :=
    List.forall_mem_singleton.mpr (spells_writeList htunnel)
  have hparts : ∀ part ∈ [(_, _), (_, _)], Spells part.1 part.2 :=
    List.forall_mem_cons.mpr ⟨hidentity, List.forall_mem_singleton.mpr (spells_writeList hstatus)⟩
  exact spells_writeList hparts

/-- A control directory with the file of this record, with space around it. -/
def recorded (t : List Char) : FileSystem where
  bytes _ := .ok (String.ofList ([' '] ++ recordText t ++ ['\n'])).toUTF8
  modified _ := .error .notFound
  entries _ := .ok [.ok "h.json"]

/-- The greatest port is loaded, and a number with an exponent is refused. -/
theorem takesPort_of_numberText_recorded :
    Contributes (recorded ['6', '5', '5', '3', '5']) .allHosts "d/connections/h.json"
      (.status ⟨"h", "h", "h"⟩ ⟨⟨65535, "h"⟩⟩) ∧
    (∃ error, (load (recorded ['1', 'e', '2']) "d" .allHosts).fault = some (.aggregate
      [.context "parsing connection file d/connections/h.json" (.json error)])) ∧
    (load (recorded ['1', 'e', '2']) "d" .allHosts).statuses = {} := by
  have hgreatest : PortText ['6', '5', '5', '3', '5'] :=
    ⟨.positive rfl (by decide) (List.all_eq_true.mp rfl), by decide⟩
  have hrefused : ¬ PortText ['1', 'e', '2'] := by
    rintro ⟨hwhole, -⟩
    cases hwhole with
    | positive _ _ hdigits => exact absurd (hdigits 'e' (by simp)) (by decide)
  have hfive : NumberText ([] ++ (['6', '5', '5', '3', '5'] ++ ([] ++ []))) :=
    .mk (.inl rfl) hgreatest.1 (.inl rfl) (.inl rfl)
  have hexponent : NumberText ([] ++ (['1'] ++ ([] ++ ['e', '2']))) :=
    .mk (.inl rfl) (.positive rfl (by decide) (by simp)) (.inl rfl)
      (.inr ⟨⟨false, none, ⟨'2', [], rfl, by simp⟩⟩, rfl⟩)
  have hbefore : Gap [' '] := by simp [Gap, isSpace]
  have hafter : Gap ['\n'] := by simp [Gap, isSpace]
  -- the file is the only one of the directory
  have hfile : ∀ t, NumberText t →
      (PortText t → ∃ p : UInt16, p.toNat = numberOf t ∧
        ∀ scope, scope.includes "h" = true → ∀ c,
          Contributes (recorded t) scope "d/connections/h.json" c ↔
            c = .status ⟨"h", "h", "h"⟩ ⟨⟨p, "h"⟩⟩) ∧
      (¬ PortText t → ∃ error, OneFault (recorded t) "d" [] "h.json" []
        (.context "parsing connection file d/connections/h.json" (.json error))) := by
    intro t ht
    obtain ⟨⟨port, hport⟩, hall⟩ := takesPort_of_numberText ht
    obtain ⟨-, -, hrecord⟩ :=
      hall port hport "h" _ _ _ _ (spells_recordText hport) hbefore hafter
    exact (hrecord _ (around_recordAround port)).2 (recorded t) "d" [] "h.json" [] rfl
      (by decide) rfl
  obtain ⟨p, hp, hstatus⟩ := (hfile _ hfive).1 hgreatest
  obtain ⟨error, hone⟩ := (hfile _ hexponent).2 hrefused
  obtain rfl : p = 65535 := UInt16.toNat_inj.mp (hp.trans (by decide))
  refine ⟨(hstatus .allHosts rfl _).mpr rfl, ⟨error, hone.fault .allHosts⟩, ?_⟩
  exact hone.statuses .allHosts { recorded ['1', 'e', '2'] with entries := fun _ => .ok [] } rfl
    fun _ _ => rfl

end ControlDir

end DeviceFleet
