/-
# Torn files

An agent may be writing the file of its connection while the directory is loaded, and then the load
sees no more than the first part of a record.  Such a part is never taken for a record: a record is
closed by its last bracket, so nothing that is cut off before it decodes
(`ConnectionRecord.delimited_reader`), and a cut inside of a character leaves bytes that are no
text.  `load_torn` says what that means for a load: the file is reported, once, and leaves no other
trace.
-/
import DeviceFleet.Proofs.Connections.Load
import DeviceFleet.Proofs.Json.RecordLocality

namespace DeviceFleet

open Json

/-! ## Records end by themselves -/

lemma Identity.delimited_reader : Identity.reader.Delimited := by
  show Identity.schema.reader.Delimited
  refine Schema.delimited_reader fun field hfield => ?_
  simp only [Identity.schema, List.mem_cons, List.not_mem_nil, or_false] at hfield
  rcases hfield with rfl | rfl | rfl
  · exact local_of delimited_textReader.toLocal
  · exact local_of delimited_textReader.toLocal
  · exact local_of delimited_textReader.toLocal

lemma AdbStatus.delimited_reader : AdbStatus.reader.Delimited := by
  show AdbStatus.schema.reader.Delimited
  refine Schema.delimited_reader fun field hfield => ?_
  simp only [AdbStatus.schema, List.mem_cons, List.not_mem_nil, or_false] at hfield
  rcases hfield with rfl | rfl
  · exact local_of local_portReader
  · exact local_of delimited_textReader.toLocal

lemma ConnectionStatus.delimited_reader : ConnectionStatus.reader.Delimited := by
  show ConnectionStatus.schema.reader.Delimited
  refine Schema.delimited_reader fun field hfield => ?_
  simp only [ConnectionStatus.schema, List.mem_singleton] at hfield
  subst hfield
  exact local_of AdbStatus.delimited_reader.toLocal

lemma ConnectionRecord.delimited_reader : ConnectionRecord.reader.Delimited := by
  show ConnectionRecord.schema.reader.Delimited
  refine Schema.delimited_reader fun field hfield => ?_
  simp only [ConnectionRecord.schema, List.mem_cons, List.not_mem_nil, or_false] at hfield
  rcases hfield with rfl | rfl
  · exact local_of Identity.delimited_reader.toLocal
  · exact local_of ConnectionStatus.delimited_reader.toLocal

/-! ## Bytes and characters -/

/-- The bytes that are space between values: space, tab, line feed and carriage return. -/
def spaceBytes : List UInt8 := [0x20, 0x09, 0x0A, 0x0D]

lemma mem_spaceBytes_of_isSpace {c : Char} (h : isSpace c = true) {b : UInt8}
    (hb : b ∈ String.utf8EncodeChar c) : b ∈ spaceBytes := by
  have hall : (String.utf8EncodeChar c).all (· ∈ spaceBytes) = true := by
    simp only [isSpace, Bool.or_eq_true, beq_iff_eq] at h
    rcases h with ((rfl | rfl) | rfl) | rfl <;> decide
  simpa using List.all_eq_true.mp hall b hb

lemma mem_spaceBytes_of_utf8Encode {text : List Char} (h : ∀ c ∈ text, isSpace c = true) {b : UInt8}
    (hb : b ∈ text.utf8Encode.data) : b ∈ spaceBytes := by
  rw [List.utf8Encode, List.data_toByteArray, List.mem_toArray, List.mem_flatMap] at hb
  obtain ⟨c, hc, hbc⟩ := hb
  exact mem_spaceBytes_of_isSpace (h c hc) hbc

lemma fromUTF8?_eq_some_iff {bytes : ByteArray} {content : String} :
    String.fromUTF8? bytes = some content ↔ bytes = content.toList.utf8Encode := by
  rw [String.utf8Encode_toList, String.fromUTF8?]
  constructor
  · intro h
    split at h
    · obtain rfl := Option.some.inj h
      rfl
    · cases h
  · rintro rfl
    rw [dif_pos content.isValidUTF8]
    rfl

/-- If bytes are the beginning of a text and are text themselves, the cut is between two
characters. -/
lemma exists_toList_eq_append {p cut : ByteArray} {first whole : String}
    (hp : String.fromUTF8? p = some first) (hwhole : String.fromUTF8? (p ++ cut) = some whole) :
    ∃ rest, whole.toList = first.toList ++ rest ∧ cut = rest.utf8Encode := by
  rw [fromUTF8?_eq_some_iff] at hp hwhole
  rw [hp] at hwhole
  obtain ⟨rest, hrest⟩ := List.isPrefix_of_utf8Encode_append_eq_utf8Encode cut hwhole
  refine ⟨rest, hrest.symm, ?_⟩
  rw [← hrest, List.utf8Encode_append] at hwhole
  exact (ByteArray.append_right_inj _).mp hwhole

namespace ControlDir

variable {fs whole torn : FileSystem} {scope : Scope} {controlDir name path path' : String}
  {before after : List DirectoryEntry} {entry : DirectoryEntry} {f : Fault} {p cut : ByteArray}
  {r : ConnectionRecord}

/-! ## A torn file is no record -/

lemma text_eq_ok_iff {content : String} :
    fs.text path = .ok content ↔
      ∃ bytes, fs.bytes path = .ok bytes ∧ String.fromUTF8? bytes = some content := by
  rw [FileSystem.text]
  cases fs.bytes path with
  | error e => simp
  | ok bytes =>
    cases h : String.fromUTF8? bytes with
    | none => simp [h]
    | some s => simp [h]

lemma exists_of_readRecord_eq_error (h : readRecord fs path = .error f) :
    ∃ doing cause, f = .context (doing ++ path) cause := by
  unfold readRecord at h
  split at h
  · exact ⟨_, _, (Except.error.inj h).symm⟩
  · split at h
    · exact ⟨_, _, (Except.error.inj h).symm⟩
    · cases h

/-- What is left of a record is refused, if more than space is missing. -/
lemma readRecord_torn (hwhole : whole.bytes path = .ok (p ++ cut))
    (hrecord : readRecord whole path = .ok r) (hcut : ∃ b ∈ cut.data, b ∉ spaceBytes)
    (hp : torn.bytes path' = .ok p) : ∃ f, readRecord torn path' = .error f := by
  cases htorn : readRecord torn path' with
  | error f => exact ⟨f, rfl⟩
  | ok r' =>
    exfalso
    obtain ⟨content, htext, hdecode⟩ := readRecord_eq_ok_iff.mp hrecord
    obtain ⟨bytes, hbytes, hcontent⟩ := text_eq_ok_iff.mp htext
    obtain rfl : p ++ cut = bytes := Except.ok.inj (hwhole.symm.trans hbytes)
    obtain ⟨content', htext', hdecode'⟩ := readRecord_eq_ok_iff.mp htorn
    obtain ⟨bytes', hbytes', hcontent'⟩ := text_eq_ok_iff.mp htext'
    obtain rfl : p = bytes' := Except.ok.inj (hp.symm.trans hbytes')
    obtain ⟨rest, hrest, rfl⟩ := exists_toList_eq_append hcontent' hcontent
    rw [hrest] at hdecode
    -- a byte that is no space belongs to a character that is no space
    have hmissing : ∃ c ∈ rest, isSpace c = false := by
      by_contra! hspace
      obtain ⟨b, hb, hnot⟩ := hcut
      exact hnot (mem_spaceBytes_of_utf8Encode (fun c hc => by simpa using hspace c hc) hb)
    obtain ⟨e, he⟩ := ConnectionRecord.delimited_reader.decode_prefix hdecode hmissing
    rw [he] at hdecode'
    cases hdecode'

/-! ## The load of a torn file -/

lemma contribution_of_error (h : readRecord fs path = .error f) (scope : Scope) :
    contribution fs scope path = .fault f := by
  rw [contribution, h]

/-- The faults that entries of a directory add. -/
def faultsAt (fs : FileSystem) (dir : String) (entries : List DirectoryEntry) : List Fault :=
  (contributionsAt fs .allHosts dir entries).filterMap Contribution.fault?

lemma faultsAt_eq (scope : Scope) (dir : String) (entries : List DirectoryEntry) :
    faultsAt fs dir entries =
      (contributionsAt fs scope dir entries).filterMap Contribution.fault? :=
  filterMap_fault?_contributionsAt ..

lemma faultsAt_append (dir : String) (before after : List DirectoryEntry) :
    faultsAt fs dir (before ++ after) = faultsAt fs dir before ++ faultsAt fs dir after := by
  rw [faultsAt, contributionsAt_append, List.filterMap_append]
  rfl

lemma faultsAt_of_adds (hcounts : Counts entry)
    (h : Adds fs .allHosts controlDir entry (.fault f)) :
    faultsAt fs (directory controlDir) [entry] = [f] := by
  rw [faultsAt, contributionsAt_of_counts hcounts, ← adds_iff.mp h]
  rfl

/-- A load tells the fault of an entry between the faults of the entries around it. -/
lemma fault_load_of_adds
    (hentries : fs.entries (directory controlDir) = .ok (before ++ entry :: after))
    (hcounts : Counts entry) (h : Adds fs .allHosts controlDir entry (.fault f)) (scope : Scope) :
    (load fs controlDir scope).fault = some (.aggregate
      (faultsAt fs (directory controlDir) before ++
        f :: faultsAt fs (directory controlDir) after)) := by
  have hfaults : (contributions fs scope controlDir).filterMap Contribution.fault? =
      faultsAt fs (directory controlDir) before ++
        f :: faultsAt fs (directory controlDir) after := by
    rw [contributions_of_entries hentries, ← faultsAt_eq, List.append_cons, faultsAt_append,
      faultsAt_append, faultsAt_of_adds hcounts h, ← List.append_cons]
  rw [fault_load hentries, hfaults, Aggregate.ofList?, dif_neg (by simp)]
  rfl

lemma exists_adds_of_mem_faultsAt {entries : List DirectoryEntry} (scope : Scope)
    (h : f ∈ faultsAt fs (directory controlDir) entries) :
    ∃ other ∈ entries, Adds fs scope controlDir other (.fault f) := by
  rw [faultsAt_eq scope, mem_filterMap_fault?_iff, contributionsAt,
    List.mem_map] at h
  obtain ⟨other, hother, hf⟩ := h
  exact ⟨other, List.mem_of_mem_filter hother, adds_iff.mpr hf.symm⟩

/-- **A torn file is never taken for a record.**  Let the bytes `p ++ cut` be read as a record, and
let not all of the bytes in `cut` be space.  If a file of the directory holds only `p`, then a load
of whatever scope has one fault that names this file; the other faults are those of other entries,
and without the torn file the load would have the other faults and the same connections. -/
theorem load_torn (hwhole : whole.bytes path = .ok (p ++ cut))
    (hrecord : readRecord whole path = .ok r) (hcut : ∃ b ∈ cut.data, b ∉ spaceBytes)
    (hentries : torn.entries (directory controlDir) = .ok (before ++ .ok name :: after))
    (hname : Considered name) (hp : torn.bytes (recordPath controlDir name) = .ok p) :
    ∃ doing cause front back, ∀ scope,
      (load torn controlDir scope).fault = some (.aggregate
        (front ++ .context (doing ++ recordPath controlDir name) cause :: back)) ∧
      (∀ f ∈ front ++ back, ∃ other ∈ before ++ after,
        Adds torn scope controlDir other (.fault f)) ∧
      (∀ i c, ¬ Contributes torn scope (recordPath controlDir name) (.status i c)) ∧
      ∀ fs' : FileSystem, fs'.entries (directory controlDir) = .ok (before ++ after) →
        SameFiles controlDir (before ++ after) fs' torn →
        (load fs' controlDir scope).faults = front ++ back ∧
        (load fs' controlDir scope).statuses = (load torn controlDir scope).statuses := by
  obtain ⟨f, hf⟩ := readRecord_torn hwhole hrecord hcut hp
  obtain ⟨doing, cause, rfl⟩ := exists_of_readRecord_eq_error hf
  have hadds : ∀ scope, Adds torn scope controlDir (.ok name)
      (.fault (.context (doing ++ recordPath controlDir name) cause)) := fun scope =>
    adds_ok_iff.mpr (contributes_iff.mpr (contribution_of_error hf scope).symm)
  refine ⟨doing, cause, faultsAt torn (directory controlDir) before,
    faultsAt torn (directory controlDir) after, fun scope => ⟨?_, ?_, ?_, ?_⟩⟩
  · exact fault_load_of_adds hentries (counts_ok.mpr hname) (hadds .allHosts) scope
  · intro f hmem
    rw [← faultsAt_append] at hmem
    exact exists_adds_of_mem_faultsAt scope hmem
  · intro i c hstatus
    have := hstatus.eq_contribution
    rw [contribution_of_error hf] at this
    cases this
  · intro fs' hentries' hsame
    refine ⟨?_, statuses_load_of_fault hentries hentries' hsame (hadds scope)⟩
    rw [faults_load hentries', contributions_of_sameFiles hentries' hsame, ← faultsAt_eq,
      faultsAt_append]

/-- The control directory `mixed` while the agent has yet to write the last bracket. -/
def halfWritten : FileSystem where
  bytes path :=
    if path = "d/connections/h.json" then .ok "[[\"h\",\"h\",\"h\"],[[1,\"h\"]]".toUTF8
    else .error .isDirectory
  modified := mixed.modified
  entries := mixed.entries

/-- The half-written file is reported beside what cannot be listed or read, and connects nothing. -/
theorem load_torn_halfWritten :
    (load halfWritten "d" .allHosts).statuses = {} ∧
    ∃ doing cause front back,
      (load halfWritten "d" .allHosts).fault = some (.aggregate
        (front ++ .context (doing ++ "d/connections/h.json") cause :: back)) ∧
      front ++ back = [.context "reading connection file d/connections/dir.json"
        (.io .isDirectory), .context "listing d/connections" (.io (.system 5))] := by
  have hwhole : mixed.bytes "d/connections/h.json" =
      .ok ("[[\"h\",\"h\",\"h\"],[[1,\"h\"]]".toUTF8 ++ "]".toUTF8) := by
    rw [String.toUTF8_eq_toByteArray, String.toUTF8_eq_toByteArray, ← String.toByteArray_append]
    rfl
  obtain ⟨hrecord, -⟩ := contributes_status_iff.mp contributes_mixed
  have hcut : ∃ b ∈ "]".toUTF8.data, b ∉ spaceBytes := ⟨']'.toUInt8, by decide +kernel, by decide⟩
  have hentries : halfWritten.entries (directory "d") =
      .ok ([.ok ".json", .ok "dir.json"] ++ .ok "h.json" :: [.error (.system 5)]) := rfl
  obtain ⟨doing, cause, front, back, hload⟩ :=
    load_torn hwhole hrecord hcut hentries (by decide) rfl
  obtain ⟨hfault, -, -, hwithout⟩ := hload .allHosts
  -- the same directory without the half-written file
  obtain ⟨hfaults, hstatuses⟩ := hwithout
    { halfWritten with entries := fun _ => .ok [.ok ".json", .ok "dir.json", .error (.system 5)] }
    rfl fun _ _ => rfl
  exact ⟨hstatuses.symm, doing, cause, front, back, hfault, hfaults.symm⟩

end ControlDir

end DeviceFleet
