/-
# Files that were written for connections

Decoding undoes writing for every kind of record that is both written and read, and a file that
holds a written identity and a written connection is loaded as the connection of this identity.  The
main statement is `decode_write`; the readers were shown to read back what is written
(`Identity.reads_write` and its likes), so it remains to look at whole texts and at files.
-/
import DeviceFleet.Proofs.Connections.Load
import DeviceFleet.Proofs.Instance.Written

namespace DeviceFleet

open Json

namespace ControlDir

variable {fs : FileSystem} {scope : Scope} {controlDir path name : String}
  {entries : List DirectoryEntry} {i : Identity} {s : ConnectionStatus} {before t after : List Char}

/-- A file with a written identity and a written connection contributes this connection. -/
lemma contributes_of_objectText (hbefore : Gap before) (hafter : Gap after)
    (ht : ObjectText [⟨"cvd", i.write⟩, ⟨"status", s.write⟩] t)
    (hbytes : fs.bytes path = .ok (String.ofList (before ++ t ++ after)).toUTF8)
    (hscope : scope.includes i.host = true) : Contributes fs scope path (.status i s) := by
  have hdecode := (ConnectionRecord.reads_of_objectText ht).decode hbefore hafter
  rw [← String.toList_ofList (l := before ++ t ++ after)] at hdecode
  exact .status (FileSystem.text_of_bytes hbytes) hdecode hscope

/-- The only entry of a directory that counts is loaded as what it contributes. -/
lemma load_of_single (hentries : fs.entries (directory controlDir) = .ok entries)
    (hsingle : entries.filter (Counts ·) = [.ok name])
    (h : Contributes fs scope (recordPath controlDir name) (.status i s)) :
    load fs controlDir scope = { statuses := { entries := [(i, s)] } } := by
  have hcontributions : contributions fs scope controlDir = [.status i s] := by
    rw [contributions_of_entries hentries, contributionsAt, hsingle, h.eq_contribution]
    rfl
  have hstatuses := statuses_load fs controlDir scope
  have hfault : (load fs controlDir scope).fault = _ := fault_load hentries
  rw [hcontributions] at hstatuses hfault
  calc
    load fs controlDir scope =
        ⟨(load fs controlDir scope).statuses, (load fs controlDir scope).fault⟩ := rfl
    _ = { statuses := { entries := [(i, s)] } } := by
      rw [hstatuses, hfault]
      rfl

/-- What a file contributes is found, if no other file disagrees about the instance. -/
lemma find?_load_of_contributes (hentries : fs.entries (directory controlDir) = .ok entries)
    (hmem : .ok name ∈ entries) (hname : Considered name)
    (h : Contributes fs scope (recordPath controlDir name) (.status i s))
    (hagree : ∀ other, .ok other ∈ entries → ∀ s',
      Contributes fs scope (recordPath controlDir other) (.status i s') → s' = s) :
    (load fs controlDir scope).statuses.find? i = some s := by
  have hholds : Holds (load fs controlDir scope) (contributions fs scope controlDir) :=
    holds_load hentries
  have hkey : i ∈ (load fs controlDir scope).statuses.keys :=
    (hholds.mem_keys i).mpr ⟨s, (mem_contributions_iff hentries).mpr
      ⟨.ok name, hmem, hname, adds_ok_iff.mpr h⟩⟩
  obtain ⟨s', hfind⟩ := Statuses.mem_keys_iff.mp hkey
  obtain ⟨other, hother, -, hadds⟩ :=
    (mem_contributions_iff hentries).mp (hholds.mem_of_find i s' hfind)
  -- a fault of the listing is no status
  cases hadds with
  | named hcontributes => rw [hfind, hagree _ hother s' hcontributes]

/-- **Decoding undoes writing.**  Every identity, record of a host, tunnel state, connection and
build is decoded from what is written for it, also with space around it.  A file of the control
directory that holds an object of a written identity and a written connection, with whatever space
in and around it, contributes just this connection to every load whose scope has the host: no other
contribution is its own, a load of nothing else holds this entry alone, and a load of a whole
directory finds the connection unless another file disagrees about the instance. -/
theorem decode_write (hbefore : Gap before) (hafter : Gap after) :
    (∀ i : Identity, Identity.reader.decode (before ++ i.write ++ after) = .ok i) ∧
    (∀ r : RemoteRecord, RemoteRecord.reader.decode (before ++ r.write ++ after) = .ok r) ∧
    (∀ a : AdbStatus, AdbStatus.reader.decode (before ++ a.write ++ after) = .ok a) ∧
    (∀ s : ConnectionStatus, ConnectionStatus.reader.decode (before ++ s.write ++ after) = .ok s) ∧
    (∀ b : Build, Build.reader.decode (before ++ b.write ++ after) = .ok b) ∧
    ∀ (i : Identity) (s : ConnectionStatus) (t : List Char) (fs : FileSystem) (controlDir : String)
      (entries : List DirectoryEntry) (name : String) (scope : Scope),
      ObjectText [⟨"cvd", i.write⟩, ⟨"status", s.write⟩] t →
      fs.entries (directory controlDir) = .ok entries → .ok name ∈ entries → Considered name →
      fs.bytes (recordPath controlDir name) =
        .ok (String.ofList (before ++ t ++ after)).toUTF8 →
      scope.includes i.host = true →
      (∀ c, Contributes fs scope (recordPath controlDir name) c ↔ c = .status i s) ∧
      (entries.filter (Counts ·) = [.ok name] →
        load fs controlDir scope = { statuses := { entries := [(i, s)] }, fault := none }) ∧
      ((∀ other, .ok other ∈ entries → ∀ s',
          Contributes fs scope (recordPath controlDir other) (.status i s') → s' = s) →
        (load fs controlDir scope).statuses.find? i = some s) := by
  refine ⟨fun i => i.reads_write.decode hbefore hafter,
    fun r => r.reads_write.decode hbefore hafter, fun a => a.reads_write.decode hbefore hafter,
    fun s => s.reads_write.decode hbefore hafter, fun b => b.reads_write.decode hbefore hafter, ?_⟩
  intro i s t fs controlDir entries name scope ht hentries hmem hname hbytes hscope
  have hcontributes := contributes_of_objectText hbefore hafter ht hbytes hscope
  refine ⟨fun c => ?_, fun hsingle => load_of_single hentries hsingle hcontributes,
    fun hagree => find?_load_of_contributes hentries hmem hname hcontributes hagree⟩
  rw [hcontributes.eq_contribution]
  exact contributes_iff

/-- A record with a space after each colon and comma between its parts. -/
lemma objectText_spaced (i : Identity) (s : ConnectionStatus) :
    ObjectText [⟨"cvd", i.write⟩, ⟨"status", s.write⟩]
      ("\x7b\"cvd\": ".toList ++ i.write ++ ", \"status\": ".toList ++ s.write ++
        "\x7d".toList) := by
  have hspace : Gap [' '] := by simp [Gap, isSpace]
  have hidentity : MemberText ⟨"cvd", i.write⟩ _ := .mk gap_nil gap_nil (.mk hspace gap_nil)
  have hstatus : MemberText ⟨"status", s.write⟩ _ := .mk hspace gap_nil (.mk hspace gap_nil)
  have h := ObjectText.mk (.cons hidentity (.cons hstatus .nil))
  simpa [separated, writeString, writeText, escapeChar] using h

/-- The text of an identity with a quote, a backslash and a character beyond the first plane. -/
def escapedIdentity : String :=
  "\x7b\"service_root_endpoint\":\"\\\"\\\\\",\"host\":\"\",\"name\":\"😀\"\x7d"

/-- A control directory with the file of a connection of this identity. -/
def escapedFile : FileSystem where
  bytes _ := .ok (" \x7b\"cvd\": " ++ escapedIdentity ++
    ", \"status\": \x7b\"adb\":\x7b\"port\":65535,\"state\":\"\\n\\u0001\"\x7d\x7d\x7d\n").toUTF8
  modified _ := .error .notFound
  entries _ := .ok [.ok "x.json"]

/-- The connection is loaded as it was written, and the identity on its own is decoded. -/
theorem decode_write_escaped :
    load escapedFile "d" (.host "") =
      { statuses := { entries := [(⟨"\"\\", "", "😀"⟩, ⟨⟨65535, "\n\x01"⟩⟩)] }, fault := none } ∧
    Identity.reader.decode (" ".toList ++ escapedIdentity.toList ++ "\n".toList) =
      .ok ⟨"\"\\", "", "😀"⟩ := by
  have hbefore : Gap " ".toList := by simp [Gap, isSpace]
  have hafter : Gap "\n".toList := by simp [Gap, isSpace]
  obtain ⟨hidentity, -, -, -, -, hfile⟩ := decode_write hbefore hafter
  have hbytes : escapedFile.bytes (recordPath "d" "x.json") = .ok (String.ofList (" ".toList ++
      ("\x7b\"cvd\": ".toList ++ Identity.write ⟨"\"\\", "", "😀"⟩ ++ ", \"status\": ".toList ++
        ConnectionStatus.write ⟨⟨65535, "\n\x01"⟩⟩ ++ "\x7d".toList) ++ "\n".toList)).toUTF8 := by
    refine congrArg (fun content : String => Except.ok content.toUTF8) (String.toList_injective ?_)
    rw [String.toList_ofList]
    decide +kernel
  obtain ⟨-, hload, -⟩ := hfile _ _ _ escapedFile "d" [.ok "x.json"] "x.json" (.host "")
    (objectText_spaced _ _) rfl (by simp) (by decide) hbytes rfl
  exact ⟨hload rfl, hidentity ⟨"\"\\", "", "😀"⟩⟩

end ControlDir

end DeviceFleet
