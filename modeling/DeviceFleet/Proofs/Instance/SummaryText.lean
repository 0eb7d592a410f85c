/-
# What the text of a summary tells

A summary is written as one object, in which the members of the identity stand beside those of the
record of the host and share the name with it.  The text spells these members
(`Summary.spells_write`), so each of the two is decoded from it as if it stood alone, the connection
is found under its key, and no key occurs twice (`Summary.write_tells_all`).
-/
import DeviceFleet.Instance.Summary
import DeviceFleet.Proofs.Instance.Decoding
import DeviceFleet.Proofs.Instance.Written

namespace DeviceFleet

open Json

/-! ## Connections -/

namespace AdbStatus

/-- The members of a written tunnel state, each with the value that it spells. -/
def spelled (a : AdbStatus) : List (Member × Value) :=
  [(⟨"port", writeNat a.port.toNat⟩, .number (.ofNat a.port.toNat)),
    (.text "state" a.state, .text (some a.state))]

/-- What a written tunnel state spells. -/
def value (a : AdbStatus) : Value := .object (a.spelled.map fun m => (some m.1.key, m.2))

lemma spells_write (a : AdbStatus) : Spells a.value a.write := by
  have hparts : ∀ m ∈ a.spelled, Spells m.2 m.1.value :=
    List.forall_mem_cons.mpr ⟨spells_writeNat _,
      List.forall_mem_singleton.mpr (spells_writeString a.state)⟩
  exact spells_writeObject hparts

end AdbStatus

namespace ConnectionStatus

/-- The one member of a written connection with the value that it spells. -/
def spelled (c : ConnectionStatus) : List (Member × Value) := [(⟨"adb", c.adb.write⟩, c.adb.value)]

/-- What a written connection spells. -/
def value (c : ConnectionStatus) : Value := .object (c.spelled.map fun m => (some m.1.key, m.2))

lemma spells_write (c : ConnectionStatus) : Spells c.value c.write := by
  have hparts : ∀ m ∈ c.spelled, Spells m.2 m.1.value :=
    List.forall_mem_singleton.mpr c.adb.spells_write
  exact spells_writeObject hparts

end ConnectionStatus

namespace Summary

/-! ## Members -/

/-- The members of a written summary, each with the value that it spells. -/
def spelled (s : Summary) : List (Member × Value) :=
  [(.text "service_root_endpoint" s.identity.endpoint, .text (some s.identity.endpoint)),
    (.text "host" s.identity.host, .text (some s.identity.host)),
    (.text "name" s.identity.name, .text (some s.identity.name)),
    (.text "status" s.status, .text (some s.status)),
    (⟨"displays", writeList (s.displays.map writeString)⟩,
      .list (s.displays.map fun display => .text (some display)))] ++
    (s.connection.map fun c => (⟨"connection_status", c.write⟩, c.value)).toList

lemma map_fst_spelled (s : Summary) : s.spelled.map Prod.fst = s.members := by
  rcases s with ⟨identity, status, displays, _ | c⟩ <;> rfl

lemma spells_of_mem_spelled (s : Summary) : ∀ m ∈ s.spelled, Spells m.2 m.1.value := by
  rw [spelled, List.forall_mem_append]
  constructor
  · refine List.forall_mem_cons.mpr ⟨spells_writeString _, ?_⟩
    refine List.forall_mem_cons.mpr ⟨spells_writeString _, ?_⟩
    refine List.forall_mem_cons.mpr ⟨spells_writeString _, ?_⟩
    refine List.forall_mem_cons.mpr ⟨spells_writeString _, ?_⟩
    refine List.forall_mem_singleton.mpr (spells_writeList fun display _ => ?_)
    exact spells_writeString display
  · intro m hm
    simp only [Option.mem_toList, Option.map_eq_some_iff] at hm
    obtain ⟨c, -, rfl⟩ := hm
    exact c.spells_write

/-- The members that the text of a summary spells. -/
def values (s : Summary) : List (Option String × Value) :=
  s.spelled.map fun m => (some m.1.key, m.2)

lemma spells_write (s : Summary) : Spells (.object s.values) s.write := by
  have h := spells_writeObject s.spells_of_mem_spelled
  rwa [map_fst_spelled] at h

lemma wellFormed_members (s : Summary) : WellFormed s.members where
  values := by
    rw [← map_fst_spelled]
    exact List.forall_mem_map.mpr fun m hm => (s.spells_of_mem_spelled m hm).isValue
  keys := by
    rcases s with ⟨identity, status, displays, _ | c⟩ <;>
      simp [members, Identity.members, RemoteRecord.details, Member.text]

lemma nodup_values (s : Summary) : (s.values.map Prod.fst).Nodup := by
  have hkeys : s.values.map Prod.fst = (s.members.map Member.key).map some := by
    rw [← map_fst_spelled, values, List.map_map, List.map_map, List.map_map]
    rfl
  rw [hkeys]
  exact s.wellFormed_members.keys.map fun _ _ => Option.some.inj

lemma ne_none_of_mem_values (s : Summary) : ∀ m ∈ s.values, m.1 ≠ none :=
  List.forall_mem_map.mpr fun m _ => Option.some_ne_none m.1.key

/-! ## What is decoded -/

lemma decode_identity (s : Summary) : Identity.reader.decode s.write = .ok s.identity := by
  refine (decode_self_eq_ok_iff Identity.layout.follows s.spells_write).mpr
    ⟨s.ne_none_of_mem_values, ?_⟩
  rcases s with ⟨identity, status, displays, _ | c⟩ <;>
    simp [Layout.rules, Identity.layout, valuesOf, values, spelled, FieldRule.Holds, Value.IsText,
      Member.text]

lemma decode_remote (s : Summary) : RemoteRecord.reader.decode s.write = .ok s.remote := by
  refine (decode_self_eq_ok_iff RemoteRecord.layout.follows s.spells_write).mpr
    ⟨s.ne_none_of_mem_values, ?_⟩
  rcases s with ⟨identity, status, displays, _ | c⟩ <;>
    simp [Layout.rules, RemoteRecord.layout, valuesOf, values, spelled, FieldRule.Holds,
      Value.IsText, Value.IsList, Member.text, remote]

lemma member?_connection (s : Summary) :
    member? "connection_status" s.write = s.connection.map ConnectionStatus.write := by
  rw [write, member?_writeObject s.wellFormed_members]
  rcases s with ⟨identity, status, displays, _ | c⟩ <;>
    simp [members, Identity.members, RemoteRecord.details, Member.text]

lemma decode_connection (s : Summary) :
    (member? "connection_status" s.write).map ConnectionStatus.reader.decode =
      s.connection.map .ok := by
  rw [member?_connection, Option.map_map]
  congr 1
  funext c
  exact c.reads_write.decode_self

/-- What the text of a summary tells. -/
structure Tells (t : List Char) (i : Identity) (r : RemoteRecord) (c : Option ConnectionStatus) :
    Prop where
  /-- The identity is decoded from it. -/
  identity : Identity.reader.decode t = .ok i
  /-- The record of the host is decoded from it. -/
  remote : RemoteRecord.reader.decode t = .ok r
  /-- The connection is decoded from the value of its key, which is there if the connection is. -/
  connection : (member? "connection_status" t).map ConnectionStatus.reader.decode = c.map .ok
  /-- It spells an object. -/
  object : ∃ ms, Spells (.object ms) t
  /-- No key of the object occurs twice. -/
  nodup : ∀ ms, Spells (.object ms) t → (ms.map Prod.fst).Nodup

lemma tells_write (s : Summary) : Tells s.write s.identity s.remote s.connection where
  identity := s.decode_identity
  remote := s.decode_remote
  connection := s.decode_connection
  object := ⟨s.values, s.spells_write⟩
  nodup _ hms := nodup_keys s.spells_write hms s.ne_none_of_mem_values s.nodup_values

lemma Tells.unique {t : List Char} {i i' : Identity} {r r' : RemoteRecord}
    {c c' : Option ConnectionStatus} (h : Tells t i r c) (h' : Tells t i' r' c') :
    i = i' ∧ r = r' ∧ c = c' := by
  refine ⟨?_, ?_, ?_⟩
  · exact Except.ok.inj (h.identity.symm.trans h'.identity)
  · exact Except.ok.inj (h.remote.symm.trans h'.remote)
  · exact Option.map_injective (fun _ _ => Except.ok.inj) (h.connection.symm.trans h'.connection)

/-- **The text of a summary tells the identity, the record of the host and the connection**, so that
summaries with one text are the same summary. -/
theorem write_tells_all :
    (∀ endpoint host r c, Tells ({ ofRemote endpoint host r with connection := c } : Summary).write
      ⟨endpoint, host, r.name⟩ r c) ∧ Function.Injective write := by
  refine ⟨fun endpoint host r c => tells_write _, fun s s' heq => ?_⟩
  have htells := s'.tells_write
  rw [← heq] at htells
  obtain ⟨hidentity, hremote, hconnection⟩ := s.tells_write.unique htells
  obtain ⟨identity, status, displays, connection⟩ := s
  obtain ⟨identity', status', displays', connection'⟩ := s'
  simp_all [remote]

end Summary

end DeviceFleet
