/-
# Decoding records by their fields

The rules of every record that is decoded: its keys in order, which values stand for what, and
which fields have a default.  Only the state and the displays in the record of a host and the
coordinates of a build may be missing, and then they are empty.  The layouts say where the drafts of
the schemas keep the fields.  So each of these records is decoded by its fields
(`decode_by_fields`).
-/
import DeviceFleet.Build
import DeviceFleet.Instance.Connection
import DeviceFleet.Instance.RemoteRecord
import DeviceFleet.Proofs.Json.Decoding

namespace DeviceFleet

open Json

namespace RemoteRecord

/-- The fields of the record of a host. -/
def rules : List (FieldRule RemoteRecord) := [
  .text "name" none (·.name),
  .text "status" (some "") (·.status),
  ⟨"displays", List String, Value.IsList Value.IsText, some [], (·.displays)⟩]

/-- The parts of its drafts. -/
def layout : Layout schema where
  slots := [
    .text "name" none (·.name) (·.name) fun v d => { d with name := some v },
    .text "status" (some "") (·.status) (·.status) fun v d => { d with status := some v },
    ⟨⟨"displays", List String, Value.IsList Value.IsText, some [], (·.displays)⟩,
      listReader textReader, follows_list follows_text, (·.displays),
      fun v d => { d with displays := some v }⟩]
  fields_eq := rfl
  apart := ⟨by simp, by simp, by simp⟩
  get_blank := by simp [schema]
  part_of_given := by simp +contextual [schema]
  part_of_default := by simp +contextual [schema]
  ext a b h := by
    obtain ⟨name, status, displays⟩ := a
    obtain ⟨name', status', displays'⟩ := b
    simpa using h

end RemoteRecord

namespace Identity

/-- The fields of an identity. -/
def rules : List (FieldRule Identity) := [
  .text "service_root_endpoint" none (·.endpoint),
  .text "host" none (·.host),
  .text "name" none (·.name)]

/-- The parts of its drafts. -/
def layout : Layout schema where
  slots := [
    .text "service_root_endpoint" none (·.endpoint) (·.endpoint) fun v d =>
      { d with endpoint := some v },
    .text "host" none (·.host) (·.host) fun v d => { d with host := some v },
    .text "name" none (·.name) (·.name) fun v d => { d with name := some v }]
  fields_eq := rfl
  apart := ⟨by simp, by simp, by simp⟩
  get_blank := by simp [schema]
  part_of_given := by simp +contextual [schema]
  part_of_default := by simp +contextual [schema]
  ext a b h := by
    obtain ⟨endpoint, host, name⟩ := a
    obtain ⟨endpoint', host', name'⟩ := b
    simpa using h

end Identity

namespace AdbStatus

/-- The fields of a tunnel state. -/
def rules : List (FieldRule AdbStatus) := [
  ⟨"port", UInt16, Value.IsPort, none, (·.port)⟩,
  .text "state" none (·.state)]

/-- The parts of its drafts. -/
def layout : Layout schema where
  slots := [
    ⟨⟨"port", UInt16, Value.IsPort, none, (·.port)⟩, portReader, follows_port, (·.port),
      fun v d => { d with port := some v }⟩,
    .text "state" none (·.state) (·.state) fun v d => { d with state := some v }]
  fields_eq := rfl
  apart := ⟨by simp, by simp, by simp⟩
  get_blank := by simp [schema]
  part_of_given := by simp +contextual [schema]
  part_of_default := by simp +contextual [schema]
  ext a b h := by
    obtain ⟨port, state⟩ := a
    obtain ⟨port', state'⟩ := b
    simpa using h

end AdbStatus

namespace ConnectionStatus

/-- The one field of a connection, a tunnel state. -/
def rules : List (FieldRule ConnectionStatus) := [
  ⟨"adb", AdbStatus, Denotes AdbStatus.rules, none, (·.adb)⟩]

/-- The parts of its drafts. -/
def layout : Layout schema where
  slots := [
    ⟨⟨"adb", AdbStatus, Denotes AdbStatus.rules, none, (·.adb)⟩, AdbStatus.reader,
      AdbStatus.layout.follows, id, fun v _ => some v⟩]
  fields_eq := rfl
  apart := ⟨by simp, by simp, by simp⟩
  get_blank := by simp [schema]
  part_of_given := by simp +contextual [schema]
  part_of_default := by simp +contextual [schema]
  ext a b h := by
    obtain ⟨adb⟩ := a
    obtain ⟨adb'⟩ := b
    simpa using h

end ConnectionStatus

namespace ConnectionRecord

/-- The fields in the file of a connection, which are records themselves. -/
def rules : List (FieldRule ConnectionRecord) := [
  ⟨"cvd", Identity, Denotes Identity.rules, none, (·.identity)⟩,
  ⟨"status", ConnectionStatus, Denotes ConnectionStatus.rules, none, (·.status)⟩]

/-- The parts of its drafts. -/
def layout : Layout schema where
  slots := [
    ⟨⟨"cvd", Identity, Denotes Identity.rules, none, (·.identity)⟩, Identity.reader,
      Identity.layout.follows, (·.identity), fun v d => { d with identity := some v }⟩,
    ⟨⟨"status", ConnectionStatus, Denotes ConnectionStatus.rules, none, (·.status)⟩,
      ConnectionStatus.reader, ConnectionStatus.layout.follows, (·.status),
      fun v d => { d with status := some v }⟩]
  fields_eq := rfl
  apart := ⟨by simp, by simp, by simp⟩
  get_blank := by simp [schema]
  part_of_given := by simp +contextual [schema]
  part_of_default := by simp +contextual [schema]
  ext a b h := by
    obtain ⟨identity, status⟩ := a
    obtain ⟨identity', status'⟩ := b
    simpa using h

end ConnectionRecord

namespace Build

/-- The fields of a build. -/
def rules : List (FieldRule Build) := [
  .text "branch" (some "") (·.branch),
  .text "build_id" (some "") (·.buildId),
  .text "target" (some "") (·.target)]

/-- The parts of its drafts. -/
def layout : Layout schema where
  slots := [
    .text "branch" (some "") (·.branch) (·.branch) fun v d => { d with branch := some v },
    .text "build_id" (some "") (·.buildId) (·.buildId) fun v d => { d with buildId := some v },
    .text "target" (some "") (·.target) (·.target) fun v d => { d with target := some v }]
  fields_eq := rfl
  apart := ⟨by simp, by simp, by simp⟩
  get_blank := by simp [schema]
  part_of_given := by simp +contextual [schema]
  part_of_default := by simp +contextual [schema]
  ext a b h := by
    obtain ⟨branch, buildId, target⟩ := a
    obtain ⟨branch', buildId', target'⟩ := b
    simpa using h

end Build

/-- **Every record is decoded by its fields.**  Whether an object is decoded, and as what, depends
on the values of the known keys only, if all keys are texts; and an array is decoded as the object
with the same values under the first keys. -/
theorem decode_by_fields :
    RemoteRecord.reader.DecodesBy RemoteRecord.rules ∧ Identity.reader.DecodesBy Identity.rules ∧
      AdbStatus.reader.DecodesBy AdbStatus.rules ∧
      ConnectionStatus.reader.DecodesBy ConnectionStatus.rules ∧
      ConnectionRecord.reader.DecodesBy ConnectionRecord.rules ∧
      Build.reader.DecodesBy Build.rules :=
  ⟨RemoteRecord.layout.decodesBy, Identity.layout.decodesBy, AdbStatus.layout.decodesBy,
    ConnectionStatus.layout.decodesBy, ConnectionRecord.layout.decodesBy, Build.layout.decodesBy⟩

/-- The members of a host's record with another one, whose key is half of a surrogate pair. -/
def unpairedEntries : List Entry := [
  ⟨some "name", .text (some "a"), writeString "name", writeString "a",
    writeString "name" ++ ':' :: writeString "a"⟩,
  ⟨none, .number (.ofNat 0), ['"', '\\', 'u', 'd', '8', '0', '0', '"'], ['0'],
    ['"', '\\', 'u', 'd', '8', '0', '0', '"', ':', '0']⟩]

/-- The text of these members. -/
def unpairedText : List Char :=
  '\x7b' :: (separated (unpairedEntries.map Entry.text) ++ ['\x7d'])

lemma spells_unpairedText :
    Spells (.object [(some "name", .text (some "a")), (none, .number (.ofNat 0))])
      unpairedText := by
  have hpieces : List.Forall₂ PieceText [.unit 0xD800] [['\\', 'u', 'd', '8', '0', '0']] :=
    .cons (.code rfl) .nil
  have hkeys : ∀ e ∈ unpairedEntries, StringText e.key e.keyText :=
    List.forall_mem_cons.mpr ⟨stringText_writeString "name",
      List.forall_mem_singleton.mpr (.mk hpieces)⟩
  have hvalues : ∀ e ∈ unpairedEntries, Spells e.value e.valueText :=
    List.forall_mem_cons.mpr ⟨.text (stringText_writeString "a"),
      List.forall_mem_singleton.mpr (.number (.ofNat 0))⟩
  have htexts : ∀ e ∈ unpairedEntries, PairText e.keyText e.valueText e.text :=
    List.forall_mem_cons.mpr ⟨pairText_self _ _, List.forall_mem_singleton.mpr (pairText_self _ _)⟩
  exact .object hkeys hvalues htexts (.members _)

/-- **A key that is no text is refused**, although every field admits the values of its key. -/
theorem decode_unpairedText :
    Spells (.object [(some "name", .text (some "a")), (none, .number (.ofNat 0))]) unpairedText ∧
      (∀ rule ∈ RemoteRecord.rules, rule.Admits
        (valuesOf rule.key [(some "name", .text (some "a")), (none, .number (.ofNat 0))])) ∧
      ∀ r, RemoteRecord.reader.decode unpairedText ≠ .ok r := by
  refine ⟨spells_unpairedText, ?_, fun r hr => ?_⟩
  · simp [RemoteRecord.rules, valuesOf, FieldRule.Admits, Value.IsText]
  · have hdecoded : RemoteRecord.reader.decode ([] ++ unpairedText ++ []) = .ok r := by
      rwa [List.nil_append, List.append_nil]
    have hkeys := ((RemoteRecord.layout.decodesBy.succeeds _ _ [] [] spells_unpairedText gap_nil
      gap_nil).mp ⟨r, hdecoded⟩).1
    exact hkeys _ (List.mem_cons_of_mem _ List.mem_cons_self) rfl

end DeviceFleet
