/-
# Records that were written

Identities, records of hosts, tunnel states, connections and builds are read back from what was
written for them.  Whatever is left out of a written build because it is empty is restored by its
default (`Build.reads_write`).
-/
import DeviceFleet.Build
import DeviceFleet.Instance.RemoteRecord
import DeviceFleet.Proofs.Json.WrittenRecord

namespace DeviceFleet

open Json

namespace Identity

lemma reads_write (i : Identity) : reader.Reads i.write i := by
  obtain ⟨endpoint, host, name⟩ := i
  refine schema.reads_of_objectText ⟨some endpoint, some host, some name⟩
    (objectText_writeObject _) ?_ ?_
  · refine .cons (.of rfl rfl (reads_writeString endpoint)) ?_
    refine .cons (.of rfl rfl (reads_writeString host)) ?_
    exact .cons (.of rfl rfl (reads_writeString name)) .nil
  · simp [Schema.Complete, schema, Field.of]

end Identity

namespace RemoteRecord

lemma reads_write (r : RemoteRecord) : reader.Reads r.write r := by
  obtain ⟨name, status, displays⟩ := r
  refine schema.reads_of_objectText ⟨some name, some status, some displays⟩
    (objectText_writeObject _) ?_ ?_
  · refine .cons (.of rfl rfl (reads_writeString name)) ?_
    refine .cons (.of rfl rfl (reads_writeString status)) ?_
    exact .cons (.of rfl rfl (reads_writeList displays)) .nil
  · simp [Schema.Complete, schema, Field.of]

end RemoteRecord

namespace AdbStatus

lemma reads_write (a : AdbStatus) : reader.Reads a.write a := by
  obtain ⟨port, state⟩ := a
  refine schema.reads_of_objectText ⟨some port, some state⟩ (objectText_writeObject _) ?_ ?_
  · refine .cons (.of rfl rfl (reads_writeNat port)) ?_
    exact .cons (.of rfl rfl (reads_writeString state)) .nil
  · simp [Schema.Complete, schema, Field.of]

end AdbStatus

namespace ConnectionStatus

lemma reads_write (s : ConnectionStatus) : reader.Reads s.write s := by
  obtain ⟨adb⟩ := s
  refine schema.reads_of_objectText (some adb) (objectText_writeObject _) ?_ ?_
  · exact .cons (.of rfl rfl adb.reads_write) .nil
  · simp [Schema.Complete, schema, Field.of]

end ConnectionStatus

namespace ConnectionRecord

/-- An object with an identity and a connection is read as a record, with whatever space in it. -/
lemma reads_of_objectText {i : Identity} {s : ConnectionStatus} {t : List Char}
    (h : ObjectText [⟨"cvd", i.write⟩, ⟨"status", s.write⟩] t) : reader.Reads t ⟨i, s⟩ := by
  refine schema.reads_of_objectText ⟨some i, some s⟩ h ?_ ?_
  · refine .cons (.of rfl rfl i.reads_write) ?_
    exact .cons (.of rfl rfl s.reads_write) .nil
  · simp [Schema.Complete, schema, Field.of]

end ConnectionRecord

namespace Build

/-- A coordinate as a draft has it: one that is not set was left out. -/
def given (coordinate : String) : Option String :=
  if coordinate.isEmpty then none else some coordinate

lemma getD_given (coordinate : String) : (given coordinate).getD "" = coordinate := by
  rw [given]
  split
  · next h => exact (String.isEmpty_iff.mp h).symm
  · rfl

/-- A coordinate is taken into a draft if it is set; `set` puts one into its place. -/
lemma collects_textUnlessEmpty (key : String) {get : Draft → Option String}
    {put : String → Draft → Draft} (set : Option String → Draft)
    (hfield : schema.fields.find? (fun field => field.name == key) =
      some (.of key false textReader get put))
    (hnew : get (set none) = none) (hput : ∀ v, put v (set none) = set (some v))
    (value : String) :
    Collects schema.fields (set none) (Member.textUnlessEmpty key value) (set (given value)) := by
  rw [Member.textUnlessEmpty, given]
  split
  · exact .nil
  · rw [← hput]
    exact .cons (.of hfield hnew (reads_writeString value)) .nil

lemma reads_write (b : Build) : reader.Reads b.write b := by
  obtain ⟨branch, buildId, target⟩ := b
  have hbranch := collects_textUnlessEmpty "branch" (fun v => ⟨v, none, none⟩) rfl rfl
    (fun _ => rfl) branch
  have hbuildId := collects_textUnlessEmpty "build_id" (fun v => ⟨given branch, v, none⟩) rfl rfl
    (fun _ => rfl) buildId
  have htarget := collects_textUnlessEmpty "target" (fun v => ⟨given branch, given buildId, v⟩)
    rfl rfl (fun _ => rfl) target
  have hread := schema.reads_of_objectText _ (objectText_writeObject _)
    ((hbranch.append hbuildId).append htarget) (by simp [Schema.Complete, schema, Field.of])
  -- what was left out is restored by the default of its coordinate
  have hfinish : schema.finish ⟨given branch, given buildId, given target⟩ =
      ⟨branch, buildId, target⟩ := by
    simp only [schema, getD_given]
  rw [hfinish] at hread
  exact hread

end Build

end DeviceFleet
