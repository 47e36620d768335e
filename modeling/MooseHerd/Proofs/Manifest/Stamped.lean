import MooseHerd.Proofs.Json.RoundTrip
import MooseHerd.Proofs.Store.Memory

/-! # Documents of manifests

The document of a manifest as a server keeps it, and how it is read back from its text. -/

namespace MooseHerd

deriving instance DecidableEq for Json.Number

namespace Manifest

/-- The document of a manifest with what a server sets in its metadata. -/
def stamped (m : Manifest) (target : Target) (number : Nat) (stamp : Stamp) : Json :=
  .object [
    ("apiVersion", .string m.apiVersion),
    ("kind", .string m.kind),
    ("metadata", .object [
      ("creationTimestamp", .string stamp.time),
      ("labels", m.labelsDocument),
      ("name", .string m.name),
      ("namespace", .string target.space),
      ("resourceVersion", .string (toString number)),
      ("uid", .string stamp.uid)]),
    ("spec", .object [
      ("antlers", .bool m.traits.antlers),
      ("height", .ofFloat m.traits.height),
      ("weight", .ofFloat m.traits.weight)])]

variable {m : Manifest}

theorem setMetadata?_document (m : Manifest) (target : Target) (number : Nat) (stamp : Stamp) :
    MemoryStore.setMetadata? (MemoryStore.stampMembers target number stamp) m.document =
      some (m.stamped target number stamp) := rfl

/-! ## Text -/

/-- Labels are kept in ascending order of their names, each name once. -/
def HasAscendingLabels (m : Manifest) : Prop := Keys.Ascending (m.labels.map (·.1))

theorem isWritable_labelsDocument (h : m.HasAscendingLabels) (levels : Nat) :
    Json.IsWritable (levels + 1) m.labelsDocument := by
  refine .object ?_ ?_
  · rw [List.map_map]
    exact h
  · intro member hmember
    obtain ⟨label, -, rfl⟩ := List.mem_map.mp hmember
    exact .string label.2

/-- The text of a stamped document can be read. -/
theorem isWritable_stamped (h : m.HasAscendingLabels) (target : Target) (number : Nat)
    (stamp : Stamp) : Json.IsWritable Json.nestingLimit (m.stamped target number stamp) := by
  have hmetadata : Json.IsWritable 126 (.object [("creationTimestamp", .string stamp.time),
      ("labels", m.labelsDocument), ("name", .string m.name), ("namespace", .string target.space),
      ("resourceVersion", .string (toString number)), ("uid", .string stamp.uid)]) := by
    refine .object (show Keys.Ascending ["creationTimestamp", "labels", "name", "namespace",
      "resourceVersion", "uid"] by decide +kernel) ?_
    rintro ⟨key, value⟩ hmember
    simp only [List.mem_cons, Prod.mk.injEq, List.not_mem_nil, or_false] at hmember
    rcases hmember with ⟨-, rfl⟩ | ⟨-, rfl⟩ | ⟨-, rfl⟩ | ⟨-, rfl⟩ | ⟨-, rfl⟩ | ⟨-, rfl⟩
    all_goals first
      | exact .string _
      | exact isWritable_labelsDocument h 124
  have hspec : Json.IsWritable 126 (.object [("antlers", .bool m.traits.antlers),
      ("height", .ofFloat m.traits.height), ("weight", .ofFloat m.traits.weight)]) := by
    refine .object (show Keys.Ascending ["antlers", "height", "weight"] by decide +kernel) ?_
    rintro ⟨key, value⟩ hmember
    simp only [List.mem_cons, Prod.mk.injEq, List.not_mem_nil, or_false] at hmember
    rcases hmember with ⟨-, rfl⟩ | ⟨-, rfl⟩ | ⟨-, rfl⟩
    · exact .bool _
    · exact .ofFloat _
    · exact .ofFloat _
  refine .object (show Keys.Ascending ["apiVersion", "kind", "metadata", "spec"] by
    decide +kernel) ?_
  rintro ⟨key, value⟩ hmember
  simp only [List.mem_cons, Prod.mk.injEq, List.not_mem_nil, or_false] at hmember
  rcases hmember with ⟨-, rfl⟩ | ⟨-, rfl⟩ | ⟨-, rfl⟩ | ⟨-, rfl⟩
  · exact .string _
  · exact .string _
  · exact hmetadata
  · exact hspec

/-! ## Sizes -/

/-- The height and the weight come back from their texts as they are. -/
def IsExact (m : Manifest) : Prop :=
  ∀ x ∈ [m.traits.height, m.traits.weight], x.isFinite = true →
    (Json.Number.real x).reread = .real x

instance (m : Manifest) : Decidable m.IsExact :=
  inferInstanceAs (Decidable (∀ x ∈ [m.traits.height, m.traits.weight], x.isFinite = true →
    (Json.Number.real x).reread = .real x))

theorem reread_labelsDocument (m : Manifest) : m.labelsDocument.reread = m.labelsDocument := by
  have hmembers : ∀ labels : List (String × String),
      Json.rereadMembers (labels.map fun label => (label.1, .string label.2)) =
        labels.map fun label => (label.1, .string label.2) := by
    intro labels
    induction labels with
    | nil => rfl
    | cons label labels ih => exact congrArg (_ :: ·) ih
  exact congrArg Json.object (hmembers m.labels)

/-- Nothing but the sizes can change on the way. -/
theorem reread_stamped (h : m.IsExact) (target : Target) (number : Nat) (stamp : Stamp) :
    (m.stamped target number stamp).reread = m.stamped target number stamp := by
  have hheight := Json.reread_ofFloat (h m.traits.height List.mem_cons_self)
  have hweight :=
    Json.reread_ofFloat (h m.traits.weight (List.mem_cons_of_mem _ List.mem_cons_self))
  simp only [stamped, Json.reread, Json.rereadMembers, reread_labelsDocument, hheight, hweight]

end Manifest

/-! ## The store in memory -/

namespace MemoryStore

variable {store : MemoryStore} {target : Target} {m : Manifest}

theorem refuses_document_iff (hname : m.name ≠ "") :
    store.Refuses ⟨target, m.document⟩ ↔ store.contains target m.name = true := by
  have hrequest : Request.name ⟨target, m.document⟩ = m.name :=
    Request.name_eq (documentName?_document m)
  rw [Refuses, Request.key, hrequest, contains_iff_mem_keys]
  exact or_iff_right hname

theorem create_document_of_contains (hname : m.name ≠ "")
    (h : store.contains target m.name = true) :
    ObjectStore.create store target m.document =
      ({ result := .error (.alreadyExists target.resourceType m.name) }, store) := by
  have hcreate := create_of_refuses ((refuses_document_iff hname).mpr h)
  rw [Request.refusal_of_name (documentName?_document m) hname] at hcreate
  simp only [ObjectStore.create, hcreate]

theorem create_document_of_not_contains (hname : m.name ≠ "")
    (h : ¬ store.contains target m.name = true) :
    let stored := m.stamped target (store.created + 1) (store.stamps (store.created + 1))
    ObjectStore.create store target m.document =
      ({ result := .ok stored }, store.add (key target m.name) stored) := by
  obtain ⟨stored, hstamped, -, hcreate⟩ :=
    create_of_not_refuses fun hrefuses => h ((refuses_document_iff hname).mp hrefuses)
  rw [stamped?, Manifest.setMetadata?_document] at hstamped
  cases hstamped
  rw [Request.key, Request.name_eq (documentName?_document m)] at hcreate
  simp only [ObjectStore.create, hcreate]

theorem contains_add (name key : String) (stored : Json) :
    (store.add (MemoryStore.key target key) stored).contains target name = true ↔
      name = key ∨ store.contains target name = true := by
  rw [contains_iff_mem_keys, contains_iff_mem_keys, keys_add, Keys.mem_insert,
    (key_strictMono target).injective.eq_iff]

end MemoryStore

end MooseHerd
