import MooseHerd.Proofs.Except
import MooseHerd.Proofs.Keys
import MooseHerd.Settings.Layers

/-! # What is found within values of settings

Values are told by their members. A change along a way is seen at its end and nowhere beside it, and
a section gives a field the member of its name. -/

namespace MooseHerd.Settings

/-- The member of a value under a name; what is no table has none. -/
def Value.member? (name : String) (v : Value) : Option Value := v.members.lookup name

namespace Value

/-! ## Changes -/

@[simp]
theorem members_asTable (v : Value) : v.asTable.members = v.members := by
  cases v <;> rfl

@[simp]
theorem members_withMembers_asTable (members : List (String × Value)) (v : Value) :
    (v.asTable.withMembers members).members = members := by
  cases v <;> rfl

theorem lookup_changeMember (name key : String) (change : Value → Value)
    (members : List (String × Value)) :
    (changeMember name change members).lookup key =
      if key = name then some (change ((members.lookup name).getD nothing))
      else members.lookup key := by
  induction members with
  | nil =>
    rw [changeMember]
    split
    · rename_i hkey
      rw [hkey, List.lookup_cons_self]
      rfl
    · rename_i hkey
      rw [Keys.lookup_cons_of_ne hkey]
  | cons member rest ih =>
    obtain ⟨k, v⟩ := member
    rw [changeMember]
    by_cases hk : k = name
    · subst hk
      rw [if_pos rfl, List.lookup_cons_self]
      split
      · rename_i hkey
        rw [hkey, List.lookup_cons_self]
        rfl
      · rename_i hkey
        rw [Keys.lookup_cons_of_ne hkey, Keys.lookup_cons_of_ne hkey]
    · rw [if_neg hk, Keys.lookup_cons_of_ne (Ne.symm hk), List.lookup_cons, ih, List.lookup_cons]
      split
      · rename_i hkey
        rw [beq_iff_eq.mp hkey, if_neg hk]
      · rfl

/-- A change along a way touches the member that the way leads to and no other. -/
theorem member?_change (f : Value → Value) (name key : String) (rest : KeyPath) (v : Value) :
    (change f (.name name :: rest) v).member? key =
      if key = name then some (change f rest ((v.member? name).getD nothing))
      else v.member? key := by
  simp only [member?, change, members_withMembers_asTable, members_asTable, lookup_changeMember]

/-! ## Layers -/

theorem addLayer_cons (key : String) (above : Value) (rest : Layer) (below : Value) :
    addLayer ((key, above) :: rest) below =
      addLayer rest (change above.onto (KeyPath.ofKey key) below) := rfl

theorem addLayer_append (first rest : Layer) (below : Value) :
    addLayer (first ++ rest) below = addLayer rest (addLayer first below) :=
  List.foldl_append

/-- A scalar takes the place of what is below it. -/
@[simp]
theorem onto_scalar (s : Scalar) (origin : Option String) (below : Value) :
    onto (.scalar s origin) below = .scalar s origin := by
  cases below <;> rfl

/-- The value two steps into another one. -/
def within? (outer inner : String) (v : Value) : Option Value :=
  (v.member? outer).bind (·.member? inner)

variable {outer inner key : String} {x : Value}

theorem within?_change_self (f : Value → Value) (v : Value)
    (h : ∀ below, f below = x) :
    (change f [.name outer, .name inner] v).within? outer inner = some x := by
  rw [within?, member?_change, if_pos rfl, Option.bind_some, member?_change, if_pos rfl, change, h]

theorem within?_change_of_ne (f : Value → Value) {name : String} (rest : KeyPath) (v : Value)
    (h : outer ≠ name) :
    (change f (.name name :: rest) v).within? outer inner = v.within? outer inner := by
  rw [within?, member?_change, if_neg h]
  rfl

/-- A layer that sets one value two steps deep, and else only what lies elsewhere, leaves this
value there. -/
theorem within?_addLayer {layer : Layer} {s : Scalar} {origin : Option String} (below : Value)
    (hkey : KeyPath.ofKey key = [.name outer, .name inner])
    (hset : (key, .scalar s origin) ∈ layer)
    (hother : ∀ entry ∈ layer, entry = (key, .scalar s origin) ∨
      ∃ name rest, KeyPath.ofKey entry.1 = .name name :: rest ∧ outer ≠ name) :
    (addLayer layer below).within? outer inner = some (.scalar s origin) := by
  -- once the value is there, every further entry keeps it
  have hkept : ∀ (entries : Layer) (v : Value), (∀ entry ∈ entries, entry ∈ layer) →
      v.within? outer inner = some (.scalar s origin) →
      (addLayer entries v).within? outer inner = some (.scalar s origin) := by
    intro entries
    induction entries with
    | nil => exact fun v _ hv => hv
    | cons entry rest ih =>
      intro v hmem hv
      obtain ⟨k, above⟩ := entry
      rw [addLayer_cons]
      refine ih _ (fun e he => hmem e (List.mem_cons_of_mem _ he)) ?_
      rcases hother (k, above) (hmem _ List.mem_cons_self) with heq | ⟨name, way, hway, hne⟩
      · cases heq
        rw [hkey]
        exact within?_change_self _ v fun _ => onto_scalar _ _ _
      · rw [hway, within?_change_of_ne _ _ _ hne, hv]
  obtain ⟨before, after, rfl⟩ := List.append_of_mem hset
  rw [addLayer_append, addLayer_cons, hkey]
  refine hkept after _ (fun e he => List.mem_append_right _ (List.mem_cons_of_mem _ he)) ?_
  exact within?_change_self _ _ fun _ => onto_scalar _ _ _

end Value

/-! ## Sections -/

/-- Reads what is found at a place; without a value there is the default. -/
def readAt {α : Type} (decode : Decoder α) (place : Place) (default : α) :
    Option Value → Except Fault α
  | some v => decode place v
  | none => .ok default

theorem lookup_map {α β : Type} (f : String → α → β) (key : String) (members : List (String × α)) :
    (members.map fun (name, v) => (name, f name v)).lookup key =
      (members.lookup key).map (f key) := by
  induction members with
  | nil => rfl
  | cons member rest ih =>
    obtain ⟨k, v⟩ := member
    rw [List.map_cons]
    by_cases hkey : key = k
    · subst hkey
      rw [List.lookup_cons_self, List.lookup_cons_self]
      rfl
    · rw [Keys.lookup_cons_of_ne hkey, Keys.lookup_cons_of_ne hkey, ih]

theorem field_of_table {α : Type} (place : Place) (members : List (String × Value)) (name : String)
    (decode : Decoder α) (default : α) :
    field (members.map fun (name, v) => (name, place.member name, v)) name decode default =
      readAt decode (place.member name) default (members.lookup name) := by
  rw [field, lookup_map fun name v => (place.member name, v)]
  cases members.lookup name <;> rfl

/-- A section is read from the member of its name. -/
theorem decode_eq_readAt (root : Value) : decode root = (do
    return {
      cluster := ← readAt decodeCluster "cluster" {} (root.member? "cluster")
      resource := ← readAt decodeResource "resource" {} (root.member? "resource")
      generator := ← readAt decodeGenerator "generator" {} (root.member? "generator")
      observability :=
        ← readAt decodeObservability "observability" {} (root.member? "observability") }) := by
  have hfield : ∀ {α : Type} (name : String) (decode : Decoder α) (default : α),
      field (root.members.map fun (name, v) => (name, (name : Place), v)) name decode default =
        readAt decode name default (root.member? name) := by
    intro α name decode default
    rw [field, lookup_map fun name v => ((name : Place), v),
      show root.members.lookup name = root.member? name from rfl]
    cases root.member? name <;> rfl
  simp only [decode, hfield]

/-- Settings are read if and only if each of their sections is. -/
theorem decode_eq_ok_iff {root : Value} {s : Settings} : decode root = .ok s ↔
    readAt decodeCluster "cluster" {} (root.member? "cluster") = .ok s.cluster ∧
    readAt decodeResource "resource" {} (root.member? "resource") = .ok s.resource ∧
    readAt decodeGenerator "generator" {} (root.member? "generator") = .ok s.generator ∧
    readAt decodeObservability "observability" {} (root.member? "observability") =
      .ok s.observability := by
  rw [decode_eq_readAt]
  constructor
  · intro h
    obtain ⟨cluster, hcluster, h⟩ := bind_eq_ok.mp h
    obtain ⟨resource, hresource, h⟩ := bind_eq_ok.mp h
    obtain ⟨generator, hgenerator, h⟩ := bind_eq_ok.mp h
    obtain ⟨observability, hobservability, h⟩ := bind_eq_ok.mp h
    cases h
    exact ⟨hcluster, hresource, hgenerator, hobservability⟩
  · rintro ⟨hcluster, hresource, hgenerator, hobservability⟩
    rw [hcluster, hresource, hgenerator, hobservability]
    rfl

end MooseHerd.Settings
