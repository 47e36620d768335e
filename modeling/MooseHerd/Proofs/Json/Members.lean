import MooseHerd.Json.Basic
import MooseHerd.Proofs.Keys

/-! # Members of a document

Setting members is told by what is found under every name afterwards. The order in which members
are kept plays no part in that. -/

namespace MooseHerd.Json

/-- What was set is found under its name, and everything else as before. -/
theorem lookup_insertMember (name key : String) (value : Json) (members : List (String × Json)) :
    (insertMember name value members).lookup key =
      if key = name then some value else members.lookup key := by
  induction members with
  | nil =>
    rw [insertMember]
    split
    · rename_i hkey
      rw [hkey, List.lookup_cons_self]
    · rename_i hkey
      rw [Keys.lookup_cons_of_ne hkey]
  | cons member rest ih =>
    obtain ⟨k, v⟩ := member
    rw [insertMember]
    by_cases hkey : key = name
    · rw [if_pos hkey] at ih ⊢
      subst hkey
      split
      · rw [List.lookup_cons_self]
      · split
        · rw [List.lookup_cons_self]
        · rename_i hne
          rw [Keys.lookup_cons_of_ne hne, ih]
    · rw [if_neg hkey] at ih ⊢
      split
      · rw [Keys.lookup_cons_of_ne hkey]
      · split
        · rename_i heq
          rw [Keys.lookup_cons_of_ne hkey, Keys.lookup_cons_of_ne (heq ▸ hkey)]
        · rw [List.lookup_cons, List.lookup_cons, ih]

theorem lookup_insertMember_self (name : String) (value : Json) (members : List (String × Json)) :
    (insertMember name value members).lookup name = some value := by
  rw [lookup_insertMember, if_pos rfl]

/-- Members under other names change nothing. -/
theorem lookup_foldl_insertMember {key : String} : ∀ {set : List (String × Json)}
    (members : List (String × Json)), key ∉ set.map (·.1) →
    (set.foldl (fun acc (k, v) => insertMember k v acc) members).lookup key = members.lookup key
  | [], _, _ => rfl
  | (k, v) :: rest, members, h => by
    obtain ⟨hne, hrest⟩ := not_or.mp (mt List.mem_cons.mpr h)
    rw [List.foldl_cons, lookup_foldl_insertMember _ hrest, lookup_insertMember, if_neg hne]

theorem mem_insertMember {name : String} {value : Json} {members : List (String × Json)}
    {member : String × Json} (h : member ∈ insertMember name value members) :
    member = (name, value) ∨ member ∈ members := by
  induction members with
  | nil => exact .inl (List.mem_singleton.mp h)
  | cons head rest ih =>
    rw [insertMember] at h
    split at h
    · exact List.mem_cons.mp h
    · split at h
      · exact (List.mem_cons.mp h).imp_right (List.mem_cons_of_mem head)
      · rcases List.mem_cons.mp h with rfl | h
        · exact .inr List.mem_cons_self
        · exact (ih h).imp_right (List.mem_cons_of_mem head)

theorem map_fst_insertMember (name : String) (value : Json) (members : List (String × Json)) :
    (insertMember name value members).map (·.1) = Keys.insert name (members.map (·.1)) := by
  induction members with
  | nil => rfl
  | cons member rest ih =>
    obtain ⟨k, v⟩ := member
    rw [insertMember, List.map_cons, Keys.insert]
    split
    · rfl
    · split
      · rename_i heq
        rw [heq]
        rfl
      · rw [List.map_cons, ih]

/-- A member under a new name replaces none. -/
theorem insertMember_perm {name : String} (value : Json) {members : List (String × Json)}
    (h : name ∉ members.map (·.1)) :
    (insertMember name value members).Perm ((name, value) :: members) := by
  induction members with
  | nil => exact .refl _
  | cons member rest ih =>
    obtain ⟨k, v⟩ := member
    obtain ⟨hne, hrest⟩ := not_or.mp (mt List.mem_cons.mpr h)
    rw [insertMember]
    split
    · exact .refl _
    · exact ((ih hrest).cons (k, v)).trans (.swap (name, value) (k, v) rest)

/-- A member after all others goes to the end. -/
theorem insertMember_of_forall_lt {name : String} (value : Json) {members : List (String × Json)}
    (h : ∀ k ∈ members.map (·.1), k < name) :
    insertMember name value members = members ++ [(name, value)] := by
  induction members with
  | nil => rfl
  | cons member rest ih =>
    obtain ⟨k, v⟩ := member
    obtain ⟨hlt, hrest⟩ := List.forall_mem_cons.mp h
    rw [insertMember, if_neg (fun h => String.lt_irrefl k (String.lt_trans hlt h)),
      if_neg (String.ne_of_lt hlt).symm, ih hrest]
    rfl

/-! ## Reading -/

theorem member?_eq_some_iff {name : String} {doc value : Json} :
    doc.member? name = some value ↔
      ∃ members, doc = .object members ∧ members.lookup name = some value := by
  constructor
  · intro h
    cases doc with
    | object members => exact ⟨members, rfl, h⟩
    | _ => cases h
  · rintro ⟨members, rfl, h⟩
    exact h

theorem string?_eq_some_iff {doc : Json} {s : String} : doc.string? = some s ↔ doc = .string s := by
  constructor
  · intro h
    cases doc with
    | string t =>
      cases h
      rfl
    | _ => cases h
  · rintro rfl
    rfl

/-! ## Setting members of a document -/

/-- A document with members set, if it is an object. -/
def withMembers (set : List (String × Json)) : Json → Json
  | object members => object (set.foldl (fun acc (k, v) => insertMember k v acc) members)
  | doc => doc

/-- A document with one of its members changed, if it has this member. -/
def modifyMember (name : String) (f : Json → Json) (doc : Json) : Json :=
  match doc.member? name with
  | some value => doc.withMembers [(name, f value)]
  | none => doc

theorem member?_withMembers {name : String} {set : List (String × Json)}
    (h : name ∉ set.map (·.1)) (doc : Json) :
    (doc.withMembers set).member? name = doc.member? name := by
  cases doc with
  | object members => exact lookup_foldl_insertMember members h
  | _ => rfl

theorem member?_modifyMember_self {name : String} {f : Json → Json} {doc value : Json}
    (h : doc.member? name = some value) :
    (doc.modifyMember name f).member? name = some (f value) := by
  rw [modifyMember, h]
  obtain ⟨members, rfl, -⟩ := member?_eq_some_iff.mp h
  exact lookup_insertMember_self name (f value) members

theorem member?_modifyMember_of_ne {name key : String} (h : key ≠ name) (f : Json → Json)
    (doc : Json) : (doc.modifyMember name f).member? key = doc.member? key := by
  rw [modifyMember]
  cases doc.member? name with
  | none => rfl
  | some value => exact member?_withMembers (by simpa using h) doc

end MooseHerd.Json
