import Mathlib.Data.List.Nodup
import MooseHerd.Json.Schema
import MooseHerd.Proofs.Except
import MooseHerd.Proofs.Json.Members

/-! # Documents of a shape

What the reader gives for a schema is a document of that shape, whatever text it reads: members in
any order or as items of an array, optional ones left out, others that the schema does not name. -/

namespace MooseHerd.Json

/-- The records of a schema have no two members of one name. -/
inductive Schema.IsProper : Schema → Prop
  | text : IsProper .text
  | real : IsProper .real
  | flag : IsProper .flag
  | textMap : IsProper .textMap
  | optional {schema : Schema} (h : IsProper schema) : IsProper (.optional schema)
  | record {name : String} {fields : List (String × Schema)} (hnames : (fields.map (·.1)).Nodup)
      (hfields : ∀ field ∈ fields, IsProper field.2) : IsProper (.record name fields)

/-- A document has the shape that a schema asks for. A record has all of its members, with `null`
for those that were left out. -/
inductive Fits : Schema → Json → Prop
  | text (s : String) : Fits .text (.string s)
  | real (n : Number) : Fits .real (.number n)
  | flag (b : Bool) : Fits .flag (.bool b)
  | textMap {members : List (String × Json)} (h : ∀ member ∈ members, ∃ s, member.2 = .string s) :
      Fits .textMap (.object members)
  | absent {schema : Schema} : Fits (.optional schema) .null
  | present {schema : Schema} {doc : Json} (h : Fits schema doc) : Fits (.optional schema) doc
  | record {name : String} {fields : List (String × Schema)} {members : List (String × Json)}
      (value : String → Json)
      (hfound : ∀ field ∈ fields, members.lookup field.1 = some (value field.1))
      (hfits : ∀ field ∈ fields, Fits field.2 (value field.1)) :
      Fits (.record name fields) (.object members)

theorem Fits.members {name : String} {fields : List (String × Schema)} {doc : Json}
    (h : Fits (.record name fields) doc) :
    ∀ field ∈ fields, ∃ value, doc.member? field.1 = some value ∧ Fits field.2 value := by
  obtain _ | _ | _ | _ | _ | _ | ⟨value, hfound, hfits⟩ := h
  exact fun field hfield => ⟨value field.1, hfound field hfield, hfits field hfield⟩

theorem Fits.exists_text {doc : Json} (h : Fits (.optional .text) doc) :
    ∃ text : Option String, doc = text.elim .null .string := by
  obtain _ | _ | _ | _ | _ | ⟨⟨s⟩⟩ | _ := h
  · exact ⟨none, rfl⟩
  · exact ⟨some s, rfl⟩

/-! ## Members of a record -/

/-- The members of a record that are there have their shapes. -/
def Gathers (fields : List (String × Schema)) (members : List (String × Json)) : Prop :=
  ∀ field ∈ fields, ∀ value, members.lookup field.1 = some value → Fits field.2 value

variable {fields : List (String × Schema)} {acc : List (String × Json)} {name : String}

theorem gathers_nil : Gathers fields [] := fun _ _ _ h => nomatch h

/-- A record without a missing member. -/
theorem Gathers.fits {members : List (String × Json)} (h : Gathers fields members)
    (hall : ∀ field ∈ fields, (members.lookup field.1).isSome = true) :
    Fits (.record name fields) (.object members) := by
  have hfound : ∀ field ∈ fields,
      members.lookup field.1 = some ((members.lookup field.1).getD .null) := by
    intro field hfield
    obtain ⟨value, hvalue⟩ := Option.isSome_iff_exists.mp (hall field hfield)
    rw [hvalue, Option.getD_some]
  exact .record (fun key => (members.lookup key).getD .null) hfound
    fun field hfield => h field hfield _ (hfound field hfield)

theorem Gathers.insert (h : Gathers fields acc) (hnames : (fields.map (·.1)).Nodup)
    {schema : Schema} (hmem : (name, schema) ∈ fields) {value : Json} (hvalue : Fits schema value) :
    Gathers fields (insertMember name value acc) := by
  intro field hfield found hfound
  rw [lookup_insertMember] at hfound
  split at hfound
  · rename_i hname
    obtain rfl : field = (name, schema) := List.inj_on_of_nodup_map hnames hfield hmem hname
    exact Option.some.inj hfound ▸ hvalue
  · exact h field hfield found hfound

theorem isSome_lookup_insertMember {key : String} {value : Json} :
    ((insertMember name value acc).lookup key).isSome = true ↔
      key = name ∨ (acc.lookup key).isSome = true := by
  rw [lookup_insertMember]
  split <;> simp [*]

/-- A record is completed with `null` where that fits. -/
theorem Gathers.completeRecord (hnames : (fields.map (·.1)).Nodup) :
    ∀ {left : List (String × Schema)} {acc : List (String × Json)} {doc : Json},
    Gathers fields acc → left ⊆ fields → completeRecord left acc = .ok doc →
      ∃ members, doc = .object members ∧ Gathers fields members ∧
        ∀ key, key ∈ left.map (·.1) ∨ (acc.lookup key).isSome = true →
          (members.lookup key).isSome = true
  | [], acc, doc, hacc, _, h => by
    cases h
    exact ⟨acc, rfl, hacc, fun key hkey => hkey.resolve_left List.not_mem_nil⟩
  | (name, schema) :: left, acc, doc, hacc, hleft, h => by
    obtain ⟨hmem, hrest⟩ := List.cons_subset.mp hleft
    rw [Json.completeRecord] at h
    split at h
    · rename_i hfound
      obtain ⟨members, rfl, hmembers, hall⟩ := Gathers.completeRecord hnames hacc hrest h
      refine ⟨members, rfl, hmembers, fun key hkey => hall key ?_⟩
      rw [List.map_cons, List.mem_cons] at hkey
      rcases hkey with (rfl | hkey) | hkey
      · exact .inr hfound
      · exact .inl hkey
      · exact .inr hkey
    · split at h
      · rename_i hoptional
        have hnull : Fits schema .null := by
          cases schema with
          | optional => exact .absent
          | _ => cases hoptional
        obtain ⟨members, rfl, hmembers, hall⟩ :=
          Gathers.completeRecord hnames (hacc.insert hnames hmem hnull) hrest h
        refine ⟨members, rfl, hmembers, fun key hkey => hall key ?_⟩
        rw [isSome_lookup_insertMember]
        rw [List.map_cons, List.mem_cons] at hkey
        tauto
      · cases h

/-! ## Readers -/

theorem unexpected_ne_ok {α : Type} {schema : Schema} {cs : List Char} {a : α} :
    unexpected schema cs ≠ .ok a := by
  intro h
  obtain ⟨found, -, h⟩ := bind_eq_ok.mp h
  cases h

theorem fits_of_readTextMembers : ∀ {fuel : Nat} {first : Bool} {acc : List (String × Json)}
    {cs rest : List Char} {doc : Json}, (∀ member ∈ acc, ∃ s, member.2 = .string s) →
    readTextMembers fuel first acc cs = .ok (doc, rest) → Fits .textMap doc
  | 0, _, _, _, _, _, _, h => nomatch h
  | fuel + 1, first, acc, cs, rest, doc, hacc, h => by
    rw [readTextMembers] at h
    obtain ⟨⟨name | name, afterName⟩, -, h⟩ := bind_eq_ok.mp h
    · cases h
      exact .textMap hacc
    · obtain ⟨afterColon, -, h⟩ := bind_eq_ok.mp h
      split at h
      · cases h
      · obtain ⟨⟨s, afterText⟩, -, h⟩ := bind_eq_ok.mp h
        refine fits_of_readTextMembers (fun member hmember => ?_) h
        rcases mem_insertMember hmember with rfl | hmember
        · exact ⟨s, rfl⟩
        · exact hacc member hmember
      · exact absurd h unexpected_ne_ok

/-- The readers of documents, of records and of records as arrays give what fits, with this much
fuel. -/
structure ReadsFitting (fuel : Nat) : Prop where
  value : ∀ {depth : Nat} {schema : Schema} {cs rest : List Char} {doc : Json}, schema.IsProper →
    readAs fuel depth schema cs = .ok (doc, rest) → Fits schema doc
  record : ∀ {depth : Nat} {name : String} {fields : List (String × Schema)} {first : Bool}
    {acc : List (String × Json)} {cs rest : List Char} {doc : Json},
    (Schema.record name fields).IsProper → Gathers fields acc →
    readRecord fuel depth fields first acc cs = .ok (doc, rest) → Fits (.record name fields) doc
  tuple : ∀ {depth : Nat} {name : String} {fields left : List (String × Schema)} {index : Nat}
    {acc : List (String × Json)} {cs rest : List Char} {doc : Json},
    (Schema.record name fields).IsProper → Gathers fields acc → left ⊆ fields →
    (∀ field ∈ fields, field ∈ left ∨ (acc.lookup field.1).isSome = true) →
    readTuple fuel depth name fields left index acc cs = .ok (doc, rest) →
    Fits (.record name fields) doc

namespace ReadsFitting

variable {fuel depth : Nat} {cs rest : List Char} {doc : Json}

theorem readAs_succ (ih : ReadsFitting fuel) {schema : Schema} (hschema : schema.IsProper)
    (h : readAs (fuel + 1) depth schema cs = .ok (doc, rest)) : Fits schema doc := by
  unfold readAs at h
  cases hblanks : skipBlanks cs with
  | nil =>
    rw [hblanks] at h
    cases hschema with
    | optional hinner => exact .present (ih.value hinner h)
    | _ => cases h
  | cons c tail =>
    rw [hblanks] at h
    cases hschema with
    | optional hinner =>
      dsimp only at h
      split at h
      · obtain ⟨after, -, h⟩ := bind_eq_ok.mp h
        cases h
        exact .absent
      · exact .present (ih.value hinner h)
    | text =>
      dsimp only at h
      split at h
      · obtain ⟨⟨s, after⟩, -, h⟩ := bind_eq_ok.mp h
        cases h
        exact .text s
      · exact absurd h unexpected_ne_ok
    | flag =>
      dsimp only at h
      split at h
      · obtain ⟨after, -, h⟩ := bind_eq_ok.mp h
        cases h
        exact .flag true
      · split at h
        · obtain ⟨after, -, h⟩ := bind_eq_ok.mp h
          cases h
          exact .flag false
        · exact absurd h unexpected_ne_ok
    | real =>
      dsimp only at h
      split at h
      · obtain ⟨read, -, h⟩ := bind_eq_ok.mp h
        cases h
        exact .real read.1
      · split at h
        · obtain ⟨read, -, h⟩ := bind_eq_ok.mp h
          cases h
          exact .real read.1
        · exact absurd h unexpected_ne_ok
    | textMap =>
      dsimp only at h
      split at h
      · cases depth with
        | zero => cases h
        | succ depth => exact fits_of_readTextMembers (List.forall_mem_nil _) h
      · exact absurd h unexpected_ne_ok
    | record hnames hfields =>
      dsimp only at h
      split at h
      · cases depth with
        | zero => cases h
        | succ depth => exact ih.record (.record hnames hfields) gathers_nil h
      · split at h
        · cases depth with
          | zero => cases h
          | succ depth =>
            exact ih.tuple (.record hnames hfields) gathers_nil (List.Subset.refl _)
              (fun _ => .inl) h
        · exact absurd h unexpected_ne_ok

theorem readRecord_succ (ih : ReadsFitting fuel) {first : Bool}
    (hschema : (Schema.record name fields).IsProper) (hacc : Gathers fields acc)
    (h : readRecord (fuel + 1) depth fields first acc cs = .ok (doc, rest)) :
    Fits (.record name fields) doc := by
  obtain _ | _ | _ | _ | _ | ⟨hnames, hfields⟩ := id hschema
  rw [readRecord] at h
  obtain ⟨⟨key | key, afterName⟩, -, h⟩ := bind_eq_ok.mp h
  · obtain ⟨completed, hcompleted, h⟩ := bind_eq_ok.mp h
    cases h
    obtain ⟨members, rfl, hmembers, hall⟩ :=
      hacc.completeRecord hnames (List.Subset.refl fields) hcompleted
    exact hmembers.fits fun field hfield => hall _ (.inl (List.mem_map_of_mem hfield))
  · dsimp only at h
    split at h
    · rename_i schema hlookup
      have hmem : (key, schema) ∈ fields := by
        obtain ⟨before, after, rfl, -⟩ := List.lookup_eq_some_iff.mp hlookup
        exact List.mem_append_right before List.mem_cons_self
      split at h
      · cases h
      · obtain ⟨afterColon, -, h⟩ := bind_eq_ok.mp h
        obtain ⟨⟨value, afterValue⟩, hvalue, h⟩ := bind_eq_ok.mp h
        exact ih.record hschema (hacc.insert hnames hmem (ih.value (hfields _ hmem) hvalue)) h
    · obtain ⟨afterColon, -, h⟩ := bind_eq_ok.mp h
      obtain ⟨afterValue, -, h⟩ := bind_eq_ok.mp h
      exact ih.record hschema hacc h

theorem readTuple_succ (ih : ReadsFitting fuel) {left : List (String × Schema)} {index : Nat}
    (hschema : (Schema.record name fields).IsProper) (hacc : Gathers fields acc)
    (hleft : left ⊆ fields)
    (hall : ∀ field ∈ fields, field ∈ left ∨ (acc.lookup field.1).isSome = true)
    (h : readTuple (fuel + 1) depth name fields left index acc cs = .ok (doc, rest)) :
    Fits (.record name fields) doc := by
  obtain _ | _ | _ | _ | _ | ⟨hnames, hfields⟩ := id hschema
  unfold readTuple at h
  cases left with
  | nil =>
    obtain ⟨after, -, h⟩ := bind_eq_ok.mp h
    cases h
    exact hacc.fits fun field hfield => (hall field hfield).resolve_left List.not_mem_nil
  | cons head left =>
    obtain ⟨key, schema⟩ := head
    obtain ⟨hmem, hrest⟩ := List.cons_subset.mp hleft
    obtain ⟨⟨more, afterSeparator⟩, -, h⟩ := bind_eq_ok.mp h
    cases more with
    | false => cases h
    | true =>
      obtain ⟨⟨value, afterValue⟩, hvalue, h⟩ := bind_eq_ok.mp h
      refine ih.tuple hschema (hacc.insert hnames hmem (ih.value (hfields _ hmem) hvalue)) hrest
        (fun field hfield => ?_) h
      rw [isSome_lookup_insertMember]
      rcases hall field hfield with hfieldLeft | hfound
      · rcases List.mem_cons.mp hfieldLeft with rfl | hfieldLeft
        · exact .inr (.inl rfl)
        · exact .inl hfieldLeft
      · exact .inr (.inr hfound)

end ReadsFitting

theorem readsFitting (fuel : Nat) : ReadsFitting fuel := by
  induction fuel with
  | zero =>
    constructor
    · intro _ _ _ _ _ _ h
      rw [readAs] at h
      cases h
    · intro _ _ _ _ _ _ _ _ _ _ h
      rw [readRecord] at h
      cases h
    · intro _ _ _ _ _ _ _ _ _ _ _ _ _ h
      rw [readTuple] at h
      cases h
  | succ fuel ih => exact ⟨ih.readAs_succ, ih.readRecord_succ, ih.readTuple_succ⟩

/-- **What is read for a schema has its shape.** -/
theorem fits_of_parse {schema : Schema} (hschema : schema.IsProper) {text : String} {doc : Json}
    (h : schema.parse text = .ok doc) : Fits schema doc := by
  obtain ⟨⟨read, rest⟩, hread, h⟩ := bind_eq_ok.mp h
  have hdoc : read = doc := by
    rw [finish] at h
    split at h
    · exact Except.ok.inj h
    · cases h
  exact hdoc ▸ (readsFitting _).value hschema hread

end MooseHerd.Json
