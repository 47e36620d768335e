import MooseHerd.Proofs.Store.Requests
import MooseHerd.Proofs.Text.ByteOrder

/-! # Collections in a store in memory

A store keeps all collections in one order of keys, so two of them are kept apart only as far as
their keys are. Collections with their slashes in the same parts are; others may meet. A store that
has one collection is a map from names to documents. -/

namespace MooseHerd.MemoryStore

/-- One document comes before another in the order of the bytes of their names. -/
def Precedes (a b : Json) : Prop :=
  ∃ name name', documentName? a = some name ∧ documentName? b = some name' ∧
    Text.Utf8.encode name < Text.Utf8.encode name'

namespace Run

variable {stamps : Nat → Stamp} {last : MemoryStore} {requests : List Request}
  {made : List (Request × Json)}

/-! ## Reading by key -/

theorem mem_entries_iff (h : Run (empty stamps) requests made last) {k : String} {doc : Json} :
    (k, doc) ∈ last.entries ↔ ∃ r, (r, doc) ∈ made ∧ r.key = k := by
  rw [h.entries_perm.mem_iff, List.append_nil, List.mem_map]
  constructor
  · rintro ⟨c, hc, heq⟩
    cases heq
    exact ⟨c.1, hc, rfl⟩
  · rintro ⟨r, hr, rfl⟩
    exact ⟨(r, doc), hr, rfl⟩

theorem get?_eq_some_iff (h : Run (empty stamps) requests made last) {t : Target} {name : String}
    {doc : Json} : last.get? t name = some doc ↔ ∃ r, (r, doc) ∈ made ∧ r.key = key t name := by
  rw [get?, Keys.lookup_eq_some_iff_mem (h.ascending List.Pairwise.nil), h.mem_entries_iff]

theorem mem_list_iff (h : Run (empty stamps) requests made last) {t : Target} {doc : Json} :
    doc ∈ last.list t ↔
      ∃ r, (r, doc) ∈ made ∧ (key t "").toList.isPrefixOf r.key.toList = true := by
  rw [list, List.mem_map]
  constructor
  · rintro ⟨⟨k, doc⟩, hmem, rfl⟩
    obtain ⟨hentry, hprefix⟩ := List.mem_filter.mp hmem
    obtain ⟨r, hr, rfl⟩ := h.mem_entries_iff.mp hentry
    exact ⟨r, hr, hprefix⟩
  · rintro ⟨r, hr, hprefix⟩
    have hentry := h.mem_entries_iff.mpr ⟨r, hr, rfl⟩
    exact ⟨(r.key, doc), List.mem_filter.mpr ⟨hentry, hprefix⟩, rfl⟩

/-! ## Collections with their slashes in the same parts -/

variable {t : Target} (hslashes : ∀ r ∈ requests, r.target.slashes = t.slashes)

include hslashes

theorem get?_eq_some_iff_of_slashes (h : Run (empty stamps) requests made last) {name : String}
    {doc : Json} : last.get? t name = some doc ↔
      ∃ r, (r, doc) ∈ made ∧ r.target = t ∧ documentName? r.document = some name := by
  rw [h.get?_eq_some_iff]
  constructor
  · rintro ⟨r, hr, hkey⟩
    obtain ⟨hmem, hname, -⟩ := h.named_of_mem hr
    obtain ⟨htarget, rfl⟩ := (key_eq_key_iff (hslashes r hmem)).mp hkey
    exact ⟨r, hr, htarget, Request.documentName?_eq_some hname⟩
  · rintro ⟨r, hr, rfl, hname⟩
    exact ⟨r, hr, congrArg (key r.target) (Request.name_eq hname)⟩

theorem contains_iff_of_slashes (h : Run (empty stamps) requests made last) {name : String} :
    last.contains t name = true ↔
      ∃ c ∈ made, c.1.target = t ∧ documentName? c.1.document = some name := by
  rw [contains, Option.isSome_iff_exists]
  constructor
  · rintro ⟨doc, hdoc⟩
    obtain ⟨r, hr, hc⟩ := (h.get?_eq_some_iff_of_slashes hslashes).mp hdoc
    exact ⟨(r, doc), hr, hc⟩
  · rintro ⟨⟨r, doc⟩, hr, hc⟩
    exact ⟨doc, (h.get?_eq_some_iff_of_slashes hslashes).mpr ⟨r, hr, hc⟩⟩

/-- What lies within a collection is a document of it under its name. -/
theorem key_of_mem_filter (h : Run (empty stamps) requests made last) {k : String} {doc : Json}
    (hmem : (k, doc) ∈ last.entries.filter fun (k, _) => (key t "").toList.isPrefixOf k.toList) :
    ∃ name, k = key t name ∧ documentName? doc = some name := by
  obtain ⟨hentry, hprefix⟩ := List.mem_filter.mp hmem
  obtain ⟨r, hr, rfl⟩ := h.mem_entries_iff.mp hentry
  obtain ⟨hmem, -, hname⟩ := h.named_of_mem hr
  have htarget := (key_isPrefixOf_key_iff (hslashes r hmem).symm).mp hprefix
  exact ⟨r.name, congrArg (key · r.name) htarget.symm, hname⟩

theorem mem_list_iff_of_slashes (h : Run (empty stamps) requests made last) {doc : Json} :
    doc ∈ last.list t ↔ ∃ r, (r, doc) ∈ made ∧ r.target = t := by
  rw [h.mem_list_iff]
  constructor
  · rintro ⟨r, hr, hprefix⟩
    obtain ⟨hmem, -⟩ := h.named_of_mem hr
    exact ⟨r, hr, ((key_isPrefixOf_key_iff (hslashes r hmem).symm).mp hprefix).symm⟩
  · rintro ⟨r, hr, rfl⟩
    exact ⟨r, hr, (key_isPrefixOf_key_iff rfl).mpr rfl⟩

/-- Documents of a collection are listed in the order of their names. -/
theorem pairwise_list_of_slashes (h : Run (empty stamps) requests made last) :
    (last.list t).Pairwise Precedes := by
  have hascending : last.entries.Pairwise fun a b => a.1 < b.1 :=
    List.pairwise_map.mp (h.ascending List.Pairwise.nil)
  refine List.pairwise_map.mpr ((hascending.filter _).imp_of_mem ?_)
  rintro ⟨k, doc⟩ ⟨k', doc'⟩ hmem hmem' hlt
  obtain ⟨name, rfl, hname⟩ := h.key_of_mem_filter hslashes hmem
  obtain ⟨name', rfl, hname'⟩ := h.key_of_mem_filter hslashes hmem'
  exact ⟨name, name', hname, hname', Text.Utf8.encode_lt_encode_iff.mpr
    ((key_strictMono t).lt_iff_lt.mp hlt)⟩

end Run

/-- **Collections with their slashes in the same parts are kept apart.** A name is taken only by a
document of the same collection, and what is read from a collection was created in it. -/
theorem collections_apart (stamps : Nat → Stamp) (requests : List Request) (t : Target)
    (hslashes : ∀ r ∈ requests, r.target.slashes = t.slashes) :
    let store := (empty stamps).after requests
    let made := (empty stamps).made requests
    (∀ doc, (∃ kind name, (store.create t doc).1 = .error (.alreadyExists kind name)) ↔
      ∃ c ∈ made, c.1.target = t ∧ documentName? c.1.document = documentName? doc) ∧
    (∀ name doc, store.get? t name = some doc ↔
      ∃ r, (r, doc) ∈ made ∧ r.target = t ∧ documentName? r.document = some name) ∧
    (∀ name, store.contains t name = true ↔
      ∃ c ∈ made, c.1.target = t ∧ documentName? c.1.document = some name) ∧
    ∀ doc, doc ∈ store.list t ↔ ∃ r, (r, doc) ∈ made ∧ r.target = t := by
  intro store made
  have hrun := (empty stamps).run_after requests
  refine ⟨?_, ?_, ?_, ?_⟩
  · intro doc
    rw [create_alreadyExists_iff (r := ⟨t, doc⟩), hrun.contains_iff_of_slashes hslashes]
    constructor
    · rintro ⟨hname, c, hc, htarget, hsame⟩
      exact ⟨c, hc, htarget, hsame.trans (Request.documentName?_eq_some hname).symm⟩
    · rintro ⟨c, hc, htarget, hsame⟩
      obtain ⟨-, hname, -⟩ := hrun.named_of_mem hc
      have hdoc := hsame.symm.trans (Request.documentName?_eq_some hname)
      have heq : Request.name ⟨t, doc⟩ = c.1.name := Request.name_eq hdoc
      exact ⟨heq ▸ hname, c, hc, htarget, heq ▸ hsame.trans hdoc⟩
  · intro name doc
    exact hrun.get?_eq_some_iff_of_slashes hslashes
  · intro name
    exact hrun.contains_iff_of_slashes hslashes
  · intro doc
    exact hrun.mem_list_iff_of_slashes hslashes

/-- The document of a moose, as far as a store reads it. -/
def named (name : String) : Json := .ofMembers [("metadata", .ofMembers [("name", .string name)])]

/-- A namespace is kept apart from those whose names it begins with. -/
theorem collections_apart_of_namespaces :
    let requests : List Request := [⟨{}, named "milo"⟩, ⟨{ space := "wildlife" }, named "milo"⟩]
    (∀ r ∈ requests, r.target.slashes = Target.slashes { space := "wild" }) ∧
      ∀ doc, doc ∉ ((empty fun _ => ⟨"", ""⟩).after requests).list { space := "wild" } := by
  intro requests
  have hslashes : ∀ r ∈ requests, r.target.slashes = Target.slashes { space := "wild" } := by
    decide +kernel
  refine ⟨hslashes, ?_⟩
  intro doc hdoc
  obtain ⟨-, -, -, hlist⟩ :=
    collections_apart (fun _ => ⟨"", ""⟩) requests { space := "wild" } hslashes
  obtain ⟨r, hr, htarget⟩ := (hlist doc).mp hdoc
  obtain ⟨hmem, -⟩ := (run_after _ requests).named_of_mem hr
  simp only [requests, List.mem_cons, List.not_mem_nil, or_false] at hmem
  rcases hmem with rfl | rfl <;> exact absurd htarget (by decide)

/-- Collections with slashes in different parts may share their keys. -/
theorem collections_meet_over_slashes :
    let near : Target := { space := "x/y", group := "z" }
    let far : Target := { space := "x", group := "y/z" }
    let store := (empty fun _ => ⟨"", ""⟩).after [⟨near, named "a"⟩]
    near ≠ far ∧ (store.create far (named "a")).1 = .error (.alreadyExists "mooses.y/z" "a") ∧
      store.contains far "a" = true ∧ (store.list far).length = 1 := by
  refine ⟨by decide, rfl, ?_, ?_⟩
  · decide +kernel
  · decide +kernel

/-! ## A single collection -/

section SingleCollection

variable {stamps : Nat → Stamp} {last : MemoryStore} {docs : List Json}
  {made : List (Request × Json)} {t : Target}

theorem target_of_mem_made (h : Run (empty stamps) (t.requests docs) made last) {r : Request}
    {stored : Json} (hmem : (r, stored) ∈ made) : r.target = t :=
  Target.target_of_mem_requests (h.named_of_mem hmem).1

/-- In a store with one collection every document lies within it. -/
theorem list_eq_map_entries (h : Run (empty stamps) (t.requests docs) made last) :
    last.list t = last.entries.map (·.2) := by
  rw [list, List.filter_eq_self.mpr]
  rintro ⟨k, doc⟩ hentry
  obtain ⟨r, hr, rfl⟩ := h.mem_entries_iff.mp hentry
  obtain rfl := target_of_mem_made h hr
  exact (key_isPrefixOf_key_iff rfl).mpr rfl

theorem list_perm (h : Run (empty stamps) (t.requests docs) made last) :
    (last.list t).Perm (made.map (·.2)) := by
  rw [list_eq_map_entries h]
  have hperm := h.entries_perm.map Prod.snd
  rw [List.append_nil, List.map_map] at hperm
  exact hperm

theorem slashes_of_mem_requests {r : Request} (hr : r ∈ t.requests docs) :
    r.target.slashes = t.slashes := by
  rw [Target.target_of_mem_requests hr]

/-- Documents that came back in the order of their names are listed as they came. -/
theorem list_eq_of_pairwise (h : Run (empty stamps) (t.requests docs) made last)
    (hmade : (made.map (·.2)).Pairwise Precedes) : last.list t = made.map (·.2) := by
  have hlist := h.pairwise_list_of_slashes fun _ => slashes_of_mem_requests
  refine (list_perm h).eq_of_pairwise ?_ hlist hmade
  rintro a b - - ⟨name, name', ha, hb, hlt⟩ ⟨_, _, hb', ha', hlt'⟩
  cases ha.symm.trans ha'
  cases hb.symm.trans hb'
  exact absurd (Text.Utf8.encode_lt_encode_iff.mp hlt')
    (String.lt_asymm (Text.Utf8.encode_lt_encode_iff.mp hlt))

/-- In a store with one collection a name is taken once a document of the name was requested. -/
theorem refuses_after_empty_iff {doc : Json} {name : String} (hname : documentName? doc = some name)
    (hne : name ≠ "") :
    ((empty stamps).after (t.requests docs)).Refuses ⟨t, doc⟩ ↔
      ∃ earlier ∈ docs, documentName? earlier = some name := by
  rw [refuses_after_iff hname, or_iff_right hne]
  exact or_iff_right Bool.false_ne_true

end SingleCollection

/-- **A store with one collection is a map from names to documents**, whatever characters there are
in the names. The first document of a name is created and no other, it is what is found under the
name, and the documents that came back are listed in the order of their names. -/
theorem collection_is_map (stamps : Nat → Stamp) (t : Target) (docs : List Json) :
    let store := (empty stamps).after (t.requests docs)
    let made := (empty stamps).made (t.requests docs)
    (∀ doc name, documentName? doc = some name → name ≠ "" →
      ((∀ earlier ∈ docs, documentName? earlier ≠ some name) ↔
        ∃ stored, (store.create t doc).1 = .ok stored) ∧
      ((∃ earlier ∈ docs, documentName? earlier = some name) ↔
        (store.create t doc).1 = .error (.alreadyExists t.resourceType name))) ∧
    (∀ name doc, store.get? t name = some doc ↔
      ∃ r, (r, doc) ∈ made ∧ documentName? r.document = some name) ∧
    (∀ name, store.contains t name = true ↔
      ∃ c ∈ made, documentName? c.1.document = some name) ∧
    (store.list t).Perm (made.map (·.2)) ∧
    (store.list t).Pairwise Precedes ∧
    (store.list t).length = store.count := by
  intro store made
  have hrun := (empty stamps).run_after (t.requests docs)
  have hslashes : ∀ r ∈ t.requests docs, r.target.slashes = t.slashes :=
    fun _ => slashes_of_mem_requests
  refine ⟨?_, ?_, ?_, list_perm hrun, hrun.pairwise_list_of_slashes hslashes, ?_⟩
  · intro doc name hname hne
    have hrefusal : Request.refusal ⟨t, doc⟩ = .alreadyExists t.resourceType name :=
      Request.refusal_of_name hname hne
    constructor
    · rw [create_ok_iff (r := ⟨t, doc⟩), refuses_after_empty_iff hname hne]
      push Not
      rfl
    · rw [create_error_iff (r := ⟨t, doc⟩), refuses_after_empty_iff hname hne, hrefusal]
      exact (and_iff_left rfl).symm
  · intro name doc
    rw [hrun.get?_eq_some_iff_of_slashes hslashes]
    exact exists_congr fun r => and_congr_right fun hr => and_iff_right (target_of_mem_made hrun hr)
  · intro name
    rw [hrun.contains_iff_of_slashes hslashes]
    exact exists_congr fun c => and_congr_right fun hc => and_iff_right (target_of_mem_made hrun hc)
  · rw [list_eq_map_entries hrun, List.length_map]
    rfl

end MooseHerd.MemoryStore
