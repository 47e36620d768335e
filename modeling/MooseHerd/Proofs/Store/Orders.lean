import Mathlib.Data.List.Nodup
import MooseHerd.Proofs.Decimal.Digits
import MooseHerd.Proofs.Store.Requests

/-! # Requests in any order

Clients that share a store in memory do not agree on whose request is next, and which of two
requests for a name succeeds depends on it. What does not depend on it is which names are taken, how
many requests succeed and which numbers are given out. -/

namespace MooseHerd.MemoryStore

/-! ## What every request comes to -/

/-- The requests in order, each with its answer. -/
def outcomes : MemoryStore → List Request → List (Request × Except Error Json)
  | _, [] => []
  | store, r :: rest =>
    (r, (store.create r.target r.document).1) ::
      outcomes (store.create r.target r.document).2 rest

/-- Of the outcomes of requests that have a name, one for the key is a success and every other one
tells that there is a document of that name. -/
def OneSucceeds (key : String) (outcomes : List (Request × Except Error Json)) : Prop :=
  ∃ before winner stored after, outcomes = before ++ (winner, .ok stored) :: after ∧
    winner.name ≠ "" ∧ winner.key = key ∧
    ∀ o ∈ before ++ after, o.1.name ≠ "" → o.1.key = key →
      o.2 = .error (.alreadyExists o.1.target.resourceType o.1.name)

variable {store : MemoryStore}

theorem mem_keys_create {r : Request} {k : String} :
    k ∈ (store.create r.target r.document).2.keys ↔
      k ∈ store.keys ∨ r.name ≠ "" ∧ r.key = k := by
  have hrun : k ∈ (store.create r.target r.document).2.keys ↔
      k ∈ store.keys ∨ ∃ r' ∈ [r], r'.name ≠ "" ∧ r'.key = k :=
    (store.run_after [r]).mem_keys_iff
  rw [hrun, List.exists_mem_cons_iff]
  simp

/-- Once a key is taken no request for it succeeds. -/
theorem outcome_of_mem_keys {requests : List Request} {o : Request × Except Error Json}
    (hkey : o.1.key ∈ store.keys) (hname : o.1.name ≠ "") (ho : o ∈ store.outcomes requests) :
    o.2 = .error (.alreadyExists o.1.target.resourceType o.1.name) := by
  induction requests generalizing store with
  | nil => cases ho
  | cons r rest ih =>
    rcases List.mem_cons.mp ho with rfl | ho
    · have hcreate : store.create r.target r.document = (.error r.refusal, store) :=
        create_of_refuses (.inr hkey)
      dsimp only
      rw [hcreate, Request.refusal, if_neg hname]
    · exact ih (mem_keys_create.mpr (.inl hkey)) ho

/-- The first request for a free key succeeds, and none after it. -/
theorem oneSucceeds_of_not_mem_keys {requests : List Request} {r : Request}
    (hkey : r.key ∉ store.keys) (hname : r.name ≠ "") (hr : r ∈ requests) :
    OneSucceeds r.key (store.outcomes requests) := by
  induction requests generalizing store with
  | nil => cases hr
  | cons first rest ih =>
    by_cases hfirst : first.name ≠ "" ∧ first.key = r.key
    · obtain ⟨hne, hsame⟩ := hfirst
      have hfree : ¬ store.Refuses first := not_or.mpr ⟨hne, hsame ▸ hkey⟩
      obtain ⟨stored, -, -, hcreate⟩ := create_of_not_refuses hfree
      refine ⟨[], first, stored, _, by rw [outcomes, hcreate]; rfl, hne, hsame, ?_⟩
      intro o ho honame hokey
      refine outcome_of_mem_keys ?_ honame ho
      rw [keys_add, Keys.mem_insert, hokey, hsame]
      exact .inl rfl
    · -- the first request does not touch the key, so it is still free for the others
      have hfree : r.key ∉ (store.create first.target first.document).2.keys := by
        rw [mem_keys_create]
        exact not_or.mpr ⟨hkey, hfirst⟩
      have hrest : r ∈ rest := by
        rcases List.mem_cons.mp hr with rfl | hr
        · exact absurd ⟨hname, rfl⟩ hfirst
        · exact hr
      obtain ⟨before, winner, stored, after, heq, hwinner, hwinnerKey, hothers⟩ := ih hfree hrest
      refine ⟨(first, (store.create first.target first.document).1) :: before, winner, stored,
        after, by rw [outcomes, heq]; rfl, hwinner, hwinnerKey, ?_⟩
      intro o ho honame hokey
      rcases List.mem_cons.mp ho with rfl | ho
      · exact absurd ⟨honame, hokey⟩ hfirst
      · exact hothers o ho honame hokey

/-! ## Rearranged requests -/

/-- Which keys are taken in the end does not depend on the order of the requests. -/
theorem keys_after_perm {order order' : List Request} (h : order.Perm order')
    (stamps stamps' : Nat → Stamp) :
    ((empty stamps).after order).keys = ((empty stamps').after order').keys := by
  have hrun := (empty stamps).run_after order
  have hrun' := (empty stamps').run_after order'
  have hascending := hrun.ascending List.Pairwise.nil
  have hascending' := hrun'.ascending List.Pairwise.nil
  have hmem : ∀ k, k ∈ ((empty stamps).after order).keys ↔
      k ∈ ((empty stamps').after order').keys := by
    intro k
    rw [hrun.mem_keys_iff, hrun'.mem_keys_iff]
    simp only [h.mem_iff]
    rfl
  have hperm := (List.perm_ext_iff_of_nodup hascending.nodup hascending'.nodup).mpr hmem
  exact hperm.eq_of_pairwise
    (fun a b _ _ hab hba => absurd (String.lt_trans hab hba) (String.lt_irrefl a))
    hascending hascending'

/-- As many requests succeed as there are keys in the end. -/
theorem length_made_eq (stamps : Nat → Stamp) (order : List Request) :
    ((empty stamps).made order).length = ((empty stamps).after order).keys.length := by
  have hcount := ((empty stamps).run_after order).count_eq
  rw [keys, List.length_map]
  exact ((Nat.zero_add _).symm.trans hcount.symm)

/-- How requests to a store without documents end, in whatever order they come. -/
structure Settled (stamps : Nat → Stamp) (order : List Request) : Prop where
  oneSucceeds : ∀ r ∈ order, r.name ≠ "" → OneSucceeds r.key ((empty stamps).outcomes order)
  /-- The numbers from one on are given out, in this order. -/
  numbered : ((empty stamps).made order).map (resourceVersion? ·.2) =
    (List.range' 1 ((empty stamps).made order).length).map fun number => some (toString number)
  /-- No number is given out twice. -/
  distinct : (((empty stamps).made order).map (resourceVersion? ·.2)).Nodup

theorem settled (stamps : Nat → Stamp) (order : List Request) : Settled stamps order := by
  have hnumbered := ((empty stamps).run_after order).map_resourceVersion?
  refine ⟨fun r hr hname => oneSucceeds_of_not_mem_keys nofun hname hr, hnumbered, ?_⟩
  rw [hnumbered]
  refine List.Nodup.map ?_ List.nodup_range'
  intro a b h
  exact Decimal.toString_injective (Option.some.inj h)

/-- **The order of requests decides who succeeds, and nothing else about the store.** In any two
orders of the same requests, such as two ways in which those of several clients meet, the same keys
are taken in the end and equally many requests succeed. For every key that is asked for one request
succeeds, and the numbers of those that do are the first ones. -/
theorem create_in_any_order {order order' : List Request} (h : order.Perm order')
    (stamps stamps' : Nat → Stamp) :
    ((empty stamps).after order).keys = ((empty stamps').after order').keys ∧
    ((empty stamps).after order).count = ((empty stamps').after order').count ∧
    ((empty stamps).made order).length = ((empty stamps').made order').length ∧
    Settled stamps order ∧ Settled stamps' order' := by
  have hkeys := keys_after_perm h stamps stamps'
  have hlength := congrArg List.length hkeys
  refine ⟨hkeys, ?_, ?_, settled stamps order, settled stamps' order'⟩
  · rw [keys, keys, List.length_map, List.length_map] at hlength
    exact hlength
  · rw [length_made_eq, length_made_eq, hlength]

/-- Two clients want documents of one name; the one that is late is refused. -/
theorem create_in_any_order_of_rivals :
    let stamps : Nat → Stamp := fun number => ⟨toString number, "2024-01-01T00:00:00Z"⟩
    let named (name kind : String) : Request :=
      ⟨{}, .ofMembers [("kind", .string kind), ("metadata", .ofMembers [("name", .string name)])]⟩
    let order := [named "max" "Moose", named "mona" "Moose", named "max" "Elk"]
    let order' := [named "max" "Elk", named "max" "Moose", named "mona" "Moose"]
    order.Perm order' ∧
      ((empty stamps).after order).get? {} "max" ≠ ((empty stamps).after order').get? {} "max" ∧
      ((empty stamps).after order).keys = ((empty stamps).after order').keys ∧
      ((empty stamps).after order).count = ((empty stamps).after order').count ∧
      ((empty stamps).made order).length = ((empty stamps).made order').length ∧
      Settled stamps order ∧ Settled stamps order' := by
  intro stamps named order order'
  have hperm : order.Perm order' :=
    @List.perm_append_comm _ [named "max" "Moose", named "mona" "Moose"] [named "max" "Elk"]
  refine ⟨hperm, ?_, create_in_any_order hperm stamps stamps⟩
  intro h
  have hkind := congrArg
    (fun doc : Option Json => (doc.bind (·.member? "kind")).bind Json.string?) h
  revert hkind
  decide +kernel

end MooseHerd.MemoryStore
