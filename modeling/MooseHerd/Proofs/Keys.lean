/-! # Keys in ascending order

Names found by a search, members of an object and documents of a store are kept in lists that are
ascending in their keys. What the ways of putting something into such a list have in common is what
they do to its keys. -/

namespace MooseHerd.Keys

/-- Puts a key at its place in the order, unless it is there. -/
def insert (key : String) : List String → List String
  | [] => [key]
  | k :: rest =>
    if key < k then key :: k :: rest
    else if key = k then k :: rest
    else k :: insert key rest

/-- Keys in strictly ascending order. -/
abbrev Ascending (keys : List String) : Prop := keys.Pairwise (· < ·)

@[simp]
theorem mem_insert {key k : String} {keys : List String} :
    k ∈ insert key keys ↔ k = key ∨ k ∈ keys := by
  induction keys with
  | nil => simp [insert]
  | cons head rest ih =>
    simp only [insert]
    split
    · simp
    · split
      · rename_i heq
        simp [heq]
      · simp [ih, or_left_comm]

theorem lt_of_not_lt_of_ne {a b : String} (h : ¬ a < b) (hne : a ≠ b) : b < a := by
  rcases Std.le_iff_lt_or_eq.mp (String.not_lt.mp h) with hlt | heq
  · exact hlt
  · exact absurd heq.symm hne

theorem Ascending.insert {keys : List String} (h : Ascending keys) (key : String) :
    Ascending (insert key keys) := by
  induction keys with
  | nil => simp [Keys.insert]
  | cons head rest ih =>
    obtain ⟨hhead, hrest⟩ := List.pairwise_cons.mp h
    simp only [Keys.insert]
    split
    · rename_i hlt
      refine List.pairwise_cons.mpr ⟨?_, h⟩
      intro k hk
      rcases List.mem_cons.mp hk with rfl | hk
      · exact hlt
      · exact String.lt_trans hlt (hhead k hk)
    · split
      · exact h
      · rename_i hnlt hne
        refine List.pairwise_cons.mpr ⟨?_, ih hrest⟩
        intro k hk
        rcases mem_insert.mp hk with rfl | hk
        · exact lt_of_not_lt_of_ne hnlt hne
        · exact hhead k hk

theorem Ascending.nodup {keys : List String} (h : Ascending keys) : keys.Nodup :=
  h.imp String.ne_of_lt

/-! ## Looking up -/

variable {α : Type}

theorem lookup_cons_of_ne {key k : String} (h : key ≠ k) (value : α)
    (entries : List (String × α)) : ((k, value) :: entries).lookup key = entries.lookup key := by
  rw [List.lookup_cons, beq_eq_false_iff_ne.mpr h]

/-- In a list with ascending keys, what is found under a key is what is there under it. -/
theorem lookup_eq_some_iff_mem {entries : List (String × α)} (h : Ascending (entries.map (·.1)))
    {key : String} {value : α} : entries.lookup key = some value ↔ (key, value) ∈ entries := by
  induction entries with
  | nil => simp
  | cons entry rest ih =>
    obtain ⟨k, v⟩ := entry
    simp only [List.map_cons, List.pairwise_cons] at h
    obtain ⟨hhead, hrest⟩ := h
    by_cases hk : key = k
    · subst hk
      have hnot : (key, value) ∉ rest := by
        intro hm
        exact String.lt_irrefl key (hhead key (List.mem_map.mpr ⟨_, hm, rfl⟩))
      rw [List.lookup_cons_self]
      simp [hnot, eq_comm]
    · rw [lookup_cons_of_ne hk, ih hrest]
      simp [hk]

theorem lookup_isSome_iff_mem {entries : List (String × α)} {key : String} :
    (entries.lookup key).isSome = true ↔ key ∈ entries.map (·.1) := by
  rw [List.lookup_isSome_iff, List.mem_map]
  constructor
  · rintro ⟨entry, hm, hk⟩
    exact ⟨entry, hm, (beq_iff_eq.mp hk).symm⟩
  · rintro ⟨entry, hm, hk⟩
    exact ⟨entry, hm, beq_iff_eq.mpr hk.symm⟩

end MooseHerd.Keys
