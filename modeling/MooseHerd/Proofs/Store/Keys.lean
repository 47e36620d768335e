import Mathlib.Data.String.Basic
import Mathlib.Order.Monotone.Basic
import MooseHerd.Store.Memory

/-! # Keys of documents

The key of a document is its collection and its name as one path, and nothing keeps slashes out of
the parts. Such a path can be cut in only one way once it is known how many slashes there are in
each part of the collection. Within one collection this is always known. -/

namespace MooseHerd

/-- A list is cut at a separator in one way if it is known how many separators come before. -/
theorem append_cons_inj_of_count_eq {α : Type} [DecidableEq α] {sep : α} : ∀ {a b x y : List α},
    a.count sep = b.count sep → a ++ sep :: x = b ++ sep :: y → a = b ∧ x = y
  | [], [], _, _, _, h => ⟨rfl, (List.cons.inj h).2⟩
  | [], c :: b, _, _, hcount, h => by
    -- the longer list would begin with the separator, which the count excludes
    obtain ⟨rfl, -⟩ := List.cons.inj h
    simp at hcount
  | c :: a, [], _, _, hcount, h => by
    obtain ⟨rfl, -⟩ := List.cons.inj h
    simp at hcount
  | c :: a, d :: b, x, y, hcount, h => by
    obtain ⟨rfl, hrest⟩ := List.cons.inj h
    simp only [List.count_cons, Nat.add_right_cancel_iff] at hcount
    obtain ⟨rfl, rfl⟩ := append_cons_inj_of_count_eq hcount hrest
    exact ⟨rfl, rfl⟩

/-- How many slashes there are in each part of a collection. -/
def Target.slashes (t : Target) : List Nat :=
  [t.space, t.group, t.version, t.plural].map (·.toList.count '/')

namespace MemoryStore

theorem toList_key (t : Target) (name : String) :
    (key t name).toList =
      t.space.toList ++ '/' :: (t.group.toList ++ '/' :: (t.version.toList ++ '/' ::
        (t.plural.toList ++ '/' :: name.toList))) := by
  simp [key]

/-- Keys of collections with their slashes in the same parts differ as their parts do. -/
theorem key_eq_key_iff {t u : Target} (h : t.slashes = u.slashes) {a b : String} :
    key t a = key u b ↔ t = u ∧ a = b := by
  constructor
  · intro hkey
    simp only [Target.slashes, List.map_cons, List.map_nil, List.cons.injEq, and_true] at h
    obtain ⟨hspace, hgroup, hversion, hplural⟩ := h
    rw [← String.toList_inj, toList_key, toList_key] at hkey
    obtain ⟨hs, hkey⟩ := append_cons_inj_of_count_eq hspace hkey
    obtain ⟨hg, hkey⟩ := append_cons_inj_of_count_eq hgroup hkey
    obtain ⟨hv, hkey⟩ := append_cons_inj_of_count_eq hversion hkey
    obtain ⟨hp, hname⟩ := append_cons_inj_of_count_eq hplural hkey
    cases t
    cases u
    simp_all [String.toList_inj]
  · rintro ⟨rfl, rfl⟩
    rfl

/-- The keys that lie within a collection are those of its documents. -/
theorem key_isPrefixOf_key_iff {t u : Target} (h : t.slashes = u.slashes) {name : String} :
    (key t "").toList.isPrefixOf (key u name).toList = true ↔ t = u := by
  rw [List.isPrefixOf_iff_prefix]
  constructor
  · rintro ⟨rest, hrest⟩
    have hkey : key t (String.ofList rest) = key u name := by
      rw [← String.toList_inj, ← hrest]
      simp [key]
    exact ((key_eq_key_iff h).mp hkey).1
  · rintro rfl
    simp [toList_key]

/-- Within one collection keys have the order of the names. -/
theorem key_strictMono (target : Target) : StrictMono (key target) := by
  intro a b h
  rw [String.lt_iff] at h ⊢
  simp only [key, String.toList_append]
  exact List.append_left_lt h

end MemoryStore

end MooseHerd
