import Mathlib.Data.Finset.Card
import MooseHerd.Names.Search
import MooseHerd.Proofs.Keys
import MooseHerd.Proofs.Text.ByteOrder
import MooseHerd.Proofs.Text.Lowercase

/-! # What candidates leave behind

The names found among candidates are told apart by their lower-case forms. Under each form stands
the first candidate that has it, as it was drawn: a later one in other letters does not replace
it. -/

namespace MooseHerd.Names

/-- The lower-case form of a name begins with all of the letter's. -/
theorem lowerChar_prefix_of_startsWithLetter {letter : Char} {name : String}
    (h : startsWithLetter letter name = true) :
    Text.lowerChar letter <+: (Text.lowercase name).toList := by
  unfold startsWithLetter at h
  split at h
  · contradiction
  · rename_i first rest hname
    have heq : Text.lowerChar first = Text.lowerChar letter := by simpa using h
    rw [Text.toList_lowercase, hname, Text.lowerAfter_nil_cons, heq]
    exact List.prefix_append _ _

/-! ## Names under their lower-case forms -/

theorem Found.map_fst_add (key name : String) : ∀ found : Found,
    (found.add key name).map (·.1) = Keys.insert key (found.map (·.1))
  | [] => rfl
  | (k, n) :: rest => by
    simp only [Found.add, Keys.insert, List.map_cons]
    split
    · rfl
    · split
      · rfl
      · rw [List.map_cons, Found.map_fst_add key name rest]

/-- Under a key that is taken stays what is there. -/
theorem Found.lookup_add {found : Found} (h : Keys.Ascending (found.map (·.1)))
    (key name k : String) :
    (found.add key name).lookup k =
      if k = key then some ((found.lookup key).getD name) else found.lookup k := by
  induction found with
  | nil => by_cases hk : k = key <;> simp [Found.add, hk]
  | cons entry rest ih =>
    obtain ⟨head, n⟩ := entry
    obtain ⟨hhead, hrest⟩ := List.pairwise_cons.mp h
    simp only [Found.add]
    split
    · rename_i hlt
      have hnone : List.lookup key ((head, n) :: rest) = none := by
        rw [← Option.not_isSome_iff_eq_none, Keys.lookup_isSome_iff_mem]
        intro hm
        rcases List.mem_cons.mp hm with rfl | hm
        · exact String.lt_irrefl _ hlt
        · exact String.lt_irrefl _ (String.lt_trans hlt (hhead key hm))
      rw [hnone]
      split
      · rename_i hk
        rw [hk, List.lookup_cons_self, Option.getD_none]
      · rename_i hk
        rw [Keys.lookup_cons_of_ne hk]
    · split
      · rename_i heq
        subst heq
        split
        · rename_i hk
          rw [hk, List.lookup_cons_self, Option.getD_some]
        · rfl
      · rename_i hne
        rw [Keys.lookup_cons_of_ne hne]
        by_cases hk : k = head
        · subst hk
          rw [List.lookup_cons_self, List.lookup_cons_self, if_neg (Ne.symm hne)]
        · rw [Keys.lookup_cons_of_ne hk, Keys.lookup_cons_of_ne hk, ih hrest]

theorem Found.add_eq_self_iff {found : Found} (h : Keys.Ascending (found.map (·.1)))
    {key name : String} : found.add key name = found ↔ key ∈ found.map (·.1) := by
  constructor
  · intro hself
    rw [← hself, Found.map_fst_add]
    exact Keys.mem_insert.mpr (.inl rfl)
  · intro hmem
    induction found with
    | nil => cases hmem
    | cons entry rest ih =>
      obtain ⟨k, n⟩ := entry
      obtain ⟨hhead, hrest⟩ := List.pairwise_cons.mp h
      rcases List.mem_cons.mp hmem with rfl | hmem
      · rw [Found.add, if_neg (String.lt_irrefl _), if_pos rfl]
      · have hlt := hhead key hmem
        rw [Found.add, if_neg (String.lt_asymm hlt), if_neg (String.ne_of_lt hlt).symm,
          ih hrest hmem]

/-! ## Candidates one after the other -/

/-- What is found among candidates. -/
def Found.among (letter : Char) (candidates : List String) : Found :=
  candidates.foldl (Found.consider letter) []

theorem Found.among_append_singleton (letter : Char) (candidates : List String)
    (candidate : String) : Found.among letter (candidates ++ [candidate]) =
      (Found.among letter candidates).consider letter candidate := by
  simp [Found.among]

/-- Whether a candidate may be kept under a key. -/
def fits (letter : Char) (key candidate : String) : Bool :=
  startsWithLetter letter candidate && Text.lowercase candidate == key

theorem Found.ascending_among (letter : Char) (candidates : List String) :
    Keys.Ascending ((Found.among letter candidates).map (·.1)) := by
  induction candidates using List.reverseRecOn with
  | nil => simp [Found.among]
  | append_singleton candidates candidate ih =>
    rw [Found.among_append_singleton, Found.consider]
    split
    · rw [Found.map_fst_add]
      exact ih.insert _
    · exact ih

/-- **The first candidate with a lower-case form is the one that is kept.** -/
theorem Found.lookup_among (letter : Char) (candidates : List String) (key : String) :
    (Found.among letter candidates).lookup key = candidates.find? (fits letter key) := by
  induction candidates using List.reverseRecOn with
  | nil => rfl
  | append_singleton candidates candidate ih =>
    rw [Found.among_append_singleton, Found.consider, List.find?_append, ← ih]
    split
    · rename_i hstart
      rw [Found.lookup_add (Found.ascending_among letter candidates)]
      by_cases hk : key = Text.lowercase candidate
      · subst hk
        rw [if_pos rfl]
        cases (Found.among letter candidates).lookup (Text.lowercase candidate) <;>
          simp [fits, hstart]
      · rw [if_neg hk]
        simp [fits, hstart, Ne.symm hk]
    · rename_i hstart
      simp [fits, hstart]

/-! ## The lower-case forms of the candidates that count -/

/-- The lower-case forms of those candidates that begin with the letter. -/
def lowerForms (letter : Char) (candidates : List String) : Finset String :=
  ((candidates.filter (startsWithLetter letter)).map Text.lowercase).toFinset

theorem mem_lowerForms {letter : Char} {candidates : List String} {key : String} :
    key ∈ lowerForms letter candidates ↔ ∃ name ∈ candidates, fits letter key name = true := by
  simp [lowerForms, fits, and_assoc]

theorem lowerForms_mono {letter : Char} {fewer more : List String} (h : fewer ⊆ more) :
    lowerForms letter fewer ⊆ lowerForms letter more := by
  intro key hk
  obtain ⟨name, hm, hf⟩ := mem_lowerForms.mp hk
  exact mem_lowerForms.mpr ⟨name, h hm, hf⟩

/-- One more candidate brings its form if it begins with the letter. -/
theorem lowerForms_append_singleton (letter : Char) (candidates : List String)
    (candidate : String) : lowerForms letter (candidates ++ [candidate]) =
      if startsWithLetter letter candidate then
        insert (Text.lowercase candidate) (lowerForms letter candidates)
      else lowerForms letter candidates := by
  ext key
  split
  · rename_i hstart
    simp [lowerForms, hstart]
  · rename_i hstart
    simp [lowerForms, hstart]

theorem card_lowerForms_append_singleton_le (letter : Char) (candidates : List String)
    (candidate : String) : (lowerForms letter (candidates ++ [candidate])).card ≤
      (lowerForms letter candidates).card + 1 := by
  rw [lowerForms_append_singleton]
  split
  · exact Finset.card_insert_le _ _
  · exact Nat.le_succ _

theorem Found.toFinset_keys_among (letter : Char) (candidates : List String) :
    ((Found.among letter candidates).map (·.1)).toFinset = lowerForms letter candidates := by
  ext key
  rw [List.mem_toFinset, ← Keys.lookup_isSome_iff_mem, Found.lookup_among, List.find?_isSome,
    mem_lowerForms]

/-- A candidate that begins with the letter adds nothing if its lower-case form is there. -/
theorem Found.among_append_eq_self_iff {letter : Char} {candidate : String}
    (hstart : startsWithLetter letter candidate = true) {earlier : List String} :
    Found.among letter (earlier ++ [candidate]) = Found.among letter earlier ↔
      Text.lowercase candidate ∈ lowerForms letter earlier := by
  rw [Found.among_append_singleton, Found.consider, if_pos hstart,
    Found.add_eq_self_iff (Found.ascending_among letter earlier), ← List.mem_toFinset,
    Found.toFinset_keys_among]

theorem Found.length_among (letter : Char) (candidates : List String) :
    (Found.among letter candidates).length = (lowerForms letter candidates).card := by
  rw [← Found.toFinset_keys_among,
    List.toFinset_card_of_nodup (Found.ascending_among letter candidates).nodup, List.length_map]

/-! ## The names as a list -/

theorem Found.fits_of_mem_among {letter : Char} {candidates : List String} {key name : String}
    (h : (key, name) ∈ Found.among letter candidates) : fits letter key name = true := by
  have hl := (Keys.lookup_eq_some_iff_mem (Found.ascending_among letter candidates)).mpr h
  rw [Found.lookup_among] at hl
  exact List.find?_some hl

theorem Found.map_lowercase_among (letter : Char) (candidates : List String) :
    ((Found.among letter candidates).map (·.2)).map Text.lowercase =
      (Found.among letter candidates).map (·.1) := by
  rw [List.map_map]
  apply List.map_congr_left
  intro entry hm
  have hf := Found.fits_of_mem_among hm
  simp only [fits, Bool.and_eq_true, beq_iff_eq] at hf
  exact hf.2

theorem Found.mem_of_mem_among {letter : Char} {candidates : List String} {key name : String}
    (h : (key, name) ∈ Found.among letter candidates) : name ∈ candidates := by
  have hl := (Keys.lookup_eq_some_iff_mem (Found.ascending_among letter candidates)).mpr h
  rw [Found.lookup_among] at hl
  exact List.mem_of_find?_eq_some hl

/-- Names chosen among candidates: one for each lower-case form, in the order of the bytes of these
forms, and for each form the first candidate that begins with the letter. Unless the letter is
an i, the first candidate of the form does begin with it. -/
structure Selection (letter : Char) (candidates names : List String) : Prop where
  ascending : names.Pairwise fun a b =>
    Text.Utf8.encode (Text.lowercase a) < Text.Utf8.encode (Text.lowercase b)
  forms : (names.map Text.lowercase).toFinset = lowerForms letter candidates
  first : ∀ name ∈ names, candidates.find? (fits letter (Text.lowercase name)) = some name
  first_of_form : letter ∉ ['i', 'I', 'İ'] → ∀ name ∈ names,
    candidates.find? (Text.lowercase · == Text.lowercase name) = some name

theorem startsWithLetter_of_lowercase_eq {letter : Char} {a b : String}
    (hl : letter ∉ ['i', 'I', 'İ']) (hb : startsWithLetter letter b = true)
    (h : Text.lowercase a = Text.lowercase b) : startsWithLetter letter a = true := by
  have h : Text.lowerAfter [] a.toList = Text.lowerAfter [] b.toList := by
    simpa using congrArg String.toList h
  unfold startsWithLetter at hb ⊢
  cases hbs : b.toList with
  | nil => simp [hbs] at hb
  | cons c cs =>
    rw [hbs] at h hb
    have hc : Text.lowerChar c = Text.lowerChar letter := by simpa using hb
    cases has : a.toList with
    | nil =>
      rw [has, Text.lowerAfter_nil_cons] at h
      exact absurd (List.append_eq_nil_iff.mp h.symm).1 (Text.lowerChar_ne_nil c)
    | cons d ds =>
      rw [has] at h
      simp [Text.lowerChar_eq_of_lowerAfter_eq h (Text.not_i_of_lowerChar_eq hc hl), hc]

theorem Found.selection_among (letter : Char) (candidates : List String) :
    Selection letter candidates ((Found.among letter candidates).map (·.2)) := by
  have hfirst : ∀ name ∈ (Found.among letter candidates).map (·.2),
      candidates.find? (fits letter (Text.lowercase name)) = some name := by
    intro name hn
    obtain ⟨⟨key, _⟩, hm, rfl⟩ := List.mem_map.mp hn
    have hf := Found.fits_of_mem_among hm
    simp only [fits, Bool.and_eq_true, beq_iff_eq] at hf
    rw [hf.2, ← Found.lookup_among]
    exact (Keys.lookup_eq_some_iff_mem (Found.ascending_among letter candidates)).mpr hm
  refine ⟨?_, ?_, hfirst, ?_⟩
  · have h := Found.ascending_among letter candidates
    rw [← Found.map_lowercase_among] at h
    exact (List.pairwise_map.mp h).imp Text.Utf8.encode_lt_encode_iff.mpr
  · rw [Found.map_lowercase_among, Found.toFinset_keys_among]
  · intro hl name hn
    rw [← hfirst name hn]
    have hstart := List.find?_some (hfirst name hn)
    simp only [fits, Bool.and_eq_true] at hstart
    congr 1
    funext candidate
    rw [fits, Bool.eq_iff_iff, Bool.and_eq_true, beq_iff_eq]
    exact ⟨fun h => ⟨startsWithLetter_of_lowercase_eq hl hstart.1 h, h⟩, fun h => h.2⟩

end MooseHerd.Names
