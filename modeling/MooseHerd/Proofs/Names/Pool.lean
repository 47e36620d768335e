import MooseHerd.Proofs.Names.Limits
import MooseHerd.Proofs.Random.Choice

/-! # Names from a pool

A draw from a pool gives one of its names and costs a random word or two; the empty pool gives the
empty name, which begins with no letter, and costs nothing. So whatever the random words are, a
search finds no name from elsewhere, and it has no end but exhaustion if it is for more names than
the pool holds. -/

namespace MooseHerd.Names

open MooseHerd.Random

variable {ρ : Type} [WordSource ρ]

/-! ## A draw -/

/-- The index of the name that is drawn with the next words. -/
def NamePool.index (pool : NamePool) (words : ρ) : Nat :=
  (pick (.ofNat pool.names.size) (wordAt words 0) (wordAt words 1)).toNat

/-- How many words the next draw takes. -/
def NamePool.wordsTaken (pool : NamePool) (words : ρ) : Nat :=
  wordsFor (.ofNat pool.names.size) (wordAt words 0)

theorem draw_of_empty {pool : NamePool} (hempty : pool.names.size = 0) (words : ρ) :
    NameSource.draw pool words = ("", pool, words) := by
  obtain ⟨names⟩ := pool
  obtain rfl := Array.eq_empty_of_size_eq_zero hempty
  rfl

theorem draw_of_nonempty {pool : NamePool} (hsize : pool.names.size < wordCount)
    (hne : 0 < pool.names.size) (words : ρ) :
    ∃ _ : pool.index words < pool.names.size, NameSource.draw pool words =
      (pool.names[pool.index words], pool, wordsAfter words (pool.wordsTaken words)) := by
  obtain ⟨hindex, hchoice⟩ := choose?_eq hne hsize words
  refine ⟨hindex, ?_⟩
  show ((choose? pool.names words).1.getD "", pool, (choose? pool.names words).2) = _
  rw [hchoice]
  rfl

/-- A name that begins with a letter is not the empty one, so it is from the pool. -/
theorem mem_names_of_draw {pool : NamePool} (hsize : pool.names.size < wordCount) {words : ρ}
    {letter : Char} (hstart : startsWithLetter letter (NameSource.draw pool words).1 = true) :
    (NameSource.draw pool words).1 ∈ pool.names := by
  rcases Nat.eq_zero_or_pos pool.names.size with hempty | hne
  · rw [draw_of_empty hempty] at hstart
    cases hstart
  · obtain ⟨hindex, hdraw⟩ := draw_of_nonempty hsize hne words
    rw [hdraw]
    exact Array.getElem_mem hindex

/-! ## A search -/

/-- Drawing does not change the pool. -/
theorem pool_stateAfter (pool : NamePool) (words : ρ) :
    ∀ n, (stateAfter drawFrom (pool, words) n).1 = pool
  | 0 => rfl
  | n + 1 => pool_stateAfter pool words n

theorem mem_names_of_mem_drawn {pool : NamePool} (hsize : pool.names.size < wordCount)
    {words : ρ} {letter : Char} {name : String} (hstart : startsWithLetter letter name = true)
    {n : Nat} (hdrawn : name ∈ drawn drawFrom (pool, words) n) : name ∈ pool.names := by
  induction n with
  | zero => cases hdrawn
  | succ n ih =>
    rcases List.mem_append.mp hdrawn with hearlier | hlast
    · exact ih hearlier
    · obtain rfl := List.mem_singleton.mp hlast
      rw [drawFrom, pool_stateAfter] at hstart ⊢
      exact mem_names_of_draw hsize hstart

/-- The names that begin with the letter have their forms from the pool. -/
theorem lowerForms_drawn_subset {pool : NamePool} (hsize : pool.names.size < wordCount)
    (words : ρ) (letter : Char) (n : Nat) :
    lowerForms letter (drawn drawFrom (pool, words) n) ⊆ lowerForms letter pool.names.toList := by
  intro key hkey
  obtain ⟨name, hdrawn, hfits⟩ := mem_lowerForms.mp hkey
  have hstart : startsWithLetter letter name = true := (Bool.and_eq_true_iff.mp hfits).1
  exact mem_lowerForms.mpr
    ⟨name, Array.mem_toList_iff.mpr (mem_names_of_mem_drawn hsize hstart hdrawn), hfits⟩

/-- **A draw stays within the pool**, so a search does as well. For more names than the pool holds
under different lower-case forms, it uses up its draws, whatever the random words are. -/
theorem search_within_pool {pool : NamePool} (hsize : pool.names.size < wordCount) (words : ρ) :
    (pool.names.size = 0 → NameSource.draw pool words = ("", pool, words)) ∧
    (0 < pool.names.size → (pool.wordsTaken words = 1 ∨ pool.wordsTaken words = 2) ∧
      ∃ _ : pool.index words < pool.names.size, NameSource.draw pool words =
        (pool.names[pool.index words], pool, wordsAfter words (pool.wordsTaken words))) ∧
    ∀ letter limit count,
      (∀ list, (search drawFrom letter limit count (pool, words)).1 = .ok list →
        ∀ name ∈ list.names, name ∈ pool.names) ∧
      ((lowerForms letter pool.names.toList).card < count →
        ∃ found ≤ (lowerForms letter pool.names.toList).card,
          (search drawFrom letter limit count (pool, words)).1 =
            .error (.namesExhausted letter count found limit)) := by
  refine ⟨fun hempty => draw_of_empty hempty words, fun hne => ⟨?_, ?_⟩, ?_⟩
  · rw [NamePool.wordsTaken, wordsFor]
    split
    · exact .inr rfl
    · exact .inl rfl
  · exact draw_of_nonempty hsize hne words
  · intro letter limit count
    constructor
    · intro list hlist name hname
      obtain ⟨-, -, hnames, -⟩ := search_eq_ok_iff.mp (Prod.ext hlist rfl)
      rw [hnames] at hname
      obtain ⟨⟨key, _⟩, hentry, rfl⟩ := List.mem_map.mp hname
      have hstart := (Bool.and_eq_true_iff.mp (Found.fits_of_mem_among hentry)).1
      exact mem_names_of_mem_drawn hsize hstart (Found.mem_of_mem_among hentry)
    · intro hmany
      have hfew := Finset.card_le_card (lowerForms_drawn_subset hsize words letter limit)
      exact ⟨_, hfew, congrArg Prod.fst
        (search_eq_error_iff.mpr ⟨hfew.trans_lt hmany, rfl, rfl⟩)⟩

/-- A pool of three names, two of which have one lower-case form. The first word gives the name at
index zero, but for the carry that the second word brings. -/
theorem search_within_pool_of_three :
    let pool : NamePool := ⟨#["Ada", "MAX", "Max"]⟩
    let words : WordTape := { words := [1431655765, 0xffffffff] }
    pool.names.size < wordCount ∧ 0 < pool.names.size ∧ pool.wordsTaken words = 2 ∧
      NameSource.draw pool words = ("MAX", pool, wordsAfter words 2) ∧
      (lowerForms 'm' pool.names.toList).card < 2 ∧ ∃ found ≤ 1,
        (search drawFrom 'm' 500 2 (pool, words)).1 = .error (.namesExhausted 'm' 2 found 500) := by
  intro pool words
  have hsize : pool.names.size < wordCount := by decide
  have hne : 0 < pool.names.size := by decide
  have hindex : pool.index words = 1 := by decide +kernel
  have htaken : pool.wordsTaken words = 2 := by decide +kernel
  have hcard : (lowerForms 'm' pool.names.toList).card = 1 := by decide +kernel
  obtain ⟨-, hdraw, hsearch⟩ := search_within_pool hsize words
  refine ⟨hsize, hne, htaken, ?_, by rw [hcard]; decide, ?_⟩
  · obtain ⟨-, _, hname⟩ := hdraw hne
    simp only [hindex, htaken] at hname
    exact hname
  · have hexhausted := (hsearch 'm' 500 2).2 (by rw [hcard]; decide)
    rwa [hcard] at hexhausted

end MooseHerd.Names
