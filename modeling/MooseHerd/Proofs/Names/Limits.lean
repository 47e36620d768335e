import Mathlib
import MooseHerd.Proofs.Names.Search

/-! # Searches for more names, and with more draws

Two searches over the same candidates are compared. A search that finds enough does not notice a
larger limit. One for more names goes through the candidates of one for fewer, then on from there,
and keeps what was found until then in the letters in which it was drawn. If the draws are used up
before there are enough names, they are for every larger number. -/

namespace MooseHerd.Names

variable {σ : Type} {draw : σ → String × σ} {letter : Char} {start after : σ}

/-! ## More candidates -/

theorem isPrefix_drawn (draw : σ → String × σ) (start : σ) {m n : Nat} (h : m ≤ n) :
    drawn draw start m <+: drawn draw start n := by
  induction n with
  | zero =>
    obtain rfl := Nat.le_zero.mp h
    exact List.prefix_refl _
  | succ n ih =>
    rcases Nat.eq_or_lt_of_le h with rfl | hlt
    · exact List.prefix_refl _
    · exact (ih (Nat.le_of_lt_succ hlt)).trans (List.prefix_append _ _)

/-- What is kept under a form stays there, however many candidates follow. -/
theorem Found.among_subset_of_prefix {fewer more : List String} (h : fewer <+: more) :
    Found.among letter fewer ⊆ Found.among letter more := by
  rintro ⟨key, name⟩ hmem
  rw [← Keys.lookup_eq_some_iff_mem (Found.ascending_among letter fewer),
    Found.lookup_among] at hmem
  rw [← Keys.lookup_eq_some_iff_mem (Found.ascending_among letter more), Found.lookup_among]
  exact h.find?_eq_some hmem

/-! ## How a search ends -/

/-- The number of draws of a search that finds `count` names. -/
abbrev IsEnough (draw : σ → String × σ) (letter : Char) (start : σ) (count draws : Nat) : Prop :=
  IsLeast {n | countAfter draw letter start n = count} draws

theorem IsEnough.unique {count j k : Nat} (hj : IsEnough draw letter start count j)
    (hk : IsEnough draw letter start count k) : j = k :=
  Nat.le_antisymm (hj.2 hk.1) (hk.2 hj.1)

/-- More names take at least as many draws. -/
theorem IsEnough.le {few many j k : Nat} (h : few ≤ many) (hj : IsEnough draw letter start few j)
    (hk : IsEnough draw letter start many k) : j ≤ k := by
  by_contra hlt
  have hmono := countAfter_mono draw letter start (Nat.le_of_not_le hlt)
  have hfew : countAfter draw letter start j = few := hj.1
  have hmany : countAfter draw letter start k = many := hk.1
  -- as many names after `k` draws as after `j` of them, against the choice of `j`
  exact hlt (hj.2 (show countAfter draw letter start k = few by omega))

theorem search_eq_ok_iff {limit count : Nat} {list : NameList} :
    search draw letter limit count start = (.ok list, after) ↔
      list.attempts ≤ limit ∧ IsEnough draw letter start count list.attempts ∧
        list.names = (Found.among letter (drawn draw start list.attempts)).map (·.2) ∧
        after = stateAfter draw start list.attempts := by
  obtain ⟨names, attempts⟩ := list
  rcases search_eq draw letter limit count start with ⟨k, hk, hleast, hsearch⟩ | ⟨hfew, hsearch⟩
  · rw [hsearch]
    constructor
    · intro h
      cases h
      exact ⟨hk, hleast, rfl, rfl⟩
    · rintro ⟨-, henough, hnames, hafter⟩
      obtain rfl := hleast.unique henough
      rw [hafter, ← hnames]
  · rw [hsearch]
    constructor
    · intro h
      cases h
    · rintro ⟨hattempts, henough, -, -⟩
      have hmono := countAfter_mono draw letter start hattempts
      rw [show countAfter draw letter start attempts = count from henough.1] at hmono
      exact absurd hmono (Nat.not_le_of_lt hfew)

theorem search_eq_error_iff {limit count : Nat} {e : Error} :
    search draw letter limit count start = (.error e, after) ↔
      countAfter draw letter start limit < count ∧
        e = .namesExhausted letter count (countAfter draw letter start limit) limit ∧
        after = stateAfter draw start limit := by
  rcases search_eq draw letter limit count start with ⟨k, hk, hleast, hsearch⟩ | ⟨hfew, hsearch⟩
  · rw [hsearch]
    constructor
    · intro h
      cases h
    · rintro ⟨hfew, -, -⟩
      have hmono := countAfter_mono draw letter start hk
      rw [show countAfter draw letter start k = count from hleast.1] at hmono
      exact absurd hmono (Nat.not_le_of_lt hfew)
  · rw [hsearch]
    constructor
    · intro h
      cases h
      exact ⟨hfew, rfl, rfl⟩
    · rintro ⟨-, rfl, rfl⟩
      rfl

/-! ## Two searches -/

theorem search_of_larger_limit {limit limit' count : Nat} {list : NameList} (hle : limit ≤ limit')
    (h : search draw letter limit count start = (.ok list, after)) :
    search draw letter limit' count start = (.ok list, after) := by
  obtain ⟨hlimit, hrest⟩ := search_eq_ok_iff.mp h
  exact search_eq_ok_iff.mpr ⟨hlimit.trans hle, hrest⟩

theorem names_subset_of_larger_count {limit count count' : Nat} {few many : NameList}
    {after' : σ} (hle : count ≤ count')
    (hfew : search draw letter limit count start = (.ok few, after))
    (hmany : search draw letter limit count' start = (.ok many, after')) :
    few.names ⊆ many.names ∧ few.attempts ≤ many.attempts := by
  obtain ⟨-, henough, hnames, -⟩ := search_eq_ok_iff.mp hfew
  obtain ⟨-, henough', hnames', -⟩ := search_eq_ok_iff.mp hmany
  have hattempts := henough.le hle henough'
  refine ⟨?_, hattempts⟩
  rw [hnames, hnames']
  exact List.map_subset _ (Found.among_subset_of_prefix (isPrefix_drawn draw start hattempts))

/-- **Searches over the same candidates.** Enough names within a limit are the same names after the
same draws within every larger one; a search for more names has the names of one for fewer among
its own, and needs no fewer draws; and if a search uses up its draws, one for more names does so
too and finds as many. -/
theorem search_monotone (draw : σ → String × σ) (letter : Char) (start : σ)
    {limit limit' count count' : Nat} (hlimit : limit ≤ limit') (hcount : count ≤ count') :
    (∀ list after, search draw letter limit count start = (.ok list, after) →
      after = stateAfter draw start list.attempts ∧
      search draw letter limit' count start = (.ok list, after)) ∧
    (∀ few many, (search draw letter limit count start).1 = .ok few →
      (search draw letter limit count' start).1 = .ok many →
      few.names ⊆ many.names ∧ few.attempts ≤ many.attempts) ∧
    (∀ e after, search draw letter limit count start = (.error e, after) →
      ∃ found, e = .namesExhausted letter count found limit ∧
        after = stateAfter draw start limit ∧
        search draw letter limit count' start =
          (.error (.namesExhausted letter count' found limit), after)) := by
  refine ⟨?_, ?_, ?_⟩
  · intro list after h
    exact ⟨(search_eq_ok_iff.mp h).2.2.2, search_of_larger_limit hlimit h⟩
  · intro few many hfew hmany
    exact names_subset_of_larger_count hcount (Prod.ext hfew rfl) (Prod.ext hmany rfl)
  · intro e after h
    obtain ⟨hmissing, rfl, rfl⟩ := search_eq_error_iff.mp h
    exact ⟨_, rfl, rfl, search_eq_error_iff.mpr ⟨hmissing.trans_le hcount, rfl, rfl⟩⟩

/-- Two names and three of a script in which one is drawn twice, in letters of two kinds; and four
names, for which the draws are too few. -/
theorem search_monotone_of_script :
    let start : NameScript × Random.WordTape :=
      (⟨["MIA", "Ada", "Max", "mia", "Mo"]⟩, { words := [] })
    (∃ few many, (search drawFrom 'm' 6 2 start).1 = .ok few ∧
      (search drawFrom 'm' 6 3 start).1 = .ok many ∧ (search drawFrom 'm' 9 2 start).1 = .ok few ∧
      few.attempts = 3 ∧ many.attempts = 5 ∧ "MIA" ∈ few.names ∧ few.names ⊆ many.names) ∧
    ((search drawFrom 'm' 6 4 start).1 = .error (.namesExhausted 'm' 4 3 6) ∧
      (search drawFrom 'm' 6 7 start).1 = .error (.namesExhausted 'm' 7 3 6)) := by
  intro start
  constructor
  · have hfew : (search drawFrom 'm' 6 2 start).1 = .ok ⟨["Max", "MIA"], 3⟩ := by cbv
    have hmany : (search drawFrom 'm' 6 3 start).1 = .ok ⟨["Max", "MIA", "Mo"], 5⟩ := by cbv
    obtain ⟨hlimit, hcount, -⟩ := search_monotone drawFrom 'm' start
      (show 6 ≤ 9 by decide) (show 2 ≤ 3 by decide)
    exact ⟨_, _, hfew, hmany, congrArg Prod.fst (hlimit _ _ (Prod.ext hfew rfl)).2, rfl, rfl,
      by decide, (hcount _ _ hfew hmany).1⟩
  · have hexhausted : (search drawFrom 'm' 6 4 start).1 = .error (.namesExhausted 'm' 4 3 6) := by
      cbv
    obtain ⟨found, he, -, hmore⟩ := (search_monotone drawFrom 'm' start (Nat.le_refl 6)
      (show 4 ≤ 7 by decide)).2.2 _ _ (Prod.ext hexhausted rfl)
    cases he
    exact ⟨hexhausted, congrArg Prod.fst hmore⟩

end MooseHerd.Names
