import Mathlib.Order.Bounds.Basic
import MooseHerd.Proofs.Names.Found
import MooseHerd.Proofs.Text.ByteOrder

/-! # What a search finds

A search is told by the candidates that it draws: after `n` draws it holds what is found among the
first `n` candidates. It stops at the first draw that makes the names enough, and otherwise when
the draws are used up. Nothing is assumed about where the candidates come from. -/

namespace MooseHerd.Names

variable {σ : Type} (draw : σ → String × σ)

/-! ## Candidates -/

/-- The state that `n` draws leave. -/
def stateAfter (start : σ) : Nat → σ
  | 0 => start
  | n + 1 => (draw (stateAfter start n)).2

/-- The first `n` candidates. -/
def drawn (start : σ) : Nat → List String
  | 0 => []
  | n + 1 => drawn start n ++ [(draw (stateAfter draw start n)).1]

theorem drawn_subset (start : σ) {m n : Nat} (h : m ≤ n) :
    drawn draw start m ⊆ drawn draw start n := by
  induction n with
  | zero =>
    obtain rfl := Nat.le_zero.mp h
    exact List.Subset.refl _
  | succ n ih =>
    rcases Nat.eq_or_lt_of_le h with rfl | hlt
    · exact List.Subset.refl _
    · exact List.Subset.trans (ih (Nat.le_of_lt_succ hlt)) (List.subset_append_left _ _)

variable (letter : Char)

/-- How many names the first `n` candidates hold. -/
def countAfter (start : σ) (n : Nat) : Nat := (lowerForms letter (drawn draw start n)).card

theorem countAfter_mono (start : σ) : Monotone (countAfter draw letter start) := fun _ _ h =>
  Finset.card_le_card (lowerForms_mono (drawn_subset draw start h))

theorem countAfter_succ_le (start : σ) (n : Nat) :
    countAfter draw letter start (n + 1) ≤ countAfter draw letter start n + 1 :=
  card_lowerForms_append_singleton_le letter _ _

/-! ## The loop -/

/-- A search after `n` draws. -/
def Search.after (start : σ) (n : Nat) : Search σ where
  found := Found.among letter (drawn draw start n)
  attempts := n
  state := stateAfter draw start n

theorem Search.step_after (start : σ) (n : Nat) :
    (Search.after draw letter start n).step draw letter =
      Search.after draw letter start (n + 1) := by
  simp only [Search.step, Search.after, drawn, stateAfter, Found.among_append_singleton]

@[simp]
theorem Search.length_found_after (start : σ) (n : Nat) :
    (Search.after draw letter start n).found.length = countAfter draw letter start n :=
  Found.length_among letter _

/-- A run goes on from draw to draw as long as names are missing and the budget lasts. -/
theorem Search.run_after (start : σ) (count : Nat) : ∀ budget n : Nat,
    ∃ k, n ≤ k ∧ k ≤ n + budget ∧
      Search.run draw letter count budget (Search.after draw letter start n) =
        Search.after draw letter start k ∧
      (∀ j, n ≤ j → j < k → countAfter draw letter start j < count) ∧
      (k < n + budget → count ≤ countAfter draw letter start k)
  | 0, n => ⟨n, Nat.le_refl n, Nat.le_refl n, rfl, fun j hj hk => by omega, fun h => by omega⟩
  | budget + 1, n => by
    by_cases hn : countAfter draw letter start n < count
    · obtain ⟨k, hnk, hk, hrun, hmissing, hstop⟩ := Search.run_after start count budget (n + 1)
      refine ⟨k, by omega, by omega, ?_, ?_, fun h => hstop (by omega)⟩
      · rw [Search.run, Search.length_found_after, if_pos hn, Search.step_after, hrun]
      · intro j hj hjk
        rcases Nat.eq_or_lt_of_le hj with rfl | hlt
        · exact hn
        · exact hmissing j hlt hjk
    · refine ⟨n, Nat.le_refl n, by omega, ?_, fun j hj hk => by omega, fun _ => by omega⟩
      rw [Search.run, Search.length_found_after, if_neg hn]

/-- **Where a search stops**: at the least number of draws that gives the names, or at the limit if
there are too few until then. -/
theorem Search.run_start (start : σ) (limit count : Nat) :
    (∃ k, k ≤ limit ∧ IsLeast {n | countAfter draw letter start n = count} k ∧
      Search.run draw letter count limit { state := start } = Search.after draw letter start k) ∨
    (countAfter draw letter start limit < count ∧
      Search.run draw letter count limit { state := start } =
        Search.after draw letter start limit) := by
  obtain ⟨k, -, hk, hrun, hmissing, hstop⟩ := Search.run_after draw letter start count limit 0
  rw [Nat.zero_add] at hk hstop
  have hrun : Search.run draw letter count limit { state := start } =
      Search.after draw letter start k := hrun
  by_cases hfew : countAfter draw letter start k < count
  · obtain rfl : k = limit := by
      by_contra hne
      have := hstop (by omega)
      omega
    exact .inr ⟨hfew, hrun⟩
  · refine .inl ⟨k, hk, ⟨?_, ?_⟩, hrun⟩
    · -- one draw earlier there were too few names, and a draw adds at most one
      show countAfter draw letter start k = count
      cases k with
      | zero =>
        have hzero : countAfter draw letter start 0 = 0 := rfl
        omega
      | succ j =>
        have hj := hmissing j (Nat.zero_le j) (Nat.lt_succ_self j)
        have := countAfter_succ_le draw letter start j
        omega
    · intro j hj
      by_contra hlt
      have := hmissing j (Nat.zero_le j) (by omega)
      rw [show countAfter draw letter start j = count from hj] at this
      omega

/-- A search hands over what is found when it stops. -/
theorem search_eq (limit count : Nat) (start : σ) :
    (∃ k, k ≤ limit ∧ IsLeast {n | countAfter draw letter start n = count} k ∧
      search draw letter limit count start =
        (.ok { names := (Found.among letter (drawn draw start k)).map (·.2), attempts := k },
          stateAfter draw start k)) ∨
    (countAfter draw letter start limit < count ∧
      search draw letter limit count start =
        (.error (.namesExhausted letter count (countAfter draw letter start limit) limit),
          stateAfter draw start limit)) := by
  rcases Search.run_start draw letter start limit count with ⟨k, hk, hleast, hrun⟩ | ⟨hfew, hrun⟩
  · have hcount : countAfter draw letter start k = count := hleast.1
    refine .inl ⟨k, hk, hleast, ?_⟩
    rw [search, hrun, Search.length_found_after, hcount, if_neg (Nat.lt_irrefl count)]
    rfl
  · refine .inr ⟨hfew, ?_⟩
    rw [search, hrun, Search.length_found_after, if_pos hfew]
    rfl

variable {draw letter} in
/-- Only the number of names that the candidates hold decides whether there are enough. -/
theorem exists_names_iff {limit count : Nat} {start : σ} :
    (∃ list, (search draw letter limit count start).1 = .ok list) ↔
      count ≤ countAfter draw letter start limit := by
  rcases search_eq draw letter limit count start with ⟨k, hk, hleast, hsearch⟩ | ⟨hfew, hsearch⟩
  · have hcount : countAfter draw letter start k = count := hleast.1
    rw [hsearch]
    exact iff_of_true ⟨_, rfl⟩ (hcount ▸ countAfter_mono draw letter start hk)
  · rw [hsearch]
    exact iff_of_false nofun (Nat.not_le_of_lt hfew)

/-- **What a search hands over.** If the candidates within the limit hold enough names, the search
draws as few of them as do and chooses the names from these; otherwise it draws them all and tells
how many names they hold. -/
theorem search_draws_least (limit count : Nat) (start : σ) :
    (count ≤ (lowerForms letter (drawn draw start limit)).card ∧ ∃ k names, k ≤ limit ∧
      IsLeast {n | (lowerForms letter (drawn draw start n)).card = count} k ∧
      search draw letter limit count start =
        (.ok { names, attempts := k }, stateAfter draw start k) ∧
      names.length = count ∧ Selection letter (drawn draw start k) names) ∨
    ((lowerForms letter (drawn draw start limit)).card < count ∧
      search draw letter limit count start =
        (.error (.namesExhausted letter count (lowerForms letter (drawn draw start limit)).card
          limit), stateAfter draw start limit)) := by
  rcases search_eq draw letter limit count start with ⟨k, hk, hleast, hsearch⟩ | hfew
  · have hcount : countAfter draw letter start k = count := hleast.1
    refine .inl ⟨hcount ▸ countAfter_mono draw letter start hk, k, _, hk, hleast, hsearch, ?_,
      Found.selection_among letter _⟩
    rw [List.length_map, Found.length_among]
    exact hcount
  · exact .inr hfew

/-- With the letter i a candidate that begins with the dotted capital is passed over, although it
is the first one with its lower-case form. -/
theorem search_passes_over_dotted_capital :
    let start : NameScript × Random.WordTape := (⟨["İx", "i\u0307x"]⟩, { words := [] })
    ∃ list, (search drawFrom 'i' 2 1 start).1 = .ok list ∧
      ¬ ∀ name ∈ list.names, (drawn drawFrom start list.attempts).find?
        (Text.lowercase · == Text.lowercase name) = some name := by
  refine ⟨{ names := ["i\u0307x"], attempts := 2 }, rfl, fun h => ?_⟩
  have hfirst := h "i\u0307x" (List.mem_singleton_self _)
  revert hfirst
  decide +kernel

end MooseHerd.Names
