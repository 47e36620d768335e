import MooseHerd.Manifest
import MooseHerd.Proofs.Names.Search

/-! # When two names are one

A search tells its candidates apart by their lower-case forms, and a manifest puts its name in lower
case once more. What is in lower case stays as it is, with sigmas of either form, so a manifest is
made again from its own name. Two names are one for a search if and only if they are stored as
one. -/

namespace MooseHerd.Names

variable {letter : Char} {a b : String}

/-- Two names are one for a search: wherever it has drawn the first one, it does not get further by
drawing the second one. -/
def TakenForOne (letter : Char) (a b : String) : Prop :=
  ∀ {σ : Type} (draw : σ → String × σ) (start : σ) (n count : Nat), a ∈ drawn draw start n →
    (draw (stateAfter draw start n)).1 = b →
    ((∃ list, (search draw letter (n + 1) count start).1 = .ok list) ↔
      ∃ list, (search draw letter n count start).1 = .ok list)

theorem takenForOne_iff (ha : startsWithLetter letter a = true)
    (hb : startsWithLetter letter b = true) :
    TakenForOne letter a b ↔ Text.lowercase a = Text.lowercase b := by
  constructor
  · intro hone
    -- the two names alone, one after the other
    let draw : List String → String × List String := fun names => (names.headD "", names.tail)
    have hcount := hone draw [a, b] 1 2 (List.mem_singleton_self a) rfl
    rw [exists_names_iff, exists_names_iff] at hcount
    have hfirst : countAfter draw letter [a, b] 1 ≤ 1 := countAfter_succ_le draw letter [a, b] 0
    have hsecond : (lowerForms letter [a, b]).card ≤ 1 := by
      by_contra hmore
      have hmore : 2 ≤ countAfter draw letter [a, b] 2 := Nat.lt_of_not_le hmore
      exact absurd (hcount.mp hmore) (Nat.not_le_of_lt (Nat.lt_succ_of_le hfirst))
    exact Finset.card_le_one.mp hsecond _ (by simp [lowerForms, ha, hb]) _
      (by simp [lowerForms, ha, hb])
  · intro hform σ draw start n count hdrawn hnext
    have hknown : Text.lowercase b ∈ lowerForms letter (drawn draw start n) := by
      rw [← hform]
      exact mem_lowerForms.mpr ⟨a, hdrawn, by simp [fits, ha]⟩
    have hforms : lowerForms letter (drawn draw start (n + 1)) =
        lowerForms letter (drawn draw start n) := by
      rw [drawn, hnext, lowerForms_append_singleton, if_pos hb, Finset.insert_eq_of_mem hknown]
    rw [exists_names_iff, exists_names_iff, countAfter, hforms, countAfter]

end MooseHerd.Names

namespace MooseHerd.Manifest

open Names

/-- The manifest is made for a moose of the name. -/
def IsFor (m : Manifest) (name : String) : Prop :=
  ∃ apiVersion kind park traits, m = ofMoose apiVersion kind name park traits

theorem IsFor.name_eq {m : Manifest} {name : String} (h : m.IsFor name) :
    m.name = Text.lowercase name := by
  obtain ⟨_, _, _, _, rfl⟩ := h
  rfl

/-- **Names are told apart as they are stored.** Lower case is a projection, so a manifest is made
again from its own name. Two names with the letter are one for a search if and only if manifests for
them have one name: whatever was drawn before, the second one adds nothing after the first one
unless it would have done so without it. -/
theorem names_one_as_stored :
    (∀ s, Text.lowercase (Text.lowercase s) = Text.lowercase s) ∧
    (∀ apiVersion kind name park traits,
      let m := ofMoose apiVersion kind name park traits
      ofMoose apiVersion kind m.name park traits = m) ∧
    ∀ letter a b, startsWithLetter letter a = true → startsWithLetter letter b = true →
      ∀ first second : Manifest, first.IsFor a → second.IsFor b →
        (TakenForOne letter a b ↔ first.name = second.name) ∧
        ∀ earlier,
          (Found.among letter (earlier ++ [a] ++ [b]) = Found.among letter (earlier ++ [a]) ↔
            first.name = second.name ∨
              Found.among letter (earlier ++ [b]) = Found.among letter earlier) := by
  refine ⟨Text.lowercase_lowercase, ?_, ?_⟩
  · intro apiVersion kind name park traits m
    show ofMoose apiVersion kind (Text.lowercase name) park traits = m
    rw [ofMoose, Text.lowercase_lowercase]
    rfl
  · intro letter a b ha hb first second hfirst hsecond
    rw [hfirst.name_eq, hsecond.name_eq]
    refine ⟨takenForOne_iff ha hb, fun earlier => ?_⟩
    rw [Found.among_append_eq_self_iff hb, Found.among_append_eq_self_iff hb,
      lowerForms_append_singleton, if_pos ha, Finset.mem_insert, eq_comm]

/-- Three names with capital and small sigmas. A capital sigma at the end of a word becomes a final
one, so the first name is stored as the second one, but not as the third one. -/
theorem names_one_as_stored_of_sigmas :
    let manifest (name : String) : Manifest := ofMoose "v1" "Moose" name "glacier" ⟨1, 1, true⟩
    startsWithLetter 'Σ' "ΣΑΣ" = true ∧ startsWithLetter 'Σ' "σας" = true ∧
      startsWithLetter 'Σ' "σασ" = true ∧ (manifest "ΣΑΣ").IsFor "ΣΑΣ" ∧
      (manifest "ΣΑΣ").name = "σας" ∧ TakenForOne 'Σ' "ΣΑΣ" "σας" ∧
      ¬ TakenForOne 'Σ' "ΣΑΣ" "σασ" := by
  intro manifest
  have hcapital : startsWithLetter 'Σ' "ΣΑΣ" = true := by decide +kernel
  have hfinal : startsWithLetter 'Σ' "σας" = true := by decide +kernel
  have hplain : startsWithLetter 'Σ' "σασ" = true := by decide +kernel
  have hfor (name : String) : (manifest name).IsFor name := ⟨_, _, _, _, rfl⟩
  obtain ⟨-, -, hone⟩ := names_one_as_stored
  refine ⟨hcapital, hfinal, hplain, hfor _, by decide +kernel, ?_, ?_⟩
  · exact (hone 'Σ' _ _ hcapital hfinal _ _ (hfor _) (hfor _)).1.mpr (by decide +kernel)
  · rw [(hone 'Σ' _ _ hcapital hplain _ _ (hfor _) (hfor _)).1]
    decide +kernel

end MooseHerd.Manifest
