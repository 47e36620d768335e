import MooseHerd.Proofs.Herd.Batch
import MooseHerd.Settings.Basic

/-! # The letter of a stored name

A name is selected by the lower case of its first character, and it is stored in lower case as a
whole. For every letter with a lower-case form of one character the stored name would be selected
again. The dotted capital I has one of two, and the first of them alone is another letter: no name
that is selected by it would be selected again. -/

namespace MooseHerd.Names

theorem startsWithLetter_of_toList {name : String} {first : Char} {rest : List Char}
    (hname : name.toList = first :: rest) (letter : Char) :
    startsWithLetter letter name = (Text.lowerChar first == Text.lowerChar letter) := by
  rw [startsWithLetter, hname]

/-- **A selected name in lower case is selected again**, unless the letter is the dotted capital
I. -/
theorem startsWithLetter_lowercase_iff {letter : Char} {name : String}
    (h : startsWithLetter letter name = true) :
    startsWithLetter letter (Text.lowercase name) = true ↔ letter ≠ 'İ' := by
  obtain ⟨rest, hrest⟩ := lowerChar_prefix_of_startsWithLetter h
  by_cases hletter : letter = 'İ'
  · subst hletter
    have hdotted : Text.lowerChar 'İ' = ['i', '\u0307'] := rfl
    have hplain : Text.lowerChar 'i' = ['i'] := by decide +kernel
    rw [hdotted] at hrest
    rw [startsWithLetter_of_toList hrest.symm, hplain, hdotted]
    decide
  · -- the lower case of the letter is one character, and settled
    have hone := Text.lowerChar_of_ne hletter
    have hsettled := (Text.isSettled_lowerSimple hletter).lowerChar_eq
    rw [hone] at hrest
    rw [startsWithLetter_of_toList hrest.symm, hsettled, hone]
    exact iff_of_true (beq_self_eq_true _) hletter

end MooseHerd.Names

namespace MooseHerd.Herd

open MooseHerd.Random Names

section

variable {ν ρ : Type} [WordSource ρ] [NameSource ν ρ] {plan : HerdPlan} {count : Nat}
  {state : ν × ρ} {herd : Herd} {m : Manifest}

/-- The name of a moose is the lower case of one that was selected. -/
theorem exists_selected_of_mem_manifests (hherd : (make plan count state).1 = .ok herd)
    (hm : m ∈ herd.manifests plan) :
    ∃ name, startsWithLetter plan.letter name = true ∧ m.name = Text.lowercase name := by
  have hcount : 1 ≤ count := by
    rw [Nat.one_le_iff_ne_zero]
    rintro rfl
    cases hherd
  rcases make_cases plan hcount state with ⟨made, after, hmake, -, hbatch⟩ | ⟨-, hmake⟩
  · rw [hmake] at hherd
    cases hherd
    obtain ⟨name, -, hstart, hname⟩ := hbatch.drawn m hm
    exact ⟨name, hstart, hname⟩
  · rw [hmake] at hherd
    cases hherd

end

/-- **Storing a name keeps its letter**: a name that the letter selects is selected by it again as
it is stored, and so are all names of a batch, for every letter but the dotted capital I. By that
one no stored name is selected. -/
theorem letter_kept_by_storing (plan : HerdPlan) :
    (∀ (name : String) (traits : Traits), startsWithLetter plan.letter name = true →
      (startsWithLetter plan.letter
          (Manifest.ofMoose plan.apiVersion plan.kind name plan.park traits).name = true ↔
        plan.letter ≠ 'İ')) ∧
    (∀ {ν ρ : Type} [WordSource ρ] [NameSource ν ρ] (count : Nat) (state : ν × ρ) (herd : Herd),
      (make plan count state).1 = .ok herd → ∀ m ∈ herd.manifests plan,
        (startsWithLetter plan.letter m.name = true ↔ plan.letter ≠ 'İ')) := by
  constructor
  · intro name traits hstart
    exact startsWithLetter_lowercase_iff hstart
  · intro ν ρ _ _ count state herd hherd m hm
    obtain ⟨name, hstart, hname⟩ := exists_selected_of_mem_manifests hherd hm
    rw [hname]
    exact startsWithLetter_lowercase_iff hstart

/-- A sharp s, which has a capital form of its own outside of the usual ones. -/
theorem letter_kept_by_storing_of_sharp_s :
    let plan : HerdPlan := { letter := 'ß' }
    let state : NameScript × WordTape := (⟨["Max", "ẞal"]⟩, { words := [] })
    startsWithLetter 'ß' "ẞal" = true ∧
      (make plan 1 state).1.toOption.map (·.names.names) = some ["ẞal"] ∧
      startsWithLetter 'ß'
        (Manifest.ofMoose "animals.com/v1" "Moose" "ẞal" "glacier" ⟨1, 1, true⟩).name = true ∧
      ∀ herd, (make plan 1 state).1 = .ok herd → ∀ m ∈ herd.manifests plan,
        startsWithLetter 'ß' m.name = true := by
  intro plan state
  have hstart : startsWithLetter 'ß' "ẞal" = true := by decide +kernel
  obtain ⟨hname, hbatch⟩ := letter_kept_by_storing plan
  refine ⟨hstart, by decide +kernel, ?_, fun herd hherd m hm => ?_⟩
  · exact (hname "ẞal" ⟨1, 1, true⟩ hstart).mpr (by decide)
  · exact (hbatch 1 state herd hherd m hm).mpr (by decide)

/-- The dotted capital I is a letter that a batch may have, and its names lose it. -/
theorem dotted_capital_lost_by_storing :
    let generator : GeneratorSettings := { letter := "İ" }
    generator.designatedLetter = .ok 'İ' ∧ startsWithLetter 'İ' "İx" = true ∧
      startsWithLetter 'İ' (Manifest.ofMoose "animals.com/v1" "Moose" "İx" "glacier"
        ⟨1.5, 450.5, true⟩).name = false := by
  refine ⟨by rfl, ?_, ?_⟩ <;> decide +kernel

end MooseHerd.Herd
