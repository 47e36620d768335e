import Mathlib
import MooseHerd.Proofs.Herd.Batch

/-! # Where the traits of a batch come from

The traits of a batch are chosen one after the other from the random words that the search for its
names leaves. A choice takes the same words whatever it comes to, and no name plays a part in it:
if the names take no random words, batches from one seed have the same traits, moose by moose. -/

namespace MooseHerd

open MooseHerd.Random Names

/-- A source of names that leaves the random words as they are. -/
def Names.TakesNoWords (ν ρ : Type) [NameSource ν ρ] : Prop :=
  ∀ (source : ν) (words : ρ), (NameSource.draw source words).2.2 = words

theorem Names.takesNoWords_nameScript (ρ : Type) : TakesNoWords NameScript ρ := fun _ _ => rfl

namespace Traits

variable {ρ : Type} [WordSource ρ]

/-- With and without antlers a weight takes the same random words. -/
theorem words_after_weight (antlers : Bool) (words : ρ) :
    ((weights antlers).sample words).2 = (standardNormal words).2 := rfl

/-- The random words after the choice of traits for `n` moose. -/
def wordsAfter (words : ρ) (n : Nat) : ρ := (fun words => (sample words).2)^[n] words

/-- The traits of the moose with number `n`, counted from zero. -/
def chosen (words : ρ) (n : Nat) : Traits := (sample (wordsAfter words n)).1

theorem chosen_succ (words : ρ) (n : Nat) :
    chosen words (n + 1) = chosen (sample words).2 n := rfl

theorem samples_succ (words : ρ) (count : Nat) :
    samples (count + 1) words = ((sample words).1 :: (samples count (sample words).2).1,
      (samples count (sample words).2).2) := by
  rw [samples]

theorem samples_eq (words : ρ) (count : Nat) :
    samples count words = ((List.range count).map (chosen words), wordsAfter words count) := by
  induction count generalizing words with
  | zero => rfl
  | succ count ih =>
    have htail : (List.range count).map (chosen (sample words).2) =
        (List.range count).map (chosen words ∘ Nat.succ) :=
      List.map_congr_left fun n _ => (chosen_succ words n).symm
    rw [samples_succ, ih, htail, List.range_succ_eq_map, List.map_cons, List.map_map]
    rfl

theorem isPrefix_map_chosen (words : ρ) {fewer more : Nat} (h : fewer ≤ more) :
    (List.range fewer).map (chosen words) <+: (List.range more).map (chosen words) := by
  apply List.IsPrefix.map
  obtain ⟨rest, rfl⟩ := Nat.exists_eq_add_of_le h
  rw [List.range_add]
  exact List.prefix_append _ _

end Traits

namespace Herd

theorem map_traits_manifests {plan : HerdPlan} {herd : Herd}
    (h : herd.traits.length = herd.names.names.length) :
    (herd.manifests plan).map (·.traits) = herd.traits := by
  calc (herd.manifests plan).map (·.traits)
      = herd.members.map Prod.snd := by
        rw [manifests, List.map_map]
        rfl
    _ = herd.traits := List.map_snd_zip (Nat.le_of_eq h)

variable {ν ρ : Type} [WordSource ρ] [NameSource ν ρ]

/-- **A batch in two phases**: a search for the names, and a choice of traits for each of them from
the words that the search leaves. -/
theorem make_eq_ok {plan : HerdPlan} {count : Nat} {state after : ν × ρ} {herd : Herd}
    (h : make plan count state = (.ok herd, after)) :
    ∃ source words, search drawFrom plan.letter plan.maxAttempts count state =
        (.ok herd.names, source, words) ∧
      (herd.manifests plan).Pairwise
        (fun a b => Text.Utf8.encode a.name < Text.Utf8.encode b.name) ∧
      (herd.manifests plan).map (·.traits) = (List.range count).map (Traits.chosen words) ∧
      after = (source, Traits.wordsAfter words count) := by
  have hc : count ≠ 0 := by
    rintro rfl
    cases h
  rcases search_eq drawFrom plan.letter plan.maxAttempts count state with
    ⟨k, -, hleast, hsearch⟩ | ⟨-, hsearch⟩
  · have hlength : ((Found.among plan.letter (Names.drawn drawFrom state k)).map (·.2)).length =
        count := by
      rw [List.length_map, Found.length_among]
      exact hleast.1
    have htraits := length_samples count (stateAfter drawFrom state k).2
    rw [make_of_search hc hsearch, hlength] at h
    cases h
    refine ⟨(stateAfter drawFrom state k).1, (stateAfter drawFrom state k).2, hsearch, ?_, ?_, ?_⟩
    · exact (isBatch_manifests rfl hlength (htraits.trans hlength.symm)).ascending
    · rw [map_traits_manifests (htraits.trans hlength.symm), Traits.samples_eq]
    · rw [Traits.samples_eq]
  · rw [make, if_neg hc, hsearch] at h
    cases h

/-! ## Names that take no random words -/

section

variable {ν ρ : Type} [NameSource ν ρ]

theorem words_stateAfter (h : TakesNoWords ν ρ) (start : ν × ρ) :
    ∀ n, (stateAfter drawFrom start n).2 = start.2
  | 0 => rfl
  | n + 1 => (h _ _).trans (words_stateAfter h start n)

theorem words_of_search (h : TakesNoWords ν ρ) {letter : Char} {limit count : Nat}
    {start after : ν × ρ} {result : Except Error NameList}
    (hsearch : search drawFrom letter limit count start = (result, after)) :
    after.2 = start.2 := by
  rcases search_eq drawFrom letter limit count start with ⟨k, -, -, heq⟩ | ⟨-, heq⟩
  · rw [heq] at hsearch
    cases hsearch
    exact words_stateAfter h start k
  · rw [heq] at hsearch
    cases hsearch
    exact words_stateAfter h start limit

end

theorem map_traits_of_takesNoWords (h : TakesNoWords ν ρ) {plan : HerdPlan} {count : Nat}
    {source : ν} {words : ρ} {herd : Herd}
    (hmake : (make plan count (source, words)).1 = .ok herd) :
    (herd.manifests plan).map (·.traits) = (List.range count).map (Traits.chosen words) := by
  obtain ⟨_, words', hsearch, -, htraits, -⟩ := make_eq_ok (Prod.ext hmake rfl)
  obtain rfl : words' = words := words_of_search h hsearch
  exact htraits

/-- **Traits do not depend on names.** If the names take no random words, the traits of a batch are
those with which a larger batch from the same seed begins, whatever the names, their letter, the
limit and the other data of the two plans are. From any source of names, the moose in the order of
their names have the traits that come one after the other from the words that the search leaves,
and a weight takes the same words with and without antlers. -/
theorem traits_independent_of_names {ν ν' : Type} [NameSource ν ChaChaStream]
    [NameSource ν' ChaChaStream] (hν : TakesNoWords ν ChaChaStream)
    (hν' : TakesNoWords ν' ChaChaStream) {plan plan' : HerdPlan} {seed : UInt64}
    (hseed : plan.seed = some seed) (hseed' : plan'.seed = some seed) {fewer more : Nat}
    (hle : fewer ≤ more) :
    (∀ (source : ν) (source' : ν') (provided provided' : ChaChaStream) (few many : Herd),
      (make plan fewer (source, plan.words provided)).1 = .ok few →
      (make plan' more (source', plan'.words provided')).1 = .ok many →
      (few.manifests plan).map (·.traits) <+: (many.manifests plan').map (·.traits)) ∧
    (∀ {μ ρ : Type} [WordSource ρ] [NameSource μ ρ] (plan : HerdPlan) (count : Nat)
      (state after : μ × ρ) (herd : Herd), make plan count state = (.ok herd, after) →
      ∃ source words, search drawFrom plan.letter plan.maxAttempts count state =
          (.ok herd.names, source, words) ∧
        (herd.manifests plan).Pairwise
          (fun a b => Text.Utf8.encode a.name < Text.Utf8.encode b.name) ∧
        (herd.manifests plan).map (·.traits) = (List.range count).map (Traits.chosen words) ∧
        after = (source, Traits.wordsAfter words count)) ∧
    ∀ {ρ : Type} [WordSource ρ] (words : ρ),
      ((Traits.weights true).sample words).2 = ((Traits.weights false).sample words).2 := by
  refine ⟨?_, fun plan count state after herd h => make_eq_ok h, fun words => ?_⟩
  · intro source source' provided provided' few many hfew hmany
    have hwords : plan'.words provided' = plan.words provided := by
      rw [HerdPlan.words, HerdPlan.words, hseed, hseed']
    rw [map_traits_of_takesNoWords hν hfew, map_traits_of_takesNoWords hν' hmany, hwords]
    exact Traits.isPrefix_map_chosen _ hle
  · rw [Traits.words_after_weight, Traits.words_after_weight]

/-- One moose whose name begins with m, and two from another park whose names begin with a. -/
theorem traits_independent_of_names_of_scripts :
    let plan : HerdPlan := { letter := 'm', seed := some 7 }
    let plan' : HerdPlan := { letter := 'a', maxAttempts := 4, seed := some 7, park := "denali" }
    let provided : ChaChaStream := .ofSeed 0
    TakesNoWords NameScript ChaChaStream ∧ ∃ few many,
      (make plan 1 ((⟨["Ada", "Max"]⟩ : NameScript), plan.words provided)).1 = .ok few ∧
      (make plan' 2 ((⟨["Ada", "Max", "Alma"]⟩ : NameScript), plan'.words provided)).1 = .ok many ∧
      few.names.names = ["Max"] ∧ many.names.names = ["Ada", "Alma"] ∧
      (few.manifests plan).map (·.traits) <+: (many.manifests plan').map (·.traits) := by
  intro plan plan' provided
  have hscript := takesNoWords_nameScript ChaChaStream
  have hfew : ∀ words : ChaChaStream, (search drawFrom 'm' 100000 1
      ((⟨["Ada", "Max"]⟩ : NameScript), words)).1 = .ok ⟨["Max"], 2⟩ := fun words => by cbv
  have hmany : ∀ words : ChaChaStream, (search drawFrom 'a' 4 2
      ((⟨["Ada", "Max", "Alma"]⟩ : NameScript), words)).1 = .ok ⟨["Ada", "Alma"], 3⟩ :=
    fun words => by cbv
  have hsearch : search drawFrom plan.letter plan.maxAttempts 1
      ((⟨["Ada", "Max"]⟩ : NameScript), plan.words provided) = (.ok ⟨["Max"], 2⟩, _) :=
    Prod.ext (hfew _) rfl
  have hsearch' : search drawFrom plan'.letter plan'.maxAttempts 2
      ((⟨["Ada", "Max", "Alma"]⟩ : NameScript), plan'.words provided) =
        (.ok ⟨["Ada", "Alma"], 3⟩, _) :=
    Prod.ext (hmany _) rfl
  have hmake := congrArg Prod.fst (make_of_search Nat.one_ne_zero hsearch)
  have hmake' := congrArg Prod.fst (make_of_search (Nat.succ_ne_zero 1) hsearch')
  exact ⟨hscript, _, _, hmake, hmake', rfl, rfl,
    (traits_independent_of_names hscript hscript rfl rfl (Nat.le_succ 1)).1 _ _ _ _ _ _ hmake
      hmake'⟩

end Herd

end MooseHerd
