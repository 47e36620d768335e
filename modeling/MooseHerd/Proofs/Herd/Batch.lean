import MooseHerd.Herd
import MooseHerd.Proofs.Names.Search

/-! # What a batch looks like

The names of a batch are told apart by the lower-case forms that the search computes, and every
manifest computes the lower-case form of its name once more. Both give the same, so the manifests
are in the order of the search and no two have one name. -/

namespace MooseHerd.Herd

open MooseHerd.Random Names

/-! ## From names to manifests -/

theorem length_samples {ρ : Type} [WordSource ρ] : ∀ (count : Nat) (words : ρ),
    (Traits.samples count words).1.length = count
  | 0, _ => rfl
  | count + 1, words => by
    simp only [Traits.samples, List.length_cons]
    rw [length_samples count]

/-- Every manifest belongs to a name that was found, with what the plan says. -/
theorem exists_of_mem_manifests {plan : HerdPlan} {herd : Herd} {m : Manifest}
    (h : m ∈ herd.manifests plan) : ∃ name ∈ herd.names.names, ∃ traits,
      m = .ofMoose plan.apiVersion plan.kind name plan.park traits := by
  obtain ⟨⟨name, traits⟩, hm, rfl⟩ := List.mem_map.mp h
  exact ⟨name, (List.of_mem_zip hm).1, traits, rfl⟩

theorem map_name_manifests {plan : HerdPlan} {herd : Herd}
    (h : herd.traits.length = herd.names.names.length) :
    (herd.manifests plan).map (·.name) = herd.names.names.map Text.lowercase := by
  calc (herd.manifests plan).map (·.name)
      = herd.members.map (fun member => Text.lowercase member.1) := by
        rw [manifests, List.map_map]
        rfl
    _ = (herd.members.map Prod.fst).map Text.lowercase := by rw [List.map_map]; rfl
    _ = herd.names.names.map Text.lowercase := by
        rw [members, List.map_fst_zip (Nat.le_of_eq h.symm)]

/-! ## Batches -/

/-- A batch by a plan, from some of the candidates. -/
structure IsBatch (plan : HerdPlan) (count : Nat) (candidates : List String)
    (batch : List Manifest) : Prop where
  length_eq : batch.length = count
  ascending : batch.Pairwise fun a b => Text.Utf8.encode a.name < Text.Utf8.encode b.name
  distinct : (batch.map (·.name)).Nodup
  nonempty : ∀ m ∈ batch, m.name ≠ ""
  lowercase_name : ∀ m ∈ batch, Text.lowercase m.name = m.name
  begins : ∀ m ∈ batch, Text.lowerChar plan.letter <+: m.name.toList
  drawn : ∀ m ∈ batch, ∃ candidate ∈ candidates,
    startsWithLetter plan.letter candidate = true ∧ m.name = Text.lowercase candidate
  described : ∀ m ∈ batch, m.apiVersion = plan.apiVersion ∧ m.kind = plan.kind ∧
    m.labels = [(Manifest.parkLabel, plan.park)]

/-- Names found among candidates, with traits for each, make a batch. -/
theorem isBatch_manifests {plan : HerdPlan} {count : Nat} {candidates : List String} {herd : Herd}
    (hnames : herd.names.names = (Found.among plan.letter candidates).map (·.2))
    (hcount : herd.names.names.length = count)
    (htraits : herd.traits.length = herd.names.names.length) :
    IsBatch plan count candidates (herd.manifests plan) := by
  have hmap : (herd.manifests plan).map (·.name) =
      (Found.among plan.letter candidates).map (·.1) := by
    rw [map_name_manifests htraits, hnames, Found.map_lowercase_among]
  have hkeys : Keys.Ascending ((herd.manifests plan).map (·.name)) := by
    rw [hmap]
    exact Found.ascending_among plan.letter candidates
  have hdrawn : ∀ m ∈ herd.manifests plan, ∃ candidate ∈ candidates,
      startsWithLetter plan.letter candidate = true ∧ m.name = Text.lowercase candidate := by
    intro m hm
    obtain ⟨name, hname, traits, rfl⟩ := exists_of_mem_manifests hm
    rw [hnames] at hname
    obtain ⟨⟨key, _⟩, hentry, rfl⟩ := List.mem_map.mp hname
    have hfits := Found.fits_of_mem_among hentry
    simp only [fits, Bool.and_eq_true] at hfits
    exact ⟨_, Found.mem_of_mem_among hentry, hfits.1, rfl⟩
  have hbegins : ∀ m ∈ herd.manifests plan, Text.lowerChar plan.letter <+: m.name.toList := by
    intro m hm
    obtain ⟨candidate, -, hstart, hname⟩ := hdrawn m hm
    rw [hname]
    exact lowerChar_prefix_of_startsWithLetter hstart
  refine ⟨?_, ?_, hkeys.nodup, ?_, ?_, hbegins, hdrawn, ?_⟩
  · rw [← List.length_map (·.name), map_name_manifests htraits, List.length_map, hcount]
  · exact (List.pairwise_map.mp hkeys).imp Text.Utf8.encode_lt_encode_iff.mpr
  · intro m hm hempty
    have hprefix := hbegins m hm
    rw [hempty] at hprefix
    exact Text.lowerChar_ne_nil plan.letter (List.prefix_nil.mp hprefix)
  · intro m hm
    obtain ⟨candidate, -, -, hname⟩ := hdrawn m hm
    rw [hname, Text.lowercase_lowercase]
  · intro m hm
    obtain ⟨name, -, traits, rfl⟩ := exists_of_mem_manifests hm
    exact ⟨rfl, rfl, rfl⟩

variable {ν ρ : Type} [WordSource ρ] [NameSource ν ρ]

/-- The names of a batch come first, then traits for every name. -/
theorem make_of_search {plan : HerdPlan} {count : Nat} {state after : ν × ρ} {names : NameList}
    (hc : count ≠ 0)
    (h : search drawFrom plan.letter plan.maxAttempts count state = (.ok names, after)) :
    make plan count state =
      (.ok { names, traits := (Traits.samples names.names.length after.2).1 }, after.1,
        (Traits.samples names.names.length after.2).2) := by
  rw [make, if_neg hc, h]

/-- A batch that is asked for comes about if the candidates hold its names. -/
theorem make_cases (plan : HerdPlan) {count : Nat} (hc : 1 ≤ count) (state : ν × ρ) :
    (∃ herd after, make plan count state = (.ok herd, after) ∧
      herd.names.attempts ≤ plan.maxAttempts ∧ IsBatch plan count
        (Names.drawn drawFrom state herd.names.attempts) (herd.manifests plan)) ∨
    (countAfter drawFrom plan.letter state plan.maxAttempts < count ∧ make plan count state =
      (.error (.namesExhausted plan.letter count
        (countAfter drawFrom plan.letter state plan.maxAttempts) plan.maxAttempts),
        stateAfter drawFrom state plan.maxAttempts)) := by
  have hne : count ≠ 0 := by omega
  rcases search_eq drawFrom plan.letter plan.maxAttempts count state with
    ⟨k, hk, hleast, hsearch⟩ | ⟨hfew, hsearch⟩
  · have hlength : ((Found.among plan.letter (Names.drawn drawFrom state k)).map (·.2)).length =
        count := by
      rw [List.length_map, Found.length_among]
      exact hleast.1
    exact .inl ⟨_, _, make_of_search hne hsearch, hk,
      isBatch_manifests rfl hlength (length_samples _ _)⟩
  · refine .inr ⟨hfew, ?_⟩
    rw [make, if_neg hne, hsearch]

/-! ## One batch after the other -/

/-- The state that batches of the given sizes leave, those that failed included. -/
def afterBatches (plan : HerdPlan) (start : ν × ρ) (counts : List Nat) : ν × ρ :=
  counts.foldl (fun state count => (make plan count state).2) start

/-- **Every batch is in order**, whatever was asked for before it: its names are new choices from
the candidates that come next, and too few names are the only reason why there is none. -/
theorem make_after_batches (plan : HerdPlan) (start : ν × ρ) (earlier : List Nat) {count : Nat}
    (hc : 1 ≤ count) :
    (∀ herd, (make plan count (afterBatches plan start earlier)).1 = .ok herd →
      herd.names.attempts ≤ plan.maxAttempts ∧ IsBatch plan count
        (Names.drawn drawFrom (afterBatches plan start earlier) herd.names.attempts)
        (herd.manifests plan)) ∧
    (∀ e, (make plan count (afterBatches plan start earlier)).1 = .error e →
      ∃ found < count, e = .namesExhausted plan.letter count found plan.maxAttempts ∧
        found = (lowerForms plan.letter (Names.drawn drawFrom (afterBatches plan start earlier)
          plan.maxAttempts)).card) := by
  rcases make_cases plan hc (afterBatches plan start earlier) with
    ⟨made, after, hmake, hattempts, hbatch⟩ | ⟨hfew, hmake⟩
  · rw [hmake]
    refine ⟨?_, ?_⟩
    · intro herd h
      cases h
      exact ⟨hattempts, hbatch⟩
    · intro e h
      cases h
  · rw [hmake]
    refine ⟨?_, ?_⟩
    · intro herd h
      cases h
    · intro e h
      cases h
      exact ⟨_, hfew, rfl, rfl⟩

/-- A batch of two after an empty one and one that used up its draws. -/
theorem make_after_batches_of_script :
    let plan : HerdPlan := { letter := 'm', maxAttempts := 2 }
    let start : NameScript × WordTape := (⟨["Ada", "Max", "Mona", "MAX"]⟩, { words := [] })
    let made := (make plan 2 (afterBatches plan start [0, 2])).1
    1 ≤ 2 ∧ made.toOption.map (·.names.names) = some ["MAX", "Mona"] ∧
      ∀ herd, made = .ok herd → herd.names.attempts ≤ 2 ∧ IsBatch plan 2
        (Names.drawn drawFrom (afterBatches plan start [0, 2]) herd.names.attempts)
        (herd.manifests plan) :=
  ⟨by decide, by decide +kernel, (make_after_batches _ _ [0, 2] (by decide)).1⟩

end MooseHerd.Herd
