import Mathlib.Logic.Relation
import MooseHerd.CommandLine.Basic
import MooseHerd.Proofs.Except

/-! # What arguments do to the values given so far

Whatever the arguments are and in whatever order they come, the values change in two ways only: a
parameter takes a value that was looked at, or the dry run is turned on. What holds of the values at
the end is shown for these two. -/

namespace MooseHerd.CommandLine

/-- One change of the values given so far. -/
inductive Given.Step : Given → Given → Prop where
  | value (g : Given) (p : Parameter) (text : String) {h : Given} (taken : g.take p text = .ok h) :
    Step g h
  | dryRun (g : Given) : Step g { g with dryRun := true }

/-- Any number of changes. -/
abbrev Given.Leads : Given → Given → Prop := Relation.ReflTransGen Given.Step

theorem misuse_ne_ok {α : Type} {m : Misuse} {a : α} : misuse m ≠ .ok a := nofun

/-- What a text does as the value of a parameter: only the field of the parameter changes. -/
def Given.Sets (g h : Given) (text : String) : Parameter → Prop
  | .count => ∃ n, countOf text = .ok n ∧ h = { g with count := some n }
  | .logLevel => h = { g with logLevel := some text }
  | .configDir => ∃ dir, directoryOf text = .ok dir ∧ h = { g with configDir := some dir }
  | .seed => ∃ n, seedOf text = .ok n ∧ h = { g with seed := some n }

theorem Given.sets_of_take {g h : Given} {p : Parameter} {text : String}
    (taken : g.take p text = .ok h) : g.Sets h text p := by
  cases p with
  | count =>
    obtain ⟨-, taken⟩ := eq_ok_of_unless taken
    obtain ⟨n, hn, taken⟩ := bind_eq_ok.mp taken
    cases taken
    exact ⟨n, hn, rfl⟩
  | logLevel =>
    obtain ⟨-, taken⟩ := eq_ok_of_unless taken
    cases taken
    rfl
  | configDir =>
    obtain ⟨-, taken⟩ := eq_ok_of_unless taken
    obtain ⟨dir, hdir, taken⟩ := bind_eq_ok.mp taken
    cases taken
    exact ⟨dir, hdir, rfl⟩
  | seed =>
    obtain ⟨-, taken⟩ := eq_ok_of_unless taken
    obtain ⟨n, hn, taken⟩ := bind_eq_ok.mp taken
    cases taken
    exact ⟨n, hn, rfl⟩

/-! ## Arguments -/

theorem State.leads_settle {s t : State} (h : s.settle = .ok t) : s.given.Leads t.given := by
  unfold State.settle at h
  split at h
  · cases h
    exact .refl
  · exact absurd h misuse_ne_ok
  · obtain ⟨g, hg, h⟩ := bind_eq_ok.mp h
    cases h
    exact .single (.value _ _ _ hg)

theorem State.leads_turnOn {s t : State} {switch : Switch} {long : Bool}
    (h : s.turnOn switch long = .ok t) : s.given.Leads t.given := by
  obtain ⟨settled, hsettle, h⟩ := bind_eq_ok.mp h
  have hleads := State.leads_settle hsettle
  cases switch with
  | help => cases h
  | version => cases h
  | dryRun =>
    obtain ⟨-, h⟩ := eq_ok_of_unless h
    cases h
    exact hleads.tail (.dryRun _)

theorem State.leads_name {s t : State} {p : Parameter} {attached : Option String}
    (h : s.name p attached = .ok t) : s.given.Leads t.given := by
  obtain ⟨settled, hsettle, h⟩ := bind_eq_ok.mp h
  have hleads := State.leads_settle hsettle
  cases attached with
  | none =>
    cases h
    exact hleads
  | some value =>
    obtain ⟨g, hg, h⟩ := bind_eq_ok.mp h
    cases h
    exact hleads.tail (.value _ _ _ hg)

theorem State.leads_takeLong {s t : State} {name : String} {attached : Option String}
    (h : s.takeLong name attached = .ok t) : s.given.Leads t.given := by
  unfold State.takeLong at h
  split at h
  · exact absurd h misuse_ne_ok
  · exact State.leads_name h
  · exact absurd h misuse_ne_ok
  · exact State.leads_turnOn h

theorem State.leads_takeShort : ∀ (letters : List Char) {s t : State},
    s.takeShort letters = .ok t → s.given.Leads t.given
  | [], _, _, h => by
    cases h
    exact .refl
  | c :: rest, s, t, h => by
    unfold State.takeShort at h
    split at h
    · exact absurd h misuse_ne_ok
    · exact State.leads_name h
    · obtain ⟨u, hu, h⟩ := bind_eq_ok.mp h
      exact (State.leads_turnOn hu).trans (State.leads_takeShort rest h)

theorem State.leads_takeValue {s t : State} {arg : String} (h : s.takeValue arg = .ok t) :
    s.given.Leads t.given := by
  unfold State.takeValue at h
  split at h
  · cases h
    exact .refl
  · split at h
    · exact absurd h misuse_ne_ok
    · obtain ⟨u, hu, h⟩ := bind_eq_ok.mp h
      have hleads := State.leads_settle hu
      cases h
      exact hleads

/-- One argument, whatever it is. -/
theorem State.leads_take {s t : State} {arg : String} (h : s.take arg = .ok t) :
    s.given.Leads t.given := by
  unfold State.take at h
  split at h
  · exact State.leads_takeValue h
  · split at h
    · cases h
      exact .refl
    · exact State.leads_takeLong h
    · exact State.leads_takeShort _ h
    · exact State.leads_takeValue h

theorem State.leads_foldlM : ∀ (args : List String) {s t : State},
    args.foldlM State.take s = .ok t → s.given.Leads t.given
  | [], _, _, h => by
    cases h
    exact .refl
  | arg :: rest, s, t, h => by
    rw [List.foldlM_cons] at h
    obtain ⟨u, hu, h⟩ := bind_eq_ok.mp h
    exact (State.leads_take hu).trans (State.leads_foldlM rest h)

/-- **Arguments that say what to do** lead from no values to those that they ask for. -/
theorem leads_of_parse {args : List String} {i : Invocation} (h : parse args = .ok i) :
    ∃ g : Given, Given.Leads {} g ∧ g.invocation = .ok i := by
  obtain ⟨s, hs, h⟩ := bind_eq_ok.mp h
  obtain ⟨t, ht, h⟩ := bind_eq_ok.mp h
  exact ⟨t.given, (State.leads_foldlM args hs).trans (State.leads_settle ht), h⟩

/-! ## The count -/

theorem range_of_countOf {s : String} {n : Nat} (h : countOf s = .ok n) :
    1 ≤ n ∧ n ≤ countLimit := by
  unfold countOf at h
  split at h
  · exact absurd h misuse_ne_ok
  · split at h
    · rename_i hrange
      cases h
      omega
    · exact absurd h misuse_ne_ok

/-- A count that was given is in its range. -/
def Given.InRange (g : Given) : Prop := ∀ n ∈ g.count, 1 ≤ n ∧ n ≤ countLimit

theorem Given.InRange.sets {g h : Given} {p : Parameter} {text : String} (hg : g.InRange)
    (hsets : g.Sets h text p) : h.InRange := by
  cases p with
  | count =>
    obtain ⟨n, hn, rfl⟩ := hsets
    intro m hm
    cases hm
    exact range_of_countOf hn
  | logLevel =>
    obtain rfl : h = _ := hsets
    exact hg
  | configDir =>
    obtain ⟨_, -, rfl⟩ := hsets
    exact hg
  | seed =>
    obtain ⟨_, -, rfl⟩ := hsets
    exact hg

theorem Given.InRange.leads {g h : Given} (hg : g.InRange) (hleads : g.Leads h) : h.InRange := by
  induction hleads with
  | refl => exact hg
  | tail _ hstep ih =>
    cases hstep with
    | value p text taken => exact ih.sets (Given.sets_of_take taken)
    | dryRun => exact ih

/-- Arguments never ask for no moose, nor for more than the greatest count. -/
theorem range_of_parse {args : List String} {i : Invocation} (h : parse args = .ok i) :
    1 ≤ i.count ∧ i.count ≤ countLimit := by
  obtain ⟨g, hleads, hi⟩ := leads_of_parse h
  have hrange : g.InRange := Given.InRange.leads (by intro n hn; cases hn) hleads
  unfold Given.invocation at hi
  split at hi
  · exact absurd hi misuse_ne_ok
  · rename_i count hcount
    cases hi
    exact hrange count hcount

end MooseHerd.CommandLine
