import MooseHerd.CommandLine.Basic
import MooseHerd.Proofs.Except
import MooseHerd.Settings.Layers

/-! # Settings that passed their check

Settings reach the program only through a check, and the options of the command line change nothing
that the check looks at. -/

namespace MooseHerd.Settings

/-- What the check asks for. -/
structure IsValid (s : Settings) : Prop where
  letter : ∃ c, s.generator.designatedLetter = .ok c
  attempts : 0 < s.generator.maxNameAttempts
  endpoint : isBlank s.cluster.endpoint = false
  space : isBlank s.cluster.space = false
  layout : ∃ layout, s.observability.layout? = .ok layout

theorem isValid_of_validate {s : Settings} (h : s.validate = .ok ()) : s.IsValid := by
  obtain ⟨letter, hletter, h⟩ := bind_eq_ok.mp h
  obtain ⟨hattempts, h⟩ := eq_ok_of_unless h
  obtain ⟨hendpoint, h⟩ := eq_ok_of_unless h
  obtain ⟨hspace, h⟩ := eq_ok_of_unless h
  obtain ⟨layout, hlayout, -⟩ := bind_eq_ok.mp h
  exact ⟨⟨letter, hletter⟩, Nat.pos_of_ne_zero hattempts, Bool.eq_false_iff.mpr hendpoint,
    Bool.eq_false_iff.mpr hspace, ⟨layout, hlayout⟩⟩

theorem IsValid.validate_eq {s : Settings} (h : s.IsValid) : s.validate = .ok () := by
  obtain ⟨letter, hletter⟩ := h.letter
  obtain ⟨layout, hlayout⟩ := h.layout
  simp only [validate, hletter, hlayout, h.endpoint, h.space, if_neg (Nat.ne_of_gt h.attempts)]
  rfl

/-- Settings as the program gets them: from layers, or from a directory and an environment. -/
inductive Obtained (s : Settings) : Prop where
  | layers (layers : List Layer) (h : ofLayers layers = .ok s)
  | directory (files : Files.Reader) (env : Environment) (dir : String)
    (h : load files env dir = .ok s)

theorem isValid_of_ofLayers {layers : List Layer} {s : Settings} (h : ofLayers layers = .ok s) :
    s.IsValid := by
  obtain ⟨settings, -, h⟩ := bind_eq_ok.mp h
  obtain ⟨_, hvalidate, h⟩ := bind_eq_ok.mp h
  cases h
  exact isValid_of_validate hvalidate

theorem Obtained.isValid {s : Settings} (h : s.Obtained) : s.IsValid := by
  cases h with
  | layers layers h => exact isValid_of_ofLayers h
  | directory files env dir h =>
    obtain ⟨common, -, h⟩ := bind_eq_ok.mp h
    obtain ⟨special, -, h⟩ := bind_eq_ok.mp h
    exact isValid_of_ofLayers h

/-- Options change the level of reports and the seed only, and the check looks at neither. -/
theorem IsValid.override {s : Settings} (h : s.IsValid) (i : CommandLine.Invocation) :
    (i.override s).IsValid :=
  ⟨h.letter, h.attempts, h.endpoint, h.space, h.layout⟩

/-- Valid settings have a plan, with the letter and the limit that they say. -/
theorem IsValid.exists_herdPlan {s : Settings} (h : s.IsValid) :
    ∃ plan, s.herdPlan = .ok plan ∧ s.generator.designatedLetter = .ok plan.letter ∧
      plan.maxAttempts = s.generator.maxNameAttempts := by
  obtain ⟨letter, hletter⟩ := h.letter
  refine ⟨_, by rw [herdPlan, hletter]; rfl, hletter, rfl⟩

end MooseHerd.Settings
