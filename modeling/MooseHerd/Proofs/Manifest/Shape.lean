import MooseHerd.Proofs.Json.Schema
import MooseHerd.Proofs.Manifest.Decoded

/-! # Manifests of their shape

A document of the shape of a manifest holds one. So a text is refused as a manifest for what the
reader of its shape finds, and for nothing else. -/

namespace MooseHerd.Manifest

open Json (Fits)

theorem isProper_schema : schema.IsProper := by
  have hmetadata : metadataSchema.IsProper := by
    refine .record (by decide) ?_
    simp only [List.forall_mem_cons, List.not_mem_nil, false_imp_iff, implies_true, and_true]
    exact ⟨.text, .textMap⟩
  have hspec : specSchema.IsProper := by
    refine .record (by decide) ?_
    simp only [List.forall_mem_cons, List.not_mem_nil, false_imp_iff, implies_true, and_true]
    exact ⟨.real, .real, .flag⟩
  refine .record (by decide) ?_
  simp only [List.forall_mem_cons, List.not_mem_nil, false_imp_iff, implies_true, and_true]
  exact ⟨.text, .text, hmetadata, hspec⟩

/-- An object whose members are texts gives labels. -/
theorem exists_labelsAt? {name : String} {doc : Json} {members : List (String × Json)}
    (h : doc.member? name = some (.object members))
    (htexts : ∀ member ∈ members, ∃ s, member.2 = .string s) :
    ∃ labels, labelsAt? name doc = some labels := by
  simp only [labelsAt?, h]
  clear h
  induction members with
  | nil => exact ⟨[], rfl⟩
  | cons member members ih =>
    obtain ⟨key, value⟩ := member
    obtain ⟨⟨s, hs⟩, hrest⟩ := List.forall_mem_cons.mp htexts
    obtain rfl : value = .string s := hs
    obtain ⟨labels, hlabels⟩ := ih hrest
    refine ⟨(key, s) :: labels, ?_⟩
    rw [List.mapM_cons, hlabels]
    rfl

/-- A document of the shape of a manifest holds a manifest. -/
theorem exists_of_fits {doc : Json} (h : Fits schema doc) : ∃ m, ofDocument? doc = some m := by
  have htop := h.members
  simp only [List.forall_mem_cons] at htop
  obtain ⟨⟨_, hversion, ⟨version⟩⟩, ⟨_, hkind, ⟨kind⟩⟩, ⟨metadata, hmetadata, hmetadataFits⟩,
    ⟨spec, hspec, hspecFits⟩, -⟩ := htop
  have hinner := hmetadataFits.members
  simp only [List.forall_mem_cons] at hinner
  obtain ⟨⟨_, hname, ⟨name⟩⟩, ⟨_, hlabels, _ | _ | _ | ⟨htexts⟩⟩, -⟩ := hinner
  have hsizes := hspecFits.members
  simp only [List.forall_mem_cons] at hsizes
  obtain ⟨⟨_, hheight, _ | height⟩, ⟨_, hweight, _ | weight⟩, ⟨_, hantlers, _ | _ | antlers⟩, -⟩ :=
    hsizes
  obtain ⟨labels, hread⟩ := exists_labelsAt? hlabels htexts
  exact ⟨_, ofDocument?_of_members hversion hkind hmetadata hname hread hspec hheight hweight
    hantlers⟩

/-- **A text is no manifest only if it is no document of the shape of one.** -/
theorem parse_eq_error_iff {text : String} {fault : Json.Fault} :
    parse text = .error fault ↔ schema.parse text = .error fault := by
  cases h : schema.parse text with
  | error _ =>
    rw [parse, h]
    constructor <;> rintro ⟨⟩ <;> rfl
  | ok doc =>
    obtain ⟨m, hm⟩ := exists_of_fits (Json.fits_of_parse isProper_schema h)
    have hparse : parse text = .ok m := by
      rw [parse, h, ok_bind, hm]
    rw [hparse]
    exact ⟨nofun, nofun⟩

end MooseHerd.Manifest
