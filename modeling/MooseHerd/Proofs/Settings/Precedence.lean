import Mathlib
import MooseHerd.Proofs.Settings.Fields

/-! # Which layer a field is read from

Layers are laid over each other value by value before any of them is converted. If each is a map
from fields to scalars, a field is read from the last layer that has a value for it, and nothing
else in the layers matters. -/

namespace MooseHerd.Settings

/-! ## One entry -/

/-- An entry of a layer that maps fields to scalars: a scalar under the names of a section and of a
member, a table of such members under the name of a section, or what lies where no field is. -/
inductive IsFlat : KeyPath → Value → Prop
  | scalar (outer inner : String) (s : Scalar) (origin : Option String) :
    IsFlat [.name outer, .name inner] (.scalar s origin)
  | table (outer : String) (members : List (String × Value)) (origin : Option String)
    (h : ∀ f : Field, f.sectionName = outer → ∀ v, (f.name, v) ∈ members →
      ∃ s origin, v = .scalar s origin) :
    IsFlat [.name outer] (.table members origin)
  | noSection (outer : String) (rest : KeyPath) (v : Value)
    (h : ∀ f : Field, f.sectionName ≠ outer) : IsFlat (.name outer :: rest) v
  | noField (outer inner : String) (rest : KeyPath) (v : Value)
    (h : ∀ f : Field, f.sectionName = outer → f.name ≠ inner) :
    IsFlat (.name outer :: .name inner :: rest) v

theorem isFlat_of_scalars (outer : String) {members : List (String × Value)}
    (origin : Option String) (h : ∀ member ∈ members, ∃ s origin, member.2 = .scalar s origin) :
    IsFlat [.name outer] (.table members origin) :=
  .table outer members origin fun _ _ _ hv => h _ hv

/-- The value that an entry has for a field. Of the members of one name the last one counts. -/
def Field.given? (f : Field) : KeyPath → Value → Option Value
  | [.name outer, .name inner], v =>
    if outer = f.sectionName ∧ inner = f.name then some v else none
  | [.name outer], v => if outer = f.sectionName then v.members.reverse.lookup f.name else none
  | _, _ => none

namespace Value

theorem bind_member? (name : String) (v : Option Value) :
    v.bind (·.member? name) = (v.getD nothing).member? name := by
  cases v <;> rfl

theorem change_eq_table (f : Value → Value) (name : String) (rest : KeyPath) (v : Value) :
    ∃ members origin, change f (.name name :: rest) v = .table members origin := by
  cases v <;> exact ⟨_, _, rfl⟩

theorem onto_table_eq_table (members : List (String × Value)) (origin : Option String)
    (below : Value) : ∃ members' origin',
      onto (.table members origin) below = .table members' origin' := by
  cases below <;> exact ⟨_, _, rfl⟩

/-- Scalars among members go before those below, the last one first. -/
theorem lookup_ontoMembers {key : String} : ∀ (members below : List (String × Value)),
    (∀ v, (key, v) ∈ members → ∃ s origin, v = .scalar s origin) →
    (ontoMembers members below).lookup key = (members.reverse.lookup key).or (below.lookup key)
  | [], _, _ => rfl
  | (name, above) :: rest, below, h => by
    rw [ontoMembers, lookup_ontoMembers rest _ fun v hv => h v (List.mem_cons_of_mem _ hv),
      lookup_changeMember, List.reverse_cons, List.lookup_append, Option.or_assoc]
    congr 1
    by_cases hkey : key = name
    · subst hkey
      obtain ⟨s, origin, rfl⟩ := h above List.mem_cons_self
      rw [if_pos rfl, onto_scalar, List.lookup_cons_self]
      rfl
    · rw [if_neg hkey, Keys.lookup_cons_of_ne hkey]
      rfl

theorem member?_onto_table {key : String} {members : List (String × Value)}
    (origin : Option String) (below : Value)
    (h : ∀ v, (key, v) ∈ members → ∃ s origin, v = .scalar s origin) :
    (onto (.table members origin) below).member? key =
      (members.reverse.lookup key).or (below.member? key) := by
  rw [member?, onto, members_withMembers_asTable, lookup_ontoMembers members _ h, members_asTable]
  rfl

end Value

theorem Field.find?_eq (f : Field) (root : Value) :
    f.find? root = ((root.member? f.sectionName).getD .nothing).member? f.name :=
  Value.bind_member? f.name _

theorem Field.given?_eq_none_of_section (f : Field) {outer : String} {rest : KeyPath} {v : Value}
    (h : f.sectionName ≠ outer) : f.given? (.name outer :: rest) v = none := by
  unfold given?
  split
  · rename_i heq
    cases heq
    exact if_neg fun hgiven => h hgiven.1.symm
  · rename_i heq
    cases heq
    exact if_neg fun hgiven => h hgiven.symm
  · rfl

theorem Field.given?_eq_none_of_name (f : Field) {outer inner : String} {rest : KeyPath} {v : Value}
    (h : f.sectionName = outer → f.name ≠ inner) :
    f.given? (.name outer :: .name inner :: rest) v = none := by
  unfold given?
  split
  · rename_i heq
    cases heq
    exact if_neg fun hgiven => h hgiven.1.symm hgiven.2.symm
  · rename_i heq
    cases heq
  · rfl

variable {way : KeyPath} {above below : Value}

/-- An entry leaves sections tables. -/
theorem hasSections_change (h : IsFlat way above) (hbelow : HasSections below) :
    HasSections (Value.change above.onto way below) := by
  intro f v hv
  cases h with
  | scalar outer inner s origin =>
    rw [Value.member?_change] at hv
    split at hv
    · cases hv
      exact Value.change_eq_table ..
    · exact hbelow f v hv
  | table outer members origin h =>
    rw [Value.member?_change] at hv
    split at hv
    · cases hv
      exact Value.onto_table_eq_table ..
    · exact hbelow f v hv
  | noSection outer rest above h =>
    rw [Value.member?_change, if_neg (h f)] at hv
    exact hbelow f v hv
  | noField outer inner rest above h =>
    rw [Value.member?_change] at hv
    split at hv
    · cases hv
      exact Value.change_eq_table ..
    · exact hbelow f v hv

/-- An entry puts its value for a field in the place of the one below, and else keeps that. -/
theorem Field.find?_change (f : Field) (h : IsFlat way above) :
    f.find? (Value.change above.onto way below) = (f.given? way above).or (f.find? below) := by
  rw [f.find?_eq, f.find?_eq]
  cases h with
  | scalar outer inner s origin =>
    rw [Value.member?_change, given?]
    by_cases hsection : f.sectionName = outer
    · rw [if_pos hsection, Option.getD_some, Value.member?_change, hsection]
      by_cases hname : f.name = inner
      · rw [if_pos hname, if_pos ⟨rfl, hname.symm⟩, Value.change, Value.onto_scalar]
        rfl
      · rw [if_neg hname, if_neg fun h => hname h.2.symm]
        rfl
    · rw [if_neg hsection, if_neg fun h => hsection h.1.symm]
      rfl
  | table outer members origin h =>
    rw [Value.member?_change, given?]
    by_cases hsection : f.sectionName = outer
    · rw [if_pos hsection, if_pos hsection.symm, Option.getD_some, Value.change,
        Value.member?_onto_table _ _ (h f hsection), hsection]
      rfl
    · rw [if_neg hsection, if_neg fun h => hsection h.symm]
      rfl
  | noSection outer rest above h =>
    rw [Value.member?_change, if_neg (h f)]
    rw [f.given?_eq_none_of_section (h f)]
    rfl
  | noField outer inner rest above h =>
    rw [Value.member?_change, f.given?_eq_none_of_name (h f), Option.none_or]
    split
    · rename_i hsection
      rw [Option.getD_some, Value.member?_change, if_neg (h f hsection), hsection]
    · rfl

/-! ## Layers of entries -/

theorem findSome?_reverse_cons {α β : Type} (g : α → Option β) (a : α) (as : List α) :
    (a :: as).reverse.findSome? g = (as.reverse.findSome? g).or (g a) := by
  rw [List.reverse_cons, List.findSome?_append, List.findSome?_singleton]

/-- A layer that maps fields to scalars. -/
def Layer.IsFlat (layer : Layer) : Prop :=
  ∀ entry ∈ layer, Settings.IsFlat (KeyPath.ofKey entry.1) entry.2

namespace Field

variable (f : Field)

/-- The value that a layer has for a field: that of its last entry with one. -/
def valueIn? (layer : Layer) : Option Value :=
  layer.reverse.findSome? fun (key, v) => f.given? (KeyPath.ofKey key) v

/-- The value for a field that survives: that of the last layer with one. -/
def survivor? (layers : List Layer) : Option Value := layers.reverse.findSome? f.valueIn?

/-- What survives is the value of a layer that no later layer has one after. -/
theorem survivor?_eq_some_iff {layers : List Layer} {v : Value} : f.survivor? layers = some v ↔
    ∃ before layer after, layers = before ++ layer :: after ∧ f.valueIn? layer = some v ∧
      ∀ later ∈ after, f.valueIn? later = none := by
  rw [survivor?, List.findSome?_eq_some_iff]
  constructor
  · rintro ⟨after, layer, before, hlayers, hv, hafter⟩
    refine ⟨before.reverse, layer, after.reverse, ?_, hv, fun later hlater => ?_⟩
    · rw [List.reverse_eq_iff.mp hlayers]
      simp
    · exact hafter later (List.mem_reverse.mp hlater)
  · rintro ⟨before, layer, after, rfl, hv, hafter⟩
    refine ⟨after.reverse, layer, before.reverse, by simp, hv, fun later hlater => ?_⟩
    exact hafter later (List.mem_reverse.mp hlater)

theorem find?_addLayer {layer : Layer} (hflat : layer.IsFlat) : ∀ {below : Value},
    HasSections below →
    HasSections (Value.addLayer layer below) ∧
      f.find? (Value.addLayer layer below) = (f.valueIn? layer).or (f.find? below) := by
  induction layer with
  | nil => exact fun hbelow => ⟨hbelow, rfl⟩
  | cons entry rest ih =>
    intro below hbelow
    obtain ⟨key, above⟩ := entry
    have hentry : Settings.IsFlat (KeyPath.ofKey key) above :=
      hflat (key, above) List.mem_cons_self
    obtain ⟨hafter, hfind⟩ := ih (fun e he => hflat e (List.mem_cons_of_mem _ he))
      (hasSections_change hentry hbelow)
    refine ⟨hafter, ?_⟩
    rw [Value.addLayer_cons, hfind, f.find?_change hentry, ← Option.or_assoc, valueIn?, valueIn?,
      findSome?_reverse_cons]

theorem find?_layers {layers : List Layer} (hflat : ∀ layer ∈ layers, layer.IsFlat) :
    ∀ {below : Value}, HasSections below →
    HasSections (layers.foldl (fun below layer => Value.addLayer layer below) below) ∧
      f.find? (layers.foldl (fun below layer => Value.addLayer layer below) below) =
        (f.survivor? layers).or (f.find? below) := by
  induction layers with
  | nil => exact fun hbelow => ⟨hbelow, rfl⟩
  | cons layer rest ih =>
    intro below hbelow
    obtain ⟨hlayer, hvalue⟩ := f.find?_addLayer (hflat layer List.mem_cons_self) hbelow
    obtain ⟨hafter, hfind⟩ := ih (fun l hl => hflat l (List.mem_cons_of_mem _ hl)) hlayer
    refine ⟨hafter, ?_⟩
    rw [List.foldl_cons, hfind, hvalue, ← Option.or_assoc, survivor?, survivor?,
      findSome?_reverse_cons]

end Field

/-- Of flat layers a field finds what survives. -/
theorem find?_ofLayers {layers : List Layer} (hflat : ∀ layer ∈ layers, layer.IsFlat) :
    HasSections (Value.ofLayers layers) ∧
      ∀ f : Field, f.find? (Value.ofLayers layers) = f.survivor? layers := by
  have hempty : HasSections (.table [] none) := by
    intro f v hv
    cases hv
  rw [Value.ofLayers]
  constructor
  · exact (Field.endpoint.find?_layers hflat hempty).1
  · intro f
    exact (f.find?_layers hflat hempty).2.trans Option.or_none

/-! ## Loading -/

/-- A file that is there and has the name of its language holds a layer. -/
theorem layerOfFile_of_parse {files : Files.Reader} {path text : String} {bytes : List UInt8}
    {members : List (String × Toml)} (hname : hasExtension path = true)
    (hread : files path = .ok bytes)
    (htext : Text.Utf8.decodeLossy (Text.Utf8.dropMark bytes) = text)
    (hparse : Toml.parse? text = some members) :
    layerOfFile files path = .ok (ofTomlMembers (some (tidyPath path)) members) := by
  simp only [layerOfFile, candidates, List.findSome?_cons, hread, hname, layerOfText, htext, hparse]
  rfl

/-- The layers that settings are loaded from. -/
def layersOf (files : Files.Reader) (env : Environment) (dir : String) :
    Except Fault (List Layer) := do
  let (common, special) := filesOf env dir
  return [← layerOfFile files common, ← layerOfFile files special, layerOfEnvironment env]

theorem load_of_layersOf {files : Files.Reader} {env : Environment} {dir : String}
    {layers : List Layer} (h : layersOf files env dir = .ok layers) :
    load files env dir = ofLayers layers := by
  obtain ⟨common, hcommon, h⟩ := bind_eq_ok.mp h
  obtain ⟨special, hspecial, h⟩ := bind_eq_ok.mp h
  cases h
  simp only [load, filesOf, hcommon, hspecial]
  rfl

section

variable {layers : List Layer} (hflat : ∀ layer ∈ layers, layer.IsFlat)

include hflat

/-- Settings from flat layers are told by the values that survive. -/
theorem ofLayers_of_isFlat :
    ofLayers layers =
      (ofFields fun f => f.read (f.survivor? layers)).mapError .settings >>= fun s =>
        s.validate >>= fun _ => .ok s := by
  obtain ⟨hsections, hfind⟩ := find?_ofLayers hflat
  have hdecode := decode_eq_ofFields hsections
  simp only [hfind] at hdecode
  rw [ofLayers, hdecode]
  rfl

theorem ofLayers_eq_ok_iff {s : Settings} : ofLayers layers = .ok s ↔
    (∀ f : Field, f.read (f.survivor? layers) = .ok (f.get s)) ∧ s.validate = .ok () := by
  rw [← ofFields_eq_ok_iff, ofLayers_of_isFlat hflat]
  constructor
  · intro h
    obtain ⟨given, hgiven, h⟩ := bind_eq_ok.mp h
    obtain ⟨_, hvalid, h⟩ := bind_eq_ok.mp h
    cases h
    exact ⟨mapError_eq_ok.mp hgiven, hvalid⟩
  · rintro ⟨hgiven, hvalid⟩
    exact bind_eq_ok.mpr ⟨s, mapError_eq_ok.mpr hgiven, bind_eq_ok.mpr ⟨(), hvalid, rfl⟩⟩

theorem ofLayers_eq_error_iff : (∃ e, ofLayers layers = .error e) ↔
    (∃ (f : Field) (v : Value) (e : Fault),
      f.survivor? layers = some v ∧ f.decoder f.place v = .error e) ∨
    (∃ s e, (∀ f : Field, f.read (f.survivor? layers) = .ok (f.get s)) ∧
      s.validate = .error e) := by
  constructor
  · rintro ⟨e, h⟩
    cases hfields : ofFields fun f => f.read (f.survivor? layers) with
    | error fault =>
      obtain ⟨f, fault, hf⟩ := exists_error_of_ofFields hfields
      cases hv : f.survivor? layers with
      | none =>
        rw [hv] at hf
        cases hf
      | some v =>
        rw [hv] at hf
        exact .inl ⟨f, v, fault, hv, hf⟩
    | ok s =>
      have hgiven := ofFields_eq_ok_iff.mp hfields
      cases hvalid : s.validate with
      | error e => exact .inr ⟨s, e, hgiven, hvalid⟩
      | ok u => cases ((ofLayers_eq_ok_iff hflat).mpr ⟨hgiven, hvalid⟩).symm.trans h
  · intro h
    cases hload : ofLayers layers with
    | error e => exact ⟨e, rfl⟩
    | ok s =>
      obtain ⟨hs, hvalid⟩ := (ofLayers_eq_ok_iff hflat).mp hload
      rcases h with ⟨f, v, e, hv, hf⟩ | ⟨s', e, hs', hinvalid⟩
      · have hread := hs f
        rw [hv] at hread
        cases hread.symm.trans hf
      · have heq : s = s' :=
          Except.ok.inj ((ofFields_eq_ok_iff.mpr hs).symm.trans (ofFields_eq_ok_iff.mpr hs'))
        cases (heq ▸ hvalid).symm.trans hinvalid

end

/-- **The last layer with a value counts.** Each field of settings that load is the value of the
last layer that has one for it, converted, or else the default. They load unless one of these values
cannot be converted or the check refuses what comes out. Layers with the same such values load
alike, so that nothing else in them matters. -/
theorem load_takes_last {files : Files.Reader} {env : Environment} {dir : String}
    {layers : List Layer} (hlayers : layersOf files env dir = .ok layers)
    (hflat : ∀ layer ∈ layers, layer.IsFlat) :
    (∀ s, load files env dir = .ok s ↔
      (∀ f : Field, f.read (f.survivor? layers) = .ok (f.get s)) ∧ s.validate = .ok ()) ∧
    ((∃ e, load files env dir = .error e) ↔
      (∃ (f : Field) (v : Value) (e : Fault),
        f.survivor? layers = some v ∧ f.decoder f.place v = .error e) ∨
      (∃ s e, (∀ f : Field, f.read (f.survivor? layers) = .ok (f.get s)) ∧
        s.validate = .error e)) ∧
    (∀ (files' : Files.Reader) (env' : Environment) (dir' : String) (layers' : List Layer),
      layersOf files' env' dir' = .ok layers' → (∀ layer ∈ layers', layer.IsFlat) →
      (∀ f : Field, f.survivor? layers' = f.survivor? layers) →
      load files' env' dir' = load files env dir) := by
  rw [load_of_layersOf hlayers]
  refine ⟨fun s => ofLayers_eq_ok_iff hflat, ofLayers_eq_error_iff hflat, ?_⟩
  intro files' env' dir' layers' hlayers' hflat' hsame
  rw [load_of_layersOf hlayers', ofLayers_of_isFlat hflat', ofLayers_of_isFlat hflat]
  simp only [hsame]

/-! ### Values of the wrong type below others -/

/-- A settings file with a seed that is no number and a section of another program. -/
def maskedCommon : String := "[generator]\nseed = \"none\"\n[zoo]\nmoose = true\n"

/-- A settings file with a time that is no number. -/
def maskedSpecial : String := "[cluster]\ntimeout_seconds = \"soon\"\nnamespace = \"park\"\n"

def maskedFiles : Files.Reader := FileTree.read (.ofList
  [("default.toml", Text.Utf8.encode maskedCommon), ("wild.toml", Text.Utf8.encode maskedSpecial)])

/-- Variables that set the seed and the time. -/
def maskingEnvironment : Environment :=
  [("MOOSE_ENV", "wild"), ("MOOSE_GENERATOR__SEED", "5"), ("MOOSE_CLUSTER__TIMEOUT_SECONDS", "9")]

def maskedLayers : List Layer := [
  [("generator", .table [("seed", .scalar (.text "none") (some "default.toml"))]
      (some "default.toml")),
    ("zoo", .table [("moose", .scalar (.flag true) (some "default.toml"))] (some "default.toml"))],
  [("cluster", .table [("timeout_seconds", .scalar (.text "soon") (some "wild.toml")),
      ("namespace", .scalar (.text "park") (some "wild.toml"))] (some "wild.toml"))],
  [("env", .scalar (.text "wild") (some "the environment")),
    ("generator.seed", .scalar (.whole 5) (some "the environment")),
    ("cluster.timeout_seconds", .scalar (.whole 9) (some "the environment"))]]

theorem layersOf_masked : layersOf maskedFiles maskingEnvironment "" = .ok maskedLayers := by
  have hcommon : layerOfFile maskedFiles "default.toml" = .ok maskedLayers[0] := by
    have hread : maskedFiles "default.toml" = .ok (Text.Utf8.encode maskedCommon) := by rfl
    have htext : Text.Utf8.decodeLossy (Text.Utf8.dropMark (Text.Utf8.encode maskedCommon)) =
        maskedCommon := by
      decide +kernel
    have hparse : Toml.parse? maskedCommon =
        some [("generator", .table [("seed", .text "none")]),
          ("zoo", .table [("moose", .flag true)])] := by
      cbv
    exact layerOfFile_of_parse (by rfl) hread htext hparse
  have hspecial : layerOfFile maskedFiles "wild.toml" = .ok maskedLayers[1] := by
    have hread : maskedFiles "wild.toml" = .ok (Text.Utf8.encode maskedSpecial) := by rfl
    have htext : Text.Utf8.decodeLossy (Text.Utf8.dropMark (Text.Utf8.encode maskedSpecial)) =
        maskedSpecial := by
      decide +kernel
    have hparse : Toml.parse? maskedSpecial =
        some [("cluster", .table [("timeout_seconds", .text "soon"),
          ("namespace", .text "park")])] := by
      cbv
    exact layerOfFile_of_parse (by rfl) hread htext hparse
  have hpaths : filesOf maskingEnvironment "" = ("default.toml", "wild.toml") := by rfl
  simp only [layersOf, hpaths, hcommon, hspecial]
  rfl

theorem isFlat_of_masked : ∀ layer ∈ maskedLayers, layer.IsFlat := by
  have hkeys : KeyPath.ofKey "generator" = [.name "generator"] ∧
      KeyPath.ofKey "zoo" = [.name "zoo"] ∧ KeyPath.ofKey "cluster" = [.name "cluster"] ∧
      KeyPath.ofKey "env" = [.name "env"] ∧
      KeyPath.ofKey "generator.seed" = [.name "generator", .name "seed"] ∧
      KeyPath.ofKey "cluster.timeout_seconds" = [.name "cluster", .name "timeout_seconds"] := by
    decide +kernel
  obtain ⟨hgenerator, hzoo, hcluster, henv, hseed, htimeout⟩ := hkeys
  simp only [maskedLayers, Layer.IsFlat, List.forall_mem_cons, List.not_mem_nil, false_imp_iff,
    implies_true, and_true, hgenerator, hzoo, hcluster, henv, hseed, htimeout]
  refine ⟨⟨?_, ?_⟩, ?_, ?_, .scalar .., .scalar ..⟩
  · exact isFlat_of_scalars _ _ (by simp)
  · exact isFlat_of_scalars _ _ (by simp)
  · exact isFlat_of_scalars _ _ (by simp)
  · exact .noSection _ _ _ fun f => by cases f <;> decide

/-- A seed and a time that are no numbers do not matter under variables that set them, nor does a
section of another program. -/
theorem load_takes_last_of_masked :
    layersOf maskedFiles maskingEnvironment "" = .ok maskedLayers ∧
      (∀ layer ∈ maskedLayers, layer.IsFlat) ∧
      load maskedFiles maskingEnvironment "" = .ok {
        cluster := { space := "park", timeoutSeconds := 9 }
        generator := { seed := some 5 } } := by
  obtain ⟨hload, -⟩ := load_takes_last layersOf_masked isFlat_of_masked
  refine ⟨layersOf_masked, isFlat_of_masked, (hload _).mpr ⟨fun f => ?_, by rfl⟩⟩
  cases f <;> rfl

end MooseHerd.Settings
