import MooseHerd.Proofs.Decimal.Whole
import MooseHerd.Proofs.Settings.Precedence
import MooseHerd.Proofs.Settings.Valid
import MooseHerd.Proofs.Text.Lowercase

/-! # A seed from the environment

A seed can be given by an option or by a variable. The option takes any number of 64 bits. The
variable is read as a whole number with a sign or else as a double before it is known to be a seed,
so that a seed with its first bit set loses some of its last ones. -/

namespace MooseHerd.Settings

open MooseHerd.Decimal

/-! ## What a variable makes of a seed -/

/-- The seed that a variable sets when a seed is written out in it. -/
def seedOfVariable (s : UInt64) : UInt64 :=
  if s.toNat < int64Size then s else (throughDouble s.toNat).toUInt64

/-- A variable keeps the seeds of 63 bits, of the others those that a double holds, and the last. -/
theorem seedOfVariable_eq_self_iff {s : UInt64} : seedOfVariable s = s ↔
    s.toNat < int64Size ∨ 2048 ∣ s.toNat ∨ s.toNat = UInt64.size - 1 := by
  rw [seedOfVariable]
  split
  · rename_i hsmall
    exact iff_of_true rfl (.inl hsmall)
  · rename_i hlarge
    have hsize : s.toNat < UInt64.size := s.toNat_lt
    rw [← throughDouble_eq_self_iff (Nat.not_lt.mp hlarge) hsize, or_iff_right hlarge,
      ← UInt64.toNat_inj]
    have hthrough : throughDouble s.toNat < UInt64.size :=
      Nat.lt_of_le_of_lt (Nat.min_le_right ..) (by decide)
    exact (Nat.mod_eq_of_lt hthrough).congr_left

theorem lowercase_toString (n : Nat) : Text.lowercase (toString n) = toString n := by
  have hsettled : ∀ c ∈ Nat.toDigits 10 n, Text.IsSettled c := by
    intro c hc
    have hdigit := isDigit_of_mem_toDigits hc
    rw [← toLower_of_isDigit hdigit]
    rw [Char.isDigit, Bool.and_eq_true, decide_eq_true_eq, decide_eq_true_eq] at hdigit
    exact Text.isSettled_toLower
      (Nat.lt_of_le_of_lt (UInt32.le_iff_toNat_le.mp hdigit.2) (by decide))
  rw [Text.lowercase, toList_toString, Text.lowerAfter_of_isSettled hsettled]
  rfl

theorem toString_ne_of_digits {word : String} (hword : ∃ c ∈ word.toList, c.isDigit = false)
    (n : Nat) : toString n ≠ word :=
  ofList_ne_of_digits (fun _ => isDigit_of_mem_toDigits) hword

theorem isInt64_natCast (n : Nat) : isInt64 n = decide (n < int64Size) := by
  rw [isInt64, show decide (-(int64Size : Int) ≤ n) = true from decide_eq_true (by omega),
    Bool.true_and]
  exact decide_eq_decide.mpr Int.ofNat_lt

theorem variableScalar_toString (s : UInt64) : variableScalar (toString s.toNat) =
    if s.toNat < int64Size then .whole s.toNat
    else .real (Float.ofBits (nearestBits s.toNat 1)) := by
  have hsize : s.toNat < UInt64.size := s.toNat_lt
  rw [variableScalar, lowercase_toString,
    if_neg (toString_ne_of_digits ⟨'t', by decide, by decide⟩ _),
    if_neg (toString_ne_of_digits ⟨'f', by decide, by decide⟩ _), integer?_toString,
    Option.filter_some, isInt64_natCast]
  by_cases hsmall : s.toNat < int64Size
  · rw [if_pos hsmall, if_pos (decide_eq_true hsmall)]
  · have hpos : 0 < s.toNat := Nat.lt_of_lt_of_le (by decide) (Nat.not_lt.mp hsmall)
    rw [if_neg hsmall, if_neg (by simpa using hsmall), real?_toString hpos hsize]

/-- A seed that is written out in a variable can always be read. -/
theorem read_variableScalar (s : UInt64) (origin : Option String) :
    Field.seed.read (some (.scalar (variableScalar (toString s)) origin)) =
      .ok (some (seedOfVariable s)) := by
  rw [Field.read, readAt, Field.decoder, show toString s = toString s.toNat from rfl,
    variableScalar_toString, seedOfVariable]
  split
  · show (decodeCount Field.seed.place (.scalar (.whole s.toNat) origin)).map some = _
    rw [decodeCount, if_pos (Int.natCast_nonneg _), Int.toNat_natCast]
    exact congrArg (fun n => Except.ok (some n)) s.ofNat_toNat
  · rename_i hlarge
    have hsize : s.toNat < UInt64.size := s.toNat_lt
    show (Except.ok (nearestCount _)).map some = _
    rw [nearestCount_nearest (Nat.not_lt.mp hlarge) hsize]
    rfl

/-! ## Values that differ in the seed -/

/-- A way that leads neither to the seed nor to what it lies in. -/
inductive LeavesSeed : KeyPath → Prop
  | elsewhere {outer : String} {rest : KeyPath} (h : outer ≠ "generator") :
    LeavesSeed (.name outer :: rest)
  | beside {inner : String} {rest : KeyPath} (h : inner ≠ "seed") :
    LeavesSeed (.name "generator" :: .name inner :: rest)

/-- The same values with `x` for the seed. The section of the generator is a table then. -/
structure IsSeeded (x below above : Value) : Prop where
  others : ∀ name, name ≠ "generator" → above.member? name = below.member? name
  generator : ∃ members origin, above.member? "generator" = some (.table members origin) ∧
    members.lookup "seed" = some x ∧
    ∀ name, name ≠ "seed" →
      members.lookup name = ((below.member? "generator").getD .nothing).member? name

section

variable {x below above : Value}

theorem isSeeded_change (s : Scalar) (origin : Option String) (below : Value) :
    IsSeeded (.scalar s origin) below
      (Value.change (Value.scalar s origin).onto [.name "generator", .name "seed"] below) where
  others name hname := by rw [Value.member?_change, if_neg hname]
  generator := by
    obtain ⟨members, torigin, htable⟩ := Value.change_eq_table (Value.scalar s origin).onto "seed"
      [] ((below.member? "generator").getD .nothing)
    have hmember : ∀ name, members.lookup name = if name = "seed" then some (.scalar s origin)
        else ((below.member? "generator").getD .nothing).member? name := by
      intro name
      have hlookup := Value.member?_change (Value.scalar s origin).onto "seed" name []
        ((below.member? "generator").getD .nothing)
      rw [htable, Value.change, Value.onto_scalar] at hlookup
      exact hlookup
    refine ⟨members, torigin, ?_, (hmember "seed").trans (if_pos rfl), fun name hname => ?_⟩
    · rw [Value.member?_change, if_pos rfl, htable]
    · exact (hmember name).trans (if_neg hname)

/-- Changes that leave the seed do not see it. -/
theorem IsSeeded.change (h : IsSeeded x below above) {way : KeyPath} (hway : LeavesSeed way)
    (f : Value → Value) : IsSeeded x (Value.change f way below) (Value.change f way above) := by
  obtain ⟨members, origin, hgenerator, hseed, hmembers⟩ := h.generator
  cases hway with
  | elsewhere houter =>
    rename_i outer rest
    constructor
    · intro name hname
      rw [Value.member?_change, Value.member?_change, h.others outer houter, h.others name hname]
    · refine ⟨members, origin, ?_, hseed, ?_⟩
      · rw [Value.member?_change, if_neg houter.symm, hgenerator]
      · rw [Value.member?_change, if_neg houter.symm]
        exact hmembers
  | beside hinner =>
    rename_i inner rest
    constructor
    · intro name hname
      rw [Value.member?_change, Value.member?_change, if_neg hname, if_neg hname,
        h.others name hname]
    · obtain ⟨members', origin', htable⟩ :=
        Value.change_eq_table f inner rest (.table members origin)
      have hmember : ∀ name, members'.lookup name =
          if name = inner then some (Value.change f rest ((members.lookup inner).getD .nothing))
          else members.lookup name := by
        intro name
        have hlookup := Value.member?_change f inner name rest (.table members origin)
        rw [htable] at hlookup
        exact hlookup
      refine ⟨members', origin', ?_, ?_, fun name hname => ?_⟩
      · rw [Value.member?_change, if_pos rfl, hgenerator, Option.getD_some, htable]
      · rw [hmember, if_neg hinner.symm, hseed]
      · rw [hmember, hmembers inner hinner, hmembers name hname, Value.member?_change, if_pos rfl,
          Option.getD_some, Value.member?_change]

theorem IsSeeded.addLayer {layer : Layer} (hlayer : ∀ e ∈ layer, LeavesSeed (KeyPath.ofKey e.1)) :
    ∀ {below above : Value}, IsSeeded x below above →
      IsSeeded x (Value.addLayer layer below) (Value.addLayer layer above) := by
  induction layer with
  | nil => exact fun h => h
  | cons entry rest ih =>
    intro below above h
    exact ih (fun e he => hlayer e (List.mem_cons_of_mem _ he))
      (h.change (hlayer entry List.mem_cons_self) _)

end

/-! ## Settings that differ in the seed -/

/-- Whether the section of the generator is written as a list. -/
def hasListedGenerator (root : Value) : Bool :=
  match root.member? "generator" with
  | some (.list _ _) => true
  | _ => false

/-- The settings of the generator that are kept when one of them is set by its name. A list holds
none by name, so that nothing is left of it. -/
def keptGenerator (root : Value) (g : GeneratorSettings) : GeneratorSettings :=
  if hasListedGenerator root then {} else g

/-- What is read by name from the section of the generator is what is kept of it. -/
theorem read_keptGenerator {root : Value} {g : GeneratorSettings}
    (hg : readAt decodeGenerator "generator" {} (root.member? "generator") = .ok g) :
    let named := fun f : Field => f.read (((root.member? "generator").getD .nothing).member? f.name)
    named .letter = .ok (keptGenerator root g).letter ∧
      named .maxNameAttempts = .ok (keptGenerator root g).maxNameAttempts ∧
      named .park = .ok (keptGenerator root g).park := by
  rw [keptGenerator, hasListedGenerator]
  cases hv : root.member? "generator" with
  | none =>
    rw [hv] at hg
    cases hg
    exact ⟨rfl, rfl, rfl⟩
  | some v =>
    rw [hv] at hg
    cases v with
    | scalar s origin =>
      obtain ⟨ms, hms, -⟩ := bind_eq_ok.mp hg
      cases hms
    | list items origin => exact ⟨rfl, rfl, rfl⟩
    | table members origin =>
      obtain ⟨hletter, hattempts, -, hpark⟩ :=
        generatorOf_eq_ok_iff.mp ((decodeGenerator_table members origin).symm.trans hg)
      exact ⟨hletter, hattempts, hpark⟩

theorem decodeGenerator_of_isSeeded {x below above : Value} {g : GeneratorSettings} {n : UInt64}
    (h : IsSeeded x below above) (hx : Field.seed.read (some x) = .ok (some n))
    (hg : readAt decodeGenerator "generator" {} (below.member? "generator") = .ok g) :
    readAt decodeGenerator "generator" {} (above.member? "generator") =
      .ok { keptGenerator below g with seed := some n } := by
  obtain ⟨members, origin, hgenerator, hseed, hmembers⟩ := h.generator
  obtain ⟨hletter, hattempts, hpark⟩ := read_keptGenerator hg
  rw [hgenerator]
  refine (decodeGenerator_table members origin).trans (generatorOf_eq_ok_iff.mpr ⟨?_, ?_, ?_, ?_⟩)
  · rw [hmembers _ (by decide)]
    exact hletter
  · rw [hmembers _ (by decide)]
    exact hattempts
  · rw [show members.lookup Field.seed.name = some x from hseed, hx]
  · rw [hmembers _ (by decide)]
    exact hpark

theorem decode_of_isSeeded {x below above : Value} {s : Settings} {n : UInt64}
    (h : IsSeeded x below above) (hx : Field.seed.read (some x) = .ok (some n))
    (hs : decode below = .ok s) :
    decode above =
      .ok { s with generator := { keptGenerator below s.generator with seed := some n } } := by
  obtain ⟨hcluster, hresource, hgenerator, hobservability⟩ := decode_eq_ok_iff.mp hs
  refine decode_eq_ok_iff.mpr ⟨?_, ?_, decodeGenerator_of_isSeeded h hx hgenerator, ?_⟩
  · rw [h.others "cluster" (by decide), hcluster]
  · rw [h.others "resource" (by decide), hresource]
  · rw [h.others "observability" (by decide), hobservability]

theorem isValid_default : IsValid {} := isValid_of_validate (by rfl)

theorem designatedLetter_seed (g : GeneratorSettings) (seed : Option UInt64) :
    GeneratorSettings.designatedLetter { g with seed } = g.designatedLetter := rfl

theorem isValid_of_keptGenerator {root : Value} {s : Settings} (h : s.IsValid)
    (seed : Option UInt64) :
    IsValid { s with generator := { keptGenerator root s.generator with seed } } := by
  have hkept : (∃ c, (keptGenerator root s.generator).designatedLetter = .ok c) ∧
      0 < (keptGenerator root s.generator).maxNameAttempts := by
    rw [keptGenerator]
    split
    · exact ⟨isValid_default.letter, isValid_default.attempts⟩
    · exact ⟨h.letter, h.attempts⟩
  obtain ⟨⟨c, hletter⟩, hattempts⟩ := hkept
  exact ⟨⟨c, (designatedLetter_seed _ seed).trans hletter⟩, hattempts, h.endpoint, h.space,
    h.layout⟩

/-! ## The variable and the option -/

theorem lookup_insert {key name value : String} (before after : Environment) (h : key ≠ name) :
    (before ++ (name, value) :: after).lookup key = (before ++ after).lookup key := by
  rw [List.lookup_append, List.lookup_append, Keys.lookup_cons_of_ne h]

theorem layerOfEnvironment_insert (before after : Environment) (v : String) :
    layerOfEnvironment (before ++ ("MOOSE_GENERATOR__SEED", v) :: after) =
      layerOfEnvironment before ++
        ("generator.seed", .scalar (variableScalar v) (some "the environment")) ::
          layerOfEnvironment after := by
  have hkey : variableKey? "MOOSE_GENERATOR__SEED" = some "generator.seed" := by decide +kernel
  rw [layerOfEnvironment, List.filterMap_append, List.filterMap_cons]
  simp only [hkey, Option.map_some]
  rfl

section

variable {files : Files.Reader} {before after : Environment} {dir : String} {layers : List Layer}
  (hlayers : layersOf files (before ++ after) dir = .ok layers)
  (hothers : ∀ e ∈ before ++ after, ∀ key, variableKey? e.1 = some key →
    LeavesSeed (KeyPath.ofKey key))

include hlayers hothers

/-- A variable with a seed changes only the seed of the values that settings are read from. -/
theorem exists_layers_of_seed (v : String) : ∃ layers',
    layersOf files (before ++ ("MOOSE_GENERATOR__SEED", v) :: after) dir = .ok layers' ∧
      IsSeeded (.scalar (variableScalar v) (some "the environment")) (Value.ofLayers layers)
        (Value.ofLayers layers') := by
  obtain ⟨common, hcommon, hlayers⟩ := bind_eq_ok.mp hlayers
  obtain ⟨special, hspecial, hlayers⟩ := bind_eq_ok.mp hlayers
  cases hlayers
  have hpaths : filesOf (before ++ ("MOOSE_GENERATOR__SEED", v) :: after) dir =
      filesOf (before ++ after) dir := by
    rw [filesOf, filesOf, lookup_insert before after (by decide)]
  refine ⟨[common, special,
    layerOfEnvironment (before ++ ("MOOSE_GENERATOR__SEED", v) :: after)], ?_, ?_⟩
  · rw [layersOf, hpaths]
    exact bind_eq_ok.mpr ⟨common, hcommon, bind_eq_ok.mpr ⟨special, hspecial, rfl⟩⟩
  · have hkey : KeyPath.ofKey "generator.seed" = [.name "generator", .name "seed"] := by
      decide +kernel
    have hleaves : ∀ e ∈ layerOfEnvironment after, LeavesSeed (KeyPath.ofKey e.1) := by
      intro entry hentry
      obtain ⟨e, he, hentry⟩ := List.mem_filterMap.mp hentry
      obtain ⟨key, hkey, rfl⟩ := Option.map_eq_some_iff.mp hentry
      exact hothers e (List.mem_append_right before he) key hkey
    have hfiles : ∀ layer, Value.ofLayers [common, special, layer] =
        Value.addLayer layer (Value.addLayer special (Value.addLayer common (.table [] none))) :=
      fun _ => rfl
    rw [hfiles, hfiles, layerOfEnvironment_insert,
      show layerOfEnvironment (before ++ after) = _ from List.filterMap_append,
      Value.addLayer_append, Value.addLayer_append, Value.addLayer_cons, hkey]
    exact (isSeeded_change _ _ _).addLayer hleaves

/-- A variable with a seed loads the settings that load without it, with what the variable makes of
the seed. -/
theorem load_of_seed {c : Settings} (hload : load files (before ++ after) dir = .ok c)
    (s : UInt64) :
    load files (before ++ ("MOOSE_GENERATOR__SEED", toString s) :: after) dir =
      .ok { c with generator :=
        { keptGenerator (Value.ofLayers layers) c.generator with
          seed := some (seedOfVariable s) } } := by
  obtain ⟨layers', hlayers', hseeded⟩ := exists_layers_of_seed hlayers hothers (toString s)
  rw [load_of_layersOf hlayers] at hload
  rw [load_of_layersOf hlayers']
  obtain ⟨given, hgiven, hload⟩ := bind_eq_ok.mp hload
  obtain ⟨_, hvalid, hload⟩ := bind_eq_ok.mp hload
  cases hload
  have hdecode := decode_of_isSeeded hseeded (read_variableScalar s _) (mapError_eq_ok.mp hgiven)
  refine bind_eq_ok.mpr ⟨_, mapError_eq_ok.mpr hdecode, bind_eq_ok.mpr ⟨(), ?_, rfl⟩⟩
  exact (isValid_of_keptGenerator (isValid_of_validate hvalid) _).validate_eq

end

/-- **A variable sets the seed that the option sets, as far as a double tells it from others.** The
settings are those of the option if the seed has 63 bits, or is a multiple of 2048, or the last one;
any other seed is rounded. A section of the generator that is written as a list is lost besides,
since the variable turns it into a table. -/
theorem seed_of_variable {files : Files.Reader} {before after : Environment} {dir : String}
    {layers : List Layer} {c : Settings} {i : CommandLine.Invocation} {s : UInt64}
    (hlayers : layersOf files (before ++ after) dir = .ok layers)
    (hothers : ∀ e ∈ before ++ after, ∀ key, variableKey? e.1 = some key →
      LeavesSeed (KeyPath.ofKey key))
    (hload : load files (before ++ after) dir = .ok c) (hseed : i.seed = some s)
    (hlevel : i.logLevel = none) :
    let env := before ++ ("MOOSE_GENERATOR__SEED", toString s) :: after
    let kept := keptGenerator (Value.ofLayers layers) c.generator
    load files env dir = .ok { c with generator := { kept with seed := some (seedOfVariable s) } } ∧
    (load files env dir = .ok (i.override c) ↔
      (s.toNat < int64Size ∨ 2048 ∣ s.toNat ∨ s.toNat = UInt64.size - 1) ∧
        { kept with seed := none } = { c.generator with seed := none }) := by
  intro env kept
  have hvariable : load files env dir =
      .ok { c with generator := { kept with seed := some (seedOfVariable s) } } :=
    load_of_seed hlayers hothers hload s
  have hoption : i.override c = { c with generator := { c.generator with seed := some s } } := by
    rw [CommandLine.Invocation.override, hseed, hlevel]
    rfl
  refine ⟨hvariable, ?_⟩
  rw [hvariable, hoption, ← seedOfVariable_eq_self_iff]
  constructor
  · intro h
    simp only [Except.ok.injEq, Settings.mk.injEq, GeneratorSettings.mk.injEq, Option.some.injEq,
      true_and, and_true] at h
    obtain ⟨hletter, hattempts, hsame, hpark⟩ := h
    exact ⟨hsame, by rw [hletter, hattempts, hpark]⟩
  · rintro ⟨hsame, hkept⟩
    simp only [GeneratorSettings.mk.injEq, true_and] at hkept
    obtain ⟨hletter, hattempts, hpark⟩ := hkept
    rw [hsame, hletter, hattempts, hpark]

/-- A seed with 64 bits that is a multiple of 2048 is kept, beside a letter from the environment. -/
theorem seed_of_variable_of_multiple :
    let files := FileTree.read {}
    let before : Environment := [("MOOSE_ENV", "wild")]
    let after : Environment := [("MOOSE_GENERATOR__LETTER", "A")]
    let c : Settings := { generator := { letter := "A" } }
    let i : CommandLine.Invocation := { count := 1, seed := some 9223372036854777856 }
    load files (before ++ after) "" = .ok c ∧
      load files (before ++ ("MOOSE_GENERATOR__SEED", "9223372036854777856") :: after) "" =
        .ok (i.override c) := by
  intro files before after c i
  have hlayers : layersOf (FileTree.read {})
      ([("MOOSE_ENV", "wild")] ++ [("MOOSE_GENERATOR__LETTER", "A")]) "" =
        .ok [[], [], [("env", .scalar (.text "wild") (some "the environment")),
          ("generator.letter", .scalar (.text "A") (some "the environment"))]] := by rfl
  have hothers : ∀ e ∈ before ++ after, ∀ key, variableKey? e.1 = some key →
      LeavesSeed (KeyPath.ofKey key) := by
    intro e he key hkey
    rcases List.mem_append.mp he with he | he
    · obtain rfl := List.mem_singleton.mp he
      have henv : variableKey? "MOOSE_ENV" = some "env" := by decide +kernel
      cases henv.symm.trans hkey
      rw [show KeyPath.ofKey "env" = [.name "env"] by decide +kernel]
      exact .elsewhere (by decide)
    · obtain rfl := List.mem_singleton.mp he
      have hletter : variableKey? "MOOSE_GENERATOR__LETTER" = some "generator.letter" := by
        decide +kernel
      cases hletter.symm.trans hkey
      rw [show KeyPath.ofKey "generator.letter" = [.name "generator", .name "letter"] by
        decide +kernel]
      exact .beside (by decide)
  have hload : load (FileTree.read {})
      ([("MOOSE_ENV", "wild")] ++ [("MOOSE_GENERATOR__LETTER", "A")]) "" =
        .ok { generator := { letter := "A" } } := by rfl
  have htext : toString (9223372036854777856 : UInt64) = "9223372036854777856" := by
    decide +kernel
  obtain ⟨-, hsame⟩ := seed_of_variable (i := i) hlayers hothers hload rfl rfl
  refine ⟨hload, ?_⟩
  rw [← htext]
  exact hsame.mpr ⟨.inr (.inl (by decide +kernel)), by rfl⟩

/-- The first seed that a variable cannot set, by which the herd of another seed is made. -/
theorem seed_rounded_by_variable :
    let files := FileTree.read {}
    let i : CommandLine.Invocation := { count := 1, seed := some 9223372036854775809 }
    load files [] "" = .ok {} ∧
      load files [("MOOSE_GENERATOR__SEED", "9223372036854775809")] "" =
        .ok { generator := { seed := some 9223372036854775808 } } ∧
      (i.override {}).generator.seed = some 9223372036854775809 := by
  exact ⟨by rfl, by rfl, by rfl⟩

end MooseHerd.Settings
