import MooseHerd.Proofs.Settings.Fields

/-! # Texts from the environment

The value of a variable is read as a truth value or a number before it is known which field it is
for. A field for texts gets it written out again, so its spelling is lost if it reads as one. -/

namespace MooseHerd.Settings

/-- Whether a field holds a text, if anything. -/
def Field.holdsText : Field → Bool
  | insecureSkipTlsVerify | timeoutSeconds | maxNameAttempts | seed => false
  | _ => true

/-- The text among what a field may hold. -/
def Field.text? : (f : Field) → f.Carrier → Option String
  | endpoint, s | space, s | group, s | version, s | plural, s | kind, s | letter, s | park, s
  | logLevel, s | logFormat, s => some s
  | token, s | tokenFile, s | caCertFile, s => s
  | insecureSkipTlsVerify, _ | timeoutSeconds, _ | maxNameAttempts, _ | seed, _ => none

/-- A field for a text. -/
structure TextField where
  field : Field
  holdsText : field.holdsText = true

namespace TextField

def token : TextField := ⟨.token, rfl⟩

/-- The variable that sets the field. -/
def variableName (f : TextField) : String := f.field.variableName

/-- The text in the field, if there is one. -/
def get (f : TextField) (s : Settings) : Option String := f.field.text? (f.field.get s)

end TextField

/-! ## Spelling -/

/-- A scalar as the text that a field gets. -/
def Scalar.written : Scalar → String
  | nothing => ""
  | flag b => flagText b
  | whole n => toString n
  | real x => Decimal.textLayout.text x
  | text s => s

/-- The text `w` that a field gets from a variable with the value `v`. -/
inductive TakenAs (v : String) : String → Prop
  /-- A truth value in any case is put in lower case. -/
  | truth (b : Bool) (h : Text.lowercase v = flagText b) : TakenAs v (flagText b)
  /-- A whole number of 64 bits loses leading zeros and a plus sign. -/
  | whole (n : Int) (hword : ∀ b, Text.lowercase v ≠ flagText b)
      (h : Decimal.integer? v = some n) (hn : Decimal.isInt64 n = true) : TakenAs v (toString n)
  /-- Any other number becomes the nearest double, in as few digits as tell it from the others. -/
  | real (x : Float) (hword : ∀ b, Text.lowercase v ≠ flagText b)
      (hwhole : ∀ n, Decimal.integer? v = some n → Decimal.isInt64 n = false)
      (h : Decimal.real? v = some x) : TakenAs v (Decimal.textLayout.text x)
  /-- Everything else is taken as it is written. -/
  | asWritten (hword : ∀ b, Text.lowercase v ≠ flagText b)
      (hwhole : ∀ n, Decimal.integer? v = some n → Decimal.isInt64 n = false)
      (hreal : Decimal.real? v = none) : TakenAs v v

/-- Whether a text reads as a truth value or as a number. -/
def ReadsAsValue (v : String) : Prop :=
  (∃ b, Text.lowercase v = flagText b) ∨
    (∃ n, Decimal.integer? v = some n ∧ Decimal.isInt64 n = true) ∨ (Decimal.real? v).isSome = true

theorem takenAs_variableScalar (v : String) : TakenAs v (variableScalar v).written := by
  unfold variableScalar
  dsimp only
  split
  · rename_i htrue
    exact .truth true htrue
  · rename_i htrue
    split
    · rename_i hfalse
      exact .truth false hfalse
    · rename_i hfalse
      have hword : ∀ b, Text.lowercase v ≠ flagText b := by
        intro b
        cases b with
        | true => exact htrue
        | false => exact hfalse
      have hwhole : (Decimal.integer? v).filter Decimal.isInt64 = none →
          ∀ n, Decimal.integer? v = some n → Decimal.isInt64 n = false := by
        intro hnone n hn
        rw [hn, Option.filter_eq_none_iff] at hnone
        exact Bool.eq_false_iff.mpr (hnone n rfl)
      split
      · rename_i n hn
        obtain ⟨hread, hsize⟩ := Option.filter_eq_some_iff.mp hn
        exact .whole n hword hread hsize
      · rename_i x hnone hx
        exact .real x hword (hwhole hnone) hx
      · rename_i hnone hx
        exact .asWritten hword (hwhole hnone) hx

theorem eq_of_takenAs {v w : String} (h : TakenAs v w) (hv : ¬ ReadsAsValue v) : w = v := by
  cases h with
  | truth b h => exact absurd (.inl ⟨b, h⟩) hv
  | whole n _ h hn => exact absurd (.inr (.inl ⟨n, h, hn⟩)) hv
  | real x _ _ h => exact absurd (.inr (.inr (by rw [h]; rfl))) hv
  | asWritten => rfl

theorem variableScalar_ne_nothing (v : String) : variableScalar v ≠ .nothing := by
  unfold variableScalar
  dsimp only
  repeat' split
  all_goals exact nofun

/-! ## Fields -/

theorem decodeText_scalar {s : Scalar} (h : s ≠ .nothing) (place : Place) (origin : Option String) :
    decodeText place (.scalar s origin) = .ok s.written := by
  cases s with
  | nothing => exact absurd rfl h
  | _ => rfl

theorem decodeOptional_scalar {s : Scalar} (h : s ≠ .nothing) (place : Place)
    (origin : Option String) :
    decodeOptional decodeText place (.scalar s origin) = .ok (some s.written) := by
  cases s with
  | nothing => exact absurd rfl h
  | _ => rfl

/-- A scalar at the place of a field for texts is what the field holds, written out. -/
theorem TextField.get_of_decode (f : TextField) {root : Value} {settings : Settings} {s : Scalar}
    {origin : Option String} (h : decode root = .ok settings) (hs : s ≠ .nothing)
    (hx : f.field.find? root = some (.scalar s origin)) : f.get settings = some s.written := by
  have hread := f.field.read_of_decode h hx
  obtain ⟨field, hholds⟩ := f
  cases field with
  | insecureSkipTlsVerify | timeoutSeconds | maxNameAttempts | seed => cases hholds
  | token | tokenFile | caCertFile =>
    exact (Except.ok.inj ((decodeOptional_scalar hs _ origin).symm.trans hread)).symm
  | _ => exact congrArg some (Except.ok.inj ((decodeText_scalar hs _ origin).symm.trans hread)).symm

/-! ## Overrides -/

/-- A variable is the only one of an environment that sets something. The one that names the
surroundings sets no field. -/
def IsOnlyOverride (name v : String) (env : Environment) : Prop :=
  (name, v) ∈ env ∧
    ∀ e ∈ env, e = (name, v) ∨ variableKey? e.1 = none ∨ variableKey? e.1 = some "env"

theorem Field.sectionName_ne_env (f : Field) : f.sectionName ≠ "env" := by
  cases f <;> decide

/-- The only override of an environment ends up in the value that the settings are read from,
whatever the layers below it. -/
theorem Field.find?_layerOfEnvironment {f : Field} {v : String} {env : Environment}
    (h : IsOnlyOverride f.variableName v env) (below : Value) :
    f.find? (Value.addLayer (layerOfEnvironment env) below) =
      some (.scalar (variableScalar v) (some "the environment")) := by
  obtain ⟨hset, honly⟩ := h
  refine Value.within?_addLayer below f.ofKey_key ?_ fun entry hentry => ?_
  · refine List.mem_filterMap.mpr ⟨_, hset, ?_⟩
    show (variableKey? f.variableName).map _ = _
    rw [f.variableKey?_variableName]
    rfl
  · obtain ⟨e, he, hentry⟩ := List.mem_filterMap.mp hentry
    obtain ⟨key, hkey, rfl⟩ := Option.map_eq_some_iff.mp hentry
    rcases honly e he with rfl | hnone | henv
    · left
      rw [Option.some.inj (hkey.symm.trans f.variableKey?_variableName)]
    · rw [hkey] at hnone
      cases hnone
    · right
      cases Option.some.inj (hkey.symm.trans henv)
      exact ⟨"env", [], show KeyPath.ofKey "env" = [.name "env"] by decide +kernel,
        f.sectionName_ne_env⟩

/-- Settings that load have been read from the layers of the files with the environment on top. -/
theorem decode_of_load {files : Files.Reader} {env : Environment} {dir : String} {s : Settings}
    (h : load files env dir = .ok s) :
    ∃ below, decode (Value.addLayer (layerOfEnvironment env) below) = .ok s := by
  obtain ⟨common, -, h⟩ := bind_eq_ok.mp h
  obtain ⟨special, -, h⟩ := bind_eq_ok.mp h
  obtain ⟨settings, hdecode, h⟩ := bind_eq_ok.mp h
  obtain ⟨-, -, h⟩ := bind_eq_ok.mp h
  cases h
  refine ⟨Value.addLayer special (Value.addLayer common (.table [] none)), ?_⟩
  cases hread : decode (Value.ofLayers [common, special, layerOfEnvironment env]) with
  | error e =>
    rw [hread] at hdecode
    cases hdecode
  | ok settings =>
    rw [hread] at hdecode
    cases hdecode
    exact hread

/-- A field for texts that a variable sets holds the value of the variable as it is written, unless
that reads as a truth value or as a number. Then it holds the plainest spelling of what was read. -/
theorem text_of_override (f : TextField) {files : Files.Reader} {env : Environment}
    {dir v : String} {s : Settings} (honly : IsOnlyOverride f.variableName v env)
    (hload : load files env dir = .ok s) :
    ∃ w, f.get s = some w ∧ TakenAs v w ∧ (¬ ReadsAsValue v → w = v) := by
  obtain ⟨below, hdecode⟩ := decode_of_load hload
  have hget : f.get s = some (variableScalar v).written :=
    f.get_of_decode hdecode (variableScalar_ne_nothing v)
      (f.field.find?_layerOfEnvironment honly below)
  have htaken := takenAs_variableScalar v
  exact ⟨_, hget, htaken, eq_of_takenAs htaken⟩

/-- A token with a letter among its digits reads as no number and stays as it is. -/
theorem text_of_override_of_token :
    let env : Environment := [("MOOSE_ENV", "wild"), ("MOOSE_CLUSTER__TOKEN", "0x07")]
    let s : Settings := { cluster := { token := some "0x07" } }
    IsOnlyOverride TextField.token.variableName "0x07" env ∧
      load (FileTree.read {}) env "settings" = .ok s ∧ ¬ ReadsAsValue "0x07" ∧
      ∃ w, TextField.token.get s = some w ∧ TakenAs "0x07" w ∧ w = "0x07" := by
  intro env s
  have honly : IsOnlyOverride TextField.token.variableName "0x07" env := by
    refine ⟨by decide +kernel, fun e he => ?_⟩
    rcases List.mem_cons.mp he with rfl | he
    · exact .inr (.inr (by decide +kernel))
    · rw [List.mem_singleton.mp he]
      exact .inl (by decide +kernel)
  have hload : load (FileTree.read {})
      [("MOOSE_ENV", "wild"), ("MOOSE_CLUSTER__TOKEN", "0x07")] "settings" =
        .ok { cluster := { token := some "0x07" } } := by rfl
  have hplain : ¬ ReadsAsValue "0x07" := by
    rintro (⟨b, hb⟩ | ⟨n, hn, -⟩ | hx)
    · exact absurd hb (by revert b; decide +kernel)
    · rw [show Decimal.integer? "0x07" = none by decide +kernel] at hn
      cases hn
    · exact absurd hx (by decide +kernel)
  obtain ⟨w, hw, htaken, heq⟩ := text_of_override .token honly hload
  exact ⟨honly, hload, hplain, w, hw, htaken, heq hplain⟩

/-- A token of digits loses the zeros in front, though no other variable sets anything. -/
theorem token_loses_zeros :
    let env : Environment := [("MOOSE_CLUSTER__TOKEN", "007")]
    IsOnlyOverride TextField.token.variableName "007" env ∧
      ∃ s, load (FileTree.read {}) env "settings" = .ok s ∧ TextField.token.get s = some "7" := by
  intro env
  have hload : load (FileTree.read {}) [("MOOSE_CLUSTER__TOKEN", "007")] "settings" =
      .ok { cluster := { token := some "7" } } := by rfl
  refine ⟨⟨by decide +kernel, fun e he => .inl ?_⟩, _, hload, rfl⟩
  rw [List.mem_singleton.mp he]
  decide +kernel

end MooseHerd.Settings
