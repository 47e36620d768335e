import MooseHerd.Proofs.Settings.Values

/-! # Settings field by field

A field is read from one place of a table of sections, and its section from nothing else. So
settings are told by what is found at the places of their fields, and so is the error where they
cannot be read. -/

namespace MooseHerd.Settings

/-- The fields of settings. -/
inductive Field where
  | endpoint | token | tokenFile | caCertFile | insecureSkipTlsVerify | space | timeoutSeconds
  | group | version | plural | kind
  | letter | maxNameAttempts | seed | park
  | logLevel | logFormat
  deriving DecidableEq

namespace Field

def sectionName : Field → String
  | endpoint | token | tokenFile | caCertFile | insecureSkipTlsVerify | space | timeoutSeconds =>
    "cluster"
  | group | version | plural | kind => "resource"
  | letter | maxNameAttempts | seed | park => "generator"
  | logLevel | logFormat => "observability"

def name : Field → String
  | endpoint => "endpoint"
  | token => "token"
  | tokenFile => "token_file"
  | caCertFile => "ca_cert_file"
  | insecureSkipTlsVerify => "insecure_skip_tls_verify"
  | space => "namespace"
  | timeoutSeconds => "timeout_seconds"
  | group => "group"
  | version => "version"
  | plural => "plural"
  | kind => "kind"
  | letter => "letter"
  | maxNameAttempts => "max_name_attempts"
  | seed => "seed"
  | park => "park"
  | logLevel => "log_level"
  | logFormat => "log_format"

/-- The type of what a field holds. -/
@[reducible]
def Carrier : Field → Type
  | endpoint | space | group | version | plural | kind | letter | park | logLevel | logFormat =>
    String
  | token | tokenFile | caCertFile => Option String
  | insecureSkipTlsVerify => Bool
  | timeoutSeconds | maxNameAttempts => Nat
  | seed => Option UInt64

/-- What a field holds. -/
def get (s : Settings) : (f : Field) → f.Carrier
  | endpoint => s.cluster.endpoint
  | token => s.cluster.token
  | tokenFile => s.cluster.tokenFile
  | caCertFile => s.cluster.caCertFile
  | insecureSkipTlsVerify => s.cluster.insecureSkipTlsVerify
  | space => s.cluster.space
  | timeoutSeconds => s.cluster.timeoutSeconds
  | group => s.resource.group
  | version => s.resource.version
  | plural => s.resource.plural
  | kind => s.resource.kind
  | letter => s.generator.letter
  | maxNameAttempts => s.generator.maxNameAttempts
  | seed => s.generator.seed
  | park => s.generator.park
  | logLevel => s.observability.logLevel
  | logFormat => s.observability.logFormat

/-- How the value of a field is converted to its type. -/
def decoder : (f : Field) → Decoder f.Carrier
  | endpoint | space | group | version | plural | kind | letter | park | logLevel | logFormat =>
    decodeText
  | token | tokenFile | caCertFile => decodeOptional decodeText
  | insecureSkipTlsVerify => decodeFlag
  | timeoutSeconds | maxNameAttempts => fun place v => (decodeCount place v).map UInt64.toNat
  | seed => decodeOptional decodeCount

def place (f : Field) : Place := Place.member f.sectionName f.name

/-- What is found at the place of a field. -/
def find? (f : Field) (root : Value) : Option Value := root.within? f.sectionName f.name

/-- A field from what is found at its place. -/
def read (f : Field) : Option Value → Except Fault f.Carrier :=
  readAt f.decoder f.place (f.get {})

/-- The key of a field within the layers of settings. -/
def key (f : Field) : String := f.sectionName ++ "." ++ f.name

/-- The variable that sets a field. -/
def variableName (f : Field) : String :=
  "MOOSE_" ++ f.sectionName.toUpper ++ "__" ++ f.name.toUpper

theorem variableKey?_variableName (f : Field) : variableKey? f.variableName = some f.key := by
  cases f <;> decide +kernel

theorem ofKey_key (f : Field) : KeyPath.ofKey f.key = [.name f.sectionName, .name f.name] := by
  cases f <;> decide +kernel

end Field

section

variable (fields : (f : Field) → Except Fault f.Carrier)

def clusterOf : Except Fault ClusterSettings := do
  return {
    endpoint := ← fields .endpoint
    token := ← fields .token
    tokenFile := ← fields .tokenFile
    caCertFile := ← fields .caCertFile
    insecureSkipTlsVerify := ← fields .insecureSkipTlsVerify
    space := ← fields .space
    timeoutSeconds := ← fields .timeoutSeconds }

def resourceOf : Except Fault ResourceSettings := do
  return {
    group := ← fields .group
    version := ← fields .version
    plural := ← fields .plural
    kind := ← fields .kind }

def generatorOf : Except Fault GeneratorSettings := do
  return {
    letter := ← fields .letter
    maxNameAttempts := ← fields .maxNameAttempts
    seed := ← fields .seed
    park := ← fields .park }

def observabilityOf : Except Fault ReportSettings := do
  return {
    logLevel := ← fields .logLevel
    logFormat := ← fields .logFormat }

/-- Settings from their fields. If some cannot be had, the first of these tells why. -/
def ofFields : Except Fault Settings := do
  return {
    cluster := ← clusterOf fields
    resource := ← resourceOf fields
    generator := ← generatorOf fields
    observability := ← observabilityOf fields }

variable {fields}

theorem clusterOf_eq_ok_iff {c : ClusterSettings} : clusterOf fields = .ok c ↔
    fields .endpoint = .ok c.endpoint ∧ fields .token = .ok c.token ∧
    fields .tokenFile = .ok c.tokenFile ∧ fields .caCertFile = .ok c.caCertFile ∧
    fields .insecureSkipTlsVerify = .ok c.insecureSkipTlsVerify ∧ fields .space = .ok c.space ∧
    fields .timeoutSeconds = .ok c.timeoutSeconds := by
  constructor
  · intro h
    obtain ⟨endpoint, hendpoint, h⟩ := bind_eq_ok.mp h
    obtain ⟨token, htoken, h⟩ := bind_eq_ok.mp h
    obtain ⟨tokenFile, htokenFile, h⟩ := bind_eq_ok.mp h
    obtain ⟨caCertFile, hcaCertFile, h⟩ := bind_eq_ok.mp h
    obtain ⟨insecure, hinsecure, h⟩ := bind_eq_ok.mp h
    obtain ⟨space, hspace, h⟩ := bind_eq_ok.mp h
    obtain ⟨timeout, htimeout, h⟩ := bind_eq_ok.mp h
    cases h
    exact ⟨hendpoint, htoken, htokenFile, hcaCertFile, hinsecure, hspace, htimeout⟩
  · rintro ⟨hendpoint, htoken, htokenFile, hcaCertFile, hinsecure, hspace, htimeout⟩
    simp only [clusterOf, hendpoint, htoken, htokenFile, hcaCertFile, hinsecure, hspace, htimeout]
    rfl

theorem resourceOf_eq_ok_iff {r : ResourceSettings} : resourceOf fields = .ok r ↔
    fields .group = .ok r.group ∧ fields .version = .ok r.version ∧
    fields .plural = .ok r.plural ∧ fields .kind = .ok r.kind := by
  constructor
  · intro h
    obtain ⟨group, hgroup, h⟩ := bind_eq_ok.mp h
    obtain ⟨version, hversion, h⟩ := bind_eq_ok.mp h
    obtain ⟨plural, hplural, h⟩ := bind_eq_ok.mp h
    obtain ⟨kind, hkind, h⟩ := bind_eq_ok.mp h
    cases h
    exact ⟨hgroup, hversion, hplural, hkind⟩
  · rintro ⟨hgroup, hversion, hplural, hkind⟩
    simp only [resourceOf, hgroup, hversion, hplural, hkind]
    rfl

theorem generatorOf_eq_ok_iff {g : GeneratorSettings} : generatorOf fields = .ok g ↔
    fields .letter = .ok g.letter ∧ fields .maxNameAttempts = .ok g.maxNameAttempts ∧
    fields .seed = .ok g.seed ∧ fields .park = .ok g.park := by
  constructor
  · intro h
    obtain ⟨letter, hletter, h⟩ := bind_eq_ok.mp h
    obtain ⟨attempts, hattempts, h⟩ := bind_eq_ok.mp h
    obtain ⟨seed, hseed, h⟩ := bind_eq_ok.mp h
    obtain ⟨park, hpark, h⟩ := bind_eq_ok.mp h
    cases h
    exact ⟨hletter, hattempts, hseed, hpark⟩
  · rintro ⟨hletter, hattempts, hseed, hpark⟩
    simp only [generatorOf, hletter, hattempts, hseed, hpark]
    rfl

theorem observabilityOf_eq_ok_iff {r : ReportSettings} : observabilityOf fields = .ok r ↔
    fields .logLevel = .ok r.logLevel ∧ fields .logFormat = .ok r.logFormat := by
  constructor
  · intro h
    obtain ⟨level, hlevel, h⟩ := bind_eq_ok.mp h
    obtain ⟨format, hformat, h⟩ := bind_eq_ok.mp h
    cases h
    exact ⟨hlevel, hformat⟩
  · rintro ⟨hlevel, hformat⟩
    simp only [observabilityOf, hlevel, hformat]
    rfl

/-- Settings are had if and only if each of their fields is. -/
theorem ofFields_eq_ok_iff {s : Settings} :
    ofFields fields = .ok s ↔ ∀ f : Field, fields f = .ok (f.get s) := by
  constructor
  · intro h
    obtain ⟨cluster, hcluster, h⟩ := bind_eq_ok.mp h
    obtain ⟨resource, hresource, h⟩ := bind_eq_ok.mp h
    obtain ⟨generator, hgenerator, h⟩ := bind_eq_ok.mp h
    obtain ⟨observability, hobservability, h⟩ := bind_eq_ok.mp h
    cases h
    obtain ⟨hendpoint, htoken, htokenFile, hcaCertFile, hinsecure, hspace, htimeout⟩ :=
      clusterOf_eq_ok_iff.mp hcluster
    obtain ⟨hgroup, hversion, hplural, hkind⟩ := resourceOf_eq_ok_iff.mp hresource
    obtain ⟨hletter, hattempts, hseed, hpark⟩ := generatorOf_eq_ok_iff.mp hgenerator
    obtain ⟨hlevel, hformat⟩ := observabilityOf_eq_ok_iff.mp hobservability
    intro f
    cases f <;> assumption
  · intro h
    simp only [ofFields, clusterOf, resourceOf, generatorOf, observabilityOf, h]
    rfl

/-- There are settings with any content of the fields. -/
theorem Field.exists_get (values : (f : Field) → f.Carrier) : ∃ s, ∀ f, f.get s = values f := by
  refine ⟨{
    cluster := {
      endpoint := values .endpoint
      token := values .token
      tokenFile := values .tokenFile
      caCertFile := values .caCertFile
      insecureSkipTlsVerify := values .insecureSkipTlsVerify
      space := values .space
      timeoutSeconds := values .timeoutSeconds }
    resource := {
      group := values .group
      version := values .version
      plural := values .plural
      kind := values .kind }
    generator := {
      letter := values .letter
      maxNameAttempts := values .maxNameAttempts
      seed := values .seed
      park := values .park }
    observability := {
      logLevel := values .logLevel
      logFormat := values .logFormat } }, fun f => ?_⟩
  cases f <;> rfl

/-- Settings that cannot be had lack a field that cannot. -/
theorem exists_error_of_ofFields {e : Fault} (h : ofFields fields = .error e) :
    ∃ f e, fields f = .error e := by
  refine Classical.byContradiction fun hnone => ?_
  have hall : ∀ f, ∃ a, fields f = .ok a := by
    intro f
    cases hf : fields f with
    | error e => exact absurd ⟨f, e, hf⟩ hnone
    | ok a => exact ⟨a, rfl⟩
  obtain ⟨values, hvalues⟩ := Classical.skolem.mp hall
  obtain ⟨s, hs⟩ := Field.exists_get values
  have hok : ofFields fields = .ok s := ofFields_eq_ok_iff.mpr fun f => (hs f).symm ▸ hvalues f
  cases h.symm.trans hok

end

/-! ## Fields of a table of sections -/

/-- Every section that is there is a table. -/
def HasSections (root : Value) : Prop :=
  ∀ f : Field, ∀ v, root.member? f.sectionName = some v →
    ∃ members origin, v = .table members origin

theorem Field.read_timeoutSeconds (x : Option Value) :
    timeoutSeconds.read x =
      (readAt decodeCount timeoutSeconds.place (Nat.toUInt64 30) x).map UInt64.toNat := by
  cases x <;> rfl

theorem Field.read_maxNameAttempts (x : Option Value) :
    maxNameAttempts.read x =
      (readAt decodeCount maxNameAttempts.place (Nat.toUInt64 100000) x).map UInt64.toNat := by
  cases x <;> rfl

section

variable (members : List (String × Value)) (origin : Option String)

theorem decodeCluster_table : decodeCluster "cluster" (.table members origin) =
    clusterOf fun f => f.read (members.lookup f.name) := by
  simp only [decodeCluster, sectionMembers, ok_bind, field_of_table, clusterOf,
    Field.read_timeoutSeconds, map_bind_eq]
  rfl

theorem decodeResource_table : decodeResource "resource" (.table members origin) =
    resourceOf fun f => f.read (members.lookup f.name) := by
  simp only [decodeResource, sectionMembers, ok_bind, field_of_table]
  rfl

theorem decodeGenerator_table : decodeGenerator "generator" (.table members origin) =
    generatorOf fun f => f.read (members.lookup f.name) := by
  simp only [decodeGenerator, sectionMembers, ok_bind, field_of_table, generatorOf,
    Field.read_maxNameAttempts, map_bind_eq]
  rfl

theorem decodeObservability_table : decodeObservability "observability" (.table members origin) =
    observabilityOf fun f => f.read (members.lookup f.name) := by
  simp only [decodeObservability, sectionMembers, ok_bind, field_of_table]
  rfl

end

/-- What is found at the place of a field is what the field is read from. -/
theorem Field.read_of_decode (f : Field) {root x : Value} {s : Settings} (h : decode root = .ok s)
    (hx : f.find? root = some x) : f.read (some x) = .ok (f.get s) := by
  obtain ⟨v, hv, hx⟩ := Option.bind_eq_some_iff.mp hx
  obtain ⟨hcluster, hresource, hgenerator, hobservability⟩ := decode_eq_ok_iff.mp h
  cases v with
  | scalar s origin => cases hx
  | list items origin => cases hx
  | table members origin =>
    rw [← show members.lookup f.name = some x from hx]
    cases f with
    | endpoint | token | tokenFile | caCertFile | insecureSkipTlsVerify | space
    | timeoutSeconds =>
      rw [show root.member? "cluster" = _ from hv] at hcluster
      obtain ⟨hendpoint, htoken, htokenFile, hcaCertFile, hinsecure, hspace, htimeout⟩ :=
        clusterOf_eq_ok_iff.mp ((decodeCluster_table members origin).symm.trans hcluster)
      assumption
    | group | version | plural | kind =>
      rw [show root.member? "resource" = _ from hv] at hresource
      obtain ⟨hgroup, hversion, hplural, hkind⟩ :=
        resourceOf_eq_ok_iff.mp ((decodeResource_table members origin).symm.trans hresource)
      assumption
    | letter | maxNameAttempts | seed | park =>
      rw [show root.member? "generator" = _ from hv] at hgenerator
      obtain ⟨hletter, hattempts, hseed, hpark⟩ :=
        generatorOf_eq_ok_iff.mp ((decodeGenerator_table members origin).symm.trans hgenerator)
      assumption
    | logLevel | logFormat =>
      rw [show root.member? "observability" = _ from hv] at hobservability
      obtain ⟨hlevel, hformat⟩ := observabilityOf_eq_ok_iff.mp
        ((decodeObservability_table members origin).symm.trans hobservability)
      assumption

/-- A section that is a table of its fields or missing is made of what is found at their places. -/
theorem section_of_root {α : Type} {root : Value} {name : String} {decode : Decoder α} {default : α}
    {assemble : ((f : Field) → Except Fault f.Carrier) → Except Fault α}
    (htable : ∀ members origin, decode name (.table members origin) =
      assemble fun f => f.read (members.lookup f.name))
    (hdefault : assemble (fun f => .ok (f.get {})) = .ok default)
    (hcongr : ∀ {fields fields' : (f : Field) → Except Fault f.Carrier},
      (∀ f, f.sectionName = name → fields f = fields' f) → assemble fields = assemble fields')
    (hroot : ∀ v, root.member? name = some v → ∃ members origin, v = .table members origin) :
    readAt decode name default (root.member? name) = assemble fun f => f.read (f.find? root) := by
  cases hv : root.member? name with
  | none =>
    refine hdefault.symm.trans (hcongr fun f hf => ?_)
    rw [Field.find?, Value.within?, hf, hv]
    rfl
  | some v =>
    obtain ⟨members, origin, rfl⟩ := hroot v hv
    refine (htable members origin).trans (hcongr fun f hf => ?_)
    rw [Field.find?, Value.within?, hf, hv]
    rfl

/-- Settings are told by what is found at the places of their fields. -/
theorem decode_eq_ofFields {root : Value} (h : HasSections root) :
    decode root = ofFields fun f => f.read (f.find? root) := by
  have hcluster := section_of_root decodeCluster_table rfl (fun hf => by
    simp only [clusterOf, hf .endpoint rfl, hf .token rfl, hf .tokenFile rfl, hf .caCertFile rfl,
      hf .insecureSkipTlsVerify rfl, hf .space rfl, hf .timeoutSeconds rfl]) (h .endpoint)
  have hresource := section_of_root decodeResource_table rfl (fun hf => by
    simp only [resourceOf, hf .group rfl, hf .version rfl, hf .plural rfl, hf .kind rfl])
    (h .group)
  have hgenerator := section_of_root decodeGenerator_table rfl (fun hf => by
    simp only [generatorOf, hf .letter rfl, hf .maxNameAttempts rfl, hf .seed rfl, hf .park rfl])
    (h .letter)
  have hobservability := section_of_root decodeObservability_table rfl (fun hf => by
    simp only [observabilityOf, hf .logLevel rfl, hf .logFormat rfl]) (h .logLevel)
  rw [decode_eq_readAt, ofFields, ← hcluster, ← hresource, ← hgenerator, ← hobservability]
  rfl

end MooseHerd.Settings
