import MooseHerd.Proofs.Except
import MooseHerd.Proofs.Text.Encoded
import MooseHerd.Proofs.Text.WhiteSpace
import MooseHerd.Store.Cluster

/-! # How a client shows who sends its requests

The bearer token is a text of the settings or else the text of a file, without the white space
around it. If there is to be a token and none can be sent, there is no client. -/

namespace MooseHerd

/-- A file is read as a text if and only if it holds the encoding of the text. -/
theorem Files.readText_eq_ok_iff {files : Files.Reader} {path text : String} :
    readText files path = .ok text ↔ files path = .ok (Text.Utf8.encode text) := by
  rw [readText, bind_eq_ok]
  constructor
  · rintro ⟨bytes, hbytes, h⟩
    split at h
    · rename_i hdecoded
      cases h
      rw [hbytes, Text.Utf8.decode?_eq_some_iff.mp hdecoded]
    · cases h
  · intro h
    exact ⟨_, h, by rw [Text.Utf8.decode?_encode]⟩

namespace ClusterSettings

section

variable (c : ClusterSettings) (files : Files.Reader)

/-- The bearer token: the text that is given, or else the text of the file, without the white space
around it. -/
inductive HasToken (token : String) : Prop
  | given {text : String} (htext : c.token = some text) (htoken : Text.IsTrimmed text token)
  | kept {path text : String} (hnone : c.token = none) (hpath : c.tokenFile = some path)
      (htext : files path = .ok (Text.Utf8.encode text)) (htoken : Text.IsTrimmed text token)

/-- The bearer token should be in a file that does not hold a text. -/
structure MissesToken (path : String) : Prop where
  notGiven : c.token = none
  inFile : c.tokenFile = some path
  unreadable : ∀ text, files path ≠ .ok (Text.Utf8.encode text)

/-- There is to be no bearer token. -/
def IsAnonymous : Prop := c.token = none ∧ c.tokenFile = none

end

variable {c : ClusterSettings} {files : Files.Reader}

theorem HasToken.bearerToken_eq {token : String} (h : c.HasToken files token) :
    c.bearerToken files = .ok (some token) := by
  cases h with
  | given htext htoken =>
    rw [bearerToken, htext, Text.isTrimmed_iff.mp htoken]
  | kept hnone hpath htext htoken =>
    simp only [bearerToken, hnone, hpath, Files.readText_eq_ok_iff.mpr htext,
      Text.isTrimmed_iff.mp htoken]

/-- There is one bearer token at most. -/
theorem HasToken.unique {token token' : String} (h : c.HasToken files token)
    (h' : c.HasToken files token') : token = token' := by
  simpa using h.bearerToken_eq.symm.trans h'.bearerToken_eq

theorem MissesToken.bearerToken_eq {path : String} (h : c.MissesToken files path) :
    ∃ fault, c.bearerToken files = .error (.unreadable path fault) := by
  rcases hread : Files.readText files path with fault | text
  · refine ⟨fault, ?_⟩
    simp only [bearerToken, h.notGiven, h.inFile, hread]
  · exact absurd (Files.readText_eq_ok_iff.mp hread) (h.unreadable text)

theorem IsAnonymous.bearerToken_eq (h : c.IsAnonymous) : c.bearerToken files = .ok none := by
  rw [bearerToken, h.1, h.2]

variable (c files) in
theorem token_cases : (∃ token, c.HasToken files token) ∨ (∃ path, c.MissesToken files path) ∨
    c.IsAnonymous := by
  rcases hgiven : c.token with _ | text
  · rcases hpath : c.tokenFile with _ | path
    · exact .inr (.inr ⟨hgiven, hpath⟩)
    by_cases htext : ∃ text, files path = .ok (Text.Utf8.encode text)
    · obtain ⟨text, htext⟩ := htext
      exact .inl ⟨Text.trim text, .kept hgiven hpath htext (Text.isTrimmed_trim text)⟩
    · exact .inr (.inl ⟨path, hgiven, hpath, not_exists.mp htext⟩)
  · exact .inl ⟨Text.trim text, .given hgiven (Text.isTrimmed_trim text)⟩

end ClusterSettings

namespace ClusterClient

/-- A text that cannot be sent as the value of a header: it has a control character other than a
tab. -/
def HasControl (s : String) : Prop := ∃ c ∈ s.toList, c ≠ '\t' ∧ (c < ' ' ∨ c = '\x7f')

instance (s : String) : Decidable (HasControl s) :=
  -- Named, since an instance that runs through all characters applies as well.
  List.decidableBEx (fun c => c ≠ '\t' ∧ (c < ' ' ∨ c = '\x7f')) s.toList

theorem isHeaderText_eq_false_iff {s : String} : isHeaderText s = false ↔ HasControl s := by
  have hchar (c : Char) : (decide (c = '\t') || (decide (0x20 ≤ c.toNat) &&
      decide (c.toNat ≠ 0x7f))) = false ↔ c ≠ '\t' ∧ (c < ' ' ∨ c = '\x7f') := by
    have hcontrol : c < ' ' ↔ c.toNat < 0x20 := Iff.rfl
    have hdelete : c = '\x7f' ↔ c.toNat = 0x7f := Char.toNat_inj.symm
    rw [Bool.or_eq_false_iff, Bool.and_eq_false_iff, decide_eq_false_iff_not,
      decide_eq_false_iff_not, decide_eq_false_iff_not, Nat.not_le, Decidable.not_not, hcontrol,
      hdelete]
  rw [isHeaderText, List.all_eq_false]
  simp only [Bool.not_eq_true, hchar]
  rfl

/-- What is reported on the way to a client. -/
def opening (c : ClusterSettings) : List Log.Event :=
  if c.insecureSkipTlsVerify then [insecureEvent c] else []

theorem ofSettings_eq (c : ClusterSettings) (files : Files.Reader) :
    ofSettings c files = match checkCertificate c files with
      | .error e => (.error e, [])
      | .ok () => ((authorizationOf c files).map fun authorization =>
          { endpoint := dropSlashes c.endpoint, authorization }, opening c) := by
  unfold ofSettings
  cases checkCertificate c files with
  | error e => rfl
  | ok _ => cases authorizationOf c files <;> rfl

variable {c : ClusterSettings} {files : Files.Reader}

/-- The token is all that counts, wherever it comes from. -/
theorem authorizationOf_of_hasToken {token : String} (h : c.HasToken files token) :
    authorizationOf c files =
      if isHeaderText token then .ok (some ("Bearer " ++ token))
      else .error (.invalidArgument "cluster.token" "failed to parse header value") := by
  rw [authorizationOf, h.bearerToken_eq, ok_bind]

theorem authorizationOf_of_sendable {token : String} (h : c.HasToken files token)
    (hsendable : ¬ HasControl token) :
    authorizationOf c files = .ok (some ("Bearer " ++ token)) := by
  have hheader : isHeaderText token = true := by
    rw [← Bool.not_eq_false, isHeaderText_eq_false_iff]
    exact hsendable
  rw [authorizationOf_of_hasToken h, if_pos hheader]

/-- The error for a token that cannot be sent does not tell the token. -/
theorem authorizationOf_of_hasControl {token : String} (h : c.HasToken files token)
    (hcontrol : HasControl token) : authorizationOf c files =
      .error (.invalidArgument "cluster.token" "failed to parse header value") := by
  have hheader : isHeaderText token = false := isHeaderText_eq_false_iff.mpr hcontrol
  rw [authorizationOf_of_hasToken h, if_neg (Bool.eq_false_iff.mp hheader)]

theorem authorizationOf_of_missesToken {path : String} (h : c.MissesToken files path) :
    ∃ fault, authorizationOf c files = .error (.unreadable path fault) := by
  obtain ⟨fault, hfault⟩ := h.bearerToken_eq
  refine ⟨fault, ?_⟩
  rw [authorizationOf, hfault]
  rfl

theorem authorizationOf_of_isAnonymous (h : c.IsAnonymous) :
    authorizationOf c files = .ok none := by
  rw [authorizationOf, h.bearerToken_eq]
  rfl

variable (c files) in
/-- Whom a client shows as the sender of its requests, or why there is no client. -/
theorem authorizationOf_cases :
    (∃ token, c.HasToken files token ∧ ¬ HasControl token ∧
      authorizationOf c files = .ok (some ("Bearer " ++ token))) ∨
    (∃ token, c.HasToken files token ∧ HasControl token ∧ authorizationOf c files =
      .error (.invalidArgument "cluster.token" "failed to parse header value")) ∨
    (∃ path fault, c.MissesToken files path ∧
      authorizationOf c files = .error (.unreadable path fault)) ∨
    (c.IsAnonymous ∧ authorizationOf c files = .ok none) := by
  rcases c.token_cases files with ⟨token, h⟩ | ⟨path, h⟩ | h
  · by_cases hcontrol : HasControl token
    · exact .inr (.inl ⟨token, h, hcontrol, authorizationOf_of_hasControl h hcontrol⟩)
    · exact .inl ⟨token, h, hcontrol, authorizationOf_of_sendable h hcontrol⟩
  · obtain ⟨fault, hfault⟩ := authorizationOf_of_missesToken h
    exact .inr (.inr (.inl ⟨path, fault, h, hfault⟩))
  · exact .inr (.inr (.inr ⟨h, authorizationOf_of_isAnonymous h⟩))

/-- Only a token can keep a client from being made, by its file or by itself. -/
theorem error_of_authorizationOf {e : Error} (h : authorizationOf c files = .error e) :
    (∃ path fault, e = .unreadable path fault) ∨
      ∃ message, e = .invalidArgument "cluster.token" message := by
  rcases authorizationOf_cases c files with
    ⟨_, _, _, hcase⟩ | ⟨_, _, _, hcase⟩ | ⟨path, fault, _, hcase⟩ | ⟨_, hcase⟩
  · cases h.symm.trans hcase
  · cases h.symm.trans hcase
    exact .inr ⟨_, rfl⟩
  · cases h.symm.trans hcase
    exact .inl ⟨path, fault, rfl⟩
  · cases h.symm.trans hcase

theorem authorizationOf_eq_unreadable_iff {path : String} :
    (∃ fault, authorizationOf c files = .error (.unreadable path fault)) ↔
      c.MissesToken files path := by
  refine ⟨?_, authorizationOf_of_missesToken⟩
  rintro ⟨fault, hfault⟩
  rcases authorizationOf_cases c files with
    ⟨_, _, _, h⟩ | ⟨_, _, _, h⟩ | ⟨path', fault', hmisses, h⟩ | ⟨_, h⟩
  · cases hfault.symm.trans h
  · cases hfault.symm.trans h
  · cases hfault.symm.trans h
    exact hmisses
  · cases hfault.symm.trans h

theorem authorizationOf_eq_invalid_iff :
    (∃ message, authorizationOf c files = .error (.invalidArgument "cluster.token" message)) ↔
      ∃ token, c.HasToken files token ∧ HasControl token := by
  constructor
  · rintro ⟨message, hinvalid⟩
    rcases authorizationOf_cases c files with
      ⟨_, _, _, h⟩ | ⟨token, htoken, hcontrol, _⟩ | ⟨_, _, _, h⟩ | ⟨_, h⟩
    · cases hinvalid.symm.trans h
    · exact ⟨token, htoken, hcontrol⟩
    · cases hinvalid.symm.trans h
    · cases hinvalid.symm.trans h
  · rintro ⟨token, htoken, hcontrol⟩
    exact ⟨_, authorizationOf_of_hasControl htoken hcontrol⟩

/-! ## Clients without a further certificate -/

/-- A further certificate apart, nothing but the sender can keep a client from being made. -/
theorem ofSettings_of_no_certificate (hca : c.caCertFile = none) (files : Files.Reader) :
    ofSettings c files = ((authorizationOf c files).map fun authorization =>
      { endpoint := dropSlashes c.endpoint, authorization }, opening c) := by
  rw [ofSettings_eq, checkCertificate, hca]

theorem ofSettings_of_given (hca : c.caCertFile = none) (hgiven : c.token ≠ none)
    (tokenFile : Option String) (files files' : Files.Reader) :
    ofSettings { c with tokenFile } files' = ofSettings c files := by
  obtain ⟨text, htext⟩ := Option.ne_none_iff_exists'.mp hgiven
  have htoken : c.HasToken files (Text.trim text) := .given htext (Text.isTrimmed_trim text)
  have htoken' : { c with tokenFile }.HasToken files' (Text.trim text) :=
    .given htext (Text.isTrimmed_trim text)
  rw [ofSettings_of_no_certificate hca, ofSettings_of_no_certificate (c := { c with tokenFile }) hca,
    authorizationOf_of_hasToken htoken, authorizationOf_of_hasToken htoken']
  rfl

theorem ofSettings_eq_error_iff (hca : c.caCertFile = none) {e : Error} :
    (ofSettings c files).1 = .error e ↔ authorizationOf c files = .error e := by
  rw [ofSettings_of_no_certificate hca]
  cases authorizationOf c files with
  | error e' => simp only [Except.map, Except.error.injEq]
  | ok authorization => exact ⟨nofun, nofun⟩

/-! ## Requests of a client -/

/-- Nothing of a client but its address counts for the address of a collection. -/
theorem collectionUrl_of_endpoint {client client' : ClusterClient}
    (h : client'.endpoint = client.endpoint) (target : Target) :
    client'.collectionUrl target = client.collectionUrl target := by
  rw [collectionUrl, collectionUrl, h]

theorem of_request?_eq_some {client : ClusterClient} {target : Target} {doc : Json}
    {post : Http.Request} (h : client.request? target doc = some post) :
    Http.Url.parse? (client.collectionUrl target) = some post.url ∧
      post.authorization =
        (post.url.user.map Http.User.authorization).or client.authorization := by
  rw [request?] at h
  cases hurl : Http.Url.parse? (client.collectionUrl target) with
  | none =>
    rw [hurl] at h
    cases h
  | some url =>
    rw [hurl] at h
    cases h
    exact ⟨rfl, rfl⟩

end ClusterClient

end MooseHerd
