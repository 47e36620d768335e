import Mathlib.Data.List.DropRight
import MooseHerd.Proofs.Store.Client
import MooseHerd.Proofs.Store.Keys

/-! # The addresses of collections

A client has the address of the cluster without the slashes at its end, however many there are. The
path of a collection follows it. The parts of a collection stand in the path between fixed words,
and any of them may be empty or one of these words: the slashes alone tell where a part ends, so a
path belongs to one collection only if it is known how many slashes there are in each part. -/

namespace MooseHerd

namespace Target

/-! ## Paths -/

/-- No part of the collection has a slash. -/
def IsPlain (t : Target) : Prop := ∀ part ∈ [t.space, t.group, t.version, t.plural],
  '/' ∉ part.toList

instance (t : Target) : Decidable t.IsPlain := inferInstanceAs (Decidable (∀ _ ∈ _, _))

theorem IsPlain.slashes_eq {t : Target} (h : t.IsPlain) : t.slashes = List.replicate 4 0 :=
  List.eq_replicate_iff.mpr ⟨rfl, by
    intro n hn
    obtain ⟨part, hpart, rfl⟩ := List.mem_map.mp hn
    exact List.count_eq_zero.mpr (h part hpart)⟩

theorem toList_collectionPath (t : Target) :
    t.collectionPath.toList = "/apis/".toList ++ (t.group.toList ++ '/' :: (t.version.toList ++
      '/' :: ("namespaces/".toList ++ (t.space.toList ++ '/' :: t.plural.toList)))) := by
  simp [collectionPath]

/-- Paths of collections with their slashes in the same parts differ as the collections do. -/
theorem collectionPath_eq_iff {t u : Target} (h : t.slashes = u.slashes) :
    t.collectionPath = u.collectionPath ↔ t = u := by
  constructor
  · intro hpath
    simp only [slashes, List.map_cons, List.map_nil, List.cons.injEq, and_true] at h
    obtain ⟨hspace, hgroup, hversion, -⟩ := h
    rw [← String.toList_inj, toList_collectionPath, toList_collectionPath] at hpath
    -- the parts from left to right, each up to the slash that ends it
    obtain ⟨hg, hpath⟩ := append_cons_inj_of_count_eq hgroup (List.append_cancel_left hpath)
    obtain ⟨hv, hpath⟩ := append_cons_inj_of_count_eq hversion hpath
    obtain ⟨hs, hp⟩ := append_cons_inj_of_count_eq hspace (List.append_cancel_left hpath)
    cases t
    cases u
    simp_all [String.toList_inj]
  · rintro rfl
    rfl

end Target

namespace ClusterClient

/-! ## Slashes at the end -/

theorem toList_pushn (s : String) (c : Char) : ∀ n,
    (s.pushn c n).toList = s.toList ++ List.replicate n c
  | 0 => by simp [String.pushn_eq_repeat_push, Nat.repeat]
  | n + 1 => by
    rw [String.pushn_eq_repeat_push, Nat.repeat, ← String.pushn_eq_repeat_push, String.toList_push,
      toList_pushn s c n, List.replicate_succ', List.append_assoc]

/-- A text is another one without the slashes at its end. -/
structure IsBare (s bare : String) : Prop where
  /-- Only slashes are left out. -/
  removed : ∃ n, s = bare.pushn '/' n
  last : bare.toList.getLast? ≠ some '/'

theorem toList_dropSlashes (s : String) :
    (dropSlashes s).toList = s.toList.rdropWhile (· = '/') := by
  rw [dropSlashes, String.toList_ofList, List.rdropWhile]

theorem rdropWhile_append_replicate (p : Char → Bool) {c : Char} (hc : p c = true)
    (cs : List Char) : ∀ n, (cs ++ List.replicate n c).rdropWhile p = cs.rdropWhile p
  | 0 => by rw [List.replicate_zero, List.append_nil]
  | n + 1 => by
    rw [List.replicate_succ', ← List.append_assoc, List.rdropWhile_concat_pos _ _ _ hc,
      rdropWhile_append_replicate p hc cs n]

/-- Further slashes are dropped with those that are there. -/
theorem dropSlashes_pushn (s : String) (n : Nat) :
    dropSlashes (s.pushn '/' n) = dropSlashes s := by
  rw [← String.toList_inj, toList_dropSlashes, toList_dropSlashes, toList_pushn,
    rdropWhile_append_replicate _ (by decide)]

theorem isBare_dropSlashes (s : String) : IsBare s (dropSlashes s) := by
  constructor
  · refine ⟨(s.toList.rtakeWhile (· = '/')).length, ?_⟩
    have hslashes : s.toList.rtakeWhile (· = '/') =
        List.replicate (s.toList.rtakeWhile (· = '/')).length '/' :=
      List.eq_replicate_of_mem fun c hc => by simpa using List.mem_rtakeWhile_imp hc
    rw [← String.toList_inj, toList_pushn, toList_dropSlashes, ← hslashes,
      List.rdropWhile_append_rtakeWhile]
  · intro hlast
    rw [toList_dropSlashes] at hlast
    obtain ⟨hne, hslash⟩ := List.mem_getLast?_eq_getLast hlast
    exact List.rdropWhile_last_not _ _ hne (by rw [← hslash]; decide)

/-! ## Addresses -/

variable {c : ClusterSettings} {files : Files.Reader}

/-- The address of the cluster plays no part in whether there is a client. -/
theorem ofSettings_endpoint (e : String) :
    (ofSettings { c with endpoint := e } files).1 =
      (ofSettings c files).1.map fun client => { client with endpoint := dropSlashes e } := by
  have hcertificate : checkCertificate { c with endpoint := e } files = checkCertificate c files :=
    rfl
  have hauthorization : authorizationOf { c with endpoint := e } files = authorizationOf c files :=
    rfl
  rw [ofSettings_eq, ofSettings_eq, hcertificate, hauthorization]
  cases checkCertificate c files with
  | error e => rfl
  | ok _ => cases authorizationOf c files <;> rfl

theorem endpoint_of_ofSettings {client : ClusterClient}
    (h : (ofSettings c files).1 = .ok client) : client.endpoint = dropSlashes c.endpoint := by
  have hsame := @ofSettings_endpoint c files c.endpoint
  rw [h] at hsame
  exact congrArg endpoint (Except.ok.inj hsame)

/-- Collections have one address if and only if they have one path. -/
theorem collectionUrl_eq_iff {client : ClusterClient} {t u : Target} :
    client.collectionUrl t = client.collectionUrl u ↔ t.collectionPath = u.collectionPath := by
  rw [collectionUrl, collectionUrl, ← String.toList_inj, String.toList_append,
    String.toList_append, List.append_cancel_left_eq, String.toList_inj]

/-- **The address of a collection** is the address of the cluster without the slashes at its end,
and after it the path of the collection. Further slashes change neither the addresses nor whether
there is a client. Collections whose parts have no slashes are told apart by their addresses, even
if parts are empty or words that every path has. -/
theorem address_of_collection (c : ClusterSettings) (files : Files.Reader) :
    (∀ k, (ofSettings { c with endpoint := c.endpoint.pushn '/' k } files).1 =
      (ofSettings c files).1) ∧
    ∀ client, (ofSettings c files).1 = .ok client →
      (∃ bare, IsBare c.endpoint bare ∧ ∀ t, client.collectionUrl t = bare ++ t.collectionPath) ∧
      (∀ k c' files' client', c'.endpoint = c.endpoint.pushn '/' k →
        (ofSettings c' files').1 = .ok client' →
        ∀ t, client'.collectionUrl t = client.collectionUrl t) ∧
      ∀ t u : Target, t.IsPlain → u.IsPlain →
        (client.collectionUrl t = client.collectionUrl u ↔
          t.space = u.space ∧ t.group = u.group ∧ t.version = u.version ∧ t.plural = u.plural) := by
  refine ⟨fun k => ?_, fun client hclient => ⟨?_, ?_, ?_⟩⟩
  · rw [ofSettings_endpoint, dropSlashes_pushn, ← ofSettings_endpoint]
  · refine ⟨dropSlashes c.endpoint, isBare_dropSlashes c.endpoint, fun t => ?_⟩
    rw [collectionUrl, endpoint_of_ofSettings hclient]
  · intro k c' files' client' hslashes hclient' t
    refine collectionUrl_of_endpoint ?_ t
    rw [endpoint_of_ofSettings hclient, endpoint_of_ofSettings hclient', hslashes,
      dropSlashes_pushn]
  · intro t u ht hu
    rw [collectionUrl_eq_iff, Target.collectionPath_eq_iff (ht.slashes_eq.trans hu.slashes_eq.symm)]
    cases t
    cases u
    simp only [Target.mk.injEq]

/-- Two collections with empty parts and with words of the path in each other's places, and a second
client, which has a token and two more slashes at the end of its address. -/
theorem address_of_collection_of_words :
    let c : ClusterSettings := { endpoint := "https://h//" }
    let c' : ClusterSettings := { endpoint := "https://h////", token := some "elk" }
    let files : Files.Reader := fun _ => .error .notFound
    let t : Target := { space := "namespaces", group := "apis", version := "", plural := "" }
    let u : Target := { space := "", group := "", version := "apis", plural := "namespaces" }
    c'.endpoint = c.endpoint.pushn '/' 2 ∧ t.IsPlain ∧ u.IsPlain ∧ ∃ client client',
      (ofSettings c files).1 = .ok client ∧ (ofSettings c' files).1 = .ok client' ∧
      client.collectionUrl t = "https://h/apis/apis//namespaces/namespaces/" ∧
      client'.collectionUrl t = client.collectionUrl t ∧
      client.collectionUrl t ≠ client.collectionUrl u := by
  intro c c' files t u
  have hslashes : c'.endpoint = c.endpoint.pushn '/' 2 := by decide +kernel
  have ht : t.IsPlain := by decide +kernel
  have hu : u.IsPlain := by decide +kernel
  have hclient : (ofSettings c files).1 = .ok ⟨"https://h", none⟩ := by cbv
  have hclient' : (ofSettings c' files).1 = .ok ⟨"https://h", some "Bearer elk"⟩ := by cbv
  obtain ⟨-, hsame, happart⟩ := (address_of_collection c files).2 _ hclient
  refine ⟨hslashes, ht, hu, _, _, hclient, hclient', by decide +kernel,
    hsame 2 c' files _ hslashes hclient' t, fun h => ?_⟩
  exact absurd ((happart t u ht hu).mp h).1 (by decide)

end ClusterClient

end MooseHerd
