import Orama.Vault.Confinement

namespace Orama.Vault.Server
open Lib Store List
open FileTree Location
section
variable {l : Location} {key dataDir b : Bytes} {t u : FileTree}

lemma zero_notMem_path (h : WellFormed (l.path shareBin)) {f : Name} (hf : 0 ∉ f) : 0 ∉ l.path f := by
  have h0 : 0 ∉ l.secretDir := fun hm => h.no_zero (mem_append_left _ hm)
  rw [path, child, mem_append, mem_cons, not_or, not_or]
  exact ⟨h0, by decide, hf⟩

lemma readSecret_of_unreachable (key : Bytes) (h : ¬ WellFormed (l.path shareBin) ∨
    ∃ q ∈ visits l.secretDir, place (l.path shareBin) <+: q) : ∃ e, ∀ t, readSecret l key t = .error e := by
  obtain ⟨h1, _⟩ := isFileName_names
  by_cases hw : WellFormed (l.path shareBin)
  · obtain ⟨q, hq, hp⟩ := h.resolve_left (not_not.mpr hw)
    refine ⟨.notFound, fun t => ?_⟩
    cases hr : t.readFile (l.path shareBin) maxSecretSize with
    | error e =>
      rw [readSecret, hr, readFile_error hw.no_zero hr]
      rfl
    | ok d =>
      obtain ⟨_, ho, hf, _⟩ := (readFile_child h1).mp hr
      have hd := ho q hq
      rw [fileAt_eq_some] at hf
      rw [path, place_child h1] at hp
      obtain ⟨r, rfl⟩ := hp
      cases r with
      | nil =>
        rw [append_nil, hf] at hd
        cases hd
      | cons c r => grind [get_append]
  · obtain ⟨e, he⟩ := resolve_of_not_wellFormed hw
    refine ⟨orElse .notFound e, fun t => ?_⟩
    grind [readFile, readSecret]

lemma within_of_visits (h : ∀ q ∈ visits (l.path shareBin), q ∉ vaultContents dataDir b) :
    l.Within (vaultContents dataDir b)ᶜ := by
  obtain ⟨h1, _⟩ := isFileName_names
  rw [path, visits_child h1] at h
  have hdir : ∀ q ∈ visits l.secretDir, q ∉ vaultContents dataDir b :=
    fun q hq => h q (mem_append_left _ hq)
  refine ⟨hdir, fun f hf => ?_⟩
  have hplace : place l.secretDir ∉ vaultContents dataDir b := hdir _ (by simp [visits])
  have hshare : place l.secretDir ++ [shareBin] ∉ vaultContents dataDir b := h _ (by simp)
  rcases prefix_concat_iff.mp hf.1 with he | hp
  · exact hf.2 he
  · by_cases he : vaultPlace dataDir b = place l.secretDir
    · apply hshare
      rw [vaultContents, he]
      exact ⟨prefix_append _ _, by simp⟩
    · exact hplace ⟨hp, he⟩

lemma exists_readSecret_ioError (key : Bytes) (hw : WellFormed (l.path shareBin))
    (hp : ∀ q ∈ visits l.secretDir, ¬ place (l.path shareBin) <+: q) : ∃ t, readSecret l key t = .error .ioError := by
  obtain ⟨h1, h2, _⟩ := isFileName_names
  have hplace : place (l.path shareBin) = place l.secretDir ++ [shareBin] := place_child h1 _
  rw [hplace] at hp
  obtain ⟨t, ho, hs, hnofile⟩ := exists_single_file [] (append_ne_nil_of_right_ne_nil _
    (cons_ne_nil shareBin [])) (by rw [dropLast_concat]; simp [visits]) hp
  have hshare : t.readFile (l.path shareBin) maxSecretSize = .ok [] :=
    (readFile_child h1).mpr ⟨hw, ho, fileAt_eq_some.mpr hs, Nat.zero_le _⟩
  refine ⟨t, ?_⟩
  rw [readSecret, hshare]
  dsimp only
  cases hc : t.readFile (l.path checksumBin) 32 with
  | error e =>
    rw [readFile_error (zero_notMem_path hw (by decide)) hc]
    rfl
  | ok c =>
    obtain ⟨_, _, hf, _⟩ := (readFile_child h2).mp hc
    rw [fileAt_eq_some] at hf
    exact absurd hf (hnofile _ (append_singleton_ne (by decide)) c)

lemma agreeOn_removeBelow (t : FileTree) :
    AgreeOn (vaultContents dataDir b)ᶜ t (t.removeBelow (vaultPlace dataDir b)) := by
  intro q hq
  rw [get_removeBelow]
  exact (if_neg hq).symm

lemma get_removeBelow_vault {q : Path} (hq : q ∈ vaultContents dataDir b) :
    (t.removeBelow (vaultPlace dataDir b)).get q = none := by
  rw [get_removeBelow]
  exact if_pos hq

lemma readSecret_removeBelow (key : Bytes) (t : FileTree) (hw : WellFormed (l.path shareBin))
    (hq : ∃ q ∈ visits (l.path shareBin), q ∈ vaultContents dataDir b) :
    readSecret l key (t.removeBelow (vaultPlace dataDir b)) = .error .notFound := by
  obtain ⟨h1, _⟩ := isFileName_names
  obtain ⟨q, hv, hb⟩ := hq
  cases hr : (t.removeBelow (vaultPlace dataDir b)).readFile (l.path shareBin) maxSecretSize with
  | error e =>
    rw [readSecret, hr, readFile_error hw.no_zero hr]
    rfl
  | ok d =>
    obtain ⟨_, ho, hf, _⟩ := (readFile_child h1).mp hr
    rw [path, visits_child h1] at hv
    rcases mem_append.mp hv with hv | hv
    · have hd := ho q hv
      rw [get_removeBelow_vault hb] at hd
      cases hd
    · grind [fileAt_eq_some, get_removeBelow_vault]

end

section
variable {json : JsonParser} {ctx : RouteContext} {clock : Clock} {name a b : Bytes}
  {token : Option Bytes} {t u : FileTree}

lemma handleGet_fst (t : FileTree) : (handleGet json ctx clock name token t).1 = t := by grind [handleGet]

lemma handleGet_of_error (json : JsonParser) {e : VaultStoreError}
    (hauth : requireAuth ctx token clock.verify = .ok a)
    (h : readSecret ⟨ctx.dataDir, a, name⟩ (integrityKey ctx) t = .error e) :
    (handleGet json ctx clock name token t).2 = readFailure e := by
  rw [handleGet, hauth]
  dsimp only
  rw [h]

lemma handleGet_of_ok {d : Bytes} {m : SecretMeta} (hauth : requireAuth ctx token clock.verify = .ok a)
    (h : readSecret ⟨ctx.dataDir, a, name⟩ (integrityKey ctx) t = .ok d)
    (hm : readMeta json ⟨ctx.dataDir, a, name⟩ t = .ok m) : (handleGet json ctx clock name token t).2 =
      .respond (writeGetResponse d name m.version.toNat m.createdNs.val m.updatedNs.val) := by
  rw [handleGet, hauth]
  dsimp only
  rw [h]
  dsimp only
  rw [hm]

lemma handleGet_agree (hauth : requireAuth ctx token clock.verify = .ok a)
    (hl : Location.Within ⟨ctx.dataDir, a, name⟩ (vaultContents ctx.dataDir b)ᶜ)
    (h : AgreeOn (vaultContents ctx.dataDir b)ᶜ t u) :
    (handleGet json ctx clock name token t).2 = (handleGet json ctx clock name token u).2 := by
  rw [handleGet, handleGet, hauth]
  grind [readSecret_agree, readMeta_agree]

lemma handleGet_independent_iff (json : JsonParser) (hauth : requireAuth ctx token clock.verify = .ok a)
    (hne : name ≠ []) : (∀ t u, AgreeOn (vaultContents ctx.dataDir b)ᶜ t u →
      (handleGet json ctx clock name token t).2 = (handleGet json ctx clock name token u).2) ↔
      Avoids ctx a b .get name := by
  constructor
  · intro h
    refine .inr ?_
    by_contra hc
    simp only [not_or, not_not, not_exists, not_and, not_forall] at hc
    obtain ⟨hw, hp, q, hv, hb⟩ := hc
    obtain ⟨t, ht⟩ := exists_readSecret_ioError (integrityKey ctx) hw hp
    have heq := h t _ (agreeOn_removeBelow t)
    rw [handleGet_of_error json hauth ht,
      handleGet_of_error json hauth (readSecret_removeBelow _ t hw ⟨q, hv, hb⟩)] at heq
    exact absurd heq (by decide)
  · intro h t u htu
    rcases h with h | h | h | h
    · exact absurd h hne
    · obtain ⟨e, he⟩ := readSecret_of_unreachable (integrityKey ctx) (.inl h)
      rw [handleGet_of_error json hauth (he t), handleGet_of_error json hauth (he u)]
    · obtain ⟨e, he⟩ := readSecret_of_unreachable (integrityKey ctx) (.inr h)
      rw [handleGet_of_error json hauth (he t), handleGet_of_error json hauth (he u)]
    · exact handleGet_agree hauth (within_of_visits h) htu

end

section
variable {ctx : RouteContext} {clock : Clock} {name a b : Bytes} {token : Option Bytes} {l : Location}
  {t u : FileTree}

section
variable (hauth : requireAuth ctx token clock.verify = .ok a) (t : FileTree)
include hauth

lemma handleDelete_of_auth : handleDelete ctx clock name token t = ((deleteSecret ⟨ctx.dataDir, a, name⟩ t).1,
      match (deleteSecret ⟨ctx.dataDir, a, name⟩ t).2 with
      | .error e => readFailure e
      | .ok () => .respond (deleted name)) := by
  grind [handleDelete]

lemma handleDelete_fst : (handleDelete ctx clock name token t).1 = (deleteSecret ⟨ctx.dataDir, a, name⟩ t).1 :=
  congrArg Prod.fst (handleDelete_of_auth hauth t)

end

lemma deleteSecret_of_error {e : FsError} (h : t.access l.secretDir = .error e) :
    deleteSecret l t = (t, .error (orElse .notFound e)) := by
  rw [deleteSecret, h]

lemma deleteSecret_of_ok (h : t.access l.secretDir = .ok ()) :
    deleteSecret l t = ((t.deleteTree l.secretDir).1, match (t.deleteTree l.secretDir).2 with
      | .error e => .error (orElse .ioError e) | .ok () => .ok ()) := by
  grind [deleteSecret]

lemma get_deleteSecret {q : Path} (hq : ¬ place l.secretDir <+: q) : (deleteSecret l t).1.get q = t.get q := by
  cases h : t.access l.secretDir with
  | error e => rw [deleteSecret_of_error h]
  | ok x =>
    rw [deleteSecret_of_ok h]
    exact get_deleteTree hq

lemma deleteSecret_agree {S : Set Path} (h : AgreeOn S t u) (hv : ∀ q ∈ visits l.secretDir, q ∈ S) :
    (deleteSecret l t).2 = (deleteSecret l u).2 := by
  have ha := h.access_eq hv
  cases ht : t.access l.secretDir with
  | error e => rw [deleteSecret_of_error ht, deleteSecret_of_error (ha ▸ ht)]
  | ok x => grind [deleteSecret_of_ok, AgreeOn.deleteTree_eq]

lemma deleteSecret_of_not_wellFormed (hw : ¬ WellFormed l.secretDir) :
    ∃ e, ∀ t, deleteSecret l t = (t, .error e) := by
  obtain ⟨e, he⟩ := resolve_of_not_wellFormed hw
  refine ⟨orElse .notFound e, fun t => deleteSecret_of_error ?_⟩
  rw [access, he]

lemma access_of_dirs (hw : WellFormed l.secretDir) (h : ∀ q ∈ visits l.secretDir, t.get q = some .dir) :
    t.resolve l.secretDir = .ok (place l.secretDir) ∧ t.access l.secretDir = .ok () := by
  grind [resolve_eq_ok, access_eq_ok, visits]

section
variable (hauth : requireAuth ctx token clock.verify = .ok a)
include hauth

lemma handleDelete_ne_notFound (h : t.access (secretDir ⟨ctx.dataDir, a, name⟩) = .ok ()) :
    (handleDelete ctx clock name token t).2 ≠ .respond secretNotFound := by
  rw [handleDelete_of_auth hauth, deleteSecret_of_ok h]
  dsimp only
  cases (t.deleteTree (secretDir ⟨ctx.dataDir, a, name⟩)).2 with
  | error e =>
    change readFailure (orElse .ioError e) ≠ _
    cases e <;> decide
  | ok x =>
    dsimp only [deleted, jsonOkIn]
    intro hc
    have hs := congrArg Response.status (Outcome.respond.inj hc)
    split at hs
    · exact absurd hs (by decide)
    · exact absurd (show (200 : Nat) = 404 from hs) (by decide)

lemma confined_of_avoids_delete (hne : name ≠ []) (h : Avoids ctx a b .delete name) :
    (∀ t, ∀ q ∈ vaultContents ctx.dataDir b, (handleDelete ctx clock name token t).1.get q = t.get q) ∧
    ∀ t u, AgreeOn (vaultContents ctx.dataDir b)ᶜ t u →
    (handleDelete ctx clock name token t).2 = (handleDelete ctx clock name token u).2 := by
  rcases h with h | h | ⟨hv, hp⟩
  · exact absurd h hne
  · grind [deleteSecret_of_not_wellFormed, handleDelete_of_auth]
  · refine ⟨fun t q hq => ?_, fun t u htu => ?_⟩
    · rw [handleDelete_of_auth hauth]
      apply get_deleteSecret
      intro hpq
      rcases List.prefix_or_prefix_of_prefix hpq hq.1 with hc | hc
      · exact hp hc
      · by_cases he : vaultPlace ctx.dataDir b = place (secretDir ⟨ctx.dataDir, a, name⟩)
        · exact hp (he ▸ prefix_rfl)
        · exact hv _ (by simp [visits]) ⟨hc, he⟩
    · grind [handleDelete_of_auth, deleteSecret_agree]

lemma handleDelete_removeBelow (t : FileTree) (hw : WellFormed (secretDir ⟨ctx.dataDir, a, name⟩))
    (hq : ∃ q ∈ visits (secretDir ⟨ctx.dataDir, a, name⟩), q ∈ vaultContents ctx.dataDir b) :
    (handleDelete ctx clock name token (t.removeBelow (vaultPlace ctx.dataDir b))).2 = .respond secretNotFound := by
  obtain ⟨q, hv, hq⟩ := hq
  cases he : (t.removeBelow (vaultPlace ctx.dataDir b)).access
      (secretDir ⟨ctx.dataDir, a, name⟩) with
  | error e =>
    rw [handleDelete_of_auth hauth, deleteSecret_of_error he, access_error hw.no_zero he]
    rfl
  | ok x =>
    obtain ⟨hr, hs⟩ := access_eq_ok.mp he
    have hgone := get_removeBelow_vault (t := t) hq
    rcases mem_append.mp hv with hv | hv
    all_goals grind [resolve_eq_ok]

lemma exists_handleDelete_removes (hw : WellFormed (secretDir ⟨ctx.dataDir, a, name⟩))
    (hp : place (secretDir ⟨ctx.dataDir, a, name⟩) <+: vaultPlace ctx.dataDir b) :
    ∃ t, ∃ q ∈ vaultContents ctx.dataDir b, (handleDelete ctx clock name token t).1.get q ≠ t.get q := by
  let inside := vaultPlace ctx.dataDir b ++ [[]]
  let t := ofDirs (inside :: visits (secretDir ⟨ctx.dataDir, a, name⟩))
  have hinside : t.get inside = some .dir := get_ofDirs_of_mem (mem_cons_self ..)
  have hdirs : ∀ r ∈ visits (secretDir ⟨ctx.dataDir, a, name⟩), t.get r = some .dir :=
    fun r hr => get_ofDirs_of_mem (mem_cons_of_mem _ hr)
  obtain ⟨hr, ha⟩ := access_of_dirs hw hdirs
  have hne : place (secretDir ⟨ctx.dataDir, a, name⟩) ≠ inside := by grind [length_append]
  have hgone := get_deleteTree_of_prefix hr (hdirs _ (by simp [visits]))
    (hp.trans (prefix_append _ [[]])) hne
  grind [append_mem_vaultContents, handleDelete_of_auth, deleteSecret_of_ok]

lemma avoids_delete_of_confined
    (hframe : ∀ t, ∀ q ∈ vaultContents ctx.dataDir b, (handleDelete ctx clock name token t).1.get q = t.get q)
    (hanswer : ∀ t u, AgreeOn (vaultContents ctx.dataDir b)ᶜ t u →
      (handleDelete ctx clock name token t).2 = (handleDelete ctx clock name token u).2) :
    Avoids ctx a b .delete name := by
  refine .inr ?_
  by_contra hc
  rw [not_or, not_not, not_and_or, not_not] at hc
  obtain ⟨hw, hc | hc⟩ := hc
  · simp only [not_forall, not_not] at hc
    obtain ⟨q, hv, hq⟩ := hc
    have hdirs : ∀ r ∈ visits (secretDir ⟨ctx.dataDir, a, name⟩),
        (ofDirs (visits (secretDir ⟨ctx.dataDir, a, name⟩))).get r = some .dir :=
      fun r hr => get_ofDirs_of_mem hr
    have hfound := handleDelete_ne_notFound hauth (access_of_dirs hw hdirs).2
    rw [hanswer _ _ (agreeOn_removeBelow _)] at hfound
    exact hfound (handleDelete_removeBelow hauth _ hw ⟨q, hv, hq⟩)
  · grind [exists_handleDelete_removes]

end
end

section
variable {ctx : RouteContext} {clock : Clock} {req : Request} {name : Bytes}

lemma route_secretPath (json : JsonParser) (ctx : RouteContext) (clock : Clock)
    (hpath : req.path = secretPath name) (hne : name ≠ []) (t : FileTree) :
    route json ctx clock req t = some (match req.method with
      | .put => handlePut json ctx clock req.body name req.sessionToken t
      | .get => handleGet json ctx clock name req.sessionToken t
      | .delete => handleDelete ctx clock name req.sessionToken t | _ => (t, .respond methodNotAllowed)) := by
  grind [dispatch_secretPath, route, dispatchSecrets]

lemma route_secretPath_nil (json : JsonParser) (ctx : RouteContext) (clock : Clock)
    (hpath : req.path = secretPath []) (t : FileTree) :
    route json ctx clock req t = some (t, .respond (badRequest "secret name required")) := by
  rw [route, hpath, dispatch_secretPath]
  rfl

lemma confined_iff_of_route {json : JsonParser} {b : Bytes} {handler : FileTree → FileTree × Outcome}
    (h : ∀ t, route json ctx clock req t = some (handler t)) :
    Confined json ctx clock req b ↔ (∀ t, ∀ q ∈ vaultContents ctx.dataDir b, (handler t).1.get q = t.get q) ∧
      ∀ t u, AgreeOn (vaultContents ctx.dataDir b)ᶜ t u → (handler t).2 = (handler u).2 := by
  grind [Confined]

end

/-- A request with a session of one identity is confined to that identity, with
respect to another one, exactly when its path stays out of the vault of the
other. Names are not checked when secrets are read or deleted. -/
theorem confined_iff_avoids (json : JsonParser) (ctx : RouteContext) (clock : Clock) (req : Request)
    (a b name : Bytes) (ha : IsIdentity a) (hb : IsIdentity b) (hne : a ≠ b)
    (hdir : ∀ q ∈ visits ctx.dataDir, q ∉ vaultContents ctx.dataDir b)
    (hauth : requireAuth ctx req.sessionToken clock.verify = .ok a) (hpath : req.path = secretPath name) :
    Confined json ctx clock req b ↔ Avoids ctx a b req.method name := by
  by_cases hname : name = []
  · subst hname
    rw [confined_iff_of_route (route_secretPath_nil json ctx clock hpath)]
    exact ⟨fun _ => .inl rfl, fun _ => ⟨fun _ _ _ => rfl, fun _ _ _ => rfl⟩⟩
  · rw [confined_iff_of_route (route_secretPath json ctx clock hpath hname)]
    cases req.method with
    | put =>
      exact ⟨fun _ => .inr trivial, fun _ => ⟨fun t => (confined_handlePut (u := t) ha hb hne hdir hauth).1,
        fun t u => (confined_handlePut ha hb hne hdir hauth).2⟩⟩
    | get =>
      rw [← handleGet_independent_iff json hauth hname]
      exact ⟨fun h => h.2, fun h => ⟨fun t q _ => by rw [handleGet_fst], h⟩⟩
    | delete => grind [avoids_delete_of_confined, confined_of_avoids_delete]
    | post => exact ⟨fun _ => .inr trivial, fun _ => ⟨fun _ _ _ => rfl, fun _ _ _ => rfl⟩⟩
    | options => exact ⟨fun _ => .inr trivial, fun _ => ⟨fun _ _ _ => rfl, fun _ _ _ => rfl⟩⟩
    | unknown => exact ⟨fun _ => .inr trivial, fun _ => ⟨fun _ _ _ => rfl, fun _ _ _ => rfl⟩⟩

section

def alice : Bytes := List.replicate 64 97
def bob : Bytes := List.replicate 64 98

lemma isIdentity_replicate {c : UInt8} (hc : (hexValue c).isSome) : IsIdentity (List.replicate 64 c) :=
  ⟨length_replicate, fun _ hb => eq_of_mem_replicate hb ▸ hc⟩

lemma isIdentity_alice : IsIdentity alice := isIdentity_replicate (by decide)

lemma isIdentity_bob : IsIdentity bob := isIdentity_replicate (by decide)

lemma alice_ne_bob : alice ≠ bob := by
  intro h
  exact absurd (replicate_right_inj (by decide) |>.1 h) (by decide)

def sampleGuardian : Guardian := ⟨List.replicate 32 0, by decide⟩
def sampleContext : RouteContext := ⟨ascii "/data", some sampleGuardian⟩
def sampleClock : Clock := ⟨0, epoch⟩
def sampleExpiry : I128 := ⟨1, by decide⟩

def sampleToken : Bytes :=
  Session.headerValue alice (Session.tokenOf alice sampleGuardian.serverSecret sampleExpiry)

def sampleRequest (method : Method) (name : Bytes) : Request :=
  ⟨method, secretPath name, [], some sampleToken⟩

lemma sampleRequest_path (method : Method) (name : Bytes) :
    (sampleRequest method name).path = secretPath name := rfl

lemma requireAuth_sample (method : Method) (name : Bytes) :
    requireAuth sampleContext (sampleRequest method name).sessionToken sampleClock.verify = .ok alice :=
  requireAuth_of_valid rfl
    (Session.validateSessionToken_tokenOf (by decide) (by decide) (by decide) (by decide))

theorem confined_iff_avoids_sample :
    Confined JsonParser.strict sampleContext sampleClock (sampleRequest .get (ascii "key")) bob ↔
    Avoids sampleContext alice bob .get (ascii "key") :=
  confined_iff_avoids JsonParser.strict sampleContext sampleClock (sampleRequest .get (ascii "key")) alice
    bob (ascii "key") isIdentity_alice isIdentity_bob alice_ne_bob
    (fun _ => notMem_vaultContents_of_visits isIdentity_bob (by decide)) (requireAuth_sample _ _) (sampleRequest_path _ _)

def traversal : Bytes := ascii "../" ++ bob ++ ascii "/key"

def sampleVaults : FileTree :=
  (writeSecret JsonParser.strict ⟨ascii "/data", bob, ascii "key"⟩
    ⟨[5], 1, sampleGuardian.serverSecret, epoch⟩
    (.ofDirs [[ascii "data", ascii "vaults", alice]])).1

lemma readSecret_traversal :
    readSecret ⟨sampleContext.dataDir, alice, traversal⟩ (integrityKey sampleContext) sampleVaults = .ok [5] := by
  decide +kernel

lemma readMeta_traversal :
    readMeta JsonParser.strict ⟨sampleContext.dataDir, alice, traversal⟩ sampleVaults = .ok ⟨1, epoch, epoch, 1⟩ := by
  decide +kernel

lemma readSecret_traversal_removed :
    readSecret ⟨sampleContext.dataDir, alice, traversal⟩ (integrityKey sampleContext)
      (sampleVaults.removeBelow (vaultPlace sampleContext.dataDir bob)) = .error .notFound := by
  decide +kernel

def bobShare : Path := vaultPlace sampleContext.dataDir bob ++ [ascii "key", shareBin]

lemma deleteSecret_traversal :
    (deleteSecret ⟨sampleContext.dataDir, alice, traversal⟩ sampleVaults).1.get bobShare = none ∧
    sampleVaults.get bobShare = some (.file [5]) := by
  decide +kernel

/-- A session of alice reads and deletes the secret of bob. -/
theorem traversal_not_confined : (IsIdentity alice ∧ IsIdentity bob ∧ alice ≠ bob) ∧
    (∀ method, requireAuth sampleContext (sampleRequest method traversal).sessionToken
        sampleClock.verify = .ok alice) ∧
      (handleGet JsonParser.strict sampleContext sampleClock traversal
        (sampleRequest .get traversal).sessionToken sampleVaults).2 =
        .respond (writeGetResponse [5] traversal 1 0 0) ∧
      ¬ Confined JsonParser.strict sampleContext sampleClock (sampleRequest .get traversal) bob ∧
      ¬ Confined JsonParser.strict sampleContext sampleClock (sampleRequest .delete traversal) bob := by
  have hne : traversal ≠ [] := by decide
  have hroute := fun method => route_secretPath JsonParser.strict sampleContext sampleClock
    (sampleRequest_path method traversal) hne
  have hget := handleGet_of_ok (requireAuth_sample .get traversal) readSecret_traversal readMeta_traversal
  refine ⟨⟨isIdentity_alice, isIdentity_bob, alice_ne_bob⟩, fun method => requireAuth_sample method _,
    hget, fun hc => ?_, fun hc => ?_⟩
  · rw [confined_iff_of_route (hroute .get)] at hc
    have heq := hget.symm.trans (hc.2 sampleVaults _ (agreeOn_removeBelow sampleVaults))
    have hnone := handleGet_of_error JsonParser.strict (requireAuth_sample .get traversal)
      readSecret_traversal_removed
    exact absurd (heq.trans hnone) (by decide +kernel)
  · rw [confined_iff_of_route (hroute .delete)] at hc
    have hkept : (handleDelete sampleContext sampleClock traversal
        (sampleRequest .delete traversal).sessionToken sampleVaults).1.get bobShare =
        sampleVaults.get bobShare :=
      hc.1 sampleVaults bobShare (append_mem_vaultContents (cons_ne_nil _ _))
    rw [handleDelete_fst (requireAuth_sample .delete traversal)] at hkept
    exact absurd (deleteSecret_traversal.1.symm.trans (hkept.trans deleteSecret_traversal.2)) (by simp)

end
end Orama.Vault.Server
