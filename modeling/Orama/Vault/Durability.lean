import Orama.Vault.Traversal

namespace Orama.Vault.Server
open Lib Store List

structure Host where
  tree : FileTree
  guardian : Option Guardian

inductive Op
  | request (req : Request) (clock : Clock)
  | restart (guardian : Guardian)

section
variable (json : JsonParser) (dataDir : Bytes)

def serve (s : Host) (req : Request) (clock : Clock) : Option (FileTree × Outcome) :=
  s.guardian.bind fun guardian => route json ⟨dataDir, some guardian⟩ clock req s.tree

def step (s : Host) : Op → Host
  | .restart guardian => ⟨s.tree, some guardian⟩
  | .request req clock =>
    match serve json dataDir s req clock with
    | none => s
    | some (t, .respond _) => ⟨t, s.guardian⟩
    | some (t, .panic) => ⟨t, none⟩

def run (s : Host) (ops : List Op) : Host := ops.foldl (step json dataDir) s

def Refused (s : Host) (req : Request) (clock : Clock) : Prop :=
  ∃ t r, serve json dataDir s req clock = some (t, .respond r) ∧ 400 ≤ r.status ∧ r.status < 500

/-- The operation is none of those that replace or remove the secret. Requests
to store it are refused, and so are deletions, unless they are of another
place. -/
def Spares (l : Location) (s : Host) : Op → Prop
  | .restart _ => True
  | .request req clock =>
    Refused json dataDir s req clock ∨
    ∀ guardian identity name, s.guardian = some guardian → req.path = secretPath name →
      requireAuth ⟨dataDir, some guardian⟩ req.sessionToken clock.verify = .ok identity →
      match req.method with
      | .put => IsIdentity identity ∧ (identity ≠ l.identity ∨ name ≠ l.name)
      | .delete =>
        let other : Location := ⟨dataDir, identity, name⟩
        (∀ q ∈ visits l.secretDir, ¬ place other.secretDir <+: q) ∧ ¬ place l.secretDir <+: place other.secretDir
      | _ => True

def AllSpare (l : Location) : Host → List Op → Prop
  | _, [] => True
  | s, op :: ops => Spares json dataDir l s op ∧ AllSpare l (step json dataDir s op) ops

end

def shareField (body : Bytes) : Option Bytes :=
  (JsonParser.expect (ascii "\x7b\"share\":\"") body).bind fun rest =>
    Base64.decode (rest.takeWhile fun c => c ≠ 34)

def returned : Option (FileTree × Outcome) → Option Bytes
  | some (_, .respond r) => if r.status = 200 then shareField r.body else none
  | _ => none

open JsonParser Location
section
variable {name data : Bytes}

lemma shareField_append (data rest : Bytes) :
    shareField (ascii "\x7b\"share\":\"" ++ (Base64.encode data ++ 34 :: rest)) = some data := by
  have hq : ∀ c ∈ Base64.encode data, decide (c ≠ 34) := by grind [Base64.quote_notMem_encode]
  rw [shareField, expect_append, Option.bind_some, takeWhile_append_of_pos hq,
    takeWhile_cons_of_neg (by simp), append_nil, Base64.decode_encode]

lemma returned_writeGetResponse {t : FileTree} {version : Nat} {created updated : Int}
    (hn : name.length ≤ 128) (hv : (decimal version).length ≤ 20)
    (hc : (decimalInt created).length ≤ 40) (hu : (decimalInt updated).length ≤ 40) :
    returned (some (t, .respond (writeGetResponse data name version created updated))) = some data := by
  have h1 : (ascii "\",\"name\":\"").length = 10 := by decide
  have h2 : (ascii "\",\"version\":").length = 12 := by decide
  have h3 : (ascii ",\"created_ns\":").length = 14 := by decide
  have h4 : (ascii ",\"updated_ns\":").length = 14 := by decide
  have h5 : (ascii "\x7d").length = 1 := by decide
  rw [writeGetResponse, if_neg]
  · rw [returned, jsonOk]
    dsimp only
    rw [if_pos rfl, append_assoc (ascii "\x7b\"share\":\"")]
    exact shareField_append data _
  · simp only [length_append, h1, h2, h3, h4, h5]
    omega

end

section
variable {json : JsonParser} {ctx : RouteContext} {clock : Clock} {body name identity key data : Bytes}
  {token : Option Bytes} {t t' : FileTree} {r : Response} {l l' : Location}

lemma status_writeFailure {e : VaultStoreError} (h : writeFailure e = .respond r) (hr : r.status < 500) :
    e = .versionConflict ∨ e = .secretLimitExceeded ∨ e = .secretDataTooLarge := by
  cases e with
  | versionConflict => exact .inl rfl
  | secretLimitExceeded => exact .inr (.inl rfl)
  | secretDataTooLarge => exact .inr (.inr rfl)
  | panic => cases h
  | _ =>
    cases h
    exact absurd hr (by decide)

lemma jsonOkIn_not_refusal {size : Nat} {body : Bytes} (h4 : 400 ≤ (jsonOkIn size body).status) :
    ¬ (jsonOkIn size body).status < 500 := by
  intro h5
  unfold jsonOkIn at h4 h5
  split at h4
  · next hl =>
    rw [if_pos hl] at h5
    exact absurd h5 (by decide)
  · exact absurd h4 (show ¬ 400 ≤ 200 by decide)

lemma handlePut_refused (h : handlePut json ctx clock body name token t = (t', .respond r))
    (h4 : 400 ≤ r.status) (h5 : r.status < 500) : t' = t := by
  obtain ⟨r', hr⟩ | ⟨identity, data, version, ha, hd⟩ := handlePut_cases json ctx clock body name token
  · rw [hr] at h
    exact (congrArg Prod.fst h).symm
  · rw [handlePut_of_decode ha hd, Prod.mk.injEq] at h
    obtain ⟨rfl, ho⟩ := h
    obtain ⟨e, _, he⟩ | ⟨_, _, _, _, ⟨hok, _⟩ | ⟨e, he⟩, _⟩ := writeSecret_cases json
      ⟨ctx.dataDir, identity, name⟩ ⟨data, version, integrityKey ctx, clock.write⟩ t
    · rw [he]
    · rw [hok] at ho
      cases ho
      exact absurd h5 (jsonOkIn_not_refusal h4)
    · rw [he] at ho
      rcases status_writeFailure ho h5 with h | h | h <;> cases e <;> cases h

lemma handleDelete_refused (h : handleDelete ctx clock name token t = (t', .respond r))
    (h4 : 400 ≤ r.status) (h5 : r.status < 500) : t' = t := by
  cases ha : requireAuth ctx token clock.verify with
  | error r' =>
    rw [handleDelete, ha] at h
    exact (congrArg Prod.fst h).symm
  | ok identity =>
    rw [handleDelete_of_auth ha] at h
    cases hx : t.access (secretDir ⟨ctx.dataDir, identity, name⟩) with
    | error e =>
      rw [deleteSecret_of_error hx] at h
      exact (congrArg Prod.fst h).symm
    | ok x =>
      rw [deleteSecret_of_ok hx, Prod.mk.injEq] at h
      obtain ⟨_, ho⟩ := h
      cases hd : (t.deleteTree (secretDir ⟨ctx.dataDir, identity, name⟩)).2 with
      | error e =>
        rw [hd] at ho
        cases e with
        | failed =>
          cases ho
          exact absurd h5 (by decide)
        | panic => cases ho
      | ok x =>
        rw [hd] at ho
        cases ho
        exact absurd h5 (jsonOkIn_not_refusal h4)

section
variable (hread : readSecret l key t = .ok data)
include hread

lemma readSecret_of_frame (hd : ∀ q ∈ visits l.secretDir, t.get q = some .dir → t'.get q = some .dir)
    (hf : ∀ f, t'.fileAt (place l.secretDir ++ [f]) = t.fileAt (place l.secretDir ++ [f])) :
    readSecret l key t' = .ok data := by
  obtain ⟨hws, hwc, ho, hs, hlen, hc⟩ := readSecret_iff.mp hread
  exact readSecret_iff.mpr ⟨hws, hwc, fun q hq => hd q hq (ho q hq), (hf shareBin).trans hs, hlen,
    (hf checksumBin).trans hc⟩

lemma readSecret_writeSecret_other {w : Write} (hne : place l.secretDir ≠ place l'.secretDir) :
    readSecret l key (writeSecret json l' w t).1 = .ok data := by
  obtain ⟨e, _, he⟩ | ⟨created, p, hl, hs, _⟩ := writeSecret_cases json l' w t
  · rw [he]
    exact hread
  · rw [hs]
    apply readSecret_of_frame hread
    · exact fun q _ => hl.get_dir q
    · intro f
      apply hl.fileAt
      rwa [dropLast_concat]

lemma readSecret_deleteSecret_other (h1 : ∀ q ∈ visits l.secretDir, ¬ place l'.secretDir <+: q)
    (h2 : ¬ place l.secretDir <+: place l'.secretDir) : readSecret l key (deleteSecret l' t).1 = .ok data := by
  grind [readSecret_of_frame, get_deleteSecret, FileTree.fileAt_congr, prefix_concat_iff, visits]

end
end

section
variable {json : JsonParser} {dataDir a name key data : Bytes} {s : Host}

lemma place_secretDir {identity name : Bytes} (hi : IsIdentity identity) (hn : IsFileName name) :
    place (secretDir ⟨dataDir, identity, name⟩) = place (child dataDir (ascii "vaults")) ++ [identity, name] := by
  rw [secretDir, place_child hn, vaultDir, place_child (isFileName_of_isIdentity hi), append_assoc]
  rfl

lemma tree_step_request (req : Request) (clock : Clock) :
    (step json dataDir s (.request req clock)).tree = match serve json dataDir s req clock with
      | none => s.tree
      | some (t, _) => t := by
  grind [step]
variable {req : Request} {g : Guardian}

lemma serve_eq_route {clock : Clock} (hg : s.guardian = some g) :
    serve json dataDir s req clock = route json ⟨dataDir, some g⟩ clock req s.tree := by
  rw [serve, hg]
  rfl

lemma serve_cases (json : JsonParser) (dataDir : Bytes) (s : Host) (req : Request) (clock : Clock) :
    (∀ r ∈ serve json dataDir s req clock, r.1 = s.tree) ∨ ∃ g n, s.guardian = some g ∧ req.path = secretPath n ∧
    (req.method = .put ∧ serve json dataDir s req clock =
    some (handlePut json ⟨dataDir, some g⟩ clock req.body n req.sessionToken s.tree) ∨
    req.method = .delete ∧ serve json dataDir s req clock =
    some (handleDelete ⟨dataDir, some g⟩ clock n req.sessionToken s.tree)) := by
  cases hg : s.guardian with
  | none =>
    rw [serve, hg]
    exact .inl nofun
  | some g =>
    rw [serve_eq_route hg]
    by_cases hpath : ∃ n, req.path = secretPath n
    · obtain ⟨n, hpath⟩ := hpath
      by_cases hnil : n = []
      · grind [route_secretPath_nil]
      · grind [route_secretPath, handleGet_fst]
    · grind [route_other]

variable {n : Bytes}

lemma readSecret_handlePut {clock : Clock} (ha : IsIdentity a)
    (hn : IsFileName name) (hread : readSecret ⟨dataDir, a, name⟩ key s.tree = .ok data)
    (hother : ∀ identity, requireAuth ⟨dataDir, some g⟩ req.sessionToken clock.verify = .ok identity →
      IsIdentity identity ∧ (identity ≠ a ∨ n ≠ name)) : readSecret ⟨dataDir, a, name⟩ key
      (handlePut json ⟨dataDir, some g⟩ clock req.body n req.sessionToken s.tree).1 = .ok data := by
  obtain ⟨r, hr⟩ | ⟨identity, d, version, hauth, hdec⟩ :=
    handlePut_cases json ⟨dataDir, some g⟩ clock req.body n req.sessionToken
  · rw [hr]
    exact hread
  · rw [handlePut_of_decode hauth hdec]
    grind [readSecret_writeSecret_other, place_secretDir, isFileName_of_validate, decodePut_eq_ok, append_cancel_left]

lemma readSecret_handleDelete {clock : Clock} (hread : readSecret ⟨dataDir, a, name⟩ key s.tree = .ok data)
    (hother : ∀ identity, requireAuth ⟨dataDir, some g⟩ req.sessionToken clock.verify = .ok identity → (∀ q ∈ visits (secretDir ⟨dataDir, a, name⟩), ¬ place (secretDir ⟨dataDir, identity, n⟩) <+: q) ∧ ¬ place (secretDir ⟨dataDir, a, name⟩) <+: place (secretDir ⟨dataDir, identity, n⟩)) :
    readSecret ⟨dataDir, a, name⟩ key
      (handleDelete ⟨dataDir, some g⟩ clock n req.sessionToken s.tree).1 = .ok data := by
  grind [readSecret_deleteSecret_other, handleDelete]

lemma readSecret_step {op : Op} (ha : IsIdentity a) (hn : IsFileName name)
    (hs : Spares json dataDir ⟨dataDir, a, name⟩ s op) (hread : readSecret ⟨dataDir, a, name⟩ key s.tree = .ok data) :
    readSecret ⟨dataDir, a, name⟩ key (step json dataDir s op).tree = .ok data := by
  cases op with
  | restart g => exact hread
  | request req clock =>
    rw [tree_step_request]
    obtain hsame | ⟨g, n, hg, hpath, ⟨hm, hserve⟩ | ⟨hm, hserve⟩⟩ := serve_cases json dataDir s req clock
    · cases hserve : serve json dataDir s req clock with
      | none => exact hread
      | some r =>
        dsimp only
        rw [hsame r hserve]
        exact hread
    · rcases hs with ⟨t, r, ht, h4, h5⟩ | hs
      · grind [handlePut_refused]
      · grind [readSecret_handlePut]
    · rcases hs with ⟨t, r, ht, h4, h5⟩ | hs
      · grind [handleDelete_refused]
      · grind [readSecret_handleDelete]

lemma readSecret_run {ops : List Op} (ha : IsIdentity a) (hn : IsFileName name)
    (hs : AllSpare json dataDir ⟨dataDir, a, name⟩ s ops)
    (hread : readSecret ⟨dataDir, a, name⟩ key s.tree = .ok data) :
    readSecret ⟨dataDir, a, name⟩ key (run json dataDir s ops).tree = .ok data := by
  induction ops generalizing s with
  | nil => exact hread
  | cons op ops ih => exact ih hs.2 (readSecret_step ha hn hs.1 hread)

end

structure Asks (dataDir : Bytes) (guardian : Guardian) (req : Request) (clock : Clock) (method : Method)
    (identity name : Bytes) : Prop where
  method_eq : req.method = method
  path_eq : req.path = secretPath name
  auth : requireAuth ⟨dataDir, some guardian⟩ req.sessionToken clock.verify = .ok identity

section
variable {json : JsonParser} {dataDir a name data : Bytes} {s : Host} {g k : Guardian} {req : Request} {clock : Clock}

lemma length_of_validate (h : validateSecretName name = .ok ()) : name.length ≤ 128 := by
  unfold validateSecretName at h
  split at h
  · cases h
  · split at h
    · cases h
    · next hl => exact Nat.not_lt.mp hl

lemma status_writeFailure_ne {e : VaultStoreError} {r : Response} (h : writeFailure e = .respond r) :
    r.status ≠ 200 := by
  cases e <;> cases h <;> decide

variable {version : UInt64}

lemma serve_put (hg : s.guardian = some g) (hask : Asks dataDir g req clock .put a name)
    (hbody : decodePut json req.body name = .ok (data, version)) : serve json dataDir s req clock =
      some ((writeSecret json ⟨dataDir, a, name⟩ ⟨data, version, g.serverSecret, clock.write⟩ s.tree).1,
        match (writeSecret json ⟨dataDir, a, name⟩ ⟨data, version, g.serverSecret, clock.write⟩ s.tree).2 with
        | .error e => writeFailure e | .ok () => .respond (stored name version)) := by
  have hne : name ≠ [] := (isFileName_of_validate (decodePut_eq_ok hbody)).2.1
  rw [serve_eq_route hg, route_secretPath json _ _ hask.path_eq hne, hask.method_eq]
  dsimp only
  rw [handlePut_of_decode hask.auth hbody]
  rfl

lemma serve_get (hg : s.guardian = some g) (hask : Asks dataDir g req clock .get a name)
    (hne : name ≠ []) : serve json dataDir s req clock =
      some (handleGet json ⟨dataDir, some g⟩ clock name req.sessionToken s.tree) := by
  rw [serve_eq_route hg, route_secretPath json _ _ hask.path_eq hne, hask.method_eq]

section
variable (hg : s.guardian = some g) (hask : Asks dataDir g req clock .put a name)
  (hbody : decodePut json req.body name = .ok (data, version))
include hg hask hbody

lemma serve_put_stored
    (hw : (writeSecret json ⟨dataDir, a, name⟩ ⟨data, version, g.serverSecret, clock.write⟩ s.tree).2 = .ok ()) :
    serve json dataDir s req clock =
      some ((writeSecret json ⟨dataDir, a, name⟩ ⟨data, version, g.serverSecret, clock.write⟩ s.tree).1,
      .respond (stored name version)) := by
  rw [serve_put hg hask hbody, hw]

lemma readSecret_of_stored {t : FileTree} {r : Response}
    (hserve : serve json dataDir s req clock = some (t, .respond r)) (hstatus : r.status = 200) :
    readSecret ⟨dataDir, a, name⟩ g.serverSecret t = .ok data := by
  rw [serve_put hg hask hbody, Option.some.injEq, Prod.mk.injEq] at hserve
  obtain ⟨rfl, ho⟩ := hserve
  apply readSecret_writeSecret (w := ⟨data, version, g.serverSecret, clock.write⟩)
  grind [status_writeFailure_ne]

end

lemma returned_readFailure (t : FileTree) (e : VaultStoreError) : returned (some (t, readFailure e)) = none := by
  cases e <;> rfl
variable {t : FileTree} {l : Location}

lemma readSecret_rekey {key newKey d : Bytes} (hread : readSecret l key t = .ok data) :
    readSecret l newKey t = .ok d ↔ d = data ∧ Hmac.compute newKey data = Hmac.compute key data := by
  grind [readSecret_iff]

lemma readMeta_ne_panic (json : JsonParser)
    (hw : WellFormed (l.path shareBin)) : readMeta json l t ≠ .error .panic := by
  intro hm
  unfold readMeta at hm
  split at hm
  · next e he =>
    rw [FileTree.readFile_error (zero_notMem_path hw (by decide)) he] at hm
    cases hm
  · split at hm <;> cases hm

lemma returned_handleGet {ctx : RouteContext} {token : Option Bytes}
    (hauth : requireAuth ctx token clock.verify = .ok a) (hname : validateSecretName name = .ok ())
    (hread : readSecret ⟨ctx.dataDir, a, name⟩ (integrityKey ctx) t = .ok data) :
    returned (some (handleGet json ctx clock name token t)) = some data := by
  have hn := length_of_validate hname
  rw [handleGet, hauth]
  dsimp only
  rw [hread]
  dsimp only
  cases hm : readMeta json ⟨ctx.dataDir, a, name⟩ t with
  | ok m => grind [returned_writeGetResponse, length_decimal_u64, length_decimal_i128]
  | error e =>
    cases e with
    | panic => exact absurd hm (readMeta_ne_panic json (readSecret_iff.mp hread).1)
    | _ => exact returned_writeGetResponse hn (by decide) (by decide) (by decide)

lemma returned_get_iff (hg : s.guardian = some g) (hask : Asks dataDir g req clock .get a name)
    (hname : validateSecretName name = .ok ())
    (hread : readSecret ⟨dataDir, a, name⟩ k.serverSecret s.tree = .ok data) :
    returned (serve json dataDir s req clock) = some data ↔
      Hmac.compute g.serverSecret data = Hmac.compute k.serverSecret data := by
  rw [serve_get hg hask (isFileName_of_validate hname).2.1]
  cases hr : readSecret ⟨dataDir, a, name⟩ (integrityKey ⟨dataDir, some g⟩) s.tree with
  | ok d =>
    obtain ⟨rfl, hk⟩ := (readSecret_rekey hread).mp hr
    exact ⟨fun _ => hk, fun _ => returned_handleGet hask.auth hname hr⟩
  | error e =>
    rw [handleGet, hask.auth]
    dsimp only
    rw [hr, returned_readFailure]
    refine ⟨fun h => absurd h (Option.some_ne_none data).symm, fun hk => ?_⟩
    cases hr.symm.trans ((readSecret_rekey hread).mpr ⟨rfl, hk⟩)

end

/-- After a write that was answered as stored, as long as the operations spare
the secret, a read returns the data of the write exactly when the secret of the
server at the read and its secret at the write give the data the same HMAC. -/
theorem returned_after_put_iff (json : JsonParser) (dataDir a name data : Bytes) (version : UInt64)
    (s : Host) (old new : Guardian) (put get : Request) (putClock getClock : Clock) (ops : List Op)
    (t : FileTree) (r : Response) (ha : IsIdentity a) (hold : s.guardian = some old)
    (hput : Asks dataDir old put putClock .put a name)
    (hbody : decodePut json put.body name = .ok (data, version))
    (hstored : serve json dataDir s put putClock = some (t, .respond r)) (hstatus : r.status = 200)
    (hops : AllSpare json dataDir ⟨dataDir, a, name⟩ (step json dataDir s (.request put putClock)) ops)
    (hnew : (run json dataDir s (.request put putClock :: ops)).guardian = some new)
    (hget : Asks dataDir new get getClock .get a name) :
    returned (serve json dataDir (run json dataDir s (.request put putClock :: ops)) get getClock) =
      some data ↔ Hmac.compute new.serverSecret data = Hmac.compute old.serverSecret data := by
  have hname := decodePut_eq_ok hbody
  have hstart : readSecret ⟨dataDir, a, name⟩ old.serverSecret
      (step json dataDir s (.request put putClock)).tree = .ok data := by
    grind [tree_step_request, readSecret_of_stored]
  have hrun := readSecret_run ha (isFileName_of_validate hname) hops hstart
  exact returned_get_iff hnew hget hname hrun

section

def otherGuardian : Guardian := ⟨List.replicate 32 1, by decide⟩

def keyRequest (guardian : Guardian) (method : Method) (body : Bytes) : Request :=
  ⟨method, secretPath (ascii "key"), body,
    some (Session.headerValue alice (Session.tokenOf alice guardian.serverSecret sampleExpiry))⟩

lemma asks_keyRequest (guardian : Guardian) (method : Method) (body : Bytes) :
    Asks (ascii "/data") guardian (keyRequest guardian method body) sampleClock method alice (ascii "key") where
  method_eq := rfl
  path_eq := rfl
  auth := requireAuth_of_valid rfl
    (Session.validateSessionToken_tokenOf (by decide) (by decide) (by decide) (by decide))

def samplePut : Request :=
  keyRequest sampleGuardian .put (ascii "\x7b\"share\":\"BQ==\",\"version\":1\x7d")

def sampleHost : Host := ⟨.empty, some sampleGuardian⟩

lemma decodePut_sample : decodePut strict samplePut.body (ascii "key") = .ok ([5], 1) := by
  decide +kernel

def keyLocation : Location := ⟨ascii "/data", alice, ascii "key"⟩
def keyWrite : Write := ⟨[5], 1, sampleGuardian.serverSecret, sampleClock.write⟩

lemma serve_samplePut : serve strict (ascii "/data") sampleHost samplePut sampleClock =
      some ((writeSecret strict keyLocation keyWrite .empty).1, .respond (stored (ascii "key") 1)) :=
  serve_put_stored rfl (asks_keyRequest _ _ _) decodePut_sample (by decide +kernel)

theorem returned_after_put_iff_sample :
    returned (serve JsonParser.strict (ascii "/data") (run JsonParser.strict (ascii "/data") sampleHost
        [.request samplePut sampleClock, .restart otherGuardian])
        (keyRequest otherGuardian .get []) sampleClock) = some [5] ↔
      Hmac.compute otherGuardian.serverSecret [5] = Hmac.compute sampleGuardian.serverSecret [5] :=
  returned_after_put_iff JsonParser.strict (ascii "/data") alice (ascii "key") [5] 1 sampleHost
    sampleGuardian otherGuardian samplePut (keyRequest otherGuardian .get []) sampleClock sampleClock
    [.restart otherGuardian] _ _ isIdentity_alice rfl (asks_keyRequest _ _ _)
    decodePut_sample serve_samplePut rfl ⟨trivial, trivial⟩ rfl (asks_keyRequest _ _ _)

lemma run_restart (s : Host) (req : Request) (clock : Clock) (g : Guardian) {t : FileTree} {o : Outcome}
    (h : serve strict (ascii "/data") s req clock = some (t, o)) :
    run strict (ascii "/data") s [.request req clock, .restart g] = ⟨t, some g⟩ := by
  show (⟨(step strict (ascii "/data") s (.request req clock)).tree, some g⟩ : Host) = _
  rw [tree_step_request, h]

lemma readSecret_other : readSecret keyLocation otherGuardian.serverSecret
      (writeSecret strict keyLocation keyWrite .empty).1 = .error .integrityCheckFailed := by
  decide +kernel

/-- What was stored cannot be read after a restart. -/
theorem get_after_restart : Asks (ascii "/data") sampleGuardian samplePut sampleClock .put alice (ascii "key") ∧
    (serve JsonParser.strict (ascii "/data") sampleHost samplePut sampleClock).map Prod.snd =
    some (.respond (stored (ascii "key") 1)) ∧
    Asks (ascii "/data") otherGuardian (keyRequest otherGuardian .get []) sampleClock .get alice
        (ascii "key") ∧
      (serve JsonParser.strict (ascii "/data") (run JsonParser.strict (ascii "/data") sampleHost
        [.request samplePut sampleClock, .restart otherGuardian])
        (keyRequest otherGuardian .get []) sampleClock).map Prod.snd = some (.respond internalError) := by
  refine ⟨asks_keyRequest _ _ _, ?_, asks_keyRequest _ _ _, ?_⟩
  · rw [serve_samplePut]
    rfl
  · have hget := asks_keyRequest otherGuardian .get []
    rw [run_restart _ _ _ _ serve_samplePut, serve_get rfl hget (by decide), Option.map_some,
      handleGet_of_error strict hget.auth readSecret_other]
    rfl

end
end Orama.Vault.Server
