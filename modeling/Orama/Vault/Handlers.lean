import Orama.Lib.Base64
import Orama.Vault.Session
import Orama.Vault.Write

namespace Orama.Vault.Server
open Lib Store

inductive Method
  | get
  | post
  | put
  | delete
  | options
  | unknown
deriving DecidableEq, Repr

structure Request where
  method : Method
  path : Bytes
  body : Bytes
  sessionToken : Option Bytes

structure Guardian where
  serverSecret : Bytes
  length_serverSecret : serverSecret.length = 32

structure RouteContext where
  dataDir : Bytes
  guardian : Option Guardian

structure Clock where
  verify : Int
  write : I128

structure Response where
  status : Nat
  statusText : Bytes
  body : Bytes
deriving DecidableEq, Repr

inductive Outcome
  | respond (r : Response)
  | panic
deriving DecidableEq, Repr

def jsonOk (body : Bytes) : Response := ⟨200, ascii "OK", body⟩

def jsonError (status : Nat) (statusText message : Bytes) : Response :=
  let body := ascii "\x7b\"error\":\"" ++ message ++ ascii "\"\x7d"
  ⟨status, statusText, if body.length > 1024 then message else body⟩

def notFound : Response := jsonError 404 (ascii "Not Found") (ascii "not found")

def methodNotAllowed : Response :=
  jsonError 405 (ascii "Method Not Allowed") (ascii "method not allowed")

def badRequest (message : String) : Response := jsonError 400 (ascii "Bad Request") (ascii message)

def internalError : Response :=
  jsonError 500 (ascii "Internal Server Error") (ascii "internal server error")

def unauthorized (message : String) : Response := jsonError 401 (ascii "Unauthorized") (ascii message)

def secretNotFound : Response := jsonError 404 (ascii "Not Found") (ascii "secret not found")

def jsonOkIn (size : Nat) (body : Bytes) : Response :=
  if body.length > size then internalError else jsonOk body

def requireAuth (ctx : RouteContext) (token : Option Bytes) (now : Int) : Except Response Bytes :=
  match ctx.guardian with
  | none => .error internalError
  | some guardian =>
    match token with
    | none => .error (unauthorized "session token required")
    | some _ =>
      match Session.validateSessionToken token guardian.serverSecret now with
      | none => .error (unauthorized "invalid session token")
      | some identity => .ok identity

def integrityKey (ctx : RouteContext) : Bytes :=
  match ctx.guardian with
  | some guardian => guardian.serverSecret
  | none => ascii "vault-default-integrity-key!!!!!"

def maxBodySize : Nat := 1024 * 1024

def nameError : VaultStoreError → Response
  | .secretNameRequired => badRequest "secret name required"
  | .secretNameTooLong => badRequest "secret name too long"
  | .secretNameInvalid =>
    badRequest "secret name invalid: only alphanumeric, underscore, hyphen allowed"
  | _ => badRequest "invalid secret name"

def decodePut (json : JsonParser) (body name : Bytes) : Except Response (Bytes × UInt64) :=
  if body.length = 0 then .error (badRequest "empty body")
  else if body.length > maxBodySize then .error (badRequest "request body too large")
  else
    match validateSecretName name with
    | .error e => .error (nameError e)
    | .ok () =>
      match json.parsePut body with
      | none =>
        .error (badRequest
          "invalid JSON: expected \x7b\"share\":\"<base64>\",\"version\":<u64>\x7d")
      | some put =>
        match Base64.calcSizeForSlice put.share with
        | none => .error (badRequest "invalid base64 in share")
        | some decodedLen =>
          if decodedLen > maxSecretSize then .error (badRequest "share data too large")
          else
            match Base64.decode put.share with
            | none => .error (badRequest "invalid base64 in share")
            | some data =>
              if data.length = 0 then .error (badRequest "share data is empty")
              else .ok (data, put.version)

def writeFailure : VaultStoreError → Outcome
  | .versionConflict => .respond (badRequest "version must be greater than current stored version")
  | .secretLimitExceeded => .respond (badRequest "secret limit exceeded")
  | .secretDataTooLarge => .respond (badRequest "share data too large")
  | .panic => .panic
  | _ => .respond internalError

def stored (name : Bytes) (version : UInt64) : Response :=
  jsonOkIn 512 (ascii "\x7b\"status\":\"stored\",\"name\":\"" ++ name ++ ascii "\",\"version\":" ++
    decimal version.toNat ++ ascii "\x7d")

def handlePut (json : JsonParser) (ctx : RouteContext) (clock : Clock) (body name : Bytes)
    (token : Option Bytes) (t : FileTree) : FileTree × Outcome :=
  match requireAuth ctx token clock.verify with
  | .error r => (t, .respond r)
  | .ok identity =>
    match decodePut json body name with
    | .error r => (t, .respond r)
    | .ok (data, version) =>
      match writeSecret json ⟨ctx.dataDir, identity, name⟩
          ⟨data, version, integrityKey ctx, clock.write⟩ t with
      | (t', .error e) => (t', writeFailure e)
      | (t', .ok ()) => (t', .respond (stored name version))

def readFailure : VaultStoreError → Outcome
  | .notFound => .respond secretNotFound
  | .panic => .panic
  | _ => .respond internalError

def writeGetResponse (shareData name : Bytes) (version : Nat) (createdNs updatedNs : Int) : Response :=
  let metaPart := ascii "\",\"name\":\"" ++ name ++ ascii "\",\"version\":" ++ decimal version ++
    ascii ",\"created_ns\":" ++ decimalInt createdNs ++ ascii ",\"updated_ns\":" ++
    decimalInt updatedNs ++ ascii "\x7d"
  if metaPart.length > 512 then internalError
  else jsonOk (ascii "\x7b\"share\":\"" ++ Base64.encode shareData ++ metaPart)

def handleGet (json : JsonParser) (ctx : RouteContext) (clock : Clock) (name : Bytes)
    (token : Option Bytes) (t : FileTree) : FileTree × Outcome :=
  match requireAuth ctx token clock.verify with
  | .error r => (t, .respond r)
  | .ok identity =>
    match readSecret ⟨ctx.dataDir, identity, name⟩ (integrityKey ctx) t with
    | .error e => (t, readFailure e)
    | .ok shareData =>
      match readMeta json ⟨ctx.dataDir, identity, name⟩ t with
      | .error .panic => (t, .panic)
      | .error _ => (t, .respond (writeGetResponse shareData name 0 0 0))
      | .ok m =>
        (t, .respond
          (writeGetResponse shareData name m.version.toNat m.createdNs.val m.updatedNs.val))

def deleted (name : Bytes) : Response :=
  jsonOkIn 256 (ascii "\x7b\"status\":\"deleted\",\"name\":\"" ++ name ++ ascii "\"\x7d")

def handleDelete (ctx : RouteContext) (clock : Clock) (name : Bytes) (token : Option Bytes)
    (t : FileTree) : FileTree × Outcome :=
  match requireAuth ctx token clock.verify with
  | .error r => (t, .respond r)
  | .ok identity =>
    match deleteSecret ⟨ctx.dataDir, identity, name⟩ t with
    | (t', .error e) => (t', readFailure e)
    | (t', .ok ()) => (t', .respond (deleted name))

inductive Route
  | health
  | status
  | guardians
  | challenge
  | session
  | push
  | pull
  | list
  | put (name : Bytes)
  | get (name : Bytes)
  | delete (name : Bytes)
  | reject (r : Response)
deriving DecidableEq

def onlyFor (allowed method : Method) (r : Route) : Route :=
  if method ≠ allowed then .reject methodNotAllowed else r

def secretsPath : Bytes := ascii "/v2/vault/secrets"

def dispatchSecrets (method : Method) : Bytes → Route
  | [] => onlyFor .get method .list
  | c :: name =>
    if c = slash then
      if name.length = 0 then .reject (badRequest "secret name required")
      else
        match method with
        | .put => .put name
        | .get => .get name
        | .delete => .delete name
        | _ => .reject methodNotAllowed
    else .reject notFound

def dispatch (method : Method) (path : Bytes) : Route :=
  if path = ascii "/v1/vault/health" then onlyFor .get method .health
  else if path = ascii "/v1/vault/status" then onlyFor .get method .status
  else if path = ascii "/v1/vault/guardians" then onlyFor .get method .guardians
  else if path = ascii "/v1/vault/auth/challenge" then onlyFor .post method .challenge
  else if path = ascii "/v1/vault/auth/session" then onlyFor .post method .session
  else if path = ascii "/v1/vault/push" then onlyFor .post method .push
  else if path = ascii "/v1/vault/pull" then onlyFor .post method .pull
  else if path = ascii "/v2/vault/auth/challenge" then onlyFor .post method .challenge
  else if path = ascii "/v2/vault/auth/session" then onlyFor .post method .session
  else if secretsPath.isPrefixOf path then dispatchSecrets method (path.drop secretsPath.length)
  else .reject notFound

def route (json : JsonParser) (ctx : RouteContext) (clock : Clock) (req : Request) (t : FileTree) :
    Option (FileTree × Outcome) :=
  match dispatch req.method req.path with
  | .put name => some (handlePut json ctx clock req.body name req.sessionToken t)
  | .get name => some (handleGet json ctx clock name req.sessionToken t)
  | .delete name => some (handleDelete ctx clock name req.sessionToken t)
  | .reject r => some (t, .respond r)
  | _ => none

lemma requireAuth_of_valid {ctx : RouteContext} {guardian : Guardian} {token identity : Bytes} {now : Int}
    (hg : ctx.guardian = some guardian)
    (h : Session.validateSessionToken (some token) guardian.serverSecret now = some identity) :
    requireAuth ctx (some token) now = .ok identity := by
  rw [requireAuth, hg]
  dsimp only
  rw [h]

def secretPath (name : Bytes) : Bytes := secretsPath ++ slash :: name

lemma dispatch_secretPath (method : Method) (name : Bytes) :
    dispatch method (secretPath name) = dispatchSecrets method (slash :: name) := by
  have hne : ∀ s, ¬ secretsPath <+: s → secretPath name ≠ s := by
    rintro s hs rfl
    exact hs (List.prefix_append _ _)
  rw [dispatch, if_neg (hne _ (by decide)), if_neg (hne _ (by decide)), if_neg (hne _ (by decide)),
    if_neg (hne _ (by decide)), if_neg (hne _ (by decide)), if_neg (hne _ (by decide)),
    if_neg (hne _ (by decide)), if_neg (hne _ (by decide)), if_neg (hne _ (by decide)),
    secretPath, if_pos (List.isPrefixOf_iff_prefix.mpr (List.prefix_append _ _)), List.drop_left]

def Route.name? : Route → Option Bytes
  | .put name | .get name | .delete name => some name
  | _ => none

variable {allowed method : Method} {r : Route}

lemma name?_onlyFor (h : r.name? = none) : (onlyFor allowed method r).name? = none := by
  unfold onlyFor
  split
  · rfl
  · exact h

lemma name?_of_ite {c : Prop} [Decidable c] {rest : Route} {name : Bytes} (hr : r.name? = none)
    (h : (if c then onlyFor allowed method r else rest).name? = some name) : rest.name? = some name := by
  by_cases hc : c
  · rw [if_pos hc, name?_onlyFor hr] at h
    cases h
  · rwa [if_neg hc] at h

lemma name?_dispatchSecrets {suffix name : Bytes} (h : (dispatchSecrets method suffix).name? = some name) :
    suffix = slash :: name := by
  cases suffix with
  | nil =>
    rw [dispatchSecrets, name?_onlyFor rfl] at h
    cases h
  | cons c rest =>
    unfold dispatchSecrets at h
    dsimp only at h
    split at h
    · next hc =>
      split at h
      · cases h
      · rw [hc]
        cases method <;> cases h <;> rfl
    · cases h

lemma path_of_dispatch {path name : Bytes} (h : (dispatch method path).name? = some name) :
    path = secretPath name := by
  rw [dispatch] at h
  iterate 9 replace h := name?_of_ite rfl h
  by_cases hp : secretsPath.isPrefixOf path
  · rw [if_pos hp] at h
    obtain ⟨suffix, rfl⟩ := List.isPrefixOf_iff_prefix.mp hp
    rw [List.drop_left] at h
    rw [secretPath, name?_dispatchSecrets h]
  · rw [if_neg hp] at h
    cases h

lemma route_other (json : JsonParser) (ctx : RouteContext) (clock : Clock) {req : Request}
    (h : ∀ name, req.path ≠ secretPath name) (t : FileTree) :
    route json ctx clock req t = none ∨ ∃ r, route json ctx clock req t = some (t, .respond r) := by
  have hname : ∀ name, (dispatch req.method req.path).name? ≠ some name :=
    fun name hn => h name (path_of_dispatch hn)
  rw [route]
  cases hd : dispatch req.method req.path with
  | put name => exact absurd (hd ▸ rfl) (hname name)
  | get name => exact absurd (hd ▸ rfl) (hname name)
  | delete name => exact absurd (hd ▸ rfl) (hname name)
  | reject r => exact .inr ⟨r, rfl⟩
  | _ => exact .inl rfl

end Orama.Vault.Server
