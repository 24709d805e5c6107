import Orama.Lib.Text

namespace Orama.Push
open Lib

structure Defaults where
  ntfyBaseURL : Bytes
  ntfyAuthToken : Bytes
  expoAccessToken : Bytes

structure Config where
  ns : Bytes
  ntfyBaseURL : Bytes
  ntfyAuthToken : Bytes
  expoAccessToken : Bytes

structure Credentials where
  baseURL : Bytes
  authToken : Bytes

structure Ntfy where
  baseURL : Bytes
  authToken : Bytes
deriving DecidableEq

inductive Provider
  | ntfy (p : Ntfy)
  | expo (accessToken : Bytes)
deriving DecidableEq

inductive PushError
  | loadConfig (cause : Bytes)
  | notConfigured

def layer (field own : Bytes) : Bytes := if own = [] then field else own

def trimRight (sep : UInt8) (s : Bytes) : Bytes := (s.reverse.dropWhile (· = sep)).reverse

section
variable (isInternalBaseURL : Bytes → Bool)

/-- The operator's settings, with those of the namespace over them. An address of the operator's own network is
not taken from the namespace. -/
def Defaults.effective (d : Defaults) (ns : Bytes) : Option Config → Config
  | none => ⟨ns, d.ntfyBaseURL, d.ntfyAuthToken, d.expoAccessToken⟩
  | some nc => ⟨ns, if isInternalBaseURL nc.ntfyBaseURL then d.ntfyBaseURL else layer d.ntfyBaseURL nc.ntfyBaseURL,
      layer d.ntfyAuthToken nc.ntfyAuthToken, layer d.expoAccessToken nc.expoAccessToken⟩

def Config.ntfy (c : Config) (credentials : Option Credentials) : Ntfy :=
  match if c.ns = [] then none else credentials with
  | none => ⟨c.ntfyBaseURL, c.ntfyAuthToken⟩
  | some own => ⟨layer c.ntfyBaseURL own.baseURL, layer c.ntfyAuthToken own.authToken⟩

def factory (credentials : Option Credentials) (c : Config) : List Provider :=
  let ntfy := c.ntfy credentials
  (if ntfy.baseURL = [] then [] else [.ntfy { ntfy with baseURL := trimRight 47 ntfy.baseURL }]) ++
    if c.expoAccessToken = [] then [] else [.expo c.expoAccessToken]

def buildDispatcher (d : Defaults) (ns : Bytes) (stored : Except Bytes (Option Config))
    (credentials : Option Credentials) : Except PushError (List Provider) :=
  match stored with
  | .error cause => .error (.loadConfig cause)
  | .ok nc =>
    match factory credentials (d.effective isInternalBaseURL ns nc) with
    | [] => .error .notConfigured
    | providers => .ok providers

def Ntfy.authorization (p : Ntfy) : Option Bytes :=
  if p.authToken = [] then none else some (ascii "Bearer " ++ p.authToken)

def OwnToken (ns : Bytes) (stored : Except Bytes (Option Config)) (credentials : Option Credentials) : Prop :=
  (∃ nc, stored = .ok (some nc) ∧ nc.ntfyAuthToken ≠ []) ∨
    ns ≠ [] ∧ ∃ own, credentials = some own ∧ own.authToken ≠ []

variable {isInternalBaseURL} {d : Defaults} {ns : Bytes} {nc : Option Config} {stored : Except Bytes (Option Config)}
  {credentials : Option Credentials} {providers : List Provider} {p : Ntfy}

lemma buildDispatcher_eq_ok :
    buildDispatcher isInternalBaseURL d ns stored credentials = .ok providers ↔ ∃ nc, stored = .ok nc ∧ providers ≠ [] ∧
    factory credentials (d.effective isInternalBaseURL ns nc) = providers := by
  cases stored with
  | error cause => simp [buildDispatcher]
  | ok nc =>
    rw [buildDispatcher]
    cases h : factory credentials (d.effective isInternalBaseURL ns nc) with
    | nil =>
      constructor
      · intro hok
        cases hok
      · rintro ⟨nc', hnc, hne, heq⟩
        cases hnc
        exact absurd (heq.symm.trans h) hne
    | cons q rest =>
      constructor
      · intro hok
        cases hok
        exact ⟨nc, rfl, by simp, h⟩
      · rintro ⟨nc', hnc, -, heq⟩
        cases hnc
        rw [← heq, h]

lemma ntfy_mem_factory {c : Config} :
    .ntfy p ∈ factory credentials c ↔ (c.ntfy credentials).baseURL ≠ [] ∧ p = { c.ntfy credentials with
        baseURL := trimRight 47 (c.ntfy credentials).baseURL } := by
  simp only [factory, List.mem_append]
  split <;> split <;> simp_all

lemma layer_of_ne_nil {field own : Bytes} (h : own ≠ []) : layer field own = own := if_neg h

lemma ntfy_effective (isInternalBaseURL : Bytes → Bool) (d : Defaults) (token : Bytes)
    (h : OwnToken ns (.ok nc) credentials) :
    ({ d with ntfyAuthToken := token }.effective isInternalBaseURL ns nc).ntfy credentials =
      (d.effective isInternalBaseURL ns nc).ntfy credentials := by
  obtain ⟨nc', hstored, htoken⟩ | ⟨hns, own, rfl, htoken⟩ := h
  · cases hstored
    simp only [Defaults.effective, Config.ntfy, layer_of_ne_nil htoken]
  · cases nc <;> simp [Defaults.effective, Config.ntfy, hns, layer_of_ne_nil htoken]

end

def operator : Defaults := ⟨ascii "https://push.example", ascii "secret", []⟩

def tenant (token : Bytes) : Config := ⟨[116], ascii "https://own.example", token, []⟩

end Orama.Push
