import Orama.Gateway.Policy

namespace Orama.Gateway
open Lib

def atoi (s : Bytes) : Option Int :=
  let digits := match s with
    | c :: cs => if c = 43 ∨ c = 45 then cs else c :: cs
    | [] => []
  if digits = [] then none
  else
    (accumulate digits).bind fun n =>
      let value : Int := if s.head? = some 45 then -n else n
      if -2 ^ 63 ≤ value ∧ value < 2 ^ 63 then some value else none

inductive FunctionRoute
  | listFunctions
  | deployFunction
  | deleteSecret (secretName : Bytes)
  | setSecret
  | listSecrets
  | invokeFunction (name : Bytes) (version : Int)
  | setEnabledFunction (name : Bytes) (enabled : Bool)
  | webSocket (name : Bytes) (version : Int)
  | listVersions (name : Bytes)
  | getFunctionLogs (name : Bytes)
  | deleteTrigger (name triggerID : Bytes)
  | addTrigger (name : Bytes)
  | listTriggers (name : Bytes)
  | getFunctionInfo (name : Bytes) (version : Int)
  | deleteFunction (name : Bytes) (version : Int)
  | reject (status : Nat) (message : Bytes)
deriving DecidableEq, Repr

def methodNotAllowed : FunctionRoute := .reject 405 (ascii "Method not allowed")

def handleFunctions : Method → FunctionRoute
  | .get => .listFunctions
  | .post => .deployFunction
  | _ => methodNotAllowed

def handleSecrets (method : Method) (secretName : Bytes) : FunctionRoute :=
  if secretName ≠ [] ∧ method = .delete then .deleteSecret secretName
  else if secretName = [] ∧ method = .put then .setSecret
  else if secretName = [] ∧ method = .get then .listSecrets
  else methodNotAllowed

def parseVersion (name : Bytes) : Bytes × Int :=
  match cut 64 name with
  | (base, some version) => if base = [] then (name, 0) else (base, (atoi version).getD 0)
  | (_, none) => (name, 0)

def handleTriggers (method : Method) (name triggerID : Bytes) : FunctionRoute :=
  if triggerID ≠ [] ∧ method = .delete then .deleteTrigger name triggerID
  else if method = .post then .addTrigger name
  else if method = .get then .listTriggers name
  else methodNotAllowed

def handleBare (method : Method) (name : Bytes) (version : Int) : FunctionRoute :=
  match method with
  | .get => .getFunctionInfo name version
  | .delete => .deleteFunction name version
  | _ => methodNotAllowed

def handleAction (method : Method) (name : Bytes) (version : Int) (action triggerID : Bytes) : FunctionRoute :=
  if action = ascii "invoke" then .invokeFunction name version
  else if action = ascii "disable" then .setEnabledFunction name false
  else if action = ascii "enable" then .setEnabledFunction name true
  else if action = ascii "ws" then .webSocket name version
  else if action = ascii "versions" then .listVersions name
  else if action = ascii "logs" then .getFunctionLogs name
  else if action = ascii "triggers" then handleTriggers method name triggerID
  else if action = [] then handleBare method name version
  else .reject 404 (ascii "Unknown action")

def handleFunctionByName (method : Method) (path : Bytes) : FunctionRoute :=
  let parts := cut 47 (trimPrefix path functionsPath)
  let action := parts.2.getD []
  if parts.1 = [] then .reject 400 (ascii "Function name required")
  else if parts.1 = ascii "secrets" then handleSecrets method action
  else
    let (name, version) := parseVersion parts.1
    if hasPrefix action (ascii "triggers/") then
      handleAction method name version (ascii "triggers") (trimPrefix action (ascii "triggers/"))
    else handleAction method name version action []

def routeFunctions (method : Method) (path : Bytes) : Option FunctionRoute :=
  if path = ascii "/v1/functions" then some (handleFunctions method)
  else if hasPrefix path functionsPath then some (handleFunctionByName method path)
  else none

def FunctionRoute.isControl : FunctionRoute → Bool
  | invokeFunction _ _ => false
  | webSocket _ _ => false
  | reject _ _ => false
  | _ => true

def EndsWith (w s : Bytes) : Prop := s = w ∨ hasSuffix s (47 :: w) = true

instance (w s : Bytes) : Decidable (EndsWith w s) := inferInstanceAs (Decidable (_ ∨ _))

def userText (path : Bytes) : Option Bytes :=
  match cut 47 (trimPrefix path functionsPath) with
  | (name, none) => some name
  | (name, some action) =>
    if name = ascii "secrets" then some action
    else if hasPrefix action (ascii "triggers/") then some (trimPrefix action (ascii "triggers/"))
    else none

def Shadowed (path : Bytes) : Prop :=
  hasPrefix path functionsPath = true ∧
    ∃ s, userText path = some s ∧ (EndsWith (ascii "invoke") s ∨ EndsWith (ascii "ws") s)

variable {w : Bytes}

lemma endsWith_append_iff (hw : 47 ∉ w) (a s : Bytes) : EndsWith w (a ++ 47 :: s) ↔ EndsWith w s := by
  grind [hasSuffix_cons_iff, EndsWith]

lemma endsWith_iff_of_suffix (hw : 47 ∉ w) (rest : Bytes) :
    hasSuffix (functionsPath ++ rest) (47 :: w) ↔ EndsWith w rest := by
  have hp : functionsPath ++ rest = ascii "/v1/functions" ++ 47 :: rest := rfl
  rw [hp, hasSuffix_cons_iff hw, EndsWith]

lemma policy_functions_iff (method : Method) (rest : Bytes) :
    (isPublicPath (functionsPath ++ rest) = false ∧ requiredScope method (functionsPath ++ rest) = some .admin) ↔
    ¬ (EndsWith (ascii "invoke") rest ∨ EndsWith (ascii "ws") rest) := by
  have hinvoke := endsWith_iff_of_suffix (w := ascii "invoke") (by decide) rest
  have hws := endsWith_iff_of_suffix (w := ascii "ws") (by decide) rest
  rw [isPublicPath_functions, requiredScope_functions, ← hinvoke, ← hws]
  change (hasSuffix _ (47 :: ascii "invoke") = false ∧ (if hasSuffix _ (47 :: ascii "invoke") = true then none
      else if hasSuffix _ (47 :: ascii "ws") = true then _ else _) = _) ↔ _
  cases hasSuffix (functionsPath ++ rest) (47 :: ascii "invoke") <;>
    cases hasSuffix (functionsPath ++ rest) (47 :: ascii "ws") <;> simp

variable {method : Method}

lemma action_of_isControl {name action : Bytes} {version : Int}
    (h : (handleAction method name version action []).isControl) :
    action ∈ [ascii "disable", ascii "enable", ascii "versions", ascii "logs", ascii "triggers", []] := by
  by_contra hne
  simp only [List.mem_cons, List.not_mem_nil, or_false, not_or] at hne
  simp only [handleAction, hne, if_false] at h
  split at h
  · cases h
  · split at h <;> cases h

lemma shadowed_iff {rest : Bytes} (hc : (handleFunctionByName method (functionsPath ++ rest)).isControl) :
    Shadowed (functionsPath ++ rest) ↔ (EndsWith (ascii "invoke") rest ∨ EndsWith (ascii "ws") rest) := by
  have hi : 47 ∉ ascii "invoke" := by decide
  have hw : 47 ∉ ascii "ws" := by decide
  have hshadow : Shadowed (functionsPath ++ rest) ↔ ∃ s, userText (functionsPath ++ rest) = some s ∧
        (EndsWith (ascii "invoke") s ∨ EndsWith (ascii "ws") s) := by
    simp [Shadowed, hasPrefix_append]
  rw [hshadow, userText, trimPrefix_append]
  rw [handleFunctionByName, trimPrefix_append] at hc
  rcases cut_cases 47 rest with ⟨_, hcut⟩ | ⟨a, b, _, rfl, hcut⟩
  · simp [hcut]
  · rw [endsWith_append_iff hi, endsWith_append_iff hw]
    simp only [hcut] at hc ⊢
    by_cases hsecrets : a = ascii "secrets"
    · simp [hsecrets]
    · by_cases htrigger : hasPrefix b (ascii "triggers/")
      · obtain ⟨t, rfl⟩ := exists_append_of_hasPrefix htrigger
        have hends : ∀ w, 47 ∉ w → (EndsWith w (ascii "triggers/" ++ t) ↔ EndsWith w t) :=
          fun w h => endsWith_append_iff h (ascii "triggers") t
        simp [hsecrets, htrigger, trimPrefix_append, hends _ hi, hends _ hw]
      · have hbare : ∀ action ∈ [ascii "disable", ascii "enable", ascii "versions", ascii "logs", ascii "triggers", []],
            ¬ (EndsWith (ascii "invoke") action ∨ EndsWith (ascii "ws") action) := by decide
        have hne : a ≠ [] := by
          rintro rfl
          cases hc
        simp only [if_neg hne, if_neg hsecrets, Option.getD_some, if_neg htrigger] at hc
        simp [hsecrets, htrigger, hbare b (action_of_isControl hc)]

/-- The policy guards a handler exactly when the user chose no text that looks
like an invocation or a WebSocket. -/
theorem policy_covers_iff {method : Method} {path : Bytes} {route : FunctionRoute}
    (hr : routeFunctions method path = some route) (hc : route.isControl = true) :
    (isPublicPath path = false ∧ requiredScope method path = some .admin) ↔ ¬ Shadowed path := by
  rw [routeFunctions] at hr
  split at hr
  · next hp =>
    subst hp
    have hpolicy : isPublicPath (ascii "/v1/functions") = false ∧
        requiredScope method (ascii "/v1/functions") = some .admin :=
      ⟨by decide, (by decide : requiredScope .get (ascii "/v1/functions") = some .admin)⟩
    exact iff_of_true hpolicy fun h => absurd h.1 (by decide)
  · grind [exists_append_of_hasPrefix, shadowed_iff, policy_functions_iff]

theorem policy_covers_logs : (isPublicPath (ascii "/v1/functions/f/logs") = false ∧
    requiredScope .get (ascii "/v1/functions/f/logs") = some .admin) ↔ ¬ Shadowed (ascii "/v1/functions/f/logs") :=
  policy_covers_iff (by decide : routeFunctions .get (ascii "/v1/functions/f/logs") =
    some (.getFunctionLogs (ascii "f"))) rfl

/-- Anyone deletes the secret named invoke. -/
theorem delete_secret_invoke_public : routeFunctions .delete (ascii "/v1/functions/secrets/invoke") =
    some (.deleteSecret (ascii "invoke")) ∧ isPublicPath (ascii "/v1/functions/secrets/invoke") = true := by
  decide

end Orama.Gateway
