import Orama.Gateway.AuthHandlers
import Orama.Gateway.KeyRuns

namespace Orama.Gateway
open Lib

lemma Grows.refl (db : Database) : Grows db db := ⟨fun _ h => h, fun _ h => .inl h⟩

lemma Grows.trans {db₁ db₂ db₃ : Database} (h : Grows db₁ db₂) (h' : Grows db₂ db₃) : Grows db₁ db₃ := by
  constructor
  · exact fun n hn => h'.mem n (h.mem n hn)
  · intro n hn
    rcases h'.named n hn with hn | hn
    · exact h.named n hn
    · exact .inr hn

/-- A relation between databases that the statements of the handlers respect, as
long as keys are made in certain namespaces and refresh tokens for certain
subjects. -/
structure Frame (svc : KeyService) (Names : Bytes → Prop) (Subjects : Bytes → List (Bytes × Bytes) → Prop)
    (R : Database → Database → Prop) : Prop where
  refl : ∀ db, R db db
  trans : ∀ {db₁ db₂ db₃}, R db₁ db₂ → R db₂ db₃ → R db₁ db₃
  ensureNamespace : ∀ db {name}, name ≠ [] → R db (db.ensureNamespace name)
  storeRefreshToken : ∀ {db db' now nsID subject refresh custom}, Subjects subject custom →
    storeRefreshToken db now nsID subject refresh custom = some db' → R db db'
  claimRefreshToken : ∀ {db db' now nsID hashed row},
    claimRefreshToken db now nsID hashed = some (row, db') → R db db'
  getOrCreateAPIKey : ∀ db wallet {ns} buf, Names (namespaceName ns) → R db (getOrCreateAPIKey svc db wallet ns buf).2

namespace Frame
variable {svc : AuthService} {Names : Bytes → Prop} {Subjects : Bytes → List (Bytes × Bytes) → Prop}
  {R : Database → Database → Prop} (hR : Frame svc.toKeyService Names Subjects R)

include hR

section
variable (db : Database) (m : Moment) {ns wallet : Bytes}

lemma issueTokens (hs : Subjects wallet (resolveCustomClaims m wallet ns)) :
    R db (Gateway.issueTokens svc db m wallet ns).2 := by
  obtain ⟨nsID, hres, _⟩ := resolveNamespaceID_eq db ns
  have hns := hR.ensureNamespace db (namespaceName_ne_nil ns)
  simp only [Gateway.issueTokens, hres]
  split
  · exact hR.refl db
  split
  · exact hR.refl db
  · exact hR.refl db
  split
  · exact hns
  · next h => exact hR.trans hns (hR.storeRefreshToken hs h)

lemma issueAPIKey (wallet : Bytes)
    (hn : Names (namespaceName ns)) : R db (Gateway.issueAPIKey svc db m wallet ns).2 := by
  have h := hR.getOrCreateAPIKey db wallet m.keyBuf hn
  rw [Gateway.issueAPIKey]
  split <;> next heq =>
    rw [heq] at h
    exact h

lemma issueSession (hn : Names (namespaceName ns))
    (hs : Subjects wallet (resolveCustomClaims m wallet ns)) : R db (Gateway.issueSession svc db m wallet ns).2 := by
  have htokens := hR.issueTokens db m hs
  rw [Gateway.issueSession]
  split
  · next heq =>
    rw [heq] at htokens
    exact htokens
  · next token refresh db' heq =>
    rw [heq] at htokens
    have hkey := hR.issueAPIKey db' m wallet hn
    split <;> next hkeq =>
      rw [hkeq] at hkey
      exact hR.trans htokens hkey

lemma finishKey (wallet : Bytes)
    (hn : Names (namespaceName ns)) : R db (Gateway.finishKey svc db m wallet ns).2 := by
  grind [issueAPIKey, Gateway.finishKey]

lemma refreshToken (token ns : Bytes)
    (hs : ∀ {nsID row db'}, Gateway.claimRefreshToken (db.ensureNamespace (namespaceName ns)) m.now nsID
      (sha256Hex token) = some (row, db') → Subjects row.subject row.customClaims) :
    R db (Gateway.refreshToken svc db m token ns).2 := by
  obtain ⟨nsID, hres, _⟩ := resolveNamespaceID_eq db ns
  have hns := hR.ensureNamespace db (namespaceName_ne_nil ns)
  simp only [Gateway.refreshToken, hres]
  split
  · exact hR.refl db
  split
  · exact hns
  · next hclaim =>
    have hused := hR.trans hns (hR.claimRefreshToken hclaim)
    split
    · exact hused
    · exact hused
    split
    · exact hused
    · next hstore => exact hR.trans hused (hR.storeRefreshToken (hs hclaim) hstore)

end

omit hR in
lemma serve {β : Type} (hrefl : ∀ db, R db db) (c : Call β) (db : Database) {f : β → AuthResponse × Database}
    (h : ∀ b, c.method = .post → c.body = some b → R db (f b).2) : R db (c.serve db f).2 := by
  rw [Call.serve]
  split
  · exact hrefl db
  · next hm =>
    split
    · exact hrefl db
    · next b hb => exact h b (not_not.1 hm) hb

lemma simpleAPIKeyHandler (db : Database) (m : Moment) (key : Bytes) (c : Call SimpleAPIKeyRequest)
    (hn : ∀ req, c.method = .post → c.body = some req → m.clusterOf req.ns = .ready → Names (namespaceName req.ns)) :
    R db (Gateway.simpleAPIKeyHandler svc db m key c).2 := by
  rw [Gateway.simpleAPIKeyHandler]
  split
  · exact hR.refl db
  split
  · exact hR.refl db
  apply serve hR.refl
  intro req hm hb
  split
  · exact hR.refl db
  split
  · dsimp only
    split <;> exact hR.ensureNamespace db (namespaceName_ne_nil req.ns)
  · exact hR.refl db
  · grind [finishKey]

lemma refreshHandler (db : Database) (m : Moment) (c : Call RefreshRequest)
    (hs : ∀ req, c.body = some req → ∀ {nsID row db'},
      Gateway.claimRefreshToken (db.ensureNamespace (namespaceName req.ns)) m.now nsID
        (sha256Hex req.refreshToken) = some (row, db') → Subjects row.subject row.customClaims) :
    R db (Gateway.refreshHandler svc db m c).2 := by
  apply serve hR.refl
  intro req _ hb
  have h := hR.refreshToken db m req.refreshToken req.ns (hs req hb)
  split
  · exact hR.refl db
  split
  · next heq =>
    rw [heq] at h
    split <;> exact h
  · next heq =>
    rw [heq] at h
    exact h

section
variable {c : Call SignedRequest} {req : SignedRequest} (hm : c.method = .post) (hb : c.body = some req)
  (hok : req.refused svc = none)

include hm hb hok

lemma verifyHandler (db : Database) (m : Moment) (hn : Names (namespaceName req.ns))
    (hs : Subjects req.wallet (resolveCustomClaims m req.wallet req.ns)) :
    R (req.mark svc db m) (Gateway.verifyHandler svc db m c).2 := by
  grind [issueSession, Gateway.verifyHandler, Call.serve]

lemma issueAPIKeyHandler (db : Database) (m : Moment)
    (hn : m.clusterOf req.ns = .ready → Names (namespaceName req.ns)) :
    R (req.mark svc db m) (Gateway.issueAPIKeyHandler svc db m c).2 := by
  simp only [Gateway.issueAPIKeyHandler, Call.serve, hm, hb, hok, ne_eq, not_true_eq_false, if_false]
  split
  · exact hR.refl _
  · exact hR.refl _
  · exact hR.refl _
  · grind [finishKey]

end
end Frame

section
variable (svc : AuthService)

lemma apiKeyToJWTHandler_snd (db : Database) (m : Moment) (method : Method)
    (key : Bytes) : (apiKeyToJWTHandler svc db m method key).2 = db := by
  grind [apiKeyToJWTHandler]

lemma withAPIKey_cases (db : Database) (key : Bytes) (f : AuthResponse × Database) :
    ((lookupAPIKeyEntry svc.toKeyService db key).isSome ∧ withAPIKey svc db key f = f) ∨
    ∃ status message, withAPIKey svc db key f = (.error status message, db) := by
  grind [withAPIKey]

lemma Call.serve_signed (c : Call SignedRequest) (db : Database) (f : SignedRequest → AuthResponse × Database) :
    (∃ req, c.method = .post ∧ c.body = some req ∧ req.refused svc = none) ∨ ∃ status message, (c.serve db fun req =>
        match req.refused svc with
        | some response => (response, db)
        | none => f req) = (.error status message, db) := by
  rw [Call.serve]
  split
  · exact .inr ⟨_, _, rfl⟩
  · next hm =>
    cases hb : c.body with
    | none => exact .inr ⟨_, _, rfl⟩
    | some req => grind [SignedRequest.refused]

lemma verifyHandler_cases (db : Database) (m : Moment) (c : Call SignedRequest) :
    (∃ req, c.method = .post ∧ c.body = some req ∧ req.refused svc = none) ∨
    ∃ status message, verifyHandler svc db m c = (.error status message, db) :=
  c.serve_signed svc db _

lemma issueAPIKeyHandler_cases (db : Database) (m : Moment) (c : Call SignedRequest) :
    (∃ req, c.method = .post ∧ c.body = some req ∧ req.refused svc = none) ∨
    ∃ status message, issueAPIKeyHandler svc db m c = (.error status message, db) :=
  c.serve_signed svc db _

end
end Orama.Gateway
