import Orama.Vault.Handlers

open List
namespace Orama.Vault.Store
open Lib
variable {S : Set Path} {l : Location} {t u : FileTree}

def Location.Within (l : Location) (S : Set Path) : Prop :=
  (∀ q ∈ visits l.secretDir, q ∈ S) ∧ ∀ f, place l.secretDir ++ [f] ∈ S

lemma Location.Within.path (h : l.Within S) {f : Name} (hf : IsFileName f) : ∀ q ∈ visits (l.path f), q ∈ S := by
  intro q hq
  rw [Location.path, visits_child hf] at hq
  rcases mem_append.mp hq with hq | hq
  · exact h.1 q hq
  · rw [mem_singleton.mp hq]
    exact h.2 f

section
variable (h : AgreeOn S t u) (hl : l.Within S)
include h hl

lemma readSecret_agree (key : Bytes) : readSecret l key t = readSecret l key u := by
  obtain ⟨h1, h2, _⟩ := isFileName_names
  rw [readSecret, readSecret, h.readFile_eq (hl.path h1), h.readFile_eq (hl.path h2)]

lemma readMeta_agree (json : JsonParser) : readMeta json l t = readMeta json l u := by
  obtain ⟨_, _, h3, _⟩ := isFileName_names
  rw [readMeta, readMeta, h.readFile_eq (hl.path h3)]

lemma writePlan_agree (hv : ∀ q ∈ visits l.vaultDir, q ∈ S)
    (hc : ∀ q, q.dropLast = place l.vaultDir → q ∈ S) (json : JsonParser) (w : Write) :
    writePlan json l w t = writePlan json l w u := by
  obtain ⟨h1, _⟩ := isFileName_names
  have hx : secretExistsInternal l t = secretExistsInternal l u := by
    rw [secretExistsInternal, secretExistsInternal, h.access_eq (hl.path h1)]
  have hcount : countSecrets l t = countSecrets l u := by rw [countSecrets, countSecrets, h.countEntries_eq hv hc]
  rw [writePlan, writePlan, createdNs, createdNs, hx, hcount, readMeta_agree h hl]

end

lemma writeSecret_agree (hS : ∀ q ∈ S, q.dropLast ∈ S) (h : AgreeOn S t u) (hl : l.Within S)
    (hv : ∀ q ∈ visits l.vaultDir, q ∈ S) (hc : ∀ q, q.dropLast = place l.vaultDir → q ∈ S)
    (json : JsonParser) (w : Write) : (writeSecret json l w t).2 = (writeSecret json l w u).2 := by
  rw [writeSecret, writeSecret, ← writePlan_agree h hl hv hc]
  cases hp : writePlan json l w t with
  | error e => rfl
  | ok steps =>
    obtain ⟨_, _, ⟨created, rfl⟩, _⟩ := writePlan_eq_ok hp
    have hm := (advance_matches (DirStep.run l.secretDir) (AgreeOn S) (writeSecretInner w created) h
      fun s hs t u htu => htu.run hS (named_writeSecretInner w created s hs) hl.1 fun f _ => hl.2 f).1
    dsimp only
    rw [← hm]
    cases (advance (DirStep.run l.secretDir) (writeSecretInner w created) t).error with
    | none => rfl
    | some e => rfl

end Orama.Vault.Store

namespace Orama.Vault.Server
open Lib Store

def vaultPlace (dataDir identity : Bytes) : Path :=
  place (child (child dataDir (ascii "vaults")) identity)

def vaultContents (dataDir identity : Bytes) : Set Path :=
  { q | vaultPlace dataDir identity <+: q ∧ vaultPlace dataDir identity ≠ q }

def Confined (json : JsonParser) (ctx : RouteContext) (clock : Clock) (req : Request)
    (identity : Bytes) : Prop :=
  (∀ t t' o, route json ctx clock req t = some (t', o) →
    ∀ q ∈ vaultContents ctx.dataDir identity, t'.get q = t.get q) ∧
  ∀ t u, AgreeOn (vaultContents ctx.dataDir identity)ᶜ t u →
    (route json ctx clock req t).map Prod.snd = (route json ctx clock req u).map Prod.snd

def IsIdentity (identity : Bytes) : Prop :=
  identity.length = 64 ∧ ∀ c ∈ identity, (hexValue c).isSome

instance (identity : Bytes) : Decidable (IsIdentity identity) := inferInstanceAs (Decidable (_ ∧ _))

def Avoids (ctx : RouteContext) (identity other : Bytes) (method : Method) (name : Bytes) : Prop :=
  let l : Location := ⟨ctx.dataDir, identity, name⟩
  name = [] ∨
  match method with
  | .get =>
    ¬ WellFormed (l.path shareBin) ∨ (∃ q ∈ visits l.secretDir, place (l.path shareBin) <+: q) ∨
      ∀ q ∈ visits (l.path shareBin), q ∉ vaultContents ctx.dataDir other
  | .delete =>
    ¬ WellFormed l.secretDir ∨ (∀ q ∈ visits l.secretDir, q ∉ vaultContents ctx.dataDir other) ∧
      ¬ place l.secretDir <+: vaultPlace ctx.dataDir other
  | _ => True

section
variable {dataDir a b : Bytes}

lemma isFileName_of_isIdentity (h : IsIdentity a) : IsFileName a := by
  refine ⟨fun hs => ?_, ?_, ?_, ?_⟩
  · exact absurd (h.2 slash hs) (by decide)
  · rintro rfl
    exact absurd h.1 (by decide)
  · rintro rfl
    exact absurd h.1 (by decide)
  · rintro rfl
    exact absurd h.1 (by decide)

lemma isFileName_of_validate {name : Bytes} (h : validateSecretName name = .ok ()) : IsFileName name := by
  unfold validateSecretName at h
  split at h
  · cases h
  · next hne =>
    split at h
    · cases h
    · split at h
      · next hall =>
        rw [all_eq_true] at hall
        refine ⟨fun hs => ?_, ?_, ?_, ?_⟩
        · exact absurd (hall slash hs) (by decide)
        · rintro rfl
          exact hne rfl
        · rintro rfl
          exact absurd (hall 46 (by decide)) (by decide)
        · rintro rfl
          exact absurd (hall 46 (by decide)) (by decide)
      · cases h

lemma vaultPlace_eq (ha : IsIdentity a) : vaultPlace dataDir a = place (child dataDir (ascii "vaults")) ++ [a] :=
  place_child (isFileName_of_isIdentity ha) _

variable {q r : Path}

lemma notMem_vaultContents (ha : IsIdentity a) (hb : IsIdentity b) (hne : a ≠ b) (hq : q <+: r)
    (hr : vaultPlace dataDir a <+: r) : q ∉ vaultContents dataDir b := by
  rintro ⟨hbq, _⟩
  rw [vaultPlace_eq hb] at hbq
  rw [vaultPlace_eq ha] at hr
  have hle := prefix_of_prefix_length_le hr (hbq.trans hq) (by simp)
  have heq := hle.eq_of_length (by simp)
  simp [hne] at heq

lemma append_mem_vaultContents (hr : r ≠ []) : vaultPlace dataDir b ++ r ∈ vaultContents dataDir b :=
  ⟨prefix_append _ _, by simpa using hr⟩

lemma dropLast_notMem_vaultContents (h : q ∈ (vaultContents dataDir b)ᶜ) :
    q.dropLast ∈ (vaultContents dataDir b)ᶜ := by
  rintro ⟨hp, hne⟩
  refine h ⟨hp.trans (List.dropLast_prefix q), ?_⟩
  rintro rfl
  exact hne (hp.eq_of_length_le (by simp))

lemma notMem_vaultContents_of_visits (hb : IsIdentity b) (hD : dotdot ∉ splitSlash dataDir)
    (hq : q ∈ visits dataDir) : q ∉ vaultContents dataDir b := by
  rintro ⟨hp, _⟩
  have hlen := (hp.trans (prefix_place hD q hq)).length_le
  rw [vaultPlace_eq hb, place_child (by decide)] at hlen
  simp at hlen

lemma within_of_isFileName {name : Bytes} (ha : IsIdentity a) (hb : IsIdentity b) (hne : a ≠ b)
    (hD : ∀ q ∈ visits dataDir, q ∉ vaultContents dataDir b) (hn : IsFileName name) :
    let l : Location := ⟨dataDir, a, name⟩
    l.Within (vaultContents dataDir b)ᶜ ∧ (∀ q ∈ visits l.vaultDir, q ∈ (vaultContents dataDir b)ᶜ) ∧
      ∀ q, q.dropLast = place l.vaultDir → q ∈ (vaultContents dataDir b)ᶜ := by
  intro l
  have hvaults : IsFileName (ascii "vaults") := by decide
  have hplace : place l.secretDir = vaultPlace dataDir a ++ [name] := place_child hn _
  have habove : place dataDir ++ [ascii "vaults"] <+: vaultPlace dataDir a := by grind [vaultPlace_eq, place_child]
  have hvisits : ∀ q ∈ visits l.vaultDir, q ∈ (vaultContents dataDir b)ᶜ := by
    intro q hq
    rw [Location.vaultDir, visits_child (isFileName_of_isIdentity ha), visits_child hvaults] at hq
    simp only [mem_append, mem_singleton] at hq
    obtain (hq | rfl) | rfl := hq
    · exact hD q hq
    · exact notMem_vaultContents ha hb hne habove prefix_rfl
    · rw [← vaultPlace_eq ha]
      exact notMem_vaultContents ha hb hne prefix_rfl prefix_rfl
  refine ⟨⟨fun q hq => ?_, fun f => ?_⟩, hvisits, fun q hq => ?_⟩
  · rw [Location.secretDir, visits_child hn] at hq
    rcases mem_append.mp hq with hq | hq
    · exact hvisits q hq
    · rw [mem_singleton.mp hq]
      exact notMem_vaultContents ha hb hne prefix_rfl (prefix_append _ _)
  · rw [hplace, append_assoc]
    exact notMem_vaultContents ha hb hne prefix_rfl (prefix_append _ _)
  · have hp : vaultPlace dataDir a <+: q := by
      rw [show vaultPlace dataDir a = q.dropLast from hq.symm]
      exact List.dropLast_prefix q
    exact notMem_vaultContents ha hb hne prefix_rfl hp

end

section
variable {json : JsonParser} {ctx : RouteContext} {clock : Clock} {body name : Bytes}
  {token : Option Bytes} {t u : FileTree}

lemma decodePut_eq_ok {r : Bytes × UInt64} (h : decodePut json body name = .ok r) :
    validateSecretName name = .ok () := by
  grind [decodePut]

lemma handlePut_of_decode {identity data : Bytes} {version : UInt64}
    (ha : requireAuth ctx token clock.verify = .ok identity)
    (hd : decodePut json body name = .ok (data, version)) (t : FileTree) :
    handlePut json ctx clock body name token t =
      ((writeSecret json ⟨ctx.dataDir, identity, name⟩ ⟨data, version, integrityKey ctx, clock.write⟩ t).1,
      match (writeSecret json ⟨ctx.dataDir, identity, name⟩ ⟨data, version, integrityKey ctx, clock.write⟩ t).2 with
      | .error e => writeFailure e | .ok () => .respond (stored name version)) := by
  grind [handlePut]

lemma handlePut_cases (json : JsonParser) (ctx : RouteContext) (clock : Clock) (body name : Bytes)
    (token : Option Bytes) : (∃ r, ∀ t, handlePut json ctx clock body name token t = (t, .respond r)) ∨
      ∃ identity data version, requireAuth ctx token clock.verify = .ok identity ∧
      decodePut json body name = .ok (data, version) := by
  cases ha : requireAuth ctx token clock.verify with
  | error r =>
    refine .inl ⟨r, fun t => ?_⟩
    rw [handlePut, ha]
  | ok identity =>
    cases hd : decodePut json body name with
    | error r =>
      refine .inl ⟨r, fun t => ?_⟩
      rw [handlePut, ha]
      dsimp only
      rw [hd]
    | ok r => exact .inr ⟨identity, r.1, r.2, rfl, rfl⟩

variable {a b : Bytes}

lemma confined_handlePut (ha : IsIdentity a) (hb : IsIdentity b) (hne : a ≠ b)
    (hD : ∀ q ∈ visits ctx.dataDir, q ∉ vaultContents ctx.dataDir b)
    (hauth : requireAuth ctx token clock.verify = .ok a) :
    (∀ q ∈ vaultContents ctx.dataDir b, (handlePut json ctx clock body name token t).1.get q = t.get q) ∧
    (AgreeOn (vaultContents ctx.dataDir b)ᶜ t u →
      (handlePut json ctx clock body name token t).2 = (handlePut json ctx clock body name token u).2) := by
  obtain ⟨r, hr⟩ | ⟨identity, data, version, hid, hd⟩ := handlePut_cases json ctx clock body name token
  · rw [hr, hr]
    exact ⟨fun _ _ => rfl, fun _ => rfl⟩
  · rw [hauth, Except.ok.injEq] at hid
    subst hid
    have hn := isFileName_of_validate (decodePut_eq_ok hd)
    obtain ⟨hl, hv, hc⟩ := within_of_isFileName ha hb hne hD hn
    rw [handlePut_of_decode hauth hd, handlePut_of_decode hauth hd]
    constructor
    · intro q hq
      dsimp only
      obtain ⟨e, _, he⟩ | ⟨created, p, hleft, hs, _⟩ := writeSecret_cases json
        ⟨ctx.dataDir, a, name⟩ ⟨data, version, integrityKey ctx, clock.write⟩ t
      · rw [he]
      · rw [hs]
        apply hleft.get
        · exact fun hm => hl.1 q hm hq
        · intro hdrop
          have hplace : q.dropLast = vaultPlace ctx.dataDir a ++ [name] :=
            hdrop.trans (place_child hn _)
          have hp : vaultPlace ctx.dataDir a <+: q.dropLast := hplace ▸ prefix_append _ _
          exact notMem_vaultContents ha hb hne prefix_rfl (hp.trans (List.dropLast_prefix q)) hq
    · grind [writeSecret_agree, dropLast_notMem_vaultContents]

end
end Orama.Vault.Server
