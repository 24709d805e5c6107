import Orama.Lib.Loop

namespace Orama.Lib.Merkle
open List
section
variable {β γ : Type} (node : β → β → β)

def pairUp : List β → List β
  | [] => []
  | [_] => []
  | a :: b :: rest => node a b :: pairUp rest

def collapse : Nat → List β → List β
  | 0, level => level
  | fuel + 1, level => if level.length > 1 then collapse fuel (pairUp node level) else level

lemma length_pairUp (level : List β) : (pairUp node level).length = level.length / 2 := by
  induction level using pairUp.induct with
  | case1 => simp [pairUp]
  | case2 a => simp [pairUp]
  | case3 a b rest ih =>
    simp only [pairUp, length_cons, ih]
    omega

variable {level : List β}

lemma length_collapse {fuel : Nat} (hpos : 0 < level.length) (h : level.length ≤ fuel) :
    (collapse node fuel level).length = 1 := by
  induction fuel generalizing level with
  | zero => omega
  | succ fuel ih => grind [length_pairUp, collapse]

variable {node} {node' : γ → γ → γ} {f : β → γ} (hf : ∀ a b, f (node a b) = node' (f a) (f b))
include hf in
lemma map_pairUp (level : List β) : (pairUp node level).map f = pairUp node' (level.map f) := by
  induction level using pairUp.induct with
  | case1 => rfl
  | case2 a => rfl
  | case3 a b rest ih => rw [pairUp, map_cons, hf, ih, map_cons, map_cons, pairUp]

include hf in
lemma map_collapse (fuel : Nat) (level : List β) :
    (collapse node fuel level).map f = collapse node' fuel (level.map f) := by
  induction fuel generalizing level with
  | zero => rfl
  | succ fuel ih =>
    rw [collapse, collapse, length_map]
    split
    · rw [ih, map_pairUp hf]
    · rfl

lemma forall_collapse {P : β → Prop} (hP : ∀ a b, P a → P b → P (node a b)) (fuel : Nat) (h : ∀ a ∈ level, P a) :
    ∀ a ∈ collapse node fuel level, P a := by
  have hpair : ∀ level : List β, (∀ a ∈ level, P a) → ∀ a ∈ pairUp node level, P a := by
    intro level
    induction level using pairUp.induct with
    | case1 => exact nofun
    | case2 b => exact nofun
    | case3 a b rest ih =>
      intro h
      rw [forall_mem_cons, forall_mem_cons] at h
      rw [pairUp, forall_mem_cons]
      exact ⟨hP a b h.1 h.2.1, ih h.2.2⟩
  induction fuel generalizing level with
  | zero => exact h
  | succ fuel ih =>
    rw [collapse]
    split
    · exact ih (hpair level h)
    · exact h

end

section
variable {β : Type} (node : β → β → β) (d : β)

def joinLevel (current : List β) (nextLen : Nat) : List β :=
  (List.range nextLen).foldl
    (fun c i => c.set i (node (c.getD (i * 2) d) (c.getD (i * 2 + 1) d))) current

def joinLevels : Nat → List β → Nat → List β
  | 0, current, _ => current
  | fuel + 1, current, len =>
    if len > 1 then joinLevels fuel (joinLevel node d current (len / 2)) (len / 2) else current

lemma getElem?_pairUp (level : List β) {i : Nat} (h : i < level.length / 2) :
    (pairUp node level)[i]? = some (node (level.getD (i * 2) d) (level.getD (i * 2 + 1) d)) := by
  induction level using pairUp.induct generalizing i with
  | case1 => simp at h
  | case2 a => simp at h
  | case3 a b rest ih =>
    cases i with
    | zero => rfl
    | succ i =>
      have hi : i < rest.length / 2 := by
        simp only [length_cons] at h
        omega
      rw [pairUp, getElem?_cons_succ, ih hi, show (i + 1) * 2 = i * 2 + 1 + 1 by omega]
      rfl

lemma joinLevel_eq (current : List β) (nextLen : Nat) (h : nextLen * 2 ≤ current.length) :
    joinLevel node d current nextLen = pairUp node (current.take (nextLen * 2)) ++ current.drop nextLen := by
  generalize hu : pairUp node (current.take (nextLen * 2)) = up
  have hlen : up.length = nextLen := by
    rw [← hu, length_pairUp, length_take]
    omega
  have hup : ∀ i < nextLen, up[i]? = some (node (current.getD (i * 2) d) (current.getD (i * 2 + 1) d)) := by
    intro i hi
    have htake : ∀ j < nextLen * 2, (current.take (nextLen * 2)).getD j d = current.getD j d := by
      grind
    rw [← hu, getElem?_pairUp node d _ (by rw [length_take]; omega), htake _ (by omega), htake _ (by omega)]
  have hinv := Loop.foldl_range_induction
    (fun c i => c.set i (node (c.getD (i * 2) d) (c.getD (i * 2 + 1) d))) current nextLen
    (fun n c => c = up.take n ++ current.drop n) rfl (by
      intro i c hi hc
      have hprefix : (up.take i).length = i := by
        rw [length_take]
        omega
      have hget : ∀ j, i ≤ j → c.getD j d = current.getD j d := by grind
      rw [hget _ (by omega), hget _ (by omega), hc, set_append_right _ _ hprefix.le, hprefix,
        Nat.sub_self, drop_eq_getElem_cons (by omega), set_cons_zero, take_add_one, hup i hi]
      simp)
  rw [joinLevel, hinv, take_of_length_le hlen.le]

lemma pairUp_take (level : List β) : pairUp node (level.take (level.length / 2 * 2)) = pairUp node level := by
  induction level using pairUp.induct with
  | case1 => simp
  | case2 a => simp [pairUp]
  | case3 a b rest ih =>
    have hlen : (a :: b :: rest).length / 2 * 2 = rest.length / 2 * 2 + 1 + 1 := by
      simp only [length_cons]
      omega
    rw [hlen, take_succ_cons, take_succ_cons, pairUp, ih, pairUp]

variable {len : Nat}

lemma getD_zero_take (current : List β) (hpos : 0 < len) : (current.take len).getD 0 d = current.getD 0 d := by
  grind

lemma joinLevels_getD (fuel : Nat) {current : List β} (hpos : 0 < len) (h : len ≤ current.length) :
    (joinLevels node d fuel current len).getD 0 d = (collapse node fuel (current.take len)).getD 0 d := by
  induction fuel generalizing current len with
  | zero => exact (getD_zero_take d current hpos).symm
  | succ fuel ih =>
    have hlen : (current.take len).length = len := length_take_of_le h
    rw [joinLevels, collapse, hlen]
    split
    · have hjoin := joinLevel_eq node d current (len / 2) (by omega)
      have hpair : pairUp node (current.take (len / 2 * 2)) = pairUp node (current.take len) := by
        rw [← pairUp_take node (current.take len), hlen, take_take, Nat.min_eq_left (by omega)]
      have hup : (pairUp node (current.take len)).length = len / 2 := by rw [length_pairUp, hlen]
      rw [hpair] at hjoin
      rw [ih (by omega) (by rw [hjoin, length_append, hup]; omega), hjoin, take_left' hup]
    · exact (getD_zero_take d current hpos).symm

end

inductive HashTree (α : Type)
  | leaf (a : α)
  | pad
  | node (l r : HashTree α)

namespace HashTree
variable {α : Type}

def leaves : HashTree α → List α
  | leaf a => [a]
  | pad => []
  | node l r => leaves l ++ leaves r

end HashTree

section
variable {α M D : Type} (hash : M → D) (pair : D → D → M) (text : α → M) (zero : D)

def digest : HashTree α → D
  | .leaf a => hash (text a)
  | .pad => zero
  | .node l r => hash (pair (digest l) (digest r))

def messages : HashTree α → List M
  | .leaf a => [text a]
  | .pad => []
  | .node l r => pair (digest hash pair text zero l) (digest hash pair text zero r) :: (messages l ++ messages r)

abbrev Step (D : Type) := Bool × D

def stepMessage (current : D) (step : Step D) : M :=
  if step.1 then pair step.2 current else pair current step.2

def climb (current : D) (steps : List (Step D)) : D :=
  steps.foldl (fun current step => hash (stepMessage pair current step)) current

def climbMessages (current : D) : List (Step D) → List M
  | [] => []
  | step :: steps => stepMessage pair current step :: climbMessages (hash (stepMessage pair current step)) steps

def Opens (m : M) : HashTree α → List (Step D) → Prop
  | .leaf a, [] => m = text a
  | .leaf _, _ :: _ => False
  | .pad, _ => False
  | .node _ _, [] => False
  | .node l r, step :: path =>
    if step.1 then step.2 = digest hash pair text zero l ∧ Opens m r path
    else step.2 = digest hash pair text zero r ∧ Opens m l path

/-- The path, from the root down, ends at an inner node whose two digests are
the text, or goes on below an entry that is itself the text of a node. -/
def Confused (m : M) : HashTree α → List (Step D) → Prop
  | .leaf _, [] => False
  | .leaf a, step :: path => text a = stepMessage pair (climb hash pair (hash m) path.reverse) step
  | .pad, _ => False
  | .node l r, [] => m = pair (digest hash pair text zero l) (digest hash pair text zero r)
  | .node l r, step :: path =>
    if step.1 then step.2 = digest hash pair text zero l ∧ Confused m r path
    else step.2 = digest hash pair text zero r ∧ Confused m l path

lemma climb_concat (current : D) (steps : List (Step D)) (step : Step D) :
    climb hash pair current (steps ++ [step]) = hash (stepMessage pair (climb hash pair current steps) step) := by
  rw [climb, foldl_append]
  rfl

lemma climbMessages_concat (current : D) (steps : List (Step D)) (step : Step D) :
    climbMessages hash pair current (steps ++ [step]) =
    climbMessages hash pair current steps ++ [stepMessage pair (climb hash pair current steps) step] := by
  induction steps generalizing current with
  | nil => rfl
  | cons s steps ih =>
    rw [cons_append, climbMessages, ih]
    rfl

structure CollisionFree (K : List M) : Prop where
  injective : ∀ a ∈ K, ∀ b ∈ K, hash a = hash b → a = b
  ne_zero : ∀ m ∈ K, hash m ≠ zero

instance [DecidableEq M] [DecidableEq D] (K : List M) : Decidable (CollisionFree hash zero K) :=
  decidable_of_iff ((∀ a ∈ K, ∀ b ∈ K, hash a = hash b → a = b) ∧ ∀ m ∈ K, hash m ≠ zero)
    ⟨fun h => ⟨h.1, h.2⟩, fun h => ⟨h.injective, h.ne_zero⟩⟩

variable {hash zero} in
lemma CollisionFree.eq_iff {K : List M} (h : CollisionFree hash zero K) {a b : M} (ha : a ∈ K)
    (hb : b ∈ K) : hash a = hash b ↔ a = b := ⟨h.injective a ha b hb, congrArg hash⟩

variable {m : M} {t : HashTree α}

lemma exists_leaf_of_opens {path : List (Step D)} (h : Opens hash pair text zero m t path) :
    ∃ a ∈ t.leaves, m = text a := by
  induction path generalizing t with
  | nil =>
    cases t with
    | leaf a => exact ⟨a, mem_singleton_self a, h⟩
    | pad => exact h.elim
    | node l r => exact h.elim
  | cons step path ih =>
    cases t with
    | leaf a => exact h.elim
    | pad => exact h.elim
    | node l r =>
      rw [Opens] at h
      split at h
      · obtain ⟨a, ha, hm⟩ := ih h.2
        exact ⟨a, mem_append_right _ ha, hm⟩
      · obtain ⟨a, ha, hm⟩ := ih h.2
        exact ⟨a, mem_append_left _ ha, hm⟩

variable {hash pair text zero} {K : List M} (hK : CollisionFree hash zero K)
  (hpair : ∀ a b c d, pair a b = pair c d → a = c ∧ b = d)

include hpair in
lemma stepMessage_eq_pair {current : D} {step : Step D} {a b : D} : stepMessage pair current step = pair a b ↔
      if step.1 then step.2 = a ∧ current = b else step.2 = b ∧ current = a := by
  unfold stepMessage
  split
  · exact ⟨hpair _ _ _ _, fun h => by rw [h.1, h.2]⟩
  · exact ⟨fun h => (hpair _ _ _ _ h).symm, fun h => by rw [h.1, h.2]⟩

include hK hpair in
lemma climb_eq_digest_iff (hm : m ∈ K) (path : List (Step D)) (ht : ∀ x ∈ messages hash pair text zero t, x ∈ K)
    (hp : ∀ x ∈ climbMessages hash pair (hash m) path.reverse, x ∈ K) :
    climb hash pair (hash m) path.reverse = digest hash pair text zero t ↔
      Opens hash pair text zero m t path ∨ Confused hash pair text zero m t path := by
  induction path generalizing t with
  | nil =>
    change hash m = _ ↔ _
    cases t with
    | leaf a => rw [digest, hK.eq_iff hm (ht _ (mem_singleton_self _)), Opens, Confused, or_false]
    | pad => exact iff_of_false (hK.ne_zero m hm) (not_or_intro id id)
    | node l r => rw [digest, hK.eq_iff hm (ht _ mem_cons_self), Opens, Confused, false_or]
  | cons step path ih =>
    rw [reverse_cons, climbMessages_concat, forall_mem_append, forall_mem_singleton] at hp
    rw [reverse_cons, climb_concat]
    cases t with
    | leaf a => rw [digest, hK.eq_iff hp.2 (ht _ (mem_singleton_self _)), Opens, Confused, false_or, eq_comm]
    | pad => exact iff_of_false (hK.ne_zero _ hp.2) (not_or_intro id id)
    | node l r =>
      rw [messages, forall_mem_cons, forall_mem_append] at ht
      rw [digest, hK.eq_iff hp.2 ht.1, stepMessage_eq_pair hpair, Opens, Confused]
      split
      · rw [ih ht.2.2 hp.1, and_or_left]
      · rw [ih ht.2.1 hp.1, and_or_left]

end
end Orama.Lib.Merkle
