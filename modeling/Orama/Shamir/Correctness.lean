import Orama.Shamir.Go
import Orama.Shamir.Zig
import Orama.Shamir.Ts

namespace Orama.Shamir
variable {ε ε₁ ε₂ α : Type}

def Reconstructs (combine : List Share → Except ε (List UInt8)) (secret : List UInt8) (k : Nat)
    (shares : List Share) : Prop :=
  ∀ sub : List Share, sub.Nodup → (∀ s ∈ sub, s ∈ shares) → k ≤ sub.length → combine sub = .ok secret

lemma Sharing.reconstructs {combine : List Share → Except ε (List UInt8)} {secret : List UInt8}
    {k : Nat} {shares : List Share} (h : Sharing secret k shares) (hk : 2 ≤ k)
    (hc : ∀ sub, Valid sub → combine sub = .ok (reconstruct sub)) : Reconstructs combine secret k shares := by
  intro sub hnd hsub hlen
  have hv := h.valid hsub hnd (hk.trans hlen)
  rw [hc sub hv, h.reconstruct_eq hsub hv hlen]

lemma length_sharesOf (secret : List UInt8) (n k : Nat) (tape : Tape) :
    (sharesOf secret n k tape).length = n := by rw [sharesOf, List.length_map, List.length_range]

/-- Whatever bytes are drawn, both implementations split an admissible secret
into n shares of which any k or more, in any order, give it back. -/
theorem split_reconstructs (secret : List UInt8) (n k : Nat) (tape : Tape) (hs : secret ≠ [])
    (hk : 2 ≤ k) (hkn : k ≤ n) (hn : n ≤ 255) :
    (∃ shares, Go.split secret n k (fun b => .ok (tape b)) = .ok shares ∧ shares.length = n ∧
      Reconstructs Go.combine secret k shares) ∧
    ∃ set, Zig.split secret (UInt8.ofNat n) (UInt8.ofNat k) tape = .ok set ∧
      set.shares.length = n ∧ Reconstructs Zig.combine secret k set.shares := by
  have ha : Admissible secret n k :=
    ⟨by omega, by omega, by omega, fun h => hs (List.length_eq_zero_iff.mp h)⟩
  have hsh := sharing_sharesOf secret n k tape (by omega) hn
  have hlen := length_sharesOf secret n k tape
  constructor
  · exact ⟨_, Go.split_of_admissible ha tape, hlen, hsh.reconstructs hk fun _ => Go.combine_of_valid⟩
  · exact ⟨_, Zig.split_of_nat ha tape, hlen, hsh.reconstructs hk fun _ => Zig.combine_of_valid⟩

theorem split_reconstructs_two_of_three :
    (∃ shares, Go.split [42, 7] (3 : Nat) (2 : Nat) (fun b => .ok fun _ => UInt8.ofNat b) = .ok shares ∧
    shares.length = 3 ∧ Reconstructs Go.combine [42, 7] 2 shares) ∧
    ∃ set, Zig.split [42, 7] (UInt8.ofNat 3) (UInt8.ofNat 2) (fun b _ => UInt8.ofNat b) = .ok set ∧
    set.shares.length = 3 ∧ Reconstructs Zig.combine [42, 7] 2 set.shares :=
  split_reconstructs [42, 7] 3 2 (fun b _ => UInt8.ofNat b) (by decide) (by decide) (by decide)
    (by decide)

def Agree (a : Except ε₁ α) (b : Except ε₂ α) : Prop :=
  (∃ r, a = .ok r ∧ b = .ok r) ∨ ((∃ e, a = .error e) ∧ ∃ e, b = .error e)

/-- The implementations agree on every list of shares. On splitting, Zig takes
its parameters as bytes and agrees with Go on all of them; TypeScript agrees
with Go on any integers. -/
theorem implementations_agree : (∀ shares, Agree (Go.combine shares) (Zig.combine shares) ∧
    Agree (Go.combine shares) (Ts.combine shares)) ∧ (∀ secret (n k : UInt8) (tape : Tape),
    Agree (Go.split secret n.toNat k.toNat fun b => .ok (tape b))
        ((Zig.split secret n k tape).map Zig.ShareSet.shares)) ∧
    ∀ secret (n k : Int) (tape : Tape),
      Agree (Go.split secret n k fun b => .ok (tape b)) (Ts.split secret n k tape) := by
  refine ⟨fun shares => ?_, fun secret n k tape => ?_, fun secret n k tape => ?_⟩
  · by_cases h : Valid shares
    · have hg := Go.combine_of_valid h
      exact ⟨.inl ⟨_, hg, Zig.combine_of_valid h⟩, .inl ⟨_, hg, Ts.combine_of_valid h⟩⟩
    · have hg := Go.combine_of_not_valid h
      exact ⟨.inr ⟨hg, Zig.combine_of_not_valid h⟩, .inr ⟨hg, Ts.combine_of_not_valid h⟩⟩
  · by_cases h : Admissible secret n.toNat k.toNat
    · refine .inl ⟨_, Go.split_of_admissible h tape, ?_⟩
      rw [Zig.split_of_admissible h tape]
      rfl
    · obtain ⟨e, he⟩ := Zig.split_of_not_admissible h tape
      refine .inr ⟨Go.split_of_not_admissible h _, e, ?_⟩
      rw [he]
      rfl
  · by_cases h : Admissible secret n k
    · exact .inl ⟨_, Go.split_of_admissible h tape, Ts.split_of_admissible h tape⟩
    · exact .inr ⟨Go.split_of_not_admissible h _, Ts.split_of_not_admissible h tape⟩

end Orama.Shamir
