import Mathlib.Algebra.Ring.Nat
import Recommendation.Proofs.Results
import Recommendation.ServerSettings

/-!
What the settings of the service are like, whatever the environment is. A number is read within the
bounds that it may have, so that each of the settings has room in its bits.
-/

namespace Recommendation

namespace Decimal.Bounds

variable {b : Bounds}

def Has (b : Bounds) (n : Int) : Prop := b.low ≤ n ∧ n ≤ b.high

theorem has_of_addDigit {negative : Bool} {n n' : Int} {c : Char}
    (h : b.addDigit negative n c = .ok n') : b.Has n' := by
  rw [addDigit] at h
  split at h
  · cases h
  · dsimp only at h
    split_ifs at h with hhigh hlow <;> cases h
    all_goals exact ⟨by omega, by omega⟩

theorem has_of_read (hzero : b.Has 0) {s : String} {n : Int} (h : b.read s = .ok n) : b.Has n := by
  rw [read] at h
  split at h
  · cases h
  · dsimp only at h
    split at h
    · cases h
    · exact Except.of_foldlM_eq_ok (fun _ _ _ _ => has_of_addDigit) hzero h

end Decimal.Bounds

namespace Environment

/-- A count has no more bits than it may have. -/
theorem lt_of_count {bits : Nat} {s : String} {n : Nat} (h : count bits s = .ok n) :
    n < 2 ^ bits := by
  obtain ⟨i, hread, hn⟩ := Except.bind_eq_ok_iff.1 h
  cases hn
  have hpos : 0 < 2 ^ bits := Nat.two_pow_pos bits
  have hiff (j : Int) : (Decimal.Bounds.unsigned bits).Has j ↔
      0 ≤ j ∧ j ≤ ((2 ^ bits : Nat) : Int) - 1 := Iff.rfl
  have hbounds := Decimal.Bounds.has_of_read ((hiff 0).2 (by omega))
    (Except.mapError_eq_ok_iff.1 hread)
  rw [hiff] at hbounds
  omega

variable {α : Type}

/-- What the defaults have and no field takes away, a record has however it is filled. -/
theorem of_fill {P : α → Prop} {fields : List (Setter α)}
    (hput : ∀ f ∈ fields, ∀ v a a', P a → f.put v a = .ok a' → P a') {env : Environment}
    {defaults a : α} (hdefaults : P defaults) (h : env.fill fields defaults = .ok a) : P a := by
  obtain ⟨⟨a', seen⟩, hfold, ha⟩ := Except.bind_eq_ok_iff.1 h
  cases ha
  refine Except.of_foldlM_eq_ok (P := fun state : α × List String => P state.1) ?_ hdefaults hfold
  rintro ⟨b, names⟩ entry b' hb hassign
  rw [assign] at hassign
  split at hassign
  · cases hassign
    exact hb
  · rename_i f hfind
    split at hassign
    · cases hassign
    · split at hassign
      · rename_i b'' hb''
        cases hassign
        exact hput f (List.mem_of_find?_eq_some hfind) _ _ _ hb hb''
      · cases hassign

end Environment

namespace ServerSettings

/-- The numbers of the settings have room in the bits that they are counted in. -/
structure FitsBits (s : ServerSettings) : Prop where
  maxConnections : s.maxConnections < 2 ^ 32
  acquireTimeout : s.acquireTimeout < 2 ^ 64
  queryTimeout : s.queryTimeout < 2 ^ 64
  retryAttempts : s.retryAttempts < 2 ^ 32
  initialBackoff : s.initialBackoff < 2 ^ 64
  maxBackoff : s.maxBackoff < 2 ^ 64
  requestTimeout : s.requestTimeout < 2 ^ 64
  listenPort : s.listenPort < 2 ^ 16

theorem FitsBits.put {f : Environment.Setter ServerSettings} (hf : f ∈ fields) {v : String}
    {s s' : ServerSettings} (h : s.FitsBits) (hput : f.put v s = .ok s') : s'.FitsBits := by
  simp only [fields, List.mem_cons, List.not_mem_nil, or_false] at hf
  rcases hf with rfl | rfl | rfl | rfl | rfl | rfl | rfl | rfl | rfl | rfl
  all_goals
    obtain ⟨x, hread, hset⟩ := Except.bind_eq_ok_iff.1 hput
    cases hset
  · exact { h with }
  · exact { h with maxConnections := Environment.lt_of_count hread }
  · exact { h with acquireTimeout := Environment.lt_of_count hread }
  · exact { h with queryTimeout := Environment.lt_of_count hread }
  · exact { h with retryAttempts := Environment.lt_of_count hread }
  · exact { h with initialBackoff := Environment.lt_of_count hread }
  · exact { h with maxBackoff := Environment.lt_of_count hread }
  · exact { h with requestTimeout := Environment.lt_of_count hread }
  · exact { h with }
  · exact { h with listenPort := Environment.lt_of_count hread }

/-- Whatever the environment sets has room. -/
theorem fitsBits_of_environment {env : Environment} {s : ServerSettings}
    (h : ofEnvironment env = .ok s) : s.FitsBits :=
  Environment.of_fill (fun _ hf _ _ _ => FitsBits.put hf) (by constructor <;> decide)
    (Except.mapError_eq_ok_iff.1 h)

end ServerSettings

end Recommendation
