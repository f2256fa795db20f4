import LintBridge.Validation.Report
import Mathlib.Data.List.Basic
import Mathlib.Data.List.Induction
import Mathlib.Data.List.TakeDrop

namespace LintBridge.Validation.Report

def limits (ms : List Nat) (r : Report) : Report := ms.foldl (fun r m => r.limit m) r

def remaining (n : Nat) (ms : List Nat) : Nat := ms.foldl min n

variable {n : Nat} {ms : List Nat}

theorem limits_concat (ms : List Nat) (m : Nat) (r : Report) : limits (ms ++ [m]) r = (limits ms r).limit m := by
  rw [limits, List.foldl_concat, limits]

theorem remaining_concat (n : Nat) (ms : List Nat) (m : Nat) : remaining n (ms ++ [m]) = min (remaining n ms) m := by
  rw [remaining, List.foldl_concat, remaining]

theorem le_remaining_iff (k : Nat) : k ≤ remaining n ms ↔ k ≤ n ∧ ∀ m ∈ ms, k ≤ m := by
  induction ms generalizing n with
  | nil => simp [remaining]
  | cons m ms ih =>
      rw [remaining, List.foldl_cons, ← remaining, ih, Nat.le_min, List.forall_mem_cons, and_assoc]

theorem remaining_le : remaining n ms ≤ n := ((le_remaining_iff _).mp (Nat.le_refl _)).1

theorem remaining_eq_iff : remaining n ms = n ↔ ∀ m ∈ ms, n ≤ m := by
  constructor
  · intro h
    exact ((le_remaining_iff n).mp (Nat.le_of_eq h.symm)).2
  · intro h
    exact Nat.le_antisymm remaining_le ((le_remaining_iff n).mpr ⟨Nat.le_refl n, h⟩)

theorem diagnostics_limits (ms : List Nat) (r : Report) :
    (limits ms r).diagnostics = r.diagnostics.take (remaining r.diagnostics.length ms) := by
  -- from the end, since a further limit cuts what the earlier ones have left
  induction ms using List.reverseRecOn with
  | nil => simp [limits, remaining]
  | append_singleton ms m ih =>
      rw [limits_concat, remaining_concat, Nat.min_comm, ← List.take_take, ← ih]
      rfl

theorem length_limits (ms : List Nat) (r : Report) :
    (limits ms r).diagnostics.length = remaining r.diagnostics.length ms := by
  rw [diagnostics_limits, List.length_take, Nat.min_eq_left remaining_le]

theorem length_add_truncated_limit (m : Nat) (r : Report) :
    (r.limit m).diagnostics.length + (r.limit m).truncated = r.diagnostics.length := by
  have hl : (r.limit m).diagnostics.length = min m r.diagnostics.length := List.length_take
  have ht : (r.limit m).truncated = r.diagnostics.length - m := rfl
  omega

theorem limit_eq_self_iff (m : Nat) (r : Report) :
    r.limit m = r ↔ r.diagnostics.length ≤ m ∧ r.truncated = 0 := by
  obtain ⟨ds, k, complaint, failure⟩ := r
  simp only [limit, mk.injEq, List.take_eq_self_iff, and_true]
  omega

theorem limit_limit_eq_iff (m : Nat) (r : Report) : (r.limit m).limit m = r.limit m ↔ r.diagnostics.length ≤ m := by
  have hl : (r.limit m).diagnostics.length ≤ m := List.length_take_le m r.diagnostics
  have ht : (r.limit m).truncated = r.diagnostics.length - m := rfl
  rw [limit_eq_self_iff]
  omega

/-- The first diagnostics are kept, as many as the least limit allows. Those that are kept and those that the last call
counts are the ones that were left before it, and so they are all that there were only if no earlier limit
dropped any. -/
theorem limits_account (r : Report) (ms : List Nat) (m : Nat) :
    let n := r.diagnostics.length
    let s := limits (ms ++ [m]) r
    s.diagnostics = r.diagnostics.take (remaining n (ms ++ [m])) ∧
    s.diagnostics.length + s.truncated = remaining n ms ∧
    (s.diagnostics.length + s.truncated = n ↔ ∀ k ∈ ms, n ≤ k) ∧
    ((r.limit m).limit m = r.limit m ↔ n ≤ m) := by
  intro n s
  have hs : s.diagnostics.length + s.truncated = remaining n ms := by
    have hc : s = (limits ms r).limit m := limits_concat ms m r
    rw [hc, length_add_truncated_limit, length_limits]
  exact ⟨diagnostics_limits _ r, hs, hs ▸ remaining_eq_iff, limit_limit_eq_iff m r⟩

/-- Three diagnostics of which two may stay: when this is said again, the one that was dropped is no longer counted. -/
theorem limits_account_of_repetition :
    let d (line : Nat) := Diagnostic.ofFinding ⟨"R1", line, "wide"⟩
    let r : Report := { diagnostics := [d 1, d 2, d 3] }
    limits [2] r = { diagnostics := [d 1, d 2], truncated := 1 } ∧ ¬ (∀ k ∈ [2], r.diagnostics.length ≤ k) ∧
    (limits [2, 2] r).diagnostics.length + (limits [2, 2] r).truncated ≠ r.diagnostics.length ∧
    (r.limit 2).limit 2 ≠ r.limit 2 := by
  intro d r
  obtain ⟨-, -, hn, hr⟩ := limits_account r [2] 2
  have hk : ¬ (∀ k ∈ [2], r.diagnostics.length ≤ k) := by decide
  exact ⟨rfl, hk, fun h => hk (hn.mp h), fun h => absurd (hr.mp h) (by decide)⟩

end LintBridge.Validation.Report
