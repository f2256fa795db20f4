import Mathlib.Data.List.Induction

namespace LintBridge

variable {α : Type}

/-- One event has happened, and another one has not happened since. -/
def Standing (on off : α) (history : List α) : Prop :=
  ∃ before since, history = before ++ on :: since ∧ off ∉ since

namespace Standing

variable {on off : α}

theorem not_nil : ¬ Standing on off [] := by
  rintro ⟨before, since, h, -⟩
  simp at h

theorem concat_iff (history : List α) (e : α) :
    Standing on off (history ++ [e]) ↔ e = on ∨ e ≠ off ∧ Standing on off history := by
  constructor
  · rintro ⟨before, since, h, hoff⟩
    induction since using List.reverseRecOn with
    | nil =>
        have he := List.append_inj_right' h rfl
        exact .inl (by simpa using he)
    | append_singleton since x _ =>
        rw [← List.cons_append, ← List.append_assoc] at h
        obtain ⟨hh, hx⟩ := List.append_inj' h rfl
        have hx : e = x := by simpa using hx
        simp only [List.mem_append, List.mem_singleton, not_or] at hoff
        exact .inr ⟨fun he => hoff.2 (he ▸ hx), before, since, hh, hoff.1⟩
  · rintro (rfl | ⟨he, before, since, rfl, hoff⟩)
    · exact ⟨history, [], rfl, by simp⟩
    · refine ⟨before, since ++ [e], by simp, ?_⟩
      simp only [List.mem_append, List.mem_singleton, not_or]
      exact ⟨hoff, Ne.symm he⟩

end Standing

namespace History

variable {σ ε : Type} {step : σ → ε → σ}

def course (step : σ → ε → σ) (f : σ → ε → List α) (s : σ) : List ε → List α
  | [] => []
  | e :: es => f s e ++ course step f (step s e) es

theorem course_append (f : σ → ε → List α) (s : σ) (es later : List ε) :
    course step f s (es ++ later) = course step f s es ++ course step f (es.foldl step s) later := by
  induction es generalizing s with
  | nil => rfl
  | cons e es ih => rw [List.cons_append, course, ih, course, List.append_assoc, List.foldl_cons]

theorem course_concat (f : σ → ε → List α) (s : σ) (es : List ε) (e : ε) :
    course step f s (es ++ [e]) = course step f s es ++ f (es.foldl step s) e := by
  rw [course_append, course, course, List.append_nil]

def elapsed (span : ε → Nat) : List ε → Nat
  | [] => 0
  | e :: es => span e + elapsed span es

theorem elapsed_append (span : ε → Nat) (es later : List ε) :
    elapsed span (es ++ later) = elapsed span es + elapsed span later := by
  induction es with
  | nil => rw [elapsed, List.nil_append, Nat.zero_add]
  | cons e es ih => rw [List.cons_append, elapsed, elapsed, ih, Nat.add_assoc]

theorem clock_foldl (clock : σ → Nat) {span : ε → Nat} (h : ∀ s e, clock (step s e) = clock s + span e) (s : σ)
    (es : List ε) : clock (es.foldl step s) = clock s + elapsed span es := by
  induction es generalizing s with
  | nil => rfl
  | cons e es ih => rw [List.foldl_cons, ih, h, elapsed, Nat.add_assoc]

end History

end LintBridge
