import LintBridge.Validation.Validator

namespace LintBridge.Validation.Validator

variable {v : Validator}

theorem get?_track (v : Validator) (u w : Uri) :
    (v.track u).latest.get? w = if w = u then some ((v.latest.get? u).getD 0) else v.latest.get? w := by
  unfold track
  cases h : v.latest.get? u with
  | some t =>
      by_cases hw : w = u
      · subst w; simp [h]
      · simp [hw]
  | none =>
      by_cases hw : w = u
      · subst w; simp
      · simp [hw, Table.get?_set_of_ne]

theorem get?_forget (v : Validator) (u w : Uri) :
    (v.forget u).latest.get? w = if w = u then none else v.latest.get? w := by
  by_cases hw : w = u
  · subst w; simp [forget]
  · simp [forget, hw, Table.get?_erase_of_ne]

@[simp] theorem runs_track (v : Validator) (u : Uri) : (v.track u).runs = v.runs := by
  unfold track; split <;> rfl

@[simp] theorem nextTicket_track (v : Validator) (u : Uri) : (v.track u).nextTicket = v.nextTicket := by
  unfold track; split <;> rfl

def nextRun (v : Validator) (id : Nat) (u : Uri) (path : Bytes) : Run := ⟨id, u, path, v.nextTicket⟩

theorem start_remote {u : Uri} (hu : u.filePath? = none) (id : Nat) :
    v.start id u = (v, .ended .unsupported) := by
  simp [start, hu]

theorem start_closed {u : Uri} {path : Bytes} (hu : u.filePath? = some path)
    (ho : v.latest.get? u = none) (id : Nat) :
    v.start id u = ({ v with nextTicket := v.nextTicket + 1 }, .ended .closed) := by
  simp [start, hu, ho]

theorem start_open {u : Uri} {path : Bytes} (hu : u.filePath? = some path) {t : Nat}
    (ho : v.latest.get? u = some t) (id : Nat) :
    v.start id u = (⟨v.nextTicket + 1, v.latest.set u v.nextTicket, v.runs ++ [v.nextRun id u path]⟩,
      .running (v.nextRun id u path)) := by
  simp [start, hu, ho, nextRun]

theorem start_cases (v : Validator) (id : Nat) (u : Uri) :
    (u.filePath? = none ∧ v.start id u = (v, .ended .unsupported)) ∨
    (∃ path, u.filePath? = some path ∧ v.latest.get? u = none ∧
      v.start id u = ({ v with nextTicket := v.nextTicket + 1 }, .ended .closed)) ∨
    (∃ path t, u.filePath? = some path ∧ v.latest.get? u = some t ∧
      v.start id u = (⟨v.nextTicket + 1, v.latest.set u v.nextTicket, v.runs ++ [v.nextRun id u path]⟩,
        .running (v.nextRun id u path))) := by
  cases hu : u.filePath? with
  | none => exact .inl ⟨rfl, start_remote hu id⟩
  | some path =>
      cases ho : v.latest.get? u with
      | none => exact .inr (.inl ⟨path, rfl, rfl, start_closed hu ho id⟩)
      | some t => exact .inr (.inr ⟨path, t, rfl, rfl, start_open hu ho id⟩)

theorem get?_start_ne_none (v : Validator) (id : Nat) (u w : Uri) :
    (v.start id u).1.latest.get? w ≠ none ↔ v.latest.get? w ≠ none := by
  obtain ⟨-, hs⟩ | ⟨path, -, -, hs⟩ | ⟨path, t, -, ho, hs⟩ := start_cases v id u
  · rw [hs]
  · rw [hs]
  · rw [hs]
    by_cases hw : w = u
    · subst w; simp [ho]
    · simp [Table.get?_set_of_ne _ _ hw]

theorem get?_start_of_ne (v : Validator) (id : Nat) {u w : Uri} (hw : w ≠ u) :
    (v.start id u).1.latest.get? w = v.latest.get? w := by
  obtain ⟨-, hs⟩ | ⟨path, -, -, hs⟩ | ⟨path, t, -, -, hs⟩ := start_cases v id u
  · rw [hs]
  · rw [hs]
  · rw [hs]; exact Table.get?_set_of_ne _ _ hw

theorem nextTicket_start (v : Validator) (id : Nat) (u : Uri) :
    v.nextTicket ≤ (v.start id u).1.nextTicket ∧ (v.start id u).1.nextTicket ≤ v.nextTicket + 1 := by
  obtain ⟨-, hs⟩ | ⟨path, -, -, hs⟩ | ⟨path, t, -, -, hs⟩ := start_cases v id u
  · rw [hs]; exact ⟨Nat.le_refl _, Nat.le_succ _⟩
  · rw [hs]; exact ⟨Nat.le_succ _, Nat.le_refl _⟩
  · rw [hs]; exact ⟨Nat.le_succ _, Nat.le_refl _⟩

theorem mem_runs_start {id : Nat} {u : Uri} {r : Run} (hr : r ∈ (v.start id u).1.runs) :
    r ∈ v.runs ∨ r.validation = id := by
  obtain ⟨-, hs⟩ | ⟨path, -, -, hs⟩ | ⟨path, t, -, -, hs⟩ := start_cases v id u
  · rw [hs] at hr; exact .inl hr
  · rw [hs] at hr; exact .inl hr
  · rw [hs] at hr
    obtain hr | rfl := by simpa using hr
    · exact .inl hr
    · exact .inr rfl

structure Kept (P : Validator → Prop) : Prop where
  track : ∀ v u, P v → P (v.track u)
  forget : ∀ v u, P v → P (v.forget u)
  start : ∀ v id u, P v → P (v.start id u).1
  finish : ∀ v r o, P v → P (v.finish r o).1

/-- What is true of the tickets at all times. Zero marks a document that has had no run, so that no run
may hold it. -/
structure Sound (v : Validator) : Prop where
  next_pos : 0 < v.nextTicket
  latest_lt : ∀ u t, v.latest.get? u = some t → t < v.nextTicket
  run_pos : ∀ r ∈ v.runs, 0 < r.ticket
  run_lt : ∀ r ∈ v.runs, r.ticket < v.nextTicket
  run_path : ∀ r ∈ v.runs, r.uri.filePath? = some r.path
  tickets_nodup : (v.runs.map Run.ticket).Nodup

namespace Sound

theorem initial : Sound {} where
  next_pos := by decide
  latest_lt := by simp
  run_pos := by simp
  run_lt := by simp
  run_path := by simp
  tickets_nodup := by simp

theorem track (h : v.Sound) (u : Uri) : (v.track u).Sound where
  next_pos := by simpa using h.next_pos
  latest_lt w t hw := by
    rw [get?_track] at hw
    rw [nextTicket_track]
    split at hw
    · cases ho : v.latest.get? u with
      | none =>
          have ht : 0 = t := by simpa [ho] using hw
          exact ht ▸ h.next_pos
      | some s =>
          have ht : s = t := by simpa [ho] using hw
          exact ht ▸ h.latest_lt u s ho
    · exact h.latest_lt w t hw
  run_pos := by simpa using h.run_pos
  run_lt := by simpa using h.run_lt
  run_path := by simpa using h.run_path
  tickets_nodup := by simpa using h.tickets_nodup

theorem forget (h : v.Sound) (u : Uri) : (v.forget u).Sound where
  next_pos := h.next_pos
  latest_lt w t hw := by
    rw [get?_forget] at hw
    split at hw
    · cases hw
    · exact h.latest_lt w t hw
  run_pos := h.run_pos
  run_lt := h.run_lt
  run_path := h.run_path
  tickets_nodup := h.tickets_nodup

theorem start (h : v.Sound) (id : Nat) (u : Uri) : (v.start id u).1.Sound := by
  obtain ⟨-, hs⟩ | ⟨path, -, -, hs⟩ | ⟨path, s, hp, -, hs⟩ := start_cases v id u
  · rw [hs]; exact h
  · rw [hs]
    exact { h with
      next_pos := Nat.succ_pos _
      latest_lt := fun w t hw => Nat.lt_succ_of_lt (h.latest_lt w t hw)
      run_lt := fun r hr => Nat.lt_succ_of_lt (h.run_lt r hr) }
  · rw [hs]
    refine ⟨Nat.succ_pos _, ?_, ?_, ?_, ?_, ?_⟩
    · intro w t hw
      change (v.latest.set u v.nextTicket).get? w = some t at hw
      by_cases hu : w = u
      · subst w
        rw [Table.get?_set_self, Option.some.injEq] at hw
        exact hw ▸ Nat.lt_succ_self _
      · rw [Table.get?_set_of_ne _ _ hu] at hw
        exact Nat.lt_succ_of_lt (h.latest_lt w t hw)
    · intro r hr
      obtain hr | rfl := by simpa using hr
      · exact h.run_pos r hr
      · exact h.next_pos
    · intro r hr
      obtain hr | rfl := by simpa using hr
      · exact Nat.lt_succ_of_lt (h.run_lt r hr)
      · exact Nat.lt_succ_self _
    · intro r hr
      obtain hr | rfl := by simpa using hr
      · exact h.run_path r hr
      · exact hp
    · -- the new ticket is larger than all that were given out before
      have hn : v.nextTicket ∉ v.runs.map Run.ticket := by
        intro hm
        obtain ⟨r, hr, he⟩ := List.mem_map.mp hm
        exact absurd (h.run_lt r hr) (by omega)
      simpa [List.nodup_append, nextRun] using ⟨h.tickets_nodup, fun r hr he => hn (List.mem_map.mpr ⟨r, hr, he⟩)⟩

theorem finish (h : v.Sound) (r : Run) (o : Tool.Output) : (v.finish r o).1.Sound where
  next_pos := h.next_pos
  latest_lt := h.latest_lt
  run_pos s hs := h.run_pos s ((List.mem_filter.mp hs).1)
  run_lt s hs := h.run_lt s ((List.mem_filter.mp hs).1)
  run_path s hs := h.run_path s ((List.mem_filter.mp hs).1)
  tickets_nodup := h.tickets_nodup.sublist (List.filter_sublist.map _)

theorem kept : Kept Sound where
  track _ u h := h.track u
  forget _ u h := h.forget u
  start _ id u h := h.start id u
  finish _ r o h := h.finish r o

end Sound

/-- A run whose document has gone on without it: it was closed, or it has a newer ticket, or it was opened
again and waits for its first ticket. -/
structure Overtaken (v : Validator) (r : Run) : Prop where
  ticket_pos : 0 < r.ticket
  ticket_lt : r.ticket < v.nextTicket
  not_latest : v.latest.get? r.uri ≠ some r.ticket

namespace Overtaken

variable {r : Run}

theorem track (h : v.Overtaken r) (u : Uri) : (v.track u).Overtaken r where
  ticket_pos := h.ticket_pos
  ticket_lt := by simpa using h.ticket_lt
  not_latest := by
    rw [get?_track]
    split
    · rename_i hu
      -- a document that is admitted anew has ticket zero, which no run holds
      have hpos := h.ticket_pos
      have hold := h.not_latest
      rw [hu] at hold
      cases ho : v.latest.get? u with
      | none => simp only [Option.getD_none, ne_eq, Option.some.injEq]; omega
      | some t => rwa [ho] at hold
    · exact h.not_latest

theorem forget (h : v.Overtaken r) (u : Uri) : (v.forget u).Overtaken r where
  ticket_pos := h.ticket_pos
  ticket_lt := h.ticket_lt
  not_latest := by
    rw [get?_forget]
    split
    · simp
    · exact h.not_latest

theorem start (h : v.Overtaken r) (id : Nat) (u : Uri) : (v.start id u).1.Overtaken r := by
  obtain ⟨-, hs⟩ | ⟨path, -, -, hs⟩ | ⟨path, t, -, -, hs⟩ := start_cases v id u
  · rw [hs]; exact h
  · rw [hs]; exact { h with ticket_lt := Nat.lt_succ_of_lt h.ticket_lt }
  · rw [hs]
    refine ⟨h.ticket_pos, Nat.lt_succ_of_lt h.ticket_lt, ?_⟩
    change (v.latest.set u v.nextTicket).get? r.uri ≠ some r.ticket
    by_cases hu : r.uri = u
    · rw [hu, Table.get?_set_self]
      have hlt := h.ticket_lt
      simp only [ne_eq, Option.some.injEq]; omega
    · rw [Table.get?_set_of_ne _ _ hu]; exact h.not_latest

theorem finish (h : v.Overtaken r) (s : Run) (o : Tool.Output) : (v.finish s o).1.Overtaken r :=
  ⟨h.ticket_pos, h.ticket_lt, h.not_latest⟩

theorem kept (r : Run) : Kept (·.Overtaken r) where
  track _ u h := h.track u
  forget _ u h := h.forget u
  start _ id u h := h.start id u
  finish _ s o h := h.finish s o

theorem of_forget (hp : 0 < r.ticket) (hl : r.ticket < v.nextTicket) : (v.forget r.uri).Overtaken r :=
  ⟨hp, hl, by simp [get?_forget]⟩

theorem of_start (hp : 0 < r.ticket) (hl : r.ticket < v.nextTicket) {path : Bytes}
    (hu : r.uri.filePath? = some path) {t : Nat} (ho : v.latest.get? r.uri = some t) (id : Nat) :
    (v.start id r.uri).1.Overtaken r := by
  rw [start_open hu ho]
  refine ⟨hp, Nat.lt_succ_of_lt hl, ?_⟩
  change (v.latest.set r.uri v.nextTicket).get? r.uri ≠ some r.ticket
  rw [Table.get?_set_self]
  simp only [ne_eq, Option.some.injEq]; omega

theorem judge_ne (h : v.Overtaken r) (o : Tool.Output) (p : Report) : v.judge r o ≠ .completed p := by
  unfold judge
  cases ho : v.latest.get? r.uri with
  | none => simp
  | some t =>
      have ht : t ≠ r.ticket := fun he => h.not_latest (by rw [ho, he])
      simp [ht]

end Overtaken

theorem judge_eq_closed_iff (v : Validator) (r : Run) (o : Tool.Output) :
    v.judge r o = .closed ↔ v.latest.get? r.uri = none := by
  unfold judge
  cases v.latest.get? r.uri with
  | none => simp
  | some t => by_cases h : t = r.ticket <;> simp [h]

theorem judge_eq_completed_iff (v : Validator) (r : Run) (o : Tool.Output) :
    v.judge r o = .completed (.ofOutput o) ↔ v.latest.get? r.uri = some r.ticket := by
  unfold judge
  cases v.latest.get? r.uri with
  | none => simp
  | some t => by_cases h : t = r.ticket <;> simp [h]

theorem eq_ofOutput_of_judge {r : Run} {o : Tool.Output} {p : Report} (h : v.judge r o = .completed p) :
    p = .ofOutput o := by
  unfold judge at h
  split at h
  · cases h
  · split at h
    · cases h; rfl
    · cases h

theorem judge_eq_superseded_iff (v : Validator) (r : Run) (o : Tool.Output) :
    v.judge r o = .superseded ↔ v.latest.get? r.uri ≠ none ∧ v.latest.get? r.uri ≠ some r.ticket := by
  unfold judge
  cases v.latest.get? r.uri with
  | none => simp
  | some t => by_cases h : t = r.ticket <;> simp [h]

end LintBridge.Validation.Validator
