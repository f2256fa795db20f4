import LintBridge.Proofs.Coherence
import LintBridge.Proofs.History

namespace LintBridge.Settings

namespace Cache

theorem isOpen_iff (c : Cache) (u : Uri) : c.isOpen u = true ↔ u ∈ c.opened := by simp [isOpen]

/-- A lookup of an open document finds its request or stores a new one; the requests of others stay. -/
theorem get?_stored_bind (c : Cache) (u w : Uri) : (c.bind u).1.stored.get? w =
    if w = u ∧ u ∈ c.opened then some ((c.stored.get? u).getD c.nextPull) else c.stored.get? w := by
  by_cases ho : u ∈ c.opened
  · have hi : c.isOpen u = true := (c.isOpen_iff u).mpr ho
    have hi' : (c.issue u).1.isOpen u = true := hi
    cases hs : c.stored.get? u with
    | some id =>
        have hb : (c.bind u).1 = c := by simp [bind, hi, hs]
        rw [hb]
        by_cases hw : w = u
        · subst w; simp [ho, hs]
        · simp [hw]
    | none =>
        have hb : (c.bind u).1.stored = c.stored.set u c.nextPull := by
          simp [bind, hi, hs, hi']
          rfl
        rw [hb]
        by_cases hw : w = u
        · subst w; simp [ho]
        · simp [hw, Table.get?_set_of_ne]
  · have hi : ¬ c.isOpen u = true := fun h => ho ((c.isOpen_iff u).mp h)
    have hb : (c.bind u).1 = (c.issue u).1 := by
      have hi' : ¬ (c.issue u).1.isOpen u = true := hi
      simp [bind, hi, hi']
    rw [hb]
    simp [ho, issue]

theorem stored_get (c : Cache) (now lookup : Nat) (u : Uri) :
    (c.get now lookup u).1.stored = if c.pulls then (c.bind u).1.stored else c.stored := by
  unfold get
  split
  · generalize c.bind u = d
    obtain ⟨d, id, issued⟩ := d
    dsimp only
    split
    · rfl
    · split <;> rfl
  · rfl

end Cache

namespace Desk

open Cache

variable {d : Desk} {e : Event} {u : Uri}

def fresh (patience : Nat) : Desk := { cache := { patience := patience } }

def after (d : Desk) (es : List Event) : Desk := es.foldl (fun d e => (d.step e).1) d

@[simp] theorem after_nil (d : Desk) : d.after [] = d := rfl

@[simp] theorem after_cons (d : Desk) (e : Event) (es : List Event) : d.after (e :: es) = (d.step e).1.after es := rfl

theorem after_append (d : Desk) (es later : List Event) : d.after (es ++ later) = (d.after es).after later :=
  List.foldl_append

theorem mem_opened_step (d : Desk) (e : Event) (u : Uri) : u ∈ (d.step e).1.cache.opened ↔
    e = .openDocument u ∨ e ≠ .closeDocument u ∧ u ∈ d.cache.opened := by
  cases e with
  | setPulls b => simp [step]
  | openDocument w =>
      change u ∈ (d.cache.openDocument w).opened ↔ _
      rw [mem_openDocument]
      simp [eq_comm]
  | closeDocument w =>
      change u ∈ (d.cache.closeDocument w).opened ↔ _
      rw [mem_closeDocument]
      simp [eq_comm]
  | change payload =>
      change u ∈ (d.cache.change payload).opened ↔ _
      rw [change_opened]
      simp
  | get w =>
      change u ∈ (d.cache.get d.now d.lookups w).1.opened ↔ _
      rw [(d.cache.get_cases d.now d.lookups w).1.opened]
      simp
  | reply w index r =>
      simp only [step]
      split <;> simp [answer]
  | advance ms => simp [step, expire]

def Stores (d : Desk) (e : Event) (u : Uri) : Prop := e = .get u ∧ d.cache.pulls = true ∧ u ∈ d.cache.opened

def Drops (d : Desk) (e : Event) (u : Uri) : Prop :=
  e = .closeDocument u ∨ d.cache.pulls = true ∧ ∃ payload, e = .change payload

theorem stored_step_idle (hd : ¬ d.Drops e u) (hs : ¬ d.Stores e u) :
    (d.step e).1.cache.stored.get? u = d.cache.stored.get? u := by
  cases e with
  | openDocument w =>
      simp only [step, openDocument]
      split <;> rfl
  | closeDocument w =>
      have hw : u ≠ w := fun hw => hd (.inl (by rw [hw]))
      exact Table.get?_erase_of_ne _ hw
  | change payload =>
      have hp : ¬ d.cache.pulls = true := fun hp => hd (.inr ⟨hp, payload, rfl⟩)
      simp [step, change, hp]
  | get w =>
      change (d.cache.get d.now d.lookups w).1.stored.get? u = _
      rw [stored_get]
      split
      · rename_i hp
        rw [get?_stored_bind, if_neg]
        rintro ⟨rfl, ho⟩
        exact hs ⟨rfl, hp, ho⟩
      · rfl
  | reply w index r =>
      simp only [step]
      split <;> rfl
  | setPulls | advance => rfl

theorem stored_step_drops (h : d.Drops e u) : (d.step e).1.cache.stored.get? u = none := by
  obtain rfl | ⟨hp, payload, rfl⟩ := h
  · exact Table.get?_erase_self _ _
  · simp [step, change, hp]

theorem stored_step_stores (h : d.Stores e u) :
    (d.step e).1.cache.stored.get? u = some ((d.cache.stored.get? u).getD d.cache.nextPull) := by
  obtain ⟨rfl, hp, ho⟩ := h
  change (d.cache.get d.now d.lookups u).1.stored.get? u = _
  rw [stored_get, if_pos hp, get?_stored_bind, if_pos ⟨rfl, ho⟩]

theorem Stores.not_drops (h : d.Stores e u) : ¬ d.Drops e u := by
  obtain ⟨rfl, -⟩ := h
  simp [Drops]

/-- What is stored for a document after a step: what was there before, unless the step drops it, or a new request. -/
theorem stored_step_iff (d : Desk) (e : Event) (u : Uri) (id : Nat) :
    (d.step e).1.cache.stored.get? u = some id ↔
      d.cache.stored.get? u = some id ∧ ¬ d.Drops e u ∨
      d.Stores e u ∧ d.cache.stored.get? u = none ∧ id = d.cache.nextPull := by
  by_cases hs : d.Stores e u
  · rw [stored_step_stores hs]
    cases d.cache.stored.get? u <;> simp [hs, hs.not_drops, eq_comm]
  · by_cases hd : d.Drops e u
    · simp [stored_step_drops hd, hd, hs]
    · simp [stored_step_idle hd hs, hd, hs]

def Tidy (d : Desk) : Prop := ∀ u, d.cache.stored.get? u ≠ none → u ∈ d.cache.opened

theorem Tidy.step (h : d.Tidy) (e : Event) : (d.step e).1.Tidy := by
  intro u hs
  obtain ⟨id, hs⟩ := Option.ne_none_iff_exists'.mp hs
  rw [mem_opened_step]
  obtain ⟨hs, hd⟩ | ⟨⟨rfl, -, ho⟩, -⟩ := (stored_step_iff d e u id).mp hs
  · exact .inr ⟨fun he => hd (.inl he), h u (by simp [hs])⟩
  · exact .inr ⟨by simp, ho⟩

theorem Tidy.after (h : d.Tidy) (es : List Event) : (d.after es).Tidy := by
  induction es generalizing d with
  | nil => exact h
  | cons e es ih => exact ih (h.step e)

theorem tidy_fresh (patience : Nat) : (fresh patience).Tidy := by
  intro u hs
  simp [fresh] at hs

theorem openDocument_mem (hn : u ∉ d.cache.opened) {es : List Event} (ho : u ∈ (d.after es).cache.opened) :
    .openDocument u ∈ es := by
  induction es using List.reverseRecOn with
  | nil => exact absurd ho hn
  | append_singleton es e ih =>
      rw [after_append, after_cons, after_nil, mem_opened_step] at ho
      obtain rfl | ⟨-, ho⟩ := ho
      · simp
      · exact List.mem_append_left _ (ih ho)

/-- What is stored for a document that had no request was stored by one of its lookups. -/
theorem stores_of_stored (hn : d.cache.stored.get? u = none) {es : List Event}
    (hs : (d.after es).cache.stored.get? u ≠ none) :
    ∃ before since, es = before ++ .get u :: since ∧ (d.after before).Stores (.get u) u := by
  induction es using List.reverseRecOn with
  | nil => exact absurd hn hs
  | append_singleton es e ih =>
      obtain ⟨id, hs⟩ := Option.ne_none_iff_exists'.mp hs
      rw [after_append, after_cons, after_nil] at hs
      obtain ⟨hs, -⟩ | ⟨hst, -⟩ := (stored_step_iff _ e u id).mp hs
      · obtain ⟨before, since, rfl, hb⟩ := ih (by simp [hs])
        exact ⟨before, since ++ [e], by simp, hb⟩
      · obtain rfl := hst.1
        exact ⟨es, [], rfl, hst⟩

/-- The cache keeps requests for open documents only. Nothing but the lookup of an open document, made while the
editor can be asked, stores one, so that after its closing a document has one again only when it has been opened
and looked up anew. -/
theorem stored_only_while_open (patience : Nat) (es : List Event) (u : Uri) :
    ((after (fresh patience) es).cache.stored.get? u ≠ none → u ∈ (after (fresh patience) es).cache.opened) ∧
    (∀ e id, ((after (fresh patience) es).step e).1.cache.stored.get? u = some id →
      (after (fresh patience) es).cache.stored.get? u ≠ some id → (after (fresh patience) es).Stores e u) ∧
    ∀ later, (after (fresh patience) (es ++ .closeDocument u :: later)).cache.stored.get? u ≠ none →
      ∃ before since, later = before ++ .get u :: since ∧ .openDocument u ∈ before ∧
        (after (fresh patience) (es ++ .closeDocument u :: before)).Stores (.get u) u := by
  refine ⟨(tidy_fresh patience).after es u, ?_, ?_⟩
  · intro e id hs hn
    obtain ⟨hs, -⟩ | ⟨hst, -⟩ := (stored_step_iff _ e u id).mp hs
    · exact absurd hs hn
    · exact hst
  · intro later hs
    simp only [after_append, after_cons] at hs ⊢
    generalize after (fresh patience) es = d at hs ⊢
    have hclosed : u ∉ (d.step (.closeDocument u)).1.cache.opened := by simp [mem_opened_step]
    have hnone : (d.step (.closeDocument u)).1.cache.stored.get? u = none := Table.get?_erase_self _ _
    obtain ⟨before, since, rfl, hst⟩ := stores_of_stored hnone hs
    exact ⟨before, since, rfl, openDocument_mem hclosed hst.2.2, hst⟩

/-- The document is closed and opened again before the editor answers: its request does not come back, neither by
the answer nor when the time is up. -/
theorem stored_only_while_open_of_late_answer :
    let u : Uri := { scheme := "untitled", path := .plain "a" }
    let es : List Event := [.setPulls true, .openDocument u, .get u]
    let later : List Event := [.openDocument u, .reply u 0 (.ok .null), .advance 2000]
    (after (fresh 2000) es).cache.stored.get? u = some 0 ∧
    (after (fresh 2000) (es ++ .closeDocument u :: later)).cache.stored.get? u = none := by
  intro u es later
  refine ⟨by decide +kernel, ?_⟩
  by_contra hs
  obtain ⟨before, since, he, -⟩ := (stored_only_while_open 2000 es u).2.2 _ hs
  have hm : Event.get u ∈ later := he ▸ by simp
  simp [later] at hm

end Desk

end LintBridge.Settings
