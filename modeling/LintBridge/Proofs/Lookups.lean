import LintBridge.Proofs.Requests

namespace LintBridge.Settings

namespace Cache.Event

def span : Event → Nat
  | .advance ms => ms
  | _ => 0

def mode? : Event → Option Bool
  | .setPulls b => some b
  | _ => none

/-- The payload of a change that is not answered with new requests. -/
def pushed? (asked : Bool) : Event → Option Json
  | .change payload => if asked then none else some payload
  | _ => none

end Cache.Event

namespace Desk

open Cache

variable {d : Desk} {e : Event} {u : Uri}

def elapsed (es : List Event) : Nat := History.elapsed Event.span es

def asks (es : List Event) : Bool := (es.filterMap Event.mode?).getLast?.getD false

def pushes (asked : Bool) : List Event → List Json
  | [] => []
  | e :: es => (e.pushed? asked).toList ++ pushes (e.mode?.getD asked) es

def inForce (es : List Event) : Settings := ((pushes false es).getLast?.map ofChange).getD {}

theorem elapsed_append (es later : List Event) : elapsed (es ++ later) = elapsed es + elapsed later :=
  History.elapsed_append _ es later

theorem elapsed_get (es : List Event) (u : Uri) : elapsed (.get u :: es) = elapsed es := Nat.zero_add _

theorem asks_concat (es : List Event) (e : Event) : asks (es ++ [e]) = e.mode?.getD (asks es) := by
  unfold asks
  cases he : e.mode? with
  | none => simp [he]
  | some b => simp [he]

theorem now_step (d : Desk) (e : Event) : (d.step e).1.now = d.now + e.span := by
  cases e with
  | reply w index r =>
      simp only [step]
      split <;> rfl
  | setPulls | openDocument | closeDocument | change | get | advance => rfl

theorem now_after (d : Desk) (es : List Event) : (d.after es).now = d.now + elapsed es :=
  History.clock_foldl now now_step d es

theorem now_eq_elapsed (patience : Nat) (es : List Event) : (after (fresh patience) es).now = elapsed es := by
  rw [now_after]
  exact Nat.zero_add _

theorem mode_step (d : Desk) (e : Event) :
    (d.step e).1.cache.pulls = e.mode?.getD d.cache.pulls ∧
    (d.step e).1.cache.pushed = ((e.pushed? d.cache.pulls).map ofChange).getD d.cache.pushed ∧
    (d.step e).1.cache.patience = d.cache.patience := by
  cases e with
  | openDocument w =>
      simp only [step]
      rw [openDocument_eq]
      exact ⟨rfl, rfl, rfl⟩
  | change payload =>
      simp only [step, change, Event.pushed?]
      split <;> exact ⟨rfl, rfl, rfl⟩
  | get w =>
      have hu := (d.cache.get_cases d.now d.lookups w).1
      refine ⟨hu.pulls, hu.pushed, ?_⟩
      cases hp : d.cache.pulls with
      | false => rw [step_get_push hp]
      | true =>
          rw [step_get_pull hp, await_fst]
          exact (d.cache.bind_fields w).2
  | reply w index r =>
      simp only [step]
      split <;> exact ⟨rfl, rfl, rfl⟩
  | setPulls | closeDocument | advance => exact ⟨rfl, rfl, rfl⟩

theorem pulls_after (patience : Nat) (es : List Event) : (after (fresh patience) es).cache.pulls = asks es := by
  induction es using List.reverseRecOn with
  | nil => rfl
  | append_singleton es e ih => rw [after_concat, (mode_step _ e).1, ih, asks_concat]

theorem pushed_after (d : Desk) (es : List Event) :
    (d.after es).cache.pushed = ((pushes d.cache.pulls es).getLast?.map ofChange).getD d.cache.pushed := by
  induction es generalizing d with
  | nil => rfl
  | cons e es ih =>
      rw [after_cons, ih, (mode_step d e).1, (mode_step d e).2.1, pushes, List.getLast?_append]
      cases (pushes (e.mode?.getD d.cache.pulls) es).getLast? with
      | some payload => rfl
      | none => cases e.pushed? d.cache.pulls <;> rfl

theorem patience_after (patience : Nat) (es : List Event) :
    (after (fresh patience) es).cache.patience = patience := by
  induction es using List.reverseRecOn with
  | nil => rfl
  | append_singleton es e ih => rw [after_concat, (mode_step _ e).2.2, ih]

theorem lookups_le_step (d : Desk) (e : Event) : d.lookups ≤ (d.step e).1.lookups := by
  cases e with
  | get w => exact Nat.le_succ _
  | reply w index r =>
      simp only [step]
      split <;> exact Nat.le_refl _
  | setPulls | openDocument | closeDocument | change | advance => exact Nat.le_refl _

theorem lookups_le_after (d : Desk) (es : List Event) : d.lookups ≤ (d.after es).lookups := by
  induction es generalizing d with
  | nil => exact Nat.le_refl _
  | cons e es ih => exact Nat.le_trans (lookups_le_step d e) (ih _)

def Enters (d : Desk) (e : Event) (w : Waiter) : Prop :=
  ∃ u, e = .get u ∧ d.cache.pulls = true ∧ d.cache.answers.get? (d.bound u).id = none ∧ d.cache.patience ≠ 0 ∧
    w = ⟨d.lookups, (d.bound u).id, d.now + d.cache.patience⟩

theorem mem_waiters_get (hp : d.cache.pulls = true) (u : Uri) (w : Waiter) :
    w ∈ (d.step (.get u)).1.cache.waiters ↔ w ∈ d.cache.waiters ∨ d.Enters (.get u) w := by
  obtain ⟨ha, ht⟩ := d.cache.bind_fields u
  have hw := (d.cache.untouched_bind u).2
  rw [step_get_pull hp]
  simp only [await, ha, ht, hw, Enters, bound]
  by_cases hc : d.cache.answers.get? (d.cache.bind u).2.1 = none ∧ d.cache.patience ≠ 0
  · rw [if_pos hc]
    simp [hp, hc]
  · rw [if_neg hc, hw]
    constructor
    · exact .inl
    · rintro (hm | ⟨v, hv, -, hn, ht, -⟩)
      · exact hm
      · cases hv
        exact absurd ⟨hn, ht⟩ hc

theorem mem_resolved_get (hp : d.cache.pulls = true) (u : Uri) (n : Nat) (s : Settings) :
    (n, s) ∈ (d.step (.get u)).2.resolved ↔ n = d.lookups ∧ (d.cache.answers.get? (d.bound u).id = some s ∨
      d.cache.answers.get? (d.bound u).id = none ∧ d.cache.patience = 0 ∧ s = {}) := by
  obtain ⟨ha, ht⟩ := d.cache.bind_fields u
  rw [step_get_pull hp]
  simp only [await, ha, ht, bound]
  cases d.cache.answers.get? (d.cache.bind u).2.1 with
  | some v => simp [eq_comm]
  | none => by_cases hz : d.cache.patience = 0 <;> simp [hz]

/-- An event that takes no time and answers no request. -/
def Idle (d : Desk) (e : Event) : Prop := d.answered? e = none ∧ e.span = 0

theorem idle_or (d : Desk) (e : Event) : d.Idle e ∨
    (∃ u index r p, e = .reply u index r ∧ (d.cache.waiting u)[index]? = some p) ∨ ∃ ms, e = .advance ms := by
  cases e with
  | reply u index r =>
      cases hp : (d.cache.waiting u)[index]? with
      | none => exact .inl ⟨by simp [answered?, hp], rfl⟩
      | some p => exact .inr (.inl ⟨u, index, r, p, rfl, hp⟩)
  | advance ms => exact .inr (.inr ⟨ms, rfl⟩)
  | setPulls | openDocument | closeDocument | change | get => exact .inl ⟨rfl, rfl⟩

structure Orderly (d : Desk) : Prop where
  lookup_lt : ∀ w ∈ d.cache.waiters, w.lookup < d.lookups
  awake : ∀ w ∈ d.cache.waiters, d.now < w.deadline

namespace Orderly

theorem mem_waiters_idle (h : d.Orderly) (hi : d.Idle e) (w : Waiter) :
    w ∈ (d.step e).1.cache.waiters ↔ w ∈ d.cache.waiters ∨ d.Enters e w := by
  cases e with
  | setPulls | closeDocument => simp [Desk.step, closeDocument, Enters]
  | openDocument v =>
      simp only [Desk.step]
      rw [openDocument_eq]
      simp [Enters]
  | change payload =>
      change w ∈ (d.cache.change payload).waiters ↔ _
      rw [change_waiters]
      simp [Enters]
  | get v =>
      cases hp : d.cache.pulls with
      | false =>
          rw [step_get_push hp]
          simp [Enters, hp]
      | true => exact mem_waiters_get hp v w
  | reply v index r =>
      have hv : (d.cache.waiting v)[index]? = none := Option.map_eq_none_iff.mp hi.1
      rw [step_reply_unknown hv]
      simp [Enters]
  | advance ms =>
      obtain rfl : ms = 0 := hi.2
      simpa [Desk.step, expire, Enters] using h.awake w

/-- Those who wait after a step are those whose request it does not answer and whose time is not up, and the lookup
that begins with it. -/
theorem mem_waiters_step (h : d.Orderly) (e : Event) (w : Waiter) : w ∈ (d.step e).1.cache.waiters ↔
    (w ∈ d.cache.waiters ∧ (∀ p r, d.answered? e = some (p, r) → p.id ≠ w.pull) ∧ (d.step e).1.now < w.deadline) ∨
    d.Enters e w := by
  obtain hi | ⟨v, index, r, p, rfl, hv⟩ | ⟨ms, rfl⟩ := d.idle_or e
  · rw [h.mem_waiters_idle hi, now_step, hi.1, hi.2]
    refine or_congr_left ?_
    simpa using h.awake w
  · rw [step_reply hv]
    simp only [Cache.answer, List.mem_filter, decide_eq_true_eq, answered?, hv, Option.map_some, Enters,
      reduceCtorEq, false_and, exists_false, or_false]
    constructor
    · rintro ⟨hw, hne⟩
      refine ⟨hw, fun q r' hq => ?_, h.awake w hw⟩
      cases hq
      exact Ne.symm hne
    · rintro ⟨hw, hne, -⟩
      exact ⟨hw, Ne.symm (hne p r rfl)⟩
  · simp [Desk.step, expire, answered?, Enters]

theorem step (h : d.Orderly) (e : Event) : (d.step e).1.Orderly := by
  have hle := lookups_le_step d e
  constructor
  · intro w hw
    obtain ⟨hw, -⟩ | ⟨u, rfl, -, -, -, rfl⟩ := (h.mem_waiters_step e w).mp hw
    · exact Nat.lt_of_lt_of_le (h.lookup_lt w hw) hle
    · exact Nat.lt_succ_self _
  · intro w hw
    obtain ⟨-, -, ht⟩ | ⟨u, rfl, -, -, ht, rfl⟩ := (h.mem_waiters_step e w).mp hw
    · exact ht
    · rw [now_step]
      exact Nat.add_lt_add_left (Nat.pos_of_ne_zero ht) _

theorem after (h : d.Orderly) (es : List Event) : (d.after es).Orderly := by
  induction es generalizing d with
  | nil => exact h
  | cons e es ih => exact ih (h.step e)

theorem fresh (patience : Nat) : (fresh patience).Orderly := ⟨by simp [Desk.fresh], by simp [Desk.fresh]⟩

theorem mem_waiters_after (h : d.Orderly) {w : Waiter} (hw : w.lookup < d.lookups) (es : List Event) :
    w ∈ (d.after es).cache.waiters ↔ w ∈ d.cache.waiters ∧ (∀ p r, (p, r) ∈ d.replies es → p.id ≠ w.pull) ∧
      d.now + elapsed es < w.deadline := by
  induction es using List.reverseRecOn with
  | nil => simpa [replies, course, History.course, elapsed, History.elapsed] using h.awake w
  | append_singleton es e ih =>
      -- the numbers of lookups do not come back
      have hn : ¬ (d.after es).Enters e w := by
        rintro ⟨u, -, -, -, -, rfl⟩
        exact absurd (lookups_le_after d es) (Nat.not_le.mpr hw)
      rw [after_concat, (h.after es).mem_waiters_step e w, ih, replies_concat, ← now_after, ← now_after, after_concat]
      have hmono : (d.after es).now ≤ ((d.after es).step e).1.now := now_step (d.after es) e ▸ Nat.le_add_right _ _
      simp only [hn, or_false, List.mem_append, Option.mem_toList]
      constructor
      · rintro ⟨⟨hm, hold, -⟩, hnew, ht⟩
        exact ⟨hm, fun p r hr => hr.elim (hold p r) (hnew p r), ht⟩
      · rintro ⟨hm, hr, ht⟩
        exact ⟨⟨hm, fun p r hp => hr p r (.inl hp), Nat.lt_of_le_of_lt hmono ht⟩, fun p r hp => hr p r (.inr hp), ht⟩

theorem notMem_resolved_idle (h : d.Orderly) (hi : d.Idle e) {n : Nat} (hn : n < d.lookups) (s : Settings) :
    (n, s) ∉ (d.step e).2.resolved := by
  cases e with
  | setPulls | openDocument | closeDocument | change => simp [Desk.step]
  | get v =>
      intro hm
      have hl : n = d.lookups := by
        cases hp : d.cache.pulls with
        | false =>
            rw [step_get_push hp] at hm
            exact (Prod.mk.inj (List.mem_singleton.mp hm)).1
        | true => exact ((mem_resolved_get hp v n s).mp hm).1
      omega
  | reply v index r =>
      have hv : (d.cache.waiting v)[index]? = none := Option.map_eq_none_iff.mp hi.1
      rw [step_reply_unknown hv]
      simp
  | advance ms =>
      obtain rfl : ms = 0 := hi.2
      intro hm
      obtain ⟨w, hw, -⟩ := List.mem_map.mp hm
      obtain ⟨hw, hd⟩ := List.mem_filter.mp hw
      exact absurd (h.awake w hw) (Nat.not_lt.mpr (of_decide_eq_true hd))

theorem mem_resolved_step (h : d.Orderly) {n : Nat} (hn : n < d.lookups) (e : Event) (s : Settings) :
    (n, s) ∈ (d.step e).2.resolved ↔ ∃ w ∈ d.cache.waiters, w.lookup = n ∧
      ((∃ p r, d.answered? e = some (p, r) ∧ p.id = w.pull ∧ s = ofReply r) ∨
        w.deadline ≤ (d.step e).1.now ∧ s = {}) := by
  obtain hi | ⟨v, index, r, p, rfl, hv⟩ | ⟨ms, rfl⟩ := d.idle_or e
  · refine iff_of_false (h.notMem_resolved_idle hi hn s) ?_
    rintro ⟨w, hw, -, ⟨p, r, hr, -⟩ | ⟨hd, -⟩⟩
    · rw [hi.1] at hr
      cases hr
    · rw [now_step, hi.2] at hd
      exact absurd (h.awake w hw) (Nat.not_lt.mpr hd)
  · rw [step_reply hv]
    simp only [Cache.answer, List.mem_map, List.mem_filter, decide_eq_true_eq, Prod.mk.injEq, answered?, hv,
      Option.map_some, Option.some.injEq]
    constructor
    · rintro ⟨w, ⟨hw, hp⟩, hl, hs⟩
      exact ⟨w, hw, hl, .inl ⟨p, r, ⟨rfl, rfl⟩, hp.symm, hs.symm⟩⟩
    · rintro ⟨w, hw, hl, ⟨q, r', ⟨rfl, rfl⟩, hp, hs⟩ | ⟨hd, -⟩⟩
      · exact ⟨w, ⟨hw, hp.symm⟩, hl, hs.symm⟩
      · exact absurd (h.awake w hw) (Nat.not_lt.mpr hd)
  · simp only [Desk.step, expire, List.mem_map, List.mem_filter, decide_eq_true_eq, Prod.mk.injEq, answered?,
      reduceCtorEq, false_and, exists_false, false_or]
    constructor
    · rintro ⟨w, ⟨hw, hd⟩, hl, hs⟩
      exact ⟨w, hw, hl, hd, hs.symm⟩
    · rintro ⟨w, hw, hl, hd, hs⟩
      exact ⟨w, ⟨hw, hd⟩, hl, hs.symm⟩

end Orderly

def Returns (d : Desk) (es : List Event) (n : Nat) (s : Settings) : Prop :=
  ∃ before e, es = before ++ [e] ∧ (n, s) ∈ ((d.after before).step e).2.resolved

theorem returns_concat (d : Desk) (es : List Event) (e : Event) (n : Nat) (s : Settings) :
    d.Returns (es ++ [e]) n s ↔ (n, s) ∈ ((d.after es).step e).2.resolved := by
  constructor
  · rintro ⟨before, e', he, hm⟩
    obtain ⟨rfl, hl⟩ := List.append_inj' he rfl
    obtain rfl : e = e' := by simpa using hl
    exact hm
  · intro hm
    exact ⟨es, e, rfl, hm⟩

section Started

variable {patience : Nat} {es : List Event}

theorem after_get (d : Desk) (es later : List Event) (u : Uri) :
    d.after (es ++ .get u :: later) = ((d.after es).step (.get u)).1.after later := by
  rw [after_append, after_cons]

theorem lookups_lt_after (d : Desk) (es later : List Event) (u : Uri) :
    (d.after es).lookups < (d.after (es ++ .get u :: later)).lookups := by
  rw [after_get]
  exact lookups_le_after ((d.after es).step (.get u)).1 later

theorem returns_later_iff (patience : Nat) (es before : List Event) (u : Uri) (e : Event) (s : Settings) :
    (fresh patience).Returns (es ++ .get u :: (before ++ [e])) (after (fresh patience) es).lookups s ↔
      ∃ w ∈ (after (fresh patience) (es ++ .get u :: before)).cache.waiters,
        w.lookup = (after (fresh patience) es).lookups ∧
        ((∃ p r, (after (fresh patience) (es ++ .get u :: before)).answered? e = some (p, r) ∧ p.id = w.pull ∧
            s = ofReply r) ∨
          w.deadline ≤ elapsed es + elapsed (before ++ [e]) ∧ s = {}) := by
  have hl : es ++ .get u :: (before ++ [e]) = (es ++ .get u :: before) ++ [e] := by simp
  have ho := (Orderly.fresh patience).after (es ++ .get u :: before)
  have hlt := lookups_lt_after (fresh patience) es before u
  rw [hl, returns_concat, ho.mem_resolved_step hlt, ← after_concat, now_eq_elapsed, ← hl, elapsed_append, elapsed_get]

theorem returns_pushed_iff (hp : (after (fresh patience) es).cache.pulls = false) (u : Uri) (later : List Event)
    (s : Settings) :
    (fresh patience).Returns (es ++ .get u :: later) (after (fresh patience) es).lookups s ↔
      later = [] ∧ s = inForce es := by
  obtain rfl | ⟨before, e, rfl⟩ := List.eq_nil_or_concat' later
  · have hs : (after (fresh patience) es).cache.pushed = inForce es := pushed_after (fresh patience) es
    rw [returns_concat, step_get_push hp, hs]
    simp
  · rw [returns_later_iff]
    refine iff_of_false ?_ (by simp)
    rintro ⟨w, hw, hl, -⟩
    have ho := (Orderly.fresh patience).after es
    have hlt : w.lookup < ((after (fresh patience) es).step (.get u)).1.lookups := hl ▸ Nat.lt_succ_self _
    rw [after_get, (ho.step (.get u)).mem_waiters_after hlt, step_get_push hp] at hw
    exact absurd (ho.lookup_lt w hw.1) (by omega)

theorem mem_waiters_iff (hp : (after (fresh patience) es).cache.pulls = true) (u : Uri) (later : List Event)
    {w : Waiter} (hw : w.lookup = (after (fresh patience) es).lookups) :
    w ∈ (after (fresh patience) (es ++ .get u :: later)).cache.waiters ↔
      w = ⟨(after (fresh patience) es).lookups, ((after (fresh patience) es).bound u).id, elapsed es + patience⟩ ∧
      (∀ r, ((after (fresh patience) es).bound u, r) ∉ replies (fresh patience) (es ++ .get u :: later)) ∧
      elapsed later < patience := by
  have hu := unanswered_append_iff (bound_mem_issued hp u) later
  rw [List.append_assoc, List.singleton_append, replies_get, ← bound_unanswered_iff hp, after_concat] at hu
  have ho := (Orderly.fresh patience).after es
  have ht := patience_after patience es
  have hnow := now_eq_elapsed patience es
  rw [after_get, hu]
  generalize after (fresh patience) es = d at *
  have hn : (d.step (.get u)).1.now = d.now := now_step d (.get u)
  have hl : w.lookup < (d.step (.get u)).1.lookups := hw ▸ Nat.lt_succ_self _
  rw [(ho.step (.get u)).mem_waiters_after hl, mem_waiters_get hp, hn, hnow]
  constructor
  · rintro ⟨hm | ⟨v, hv, -, hnone, -, rfl⟩, hr, hd⟩
    · exact absurd (ho.lookup_lt w hm) (by omega)
    · cases hv
      rw [ht, hnow] at hd ⊢
      exact ⟨rfl, ⟨hnone, hr⟩, by simpa using hd⟩
  · rintro ⟨rfl, ⟨hnone, hr⟩, hd⟩
    refine ⟨.inr ⟨u, rfl, hp, hnone, by omega, by rw [ht, hnow]⟩, hr, ?_⟩
    exact Nat.add_lt_add_left hd _

theorem returns_pulled_iff (hp : (after (fresh patience) es).cache.pulls = true) (u : Uri) (later : List Event)
    (s : Settings) :
    (fresh patience).Returns (es ++ .get u :: later) (after (fresh patience) es).lookups s ↔
      (later = [] ∧ ((∃ r, ((after (fresh patience) es).bound u, r) ∈ replies (fresh patience) es ∧ s = ofReply r) ∨
        (∀ r, ((after (fresh patience) es).bound u, r) ∉ replies (fresh patience) es) ∧ patience = 0 ∧ s = {})) ∨
      ∃ before e, later = before ++ [e] ∧ elapsed before < patience ∧
        (∀ r, ((after (fresh patience) es).bound u, r) ∉ replies (fresh patience) (es ++ .get u :: before)) ∧
        ((∃ r, ((after (fresh patience) es).bound u, r) ∈ replies (fresh patience) (es ++ .get u :: later) ∧
            s = ofReply r) ∨
          patience ≤ elapsed later ∧ s = {}) := by
  obtain rfl | ⟨before, e, rfl⟩ := List.eq_nil_or_concat' later
  · rw [returns_concat, mem_resolved_get hp, bound_answers_iff hp, bound_unanswered_iff hp, patience_after]
    simp
  · have hl : es ++ .get u :: (before ++ [e]) = (es ++ .get u :: before) ++ [e] := by simp
    have hb : (after (fresh patience) es).bound u ∈ issued (fresh patience) (es ++ .get u :: before) := by
      have hm := bound_mem_issued hp u
      rw [← List.singleton_append, ← List.append_assoc, issued_append]
      exact List.mem_append_left _ hm
    rw [returns_later_iff]
    constructor
    · rintro ⟨w, hw, hwl, hc⟩
      obtain ⟨rfl, hn, ht⟩ := (mem_waiters_iff hp u before hwl).mp hw
      refine .inr ⟨before, e, rfl, ht, hn, ?_⟩
      rw [hl, ← answered_concat_iff hb hn]
      simpa using hc
    · rintro (⟨hnil, -⟩ | ⟨before', e', he, ht, hn, hc⟩)
      · simp at hnil
      · obtain ⟨rfl, -⟩ := List.append_inj' he rfl
        refine ⟨_, (mem_waiters_iff hp u before rfl).mpr ⟨rfl, hn, ht⟩, rfl, ?_⟩
        rw [hl, ← answered_concat_iff hb hn] at hc
        simpa using hc

end Started

/-- The request of a lookup is the stored one or a new one, which the lookup makes itself. -/
def Binds (d : Desk) (u : Uri) (p : Pull) : Prop :=
  p.uri = u ∧ (d.cache.stored.get? u = some p.id ∧ (d.step (.get u)).2.issued = [] ∨
    d.cache.stored.get? u = none ∧ (d.step (.get u)).2.issued = [p])

theorem binds_bound (h : d.Tidy) (hp : d.cache.pulls = true) (u : Uri) : d.Binds u (d.bound u) := by
  refine ⟨rfl, ?_⟩
  obtain hs | ⟨hn, -, hi⟩ := bound_cases h hp u
  · exact .inl hs
  · exact .inr ⟨hn, hi⟩

theorem Binds.eq {p q : Pull} (hp : d.Binds u p) (hq : d.Binds u q) : p = q := by
  obtain ⟨hpu, ⟨hs, -⟩ | ⟨hn, hi⟩⟩ := hp
  · obtain ⟨hqu, ⟨hs', -⟩ | ⟨hn', -⟩⟩ := hq
    · cases p
      cases q
      simp_all
    · rw [hs] at hn'
      cases hn'
  · obtain ⟨hqu, ⟨hs', -⟩ | ⟨-, hi'⟩⟩ := hq
    · rw [hn] at hs'
      cases hs'
    · rw [hi] at hi'
      exact List.singleton_inj.mp hi'

/-- While the editor cannot be asked, a lookup returns at once what was sent last. Otherwise it has one request. If
that has been answered, it returns at once, and else as soon as the answer comes or the time is up that it has had
since its own start. When its time is up, the stored requests and those who wait longer stay, and an answer that
comes later is what the next lookups return that find the request. -/
theorem returns_when_answered_or_late (patience : Nat) (ht : 0 < patience) (es : List Event) (u : Uri) :
    (asks es = false → ∀ (later : List Event) (s : Settings),
      (fresh patience).Returns (es ++ .get u :: later) (after (fresh patience) es).lookups s ↔
        later = [] ∧ s = inForce es) ∧
    (asks es = true → ∃ p : Pull, (after (fresh patience) es).Binds u p ∧
      p ∈ issued (fresh patience) (es ++ [.get u]) ∧
      (∀ (later : List Event) (s : Settings),
        (fresh patience).Returns (es ++ .get u :: later) (after (fresh patience) es).lookups s ↔
          (later = [] ∧ ∃ r : Reply, (p, r) ∈ replies (fresh patience) es ∧ s = ofReply r) ∨
          ∃ (before : List Event) (e : Event), later = before ++ [e] ∧ elapsed before < patience ∧
            (∀ r : Reply, (p, r) ∉ replies (fresh patience) (es ++ .get u :: before)) ∧
            ((∃ r : Reply, (p, r) ∈ replies (fresh patience) (es ++ .get u :: later) ∧ s = ofReply r) ∨
              patience ≤ elapsed later ∧ s = {})) ∧
      (∀ (later : List Event) (ms : Nat),
        ((after (fresh patience) (es ++ .get u :: later)).step (.advance ms)).1.cache.stored =
          (after (fresh patience) (es ++ .get u :: later)).cache.stored ∧
        ∀ w ∈ (after (fresh patience) (es ++ .get u :: later)).cache.waiters,
          elapsed (es ++ later) + ms < w.deadline →
          w ∈ ((after (fresh patience) (es ++ .get u :: later)).step (.advance ms)).1.cache.waiters) ∧
      ∀ (later : List Event) (r : Reply), (p, r) ∈ replies (fresh patience) (es ++ .get u :: later) →
        asks (es ++ .get u :: later) = true →
        (after (fresh patience) (es ++ .get u :: later)).cache.stored.get? u = some p.id →
        (fresh patience).Returns (es ++ .get u :: later ++ [.get u])
          (after (fresh patience) (es ++ .get u :: later)).lookups (ofReply r)) := by
  have htidy (es : List Event) := (tidy_fresh patience).after es
  constructor
  · intro ha
    exact returns_pushed_iff ((pulls_after patience es).trans ha) u
  · intro ha
    have hp := (pulls_after patience es).trans ha
    have hb := binds_bound (htidy es) hp u
    refine ⟨_, hb, bound_mem_issued hp u, ?_, ?_, ?_⟩
    · intro later s
      rw [returns_pulled_iff hp]
      simp [Nat.pos_iff_ne_zero.mp ht]
    · intro later ms
      refine ⟨rfl, fun w hw hd => List.mem_filter.mpr ⟨hw, ?_⟩⟩
      rw [now_eq_elapsed, elapsed_append, elapsed_get, ← elapsed_append]
      simpa using hd
    · intro later r hr ha' hs
      have hp' := (pulls_after patience (es ++ .get u :: later)).trans ha'
      -- the lookup finds the same request
      have hq : (after (fresh patience) (es ++ .get u :: later)).bound u = (after (fresh patience) es).bound u := by
        obtain ⟨hs', -⟩ | ⟨hn, -⟩ := bound_cases (htidy (es ++ .get u :: later)) hp' u
        · rw [hs, Option.some.injEq] at hs'
          simpa [bound] using hs'.symm
        · rw [hs] at hn
          cases hn
      rw [returns_pulled_iff hp']
      exact .inl ⟨rfl, .inl ⟨r, hq ▸ hr, rfl⟩⟩

/-- Two lookups wait for one request. The time of the first is up before the answer comes, and the second returns
the answer. -/
theorem returns_when_answered_or_late_of_two :
    let u : Uri := { scheme := "untitled", path := .plain "a" }
    let es : List Event := [.setPulls true, .openDocument u, .get u, .advance 500]
    let later : List Event := [.advance 1500, .reply u 0 (.ok (.arr [.int 7]))]
    0 < 2000 ∧ asks es = true ∧ (0, {}) ∈ ((after (fresh 2000) (es ++ [.get u])).step (.advance 1500)).2.resolved ∧
    (fresh 2000).Returns (es ++ .get u :: later) 1 { maxProblems := 7 } := by
  intro u es later
  have ha : asks es = true := by decide
  have h0 : (0, {}) ∈ ((after (fresh 2000) (es ++ [.get u])).step (.advance 1500)).2.resolved := by decide +kernel
  refine ⟨by decide, ha, h0, ?_⟩
  obtain ⟨p, hb, -, hr, -⟩ := (returns_when_answered_or_late 2000 (by decide) es u).2 ha
  have hl : (after (fresh 2000) es).lookups = 1 := by decide +kernel
  have hs : (after (fresh 2000) es).cache.stored.get? u = some 0 := by decide +kernel
  have hi : ((after (fresh 2000) es).step (.get u)).2.issued = [] := by decide +kernel
  obtain rfl : p = ⟨0, u⟩ := hb.eq ⟨rfl, .inl ⟨hs, hi⟩⟩
  have hn : replies (fresh 2000) (es ++ .get u :: [.advance 1500]) = [] := by rfl
  have hy : replies (fresh 2000) (es ++ .get u :: later) = [(⟨0, u⟩, .ok (.arr [.int 7]))] := by rfl
  rw [hl] at hr
  refine (hr later _).mpr (.inr ⟨[.advance 1500], _, rfl, by decide, by simp [hn], .inl ⟨.ok (.arr [.int 7]), ?_, ?_⟩⟩)
  · rw [hy]
    exact List.mem_singleton_self _
  · decide

end Desk

end LintBridge.Settings
