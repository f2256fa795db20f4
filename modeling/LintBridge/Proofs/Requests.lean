import LintBridge.Proofs.Entries
import LintBridge.Proofs.Mirror

namespace LintBridge.Settings

namespace Cache

theorem await_fst (c : Cache) (now lookup id : Nat) :
    (c.await now lookup id).1 = { c with waiters := (c.await now lookup id).1.waiters } := by
  unfold await
  split <;> rfl

theorem openDocument_eq (c : Cache) (u : Uri) :
    c.openDocument u = { c with opened := (c.openDocument u).opened } := by
  unfold openDocument
  split <;> rfl

theorem bind_fields (c : Cache) (u : Uri) :
    (c.bind u).1.answers = c.answers ∧ (c.bind u).1.patience = c.patience := by
  obtain ⟨k, -, -, hb⟩ | ⟨-, hb⟩ := c.bind_cases u
  · rw [hb]; exact ⟨rfl, rfl⟩
  · rw [hb]; exact ⟨rfl, rfl⟩

end Cache

namespace Desk

open Cache

variable {d : Desk} {e : Event} {u : Uri}

def answered? (d : Desk) : Event → Option (Pull × Reply)
  | .reply u index r => (d.cache.waiting u)[index]?.map fun p => (p, r)
  | _ => none

def course {α : Type} (f : Desk → Event → List α) (d : Desk) (es : List Event) : List α :=
  History.course (fun d e => (d.step e).1) f d es

def issued (d : Desk) (es : List Event) : List Pull := d.course (fun d e => (d.step e).2.issued) es

def replies (d : Desk) (es : List Event) : List (Pull × Reply) := d.course (fun d e => (d.answered? e).toList) es

theorem issued_cons (d : Desk) (e : Event) (es : List Event) :
    d.issued (e :: es) = (d.step e).2.issued ++ (d.step e).1.issued es := rfl

theorem after_concat (d : Desk) (es : List Event) (e : Event) : d.after (es ++ [e]) = ((d.after es).step e).1 :=
  after_append d es [e]

theorem issued_append (d : Desk) (es later : List Event) :
    d.issued (es ++ later) = d.issued es ++ (d.after es).issued later := History.course_append _ d es later

theorem replies_append (d : Desk) (es later : List Event) :
    d.replies (es ++ later) = d.replies es ++ (d.after es).replies later := History.course_append _ d es later

theorem issued_concat (d : Desk) (es : List Event) (e : Event) :
    d.issued (es ++ [e]) = d.issued es ++ ((d.after es).step e).2.issued := History.course_concat _ d es e

theorem replies_concat (d : Desk) (es : List Event) (e : Event) :
    d.replies (es ++ [e]) = d.replies es ++ ((d.after es).answered? e).toList := History.course_concat _ d es e

theorem step_get_push (hp : d.cache.pulls = false) (u : Uri) :
    d.step (.get u) = ({ d with lookups := d.lookups + 1 }, { resolved := [(d.lookups, d.cache.pushed)] }) := by
  simp [step, Cache.get, hp]

theorem step_get_pull (hp : d.cache.pulls = true) (u : Uri) :
    d.step (.get u) =
      ({ d with
          cache := ((d.cache.bind u).1.await d.now d.lookups (d.cache.bind u).2.1).1
          lookups := d.lookups + 1 },
        { issued := (d.cache.bind u).2.2.toList
          resolved := ((d.cache.bind u).1.await d.now d.lookups (d.cache.bind u).2.1).2.toList.map (d.lookups, ·) }) := by
  simp [step, get_eq, hp]

theorem step_reply {index : Nat} {p : Pull} (h : (d.cache.waiting u)[index]? = some p) (r : Reply) :
    d.step (.reply u index r) =
      ({ d with cache := (d.cache.answer p.id r).1 }, { resolved := (d.cache.answer p.id r).2 }) := by
  simp [step, h]

theorem step_reply_unknown {index : Nat} (h : (d.cache.waiting u)[index]? = none) (r : Reply) :
    d.step (.reply u index r) = (d, {}) := by
  simp [step, h]

/-- What a cache holds of its requests, given those that were made and the answers that came. -/
structure Recorded (c : Cache) (made : List Pull) (told : List (Pull × Reply)) : Prop where
  ids : made.map Pull.id = List.range c.nextPull
  unanswered : ∀ p, p ∈ c.unanswered ↔ p ∈ made ∧ ∀ r, (p, r) ∉ told
  made_of_told : ∀ p r, (p, r) ∈ told → p ∈ made
  answers : ∀ k s, c.answers.get? k = some s ↔ ∃ p r, p.id = k ∧ (p, r) ∈ told ∧ s = ofReply r
  stored : ∀ u k, c.stored.get? u = some k → ⟨k, u⟩ ∈ made

namespace Recorded

variable {c : Cache} {made : List Pull} {told : List (Pull × Reply)}

theorem initial (patience : Nat) : Recorded (fresh patience).cache [] [] where
  ids := rfl
  unanswered := by simp [fresh]
  made_of_told := by simp
  answers := by simp [fresh]
  stored := by simp [fresh]

theorem id_lt (h : Recorded c made told) {p : Pull} (hp : p ∈ made) : p.id < c.nextPull := by
  have hm := List.mem_map_of_mem (f := Pull.id) hp
  rw [h.ids] at hm
  exact List.mem_range.mp hm

theorem eq_of_id_eq (h : Recorded c made told) {p q : Pull} (hp : p ∈ made) (hq : q ∈ made) (hid : p.id = q.id) :
    p = q := by
  have hn : (made.map Pull.id).Nodup := h.ids ▸ List.nodup_range
  exact List.inj_on_of_nodup_map hn hp hq hid

theorem answers_iff (h : Recorded c made told) {p : Pull} (hp : p ∈ made) (s : Settings) :
    c.answers.get? p.id = some s ↔ ∃ r, (p, r) ∈ told ∧ s = ofReply r := by
  rw [h.answers]
  constructor
  · rintro ⟨q, r, hid, hr, hs⟩
    obtain rfl := h.eq_of_id_eq (h.made_of_told q r hr) hp hid
    exact ⟨r, hr, hs⟩
  · rintro ⟨r, hr, hs⟩
    exact ⟨p, r, rfl, hr, hs⟩

theorem answers_eq_none_iff (h : Recorded c made told) {p : Pull} (hp : p ∈ made) :
    c.answers.get? p.id = none ↔ ∀ r, (p, r) ∉ told := by
  constructor
  · intro hn r hr
    have hs := (h.answers_iff hp _).mpr ⟨r, hr, rfl⟩
    rw [hn] at hs
    cases hs
  · intro hn
    cases ha : c.answers.get? p.id with
    | none => rfl
    | some s =>
        obtain ⟨r, hr, -⟩ := (h.answers_iff hp s).mp ha
        exact absurd hr (hn r)

theorem with_waiters (h : Recorded c made told) (ws : List Waiter) : Recorded { c with waiters := ws } made told :=
  ⟨h.ids, h.unanswered, h.made_of_told, h.answers, h.stored⟩

theorem ask (h : Recorded c made told) (u : Uri) : Recorded (c.ask u) (made ++ [⟨c.nextPull, u⟩]) told where
  ids := by
    have hn : (c.ask u).nextPull = c.nextPull + 1 := rfl
    rw [List.map_append, h.ids, hn, List.range_succ]
    rfl
  unanswered p := by
    have hu : (c.ask u).unanswered = c.unanswered ++ [⟨c.nextPull, u⟩] := rfl
    rw [hu, List.mem_append, List.mem_append, h.unanswered]
    constructor
    · rintro (⟨hp, hr⟩ | hp)
      · exact ⟨.inl hp, hr⟩
      · refine ⟨.inr hp, fun r hr => ?_⟩
        -- a request that was answered has been made before
        obtain rfl := List.mem_singleton.mp hp
        exact absurd (h.id_lt (h.made_of_told _ r hr)) (Nat.lt_irrefl _)
    · rintro ⟨hp | hp, hr⟩
      · exact .inl ⟨hp, hr⟩
      · exact .inr hp
  made_of_told p r hr := List.mem_append_left _ (h.made_of_told p r hr)
  answers := h.answers
  stored w k hk := by
    have hs : (c.ask u).stored = if c.isOpen u then c.stored.set u c.nextPull else c.stored := rfl
    rw [hs] at hk
    split at hk
    · by_cases hw : w = u
      · subst w
        rw [Table.get?_set_self, Option.some.injEq] at hk
        exact List.mem_append_right _ (by simp [hk])
      · rw [Table.get?_set_of_ne _ _ hw] at hk
        exact List.mem_append_left _ (h.stored w k hk)
    · exact List.mem_append_left _ (h.stored w k hk)

theorem get (h : Recorded d.cache made told) (u : Uri) :
    Recorded (d.step (.get u)).1.cache (made ++ (d.step (.get u)).2.issued) told := by
  cases hp : d.cache.pulls with
  | false =>
      rw [step_get_push hp]
      simpa using h
  | true =>
      rw [step_get_pull hp, await_fst]
      apply with_waiters
      obtain ⟨k, -, -, hb⟩ | ⟨-, hb⟩ := d.cache.bind_cases u
      · rw [hb]
        simpa using h
      · rw [hb]
        exact h.ask u

theorem answer (h : Recorded c made told) {p : Pull} (hp : p ∈ c.unanswered) (r : Reply) :
    Recorded (c.answer p.id r).1 made (told ++ [(p, r)]) := by
  obtain ⟨hm, hn⟩ := (h.unanswered p).mp hp
  refine ⟨h.ids, ?_, ?_, ?_, h.stored⟩
  · intro q
    have hu : q ∈ (c.answer p.id r).1.unanswered ↔ q ∈ c.unanswered ∧ q.id ≠ p.id := by simp [Cache.answer]
    rw [hu, h.unanswered]
    constructor
    · rintro ⟨⟨hq, hr⟩, hid⟩
      refine ⟨hq, fun r' hr' => ?_⟩
      obtain hr' | hr' := List.mem_append.mp hr'
      · exact hr r' hr'
      · obtain ⟨rfl, -⟩ := Prod.mk.inj (List.mem_singleton.mp hr')
        exact hid rfl
    · rintro ⟨hq, hr⟩
      refine ⟨⟨hq, fun r' hr' => hr r' (List.mem_append_left _ hr')⟩, fun hid => ?_⟩
      obtain rfl := h.eq_of_id_eq hq hm hid
      exact hr r (List.mem_append_right _ (List.mem_singleton_self _))
  · intro q r' hr'
    obtain hr' | hr' := List.mem_append.mp hr'
    · exact h.made_of_told q r' hr'
    · obtain ⟨rfl, -⟩ := Prod.mk.inj (List.mem_singleton.mp hr')
      exact hm
  · intro k s
    change (c.answers.set p.id (ofReply r)).get? k = some s ↔ _
    constructor
    · intro hk
      by_cases he : k = p.id
      · subst k
        rw [Table.get?_set_self, Option.some.injEq] at hk
        exact ⟨p, r, rfl, by simp, hk.symm⟩
      · rw [Table.get?_set_of_ne _ _ he, h.answers] at hk
        obtain ⟨q, r', hid, hr', hs⟩ := hk
        exact ⟨q, r', hid, List.mem_append_left _ hr', hs⟩
    · rintro ⟨q, r', rfl, hr', rfl⟩
      obtain hold | hnew := List.mem_append.mp hr'
      · have hq : q.id ≠ p.id := by
          intro hid
          obtain rfl := h.eq_of_id_eq (h.made_of_told q r' hold) hm hid
          exact hn r' hold
        rw [Table.get?_set_of_ne _ _ hq, h.answers]
        exact ⟨q, r', rfl, hold, rfl⟩
      · obtain ⟨rfl, rfl⟩ := Prod.mk.inj (List.mem_singleton.mp hnew)
        exact Table.get?_set_self _ _ _

theorem step (h : Recorded d.cache made told) (e : Event) :
    Recorded (d.step e).1.cache (made ++ (d.step e).2.issued) (told ++ (d.answered? e).toList) := by
  -- what is not a lookup asks for nothing, and of the requests it drops at most some that are stored
  have hsame {c : Cache} (hn : c.nextPull = d.cache.nextPull) (hu : c.unanswered = d.cache.unanswered)
      (ha : c.answers = d.cache.answers) (hs : ∀ u k, c.stored.get? u = some k → d.cache.stored.get? u = some k) :
      Recorded c (made ++ []) (told ++ []) := by
    rw [List.append_nil, List.append_nil]
    exact ⟨hn ▸ h.ids, hu ▸ h.unanswered, h.made_of_told, ha ▸ h.answers, fun u k hk => h.stored u k (hs u k hk)⟩
  cases e with
  | setPulls b => exact hsame rfl rfl rfl fun _ _ hk => hk
  | openDocument w =>
      change Recorded (d.cache.openDocument w) (made ++ []) (told ++ [])
      rw [openDocument_eq]
      exact hsame rfl rfl rfl fun _ _ hk => hk
  | closeDocument w =>
      refine hsame rfl rfl rfl fun u k hk => ?_
      change (d.cache.stored.erase w).get? u = some k at hk
      by_cases hu : u = w
      · subst u
        simp at hk
      · rwa [Table.get?_erase_of_ne _ hu] at hk
  | change payload =>
      change Recorded (d.cache.change payload) (made ++ []) (told ++ [])
      unfold change
      split
      · exact hsame rfl rfl rfl (by simp)
      · exact hsame rfl rfl rfl fun _ _ hk => hk
  | get w =>
      have ha : (d.answered? (.get w)).toList = [] := rfl
      rw [ha, List.append_nil]
      exact h.get w
  | reply w index r =>
      cases hw : (d.cache.waiting w)[index]? with
      | none =>
          rw [step_reply_unknown hw]
          simp only [answered?, hw]
          exact hsame rfl rfl rfl fun _ _ hk => hk
      | some p =>
          rw [step_reply hw]
          simp only [answered?, hw, Option.map_some, Option.toList_some, List.append_nil]
          exact h.answer (List.mem_filter.mp (List.mem_of_getElem? hw)).1 r
  | advance ms => exact hsame rfl rfl rfl fun _ _ hk => hk

end Recorded

theorem recorded_after (patience : Nat) (es : List Event) :
    Recorded (after (fresh patience) es).cache (issued (fresh patience) es) (replies (fresh patience) es) := by
  induction es using List.reverseRecOn with
  | nil => exact .initial patience
  | append_singleton es e ih =>
      rw [after_concat, issued_concat, replies_concat]
      exact ih.step e

def bound (d : Desk) (u : Uri) : Pull := ⟨(d.cache.bind u).2.1, u⟩

theorem bound_cases (h : d.Tidy) (hp : d.cache.pulls = true) (u : Uri) :
    (d.cache.stored.get? u = some (d.bound u).id ∧ (d.step (.get u)).2.issued = []) ∨
    (d.cache.stored.get? u = none ∧ (d.bound u).id = d.cache.nextPull ∧ (d.step (.get u)).2.issued = [d.bound u]) := by
  rw [step_get_pull hp]
  unfold bound
  obtain ⟨k, -, hs, hb⟩ | ⟨hs, hb⟩ := d.cache.bind_cases u
  · rw [hb]
    exact .inl ⟨hs, rfl⟩
  · have hn : d.cache.stored.get? u = none := by
      by_contra hk
      exact hk (hs ((isOpen_iff _ _).mpr (h u hk)))
    rw [hb]
    exact .inr ⟨hn, rfl, rfl⟩

theorem replies_get (d : Desk) (es : List Event) (u : Uri) : d.replies (es ++ [.get u]) = d.replies es := by
  rw [replies_concat]
  exact List.append_nil _

theorem answers_get (d : Desk) (u : Uri) : (d.step (.get u)).1.cache.answers = d.cache.answers := by
  cases hp : d.cache.pulls with
  | false => rw [step_get_push hp]
  | true =>
      rw [step_get_pull hp, await_fst]
      exact (d.cache.bind_fields u).1

theorem unanswered_append_iff {patience : Nat} {es : List Event} {p : Pull}
    (hp : p ∈ issued (fresh patience) es) (later : List Event) :
    (∀ r, (p, r) ∉ replies (fresh patience) (es ++ later)) ↔ (∀ r, (p, r) ∉ replies (fresh patience) es) ∧
      ∀ q r, (q, r) ∈ (after (fresh patience) es).replies later → q.id ≠ p.id := by
  have hrec := recorded_after patience (es ++ later)
  rw [replies_append] at hrec ⊢
  constructor
  · intro hn
    refine ⟨fun r hr => hn r (List.mem_append_left _ hr), ?_⟩
    intro q r hr hid
    have hr := List.mem_append_right (replies (fresh patience) es) hr
    -- what was answered is a request that was made, and its number tells which
    have hm : p ∈ issued (fresh patience) (es ++ later) := by
      rw [issued_append]
      exact List.mem_append_left _ hp
    obtain rfl := hrec.eq_of_id_eq (hrec.made_of_told q r hr) hm hid
    exact hn r hr
  · rintro ⟨hold, hnew⟩ r hr
    obtain hr | hr := List.mem_append.mp hr
    · exact hold r hr
    · exact hnew p r hr rfl

theorem answered_concat_iff {patience : Nat} {es : List Event} {p : Pull} (hp : p ∈ issued (fresh patience) es)
    (hn : ∀ r, (p, r) ∉ replies (fresh patience) es) (e : Event) (s : Settings) :
    (∃ q r, (after (fresh patience) es).answered? e = some (q, r) ∧ q.id = p.id ∧ s = ofReply r) ↔
      ∃ r, (p, r) ∈ replies (fresh patience) (es ++ [e]) ∧ s = ofReply r := by
  have hrec := recorded_after patience (es ++ [e])
  rw [replies_concat] at hrec ⊢
  constructor
  · rintro ⟨q, r, ha, hid, hs⟩
    have hr := List.mem_append_right (replies (fresh patience) es) (Option.mem_toList.mpr ha)
    have hm : p ∈ issued (fresh patience) (es ++ [e]) := by
      rw [issued_concat]
      exact List.mem_append_left _ hp
    obtain rfl := hrec.eq_of_id_eq (hrec.made_of_told q r hr) hm hid
    exact ⟨r, hr, hs⟩
  · rintro ⟨r, hr, hs⟩
    obtain hr | hr := List.mem_append.mp hr
    · exact absurd hr (hn r)
    · exact ⟨p, r, Option.mem_toList.mp hr, rfl, hs⟩

section Bound

variable {patience : Nat} {es : List Event} (hp : (after (fresh patience) es).cache.pulls = true) (u : Uri)
include hp

theorem bound_mem_issued : (after (fresh patience) es).bound u ∈ issued (fresh patience) (es ++ [.get u]) := by
  rw [issued_concat]
  obtain ⟨hs, -⟩ | ⟨-, -, hi⟩ := bound_cases ((tidy_fresh patience).after es) hp u
  · exact List.mem_append_left _ ((recorded_after patience es).stored u _ hs)
  · rw [hi]
    exact List.mem_append_right _ (List.mem_singleton_self _)

theorem bound_answers_iff (s : Settings) :
    (after (fresh patience) es).cache.answers.get? ((after (fresh patience) es).bound u).id = some s ↔
      ∃ r, ((after (fresh patience) es).bound u, r) ∈ replies (fresh patience) es ∧ s = ofReply r := by
  have h := (recorded_after patience (es ++ [.get u])).answers_iff (bound_mem_issued hp u) s
  rwa [after_concat, answers_get, replies_get] at h

theorem bound_unanswered_iff :
    (after (fresh patience) es).cache.answers.get? ((after (fresh patience) es).bound u).id = none ↔
      ∀ r, ((after (fresh patience) es).bound u, r) ∉ replies (fresh patience) es := by
  have h := (recorded_after patience (es ++ [.get u])).answers_eq_none_iff (bound_mem_issued hp u)
  rwa [after_concat, answers_get, replies_get] at h

end Bound

end Desk

end LintBridge.Settings
