import LintBridge.Proofs.Lookups

namespace LintBridge.Settings.Desk

open Cache

variable {d : Desk} {e : Event} {u : Uri} {patience : Nat} {es later : List Event}

def IsOpen (es : List Event) (u : Uri) : Prop := Standing (.openDocument u) (.closeDocument u) es

theorem mem_opened_after (patience : Nat) (es : List Event) (u : Uri) :
    u ∈ (after (fresh patience) es).cache.opened ↔ IsOpen es u := by
  induction es using List.reverseRecOn with
  | nil => simp [IsOpen, Standing.not_nil, fresh]
  | append_singleton es e ih => rw [after_concat, mem_opened_step, ih, IsOpen, IsOpen, Standing.concat_iff]

theorem get_of_issued (h : d.Tidy) {p : Pull} (hp : p ∈ (d.step e).2.issued) :
    e = .get p.uri ∧ d.cache.stored.get? p.uri = none := by
  cases e with
  | get w =>
      cases ha : d.cache.pulls with
      | false =>
          rw [step_get_push ha] at hp
          cases hp
      | true =>
          obtain ⟨-, hi⟩ | ⟨hn, -, hi⟩ := bound_cases h ha w
          · rw [hi] at hp
            cases hp
          · rw [hi] at hp
            obtain rfl := List.mem_singleton.mp hp
            exact ⟨rfl, hn⟩
  | reply w index r =>
      simp only [step] at hp
      split at hp <;> cases hp
  | setPulls | openDocument | closeDocument | change | advance => cases hp

theorem stored_step_get (h : d.Tidy) (hp : d.cache.pulls = true) (ho : u ∈ d.cache.opened) :
    (d.step (.get u)).1.cache.stored.get? u = some (d.bound u).id := by
  rw [stored_step_iff]
  obtain ⟨hs, -⟩ | ⟨hn, hid, -⟩ := bound_cases h hp u
  · exact .inl ⟨hs, by simp [Drops]⟩
  · exact .inr ⟨⟨rfl, hp, ho⟩, hn, hid⟩

theorem filter_issued_eq_nil (h : d.Tidy) (he : e ≠ .get u ∨ d.cache.stored.get? u ≠ none) :
    (d.step e).2.issued.filter (·.uri = u) = [] := by
  rw [List.filter_eq_nil_iff]
  intro p hp hu
  obtain rfl : p.uri = u := by simpa using hu
  obtain ⟨hg, hn⟩ := get_of_issued h hp
  obtain he | he := he
  · exact he hg
  · exact he hn

theorem stored_kept (h : d.Tidy) {k : Nat} (hs : d.cache.stored.get? u = some k) (hc : .closeDocument u ∉ es)
    (hn : ∀ payload, .change payload ∉ es) :
    (d.after es).cache.stored.get? u = some k ∧ (d.issued es).filter (·.uri = u) = [] := by
  induction es generalizing d with
  | nil => exact ⟨hs, rfl⟩
  | cons e es ih =>
      simp only [List.mem_cons, not_or] at hc hn
      have hd : ¬ d.Drops e u := by
        rintro (rfl | ⟨-, payload, rfl⟩)
        · exact hc.1 rfl
        · exact (hn payload).1 rfl
      have hi : (d.step e).2.issued.filter (·.uri = u) = [] := filter_issued_eq_nil h (.inr (by simp [hs]))
      have hs := (stored_step_iff d e u k).mpr (.inl ⟨hs, hd⟩)
      obtain ⟨hk, hl⟩ := ih (h.step e) hs hc.2 fun payload => (hn payload).2
      exact ⟨hk, by rw [issued_cons, List.filter_append, hi, hl, List.append_nil]⟩

theorem stored_idle (h : d.Tidy) (hs : d.cache.stored.get? u = none) (hg : .get u ∉ es) :
    (d.after es).cache.stored.get? u = none ∧ (d.issued es).filter (·.uri = u) = [] := by
  induction es generalizing d with
  | nil => exact ⟨hs, rfl⟩
  | cons e es ih =>
      simp only [List.mem_cons, not_or] at hg
      have hi : (d.step e).2.issued.filter (·.uri = u) = [] := filter_issued_eq_nil h (.inl (Ne.symm hg.1))
      have hs : (d.step e).1.cache.stored.get? u = none := by
        by_contra hk
        obtain ⟨k, hk⟩ := Option.ne_none_iff_exists'.mp hk
        obtain ⟨hk, -⟩ | ⟨hst, -⟩ := (stored_step_iff d e u k).mp hk
        · rw [hs] at hk
          cases hk
        · exact hg.1 hst.1.symm
      obtain ⟨hk, hl⟩ := ih (h.step e) hs hg.2
      exact ⟨hk, by rw [issued_cons, List.filter_append, hi, hl, List.append_nil]⟩

/-- A stretch of events in which a document stays open, the editor can be asked, and nothing changes. -/
structure Steady (es stretch : List Event) (u : Uri) : Prop where
  opened : ∀ before, before <+: stretch → IsOpen (es ++ before) u
  asked : ∀ before, before <+: stretch → asks (es ++ before) = true
  unchanged : ∀ payload, .change payload ∉ stretch

namespace Steady

variable {stretch before since : List Event}

theorem not_closed (h : Steady es stretch u) : .closeDocument u ∉ stretch := by
  intro hm
  obtain ⟨before, since, rfl⟩ := List.mem_iff_append.mp hm
  have ho := h.opened (before ++ [.closeDocument u]) ⟨since, by simp⟩
  rw [← List.append_assoc, IsOpen, Standing.concat_iff] at ho
  simp at ho

theorem of_notMem (ho : IsOpen es u) (ha : asks es = true) (hc : .closeDocument u ∉ stretch)
    (hp : .setPulls false ∉ stretch) (hn : ∀ payload, .change payload ∉ stretch) : Steady es stretch u := by
  have hall : ∀ before, before ⊆ stretch → IsOpen (es ++ before) u ∧ asks (es ++ before) = true := by
    intro before
    induction before using List.reverseRecOn with
    | nil =>
        intro _
        simpa using ⟨ho, ha⟩
    | append_singleton before e ih =>
        intro hs
        obtain ⟨hs, he⟩ := List.append_subset.mp hs
        obtain ⟨ho, ha⟩ := ih hs
        have he : e ∈ stretch := he (List.mem_singleton_self e)
        rw [← List.append_assoc, IsOpen, Standing.concat_iff, asks_concat]
        refine ⟨.inr ⟨fun hx => hc (hx ▸ he), ho⟩, ?_⟩
        cases e with
        | setPulls b =>
            cases b with
            | false => exact absurd he hp
            | true => rfl
        | openDocument | closeDocument | change | get | reply | advance => exact ha
  exact ⟨fun _ hs => (hall _ hs.subset).1, fun _ hs => (hall _ hs.subset).2, hn⟩

theorem stored_end (h : Steady es stretch u) (hs : stretch = before ++ .get u :: since) :
    (after (fresh patience) (es ++ stretch)).cache.stored.get? u =
      some ((after (fresh patience) (es ++ before)).bound u).id ∧
    ((after (fresh patience) (es ++ before ++ [.get u])).issued since).filter (·.uri = u) = [] := by
  have hpre : before <+: stretch := ⟨.get u :: since, hs.symm⟩
  have hp := (pulls_after patience _).trans (h.asked before hpre)
  have ho := (mem_opened_after patience _ u).mpr (h.opened before hpre)
  have ht := (tidy_fresh patience).after (es ++ before)
  have hc := h.not_closed
  have hn := h.unchanged
  subst stretch
  simp only [List.mem_append, List.mem_cons, not_or] at hc hn
  have hk := stored_kept (ht.step (.get u)) (stored_step_get ht hp ho) hc.2.2 fun payload => (hn payload).2.2
  rw [← List.append_assoc, after_get, after_concat]
  exact hk

/-- All lookups of a stretch have one request. It is made if there is none at first, and no other one is. -/
theorem exists_request (h : Steady es stretch u) (patience : Nat) : ∃ p : Pull,
    (∀ before since, stretch = before ++ .get u :: since → (after (fresh patience) (es ++ before)).bound u = p) ∧
    ((after (fresh patience) es).cache.stored.get? u = none → .get u ∈ stretch →
      ((after (fresh patience) es).issued stretch).filter (·.uri = u) = [p]) ∧
    (((after (fresh patience) es).cache.stored.get? u ≠ none ∨ .get u ∉ stretch) →
      ((after (fresh patience) es).issued stretch).filter (·.uri = u) = []) := by
  have ht := (tidy_fresh patience).after es
  -- the request is the one that is stored at the end of the stretch
  have hall : ∀ before since, stretch = before ++ .get u :: since →
      (after (fresh patience) (es ++ before)).bound u =
        ⟨((after (fresh patience) (es ++ stretch)).cache.stored.get? u).getD 0, u⟩ := by
    intro before since hs
    rw [(h.stored_end hs).1]
    rfl
  refine ⟨_, hall, ?_, ?_⟩
  · intro hn hg
    obtain ⟨before, since, hs, hfirst⟩ := List.eq_append_cons_of_mem hg
    have hp := (pulls_after patience _).trans (h.asked before ⟨_, hs.symm⟩)
    obtain ⟨hn, hi⟩ := stored_idle ht hn hfirst
    rw [← after_append] at hn
    rw [← hall before since hs]
    obtain ⟨hk, -⟩ | ⟨-, -, hnew⟩ := bound_cases ((tidy_fresh patience).after (es ++ before)) hp u
    · rw [hn] at hk
      cases hk
    · have hl : (after (fresh patience) es).issued stretch = (after (fresh patience) es).issued before ++
          (((after (fresh patience) (es ++ before)).step (.get u)).2.issued ++
            (after (fresh patience) (es ++ before ++ [.get u])).issued since) := by
        rw [hs, issued_append, ← after_append, after_concat]
        rfl
      rw [hl, List.filter_append, List.filter_append, hi, (h.stored_end hs).2, hnew]
      simp [bound]
  · rintro (hk | hg)
    · obtain ⟨k, hk⟩ := Option.ne_none_iff_exists'.mp hk
      exact (stored_kept ht hk h.not_closed h.unchanged).2
    · by_cases hk : (after (fresh patience) es).cache.stored.get? u = none
      · exact (stored_idle ht hk hg).2
      · obtain ⟨k, hk⟩ := Option.ne_none_iff_exists'.mp hk
        exact (stored_kept ht hk h.not_closed h.unchanged).2

end Steady

def Overdue (patience : Nat) (p : Pull) (es since : List Event) : Prop :=
  patience ≤ elapsed since ∧ ∀ r, (p, r) ∉ replies (fresh patience) (es ++ since)

theorem span_of_answered {x : Pull × Reply} (h : d.answered? e = some x) : e.span = 0 := by
  cases e with
  | advance ms => cases h
  | setPulls | openDocument | closeDocument | change | get | reply => rfl

theorem answered_or_overdue (hp : (after (fresh patience) es).cache.pulls = true) {s : Settings}
    (h : (fresh patience).Returns (es ++ .get u :: later) (after (fresh patience) es).lookups s) :
    (∃ r, ((after (fresh patience) es).bound u, r) ∈ replies (fresh patience) (es ++ .get u :: later) ∧
      s = ofReply r) ∨
    s = {} ∧ Overdue patience ((after (fresh patience) es).bound u) es (.get u :: later) := by
  obtain ⟨rfl, hc⟩ | ⟨before, e, rfl, ht, hn, hr | ⟨hd, hs⟩⟩ := (returns_pulled_iff hp u later s).mp h
  · rw [Overdue, replies_get]
    obtain hr | ⟨hn, ht, hs⟩ := hc
    · exact .inl hr
    · exact .inr ⟨hs, by omega, hn⟩
  · exact .inl hr
  · refine .inr ⟨hs, by rwa [elapsed_get], fun r hr => ?_⟩
    -- the last event takes time, so that it answers nothing
    have hl : es ++ .get u :: (before ++ [e]) = (es ++ .get u :: before) ++ [e] := by simp
    rw [hl, replies_concat] at hr
    obtain hr | hr := List.mem_append.mp hr
    · exact hn r hr
    · have hz := span_of_answered (Option.mem_toList.mp hr)
      have hone : elapsed [e] = e.span := rfl
      have he : elapsed (before ++ [e]) = elapsed before := by rw [elapsed_append, hone, hz, Nat.add_zero]
      omega

/-- In a stretch of events in which a document stays open, the editor can be asked and nothing changes, one request
is made for the document at most, and none if there was one. Lookups that begin there have one request and return the
same settings, unless their own time is up first. -/
theorem one_request_per_stretch (patience : Nat) {es stretch : List Event} {u : Uri} (h : Steady es stretch u)
    (rest : List Event) : ∃ (p : Pull) (s : Settings),
    ((after (fresh patience) es).cache.stored.get? u = none → .get u ∈ stretch →
      ((after (fresh patience) es).issued stretch).filter (·.uri = u) = [p]) ∧
    (((after (fresh patience) es).cache.stored.get? u ≠ none ∨ .get u ∉ stretch) →
      ((after (fresh patience) es).issued stretch).filter (·.uri = u) = []) ∧
    ∀ before since, stretch = before ++ .get u :: since →
      (after (fresh patience) (es ++ before)).Binds u p ∧
      ∀ now later v, since ++ rest = now ++ later →
        (fresh patience).Returns (es ++ before ++ .get u :: now) (after (fresh patience) (es ++ before)).lookups v →
        v = s ∨ v = {} ∧ Overdue patience p (es ++ before) (.get u :: now) := by
  obtain ⟨p, hb, hone, hnone⟩ := h.exists_request patience
  have hrec := recorded_after patience (es ++ stretch ++ rest)
  refine ⟨p, ((after (fresh patience) (es ++ stretch ++ rest)).cache.answers.get? p.id).getD {}, hone, hnone, ?_⟩
  intro before since hs
  have hp := (pulls_after patience _).trans (h.asked before ⟨_, hs.symm⟩)
  have hbinds := binds_bound ((tidy_fresh patience).after (es ++ before)) hp u
  rw [hb before since hs] at hbinds
  refine ⟨hbinds, ?_⟩
  intro now later v hl hv
  have hv := answered_or_overdue hp hv
  rw [hb before since hs] at hv
  obtain ⟨r, hr, rfl⟩ | hv := hv
  · have hall : es ++ stretch ++ rest = (es ++ before ++ .get u :: now) ++ later := by simp [hs, hl]
    have hr : (p, r) ∈ replies (fresh patience) (es ++ stretch ++ rest) := by
      rw [hall, replies_append]
      exact List.mem_append_left _ hr
    rw [(hrec.answers_iff (hrec.made_of_told p r hr) _).mpr ⟨r, hr, rfl⟩]
    exact .inl rfl
  · exact .inr hv

/-- The editor has no settings for the document: it is not asked again. -/
theorem one_request_per_stretch_of_failure :
    let u : Uri := { scheme := "untitled", path := .plain "a" }
    let es : List Event := [.setPulls true, .openDocument u]
    let stretch : List Event := [.get u, .advance 500, .get u, .reply u 0 (.error (.missing u)), .get u]
    Steady es stretch u ∧
    ∃ p, ((after (fresh 2000) es).issued stretch).filter (·.uri = u) = [p] ∧
      (after (fresh 2000) (es ++ [.get u, .advance 500])).Binds u p := by
  intro u es stretch
  have h : Steady es stretch u := by
    apply Steady.of_notMem
    · exact ⟨[.setPulls true], [], rfl, by simp⟩
    · rfl
    · simp [stretch]
    · simp [stretch]
    · simp [stretch]
  have hn : (after (fresh 2000) es).cache.stored.get? u = none := by decide +kernel
  obtain ⟨p, s, hone, -, hall⟩ := one_request_per_stretch 2000 h []
  exact ⟨h, p, hone hn (by simp [stretch]), (hall [.get u, .advance 500] _ rfl).1⟩

theorem stored_of_drops (h : d.Drops e u) : (d.step e).1.cache.stored.get? u = none := by
  by_contra hk
  obtain ⟨k, hk⟩ := Option.ne_none_iff_exists'.mp hk
  obtain ⟨-, hn⟩ | ⟨⟨rfl, -⟩, -⟩ := (stored_step_iff d e u k).mp hk
  · exact hn h
  · simp [Drops] at h

theorem next_notMem_issued (patience : Nat) (es later : List Event) (u : Uri) :
    ⟨(after (fresh patience) (es ++ later)).cache.nextPull, u⟩ ∉ issued (fresh patience) es := by
  intro hm
  have hrec := recorded_after patience (es ++ later)
  rw [issued_append] at hrec
  exact absurd (hrec.id_lt (List.mem_append_left _ hm)) (Nat.lt_irrefl _)

theorem stored_notMem_issued (hn : (after (fresh patience) es).cache.stored.get? u = none) {k : Nat}
    (hs : (after (fresh patience) (es ++ later)).cache.stored.get? u = some k) :
    ⟨k, u⟩ ∉ issued (fresh patience) es := by
  induction later using List.reverseRecOn generalizing k with
  | nil =>
      rw [List.append_nil, hn] at hs
      cases hs
  | append_singleton later e ih =>
      rw [← List.append_assoc, after_concat, stored_step_iff] at hs
      obtain ⟨hs, -⟩ | ⟨-, -, rfl⟩ := hs
      · exact ih hs
      · exact next_notMem_issued patience es later u

theorem bound_notMem_issued (hp : (after (fresh patience) es).cache.pulls = true) {before since : List Event}
    (hs : es = before ++ e :: since) (hd : (after (fresh patience) before).Drops e u) :
    (after (fresh patience) es).bound u ∉ issued (fresh patience) (before ++ [e]) := by
  have hl : es = (before ++ [e]) ++ since := by simp [hs]
  obtain ⟨hk, -⟩ | ⟨-, hid, -⟩ := bound_cases ((tidy_fresh patience).after es) hp u
  · rw [hl] at hk ⊢
    apply stored_notMem_issued _ hk
    rw [after_concat]
    exact stored_of_drops hd
  · have hn := next_notMem_issued patience (before ++ [e]) since u
    rw [← hl, ← hid] at hn
    exact hn

/-- A lookup that is bound to a request returns what the editor has answered to a request for its document that was
made after the last closing of the document and the last change of the configuration; if the document is not open, it
is the lookup's own request. Failing that, it returns the defaults. -/
theorem returned_since_dropped (patience : Nat) {es : List Event} (ha : asks es = true) (u : Uri) :
    ∃ p, (after (fresh patience) es).Binds u p ∧ p ∈ issued (fresh patience) (es ++ [.get u]) ∧
      (∀ before e since, es = before ++ e :: since → (after (fresh patience) before).Drops e u →
        p ∉ issued (fresh patience) (before ++ [e])) ∧
      (¬ IsOpen es u → ((after (fresh patience) es).step (.get u)).2.issued = [p]) ∧
      ∀ later s, (fresh patience).Returns (es ++ .get u :: later) (after (fresh patience) es).lookups s →
        (∃ v, (p, .ok v) ∈ replies (fresh patience) (es ++ .get u :: later) ∧ s = ofValue v) ∨
        s = {} ∧ ((∃ why, (p, .error why) ∈ replies (fresh patience) (es ++ .get u :: later)) ∨
          Overdue patience p es (.get u :: later)) := by
  have hp := (pulls_after patience es).trans ha
  have ht := (tidy_fresh patience).after es
  refine ⟨_, binds_bound ht hp u, bound_mem_issued hp u, fun _ _ _ => bound_notMem_issued hp, ?_, ?_⟩
  · intro hc
    obtain ⟨hs, -⟩ | ⟨-, -, hi⟩ := bound_cases ht hp u
    · exact absurd ((mem_opened_after patience es u).mp (ht u (by simp [hs]))) hc
    · exact hi
  · intro later s h
    obtain ⟨r, hr, rfl⟩ | ⟨hs, ho⟩ := answered_or_overdue hp h
    · cases r with
      | ok v => exact .inl ⟨v, hr, rfl⟩
      | error why => exact .inr ⟨rfl, .inl ⟨why, hr⟩⟩
    · exact .inr ⟨hs, .inr ho⟩

/-- The answer to the request of the time before the change comes after it: a lookup that begins in between returns the
answer to a request of its own. -/
theorem returned_since_dropped_of_change :
    let u : Uri := { scheme := "untitled", path := .plain "a" }
    let es : List Event := [.setPulls true, .openDocument u, .get u, .change .null]
    let later : List Event := [.reply u 0 (.ok (.arr [.int 7])), .reply u 0 (.ok (.arr [.int 9]))]
    asks es = true ∧ (fresh 2000).Returns (es ++ .get u :: later) 1 { maxProblems := 9 } ∧
    ∃ p v, p ∉ issued (fresh 2000) es ∧ (p, .ok v) ∈ replies (fresh 2000) (es ++ .get u :: later) ∧
      ofValue v = { maxProblems := 9 } := by
  intro u es later
  have ha : asks es = true := rfl
  have hr : (fresh 2000).Returns (es ++ .get u :: later) 1 { maxProblems := 9 } :=
    ⟨es ++ [.get u, .reply u 0 (.ok (.arr [.int 7]))], .reply u 0 (.ok (.arr [.int 9])), rfl, by decide +kernel⟩
  have hl : (after (fresh 2000) es).lookups = 1 := by decide +kernel
  obtain ⟨p, -, -, hdrop, -, hret⟩ := returned_since_dropped 2000 ha u
  rw [hl] at hret
  have hp : p ∉ issued (fresh 2000) es :=
    hdrop [.setPulls true, .openDocument u, .get u] (.change .null) [] rfl (.inr ⟨by decide +kernel, .null, rfl⟩)
  obtain ⟨v, hv, hs⟩ | ⟨hs, -⟩ := hret later _ hr
  · exact ⟨ha, hr, p, v, hp, hv, hs.symm⟩
  · exact absurd hs (by decide)

end LintBridge.Settings.Desk
