import LintBridge.Proofs.Coherence
import Mathlib.Logic.Function.Basic

namespace LintBridge

open Settings (Cache Lookup Pull Reply Waiter)
open Validation (Outcome Run Start Validator)

/-- Different numbers below `n` are turned into different numbers below `m`. -/
structure Embeds (f : Nat → Nat) (n m : Nat) : Prop where
  lt : ∀ i < n, f i < m
  inj : ∀ i < n, ∀ j < n, f i = f j → i = j

namespace Embeds

variable {f : Nat → Nat} {n m : Nat}

theorem widen (h : Embeds f n m) : Embeds f n (m + 1) where
  lt i hi := Nat.lt_succ_of_lt (h.lt i hi)
  inj := h.inj

theorem update_eq {k : Nat} (hk : k < n) : Function.update f n m k = f k :=
  Function.update_of_ne (by omega) m f

theorem forall_update {P : Nat → Nat → Prop} (h : ∀ k < n, P k (f k)) (hn : P n m) :
    ∀ k < n + 1, P k (Function.update f n m k) := by
  intro k hk
  by_cases hkn : k = n
  · rw [hkn, Function.update_self]
    exact hn
  · have hk : k < n := by omega
    rw [update_eq hk]
    exact h k hk

theorem extend (h : Embeds f n m) : Embeds (Function.update f n m) (n + 1) (m + 1) where
  lt := forall_update (P := fun _ j => j < m + 1) (fun i hi => Nat.lt_succ_of_lt (h.lt i hi)) (Nat.lt_succ_self m)
  inj i hi j hj he := by
    have hlt : ∀ k < n + 1, k ≠ n → f k < m := fun k hk hn => h.lt k (by omega)
    by_cases hin : i = n <;> by_cases hjn : j = n
    · rw [hin, hjn]
    · have := hlt j hj hjn
      rw [hin, Function.update_self, Function.update_of_ne hjn] at he
      omega
    · have := hlt i hi hin
      rw [hjn, Function.update_self, Function.update_of_ne hin] at he
      omega
    · rw [Function.update_of_ne hin, Function.update_of_ne hjn] at he
      exact h.inj i (by omega) j (by omega) he

end Embeds

namespace Settings.Cache

variable {c c' : Cache}

def ask (c : Cache) (u : Uri) : Cache :=
  { c with
    nextPull := c.nextPull + 1
    unanswered := c.unanswered ++ [⟨c.nextPull, u⟩]
    stored := if c.isOpen u then c.stored.set u c.nextPull else c.stored }

theorem bind_cases (c : Cache) (u : Uri) :
    (∃ k, c.isOpen u = true ∧ c.stored.get? u = some k ∧ c.bind u = (c, k, none)) ∨
    ((c.isOpen u = true → c.stored.get? u = none) ∧
      c.bind u = (c.ask u, c.nextPull, some ⟨c.nextPull, u⟩)) := by
  have hi : (c.issue u).1.isOpen u = c.isOpen u := rfl
  by_cases ho : c.isOpen u = true
  · cases hs : c.stored.get? u with
    | some k => exact .inl ⟨k, ho, rfl, by simp [bind, ho, hs]⟩
    | none =>
        refine .inr ⟨fun _ => rfl, ?_⟩
        simp only [bind, ho, hs, hi, if_true, ask]
        rfl
  · refine .inr ⟨fun h => absurd h ho, ?_⟩
    simp only [bind, ho, hi, ask]
    rfl

def await (c : Cache) (now lookup id : Nat) : Cache × Option Settings :=
  if c.answers.get? id = none ∧ c.patience ≠ 0 then
    ({ c with waiters := c.waiters ++ [⟨lookup, id, now + c.patience⟩] }, none)
  else (c, some ((c.answers.get? id).getD {}))

theorem get_eq (c : Cache) (now lookup : Nat) (u : Uri) : c.get now lookup u =
    if c.pulls then
      (((c.bind u).1.await now lookup (c.bind u).2.1).1,
        ⟨(c.bind u).2.2, ((c.bind u).1.await now lookup (c.bind u).2.1).2⟩)
    else (c, ⟨none, some c.pushed⟩) := by
  unfold get await
  by_cases hp : c.pulls = true
  · rw [if_pos hp, if_pos hp]
    generalize c.bind u = d
    obtain ⟨d, id, issued⟩ := d
    dsimp only
    cases ha : d.answers.get? id with
    | some s => simp
    | none => by_cases ht : d.patience = 0 <;> simp [ht]
  · rw [if_neg hp, if_neg hp]

theorem mem_unanswered_get {now lookup : Nat} {u : Uri} {p : Pull} (h : p ∈ (c.get now lookup u).1.unanswered) :
    p ∈ c.unanswered ∨ p.uri = u := by
  have ha (d : Cache) (id : Nat) : (d.await now lookup id).1.unanswered = d.unanswered := by
    unfold await; split <;> rfl
  rw [get_eq] at h
  split at h
  · rw [ha] at h
    obtain ⟨k, -, -, hb⟩ | ⟨-, hb⟩ := c.bind_cases u
    · rw [hb] at h; exact .inl h
    · rw [hb] at h
      obtain h | rfl := by simpa [ask] using h
      · exact .inl h
      · exact .inr rfl
  · exact .inl h

theorem uri_of_issued {now lookup : Nat} {u : Uri} {p : Pull} (h : (c.get now lookup u).2.issued = some p) :
    p.uri = u := by
  rw [get_eq] at h
  split at h
  · obtain ⟨k, -, -, hb⟩ | ⟨-, hb⟩ := c.bind_cases u
    · rw [hb] at h; cases h
    · rw [hb] at h; cases h; rfl
  · cases h

structure Numbered (c : Cache) : Prop where
  stored : ∀ u k, c.stored.get? u = some k → k < c.nextPull
  answers : ∀ k v, c.answers.get? k = some v → k < c.nextPull
  unanswered : ∀ p ∈ c.unanswered, p.id < c.nextPull
  waiters : ∀ w ∈ c.waiters, w.pull < c.nextPull

namespace Numbered

theorem initial : Numbered {} := ⟨by simp, by simp, by simp, by simp⟩

theorem openDocument (h : c.Numbered) (u : Uri) : (c.openDocument u).Numbered := by
  unfold Cache.openDocument
  split
  · exact h
  · exact ⟨h.stored, h.answers, h.unanswered, h.waiters⟩

theorem closeDocument (h : c.Numbered) (u : Uri) : (c.closeDocument u).Numbered where
  stored w k hk := by
    by_cases hw : w = u
    · subst w; simp [Cache.closeDocument] at hk
    · rw [Cache.closeDocument, Table.get?_erase_of_ne _ hw] at hk
      exact h.stored w k hk
  answers := h.answers
  unanswered := h.unanswered
  waiters := h.waiters

theorem change (h : c.Numbered) (payload : Json) : (c.change payload).Numbered := by
  unfold Cache.change
  split
  · exact ⟨by simp, h.answers, h.unanswered, h.waiters⟩
  · exact ⟨h.stored, h.answers, h.unanswered, h.waiters⟩

theorem answers_next (h : c.Numbered) : c.answers.get? c.nextPull = none := by
  cases ha : c.answers.get? c.nextPull with
  | none => rfl
  | some v => exact absurd (h.answers _ v ha) (Nat.lt_irrefl _)

theorem ask (h : c.Numbered) (u : Uri) : (c.ask u).Numbered where
  stored w k hk := by
    by_cases ho : c.isOpen u = true
    · simp only [Cache.ask, ho, if_true] at hk
      by_cases hw : w = u
      · subst w
        rw [Table.get?_set_self, Option.some.injEq] at hk
        exact hk ▸ Nat.lt_succ_self _
      · rw [Table.get?_set_of_ne _ _ hw] at hk
        exact Nat.lt_succ_of_lt (h.stored w k hk)
    · simp only [Cache.ask, ho] at hk
      exact Nat.lt_succ_of_lt (h.stored w k hk)
  answers k v hk := Nat.lt_succ_of_lt (h.answers k v hk)
  unanswered p hp := by
    obtain hp | rfl := by simpa [Cache.ask] using hp
    · exact Nat.lt_succ_of_lt (h.unanswered p hp)
    · exact Nat.lt_succ_self _
  waiters w hw := Nat.lt_succ_of_lt (h.waiters w hw)

theorem bind (h : c.Numbered) (u : Uri) : (c.bind u).1.Numbered ∧ (c.bind u).2.1 < (c.bind u).1.nextPull := by
  obtain ⟨k, -, hs, hb⟩ | ⟨-, hb⟩ := c.bind_cases u
  · rw [hb]; exact ⟨h, h.stored u k hs⟩
  · rw [hb]; exact ⟨h.ask u, Nat.lt_succ_self _⟩

theorem await (h : c.Numbered) (now lookup : Nat) {id : Nat} (hid : id < c.nextPull) :
    (c.await now lookup id).1.Numbered := by
  unfold Cache.await
  split
  · refine ⟨h.stored, h.answers, h.unanswered, fun w hw => ?_⟩
    obtain hw | rfl := by simpa using hw
    · exact h.waiters w hw
    · exact hid
  · exact h

theorem get (h : c.Numbered) (now lookup : Nat) (u : Uri) : (c.get now lookup u).1.Numbered := by
  rw [get_eq]
  split
  · exact (h.bind u).1.await now lookup (h.bind u).2
  · exact h

theorem answer (h : c.Numbered) {pull : Nat} (hp : c.unanswered.any (·.id = pull) = true) (r : Reply) :
    (c.answer pull r).1.Numbered where
  stored := h.stored
  answers k v hk := by
    obtain ⟨p, hm, he⟩ : ∃ p ∈ c.unanswered, p.id = pull := by simpa using hp
    by_cases hkp : k = pull
    · rw [hkp, ← he]
      exact h.unanswered p hm
    · have hk : (c.answers.set pull (ofReply r)).get? k = some v := hk
      rw [Table.get?_set_of_ne _ _ hkp] at hk
      exact h.answers k v hk
  unanswered p hm := h.unanswered p (List.mem_filter.mp hm).1
  waiters w hw := h.waiters w (List.mem_filter.mp hw).1

theorem expire (h : c.Numbered) (now : Nat) : (c.expire now).1.Numbered :=
  ⟨h.stored, h.answers, h.unanswered, fun w hw => h.waiters w (List.mem_filter.mp hw).1⟩

theorem kept : Bridge.Kept (·.cache.Numbered) where
  welcome _ u h := h.openDocument u
  spawn b u h := h.get b.now b.nextJob u
  closed _ u h := h.closeDocument u
  reconfigure _ payload h := h.change payload
  answered _ _ r _ hp h := h.answer hp r
  finished _ _ _ _ _ h := h
  elapsed b ms h := h.expire (b.now + ms)
  requests _ _ _ hs h := ⟨h.stored, h.answers, fun p hp => h.unanswered p (hs hp), h.waiters⟩

end Numbered

/-- The second cache serves only the document `u`, and holds what the first one holds for it. Its requests and
lookups, of which there have been `n`, are turned by `g` and `f` into those of the first. -/
structure Mirrors (u : Uri) (f g : Nat → Nat) (n : Nat) (c c' : Cache) : Prop where
  pulls : c'.pulls = c.pulls
  patience : c'.patience = c.patience
  pushed : c'.pushed = c.pushed
  opened : c'.opened = List.replicate (c.opened.count u) u
  embeds : Embeds g c'.nextPull c.nextPull
  stored : c.stored.get? u = (c'.stored.get? u).map g
  answers : ∀ k < c'.nextPull, c.answers.get? (g k) = c'.answers.get? k
  unanswered : c.unanswered.filter (·.uri = u) = c'.unanswered.map fun p => { p with id := g p.id }
  others : ∀ p ∈ c.unanswered, p.uri ≠ u → ∀ k < c'.nextPull, g k ≠ p.id
  waiters : ∀ i < n, ∀ p d, ⟨f i, p, d⟩ ∈ c.waiters ↔ ∃ k, g k = p ∧ ⟨i, k, d⟩ ∈ c'.waiters

namespace Mirrors

variable {u w : Uri} {f g : Nat → Nat} {n m : Nat}

theorem initial (u : Uri) (f : Nat → Nat) : Mirrors u f id 0 {} {} where
  pulls := rfl
  patience := rfl
  pushed := rfl
  opened := rfl
  embeds := ⟨by simp, by simp⟩
  stored := rfl
  answers := by simp
  unanswered := rfl
  others := by simp
  waiters := by simp

theorem isOpen_eq (h : Mirrors u f g n c c') : c'.isOpen u = c.isOpen u := by
  simp only [isOpen, h.opened, List.mem_replicate, and_true, decide_eq_decide]
  rw [← Nat.pos_iff_ne_zero, List.count_pos_iff]

theorem openDocument (h : Mirrors u f g n c c') :
    Mirrors u f g n (c.openDocument u) (c'.openDocument u) := by
  unfold Cache.openDocument
  rw [h.isOpen_eq]
  by_cases ho : c.isOpen u = true
  · rw [if_pos ho, if_pos ho]; exact h
  · have hu : u ∉ c.opened := by simpa [isOpen] using ho
    rw [if_neg ho, if_neg ho]
    exact { h with opened := by simp [h.opened, List.count_eq_zero_of_not_mem hu] }

theorem openDocument_other (h : Mirrors u f g n c c') (hw : w ≠ u) : Mirrors u f g n (c.openDocument w) c' := by
  unfold Cache.openDocument
  split
  · exact h
  · exact { h with opened := by simpa [List.count_append, List.count_singleton, hw] using h.opened }

theorem closeDocument (h : Mirrors u f g n c c') :
    Mirrors u f g n (c.closeDocument u) (c'.closeDocument u) :=
  { h with
    opened := by
      have hn : (c.opened.filter (· ≠ u)).count u = 0 := List.count_eq_zero_of_not_mem (by simp)
      simp only [Cache.closeDocument, h.opened, hn]
      simp
    stored := by simp [Cache.closeDocument] }

theorem closeDocument_other (h : Mirrors u f g n c c') (hw : w ≠ u) :
    Mirrors u f g n (c.closeDocument w) c' :=
  { h with
    opened := by
      have hc : (c.opened.filter (· ≠ w)).count u = c.opened.count u :=
        List.count_filter (by simpa using Ne.symm hw)
      simp only [Cache.closeDocument, hc, h.opened]
    stored := by
      rw [Cache.closeDocument, Table.get?_erase_of_ne _ (Ne.symm hw)]
      exact h.stored }

theorem change (h : Mirrors u f g n c c') (payload : Json) :
    Mirrors u f g n (c.change payload) (c'.change payload) := by
  unfold Cache.change
  by_cases hp : c.pulls = true
  · rw [if_pos hp, if_pos (h.pulls.trans hp)]
    exact { h with stored := rfl }
  · rw [if_neg hp, if_neg (h.pulls ▸ hp)]
    exact { h with pushed := rfl }

theorem ask (h : Mirrors u f g n c c') (hc : c.Numbered) (hc' : c'.Numbered) :
    Mirrors u f (Function.update g c'.nextPull c.nextPull) n (c.ask u) (c'.ask u) where
  pulls := h.pulls
  patience := h.patience
  pushed := h.pushed
  opened := h.opened
  embeds := h.embeds.extend
  stored := by
    simp only [Cache.ask, h.isOpen_eq]
    by_cases ho : c.isOpen u = true
    · simp [ho]
    · simp only [ho, Bool.false_eq_true, if_false]
      rw [h.stored]
      cases hs : c'.stored.get? u with
      | none => rfl
      | some k => simp [Embeds.update_eq (hc'.stored u k hs)]
  answers := Embeds.forall_update (P := fun k j => c.answers.get? j = c'.answers.get? k) h.answers
    (hc.answers_next.trans hc'.answers_next.symm)
  unanswered := by
    have he : c'.unanswered.map (fun p => { p with id := Function.update g c'.nextPull c.nextPull p.id }) =
        c'.unanswered.map fun p => { p with id := g p.id } :=
      List.map_congr_left fun p hp => by rw [Embeds.update_eq (hc'.unanswered p hp)]
    simp [Cache.ask, h.unanswered, he]
  others p hp hu := by
    have hp : p ∈ c.unanswered := by
      obtain hp | rfl := by simpa [Cache.ask] using hp
      · exact hp
      · exact absurd rfl hu
    exact Embeds.forall_update (P := fun _ j => j ≠ p.id) (h.others p hp hu) (Nat.ne_of_lt (hc.unanswered p hp)).symm
  waiters i hi p d := by
    refine (h.waiters i hi p d).trans ⟨?_, ?_⟩
    · rintro ⟨k, he, hm⟩
      exact ⟨k, (Embeds.update_eq (hc'.waiters _ hm)).trans he, hm⟩
    · rintro ⟨k, he, hm⟩
      exact ⟨k, (Embeds.update_eq (hc'.waiters _ hm)).symm.trans he, hm⟩

theorem ask_other (h : Mirrors u f g n c c') (hw : w ≠ u) : Mirrors u f g n (c.ask w) c' :=
  { h with
    embeds := h.embeds.widen
    stored := by
      have hs : (c.ask w).stored.get? u = c.stored.get? u := by
        unfold Cache.ask
        split
        · exact Table.get?_set_of_ne _ _ (Ne.symm hw)
        · rfl
      rw [hs, h.stored]
    unanswered := by simpa [Cache.ask, hw] using h.unanswered
    others := by
      intro p hp hu k hk
      obtain hp | rfl := by simpa [Cache.ask] using hp
      · exact h.others p hp hu k hk
      · exact Nat.ne_of_lt (h.embeds.lt k hk) }

theorem bind (h : Mirrors u f g n c c') (hc : c.Numbered) (hc' : c'.Numbered) :
    ∃ g', Mirrors u f g' n (c.bind u).1 (c'.bind u).1 ∧ (c.bind u).2.1 = g' (c'.bind u).2.1 ∧
      (c.bind u).2.2.map Pull.uri = (c'.bind u).2.2.map Pull.uri := by
  obtain ⟨k, ho, hs, hb⟩ | ⟨hn, hb⟩ := c'.bind_cases u
  · have hs' : c.stored.get? u = some (g k) := by rw [h.stored, hs]; rfl
    obtain ⟨j, -, hj, hb'⟩ | ⟨hn, -⟩ := c.bind_cases u
    · obtain rfl : j = g k := Option.some.inj (hj.symm.trans hs')
      rw [hb, hb']
      exact ⟨g, h, rfl, rfl⟩
    · exact absurd (hn (h.isOpen_eq ▸ ho)) (by simp [hs'])
  · obtain ⟨j, ho, hj, -⟩ | ⟨-, hb'⟩ := c.bind_cases u
    · have hs := hn (h.isOpen_eq.trans ho)
      rw [h.stored, hs] at hj
      cases hj
    · rw [hb, hb']
      exact ⟨_, h.ask hc hc', by simp, rfl⟩

theorem bind_other (h : Mirrors u f g n c c') (hw : w ≠ u) : Mirrors u f g n (c.bind w).1 c' := by
  obtain ⟨k, -, -, hb⟩ | ⟨-, hb⟩ := c.bind_cases w
  · rw [hb]; exact h
  · rw [hb]; exact h.ask_other hw

/-- The waiting lookups may be extended on both sides, as long as what is new agrees. -/
theorem with_waiters (h : Mirrors u f g n c c') {f' : Nat → Nat} {n' : Nat} {ws ws' : List Waiter}
    (hw : ∀ i < n', ∀ p d, ⟨f' i, p, d⟩ ∈ ws ↔ ∃ k, g k = p ∧ ⟨i, k, d⟩ ∈ ws') :
    Mirrors u f' g n' { c with waiters := ws } { c' with waiters := ws' } :=
  { h with waiters := hw }

theorem extend (h : Mirrors u f g n c c') (hm : ∀ w ∈ c.waiters, w.lookup < m) (hn : ∀ w ∈ c'.waiters, w.lookup < n) :
    Mirrors u (Function.update f n m) g (n + 1) c c' := by
  refine h.with_waiters (Embeds.forall_update
    (P := fun i j => ∀ p d, ⟨j, p, d⟩ ∈ c.waiters ↔ ∃ k, g k = p ∧ ⟨i, k, d⟩ ∈ c'.waiters) h.waiters fun p d => ?_)
  constructor
  · intro hw
    exact absurd (hm _ hw) (Nat.lt_irrefl _)
  · rintro ⟨k, -, hw⟩
    exact absurd (hn _ hw) (Nat.lt_irrefl _)

theorem await (h : Mirrors u f g n c c') (hm : ∀ w ∈ c.waiters, w.lookup < m)
    (hn : ∀ w ∈ c'.waiters, w.lookup < n) (hf : Embeds f n m) (now : Nat) {k : Nat} (hk : k < c'.nextPull) :
    Mirrors u (Function.update f n m) g (n + 1) (c.await now m (g k)).1 (c'.await now n k).1 ∧
      (c.await now m (g k)).2 = (c'.await now n k).2 := by
  have hiff : (c.answers.get? (g k) = none ∧ c.patience ≠ 0) ↔ c'.answers.get? k = none ∧ c'.patience ≠ 0 := by
    rw [h.answers k hk, h.patience]
  unfold Cache.await
  by_cases hw : c'.answers.get? k = none ∧ c'.patience ≠ 0
  · rw [if_pos hw, if_pos (hiff.mpr hw)]
    refine ⟨(h.extend hm hn).with_waiters fun i hi p d => ?_, rfl⟩
    have hold := (h.extend hm hn).waiters i hi p d
    simp only [List.mem_append, List.mem_singleton, Waiter.mk.injEq, h.patience]
    constructor
    · rintro (hmem | ⟨hi', rfl, rfl⟩)
      · obtain ⟨j, hj, hmem⟩ := hold.mp hmem
        exact ⟨j, hj, .inl hmem⟩
      · refine ⟨k, rfl, .inr ⟨?_, rfl, rfl⟩⟩
        exact hf.extend.inj i hi n (Nat.lt_succ_self n) (hi'.trans (Function.update_self n m f).symm)
    · rintro ⟨j, hj, hmem | ⟨rfl, rfl, rfl⟩⟩
      · exact .inl (hold.mpr ⟨j, hj, hmem⟩)
      · exact .inr ⟨Function.update_self _ m f, hj.symm, rfl⟩
  · rw [if_neg hw, if_neg (mt hiff.mp hw), h.answers k hk]
    exact ⟨h.extend hm hn, rfl⟩

theorem await_other (h : Mirrors u f g n c c') (hf : Embeds f n m) (now id : Nat) :
    Mirrors u f g n (c.await now m id).1 c' := by
  unfold Cache.await
  split
  · refine h.with_waiters fun i hi p d => ?_
    rw [← h.waiters i hi p d]
    have hne : f i ≠ m := Nat.ne_of_lt (hf.lt i hi)
    simp [hne]
  · exact h

theorem get (h : Mirrors u f g n c c') (hc : c.Numbered) (hc' : c'.Numbered) (hf : Embeds f n m)
    (hm : ∀ w ∈ c.waiters, w.lookup < m) (hn : ∀ w ∈ c'.waiters, w.lookup < n) (now : Nat) :
    ∃ g', Mirrors u (Function.update f n m) g' (n + 1) (c.get now m u).1 (c'.get now n u).1 ∧
      (c.get now m u).2.found = (c'.get now n u).2.found ∧
      (c.get now m u).2.issued.map Pull.uri = (c'.get now n u).2.issued.map Pull.uri := by
  rw [get_eq, get_eq, h.pulls]
  by_cases hp : c.pulls = true
  · rw [if_pos hp, if_pos hp]
    obtain ⟨g', hb, hid, hi⟩ := h.bind hc hc'
    have hm' : ∀ w ∈ (c.bind u).1.waiters, w.lookup < m := by rw [(untouched_bind c u).2]; exact hm
    have hn' : ∀ w ∈ (c'.bind u).1.waiters, w.lookup < n := by rw [(untouched_bind c' u).2]; exact hn
    obtain ⟨ha, hs⟩ := hb.await hm' hn' hf now (hc'.bind u).2
    rw [hid]
    exact ⟨g', ha, hs, hi⟩
  · rw [if_neg hp, if_neg hp]
    exact ⟨g, h.extend hm hn, by rw [h.pushed], rfl⟩

theorem get_other (h : Mirrors u f g n c c') (hw : w ≠ u) (hf : Embeds f n m) (now : Nat) :
    Mirrors u f g n (c.get now m w).1 c' := by
  rw [get_eq]
  split
  · exact (h.bind_other hw).await_other hf now _
  · exact h

theorem filter_waiters (h : Mirrors u f g n c c') (hc' : c'.Numbered) {q r : Waiter → Bool}
    (hq : ∀ i k d, k < c'.nextPull → q ⟨f i, g k, d⟩ = r ⟨i, k, d⟩) (i : Nat) (hi : i < n) (p d : Nat) :
    ⟨f i, p, d⟩ ∈ c.waiters.filter q ↔ ∃ k, g k = p ∧ ⟨i, k, d⟩ ∈ c'.waiters.filter r := by
  rw [List.mem_filter, h.waiters i hi p d]
  constructor
  · rintro ⟨⟨k, rfl, hm⟩, hk⟩
    exact ⟨k, rfl, List.mem_filter.mpr ⟨hm, (hq i k d (hc'.waiters _ hm)).symm.trans hk⟩⟩
  · rintro ⟨k, rfl, hm⟩
    obtain ⟨hm, hk⟩ := List.mem_filter.mp hm
    exact ⟨⟨k, rfl, hm⟩, (hq i k d (hc'.waiters _ hm)).trans hk⟩

theorem awaited_eq {f g : Nat → Nat} {ws ws' : List Waiter} {i : Nat}
    (h : ∀ p d, ⟨f i, p, d⟩ ∈ ws ↔ ∃ k, g k = p ∧ ⟨i, k, d⟩ ∈ ws') :
    Bridge.awaited ws (f i) = Bridge.awaited ws' i := by
  rw [Bool.eq_iff_iff, Bridge.awaited_iff, Bridge.awaited_iff]
  constructor
  · rintro ⟨⟨l, p, d⟩, hm, rfl⟩
    obtain ⟨k, -, hm⟩ := (h p d).mp hm
    exact ⟨_, hm, rfl⟩
  · rintro ⟨⟨l, k, d⟩, hm, rfl⟩
    exact ⟨_, (h (g k) d).mpr ⟨k, rfl, hm⟩, rfl⟩

theorem drop (h : Mirrors u f g n c c') (hc' : c'.Numbered) {k : Nat} (hk : k < c'.nextPull) :
    Mirrors u f g n { c with unanswered := c.unanswered.filter (·.id ≠ g k) }
      { c' with unanswered := c'.unanswered.filter (·.id ≠ k) } := by
  refine { h with unanswered := ?_, others := fun p hp => h.others p (List.mem_filter.mp hp).1 }
  rw [List.filter_comm, h.unanswered, List.filter_map]
  refine congrArg _ (List.filter_congr fun p hp => ?_)
  have hinj : g p.id = g k ↔ p.id = k := ⟨h.embeds.inj _ (hc'.unanswered p hp) k hk, congrArg g⟩
  simp [hinj]

theorem drop_other (h : Mirrors u f g n c c') (hc' : c'.Numbered) {p : Pull} (hp : p ∈ c.unanswered) (hu : p.uri ≠ u) :
    Mirrors u f g n { c with unanswered := c.unanswered.filter (·.id ≠ p.id) } c' := by
  refine { h with unanswered := ?_, others := fun q hq => h.others q (List.mem_filter.mp hq).1 }
  rw [List.filter_comm, h.unanswered, List.filter_eq_self]
  intro q hq
  obtain ⟨q', hq', rfl⟩ := List.mem_map.mp hq
  simpa using h.others p hp hu q'.id (hc'.unanswered q' hq')

theorem answer (h : Mirrors u f g n c c') (hc' : c'.Numbered) {k : Nat} (hk : k < c'.nextPull) (r : Reply) :
    Mirrors u f g n (c.answer (g k) r).1 (c'.answer k r).1 ∧
      ∀ i < n, (c.answer (g k) r).2.lookup (f i) = (c'.answer k r).2.lookup i := by
  have hinj {j : Nat} (hj : j < c'.nextPull) : g j = g k ↔ j = k := ⟨h.embeds.inj j hj k hk, congrArg g⟩
  refine ⟨{ h.drop hc' hk with answers := ?_, waiters := ?_ }, ?_⟩
  · intro j hj
    change (c.answers.set (g k) (ofReply r)).get? (g j) = (c'.answers.set k (ofReply r)).get? j
    by_cases he : j = k
    · rw [he, Table.get?_set_self, Table.get?_set_self]
    · rw [Table.get?_set_of_ne _ _ (mt (hinj hj).mp he), Table.get?_set_of_ne _ _ he]
      exact h.answers j hj
  · refine h.filter_waiters hc' fun i j d hj => ?_
    simp [hinj hj]
  · intro i hi
    refine (Bridge.lookup_waiters _ _ _).trans (Eq.trans ?_ (Bridge.lookup_waiters _ _ _).symm)
    rw [awaited_eq (h.filter_waiters (q := (·.pull = g k)) (r := (·.pull = k)) hc' ?_ i hi)]
    intro i j d hj
    simp [hinj hj]

theorem answer_other (h : Mirrors u f g n c c') (hc' : c'.Numbered) {p : Pull} (hp : p ∈ c.unanswered)
    (hu : p.uri ≠ u) (r : Reply) :
    Mirrors u f g n (c.answer p.id r).1 c' ∧ ∀ i < n, (c.answer p.id r).2.lookup (f i) = none := by
  have hne : ∀ k < c'.nextPull, g k ≠ p.id := h.others p hp hu
  refine ⟨{ h.drop_other hc' hp hu with answers := ?_, waiters := ?_ }, ?_⟩
  · intro k hk
    change (c.answers.set p.id (ofReply r)).get? (g k) = _
    rw [Table.get?_set_of_ne _ _ (hne k hk)]
    exact h.answers k hk
  · intro i hi q d
    refine (h.filter_waiters (r := fun _ => true) hc' (fun i k d hk => ?_) i hi q d).trans (by simp)
    simpa using hne k hk
  · intro i hi
    refine (Bridge.lookup_waiters _ _ _).trans ?_
    rw [awaited_eq (h.filter_waiters (q := (·.pull = p.id)) (r := fun _ => false) hc' ?_ i hi)]
    · simp [Bridge.awaited]
    · intro i k d hk
      simpa using hne k hk

theorem expire (h : Mirrors u f g n c c') (hc' : c'.Numbered) (now : Nat) :
    Mirrors u f g n (c.expire now).1 (c'.expire now).1 ∧
      ∀ i < n, (c.expire now).2.lookup (f i) = (c'.expire now).2.lookup i := by
  refine ⟨h.with_waiters (h.filter_waiters hc' fun _ _ _ _ => rfl), fun i hi => ?_⟩
  refine (Bridge.lookup_waiters _ _ _).trans (Eq.trans ?_ (Bridge.lookup_waiters _ _ _).symm)
  rw [awaited_eq (h.filter_waiters (q := (·.deadline ≤ now)) (r := (·.deadline ≤ now)) hc' ?_ i hi)]
  exact fun _ _ _ _ => rfl

end Mirrors

end Settings.Cache

namespace Validation

def Run.renumber (f h : Nat → Nat) (r : Run) : Run := { r with validation := f r.validation, ticket := h r.ticket }

namespace Validator

variable {v v' : Validator}

/-- The second validator serves only the document `u`, and holds what the first one holds for it. Its validations
and tickets are turned by `f` and `h` into those of the first; ticket zero is the same for all. -/
structure Mirrors (u : Uri) (f h : Nat → Nat) (v v' : Validator) : Prop where
  embeds : Embeds h v'.nextTicket v.nextTicket
  zero : h 0 = 0
  latest : v.latest.get? u = (v'.latest.get? u).map h
  runs : v.runs.filter (·.uri = u) = v'.runs.map (Run.renumber f h)

namespace Mirrors

variable {u w : Uri} {f h : Nat → Nat} {n m : Nat}

theorem initial (u : Uri) (f : Nat → Nat) : Mirrors u f id {} {} where
  embeds := ⟨fun _ hi => hi, fun _ _ _ _ he => he⟩
  zero := rfl
  latest := rfl
  runs := rfl

theorem uri_of_mem (hv : Mirrors u f h v v') {r : Run} (hr : r ∈ v'.runs) : r.uri = u := by
  have hm := List.mem_map_of_mem (f := Run.renumber f h) hr
  rw [← hv.runs] at hm
  exact of_decide_eq_true (List.mem_filter.mp hm).2

theorem track (hv : Mirrors u f h v v') : Mirrors u f h (v.track u) (v'.track u) where
  embeds := by simpa using hv.embeds
  zero := hv.zero
  latest := by
    rw [get?_track, get?_track, if_pos rfl, if_pos rfl, hv.latest]
    cases v'.latest.get? u with
    | none => simp [hv.zero]
    | some t => rfl
  runs := by simpa using hv.runs

theorem track_other (hv : Mirrors u f h v v') (hw : w ≠ u) : Mirrors u f h (v.track w) v' where
  embeds := by simpa using hv.embeds
  zero := hv.zero
  latest := by rw [get?_track, if_neg (Ne.symm hw), hv.latest]
  runs := by simpa using hv.runs

theorem forget (hv : Mirrors u f h v v') : Mirrors u f h (v.forget u) (v'.forget u) :=
  { hv with latest := by rw [get?_forget, get?_forget, if_pos rfl, if_pos rfl]; rfl }

theorem forget_other (hv : Mirrors u f h v v') (hw : w ≠ u) : Mirrors u f h (v.forget w) v' :=
  { hv with latest := by rw [get?_forget, if_neg (Ne.symm hw), hv.latest] }

/-- Numbers that are not in use may be given a meaning. -/
theorem renumber (hv : Mirrors u f h v v') (hs : v'.Sound) (hn : ∀ r ∈ v'.runs, r.validation < n) (m t : Nat) :
    v.runs.filter (·.uri = u) =
      v'.runs.map (Run.renumber (Function.update f n m) (Function.update h v'.nextTicket t)) := by
  rw [hv.runs]
  refine List.map_congr_left fun r hr => ?_
  rw [Run.renumber, Run.renumber, Embeds.update_eq (hn r hr), Embeds.update_eq (hs.run_lt r hr)]

theorem take_ticket (hv : Mirrors u f h v v') (hs : v'.Sound) (hn : ∀ r ∈ v'.runs, r.validation < n) (m : Nat) :
    Mirrors u (Function.update f n m) (Function.update h v'.nextTicket v.nextTicket)
      { v with nextTicket := v.nextTicket + 1 } { v' with nextTicket := v'.nextTicket + 1 } where
  embeds := hv.embeds.extend
  zero := by rw [Embeds.update_eq hs.next_pos, hv.zero]
  latest := by
    change v.latest.get? u = (v'.latest.get? u).map _
    rw [hv.latest]
    cases ho : v'.latest.get? u with
    | none => rfl
    | some t => simp [Embeds.update_eq (hs.latest_lt u t ho)]
  runs := hv.renumber hs hn m _

theorem start (hv : Mirrors u f h v v') (hs : v'.Sound) (hn : ∀ r ∈ v'.runs, r.validation < n) (m : Nat) :
    ∃ h', Mirrors u (Function.update f n m) h' (v.start m u).1 (v'.start n u).1 ∧
      (v.start m u).2.outcome? = (v'.start n u).2.outcome? ∧
      (v.start m u).2.run? = (v'.start n u).2.run?.map (Run.renumber (Function.update f n m) h') := by
  obtain ⟨hp, he⟩ | ⟨path, hp, ho, he⟩ | ⟨path, t, hp, ho, he⟩ := start_cases v' n u
  · rw [he, start_remote hp]
    refine ⟨h, { hv with runs := ?_ }, rfl, rfl⟩
    rw [hv.renumber hs hn m (h v'.nextTicket), Function.update_eq_self]
  · have ho' : v.latest.get? u = none := by rw [hv.latest, ho]; rfl
    rw [he, start_closed hp ho']
    exact ⟨_, hv.take_ticket hs hn m, rfl, rfl⟩
  · have ho' : v.latest.get? u = some (h t) := by rw [hv.latest, ho]; rfl
    have hr : v.nextRun m u path = (v'.nextRun n u path).renumber (Function.update f n m)
        (Function.update h v'.nextTicket v.nextTicket) := by
      simp [Run.renumber, nextRun]
    have hu : (v.nextRun m u path).uri = u := rfl
    rw [he, start_open hp ho']
    refine ⟨_, { hv.take_ticket hs hn m with latest := ?_, runs := ?_ }, rfl, congrArg some hr⟩
    · simp
    · rw [List.filter_append, List.map_append, hv.renumber hs hn m v.nextTicket]
      simp [hu, ← hr]

theorem start_other (hv : Mirrors u f h v v') (hw : w ≠ u) (id : Nat) : Mirrors u f h (v.start id w).1 v' := by
  obtain ⟨-, he⟩ | ⟨path, -, -, he⟩ | ⟨path, t, -, -, he⟩ := start_cases v id w
  · rw [he]; exact hv
  · rw [he]; exact { hv with embeds := hv.embeds.widen }
  · rw [he]
    refine { hv with embeds := hv.embeds.widen, latest := ?_, runs := ?_ }
    · change (v.latest.set w v.nextTicket).get? u = _
      rw [Table.get?_set_of_ne _ _ (Ne.symm hw), hv.latest]
    · have hr : (v.nextRun id w path).uri ≠ u := hw
      simpa [hr] using hv.runs

theorem judge (hv : Mirrors u f h v v') (hs : v'.Sound) {r : Run} (hr : r ∈ v'.runs) (o : Tool.Output) :
    v.judge (r.renumber f h) o = v'.judge r o := by
  have hu : r.uri = u := hv.uri_of_mem hr
  have hu' : (r.renumber f h).uri = u := hu
  unfold Validator.judge
  rw [hu', hu, hv.latest]
  cases ho : v'.latest.get? u with
  | none => rfl
  | some t =>
      have ht : h t = h r.ticket ↔ t = r.ticket :=
        ⟨hv.embeds.inj t (hs.latest_lt u t ho) r.ticket (hs.run_lt r hr), congrArg h⟩
      simp [Run.renumber, ht]

theorem finish (hv : Mirrors u f h v v') (hf : Embeds f n m) (hn : ∀ r ∈ v'.runs, r.validation < n) {r : Run}
    (hr : r ∈ v'.runs) (o : Tool.Output) :
    Mirrors u f h (v.finish (r.renumber f h) o).1 (v'.finish r o).1 := by
  refine { hv with runs := ?_ }
  change (v.runs.filter (·.validation ≠ f r.validation)).filter (·.uri = u) =
    (v'.runs.filter (·.validation ≠ r.validation)).map _
  rw [List.filter_comm, hv.runs, List.filter_map]
  refine congrArg _ (List.filter_congr fun s hs => ?_)
  have hiff : f s.validation = f r.validation ↔ s.validation = r.validation :=
    ⟨hf.inj _ (hn s hs) _ (hn r hr), congrArg f⟩
  simp [Run.renumber, hiff]

theorem finish_other (hv : Mirrors u f h v v') {r : Run}
    (hr : ∀ s ∈ v.runs, s.uri = u → s.validation ≠ r.validation) (o : Tool.Output) :
    Mirrors u f h (v.finish r o).1 v' := by
  refine { hv with runs := ?_ }
  change (v.runs.filter (·.validation ≠ r.validation)).filter (·.uri = u) = _
  rw [List.filter_comm, ← hv.runs, List.filter_eq_self]
  intro s hs
  obtain ⟨hs, hu⟩ := List.mem_filter.mp hs
  simpa using hr s hs (by simpa using hu)

end Mirrors

end Validator

end Validation

end LintBridge
