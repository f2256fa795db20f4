import LintBridge.Proofs.Views

namespace LintBridge

open Settings (Cache Pull Reply Waiter)
open Validation (Outcome Report Run Validator)

def Job.renumber (f : Nat → Nat) (t : Job) : Job := { t with id := f t.id }

namespace Bridge

variable {b b' : Bridge}

theorem lookup_lt (h : b.Linked) : ∀ w ∈ b.cache.waiters, w.lookup < b.nextJob := by
  intro w hw
  obtain ⟨t, ht, hid, -⟩ := h.job_of_waiter hw
  exact hid ▸ h.ids_lt t ht

theorem validation_lt (h : b.Linked) : ∀ r ∈ b.validator.runs, r.validation < b.nextJob := by
  intro r hr
  obtain ⟨t, ht, hid, -⟩ := h.job_of_run hr
  exact hid ▸ h.ids_lt t ht

theorem Settled.settle_fst (h : b.Settled) : b.settle.1 = b := by
  rw [settle, h.filter_eq_self]

structure Regular (b : Bridge) : Prop extends Coherent b where
  numbered : b.cache.Numbered

theorem Regular.initial : Regular {} := ⟨.initial, .initial⟩

theorem Regular.kept : Kept Regular where
  welcome b u h := ⟨Coherent.kept.welcome b u h.toCoherent, Cache.Numbered.kept.welcome b u h.numbered⟩
  spawn b u h := ⟨Coherent.kept.spawn b u h.toCoherent, Cache.Numbered.kept.spawn b u h.numbered⟩
  closed b u h := ⟨Coherent.kept.closed b u h.toCoherent, Cache.Numbered.kept.closed b u h.numbered⟩
  reconfigure b p h := ⟨Coherent.kept.reconfigure b p h.toCoherent, Cache.Numbered.kept.reconfigure b p h.numbered⟩
  answered b p r unread hp h :=
    ⟨Coherent.kept.answered b p r unread hp h.toCoherent, Cache.Numbered.kept.answered b p r unread hp h.numbered⟩
  finished b v r o hr h :=
    ⟨Coherent.kept.finished b v r o hr h.toCoherent, Cache.Numbered.kept.finished b v r o hr h.numbered⟩
  elapsed b ms h := ⟨Coherent.kept.elapsed b ms h.toCoherent, Cache.Numbered.kept.elapsed b ms h.numbered⟩
  requests b p r hr h :=
    ⟨Coherent.kept.requests b p r hr h.toCoherent, Cache.Numbered.kept.requests b p r hr h.numbered⟩

theorem Kept.prepared {P : Bridge → Prop} (hP : Kept P) (h : P b) (e : Event) : P (b.prepared e) := by
  cases e with
  | opened u => exact hP.welcome b u h
  | closed u => exact hP.closed b u h
  | configured payload => exact hP.reconfigure b payload h
  | saved | answered | finished | elapsed => exact h

def Event.document? : Event → Option Uri
  | .opened u => some u
  | .saved u => some u
  | .closed u => some u
  | _ => none

structure Within (D : Uri → Prop) (b : Bridge) : Prop where
  opened : ∀ w ∈ b.cache.opened, D w
  unanswered : ∀ p ∈ b.cache.unanswered, D p.uri
  runs : ∀ r ∈ b.validator.runs, D r.uri

namespace Within

variable {D : Uri → Prop}

theorem initial (D : Uri → Prop) : Within D {} := ⟨by simp, by simp, by simp⟩

theorem triggered (h : b.Within D) {e : Event} (he : ∀ w, e.document? = some w → D w) :
    ∀ w ∈ b.triggered e, D w := by
  intro w hw
  cases e with
  | opened u => exact he w (congrArg some (List.mem_singleton.mp hw).symm)
  | saved u =>
      simp only [Bridge.triggered] at hw
      split at hw
      · exact he w (congrArg some (List.mem_singleton.mp hw).symm)
      · cases hw
  | configured payload => exact h.opened w hw
  | closed | answered | finished | elapsed => cases hw

theorem prepared (h : b.Within D) {e : Event} (he : ∀ w, e.document? = some w → D w) : (b.prepared e).Within D := by
  cases e with
  | opened u =>
      refine ⟨fun w hw => ?_, fun p hp => ?_, fun r hr => ?_⟩
      · obtain rfl | hw := (b.cache.mem_openDocument u w).mp hw
        · exact he w rfl
        · exact h.opened w hw
      · have hp : p ∈ (b.cache.openDocument u).unanswered := hp
        unfold Cache.openDocument at hp
        split at hp <;> exact h.unanswered p hp
      · have hr : r ∈ (b.validator.track u).runs := hr
        rw [Validator.runs_track] at hr
        exact h.runs r hr
  | closed u => exact ⟨fun w hw => h.opened w ((b.cache.mem_closeDocument u w).mp hw).2, h.unanswered, h.runs⟩
  | configured payload =>
      refine ⟨fun w hw => ?_, fun p hp => ?_, h.runs⟩
      · have hw : w ∈ (b.cache.change payload).opened := hw
        rw [Cache.change_opened] at hw
        exact h.opened w hw
      · have hp : p ∈ (b.cache.change payload).unanswered := hp
        unfold Cache.change at hp
        split at hp <;> exact h.unanswered p hp
  | saved | answered | finished | elapsed => exact h

theorem spawn (h : b.Within D) {u : Uri} (hu : D u) : (b.spawn u).1.Within D := by
  refine ⟨fun w hw => ?_, fun p hp => ?_, fun r hr => ?_⟩
  · rw [opened_spawn] at hw
    exact h.opened w hw
  · have hp : p ∈ (b.cache.get b.now b.nextJob u).1.unanswered := hp
    obtain hp | rfl := Cache.mem_unanswered_get hp
    · exact h.unanswered p hp
    · exact hu
  · have hr : r ∈ (b.validator.start b.nextJob u).1.runs := hr
    obtain ⟨-, hs⟩ | ⟨path, -, -, hs⟩ | ⟨path, t, -, -, hs⟩ := Validator.start_cases b.validator b.nextJob u
    · rw [hs] at hr; exact h.runs r hr
    · rw [hs] at hr; exact h.runs r hr
    · rw [hs] at hr
      obtain hr | rfl := by simpa using hr
      · exact h.runs r hr
      · exact hu

theorem spawnAll (h : b.Within D) {us : List Uri} (hu : ∀ w ∈ us, D w) : (b.spawnAll us).1.Within D := by
  induction us generalizing b with
  | nil => exact h
  | cons w us ih =>
      rw [spawnAll_cons_fst]
      exact ih (h.spawn (hu w List.mem_cons_self)) fun x hx => hu x (List.mem_cons_of_mem w hx)

theorem step (h : b.Within D) {e : Event} (he : ∀ w, e.document? = some w → D w) : (b.step e).1.Within D := by
  cases e with
  | answered pull r =>
      by_cases hp : b.cache.unanswered.any (·.id = pull) = true
      · obtain ⟨unread, hs⟩ := (step_answered hp r).1
        rw [hs]
        exact ⟨h.opened, fun p hp => h.unanswered p (List.mem_filter.mp hp).1, h.runs⟩
      · rw [step_answered_unknown hp]; exact h
  | finished validation o =>
      cases hr : b.validator.runs.find? (·.validation = validation) with
      | none => rw [step_finished_unknown hr]; exact h
      | some r =>
          rw [(step_finished hr o).1]
          exact ⟨h.opened, h.unanswered, fun r hr => h.runs r (List.mem_filter.mp hr).1⟩
  | elapsed ms => rw [(step_elapsed b ms).1]; exact ⟨h.opened, h.unanswered, h.runs⟩
  | opened | saved | closed | configured =>
      rw [(b.step_prepared rfl).1]
      exact (h.prepared he).spawnAll (h.triggered he)

end Within

/-- The second bridge serves only the document `u`, and holds what the first one holds for it. Its validations,
requests and tickets are turned by `f`, `g` and `h` into those of the first. The documents of all validations of the
first bridge so far are in `log`, so that a validation of the second has as its number the rank of its image. -/
structure Mirrors (u : Uri) (f g h : Nat → Nat) (log : List Uri) (b b' : Bridge) : Prop where
  cache : b.cache.Mirrors u f g b'.nextJob b'.cache
  validator : b.validator.Mirrors u f h b'.validator
  jobs : b.jobs.filter (·.uri = u) = b'.jobs.map (Job.renumber f)
  now : b'.now = b.now
  length_log : log.length = b.nextJob
  count_log : log.count u = b'.nextJob
  lt : ∀ i < b'.nextJob, f i < b.nextJob
  rank_eq : ∀ i < b'.nextJob, rank log u (f i) = i

def Alike (u : Uri) (log : List Uri) (b b' : Bridge) : Prop := ∃ f g h, Mirrors u f g h log b b'

namespace Mirrors

variable {u w : Uri} {f g h : Nat → Nat} {log : List Uri}

theorem initial (u : Uri) : Mirrors u id id id [] {} {} where
  cache := .initial u id
  validator := .initial u id
  jobs := rfl
  now := rfl
  length_log := rfl
  count_log := rfl
  lt := by simp
  rank_eq := by simp

theorem embeds (hm : Mirrors u f g h log b b') : Embeds f b'.nextJob b.nextJob where
  lt := hm.lt
  inj i hi j hj he := by rw [← hm.rank_eq i hi, ← hm.rank_eq j hj, he]

theorem uri_of_mem (hm : Mirrors u f g h log b b') {t : Job} (ht : t ∈ b'.jobs) :
    t.uri = u ∧ t.renumber f ∈ b.jobs := by
  have hr := List.mem_map_of_mem (f := Job.renumber f) ht
  rw [← hm.jobs] at hr
  obtain ⟨hr, hu⟩ := List.mem_filter.mp hr
  exact ⟨of_decide_eq_true hu, hr⟩

theorem welcome (hm : Mirrors u f g h log b b') : Mirrors u f g h log (b.welcome u) (b'.welcome u) :=
  { hm with cache := hm.cache.openDocument, validator := hm.validator.track }

theorem welcome_other (hm : Mirrors u f g h log b b') (hw : w ≠ u) : Mirrors u f g h log (b.welcome w) b' :=
  { hm with cache := hm.cache.openDocument_other hw, validator := hm.validator.track_other hw }

theorem jobs_map (hm : Mirrors u f g h log b b') {p q : Job → Job} (hu : ∀ t, (p t).uri = t.uri)
    (he : ∀ t ∈ b'.jobs, p (t.renumber f) = (q t).renumber f) :
    (b.jobs.map p).filter (·.uri = u) = (b'.jobs.map q).map (Job.renumber f) := by
  have hf : (fun t : Job => decide (t.uri = u)) ∘ p = fun t => decide (t.uri = u) := by
    funext t
    simp [hu]
  rw [List.filter_map, hf, hm.jobs, List.map_map, List.map_map]
  exact List.map_congr_left he

theorem settle (hm : Mirrors u f g h log b b') : Mirrors u f g h log b.settle.1 b'.settle.1 := by
  refine { hm with jobs := ?_ }
  change (b.jobs.filter _).filter _ = (b'.jobs.filter _).map _
  rw [List.filter_comm, hm.jobs, List.filter_map]
  rfl

theorem enlist (hm : Mirrors u f g h log b b') (hb : b.Regular) (hb' : b'.Regular) :
    (∃ g' h', Mirrors u (Function.update f b'.nextJob b.nextJob) g' h' (log ++ [u]) (b.enlist u) (b'.enlist u)) ∧
      (b.beginning u).outcome = (b'.beginning u).outcome ∧ b.runPath? u = b'.runPath? u ∧
      (b.cache.get b.now b.nextJob u).2.issued.map Pull.uri =
        (b'.cache.get b'.now b'.nextJob u).2.issued.map Pull.uri := by
  obtain ⟨g', hc, hfound, hissued⟩ := hm.cache.get hb.numbered hb'.numbered hm.embeds (lookup_lt hb.toLinked)
    (lookup_lt hb'.toLinked) b.now
  obtain ⟨h', hv, hout, hrun⟩ := hm.validator.start hb'.sound (validation_lt hb'.toLinked) b.nextJob
  have hbeg : b.beginning u = (b'.beginning u).renumber (Function.update f b'.nextJob b.nextJob) := by
    simp [beginning, Job.renumber, hm.now, hfound, hout]
  have hold : b'.jobs.map (Job.renumber (Function.update f b'.nextJob b.nextJob)) = b'.jobs.map (Job.renumber f) :=
    List.map_congr_left fun t ht => by rw [Job.renumber, Job.renumber, Embeds.update_eq (hb'.ids_lt t ht)]
  have hu : (b.beginning u).uri = u := rfl
  refine ⟨⟨g', h', ⟨?_, hv, ?_, hm.now, ?_, ?_, hm.embeds.extend.lt, ?_⟩⟩, hout, ?_, hm.now ▸ hissued⟩
  · change Cache.Mirrors _ _ _ _ _ (b'.cache.get b'.now b'.nextJob u).1
    rw [hm.now]
    exact hc
  · change (b.jobs ++ [b.beginning u]).filter _ = (b'.jobs ++ [b'.beginning u]).map _
    rw [List.filter_append, List.map_append, hold, hm.jobs]
    simp [hu, ← hbeg]
  · simp [Bridge.enlist, hm.length_log]
  · simp [Bridge.enlist, hm.count_log]
  · refine Embeds.forall_update (P := fun i j => rank (log ++ [u]) u j = i) (fun i hi => ?_) ?_
    · rw [rank_append (by rw [hm.length_log]; exact Nat.le_of_lt (hm.lt i hi)), hm.rank_eq i hi]
    · rw [← hm.length_log, rank_append (Nat.le_refl _), rank_length, hm.count_log]
  · rw [runPath?, hrun, Option.map_map]
    rfl

theorem enlist_other (hm : Mirrors u f g h log b b') (hw : w ≠ u) :
    Mirrors u f g h (log ++ [w]) (b.enlist w) b' where
  cache := hm.cache.get_other hw hm.embeds b.now
  validator := hm.validator.start_other hw b.nextJob
  jobs := by
    have hu : (b.beginning w).uri ≠ u := hw
    change (b.jobs ++ [b.beginning w]).filter _ = _
    rw [List.filter_append, hm.jobs]
    simp [hu]
  now := hm.now
  length_log := by simp [Bridge.enlist, hm.length_log]
  count_log := by simp [hm.count_log, hw]
  lt i hi := Nat.lt_succ_of_lt (hm.lt i hi)
  rank_eq i hi := by
    rw [rank_append (by rw [hm.length_log]; exact Nat.le_of_lt (hm.lt i hi)), hm.rank_eq i hi]

theorem progress (hm : Mirrors u f g h log b b') {e e' : Event} {c c' : Cache} {v v' : Validator} {now now' : Nat}
    {unread unread' : Table Nat String} (hc : c.Mirrors u f g b'.nextJob c') (hv : v.Mirrors u f h v') (hn : now' = now)
    (hf : ∀ t ∈ b'.jobs, b.found? (f t.id) e = b'.found? t.id e')
    (hd : ∀ t ∈ b'.jobs, b.verdict? (f t.id) e = b'.verdict? t.id e') :
    Mirrors u f g h log
      ({ b with
        cache := c, validator := v, jobs := b.jobs.map (b.progress e), now := now, unread := unread } : Bridge).settle.1
      ({ b' with
        cache := c', validator := v', jobs := b'.jobs.map (b'.progress e'), now := now',
        unread := unread' } : Bridge).settle.1 := by
  refine settle { hm with cache := hc, validator := hv, jobs := hm.jobs_map (fun _ => rfl) ?_, now := hn }
  intro t ht
  simp only [Bridge.progress, Job.renumber, hf t ht, hd t ht]

theorem spawn (hm : Mirrors u f g h log b b') (hb : b.Regular) (hb' : b'.Regular) :
    Alike u (log ++ [u]) (b.spawn u).1 (b'.spawn u).1 := by
  obtain ⟨⟨g', h', he⟩, -⟩ := hm.enlist hb hb'
  exact ⟨_, g', h', he.settle⟩

theorem viewSpawn (hm : Mirrors u f g h log b b') (hb : b.Regular) (hb' : b'.Regular) {num num' : Nat → Nat}
    (hn : num b.nextJob = num' b'.nextJob) : b.viewSpawn u num u = b'.viewSpawn u num' u := by
  obtain ⟨-, hout, hrun, hissued⟩ := hm.enlist hb hb'
  rw [viewSpawn_self hb.settled, viewSpawn_self hb'.settled, hout, hrun, hissued, hn]

theorem spawn_other (hm : Mirrors u f g h log b b') (hb' : b'.Settled) (hw : w ≠ u) :
    Mirrors u f g h (log ++ [w]) (b.spawn w).1 b' := by
  have hs := (hm.enlist_other hw).settle
  rw [hb'.settle_fst] at hs
  exact hs

/-- Of several validations that begin, the second bridge begins those of its document. -/
theorem spawnAll (us : List Uri) (hm : Mirrors u f g h log b b') (hb : b.Regular) (hb' : b'.Regular)
    (hu : ∀ w ∈ us, u.Apart w) {num : Nat → Nat} (hn : ∀ i < b'.nextJob + us.count u, num i = i) :
    Alike u (log ++ us) (b.spawnAll us).1 (b'.spawnAll (us.filter (· = u))).1 ∧
    View.of u (rank (log ++ us) u) (b.spawnAll us).2 (b.ended us) =
      View.of u num (b'.spawnAll (us.filter (· = u))).2 (b'.ended (us.filter (· = u))) := by
  induction us generalizing b b' f g h log with
  | nil => exact ⟨⟨f, g, h, by rw [List.append_nil]; exact hm⟩, rfl⟩
  | cons w us ih =>
      have hus : ∀ w ∈ us, u.Apart w := fun x hx => hu x (List.mem_cons_of_mem w hx)
      have hlog : log ++ w :: us = log ++ [w] ++ us := by simp
      by_cases hw : w = u
      · subst hw
        have hfil : (w :: us).filter (· = w) = w :: us.filter (· = w) := by simp
        obtain ⟨f', g', h', hs⟩ := hm.spawn hb hb'
        have hc : (w :: us).count w = us.count w + 1 := by simp
        have hnext : (b'.spawn w).1.nextJob = b'.nextJob + 1 := rfl
        have hrank : rank (log ++ w :: us) w b.nextJob = num b'.nextJob := by
          rw [← hm.length_log, rank_append (Nat.le_refl _), rank_length, hm.count_log, hn _ (by omega)]
        obtain ⟨hm', hv⟩ := ih hs (Regular.kept.spawn b w hb) (Regular.kept.spawn b' w hb') hus
          (fun i hi => hn i (by omega))
        rw [hfil, spawnAll_cons_fst, spawnAll_cons_fst, of_spawnAll_cons, of_spawnAll_cons, hm.viewSpawn hb hb' hrank,
          hlog, hv]
        exact ⟨hm', rfl⟩
      · have hfil : (w :: us).filter (· = u) = us.filter (· = u) := by simp [hw]
        have hc : (w :: us).count u = us.count u := by simp [hw]
        obtain ⟨hm', hv⟩ := ih (hm.spawn_other hb'.settled hw) (Regular.kept.spawn b w hb) hb' hus
          (fun i hi => hn i (by omega))
        rw [hfil, spawnAll_cons_fst, of_spawnAll_cons, viewSpawn_other hb.settled (hu w List.mem_cons_self) hw,
          View.empty_append, hlog, hv]
        exact ⟨hm', rfl⟩

/-- An event that begins validations. The second bridge may be prepared for it in a way of its own. -/
theorem step_begin {e : Event} (he : e.isProgress = false) (hm : Mirrors u f g h log (b.prepared e) b')
    (hb : b.Regular) (hb' : b'.Regular) (hu : ∀ w ∈ b.triggered e, u.Apart w) {num : Nat → Nat}
    (hn : ∀ i < b'.nextJob + ((b.triggered e).filter (· = u)).length, num i = i) :
    Alike u (log ++ b.triggered e) (b.step e).1 (b'.spawnAll ((b.triggered e).filter (· = u))).1 ∧
    b.view u (rank (log ++ b.triggered e) u) e =
      View.of u num (b'.spawnAll ((b.triggered e).filter (· = u))).2 (b'.ended ((b.triggered e).filter (· = u))) := by
  have hc : (b.triggered e).count u = ((b.triggered e).filter (· = u)).length := by
    rw [List.count_eq_length_filter]
    congr 1
  rw [(b.step_prepared he).1, view_prepared u _ he]
  exact hm.spawnAll _ (Regular.kept.prepared hb e) hb' hu (by rwa [hc])

theorem view_progress (hm : Mirrors u f g h log b b') (hb : b.Regular) (hb' : b'.Regular) {e e' : Event}
    (he : e.isProgress = true) (hf : ∀ t ∈ b'.jobs, b.found? (f t.id) e = b'.found? t.id e')
    (hd : ∀ t ∈ b'.jobs, b.verdict? (f t.id) e = b'.verdict? t.id e') : b.view u (rank log u) e = {
      outcomes := b'.jobs.filterMap fun t => (b'.verdict? t.id e').map fun o => (t.id, o)
      shown := (b'.jobs.map (b'.progress e')).filterMap fun t => t.published?.map (·.2.2) } := by
  have hj : (b.jobs.map (b.progress e)).filter (·.uri = u) =
      (b'.jobs.map (b'.progress e')).map (Job.renumber f) := by
    refine hm.jobs_map (fun _ => rfl) fun t ht => ?_
    simp only [Bridge.progress, Job.renumber, hf t ht, hd t ht]
  rw [Bridge.view_progress hb.settled u _ he, hj, hm.jobs, List.filterMap_map, List.filterMap_map]
  congr 1
  · refine List.filterMap_congr fun t ht => ?_
    have hr : rank log u (f t.id) = t.id := hm.rank_eq t.id (hb'.ids_lt t ht)
    simp [Job.renumber, hd t ht, hr]
  · refine List.filterMap_congr fun t _ => ?_
    obtain ⟨id, w, settings, outcome⟩ := t
    simp only [Function.comp, Job.renumber, Job.published?]
    split <;> simp [Function.comp_def]

theorem view_alone (hm : Mirrors u f g h log b b') (hb' : b'.Regular) {e : Event} (he : e.isProgress = true)
    {num : Nat → Nat} (hn : ∀ i < b'.nextJob, num i = i) : b'.view u num e = {
      outcomes := b'.jobs.filterMap fun t => (b'.verdict? t.id e).map fun o => (t.id, o)
      shown := (b'.jobs.map (b'.progress e)).filterMap fun t => t.published?.map (·.2.2) } := by
  have hall : b'.jobs.filter (·.uri = u) = b'.jobs :=
    List.filter_eq_self.mpr fun t ht => decide_eq_true (hm.uri_of_mem ht).1
  have hall' : (b'.jobs.map (b'.progress e)).filter (·.uri = u) = b'.jobs.map (b'.progress e) := by
    refine List.filter_eq_self.mpr fun t ht => ?_
    obtain ⟨t', ht', rfl⟩ := List.mem_map.mp ht
    exact decide_eq_true (hm.uri_of_mem ht').1
  rw [Bridge.view_progress hb'.settled u num he, hall, hall']
  congr 1
  exact List.filterMap_congr fun t ht => by rw [hn t.id (hb'.ids_lt t ht)]

inductive Shared (u : Uri) (f g : Nat → Nat) (b' : Bridge) : Event → Event → Prop
  | opened : Shared u f g b' (.opened u) (.opened u)
  | saved : Shared u f g b' (.saved u) (.saved u)
  | closed : Shared u f g b' (.closed u) (.closed u)
  | configured (payload : Json) : Shared u f g b' (.configured payload) (.configured payload)
  | answered {p : Pull} (hp : p ∈ b'.cache.unanswered) (r : Reply) :
      Shared u f g b' (.answered (g p.id) r) (.answered p.id r)
  | finished {r : Run} (hr : r ∈ b'.validator.runs) (o : Tool.Output) :
      Shared u f g b' (.finished (f r.validation) o) (.finished r.validation o)
  | elapsed (ms : Nat) : Shared u f g b' (.elapsed ms) (.elapsed ms)

inductive Strange (u : Uri) (b : Bridge) : Event → Prop
  | opened {w : Uri} (hw : w ≠ u) : Strange u b (.opened w)
  | saved {w : Uri} (hw : w ≠ u) : Strange u b (.saved w)
  | closed {w : Uri} (hw : w ≠ u) : Strange u b (.closed w)
  | answered {p : Pull} (hp : p ∈ b.cache.unanswered) (hw : p.uri ≠ u) (r : Reply) : Strange u b (.answered p.id r)
  | finished {r : Run} (hr : r ∈ b.validator.runs) (hw : r.uri ≠ u) (o : Tool.Output) :
      Strange u b (.finished r.validation o)

theorem triggered (hm : Mirrors u f g h log b b') {e e' : Event} (he : Shared u f g b' e e') :
    b'.triggered e' = (b.triggered e).filter (· = u) := by
  cases he with
  | opened => simp [Bridge.triggered]
  | saved =>
      simp only [Bridge.triggered, hm.cache.isOpen_eq]
      split <;> simp
  | configured payload =>
      rw [Bridge.triggered, Bridge.triggered, hm.cache.opened, List.filter_eq]
  | closed | answered | finished | elapsed => rfl

theorem triggered_other {e : Event} (he : Strange u b e) : (b.triggered e).filter (· = u) = [] := by
  cases he with
  | opened hw => simp [Bridge.triggered, hw]
  | saved hw =>
      simp only [Bridge.triggered]
      split <;> simp [hw]
  | closed | answered | finished => rfl

theorem answered (hm : Mirrors u f g h log b b') (hb' : b'.Regular) {p : Pull} (hp : p ∈ b'.cache.unanswered)
    (r : Reply) :
    Mirrors u f g h log (b.step (.answered (g p.id) r)).1 (b'.step (.answered p.id r)).1 ∧
    ∀ i < b'.nextJob, b.found? (f i) (.answered (g p.id) r) = b'.found? i (.answered p.id r) := by
  have ha' : b'.cache.unanswered.any (·.id = p.id) = true := List.any_eq_true.mpr ⟨p, hp, by simp⟩
  have ha : b.cache.unanswered.any (·.id = g p.id) = true := by
    have hr := List.mem_map_of_mem (f := fun p : Pull => { p with id := g p.id }) hp
    rw [← hm.cache.unanswered] at hr
    exact List.any_eq_true.mpr ⟨_, (List.mem_filter.mp hr).1, by simp⟩
  obtain ⟨hc, hl⟩ := hm.cache.answer hb'.numbered (hb'.numbered.unanswered p hp) r
  have hf : ∀ i < b'.nextJob, b.found? (f i) (.answered (g p.id) r) = b'.found? i (.answered p.id r) := by
    intro i hi
    simp only [found?, ha, ha', if_true, hl i hi]
  refine ⟨?_, hf⟩
  obtain ⟨unread, hs⟩ := (step_answered ha r).1
  obtain ⟨unread', hs'⟩ := (step_answered ha' r).1
  rw [hs, hs']
  exact hm.progress hc hm.validator hm.now (fun t ht => hf t.id (hb'.ids_lt t ht)) fun _ _ => rfl

theorem finished (hm : Mirrors u f g h log b b') (hb : b.Regular) (hb' : b'.Regular) {r : Run}
    (hr : r ∈ b'.validator.runs) (o : Tool.Output) :
    Mirrors u f g h log (b.step (.finished (f r.validation) o)).1 (b'.step (.finished r.validation o)).1 ∧
    ∀ i < b'.nextJob, b.verdict? (f i) (.finished (f r.validation) o) = b'.verdict? i (.finished r.validation o) := by
  have hr' : r.renumber f h ∈ b.validator.runs := by
    have hr' := List.mem_map_of_mem (f := Run.renumber f h) hr
    rw [← hm.validator.runs] at hr'
    exact (List.mem_filter.mp hr').1
  have hfind := hb'.find?_run hr
  have hfind' : b.validator.runs.find? (·.validation = f r.validation) = some (r.renumber f h) := hb.find?_run hr'
  have hn := validation_lt hb'.toLinked
  have hv : ∀ i < b'.nextJob,
      b.verdict? (f i) (.finished (f r.validation) o) = b'.verdict? i (.finished r.validation o) := by
    intro i hi
    have hiff : f i = f r.validation ↔ i = r.validation := ⟨hm.embeds.inj i hi _ (hn r hr), congrArg f⟩
    simp only [verdict?, hiff, hfind, hfind', Option.map_some, hm.validator.judge hb'.sound hr o]
  refine ⟨?_, hv⟩
  rw [(step_finished hfind' o).1, (step_finished hfind o).1]
  exact hm.progress hm.cache (hm.validator.finish hm.embeds hn hr o) hm.now (fun _ _ => rfl)
    fun t ht => hv t.id (hb'.ids_lt t ht)

theorem elapsed (hm : Mirrors u f g h log b b') (hb' : b'.Regular) (ms : Nat) :
    Mirrors u f g h log (b.step (.elapsed ms)).1 (b'.step (.elapsed ms)).1 ∧
    ∀ i < b'.nextJob, b.found? (f i) (.elapsed ms) = b'.found? i (.elapsed ms) := by
  obtain ⟨hc, hl⟩ := hm.cache.expire hb'.numbered (b.now + ms)
  have hf : ∀ i < b'.nextJob, b.found? (f i) (.elapsed ms) = b'.found? i (.elapsed ms) := by
    intro i hi
    simp only [found?, hl i hi, hm.now]
  refine ⟨?_, hf⟩
  rw [(step_elapsed b ms).1, (step_elapsed b' ms).1]
  refine hm.progress (hm.now ▸ hc) hm.validator (by rw [hm.now]) (fun t ht => hf t.id (hb'.ids_lt t ht)) fun _ _ => rfl

theorem prepared (hm : Mirrors u f g h log b b') {e e' : Event} (he : Shared u f g b' e e') :
    Mirrors u f g h log (b.prepared e) (b'.prepared e') := by
  cases he with
  | opened => exact hm.welcome
  | closed => exact { hm with cache := hm.cache.closeDocument, validator := hm.validator.forget }
  | configured payload => exact { hm with cache := hm.cache.change payload }
  | saved | answered | finished | elapsed => exact hm

theorem prepared_other (hm : Mirrors u f g h log b b') {e : Event} (he : Strange u b e) :
    Mirrors u f g h log (b.prepared e) b' := by
  cases he with
  | opened hw => exact hm.welcome_other hw
  | closed hw =>
      exact { hm with cache := hm.cache.closeDocument_other hw, validator := hm.validator.forget_other hw }
  | saved | answered | finished => exact hm

/-- The answer to another document's request and the end of its run bring nothing to the document. -/
theorem progress_other (hm : Mirrors u f g h log b b') (hb : b.Regular) (hb' : b'.Regular) {e : Event}
    (he : Strange u b e) (hp : e.isProgress = true) : Mirrors u f g h log (b.step e).1 b' ∧
      ∀ t ∈ b'.jobs, b.found? (f t.id) e = none ∧ b.verdict? (f t.id) e = none := by
  -- on the other side an event happens that no validation notices
  have hself : ({ b' with jobs := b'.jobs.map (b'.progress (.closed u)) } : Bridge).settle.1 = b' := by
    rw [map_progress_eq_self (fun _ => rfl) fun _ => rfl]
    exact hb'.settled.settle_fst
  cases he with
  | opened | saved | closed => cases hp
  | @answered p hm' hw r =>
      have ha : b.cache.unanswered.any (·.id = p.id) = true := List.any_eq_true.mpr ⟨p, hm', by simp⟩
      obtain ⟨hc, hl⟩ := hm.cache.answer_other hb'.numbered hm' hw r
      have hf : ∀ t ∈ b'.jobs, b.found? (f t.id) (.answered p.id r) = none := by
        intro t ht
        simp only [found?, ha, if_true, hl t.id (hb'.ids_lt t ht)]
      refine ⟨?_, fun t ht => ⟨hf t ht, rfl⟩⟩
      obtain ⟨unread, hs⟩ := (step_answered ha r).1
      rw [hs, ← hself]
      exact hm.progress hc hm.validator hm.now hf fun _ _ => rfl
  | @finished r hr hw o =>
      have hne : ∀ t ∈ b.jobs, t.uri = u → t.id ≠ r.validation := by
        intro t ht hu hid
        obtain ⟨t', ht', hid', hu', -⟩ := hb.job_of_run hr
        obtain rfl := hb.eq_of_id_eq ht ht' (hid.trans hid'.symm)
        exact hw (hu'.symm.trans hu)
      have hv : ∀ t ∈ b'.jobs, b.verdict? (f t.id) (.finished r.validation o) = none := by
        intro t ht
        obtain ⟨hu, hm'⟩ := hm.uri_of_mem ht
        have hid : f t.id ≠ r.validation := hne _ hm' hu
        simp only [verdict?, hid, if_false]
      have hrun : ∀ s ∈ b.validator.runs, s.uri = u → s.validation ≠ r.validation := by
        intro s hs hu
        obtain ⟨t, ht, hid, hut, -⟩ := hb.job_of_run hs
        exact hid ▸ hne t ht (hut.trans hu)
      refine ⟨?_, fun t ht => ⟨rfl, hv t ht⟩⟩
      rw [(step_finished (hb.find?_run hr) o).1, ← hself]
      exact hm.progress hm.cache (hm.validator.finish_other hrun o) hm.now (fun _ _ => rfl) hv

theorem step (hm : Mirrors u f g h log b b') (hb : b.Regular) (hb' : b'.Regular) (hw : b.Within u.Apart)
    {e e' : Event} (he : Shared u f g b' e e') {num : Nat → Nat}
    (hn : ∀ i < b'.nextJob + (b'.triggered e').length, num i = i) :
    Alike u (log ++ b.triggered e) (b.step e).1 (b'.step e').1 ∧
    b.view u (rank (log ++ b.triggered e) u) e = b'.view u num e' := by
  have hdoc : ∀ w, e.document? = some w → u.Apart w := by
    intro w hd
    cases he with
    | opened | saved | closed => cases hd; exact ⟨fun _ => rfl, fun _ _ _ => rfl⟩
    | configured | answered | finished | elapsed => cases hd
  have ht := hm.triggered he
  rw [ht] at hn
  have hbegin (hp : e.isProgress = false) (hp' : e'.isProgress = false)
      (hnext : (b'.prepared e').nextJob = b'.nextJob) :
      Alike u (log ++ b.triggered e) (b.step e).1 (b'.step e').1 ∧
      b.view u (rank (log ++ b.triggered e) u) e = b'.view u num e' := by
    rw [(b'.step_prepared hp').1, view_prepared u num hp', ht]
    exact step_begin hp (hm.prepared he) hb (Regular.kept.prepared hb' e') (hw.triggered hdoc) (by rwa [hnext])
  have hprogress (hp : e.isProgress = true) (hp' : e'.isProgress = true) (hnil : b.triggered e = [])
      (hs : Mirrors u f g h log (b.step e).1 (b'.step e').1)
      (hf : ∀ i < b'.nextJob, b.found? (f i) e = b'.found? i e')
      (hd : ∀ i < b'.nextJob, b.verdict? (f i) e = b'.verdict? i e') :
      Alike u (log ++ b.triggered e) (b.step e).1 (b'.step e').1 ∧
      b.view u (rank (log ++ b.triggered e) u) e = b'.view u num e' := by
    rw [hnil, List.append_nil]
    refine ⟨⟨f, g, h, hs⟩, ?_⟩
    rw [hm.view_alone hb' hp' fun i hi => hn i (Nat.lt_of_lt_of_le hi (Nat.le_add_right _ _))]
    exact hm.view_progress hb hb' hp (fun t ht => hf t.id (hb'.ids_lt t ht)) fun t ht => hd t.id (hb'.ids_lt t ht)
  cases he with
  | opened | saved | closed | configured => exact hbegin rfl rfl rfl
  | answered hp r =>
      obtain ⟨hs, hf⟩ := hm.answered hb' hp r
      exact hprogress rfl rfl rfl hs hf fun _ _ => rfl
  | finished hr o =>
      obtain ⟨hs, hd⟩ := hm.finished hb hb' hr o
      exact hprogress rfl rfl rfl hs (fun _ _ => rfl) hd
  | elapsed ms =>
      obtain ⟨hs, hf⟩ := hm.elapsed hb' ms
      exact hprogress rfl rfl rfl hs hf fun _ _ => rfl

theorem step_other (hm : Mirrors u f g h log b b') (hb : b.Regular) (hb' : b'.Regular) (hw : b.Within u.Apart)
    {e : Event} (he : Strange u b e) (hdoc : ∀ w, e.document? = some w → u.Apart w) :
    Alike u (log ++ b.triggered e) (b.step e).1 b' ∧
    b.view u (rank (log ++ b.triggered e) u) e = {} := by
  cases hp : e.isProgress with
  | false =>
      have hn : ∀ i < b'.nextJob + ((b.triggered e).filter (· = u)).length, id i = i := fun _ _ => rfl
      have hs := step_begin hp (hm.prepared_other he) hb hb' (hw.triggered hdoc) hn
      rw [triggered_other he] at hs
      exact hs
  | true =>
      obtain ⟨hs, hq⟩ := hm.progress_other hb hb' he hp
      have hnil : b.triggered e = [] := by
        cases he with
        | opened | saved | closed => cases hp
        | answered | finished => rfl
      rw [hnil, List.append_nil]
      refine ⟨⟨f, g, h, hs⟩, ?_⟩
      have hf : ∀ t ∈ b'.jobs, b.found? (f t.id) e = b'.found? t.id (.closed u) := fun t ht => (hq t ht).1
      rw [hm.view_progress hb hb' hp hf fun t ht => (hq t ht).2, map_progress_eq_self (fun _ => rfl) fun _ => rfl]
      congr 1
      · exact List.filterMap_eq_nil_iff.mpr fun _ _ => rfl
      · refine List.filterMap_eq_nil_iff.mpr fun t ht => ?_
        have hnone := List.filterMap_eq_nil_iff.mp hb'.settled.filterMap_published? t ht
        rw [hnone]
        rfl

end Mirrors

end Bridge

end LintBridge
