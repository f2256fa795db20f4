import LintBridge.Bridge
import LintBridge.Proofs.Tickets

namespace LintBridge

open Settings (Cache Pull Reply)
open Validation (Outcome Report Run Validator)

theorem Settings.Cache.change_opened (c : Cache) (payload : Json) : (c.change payload).opened = c.opened := by
  unfold change; split <;> rfl

def Effect.published? : Effect → Option (Uri × List Diagnostic)
  | .send (.publish u ds) => some (u, ds)
  | _ => none

theorem Effect.mem_filterMap_published? {fs : List Effect} {u : Uri} {ds : List Diagnostic} :
    (u, ds) ∈ fs.filterMap published? ↔ .send (.publish u ds) ∈ fs := by
  rw [List.mem_filterMap]
  constructor
  · rintro ⟨f, hf, hp⟩
    cases f with
    | send m =>
        cases m with
        | publish w es => cases hp; exact hf
        | _ => cases hp
    | respond | run | log => cases hp
  · intro hf
    exact ⟨_, hf, rfl⟩

def Effect.asked? : Effect → Option Uri
  | .send (.askConfiguration u) => some u
  | _ => none

structure Silent (fs : List Effect) : Prop where
  started : fs.filterMap Effect.run? = []
  asked : fs.filterMap Effect.asked? = []
  published : fs.filterMap Effect.published? = []

def Validation.Report.shown? (r : Report) (s : Settings) : Option (List Diagnostic) :=
  if (r.limit s.maxProblems).shouldPublish s then some (r.limit s.maxProblems).diagnostics else none

def Job.published? (t : Job) : Option (Nat × Uri × List Diagnostic) :=
  match t.settings, t.outcome with
  | some s, some (.completed r) => (r.shown? s).map fun ds => (t.id, t.uri, ds)
  | _, _ => none

namespace Bridge

variable {b : Bridge}

def found? (b : Bridge) (id : Nat) : Event → Option Settings
  | .answered pull r =>
      if b.cache.unanswered.any (·.id = pull) then (b.cache.answer pull r).2.lookup id else none
  | .elapsed ms => (b.cache.expire (b.now + ms)).2.lookup id
  | _ => none

def verdict? (b : Bridge) (id : Nat) : Event → Option Outcome
  | .finished validation o =>
      if id = validation then (b.validator.runs.find? (·.validation = validation)).map (b.validator.judge · o)
      else none
  | _ => none

def progress (b : Bridge) (e : Event) (t : Job) : Job :=
  { t with settings := (b.found? t.id e).or t.settings, outcome := (b.verdict? t.id e).or t.outcome }

def published (b : Bridge) (e : Event) : List (Nat × Uri × List Diagnostic) :=
  (b.jobs.map (b.progress e)).filterMap Job.published?

def endings (b : Bridge) (e : Event) : List Effect := ((b.jobs.map (b.progress e)).filterMap Job.conclusion?).flatten

/-- The validations that have all they wait for are gone. -/
def Settled (b : Bridge) : Prop := ∀ t ∈ b.jobs, Job.conclusion? t = none

theorem conclusion?_eq_none_iff (t : Job) :
    Job.conclusion? t = none ↔ t.settings = none ∨ t.outcome = none := by
  cases hs : t.settings <;> cases ho : t.outcome <;> simp [Job.conclusion?, hs, ho]

@[simp] theorem published?_publish (u : Uri) (ds : List Diagnostic) :
    (Effect.send (.publish u ds)).published? = some (u, ds) := rfl

@[simp] theorem published?_note (level : Log.Level) (area : Log.Area) (m : String) :
    (note level area m).published? = none := rfl

@[simp] theorem published?_tell (text : String) : (tell text).published? = none := rfl

theorem published_publication (u : Uri) (s : Settings) (r : Report) :
    (publication u s r).filterMap Effect.published? = ((r.shown? s).map fun ds => (u, ds)).toList := by
  simp only [publication, List.filterMap_append, Report.shown?]
  generalize r.limit s.maxProblems = l
  -- failure, complaint and the number of dropped diagnostics go to the log
  cases l.failure <;> cases l.complaint <;> by_cases ht : l.truncated = 0 <;>
    by_cases hp : l.shouldPublish s = true <;> simp [ht, hp, List.filterMap_cons]

theorem published_conclusion (u : Uri) (s : Settings) (o : Outcome) (id : Nat) :
    (conclusion u s o).filterMap Effect.published? =
      ((Job.published? ⟨id, u, some s, some o⟩).map (·.2)).toList := by
  cases o with
  | completed r =>
      rw [conclusion, published_publication]
      simp [Job.published?, Function.comp_def]
  | superseded | closed | unsupported => rfl

theorem published_conclusions (ts : List Job) :
    ((ts.filterMap Job.conclusion?).flatten).filterMap Effect.published? =
      (ts.filterMap Job.published?).map (·.2) := by
  induction ts with
  | nil => rfl
  | cons t ts ih =>
      obtain ⟨id, u, s, o⟩ := t
      cases s with
      | none =>
          have hc : Job.conclusion? ⟨id, u, none, o⟩ = none := rfl
          have hp : Job.published? ⟨id, u, none, o⟩ = none := rfl
          rw [List.filterMap_cons_none hc, List.filterMap_cons_none hp, ih]
      | some s =>
          cases o with
          | none =>
              have hc : Job.conclusion? ⟨id, u, some s, none⟩ = none := rfl
              have hp : Job.published? ⟨id, u, some s, none⟩ = none := rfl
              rw [List.filterMap_cons_none hc, List.filterMap_cons_none hp, ih]
          | some o =>
              have hc : Job.conclusion? ⟨id, u, some s, some o⟩ = some (conclusion u s o) := rfl
              rw [List.filterMap_cons_some hc, List.flatten_cons, List.filterMap_append, ih,
                published_conclusion u s o id, List.filterMap_cons]
              cases Job.published? ⟨id, u, some s, some o⟩ <;> rfl

theorem published_endings (b : Bridge) (e : Event) :
    (b.endings e).filterMap Effect.published? = (b.published e).map (·.2) :=
  published_conclusions (b.jobs.map (b.progress e))

theorem published_settle (b : Bridge) :
    b.settle.2.filterMap Effect.published? = (b.jobs.filterMap Job.published?).map (·.2) :=
  published_conclusions b.jobs

theorem settled_settle (b : Bridge) : b.settle.1.Settled := by
  intro t ht
  simpa using (List.mem_filter.mp ht).2

theorem Settled.filterMap_published? (h : b.Settled) : b.jobs.filterMap Job.published? = [] := by
  rw [List.filterMap_eq_nil_iff]
  intro t ht
  obtain hs | ho := (conclusion?_eq_none_iff t).mp (h t ht)
  · simp [Job.published?, hs]
  · simp [Job.published?, ho]

theorem Settled.filter_eq_self (h : b.Settled) :
    b.jobs.filter (fun t => (Job.conclusion? t).isNone) = b.jobs := by
  rw [List.filter_eq_self]
  intro t ht
  rw [h t ht]; rfl

def Logs (es : List Effect) : Prop := ∀ e ∈ es, ∃ x, e = .log x

namespace Logs

variable {es fs : List Effect}

theorem append (he : Logs es) (hf : Logs fs) : Logs (es ++ fs) := by
  intro e h
  obtain h | h := List.mem_append.mp h
  · exact he e h
  · exact hf e h

theorem cons (x : Log.Entry) (h : Logs es) : Logs (.log x :: es) := by
  intro e he
  obtain rfl | he := List.mem_cons.mp he
  · exact ⟨x, rfl⟩
  · exact h e he

theorem nil : Logs [] := by simp [Logs]

theorem published (h : Logs es) : es.filterMap Effect.published? = [] := by
  rw [List.filterMap_eq_nil_iff]
  intro e he
  obtain ⟨x, rfl⟩ := h e he
  rfl

end Logs

def Calm (fs : List Effect) : Prop := ∀ f ∈ fs, f.run? = none ∧ f.asked? = none

namespace Calm

variable {fs gs : List Effect}

theorem append (hf : Calm fs) (hg : Calm gs) : Calm (fs ++ gs) := by
  intro f hm
  obtain hm | hm := List.mem_append.mp hm
  · exact hf f hm
  · exact hg f hm

theorem started (h : Calm fs) : fs.filterMap Effect.run? = [] :=
  List.filterMap_eq_nil_iff.mpr fun f hf => (h f hf).1

theorem asked (h : Calm fs) : fs.filterMap Effect.asked? = [] :=
  List.filterMap_eq_nil_iff.mpr fun f hf => (h f hf).2

end Calm

theorem Logs.calm {fs : List Effect} (h : Logs fs) : Calm fs := by
  intro f hf
  obtain ⟨x, rfl⟩ := h f hf
  exact ⟨rfl, rfl⟩

theorem Logs.silent {fs : List Effect} (h : Logs fs) : Silent fs := ⟨h.calm.started, h.calm.asked, h.published⟩

theorem logs_warn (warning : Option String) : Logs (warn warning) := by
  cases warning with
  | none => exact .nil
  | some m => exact .cons _ .nil

def beginning (b : Bridge) (u : Uri) : Job :=
  ⟨b.nextJob, u, (b.cache.get b.now b.nextJob u).2.found, (b.validator.start b.nextJob u).2.outcome?⟩

def enlist (b : Bridge) (u : Uri) : Bridge :=
  { b with
    cache := (b.cache.get b.now b.nextJob u).1
    validator := (b.validator.start b.nextJob u).1
    jobs := b.jobs ++ [b.beginning u]
    nextJob := b.nextJob + 1
    unread := (b.cache.request? u).elim b.unread b.unread.erase }

theorem spawn_fst (b : Bridge) (u : Uri) : (b.spawn u).1 = (b.enlist u).settle.1 := rfl

theorem spawnAll_cons_fst (b : Bridge) (u : Uri) (us : List Uri) :
    (b.spawnAll (u :: us)).1 = ((b.spawn u).1.spawnAll us).1 := rfl

theorem spawnAll_cons_snd (b : Bridge) (u : Uri) (us : List Uri) :
    (b.spawnAll (u :: us)).2 = (b.spawn u).2 ++ ((b.spawn u).1.spawnAll us).2 := rfl

theorem beginning_not_completed (b : Bridge) (u : Uri) (r : Report) :
    (b.beginning u).outcome ≠ some (.completed r) := by
  unfold beginning
  obtain ⟨-, hs⟩ | ⟨path, -, -, hs⟩ | ⟨path, t, -, -, hs⟩ :=
    Validator.start_cases b.validator b.nextJob u <;> rw [hs] <;> simp [Validation.Start.outcome?]

theorem published_beginning (b : Bridge) (u : Uri) : (b.beginning u).published? = none := by
  have h := beginning_not_completed b u
  revert h
  cases b.beginning u with
  | mk id u s o =>
      intro h
      cases s with
      | none => rfl
      | some s =>
          cases o with
          | none => rfl
          | some o =>
              cases o with
              | completed r => exact absurd rfl (h r)
              | superseded | closed | unsupported => rfl

theorem published_spawn (h : b.Settled) (u : Uri) : (b.spawn u).2.filterMap Effect.published? = [] := by
  have hs : ((b.enlist u).settle.2).filterMap Effect.published? = [] := by
    rw [published_settle]
    simp [enlist, h.filterMap_published?, published_beginning]
  simp only [spawn, List.filterMap_append]
  rw [(logs_warn _).published, List.append_nil]
  refine List.append_eq_nil_iff.mpr ⟨List.append_eq_nil_iff.mpr ⟨?_, ?_⟩, hs⟩
  · split <;> rfl
  · split <;> rfl

theorem settled_spawn (b : Bridge) (u : Uri) : (b.spawn u).1.Settled := settled_settle _

theorem published_spawnAll (h : b.Settled) (us : List Uri) :
    (b.spawnAll us).2.filterMap Effect.published? = [] := by
  induction us generalizing b with
  | nil => rfl
  | cons u us ih =>
      rw [spawnAll_cons_snd, List.filterMap_append, published_spawn h u, ih (settled_spawn b u)]
      rfl

theorem jobs_spawn (h : b.Settled) (u : Uri) :
    (b.spawn u).1.jobs = b.jobs ++ [b.beginning u].filter fun t => (Job.conclusion? t).isNone := by
  rw [spawn_fst, settle, enlist]
  simp only [List.filter_append, h.filter_eq_self]

/-- Validations that begin come after those under way, and none of them is completed yet. -/
def Newcomers (n : Nat) (ts : List Job) : Prop :=
  ∀ t ∈ ts, n ≤ t.id ∧ ∀ r, t.outcome ≠ some (.completed r)

theorem jobs_spawnAll (h : b.Settled) (us : List Uri) :
    ∃ news, Newcomers b.nextJob news ∧ (b.spawnAll us).1.jobs = b.jobs ++ news := by
  induction us generalizing b with
  | nil => exact ⟨[], by simp [Newcomers], by simp [spawnAll]⟩
  | cons u us ih =>
      obtain ⟨news, hn, hj⟩ := ih (settled_spawn b u)
      refine ⟨[b.beginning u].filter (fun t => (Job.conclusion? t).isNone) ++ news, ?_, ?_⟩
      · intro t ht
        obtain ht | ht := List.mem_append.mp ht
        · obtain rfl := List.mem_singleton.mp (List.mem_filter.mp ht).1
          exact ⟨Nat.le_refl _, beginning_not_completed b u⟩
        · exact ⟨Nat.le_of_succ_le (hn t ht).1, (hn t ht).2⟩
      · rw [spawnAll_cons_fst, hj, jobs_spawn h u, List.append_assoc]

theorem progress_eq_self {e : Event} {t : Job} (hf : b.found? t.id e = none) (hv : b.verdict? t.id e = none) :
    b.progress e t = t := by
  simp [progress, hf, hv]

def awaited (ws : List Settings.Waiter) (id : Nat) : Bool := ws.any (·.lookup = id)

theorem awaited_iff (ws : List Settings.Waiter) (id : Nat) :
    awaited ws id = true ↔ ∃ w ∈ ws, w.lookup = id := by
  simp [awaited]

theorem lookup_waiters (ws : List Settings.Waiter) (s : Settings) (id : Nat) :
    (ws.map fun w => (w.lookup, s)).lookup id = if awaited ws id then some s else none := by
  induction ws with
  | nil => simp [awaited]
  | cons w ws ih =>
      rw [List.map_cons, List.lookup_cons, ih, awaited, awaited, List.any_cons]
      by_cases hw : w.lookup = id
      · simp [hw]
      · have hb : (id == w.lookup) = false := by simpa using Ne.symm hw
        simp [hb, hw]

theorem foldl_setSettings (b : Bridge) (ws : List Settings.Waiter) (s : Settings) :
    (ws.map fun w => (w.lookup, s)).foldl setSettings b =
      { b with jobs := b.jobs.map fun t =>
          { t with settings := ((ws.map fun w => (w.lookup, s)).lookup t.id).or t.settings } } := by
  simp only [lookup_waiters]
  induction ws generalizing b with
  | nil => simp [awaited]
  | cons w ws ih =>
      rw [List.map_cons, List.foldl_cons, ih, setSettings]
      simp only [List.map_map]
      congr 1
      refine List.map_congr_left fun t _ => ?_
      by_cases ht : t.id = w.lookup
      · have ha : awaited (w :: ws) w.lookup = true := by simp [awaited]
        cases hw : awaited ws w.lookup <;> simp [ht, ha, hw]
      · have ha : awaited (w :: ws) t.id = awaited ws t.id := by simp [awaited, Ne.symm ht]
        simp [ht, ha]

theorem logs_changeNotes (c : Cache) (payload : Json) : Logs (changeNotes c payload) := by
  unfold changeNotes
  split
  · exact .cons _ .nil
  · exact (logs_warn _).append (.cons _ .nil)

theorem logs_toolNotes (o : Tool.Output) : Logs (toolNotes o) := by
  unfold toolNotes
  split
  · exact .nil
  · exact .nil
  · exact .nil
  · exact .cons _ .nil

theorem logs_outcomeNotes (r : Run) (o : Tool.Output) (outcome : Outcome) : Logs (outcomeNotes r o outcome) := by
  cases outcome with
  | completed report =>
      intro e he
      obtain ⟨line, -, rfl⟩ := List.mem_map.mp he
      exact ⟨_, rfl⟩
  | superseded | closed => exact .cons _ .nil
  | unsupported => exact .nil

theorem logs_timeoutNotes (b : Bridge) (resolved : List (Nat × Settings)) : Logs (b.timeoutNotes resolved) := by
  intro e he
  obtain ⟨found, -, he⟩ := List.mem_flatMap.mp he
  obtain ⟨t, -, rfl⟩ := List.mem_map.mp he
  exact ⟨_, rfl⟩

theorem step_answered {pull : Nat} (hp : b.cache.unanswered.any (·.id = pull) = true) (r : Reply) :
    (∃ unread, (b.step (.answered pull r)).1 = ({ b with
      cache := (b.cache.answer pull r).1
      jobs := b.jobs.map (b.progress (.answered pull r))
      unread := unread } : Bridge).settle.1) ∧
    ∃ notes, Logs notes ∧ (b.step (.answered pull r)).2 = notes ++ b.endings (.answered pull r) := by
  obtain ⟨p, hfind⟩ : ∃ p, b.cache.unanswered.find? (·.id = pull) = some p := by
    rw [← Option.isSome_iff_exists, List.find?_isSome]
    simpa using hp
  obtain rfl : p.id = pull := by simpa using List.find?_some hfind
  have hf (unread : Table Nat String) : (b.cache.answer p.id r).2.foldl setSettings
        { b with cache := (b.cache.answer p.id r).1, unread := unread } =
      { b with
        cache := (b.cache.answer p.id r).1
        jobs := b.jobs.map (b.progress (.answered p.id r))
        unread := unread } := by
    refine (foldl_setSettings _ (b.cache.waiters.filter (·.pull = p.id)) (Settings.ofReply r)).trans ?_
    congr 1
    refine List.map_congr_left fun t _ => ?_
    simp only [progress, found?, verdict?, hp, if_true, Option.none_or]
    rfl
  have hn : Logs (if (b.cache.answer p.id r).2.isEmpty then [] else warn (warning? p.uri r)) := by
    split
    · exact .nil
    · exact logs_warn _
  simp only [step, hfind, hf]
  exact ⟨⟨_, rfl⟩, _, hn, rfl⟩

theorem step_finished {r : Run} {validation : Nat}
    (hr : b.validator.runs.find? (·.validation = validation) = some r) (o : Tool.Output) :
    (b.step (.finished validation o)).1 = ({ b with
      validator := (b.validator.finish r o).1
      jobs := b.jobs.map (b.progress (.finished validation o)) } : Bridge).settle.1 ∧
    ∃ notes, Logs notes ∧ (b.step (.finished validation o)).2 = notes ++ b.endings (.finished validation o) := by
  obtain rfl : r.validation = validation := by simpa using List.find?_some hr
  have hj : { b with validator := (b.validator.finish r o).1 }.setOutcome r.validation (b.validator.judge r o) =
      { b with
        validator := (b.validator.finish r o).1
        jobs := b.jobs.map (b.progress (.finished r.validation o)) } := by
    unfold setOutcome
    congr 1
    refine List.map_congr_left fun t _ => ?_
    by_cases ht : t.id = r.validation
    · simp [progress, found?, verdict?, ht, hr]
    · simp [progress, found?, verdict?, ht]
  have hs : (b.validator.finish r o).2 = b.validator.judge r o := rfl
  have hn := (logs_toolNotes o).append (logs_outcomeNotes r o (b.validator.judge r o))
  exact ⟨by simp only [step, hr, hs, hj], _, hn, by simp only [step, hr, hs, hj]; rfl⟩

theorem step_elapsed (b : Bridge) (ms : Nat) :
    (b.step (.elapsed ms)).1 = ({ b with
      cache := (b.cache.expire (b.now + ms)).1
      jobs := b.jobs.map (b.progress (.elapsed ms))
      now := b.now + ms } : Bridge).settle.1 ∧
    ∃ notes, Logs notes ∧ (b.step (.elapsed ms)).2 = notes ++ b.endings (.elapsed ms) := by
  have hf : (b.cache.expire (b.now + ms)).2.foldl setSettings
        { b with cache := (b.cache.expire (b.now + ms)).1, now := b.now + ms } =
      { b with
        cache := (b.cache.expire (b.now + ms)).1
        jobs := b.jobs.map (b.progress (.elapsed ms))
        now := b.now + ms } := by
    exact foldl_setSettings _ (b.cache.waiters.filter (·.deadline ≤ b.now + ms)) {}
  exact ⟨by simp only [step, hf], _, logs_timeoutNotes b _, by simp only [step, hf]; rfl⟩

theorem step_answered_unknown {pull : Nat} (hp : ¬ b.cache.unanswered.any (·.id = pull) = true) (r : Reply) :
    b.step (.answered pull r) = (b, []) := by
  have hfind : b.cache.unanswered.find? (·.id = pull) = none := by
    simpa using hp
  simp only [step, hfind]

theorem step_finished_unknown {validation : Nat}
    (hr : b.validator.runs.find? (·.validation = validation) = none) (o : Tool.Output) :
    b.step (.finished validation o) = (b, []) := by
  simp only [step, hr]

def welcome (b : Bridge) (u : Uri) : Bridge :=
  { b with cache := b.cache.openDocument u, validator := b.validator.track u }

def reconfigure (b : Bridge) (payload : Json) : Bridge := { b with cache := b.cache.change payload }

theorem step_opened (b : Bridge) (u : Uri) : b.step (.opened u) =
    (((b.welcome u).spawn u).1, tell ("Document opened: " ++ u.text) :: ((b.welcome u).spawn u).2) := rfl

theorem step_saved_open {u : Uri} (h : b.cache.isOpen u = true) : b.step (.saved u) =
    ((b.spawn u).1, note .debug .session ("Document saved: " ++ u.text) :: (b.spawn u).2) := by
  simp [step, h]

theorem step_saved_closed {u : Uri} (h : ¬ b.cache.isOpen u = true) : (b.step (.saved u)).1 = b ∧
    Logs (b.step (.saved u)).2 := by
  simp only [step, h]
  exact ⟨rfl, .cons _ (.cons _ .nil)⟩

theorem step_configured (b : Bridge) (payload : Json) :
    (b.step (.configured payload)).1 = ((b.reconfigure payload).spawnAll (b.reconfigure payload).cache.opened).1 ∧
    ∃ notes, Logs notes ∧ (b.step (.configured payload)).2 =
      notes ++ ((b.reconfigure payload).spawnAll (b.reconfigure payload).cache.opened).2 :=
  ⟨rfl, _, (Logs.cons _ (logs_changeNotes _ _)).append (.cons _ .nil), rfl⟩

def triggered (b : Bridge) : Event → List Uri
  | .opened u => [u]
  | .saved u => if b.cache.isOpen u then [u] else []
  | .configured _ => b.cache.opened
  | _ => []

theorem map_progress_eq_self {e : Event} (hf : ∀ id, b.found? id e = none) (hv : ∀ id, b.verdict? id e = none) :
    b.jobs.map (b.progress e) = b.jobs := by
  rw [List.map_congr_left fun t _ => progress_eq_self (hf t.id) (hv t.id), List.map_id']

/-- What is ready for an event that begins validations, before the first of them begins. -/
def prepared (b : Bridge) : Event → Bridge
  | .opened u => b.welcome u
  | .closed u => { b with cache := b.cache.closeDocument u, validator := b.validator.forget u }
  | .configured payload => b.reconfigure payload
  | _ => b

/-- Whether an event brings something to validations under way; the others concern documents or the configuration. -/
def Event.isProgress : Event → Bool
  | .answered _ _ => true
  | .finished _ _ => true
  | .elapsed _ => true
  | _ => false

theorem found?_of_prepared {e : Event} (he : e.isProgress = false) (id : Nat) :
    b.found? id e = none ∧ b.verdict? id e = none := by
  cases e with
  | opened | saved | closed | configured => exact ⟨rfl, rfl⟩
  | answered | finished | elapsed => cases he

theorem jobs_prepared (b : Bridge) (e : Event) : (b.prepared e).jobs = b.jobs := by
  cases e <;> rfl

theorem nextJob_prepared (b : Bridge) (e : Event) : (b.prepared e).nextJob = b.nextJob := by
  cases e <;> rfl

theorem Settled.prepared (h : b.Settled) (e : Event) : (b.prepared e).Settled := by
  intro t ht
  rw [jobs_prepared] at ht
  exact h t ht

theorem Settled.idle (h : b.Settled) {e : Event} (hn : ∀ id, b.found? id e = none ∧ b.verdict? id e = none) :
    (b.jobs.map (b.progress e)).filter (fun t => (Job.conclusion? t).isNone) = b.jobs ∧
    b.published e = [] ∧ b.endings e = [] := by
  have hj := map_progress_eq_self (b := b) (fun id => (hn id).1) (fun id => (hn id).2)
  refine ⟨?_, ?_, ?_⟩
  · rw [hj, h.filter_eq_self]
  · rw [published, hj, h.filterMap_published?]
  · rw [endings, hj, List.filterMap_eq_nil_iff.mpr h]
    rfl

theorem step_prepared (b : Bridge) {e : Event} (he : e.isProgress = false) :
    (b.step e).1 = ((b.prepared e).spawnAll (b.triggered e)).1 ∧
    ∃ notes, Silent notes ∧ (b.step e).2 = notes ++ ((b.prepared e).spawnAll (b.triggered e)).2 := by
  cases e with
  | opened u =>
      refine ⟨rfl, [tell ("Document opened: " ++ u.text)], ⟨rfl, rfl, rfl⟩, ?_⟩
      simp [step_opened, prepared, triggered, spawnAll]
  | saved u =>
      by_cases ho : b.cache.isOpen u = true
      · rw [step_saved_open ho, triggered, if_pos ho]
        refine ⟨rfl, [note .debug .session ("Document saved: " ++ u.text)], (Logs.cons _ .nil).silent, ?_⟩
        simp [prepared, spawnAll]
      · rw [triggered, if_neg ho]
        obtain ⟨hs, hl⟩ := step_saved_closed ho
        exact ⟨hs, _, hl.silent, (List.append_nil _).symm⟩
  | closed u => exact ⟨rfl, [_], (Logs.cons _ .nil).silent, rfl⟩
  | configured payload =>
      have ht : (b.reconfigure payload).cache.opened = b.cache.opened := b.cache.change_opened payload
      obtain ⟨hs, notes, hn, hf⟩ := step_configured b payload
      rw [ht] at hs hf
      exact ⟨hs, notes, hn.silent, hf⟩
  | answered | finished | elapsed => cases he

/-- An event that brings something to validations under way has no effects but those of the validations that it
ends, and what it writes to the log. -/
theorem step_progress (h : b.Settled) {e : Event} (he : e.isProgress = true) :
    (b.step e).1.jobs = (b.jobs.map (b.progress e)).filter (fun t => (Job.conclusion? t).isNone) ∧
    ∃ notes, Logs notes ∧ (b.step e).2 = notes ++ b.endings e := by
  cases e with
  | answered pull r =>
      by_cases hp : b.cache.unanswered.any (·.id = pull) = true
      · obtain ⟨⟨unread, hs⟩, hlogs⟩ := step_answered hp r
        exact ⟨by rw [hs]; rfl, hlogs⟩
      · obtain ⟨hj, -, he⟩ := h.idle (e := .answered pull r) fun id => ⟨by simp [found?, hp], rfl⟩
        rw [step_answered_unknown hp, hj, he]
        exact ⟨rfl, [], .nil, rfl⟩
  | finished validation o =>
      cases hr : b.validator.runs.find? (·.validation = validation) with
      | some r => exact ⟨by rw [(step_finished hr o).1]; rfl, (step_finished hr o).2⟩
      | none =>
          obtain ⟨hj, -, he⟩ := h.idle (e := .finished validation o) fun id => ⟨rfl, by simp [verdict?, hr]⟩
          rw [step_finished_unknown hr, hj, he]
          exact ⟨rfl, [], .nil, rfl⟩
  | elapsed ms => exact ⟨by rw [(step_elapsed b ms).1]; rfl, (step_elapsed b ms).2⟩
  | opened | saved | closed | configured => cases he

theorem published_step (h : b.Settled) (e : Event) :
    (b.step e).2.filterMap Effect.published? = (b.published e).map (·.2) := by
  cases he : e.isProgress with
  | true =>
      obtain ⟨-, notes, hn, hs⟩ := step_progress h he
      rw [hs, List.filterMap_append, hn.published, published_endings, List.nil_append]
  | false =>
      obtain ⟨-, notes, hn, hs⟩ := step_prepared b he
      rw [hs, List.filterMap_append, hn.published, published_spawnAll (h.prepared e),
        (h.idle fun id => found?_of_prepared he id).2.1]
      rfl

/-- The validations under way after a step are those from before it, with what it brings to them, that it does
not end, and then those that it begins. -/
theorem jobs_step (h : b.Settled) (e : Event) :
    ∃ news, Newcomers b.nextJob news ∧ (b.step e).1.jobs =
      (b.jobs.map (b.progress e)).filter (fun t => (Job.conclusion? t).isNone) ++ news := by
  cases he : e.isProgress with
  | true => exact ⟨[], by simp [Newcomers], by rw [(step_progress h he).1, List.append_nil]⟩
  | false =>
      have hs := jobs_spawnAll (h.prepared e) (b.triggered e)
      rw [nextJob_prepared, jobs_prepared] at hs
      rwa [(step_prepared b he).1, (h.idle fun id => found?_of_prepared he id).1]

end Bridge

end LintBridge
