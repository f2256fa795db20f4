import LintBridge.Proofs.Courses

namespace LintBridge

open Settings (Pull)
open Validation (Outcome Report Run Validator)

structure Account where
  run : Run
  output : Tool.Output
  settings : Settings

namespace Account

def diagnostics (a : Account) : List Diagnostic :=
  ((LintBridge.Report.parse a.output.stdout).map fun f =>
    { range := ⟨⟨f.line, 1⟩, ⟨f.line, 1⟩⟩, severity := .warning, source := "analysis-tool", message := f.message }).take
      a.settings.maxProblems

def messages (a : Account) : List Outgoing :=
  (a.output.failure.map fun f => .logMessage .log f.message).toList ++
  (if Text.trim a.output.stderr.toList = [] then []
    else [.logMessage .log (String.ofList (Text.trim a.output.stderr.toList))]) ++
  (if a.settings.alwaysPublish = true ∨ a.diagnostics ≠ [] then [.publish a.run.uri a.diagnostics] else [])

end Account

theorem Tool.Output.complaint?_eq (o : Output) : o.complaint? =
    if Text.trim o.stderr.toList = [] then none else some (String.ofList (Text.trim o.stderr.toList)) := by
  unfold complaint?
  cases Text.trim o.stderr.toList with
  | nil => rfl
  | cons c cs => rfl

def Job.told (t : Job) : List Outgoing := ((Bridge.Job.conclusion? t).getD []).filterMap Effect.sent?

namespace Bridge

variable {b : Bridge}

@[simp] theorem sent?_note (level : Log.Level) (area : Log.Area) (text : String) :
    (note level area text).sent? = none := rfl

@[simp] theorem sent?_tell (text : String) : (tell text).sent? = some (.logMessage .log text) := rfl

theorem sent_publication (a : Account) :
    (publication a.run.uri a.settings (.ofOutput a.output)).filterMap Effect.sent? = a.messages := by
  have hd : ((Report.ofOutput a.output).limit a.settings.maxProblems).diagnostics = a.diagnostics := rfl
  have hf : ((Report.ofOutput a.output).limit a.settings.maxProblems).failure = a.output.failure := rfl
  have hc : ((Report.ofOutput a.output).limit a.settings.maxProblems).complaint = a.output.complaint? := rfl
  have hp : ((Report.ofOutput a.output).limit a.settings.maxProblems).shouldPublish a.settings = true ↔
      a.settings.alwaysPublish = true ∨ a.diagnostics ≠ [] := by
    simp [Report.shouldPublish, hd]
  simp only [publication, List.filterMap_append, Account.messages, hd, hf, hc, hp, Tool.Output.complaint?_eq]
  congr 1
  · -- the number of dropped diagnostics goes to the log only
    cases a.output.failure <;> by_cases ht : Text.trim a.output.stderr.toList = [] <;>
      by_cases hn : ((Report.ofOutput a.output).limit a.settings.maxProblems).truncated = 0 <;>
        simp [ht, hn, List.filterMap_cons]
  · by_cases hs : a.settings.alwaysPublish = true ∨ a.diagnostics ≠ []
    · rw [if_pos hs, if_pos hs]; rfl
    · rw [if_neg hs, if_neg hs]; rfl

theorem told_account (a : Account) (id : Nat) :
    Job.told ⟨id, a.run.uri, some a.settings, some (.completed (.ofOutput a.output))⟩ = a.messages :=
  sent_publication a

theorem told_eq_nil {t : Job} (h : ∀ v report, t.settings = some v → t.outcome ≠ some (.completed report)) :
    t.told = [] := by
  obtain ⟨id, u, v, o⟩ := t
  cases v with
  | none => rfl
  | some v =>
      cases o with
      | none => rfl
      | some o =>
          cases o with
          | completed report => exact absurd rfl (h v report rfl)
          | superseded | closed | unsupported => rfl

theorem Settled.told_eq_nil (h : b.Settled) : ∀ t ∈ b.jobs, t.told = [] := by
  intro t ht
  rw [Job.told, h t ht]
  rfl

theorem told_conclusions (ts : List Job) :
    ((ts.filterMap Job.conclusion?).flatten).filterMap Effect.sent? = ts.flatMap Job.told := by
  induction ts with
  | nil => rfl
  | cons t ts ih =>
      rw [List.flatMap_cons, ← ih, Job.told, List.filterMap_cons]
      cases Job.conclusion? t with
      | none => rfl
      | some fs => simp

theorem Logs.sent {fs : List Effect} (h : Logs fs) : fs.filterMap Effect.sent? = [] := by
  apply List.filterMap_eq_nil_iff.mpr
  intro f hf
  obtain ⟨x, rfl⟩ := h f hf
  rfl

theorem sent_progress (h : b.Settled) {e : Event} (he : e.isProgress = true) :
    (b.step e).2.filterMap Effect.sent? = (b.pending e).flatMap Job.told := by
  obtain ⟨-, notes, hn, hs⟩ := step_progress h he
  rw [hs, List.filterMap_append, hn.sent, List.nil_append, endings, told_conclusions, pending, outsets_eq_nil he,
    List.map_nil, List.append_nil]

theorem sent_spawn (h : b.Settled) (u : Uri) : (b.spawn u).2.filterMap Effect.sent? =
    ((b.cache.get b.now b.nextJob u).2.issued.map fun p : Pull => Outgoing.askConfiguration p.uri).toList := by
  have hs : (b.enlist u).settle.2.filterMap Effect.sent? = [] := by
    refine (told_conclusions (b.jobs ++ [b.beginning u])).trans (List.flatMap_eq_nil_iff.mpr fun t ht => ?_)
    obtain ht | ht := List.mem_append.mp ht
    · exact h.told_eq_nil t ht
    · rw [List.mem_singleton.mp ht]
      exact told_eq_nil fun _ report _ => beginning_not_completed b u report
  simp only [spawn, List.filterMap_append, (logs_warn _).sent, List.append_nil]
  refine (congrArg (_ ++ ·) hs).trans ?_
  rw [List.append_nil]
  cases (b.cache.get b.now b.nextJob u).2.issued <;> cases (b.validator.start b.nextJob u).2.run? <;> rfl

theorem sent_spawnAll (h : b.Settled) (us : List Uri) :
    ∀ m ∈ (b.spawnAll us).2.filterMap Effect.sent?, ∃ w, m = .askConfiguration w := by
  induction us generalizing b with
  | nil => simp [spawnAll]
  | cons u us ih =>
      intro m hm
      rw [spawnAll_cons_snd, List.filterMap_append, List.mem_append, sent_spawn h] at hm
      obtain hm | hm := hm
      · obtain ⟨p, -, rfl⟩ := Option.map_eq_some_iff.mp (Option.mem_toList.mp hm)
        exact ⟨p.uri, rfl⟩
      · exact ih (settled_spawn b u) m hm

theorem sent_prepared (h : b.Settled) {e : Event} (he : e.isProgress = false) :
    ∀ m ∈ (b.step e).2.filterMap Effect.sent?, (∃ w, m = .askConfiguration w) ∨
      ∃ u, e = .opened u ∧ m = .logMessage .log ("Document opened: " ++ u.text) := by
  intro m hm
  cases e with
  | opened u =>
      rw [step_opened, List.filterMap_cons_some (sent?_tell _), List.mem_cons] at hm
      obtain rfl | hm := hm
      · exact .inr ⟨u, rfl, rfl⟩
      · have hs : (b.welcome u).Settled := h
        exact .inl (sent_spawnAll hs [u] m (by simpa [spawnAll] using hm))
  | saved u =>
      by_cases ho : b.cache.isOpen u = true
      · rw [step_saved_open ho, List.filterMap_cons_none (sent?_note _ _ _)] at hm
        exact .inl (sent_spawnAll h [u] m (by simpa [spawnAll] using hm))
      · rw [(step_saved_closed ho).2.sent] at hm
        cases hm
  | closed u => cases hm
  | configured payload =>
      obtain ⟨-, notes, hn, hs⟩ := step_configured b payload
      rw [hs, List.filterMap_append, hn.sent, List.nil_append] at hm
      have hr : (b.reconfigure payload).Settled := h
      exact .inl (sent_spawnAll hr _ m hm)
  | answered | finished | elapsed => cases he

end Bridge

namespace Session

variable {s : Session} {es : List Event} {e : Event}

/-- The notifications and requests that a step sends to the editor; responses are not among them. -/
def sent (s : Session) (e : Event) : List Outgoing := (s.step e).2.filterMap Effect.sent?

/-- What the server may say on a message of the editor: greetings and questions, that a document was opened, and that
folders have changed. -/
def Prompt (s : Session) (e : Event) : Outgoing → Prop
  | .publish _ _ => False
  | .logMessage .info _ => True
  | .logMessage .log text => text = "Workspace folder change event received." ∨
      ∃ u, s.handled? e = some (.opened u) ∧ text = "Document opened: " ++ u.text
  | .askConfiguration _ => True
  | .registerForChanges => True

theorem sent_refuse (id : Option Json) (why : Refusal) : (refuse id why).filterMap Effect.sent? = [] := by
  cases id <;> rfl

theorem prompt_shakeHands {m : Incoming} : ∀ x ∈ (s.shakeHands m).2.filterMap Effect.sent?, s.Prompt e x := by
  intro x hx
  unfold shakeHands at hx
  split at hx
  · cases hx
  · split at hx
    · rw [sent_refuse] at hx; cases hx
    · obtain rfl := List.mem_singleton.mp hx
      exact trivial

theorem prompt_shutDown {m : Incoming} : ∀ x ∈ (s.shutDown m).2.filterMap Effect.sent?, s.Prompt e x := by
  intro x hx
  unfold shutDown at hx
  split at hx
  · cases hx
  · rw [sent_refuse] at hx; cases hx
  · obtain rfl := List.mem_singleton.mp hx
    exact trivial

theorem prompt_confirm : ∀ x ∈ s.confirm.2.filterMap Effect.sent?, s.Prompt e x := by
  intro x hx
  unfold confirm at hx
  split at hx
  · obtain rfl | hx := List.mem_cons.mp hx
    · exact trivial
    · obtain rfl := List.mem_singleton.mp hx
      exact trivial
  · obtain rfl := List.mem_singleton.mp hx
    exact trivial

theorem prompt_receive {m : Incoming} (h : s.handled? (.message m) = none) :
    ∀ x ∈ (s.receive m).2.filterMap Effect.sent?, s.Prompt e x := by
  have hr := reception h
  generalize s.receive m = y at hr ⊢
  intro x hx
  cases hr with
  | ignored | exit => cases hx
  | refused why => rw [sent_refuse] at hx; cases hx
  | handshake => exact prompt_shakeHands x hx
  | handshakeDone => exact prompt_confirm x hx
  | shutDown => exact prompt_shutDown x hx
  | foldersChanged =>
      obtain rfl := List.mem_singleton.mp hx
      exact .inl rfl

theorem isProgress_of_handled {x : Bridge.Event} (h : s.handled? e = some x) (he : ∀ m, e ≠ .message m) :
    x.isProgress = true := by
  cases e with
  | message m => exact absurd rfl (he m)
  | configuration scope index a =>
      simp only [handled?] at h
      split at h
      · cases h
      · obtain ⟨p, -, rfl⟩ := Option.map_eq_some_iff.mp h
        rfl
  | registration index a => cases h
  | finished path index o =>
      obtain ⟨r, -, rfl⟩ := Option.map_eq_some_iff.mp h
      rfl
  | elapsed ms =>
      obtain rfl := Option.some.inj h
      rfl

theorem sent_handled {x : Bridge.Event} (h : s.handled? e = some x) (hl : s.lifecycle ≠ .exited) :
    s.sent e = (s.bridge.step x).2.filterMap Effect.sent? := by
  rw [sent, step_handled h, mute, if_neg hl]

theorem prompt_of_message (h : s.bridge.Settled) (hl : s.lifecycle ≠ .exited) (m : Incoming) :
    ∀ x ∈ s.sent (.message m), s.Prompt (.message m) x := by
  intro x hx
  cases hy : s.handled? (.message m) with
  | none =>
      have hs : s.step (.message m) = s.receive m := by simp only [step, hl, if_false]
      rw [sent, hs] at hx
      exact prompt_receive hy x hx
  | some y =>
      rw [sent_handled hy hl] at hx
      obtain ⟨w, rfl⟩ | ⟨u, rfl, rfl⟩ := Bridge.sent_prepared h (isProgress_of_message hy) x hx
      · exact trivial
      · exact .inr ⟨u, hy, rfl⟩

theorem sent_unhandled (h : s.handled? e = none) (he : ∀ m, e ≠ .message m) : s.sent e = [] := by
  unfold sent
  cases e with
  | message m => exact absurd rfl (he m)
  | configuration scope index a =>
      simp only [step]
      cases hp : (s.waitingPulls scope)[index]? with
      | none => rfl
      | some p =>
          by_cases hl : s.lifecycle = .exited
          · simp only [hl, if_true]; rfl
          · simp [handled?, hl, hp] at h
  | registration index a =>
      simp only [step]
      split
      · split <;> rfl
      · rfl
  | finished path index o =>
      cases hr : (s.bridge.validator.waiting path)[index]? with
      | none => simp only [step, hr]; rfl
      | some r => simp [handled?, hr] at h
  | elapsed ms => cases h

/-- A step that handles no message of the editor tells the ends of validations and nothing else. -/
theorem sent_eq (h : s.bridge.Settled) (hl : s.lifecycle ≠ .exited) (he : ∀ m, e ≠ .message m) :
    s.sent e = (s.pending e).flatMap Job.told := by
  cases hx : s.handled? e with
  | some x =>
      rw [sent_handled hx hl, pending_handled hx]
      exact Bridge.sent_progress h (isProgress_of_handled hx he)
  | none =>
      rw [sent_unhandled hx he, pending_unhandled hx]
      exact (List.flatMap_eq_nil_iff.mpr h.told_eq_nil).symm

theorem exited_step (h : s.lifecycle = .exited) (e : Event) : (s.step e).1.lifecycle = .exited := by
  cases e with
  | message m => simp only [step, h, if_true]
  | configuration scope index a =>
      simp only [step, h, if_true]
      split
      · exact h
      · exact h
  | registration index a =>
      simp only [step, h, if_true]
      split
      · rfl
      · exact h
  | finished path index o =>
      simp only [step]
      split
      · exact h
      · exact h
  | elapsed ms => exact h

theorem exited_after (h : s.lifecycle = .exited) (es : List Event) : (s.after es).lifecycle = .exited := by
  induction es generalizing s with
  | nil => exact h
  | cons e es ih => exact ih (exited_step h e)

theorem not_exited_before {before later : List Event} (h : (after {} (before ++ later)).lifecycle ≠ .exited) :
    (after {} before).lifecycle ≠ .exited := by
  intro hb
  apply h
  rw [after_append]
  exact exited_after hb later

/-- A run is completed with its output, and the lookup of its validation has returned its settings. -/
structure Ready (es : List Event) (a : Account) : Prop where
  completed : Ended es a.run a.output (.completed (.ofOutput a.output))
  returned : Returned es a.run.validation a.settings

/-- The last event brings what was missing of the two. -/
def Concludes (es : List Event) (e : Event) (a : Account) : Prop := Ready (es ++ [e]) a ∧ ¬ Ready es a

namespace Ready

variable {a c : Account}

theorem append (h : Ready es a) (later : List Event) : Ready (es ++ later) a :=
  ⟨h.completed.append later, h.returned.append later⟩

theorem eq (ha : Ready es a) (hc : Ready es c) (hv : a.run.validation = c.run.validation) : a = c := by
  have hr := ha.returned
  rw [hv] at hr
  have hs : a.settings = c.settings := hr.eq hc.returned
  obtain ⟨hrun, ho⟩ := ha.completed.eq hc.completed hv
  cases a
  cases c
  cases hrun
  cases ho
  cases hs
  rfl

theorem isOver (h : Ready es a) : Over es a.run.validation := ⟨⟨_, h.returned⟩, _, h.completed.judged⟩

/-- What is ready once its validation has all that it waits for was ready by then. -/
theorem of_over {later : List Event} (h : Ready (es ++ later) a) (ho : Over es a.run.validation) : Ready es a := by
  obtain ⟨⟨v, hv⟩, outcome, ho⟩ := ho
  obtain rfl : v = a.settings := (hv.append later).eq h.returned
  obtain rfl : outcome = .completed (.ofOutput a.output) := (ho.append later).eq h.completed.judged
  obtain ⟨r, o, he, hid, -⟩ := ended_of_judged ho
  obtain ⟨rfl, rfl⟩ := (he.append later).eq h.completed hid
  exact ⟨he, hv⟩

theorem pending_eq {t : Job} (h : Ready (es ++ [e]) a) (ht : t ∈ (after {} es).pending e)
    (hid : a.run.validation = t.id) :
    t = ⟨t.id, a.run.uri, some a.settings, some (.completed (.ofOutput a.output))⟩ := by
  have hr := h.returned
  have hj := h.completed.judged
  rw [hid] at hr hj
  have hs : t.settings = some a.settings := (Aspect.held_pending (A := lookups) ht _).mpr hr
  have ho : t.outcome = some (.completed (.ofOutput a.output)) := (Aspect.held_pending (A := outcomes) ht _).mpr hj
  obtain ⟨x, hx, hn, hu⟩ := begun_pending ht
  obtain ⟨y, hy, hyn, hyu⟩ := h.completed.begun
  obtain rfl : x = y := hx.eq hy (hn.trans (hid.symm.trans hyn.symm))
  rw [← hs, ← ho, ← hyu, hu]

end Ready

theorem told_pending {t : Job} (ht : t ∈ (after {} es).pending e) :
    (∃ a, Ready (es ++ [e]) a ∧ a.run.validation = t.id ∧ t.told = a.messages) ∨
    t.told = [] ∧ ∀ a, Ready (es ++ [e]) a → a.run.validation ≠ t.id := by
  by_cases h : ∃ a, Ready (es ++ [e]) a ∧ a.run.validation = t.id
  · obtain ⟨a, ha, hid⟩ := h
    refine .inl ⟨a, ha, hid, ?_⟩
    rw [ha.pending_eq ht hid]
    exact Bridge.told_account a t.id
  · refine .inr ⟨?_, fun a ha hid => h ⟨a, ha, hid⟩⟩
    apply Bridge.told_eq_nil
    intro v report hs ho
    have hr : Returned (es ++ [e]) t.id v := (Aspect.held_pending (A := lookups) ht v).mp hs
    have hj : Judged (es ++ [e]) t.id (.completed report) := (Aspect.held_pending (A := outcomes) ht _).mp ho
    obtain ⟨r, o, he, hid, -⟩ := ended_of_judged hj
    rw [← hid] at hr
    exact h ⟨⟨r, o, v⟩, ⟨he, hr⟩, hid⟩

theorem concludes_iff {a : Account} : Concludes es e a ↔
    Ready (es ++ [e]) a ∧ ∃ t ∈ (after {} es).pending e, t.id = a.run.validation := by
  constructor
  · rintro ⟨hr, hn⟩
    obtain ⟨x, hx, hid, -⟩ := hr.completed.begun
    rw [← hid]
    refine ⟨hr, (pending_or_over hx).resolve_right ?_⟩
    intro ho
    rw [hid] at ho
    exact hn (hr.of_over ho)
  · rintro ⟨hr, t, ht, hid⟩
    refine ⟨hr, fun hb => ?_⟩
    obtain ht | ht := List.mem_append.mp ht
    · -- it would have ended before
      obtain ⟨old, hold, rfl⟩ := List.mem_map.mp ht
      have hid : old.id = a.run.validation := hid
      have ho := hb.isOver
      rw [← hid] at ho
      exact ho.notMem hold
    · obtain ⟨x, hx, rfl⟩ := List.mem_map.mp ht
      have hid : x.number = a.run.validation := hid
      have := Aspect.Given.id_lt hb.returned
      have := (number_bounds hx).1
      omega

theorem exists_accounts {P : Account → Prop}
    (heq : ∀ a c, P a → P c → a.run.validation = c.run.validation → a = c) (ts : List Job)
    (h : ∀ t ∈ ts, (∃ a, P a ∧ a.run.validation = t.id ∧ t.told = a.messages) ∨
      t.told = [] ∧ ∀ a, P a → a.run.validation ≠ t.id) :
    ∃ accounts : List Account, ts.flatMap Job.told = accounts.flatMap Account.messages ∧
      (accounts.map (·.run.validation)).Sublist (ts.map Job.id) ∧
      ∀ a, a ∈ accounts ↔ P a ∧ ∃ t ∈ ts, t.id = a.run.validation := by
  induction ts with
  | nil => exact ⟨[], rfl, .refl [], by simp⟩
  | cons t ts ih =>
      obtain ⟨ht, hts⟩ := List.forall_mem_cons.mp h
      obtain ⟨accounts, hm, hs, ha⟩ := ih hts
      obtain ⟨a, hp, hid, hmt⟩ | ⟨hn, hno⟩ := ht
      · refine ⟨a :: accounts, ?_, ?_, ?_⟩
        · rw [List.flatMap_cons, List.flatMap_cons, hmt, hm]
        · rw [List.map_cons, List.map_cons, hid]
          exact hs.cons_cons t.id
        · intro c
          rw [List.mem_cons, ha, List.exists_mem_cons_iff]
          constructor
          · rintro (rfl | ⟨hc, hts⟩)
            · exact ⟨hp, .inl hid.symm⟩
            · exact ⟨hc, .inr hts⟩
          · rintro ⟨hc, hct | hts⟩
            · exact .inl (heq c a hc hp (hct.symm.trans hid.symm))
            · exact .inr ⟨hc, hts⟩
      · refine ⟨accounts, ?_, hs.cons t.id, ?_⟩
        · rw [List.flatMap_cons, hn, hm]; rfl
        · intro c
          rw [ha, List.exists_mem_cons_iff]
          constructor
          · rintro ⟨hc, hts⟩
            exact ⟨hc, .inr hts⟩
          · rintro ⟨hc, hct | hts⟩
            · exact absurd hct.symm (hno c hc)
            · exact ⟨hc, hts⟩

theorem sent_accounts (hl : (after {} es).lifecycle ≠ .exited) (he : ∀ m, e ≠ .message m) :
    ∃ accounts : List Account, (after {} es).sent e = accounts.flatMap Account.messages ∧
      (accounts.map (·.run.validation)).Nodup ∧ ∀ a, a ∈ accounts ↔ Concludes es e a := by
  rw [sent_eq (coherent_after es).settled hl he]
  obtain ⟨accounts, hm, hs, ha⟩ := exists_accounts (P := Ready (es ++ [e])) (fun a c => Ready.eq)
    ((after {} es).pending e) fun t => told_pending
  refine ⟨accounts, hm, (nodup_pending es e).sublist hs, fun a => ?_⟩
  rw [ha, concludes_iff]

theorem not_concludes_message {m : Incoming} {a : Account} : ¬ Concludes es (.message m) a := by
  intro h
  obtain ⟨hr, t, ht, hid⟩ := concludes_iff.mp h
  have he := hr.pending_eq ht hid.symm
  have hq : ∀ id, (after {} es).found? id (.message m) = none ∧ (after {} es).verdict? id (.message m) = none := by
    intro id
    unfold found? verdict?
    cases hx : (after {} es).handled? (.message m) with
    | none => exact ⟨rfl, rfl⟩
    | some x => exact Bridge.found?_of_prepared (isProgress_of_message hx) id
  obtain ht | ht := List.mem_append.mp ht
  · obtain ⟨old, hold, rfl⟩ := List.mem_map.mp ht
    have hp : (after {} es).progress (.message m) old = old := by
      simp [progress, (hq old.id).1, (hq old.id).2]
    rw [hp] at he
    have hc := (coherent_after es).settled old hold
    rw [he] at hc
    cases hc
  · obtain ⟨x, hx, rfl⟩ := List.mem_map.mp ht
    exact start_not_completed x _ (congrArg Job.outcome he)

theorem exists_concludes {a : Account} (h : Ready es a) :
    ∃ before e later, es = before ++ e :: later ∧ Concludes before e a := by
  induction es using List.reverseRecOn with
  | nil => exact absurd h.completed Once.not_nil
  | append_singleton es e ih =>
      by_cases hb : Ready es a
      · obtain ⟨before, x, later, rfl, hc⟩ := ih hb
        exact ⟨before, x, later ++ [e], by simp, hc⟩
      · exact ⟨es, e, [], rfl, h, hb⟩

theorem append_cons_cases {before later before' later' : List Event} {e' : Event}
    (h : before ++ e :: later = before' ++ e' :: later') : before = before' ∨
      (∃ rest, before' = before ++ [e] ++ rest) ∨ ∃ rest, before = before' ++ [e'] ++ rest := by
  obtain ⟨rest, hb, hl⟩ | ⟨rest, hb, hl⟩ := List.append_eq_append_iff.mp h
  · cases rest with
    | nil => exact .inl (by simpa using hb.symm)
    | cons x rest =>
        obtain ⟨rfl, -⟩ := List.cons.inj hl
        exact .inr (.inl ⟨rest, by simpa using hb⟩)
  · cases rest with
    | nil => exact .inl (by simpa using hb)
    | cons x rest =>
        obtain ⟨rfl, -⟩ := List.cons.inj hl
        exact .inr (.inr ⟨rest, by simpa using hb⟩)

theorem Concludes.eq {before later before' later' : List Event} {e' : Event} {a a' : Account}
    (h : Concludes before e a) (h' : Concludes before' e' a') (hv : a.run.validation = a'.run.validation)
    (he : before ++ e :: later = before' ++ e' :: later') : before = before' ∧ a = a' := by
  have ha : a = a' := by
    have hr := h.1.append later
    have hr' := h'.1.append later'
    rw [List.append_assoc, List.singleton_append] at hr hr'
    rw [he] at hr
    exact hr.eq hr' hv
  subst a'
  refine ⟨?_, rfl⟩
  obtain hb | ⟨rest, rfl⟩ | ⟨rest, rfl⟩ := append_cons_cases he
  · exact hb
  · exact absurd (h.1.append rest) h'.2
  · exact absurd (h'.1.append rest) h.2

theorem Concludes.sent {a : Account} (h : Concludes es e a) (hl : (after {} es).lifecycle ≠ .exited) :
    a.messages <:+: (after {} es).sent e := by
  have he : ∀ m, e ≠ .message m := by
    rintro m rfl
    exact not_concludes_message h
  obtain ⟨accounts, hs, -, ha⟩ := sent_accounts hl he
  obtain ⟨front, back, rfl⟩ := List.append_of_mem ((ha a).mpr h)
  exact ⟨front.flatMap Account.messages, back.flatMap Account.messages, by rw [hs]; simp⟩

theorem Ready.told {a : Account} (h : Ready es a) (hl : (after {} es).lifecycle ≠ .exited) :
    ∃ before e later, es = before ++ e :: later ∧ Concludes before e a ∧ a.messages <:+: (after {} before).sent e := by
  obtain ⟨before, e, later, rfl, hc⟩ := exists_concludes h
  exact ⟨before, e, later, rfl, hc, hc.sent (not_exited_before hl)⟩

theorem Ended.launched {r : Run} {o : Tool.Output} {outcome : Outcome} (h : Ended es r o outcome) :
    r ∈ launches {} es := by
  obtain ⟨before, e, later, rfl, hs, -⟩ := h
  rw [launches_append]
  exact List.mem_append_left _ (launched_of_mem_runs before r hs.mem_runs)

/-- In a session that goes on, failures, complaints and diagnostics are told of completed runs only, of each of them
once and under the settings of its own validation. The step of a message of the editor tells nothing of the kind. -/
theorem completed_runs_told_once (es : List Event) (hl : (after {} es).lifecycle ≠ .exited) :
    (∀ before e later, es = before ++ e :: later →
      (∀ m, e = .message m →
        (∀ x ∈ (after {} before).sent e, (after {} before).Prompt e x) ∧ ∀ a, ¬ Concludes before e a) ∧
      ((∀ m, e ≠ .message m) → ∃ accounts : List Account,
        (after {} before).sent e = accounts.flatMap Account.messages ∧
        (accounts.map (·.run.validation)).Nodup ∧ ∀ a, a ∈ accounts ↔ Concludes before e a)) ∧
    (∀ a, Ready es a → a.run ∈ launches {} es ∧ ∃ before e later,
      es = before ++ e :: later ∧ Concludes before e a ∧ a.messages <:+: (after {} before).sent e) ∧
    (∀ before e later before' e' later' a a', es = before ++ e :: later → es = before' ++ e' :: later' →
      Concludes before e a → Concludes before' e' a' → a.run.validation = a'.run.validation →
        before = before' ∧ a = a') ∧
    (∀ r o outcome, Ended es r o outcome → (∀ report, outcome ≠ .completed report) →
      ∀ before e later, es = before ++ e :: later → ∀ a, Concludes before e a →
        a.run.validation ≠ r.validation) := by
  refine ⟨?_, ?_, ?_, ?_⟩
  · rintro before e later rfl
    have hb := not_exited_before hl
    refine ⟨?_, sent_accounts hb⟩
    rintro m rfl
    exact ⟨prompt_of_message (coherent_after before).settled hb m, fun a => not_concludes_message⟩
  · intro a ha
    exact ⟨ha.completed.launched, ha.told hl⟩
  · rintro before e later before' e' later' a a' he he' hc hc' hv
    exact hc.eq hc' hv (he.symm.trans he')
  · rintro r o outcome hr hn before e later rfl a hc hv
    have ha := hc.1.append later
    rw [List.append_assoc, List.singleton_append] at ha
    have hj := ha.completed.judged
    rw [hv] at hj
    exact hn _ (hr.judged.eq hj)

/-- Two validations wait for one answer. The run of the first is superseded by the second, which fails with complaints
and more findings than are wanted. -/
theorem completed_runs_told_once_of_failure :
    let u : Uri := { scheme := "file", authority := some {}, path := .segments ["a.sql"] }
    let o : Tool.Output := { stdout := "R1:1:x\nR1:2:y\n", stderr := " why \n", failure := some .terminated }
    let limit : Json := .obj [("maxNumberOfProblems", .int 1)]
    let es := [greeting true, about "textDocument/didOpen" u.text, about "textDocument/didSave" u.text,
      .finished (bytesOf "/a.sql") 0 { stdout := "R1:3:z\n" }, .finished (bytesOf "/a.sql") 0 o,
      .configuration u.text 0 (.result (.arr [limit]))]
    let a : Account := ⟨⟨1, u, bytesOf "/a.sql", 2⟩, o, { maxProblems := 1 }⟩
    (after {} es).lifecycle ≠ .exited ∧ Ready es a ∧
    (∃ before e later, es = before ++ e :: later ∧ Concludes before e a ∧
      a.messages <:+: (after {} before).sent e) ∧
    a.messages = [.logMessage .log "Analysis tool was terminated by a signal", .logMessage .log "why",
      .publish u [⟨⟨⟨0, 1⟩, ⟨0, 1⟩⟩, .warning, "analysis-tool", "x"⟩]] ∧
    ∀ before e later, es = before ++ e :: later → ∀ c, Concludes before e c → c.run.validation ≠ 0 := by
  intro u o limit es a
  have hl : (after {} es).lifecycle ≠ .exited := by decide +kernel
  have hr : Ready es a := by
    constructor
    · exact ⟨es.take 4, es[4], es.drop 5, rfl, ⟨bytesOf "/a.sql", 0, rfl, by decide +kernel⟩, by decide +kernel⟩
    · exact ⟨es.take 5, es[5], es.drop 6, rfl, .inl (by decide +kernel)⟩
  have hs : Ended es ⟨0, u, bytesOf "/a.sql", 1⟩ { stdout := "R1:3:z\n" } .superseded :=
    ⟨es.take 3, es[3], es.drop 4, rfl, ⟨bytesOf "/a.sql", 0, rfl, by decide +kernel⟩, by decide +kernel⟩
  have hm := completed_runs_told_once es hl
  exact ⟨hl, hr, (hm.2.1 a hr).2, by decide +kernel, hm.2.2.2 _ _ _ hs (by simp)⟩

end Session

end LintBridge
