import LintBridge.Table
import LintBridge.Uri.FilePath
import LintBridge.Validation.Report

namespace LintBridge.Validation

structure Run where
  validation : Nat
  uri : Uri
  path : Bytes
  ticket : Nat
  deriving DecidableEq, Repr

structure Validator where
  nextTicket : Nat := 1
  /-- The newest ticket of every open document; zero before its first run. -/
  latest : Table Uri Nat := []
  /-- The runs that have not ended, oldest first. -/
  runs : List Run := []
  deriving DecidableEq, Repr

inductive Start where
  | ended (o : Outcome)
  | running (r : Run)
  deriving DecidableEq, Repr

namespace Start

def outcome? : Start → Option Outcome
  | .ended o => some o
  | .running _ => none

def run? : Start → Option Run
  | .ended _ => none
  | .running r => some r

end Start

namespace Validator

/-- Admits a document; one that is already open keeps its ticket. -/
def track (v : Validator) (u : Uri) : Validator :=
  match v.latest.get? u with
  | some _ => v
  | none => { v with latest := v.latest.set u 0 }

def forget (v : Validator) (u : Uri) : Validator := { v with latest := v.latest.erase u }

/-- Begins a validation: a local file costs a ticket, and an open one is given to the tool. -/
def start (v : Validator) (validation : Nat) (u : Uri) : Validator × Start :=
  match u.filePath? with
  | none => (v, .ended .unsupported)
  | some path =>
      let ticket := v.nextTicket
      let v := { v with nextTicket := ticket + 1 }
      match v.latest.get? u with
      | none => (v, .ended .closed)
      | some _ =>
          let run : Run := ⟨validation, u, path, ticket⟩
          ({ v with latest := v.latest.set u ticket, runs := v.runs ++ [run] }, .running run)

/-- The result of a run is kept only if the document is still open when it ends and has given out no newer ticket
since. -/
def judge (v : Validator) (r : Run) (o : Tool.Output) : Outcome :=
  match v.latest.get? r.uri with
  | none => .closed
  | some ticket => if ticket = r.ticket then .completed (.ofOutput o) else .superseded

def finish (v : Validator) (r : Run) (o : Tool.Output) : Validator × Outcome :=
  ({ v with runs := v.runs.filter (·.validation ≠ r.validation) }, v.judge r o)

/-- The runs on a path that have not ended, oldest first. -/
def waiting (v : Validator) (path : Bytes) : List Run := v.runs.filter (·.path = path)

/-- What can be asked of a validator; a run is named by its path and its place among the waiting
runs on that path. -/
inductive Event where
  | track (u : Uri)
  | forget (u : Uri)
  | validate (u : Uri)
  | finish (path : Bytes) (index : Nat) (o : Tool.Output)

structure Effects where
  started : List Run := []
  outcomes : List (Nat × Outcome) := []
  deriving DecidableEq, Repr

end Validator

structure Bench where
  validator : Validator := {}
  validations : Nat := 0

namespace Bench

open Validator

def step (b : Bench) : Event → Bench × Effects
  | .track u => ({ b with validator := b.validator.track u }, {})
  | .forget u => ({ b with validator := b.validator.forget u }, {})
  | .validate u =>
      let id := b.validations
      let (v, s) := b.validator.start id u
      (⟨v, id + 1⟩, { started := s.run?.toList, outcomes := s.outcome?.toList.map (id, ·) })
  | .finish path index o =>
      match (b.validator.waiting path)[index]? with
      | none => (b, {})
      | some r =>
          let (v, outcome) := b.validator.finish r o
          ({ b with validator := v }, { outcomes := [(r.validation, outcome)] })

end Bench

end LintBridge.Validation
