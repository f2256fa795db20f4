import LintBridge.Settings
import LintBridge.Table
import LintBridge.Uri.Basic

namespace LintBridge.Settings

inductive PullError where
  | request (text : String)
  | missing (u : Uri)
  deriving DecidableEq, Repr

def PullError.message : PullError → String
  | .request text => "Configuration request failed: " ++ text
  | .missing u => "Client returned no configuration for " ++ u.text

abbrev Reply := Except PullError Json

/-- A request that failed stands for the defaults. -/
def ofReply : Reply → Settings
  | .ok v => ofValue v
  | .error _ => {}

structure Pull where
  id : Nat
  uri : Uri
  deriving DecidableEq, Repr

structure Waiter where
  lookup : Nat
  pull : Nat
  deadline : Nat
  deriving DecidableEq, Repr

/-- An editor that can be asked is asked once for each open document, and the request is kept until the configuration
changes; otherwise one value, pushed by the editor, holds for all. -/
structure Cache where
  pulls : Bool := false
  /-- How long a lookup waits, in milliseconds. -/
  patience : Nat := 2000
  pushed : Settings := {}
  opened : List Uri := []
  /-- The request that stands for the settings of an open document. -/
  stored : Table Uri Nat := []
  answers : Table Nat Settings := []
  nextPull : Nat := 0
  unanswered : List Pull := []
  waiters : List Waiter := []
  deriving DecidableEq, Repr

structure Lookup where
  issued : Option Pull := none
  found : Option Settings := none
  deriving DecidableEq, Repr

namespace Cache

def isOpen (c : Cache) (u : Uri) : Bool := u ∈ c.opened

def openDocument (c : Cache) (u : Uri) : Cache :=
  if c.isOpen u then c else { c with opened := c.opened ++ [u] }

def closeDocument (c : Cache) (u : Uri) : Cache :=
  { c with opened := c.opened.filter (· ≠ u), stored := c.stored.erase u }

/-- A changed configuration drops all requests, or replaces the pushed value. -/
def change (c : Cache) (payload : Json) : Cache :=
  if c.pulls then { c with stored := [] } else { c with pushed := ofChange payload }

def issue (c : Cache) (u : Uri) : Cache × Pull :=
  let pull : Pull := ⟨c.nextPull, u⟩
  ({ c with nextPull := c.nextPull + 1, unanswered := c.unanswered ++ [pull] }, pull)

/-- The request that a lookup is bound to: the stored one of an open document, or a new one, which
is stored if the document is open. -/
def bind (c : Cache) (u : Uri) : Cache × Nat × Option Pull :=
  match (if c.isOpen u then c.stored.get? u else none) with
  | some id => (c, id, none)
  | none =>
      let (c, pull) := c.issue u
      let c := if c.isOpen u then { c with stored := c.stored.set u pull.id } else c
      (c, pull.id, some pull)

def request? (c : Cache) (u : Uri) : Option Nat := if c.pulls then some (c.bind u).2.1 else none

def get (c : Cache) (now lookup : Nat) (u : Uri) : Cache × Lookup :=
  if c.pulls then
    let (c, id, issued) := c.bind u
    match c.answers.get? id with
    | some s => (c, ⟨issued, some s⟩)
    | none =>
        if c.patience = 0 then (c, ⟨issued, some {}⟩)
        else
          ({ c with waiters := c.waiters ++ [⟨lookup, id, now + c.patience⟩] }, ⟨issued, none⟩)
  else (c, ⟨none, some c.pushed⟩)

/-- An answer settles every lookup that waits for the request, oldest first. -/
def answer (c : Cache) (pull : Nat) (r : Reply) : Cache × List (Nat × Settings) :=
  let s := ofReply r
  ({ c with
      answers := c.answers.set pull s
      unanswered := c.unanswered.filter (·.id ≠ pull)
      waiters := c.waiters.filter (·.pull ≠ pull) },
    (c.waiters.filter (·.pull = pull)).map fun w => (w.lookup, s))

def expire (c : Cache) (now : Nat) : Cache × List (Nat × Settings) :=
  ({ c with waiters := c.waiters.filter (now < ·.deadline) },
    (c.waiters.filter (·.deadline ≤ now)).map fun w => (w.lookup, {}))

/-- The unanswered requests for a document, oldest first. -/
def waiting (c : Cache) (u : Uri) : List Pull := c.unanswered.filter (·.uri = u)

/-- What can be asked of a cache; a request is named by its document and its place among the
unanswered requests for it. -/
inductive Event where
  | setPulls (b : Bool)
  | openDocument (u : Uri)
  | closeDocument (u : Uri)
  | change (payload : Json)
  | get (u : Uri)
  | reply (u : Uri) (index : Nat) (r : Reply)
  | advance (ms : Nat)

structure Effects where
  issued : List Pull := []
  resolved : List (Nat × Settings) := []
  deriving DecidableEq, Repr

end Cache

structure Desk where
  cache : Cache := {}
  now : Nat := 0
  lookups : Nat := 0

namespace Desk

open Cache

def step (d : Desk) : Event → Desk × Effects
  | .setPulls b => ({ d with cache := { d.cache with pulls := b } }, {})
  | .openDocument u => ({ d with cache := d.cache.openDocument u }, {})
  | .closeDocument u => ({ d with cache := d.cache.closeDocument u }, {})
  | .change payload => ({ d with cache := d.cache.change payload }, {})
  | .get u =>
      let (c, l) := d.cache.get d.now d.lookups u
      ({ d with cache := c, lookups := d.lookups + 1 },
        { issued := l.issued.toList, resolved := l.found.toList.map (d.lookups, ·) })
  | .reply u index r =>
      match (d.cache.waiting u)[index]? with
      | none => (d, {})
      | some p =>
          let (c, resolved) := d.cache.answer p.id r
          ({ d with cache := c }, { resolved := resolved })
  | .advance ms =>
      let now := d.now + ms
      let (c, resolved) := d.cache.expire now
      ({ d with cache := c, now := now }, { resolved := resolved })

end Desk

end LintBridge.Settings
