import TypedQuery.Data.Sorted

/-!
Table invalidation. Writers notify a tracker of the tables they modified; a reader observes every
table its result depends on, and its observation is stale once one of them was notified.
-/

namespace TypedQuery

/-- How often each table was notified, in 64 bits; a table that is not listed never was. -/
abbrev Versions := List (String × UInt64)

namespace Versions

def version (versions : Versions) (table : String) : UInt64 :=
  (Sorted.find? table versions).getD 0

def notify (versions : Versions) (table : String) : Versions :=
  Sorted.alter table 0 (· + 1) versions

/-- The versions of some tables, in their order. -/
def seen (versions : Versions) (tables : List String) : List UInt64 := tables.map versions.version

end Versions

/-- Trackers and their clones are names for numbered histories: a clone shares the number. An
observation keeps the number of the history it watches. -/
structure Observation where
  history : Nat
  tables : List String
  seen : List UInt64
  deriving DecidableEq, Repr

/-- Histories of all trackers, with the names of trackers and observations in use. -/
structure Tracking where
  histories : List Versions
  trackers : List (String × Nat)
  observations : List (String × Observation)

namespace Tracking

/-- One tracker of the given name, and no observation. -/
def start (tracker : String) : Tracking := ⟨[[]], [(tracker, 0)], []⟩

def versions (s : Tracking) (history : Nat) : Versions := s.histories[history]?.getD []

/-- A tracker with a history of its own. -/
def create (s : Tracking) (tracker : String) : Tracking :=
  { s with
    histories := s.histories ++ [[]]
    trackers := (tracker, s.histories.length) :: s.trackers }

/-- A second name for the history of a tracker. -/
def clone (s : Tracking) (tracker copy : String) : Tracking :=
  match s.trackers.lookup tracker with
  | some history => { s with trackers := (copy, history) :: s.trackers }
  | none => s

/-- Record a modification of a table. -/
def notify (s : Tracking) (tracker table : String) : Tracking :=
  match s.trackers.lookup tracker with
  | some history => { s with histories := s.histories.modify history (·.notify table) }
  | none => s

/-- Observe some tables from now on, each once. -/
def observe (s : Tracking) (tracker observation : String) (tables : List String) : Tracking :=
  match s.trackers.lookup tracker with
  | some history =>
    let tables := Sorted.ofList tables
    let seen := (s.versions history).seen tables
    { s with observations := (observation, ⟨history, tables, seen⟩) :: s.observations }
  | none => s

/-- Observe a query: the tables named in its SQL and those its relation fields read. -/
def observeQuery (s : Tracking) (tracker observation : String) (primary related : List String) :
    Tracking :=
  s.observe tracker observation (primary ++ related)

def observation? (s : Tracking) (observation : String) : Option Observation :=
  s.observations.lookup observation

/-- Whether an observed table was modified since the last refresh. -/
def isStale (s : Tracking) (o : Observation) : Bool :=
  decide ((s.versions o.history).seen o.tables ≠ o.seen)

/-- Take the present versions as seen. -/
def refresh (s : Tracking) (observation : String) : Tracking :=
  match s.observation? observation with
  | some o =>
    let seen := (s.versions o.history).seen o.tables
    { s with observations := (observation, { o with seen }) :: s.observations }
  | none => s

end Tracking

end TypedQuery
