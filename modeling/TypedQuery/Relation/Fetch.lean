import TypedQuery.Data.Sorted
import TypedQuery.Relation.Query

namespace TypedQuery

/-- No secondary query binds more parameters. -/
def maxBindParameters : Nat := 999

/-- Consecutive pieces of a list, all of the given size but perhaps the last. -/
def chunks {α : Type} (size : Nat) (xs : List α) : List (List α) :=
  if xs.isEmpty ∨ size = 0 then []
  else xs.take size :: chunks size (xs.drop size)
termination_by xs.length
decreasing_by
  rename_i h
  simp only [List.isEmpty_iff, not_or] at h
  have : 0 < xs.length := List.length_pos_iff.2 h.1
  simp only [List.length_drop]
  omega

namespace RelationQuery

/-- Run a step of a secondary query; its failures name the related table. -/
def located {α : Type} (q : RelationQuery) (step : Session α) : Session α :=
  ExceptT.adapt (.relation q.table) step

/-- The rows of earlier answers followed by those of a new one. An empty answer may come without
columns, so it gives way to earlier rows, and to it only earlier answers without rows do. -/
def joinAnswer (earlier : Option Snapshot) (answer : Snapshot) : Except DataError Snapshot :=
  match earlier with
  | none => .ok answer
  | some rows =>
    if answer.rows.isEmpty then .ok rows
    else if rows.rows.isEmpty then .ok answer
    else
      match (Snapshot.append answer).run rows with
      | (.ok (), joined) => .ok joined
      | (.error e, _) => .error e

/-- Query one chunk of keys and copy the answer. -/
def fetchChunk (q : RelationQuery) (db : Connection) (keys : List Value) : Session Snapshot := do
  let answer ← db.query (q.sql db keys.length) keys
  answer.copy.1

/-- The rows related to the given keys, in the order of the keys. Without keys nothing is
queried. -/
def fetch (q : RelationQuery) (db : Connection) (keys : List Key) : Session Snapshot := do
  let step (earlier : Option Snapshot) (chunk : List Value) : Session (Option Snapshot) :=
    q.located do return some (← joinAnswer earlier (← q.fetchChunk db chunk))
  let joined ← (chunks maxBindParameters (keys.map Key.toValue)).foldlM step none
  return joined.getD (Rows.ofRows [] [])

end RelationQuery

end TypedQuery
