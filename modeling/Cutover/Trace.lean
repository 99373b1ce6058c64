import Cutover.Vocabulary

/-!
# Traces

What the client does is recorded as spans. A span is recorded when it ends, so inner spans come
before the ones around them.

* `Span`: name, kind and attributes of something done;
* `Trace.enter`, `Trace.tag`, `Trace.leave`: a span begins, gets an attribute and ends.
-/

namespace Cutover

/-- Whether a span is work of the client itself or a call it makes. -/
inductive SpanKind where
  | internal
  | client
  deriving DecidableEq, Repr

instance : Vocabulary SpanKind where
  noun := "SpanKindEnum"
  all := [.internal, .client]
  word
    | .internal => "internal"
    | .client => "client"
  name
    | .internal => "INTERNAL"
    | .client => "CLIENT"

/-- Something done: its name, kind and attributes. -/
structure Span where
  name : String
  kind : SpanKind := .internal
  attributes : Members := []
  deriving Inhabited

/-- The spans that are open, each under a number of its own, and those that have ended. -/
structure Trace where
  nextId : Nat := 0
  opened : List (Nat × Span) := []
  ended : List Span := []
  deriving Inhabited

namespace Trace

/-- Begins a span and gives its number. -/
def enter (t : Trace) (s : Span) : Nat × Trace :=
  (t.nextId, { t with nextId := t.nextId + 1, opened := t.opened ++ [(t.nextId, s)] })

/-- Gives an open span an attribute. -/
def tag (t : Trace) (id : Nat) (key : String) (value : Value) : Trace :=
  { t with
    opened := t.opened.map fun (n, s) =>
      if n = id then (n, { s with attributes := put s.attributes key value }) else (n, s) }

/-- Ends a span. -/
def leave (t : Trace) (id : Nat) : Trace :=
  match t.opened.lookup id with
  | some s => { t with opened := t.opened.filter (·.1 != id), ended := t.ended ++ [s] }
  | none => t

end Trace

/-! ## The attributes that spans carry -/

namespace Attribute

/-- The requested mode. -/
def mode : String := "migrateflow.migration.mode"

/-- The requested transfer. -/
def transfer : String := "migrateflow.migration.type"

/-- The run has several shards. -/
def sharded : String := "migrateflow.migration.sharded"

/-- The number of shards of a request. -/
def shardCount : String := "migrateflow.shard.count"

/-- The phase before a status is applied. -/
def phase : String := "migrateflow.phase"

/-- The phase after a status was applied. -/
def nextPhase : String := "migrateflow.phase.next"

/-- The signal of a status. -/
def signal : String := "migrateflow.signal"

/-- The progress of a status. -/
def progress : String := "migrateflow.progress"

/-- The seconds between two polls. -/
def pollInterval : String := "migrateflow.poll.interval"

/-- The number of polls so far. -/
def pollCount : String := "migrateflow.poll.count"

/-- The number of resources. -/
def resourceCount : String := "migrateflow.resource.count"

/-- The kind of store. -/
def store : String := "migrateflow.state.store"

/-- The method of a call. -/
def httpMethod : String := "http.request.method"

/-- The route of a call. -/
def httpRoute : String := "http.route"

/-- The status of an answer. -/
def httpStatus : String := "http.response.status_code"

/-- The class of a fault. -/
def errorType : String := "error.type"

end Attribute

end Cutover
