import Cutover.Form
import Cutover.Trace

/-!
# Tracers

A tracer decides what becomes of spans: nothing, or they are handed on to whatever collects them, or
they are kept for inspection.

* `Tracer.create`: the tracer of a client that traces or does not;
* `Tracer.isEnabled`, `Tracer.givesSpan`: spans are made; whoever starts one gets it in hand;
* `Tracer.recorded`: the spans a recording tracer has kept.
-/

namespace Cutover

/-- What becomes of spans. -/
inductive Tracer where
  | silent
  | exporting
  | recording
  deriving DecidableEq, Repr

/-- A span that a tracer is asked for; its kind or its attributes may be left open. -/
structure SpanRequest where
  name : Value
  kind : Option SpanKind := none
  attributes : Value := .null

namespace Tracer

/-- The tracer of a client that traces or does not. -/
def create (enabled : Bool) : Tracer := if enabled then exporting else silent

/-- Spans are made. -/
def isEnabled (t : Tracer) : Bool := t ≠ silent

/-- Whoever starts a span gets it in hand. -/
def givesSpan (t : Tracer) : Bool := t = exporting

/-- The spans a recording tracer keeps: names and attributes in the order they were asked for. -/
def recorded (requests : List SpanRequest) : List (Value × Value) :=
  requests.map fun r => (r.name, r.attributes)

/-- The span a form asks for. -/
def requestOfForm (form : Members) : Except Fault SpanRequest := do
  let kind ← match form.get? "kind" with
    | some v => some <$> Vocabulary.read v
    | none => pure none
  return { name := form.getD "name" .null, kind, attributes := form.getD "attributes" .null }

end Tracer

end Cutover
