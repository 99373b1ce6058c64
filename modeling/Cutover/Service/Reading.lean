import Cutover.Service.Lenient

/-!
# Reading documents field by field

A document is read field by field, and everything that does not fit is noted, not only the first
thing.

* `Reading`: what was read, or all issues; readings are put together by `<*>`;
* `Reading.field`: a field, found under the name of the service or else under its plain name;
* `Reading.record`: a document that has to be an object.
-/

namespace Cutover

/-- What was read, or everything that does not fit. -/
inductive Reading (α : Type) where
  | fits (value : α)
  | misfits (issues : List Issue)

namespace Reading

variable {α β : Type}

/-- Two readings together, with the issues of both in order. -/
def apply (f : Reading (α → β)) (x : Reading α) : Reading β :=
  match f, x with
  | fits g, fits a => fits (g a)
  | fits _, misfits i => misfits i
  | misfits i, fits _ => misfits i
  | misfits i, misfits j => misfits (i ++ j)

instance : Applicative Reading where
  pure := fits
  seq f x := apply f (x ())

/-- The value, or the issues. -/
def toExcept : Reading α → Except (List Issue) α
  | fits a => .ok a
  | misfits i => .error i

/-- The issues of a part stand below a step. -/
def under (step : Step) : Reading α → Reading α
  | fits a => fits a
  | misfits issues => misfits (issues.map fun i => { i with place := step :: i.place })

/-- One issue at the place itself. -/
def misfit (kind : IssueKind) : Reading α := misfits [⟨[], kind⟩]

/-- A reading of a single value. -/
def ofExcept : Except IssueKind α → Reading α
  | .ok a => fits a
  | .error kind => misfit kind

/-- All readings of a list together. -/
def all : List (Reading α) → Reading (List α)
  | [] => fits []
  | x :: rest => List.cons <$> x <*> all rest

/-- A name of a field: how the service spells it, and its plain spelling. -/
structure Name where
  spelled : String
  plain : String

/-- The value of a field and the name it stands under. -/
def find? (document : Members) (name : Name) : Option (String × Value) :=
  match document.get? name.spelled with
  | some v => some (name.spelled, v)
  | none => (document.get? name.plain).map fun v => (name.plain, v)

/-- A field, or what stands for it when it is missing. -/
def field (document : Members) (name : Name) (read : Value → Reading α) (default : α) : Reading α :=
  match find? document name with
  | some (found, v) => under (.member found) (read v)
  | none => fits default

/-- A field of a whole number. -/
def whole (document : Members) (name : Name) : Reading Int :=
  field document name (fun v => ofExcept (lenientWhole v)) 0

/-- A field of a truth value. -/
def flag (document : Members) (name : Name) : Reading Bool :=
  field document name (fun v => ofExcept (lenientFlag v)) false

/-- A field of text. -/
def text (document : Members) (name : Name) : Reading String :=
  field document name (fun v => ofExcept (lenientText v)) ""

/-- A document that has to be an object. -/
def record (read : Members → Reading α) : Value → Reading α
  | .object members => read members
  | _ => misfit .recordExpected

/-- Items of a list, each under its index. -/
def items (read : Value → Reading α) : Value → Reading (List α)
  | .list values => all (values.mapIdx fun i v => under (.item i) (read v))
  | _ => misfit .listExpected

/-- Members of a map, each under its name. -/
def members (read : Value → Reading α) : Value → Reading (List (String × α))
  | .object ms => all (ms.map fun (k, v) => (fun a => (k, a)) <$> under (.member k) (read v))
  | _ => misfit .mapExpected

end Reading

end Cutover
