import Cutover.Fault

/-!
# Forms

A form gives values by name. A record is made of a form by reading every field, which has a default
or is required; names that are no field are refused.

* `Form.only`: refuses unknown names;
* `Form.required`: a field that has to be given;
* `Form.asText`, `Form.asQuantity`, `Form.asTexts`: values that have to be of a type.
-/

namespace Cutover.Form

/-- A form of known names only. -/
def only (names : List String) (form : Members) : Except Fault Unit :=
  if form.all fun m => names.contains m.1 then .ok () else .error .illTyped

/-- A field that has to be given. -/
def required (form : Members) (name : String) : Except Fault Value :=
  match form.get? name with
  | some v => .ok v
  | none => .error .illTyped

/-- A text field that may be left out. -/
def textOr (form : Members) (name : String) (default : String := "") : Value :=
  form.getD name (.text default)

/-- A value that has to be a text. -/
def asText : Value → Except Fault String
  | .text s => .ok s
  | _ => .error .illTyped

/-- A value that has to be a number. -/
def asQuantity (v : Value) : Except Fault Quantity :=
  match v.quantity? with
  | some q => .ok q
  | none => .error .illTyped

/-- The texts a value holds: the items of a list, the names of an object, the characters of a text. -/
def asTexts : Value → Except Fault (List String)
  | .list items => items.mapM asText
  | .object ms => .ok (Members.names ms)
  | .text s => .ok (s.toList.map fun c => String.ofList [c])
  | _ => .error .illTyped

end Cutover.Form
