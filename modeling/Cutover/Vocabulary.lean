import Cutover.Value

/-!
# Closed vocabularies

Phases, modes, levels and the like are written outside as fixed words. A `Vocabulary` lists the
members of such a type and the word of each.

* `Vocabulary.all`, `Vocabulary.word`, `Vocabulary.name`: the members, what each is written as, and
  its name in capitals;
* `Vocabulary.find?`: the member a loosely typed value stands for.
-/

namespace Cutover

/-- A type whose members are written outside as fixed words. -/
class Vocabulary (α : Type) where
  /-- What the type is called when a word is refused. -/
  noun : String
  /-- The members in order. -/
  all : List α
  /-- What a member is written as. -/
  word : α → String
  /-- The name of a member in capitals. -/
  name : α → String

namespace Vocabulary

variable {α : Type} [Vocabulary α]

/-- The member written as `w`. -/
def ofWord? (w : String) : Option α := (all (α := α)).find? fun a => word a == w

/-- The member of this name. -/
def ofName? (n : String) : Option α := (all (α := α)).find? fun a => name a == n

/-- The member a loosely typed value stands for. -/
def find? : Value → Option α
  | .text w => ofWord? w
  | _ => none

/-- The word of a member as a value. -/
def toValue (a : α) : Value := .text (word a)

end Vocabulary

end Cutover
