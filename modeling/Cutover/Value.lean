import Cutover.Decimal.Numeral
import Cutover.Decimal.Quantity
import Cutover.Decimal.Shortest
import Cutover.Text.Quoted

/-!
# Loosely typed values

The values of documents and forms: null, truth values, whole numbers, floating-point numbers, texts,
lists and objects. An object keeps its members in order, each name once.

* `Value.text`: the value as text, a text standing for itself;
* `Value.shown`: the value as it is shown inside another one and in messages, texts quoted;
* `Value.isTruthy`: neither null nor empty nor zero;
* `Value.isFinite`: every number in the value is finite;
* `Value.same`: two values are equal, numbers of different kinds compared as numbers;
* `Members.get?`, `Members.put`: reading and replacing a member.
-/

namespace Cutover

/-- A loosely typed value. -/
inductive Value where
  | null
  | bool (b : Bool)
  | whole (n : Int)
  | real (x : Double)
  | text (s : String)
  | list (items : List Value)
  | object (members : List (String × Value))
  deriving Inhabited, Repr

/-- The members of an object, in order. -/
abbrev Members := List (String × Value)

namespace Members

/-- The member of a name. -/
def get? (ms : Members) (name : String) : Option Value := ms.lookup name

/-- The member of a name, or what stands for it when it is missing. -/
def getD (ms : Members) (name : String) (default : Value) : Value := (ms.get? name).getD default

/-- The names, in order. -/
def names (ms : Members) : List String := ms.map (·.1)

/-- The object has a member of this name. -/
def has (ms : Members) (name : String) : Bool := ms.any (·.1 == name)

end Members

/-- An association list with the value of a key replaced where it stands, or added at the end. -/
def put {α : Type} (entries : List (String × α)) (key : String) (value : α) : List (String × α) :=
  match entries with
  | [] => [(key, value)]
  | (k, v) :: rest => if k = key then (k, value) :: rest else (k, v) :: put rest key value

@[simp] theorem lookup_put_self {α : Type} (entries : List (String × α)) (key : String) (value : α) :
    (put entries key value).lookup key = some value := by
  induction entries with
  | nil => simp [put]
  | cons e rest ih =>
    obtain ⟨k, v⟩ := e
    by_cases h : k = key
    · subst h
      simp [put]
    · have : (key == k) = false := by simp [Ne.symm h]
      simp [put, h, List.lookup_cons, this, ih]

theorem lookup_put_of_ne {α : Type} (entries : List (String × α)) {key other : String} (value : α)
    (h : other ≠ key) : (put entries key value).lookup other = entries.lookup other := by
  induction entries with
  | nil =>
    have : (other == key) = false := by simp [h]
    simp [put, List.lookup_cons, this]
  | cons e rest ih =>
    obtain ⟨k, v⟩ := e
    by_cases hk : k = key
    · subst hk
      have : (other == k) = false := by simp [h]
      simp [put, List.lookup_cons, this]
    · simp only [put, hk, if_false, List.lookup_cons, ih]

namespace Value

/-- The spelling of a truth value. -/
def boolText (b : Bool) : String := if b then "True" else "False"

mutual

/-- The value as it is shown inside another one and in messages. -/
def shown : Value → String
  | null => "None"
  | bool b => boolText b
  | whole n => toString n
  | real x => x.text
  | text s => quoted s
  | list items => "[" ++ shownItems items ++ "]"
  | object members => "\x7b" ++ shownMembers members ++ "\x7d"

/-- Items one after the other, with commas between them. -/
def shownItems : List Value → String
  | [] => ""
  | [v] => shown v
  | v :: rest => shown v ++ ", " ++ shownItems rest

/-- Members one after the other, with commas between them. -/
def shownMembers : List (String × Value) → String
  | [] => ""
  | [(k, v)] => quoted k ++ ": " ++ shown v
  | (k, v) :: rest => quoted k ++ ": " ++ shown v ++ ", " ++ shownMembers rest

end

/-- The value as text: a text stands for itself, all else is shown. -/
def asText : Value → String
  | text s => s
  | v => v.shown

/-- The value is neither null nor false nor zero nor empty. -/
def isTruthy : Value → Bool
  | null => false
  | bool b => b
  | whole n => n != 0
  | real (.finite _ mantissa _) => mantissa != 0
  | real _ => true
  | text s => s != ""
  | list items => !items.isEmpty
  | object members => !members.isEmpty

mutual

/-- Every number in the value is finite. -/
def isFinite : Value → Bool
  | real (.finite ..) => true
  | real _ => false
  | list items => areItemsFinite items
  | object members => areMembersFinite members
  | _ => true

/-- Every number in the items is finite. -/
def areItemsFinite : List Value → Bool
  | [] => true
  | v :: rest => isFinite v && areItemsFinite rest

/-- Every number in the members is finite. -/
def areMembersFinite : List (String × Value) → Bool
  | [] => true
  | (_, v) :: rest => isFinite v && areMembersFinite rest

end

/-- The number that a value is, if it is one. -/
def quantity? : Value → Option Quantity
  | bool b => some (.flag b)
  | whole n => some (.whole n)
  | real x => some (.real x)
  | _ => none

/-- The value can be looked up as a key: it is neither a list nor an object. -/
def isKey : Value → Bool
  | list _ | object _ => false
  | _ => true

mutual

/-- **Two values are equal**: numbers of different kinds are compared as numbers, and the order of
members does not count. -/
def same : Value → Value → Bool
  | null, null => true
  | text s, text t => s == t
  | list xs, list ys => sameItems xs ys
  | object ms, object ns => ms.length == ns.length && sameMembers ms ns
  | v, w =>
    match v.quantity?, w.quantity? with
    | some p, some q => p.same q
    | _, _ => false

/-- Two lists are equal item by item. -/
def sameItems : List Value → List Value → Bool
  | [], [] => true
  | v :: vs, w :: ws => same v w && sameItems vs ws
  | _, _ => false

/-- Every member has an equal one of its name. -/
def sameMembers : List (String × Value) → List (String × Value) → Bool
  | [], _ => true
  | (k, v) :: rest, ns =>
    (match ns.lookup k with
      | some w => same v w
      | none => false) && sameMembers rest ns

end

mutual

/-- Whether two values are identical. -/
def decEq : (v w : Value) → Decidable (v = w)
  | null, w => by
    cases w
    case null => exact .isTrue rfl
    all_goals exact .isFalse nofun
  | bool a, w => by
    cases w
    case bool b => exact decidable_of_iff (a = b) (by simp)
    all_goals exact .isFalse nofun
  | whole a, w => by
    cases w
    case whole b => exact decidable_of_iff (a = b) (by simp)
    all_goals exact .isFalse nofun
  | real a, w => by
    cases w
    case real b => exact decidable_of_iff (a = b) (by simp)
    all_goals exact .isFalse nofun
  | text a, w => by
    cases w
    case text b => exact decidable_of_iff (a = b) (by simp)
    all_goals exact .isFalse nofun
  | list a, list b =>
    match decEqItems a b with
    | .isTrue h => .isTrue (by rw [h])
    | .isFalse h => .isFalse (by simpa using h)
  | list _, null | list _, bool _ | list _, whole _ | list _, real _ | list _, text _
  | list _, object _ => .isFalse nofun
  | object a, object b =>
    match decEqMembers a b with
    | .isTrue h => .isTrue (by rw [h])
    | .isFalse h => .isFalse (by simpa using h)
  | object _, null | object _, bool _ | object _, whole _ | object _, real _ | object _, text _
  | object _, list _ => .isFalse nofun

/-- Whether two lists of values are identical. -/
def decEqItems : (vs ws : List Value) → Decidable (vs = ws)
  | [], [] => .isTrue rfl
  | [], _ :: _ | _ :: _, [] => .isFalse nofun
  | v :: vs, w :: ws =>
    match decEq v w, decEqItems vs ws with
    | .isTrue h, .isTrue hs => .isTrue (by rw [h, hs])
    | .isFalse h, _ => .isFalse (by simp [h])
    | _, .isFalse hs => .isFalse (by simp [hs])

/-- Whether two lists of members are identical. -/
def decEqMembers : (ms ns : List (String × Value)) → Decidable (ms = ns)
  | [], [] => .isTrue rfl
  | [], _ :: _ | _ :: _, [] => .isFalse nofun
  | (k, v) :: ms, (l, w) :: ns =>
    if hk : k = l then
      match decEq v w, decEqMembers ms ns with
      | .isTrue h, .isTrue hs => .isTrue (by rw [hk, h, hs])
      | .isFalse h, _ => .isFalse (by simp [h])
      | _, .isFalse hs => .isFalse (by simp [hs])
    else .isFalse (by simp [hk])

end

instance : DecidableEq Value := decEq

/-- Two values are identical or equal. What is no number is identical to itself, but not equal. -/
def alike (v w : Value) : Bool := v = w || v.same w

end Value

namespace Quantity

/-- The number as a loosely typed value. -/
def toValue : Quantity → Value
  | flag b => .bool b
  | whole n => .whole n
  | real x => .real x

/-- The number as text. -/
def text (q : Quantity) : String := q.toValue.shown

@[simp] theorem quantity?_toValue (q : Quantity) : q.toValue.quantity? = some q := by
  cases q <;> rfl

end Quantity

end Cutover
