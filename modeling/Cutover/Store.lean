import Cutover.Store.Rows
import Cutover.Trace

/-!
# The store of the record

The record is kept in memory, where every opened store has its own, or in a database that all opened
stores share. Failures and delays may be put in the way of a single store.

* `Storage.load`, `Storage.save`, `Storage.clear`: the whole record;
* `Storage.getField`, `Storage.setField`: one field;
* `StoreFaults`: failures and delays put in the way of saving and clearing.
-/

namespace Cutover

/-- Where the record is kept. -/
inductive StoreKind where
  | memory
  | rows
  deriving DecidableEq, Repr, Inhabited

/-- The name of a kind of store. -/
def StoreKind.name : StoreKind → String
  | memory => "memory"
  | rows => "sqlite"

/-- Failures and delays put in the way of saving and clearing. -/
structure StoreFaults where
  saveError : Option String := none
  clearError : Option String := none
  /-- Microseconds before a save. -/
  saveDelay : Option Int := none
  deriving DecidableEq, Repr, Inhabited

/-- A store that was opened: its record, if that is kept in memory, and what is put in its way. -/
structure OpenStore where
  memory : Table := []
  faults : StoreFaults := {}
  deriving DecidableEq, Repr, Inhabited

/-- All stores that were opened, by number, and the database. -/
structure Storage where
  kind : StoreKind := .memory
  stores : List OpenStore := [{}]
  database : Database := {}
  deriving DecidableEq, Repr, Inhabited

namespace Storage

/-- The number of the store that was opened last. -/
def current (s : Storage) : Nat := s.stores.length - 1

/-- One more store is opened. -/
def reopen (s : Storage) : Storage := { s with stores := s.stores ++ [{}] }

/-- A store. -/
def store (s : Storage) (n : Nat) : OpenStore := s.stores.getD n {}

/-- The record of a store in memory. -/
def memory (s : Storage) (n : Nat) : Table := (s.store n).memory

/-- The record of a store in memory is replaced. -/
def setMemory (s : Storage) (n : Nat) (t : Table) : Storage :=
  { s with stores := s.stores.modify n fun o => { o with memory := t } }

/-- What is put in the way of a store. -/
def faults (s : Storage) (n : Nat) : StoreFaults := (s.store n).faults

/-- What is put in the way of a store is changed. -/
def onFaults (s : Storage) (n : Nat) (f : StoreFaults → StoreFaults) : Storage :=
  { s with stores := s.stores.modify n fun o => { o with faults := f o.faults } }

/-- The record as it is stored. -/
def table (s : Storage) (n : Nat) : Table :=
  match s.kind with
  | .memory => s.memory n
  | .rows => s.database.rows.getD []

/-- The record of a table; none when the table is empty. -/
def recordOf (t : Table) : Except Fault (Option Record) :=
  if t.isEmpty then .ok none else some <$> Record.decode t

/-- The stored record, if there is one. -/
def load (s : Storage) (n : Nat) : Except Fault (Option Record) × Storage :=
  match s.kind with
  | .memory => (recordOf (s.memory n), s)
  | .rows =>
    let (r, d) := s.database.load
    (r >>= recordOf, { s with database := d })

/-- The record is replaced. -/
def save (s : Storage) (n : Nat) (t : Table) : Except Fault Unit × Storage :=
  match s.kind with
  | .memory => (.ok (), s.setMemory n t)
  | .rows =>
    let (r, d) := s.database.save t
    (r, { s with database := d })

/-- The record is removed. -/
def clear (s : Storage) (n : Nat) : Except Fault Unit × Storage :=
  match s.kind with
  | .memory => (.ok (), s.setMemory n [])
  | .rows =>
    let (r, d) := s.database.clear
    (r, { s with database := d })

/-- A field read back from its text, or its default. -/
def fieldOf (name : String) (raw : Option String) : Except Fault Value :=
  match raw with
  | some raw => Record.decodeField name (.text raw)
  | none => .ok (Record.defaults.getD name .null)

/-- One field. -/
def getField (s : Storage) (n : Nat) (name : String) : Except Fault Value × Storage :=
  if !Record.fieldNames.contains name then (.error (.unknownName (.text name)), s)
  else
    match s.kind with
    | .memory => (fieldOf name ((s.memory n).lookup name), s)
    | .rows =>
      let (r, d) := s.database.get name
      (r >>= fieldOf name, { s with database := d })

/-- One field is set. -/
def setField (s : Storage) (n : Nat) (name : String) (value : Value) : Except Fault Unit × Storage :=
  if !Record.fieldNames.contains name then (.error (.unknownName (.text name)), s)
  else
    match s.kind with
    | .memory => (.ok (), s.setMemory n (put (s.memory n) name (encodeValue value)))
    | .rows =>
      let (r, d) := s.database.set name (encodeValue value)
      (r, { s with database := d })

/-- The span around an operation of a store. -/
def span (s : Storage) (operation : String) : Span where
  name := "migrateflow.state." ++ operation
  attributes := [(Attribute.store, .text s.kind.name)]

end Storage

end Cutover
