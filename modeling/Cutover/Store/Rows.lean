import Cutover.Record

/-!
# A database of rows

The record may be kept in a database, in a table of two columns: the name of a field, which is unique,
and its text. A connection works on a copy of the rows; what it changed counts once it is committed.

* `Connection.deleteAll`, `Connection.insert`, `Connection.replace`: statements;
* `Connection.commit`: the changes so far are made to last;
* `Connection.close`: the database after the connection, with committed changes only.
-/

namespace Cutover

/-- A database. The table is missing until it is first used. -/
structure Database where
  rows : Option Table := none
  deriving DecidableEq, Repr, Inhabited

/-- A connection: the rows that are committed and those it works on. -/
structure Connection where
  committed : Option Table
  working : Option Table
  deriving DecidableEq, Repr

namespace Connection

/-- A new connection. -/
def ofDatabase (d : Database) : Connection := ⟨d.rows, d.rows⟩

/-- The database after the connection: what was not committed is lost. -/
def close (c : Connection) : Database := ⟨c.committed⟩

/-- The changes so far are made to last. -/
def commit (c : Connection) : Connection := { c with committed := c.working }

/-- The table is made unless it is there, and that is committed. -/
def ensureTable (c : Connection) : Connection :=
  match c.working with
  | some _ => c
  | none => commit { c with working := some [] }

/-- The rows of the table. -/
def rows (c : Connection) : Except Fault Table :=
  match c.working with
  | some t => .ok t
  | none => .error (.storage "no such table: migration_state")

/-- All rows are deleted. -/
def deleteAll (c : Connection) : Except Fault Connection := do
  let _ ← c.rows
  return { c with working := some [] }

/-- A row is added; its name must be new. -/
def insert (c : Connection) (row : String × String) : Except Fault Connection := do
  let t ← c.rows
  if (t.lookup row.1).isSome then
    throw (.storage "UNIQUE constraint failed: migration_state.key")
  else return { c with working := some (t ++ [row]) }

/-- A row is added in place of one of the same name. -/
def replace (c : Connection) (row : String × String) : Except Fault Connection := do
  let t ← c.rows
  return { c with working := some ((t.filter fun r => r.1 ≠ row.1) ++ [row]) }

end Connection

namespace Database

/-- Runs statements on a connection of their own, with the table made first. -/
def run {α : Type} (d : Database) (work : Connection → Except Fault (Connection × α)) :
    Except Fault α × Database :=
  let c := (Connection.ofDatabase d).ensureTable
  match work c with
  | .ok (c', a) => (.ok a, c'.close)
  | .error e => (.error e, c.close)

/-- All rows. -/
def load (d : Database) : Except Fault Table × Database :=
  d.run fun c => do return (c, ← c.rows)

/-- The rows are replaced by those of a record, in one transaction. -/
def save (d : Database) (t : Table) : Except Fault Unit × Database :=
  d.run fun c => do
    let c ← c.deleteAll
    let c ← t.foldlM Connection.insert c
    return (c.commit, ())

/-- All rows are deleted. -/
def clear (d : Database) : Except Fault Unit × Database :=
  d.run fun c => do return ((← c.deleteAll).commit, ())

/-- The text of one field. -/
def get (d : Database) (name : String) : Except Fault (Option String) × Database :=
  d.run fun c => do return (c, (← c.rows).lookup name)

/-- The text of one field is set. -/
def set (d : Database) (name raw : String) : Except Fault Unit × Database :=
  d.run fun c => do return ((← c.replace (name, raw)).commit, ())

end Database

end Cutover
