import Cutover.Form

/-!
# Shard connections

A sharded source is read through one connection for each shard.

* `Shard.ofEntry`: the connection an entry of a shard form gives;
* `parseShards`: the connections a text of entries gives;
* `validateShards`: the connections can be submitted, because there are some and their ids are
  neither empty nor repeated;
* `Wizard`: connections collected one by one.
-/

namespace Cutover

/-- The connection to one shard of the source. Shards that are read from entries hold texts only; a
caller may give other values. -/
structure Shard where
  id : Value
  engine : Value
  host : Value
  port : Value
  user : Value
  password : Value := .text ""
  database : Value := .text ""
  deriving DecidableEq, Repr, Inhabited

namespace Shard

/-- The shard has an id. -/
def hasId (s : Shard) : Bool := s.id.isTruthy

/-- The shard as the service takes it. -/
def payload (s : Shard) : Members :=
  [("Driver", s.engine), ("IsSharded", .bool true), ("Host", s.host), ("Port", s.port),
    ("Database", s.database), ("User", s.user), ("Password", s.password), ("DataShardId", s.id)]

/-- The shard on one line, without its password. -/
def line (s : Shard) : String :=
  "ShardConnectionConfig(shard_id=" ++ s.id.shown ++ ", engine=" ++ s.engine.shown ++ ", host=" ++
    s.host.shown ++ ", port=" ++ s.port.shown ++ ", user=" ++ s.user.shown ++
    ", database_name=" ++ s.database.shown ++ ")"

/-- The field of an entry as text; a missing one is empty. -/
def entryText (entry : Members) (name : String) : String := (Form.textOr entry name).asText

/-- The shard that an entry of a shard form gives. The id is trimmed. -/
def ofEntry (entry : Members) (engine : Value) : Shard where
  id := .text (trimmed (entryText entry "shardId"))
  engine := engine
  host := .text (entryText entry "hostName")
  port := .text (entryText entry "port")
  user := .text (entryText entry "userName")
  password := .text (entryText entry "password")
  database := .text (entryText entry "dbName")

/-- The names of the fields, the required ones first. -/
def fieldNames : List String :=
  ["shard_id", "engine", "host", "port", "user", "password", "database_name"]

/-- The shard a form gives. -/
def ofForm (form : Members) : Except Fault Shard := do
  Form.only fieldNames form
  return {
    id := ← Form.required form "shard_id"
    engine := ← Form.required form "engine"
    host := ← Form.required form "host"
    port := ← Form.required form "port"
    user := ← Form.required form "user"
    password := Form.textOr form "password"
    database := Form.textOr form "database_name" }

end Shard

/-- The refusal of shards. -/
def badShards {α : Type} (f : ShardFault) : Except Fault α := .error (.client (.badShards f))

/-- The entries of a list of objects, if it is one. -/
def entries? : List Value → Option (List Members)
  | [] => some []
  | .object ms :: rest => (entries? rest).map (ms :: ·)
  | _ :: _ => none

/-- The shards that a text gives: a list of entries, in their order. -/
def parseShards (text : String) (engine : Value) : Except Fault (List Shard) :=
  match Document.read text with
  | .ok (.list items) =>
    match entries? items with
    | some entries => .ok (entries.map fun e => Shard.ofEntry e engine)
    | none => badShards .unreadable
  | _ => badShards .unreadable

/-- No id is missing, and none repeats an earlier one or one of `seen`. Only keys are ids. -/
def checkIds (seen : List Value) : List Shard → Except Fault Unit
  | [] => .ok ()
  | s :: rest =>
    if !s.hasId then badShards .missingId
    else if !s.id.isKey then .error .illTyped
    else if seen.any s.id.same then badShards (.repeatedId s.id)
    else checkIds (s.id :: seen) rest

/-- **The shards can be submitted.** -/
def validateShards (shards : List Shard) : Except Fault Unit := do
  checkIds [] shards
  if shards.isEmpty then .error (.client .noShards)

/-- Shards collected one by one, all with the engine set at their time. -/
structure Wizard where
  engine : Value := .text ""
  shards : List Shard := []
  deriving DecidableEq, Repr, Inhabited

namespace Wizard

/-- Adds a shard, unless it has no id. -/
def add (w : Wizard) (s : Shard) : Except Fault Wizard :=
  if s.hasId then .ok { w with shards := w.shards ++ [s] } else badShards .missingId

/-- Adds the shard an entry gives. -/
def addEntry (w : Wizard) (entry : Members) : Except Fault (Wizard × Shard) := do
  let s := Shard.ofEntry entry w.engine
  return (← w.add s, s)

/-- Adds shards until one has no id; those before it stay. -/
def addEach (w : Wizard) : List Shard → Wizard × Except Fault Unit
  | [] => (w, .ok ())
  | s :: rest =>
    match w.add s with
    | .ok w' => addEach w' rest
    | .error e => (w, .error e)

/-- Adds the shards a text gives. -/
def addText (w : Wizard) (text : String) : Wizard × Except Fault (List Shard) :=
  match parseShards text w.engine with
  | .error e => (w, .error e)
  | .ok shards =>
    let (w', outcome) := w.addEach shards
    (w', outcome.map fun _ => shards)

/-- Forgets all shards. -/
def clear (w : Wizard) : Wizard := { w with shards := [] }

end Wizard

end Cutover
