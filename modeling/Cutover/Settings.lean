import Cutover.Address
import Cutover.Assembly
import Cutover.Service.Reading
import Cutover.Settings.EnvFile
import Cutover.Settings.Policy

/-!
# Settings of the client

Settings come from variables of the environment, or of a file where the environment has none. Names
are compared without regard to case, and values are texts that are read leniently.

* `Settings.read`: the settings of an environment;
* `Settings.pollPolicy`, `Settings.noticePolicy`: the policies they give;
* `Settings.checkAddress`, `Settings.check`: whether a session can be set up with them.
-/

namespace Cutover

/-- The settings of the client. -/
structure Settings where
  serviceUrl : String := "http://localhost:8080"
  requestTimeout : Double := .ofInt 8
  pollInterval : Double := .ofInt 5
  noticeTtl : Double := .ofInt 5
  pageSize : Int := usualPageSize
  statePath : String := "migrateflow-state.db"
  enableTracing : Bool := true
  deriving DecidableEq, Repr

namespace Settings

/-- What the names of variables start with, in lower case. -/
def variableStart : String := "migrateflow_"

/-- Two underscores stand side by side. -/
def hasDoubleUnderscore : List Char → Bool
  | '_' :: '_' :: _ => true
  | _ :: r => hasDoubleUnderscore r
  | [] => false

/-- A number without its underscores, where each stands alone between other characters. -/
def withoutUnderscores? (cs : List Char) : Option (List Char) :=
  if cs.head? = some '_' || cs.getLast? = some '_' || hasDoubleUnderscore cs then none
  else some (cs.filter (· ≠ '_'))

/-- A floating-point number from text: with blanks around it, or with single underscores between
digits. -/
def realOfText (s : String) : Except IssueKind Double :=
  match readDouble? (trimEnds isSpace s.toList) with
  | some x => .ok x
  | none =>
    match (withoutUnderscores? s.toList).bind readDouble? with
    | some x => .ok x
    | none => .error .realUnreadable

/-- Variables by name in lower case; of several with one name the last counts. -/
def byLoweredName (env : List (String × Option String)) : List (String × Option String) :=
  env.foldl (fun done (name, value) => put done (loweredPlain name) value) []

/-- The value of a setting: from the environment, else from the file. -/
def find? (env file : List (String × Option String)) (name : String) : Option String :=
  let key := variableStart ++ name
  (((byLoweredName env).lookup key).join).orElse fun _ => ((byLoweredName file).lookup key).join

/-- A setting read from its text, or its default. -/
def setting {α : Type} (find : String → Option String) (name : String)
    (read : String → Except IssueKind α) (default : α) : Reading α :=
  match find name with
  | some s => Reading.under (.member name) (Reading.ofExcept (read s))
  | none => .fits default

/-- The settings of an environment and a file of variables, which may be missing. -/
def read (env : List (String × String)) (file : Option String) : Reading Settings :=
  let names := EnvFile.resolve env (EnvFile.read (file.getD ""))
  let find := find? (env.map fun (k, v) => (k, some v)) names
  let usual : Settings := {}
  mk <$> setting find "service_url" .ok usual.serviceUrl
    <*> setting find "request_timeout_seconds" realOfText usual.requestTimeout
    <*> setting find "poll_interval_seconds" realOfText usual.pollInterval
    <*> setting find "notification_ttl_seconds" realOfText usual.noticeTtl
    <*> setting find "resource_page_size" wholeOfText usual.pageSize
    <*> setting find "state_path" .ok usual.statePath
    <*> setting find "enable_tracing" flagOfText usual.enableTracing

/-- The settings as an object. -/
def toMembers (s : Settings) : Members :=
  [("service_url", .text s.serviceUrl), ("request_timeout_seconds", .real s.requestTimeout),
    ("poll_interval_seconds", .real s.pollInterval), ("notification_ttl_seconds", .real s.noticeTtl),
    ("resource_page_size", .whole s.pageSize), ("state_path", .text s.statePath),
    ("enable_tracing", .bool s.enableTracing)]

/-- The poll policy the settings give. -/
def pollPolicy (s : Settings) : Except Fault PollPolicy := PollPolicy.make (.real s.pollInterval)

/-- The notice policy the settings give. -/
def noticePolicy (s : Settings) : Except Fault NoticePolicy :=
  NoticePolicy.make (.real s.noticeTtl) (.whole 100)

/-- The address of the service can be used. -/
def checkAddress (s : Settings) : Except Fault Unit :=
  (Address.check s.serviceUrl).mapError .badAddress

/-- The usual page size of a session has to be positive. -/
def checkPageSize (n : Int) : Except Fault Unit :=
  if n < 1 then Fault.refuse (.notPositive "page_size" (.whole n)) else .ok ()

/-- The policy of a session set up with the settings, if there can be one. -/
def check (s : Settings) : Except Fault PollPolicy := do
  let poll ← s.pollPolicy
  let _ ← s.noticePolicy
  checkPageSize s.pageSize
  return poll

end Settings

end Cutover
