import Cutover.Request
import Cutover.Service.Document
import Cutover.Text.Encoding
import Cutover.Trace

/-!
# Calls to the service

The service is called by eight operations, four of which write, one launches and three read. Every
answer is classified: it gives a value, or exactly one fault.

* `Call`: the operations, each with its route and body;
* `Answer.check`: an answer without an error status;
* `Answer.document`: the document an answer to a reading call holds;
* `statusOf`, `shardMapOf`, `summaryOf`: what the documents say.
-/

namespace Cutover

/-- A call to the service. -/
inductive Call where
  | submit (request : Request)
  | getStatus
  | getResources
  | getSummary
  | setShards (shards : List Shard)
  | setStreaming (tuning : StreamingTuning)
  | setStaging (tuning : StagingTuning)
  | setCompute (tuning : ComputeTuning)

/-- What is sent to the service. -/
structure Message where
  method : String
  route : String
  body : Option Members := none

/-- A message can be sent: every number in its body is finite. -/
def Message.isSendable (m : Message) : Bool := Value.areMembersFinite (m.body.getD [])

/-- What the service answers. -/
structure Answer where
  status : Int := 200
  body : List UInt8 := []
  deriving DecidableEq, Repr, Inhabited

/-- How a message is answered: by an answer, by a failure on the way, or by a fault of whatever
carries it. -/
inductive Outcome where
  | answered (answer : Answer)
  | unreachable (failure text : String)
  | failed (fault : Fault)

/-- The failures on the way to the service. -/
def connectionFailures : List String :=
  ["HTTPError", "RequestError", "TransportError", "TimeoutException", "ConnectTimeout",
    "ReadTimeout", "WriteTimeout", "PoolTimeout", "NetworkError", "ConnectError", "ReadError",
    "WriteError", "CloseError", "ProtocolError", "LocalProtocolError", "RemoteProtocolError",
    "ProxyError", "UnsupportedProtocol", "DecodingError", "TooManyRedirects"]

/-- The failures by which a connection refuses what it is given. -/
def connectionRefusals : List String := ["InvalidURL", "CookieConflict", "StreamError"]

/-- The failures that no text alone makes. -/
def richFailures : List String :=
  ["HTTPStatusError", "StreamConsumed", "StreamClosed", "ResponseNotRead", "RequestNotRead"]

/-- How a failure of some name and text answers a message. -/
def Outcome.ofFailure (name text : String) : Outcome :=
  if connectionFailures.contains name then unreachable name text
  else if connectionRefusals.contains name then failed (.connection name text)
  else if richFailures.contains name then failed .illTyped
  else failed .missingPart

namespace Call

/-- The name of an operation. -/
def name : Call → String
  | submit _ => "submit_migration"
  | getStatus => "get_status"
  | getResources => "get_generated_resources"
  | getSummary => "get_source_destination_summary"
  | setShards _ => "set_shard_connections"
  | setStreaming _ => "set_sharded_streaming_tuning"
  | setStaging _ => "set_sharded_staging_tuning"
  | setCompute _ => "set_sharded_compute_tuning"

/-- What a call sends. -/
def message : Call → Message
  | submit r => ⟨"POST", "/Migrate", some r.payload⟩
  | getStatus => ⟨"GET", "/GetProgress", none⟩
  | getResources => ⟨"GET", "/GetGeneratedResources", none⟩
  | getSummary => ⟨"GET", "/GetSourceDestinationSummary", none⟩
  | setShards shards =>
    ⟨"POST", "/SetShardsSourceDBDetailsForBulk",
      some [("DbConfigs", .list (shards.map fun s => .object s.payload)),
        ("IsRestoredSession", .text "")]⟩
  | setStreaming t => ⟨"POST", "/SetDatastreamDetailsForShardedMigrations", some t.payload⟩
  | setStaging t => ⟨"POST", "/SetGcsDetailsForShardedMigrations", some t.payload⟩
  | setCompute t => ⟨"POST", "/SetDataflowDetailsForShardedMigrations", some t.payload⟩

/-- The call reads. -/
def isReading : Call → Bool
  | getStatus | getResources | getSummary => true
  | _ => false

/-- The span around a call. -/
def span (c : Call) : Span where
  name := "migrateflow.client." ++ c.name
  kind := .client
  attributes := [(Attribute.httpMethod, .text c.message.method),
    (Attribute.httpRoute, .text c.message.route)]

/-- The fault of a call that did not reach the service. -/
def unreachable (c : Call) (text : String) : ServiceFault where
  kind := .unavailable
  message := c.name ++ " failed: " ++ text
  operation := c.name

end Call

namespace Answer

/-- The status is that of an error. -/
def isError (a : Answer) : Bool := 400 ≤ a.status && a.status ≤ 599

/-- The status is that of an error of the service itself. -/
def isServerError (a : Answer) : Bool := 500 ≤ a.status && a.status ≤ 599

/-- What an error status says: the text of the answer without line ends behind it, or its status. -/
def errorText (a : Answer) : String :=
  let text := String.ofList (trimBack (· == '\n') (Utf8.lenient a.body).toList)
  if text = "" then "HTTP " ++ toString a.status else text

/-- The fault of an error status: a write is rejected; a read finds the service unavailable, or is at
fault itself. -/
def faultKind (a : Answer) (c : Call) : CallFault :=
  if !c.isReading then .rejected else if a.isServerError then .unavailable else .service

/-- An answer without an error status. -/
def check (a : Answer) (c : Call) : Except ServiceFault Unit :=
  if a.isError then
    .error { kind := a.faultKind c, message := a.errorText, operation := c.name, status := some a.status }
  else .ok ()

/-- The value of the body, if it is a document. -/
def value? (a : Answer) : Option Value :=
  (decodeDocument? a.body).bind fun text => (Document.read text).toOption

/-- The document an answer to a reading call holds. -/
def document (a : Answer) (c : Call) : Except ServiceFault Value := do
  a.check c
  match a.value? with
  | some v => return v
  | none =>
    throw {
      kind := .malformed
      message := c.name ++ " returned a non-JSON body"
      operation := c.name
      status := some a.status }

/-- What a document says, or the fault of a document that does not fit. -/
def decode {α : Type} (a : Answer) (c : Call) (what : String) (read : Value → Reading α) :
    Except ServiceFault α := do
  match (read (← a.document c)).toExcept with
  | .ok d => return d
  | .error issues =>
    throw {
      kind := .malformed
      message := "Undecodable " ++ what ++ " response: " ++ issuesText issues
      operation := c.name
      issues }

/-- The status report of an answer. -/
def toStatus (a : Answer) : Except ServiceFault Status :=
  ProgressDocument.toStatus <$> a.decode .getStatus "progress" ProgressDocument.read

/-- The summary of an answer. -/
def toSummary (a : Answer) : Except ServiceFault Summary :=
  SummaryDocument.toSummary <$> a.decode .getSummary "summary" SummaryDocument.read

/-- The resources of an answer, by shard. -/
def toShardMap (a : Answer) : Except ServiceFault ShardMap :=
  ResourcesDocument.toShardMap <$> a.decode .getResources "resources" ResourcesDocument.read

end Answer

/-- Any fault of reading the resources is a fault of fetching them; message and status are kept. -/
def ServiceFault.toFetchFault (f : ServiceFault) : ServiceFault :=
  { f with kind := .resourceFetch, operation := Call.getResources.name }

end Cutover
