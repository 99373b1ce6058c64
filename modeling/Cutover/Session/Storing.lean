import Cutover.Resource.Page
import Cutover.Session.Calling

/-!
# Storing

The operations of the store, as work. Saving and clearing may be delayed or made to fail. The generated
resources are not stored: they are fetched once and kept with the session. Concurrent readers share one
fetch, because each waits behind the gate until the one before has ended.

* `Keep.load`, `Keep.save`, `Keep.clear`: the whole record;
* `Keep.getField`, `Keep.setField`: one field;
* `Reconcile.fetch`: the resources, fetched unless they are kept;
* `Reconcile.forget`: the kept resources are dropped;
* `Reconcile.page`: one page of the kept resources.
-/

namespace Cutover.Keep

/-- Does something with the storage once it is the turn of this work. -/
def transact {α : Type} (f : Storage → Except Fault α × Storage) : Op α := do
  Op.storageTurn
  let site ← Op.site
  let (result, storage) := f site.storage
  Op.lift (Work.perform (.change { site with storage }))
  Op.ofExcept result

/-- Does something with the storage within a span of its own. -/
def traced {α : Type} (operation : String) (f : Storage → Except Fault α × Storage) : Op α := do
  let site ← Op.site
  Op.traced (site.storage.span operation) fun _ => transact f

/-- A failure put in the way. -/
def obstacle (error : Option String) : Op Unit :=
  match error with
  | some text => Op.fail (.storage text)
  | none => pure ()

/-- The stored record, if there is one. -/
def load (store : Nat) : Op (Option Record) := traced "load" fun s => s.load store

/-- The record is replaced. -/
def save (store : Nat) (r : Record) : Op Unit := do
  match ((← Op.site).storage.faults store).saveDelay with
  | some d => Op.sleep d
  | none => pure ()
  obstacle ((← Op.site).storage.faults store).saveError
  traced "save" fun s => s.save store r.encode

/-- The record is removed. -/
def clear (store : Nat) : Op Unit := do
  obstacle ((← Op.site).storage.faults store).clearError
  traced "clear" fun s => s.clear store

/-- The name of a field. -/
def fieldName (name : Value) : Op String :=
  match name with
  | .text s => if Record.fieldNames.contains s then pure s else Op.fail (.unknownName name)
  | _ => Op.fail (.unknownName name)

/-- One field. -/
def getField (store : Nat) (name : Value) : Op Value := do
  let name ← fieldName name
  transact fun s => s.getField store name

/-- One field is set. -/
def setField (store : Nat) (name value : Value) : Op Unit := do
  let name ← fieldName name
  transact fun s => s.setField store name value

end Cutover.Keep

namespace Cutover.Reconcile

/-- The resources, fetched from the service. -/
def fetchNow : Op (List Resource) := do
  let resources ← Op.traced { name := "migrateflow.reconciler.reconcile" } fun span => do
    Op.modify fun s => { s with fetchCount := s.fetchCount + 1 }
    let resources := flattenResources (← Call.readResources)
    Op.tag span Attribute.resourceCount (.whole resources.length)
    return resources
  Op.modify fun s => { s with resources := some resources }
  return resources

/-- **The resources**, fetched unless they are kept. -/
def fetch : Op (List Resource) :=
  Op.guarded .fetch do
    match (← Op.session).resources with
    | some resources => return resources
    | none => fetchNow

/-- The kept resources are dropped. -/
def forget : Op Unit := Op.modify fun s => { s with resources := none }

/-- One page of the kept resources. -/
def page (number size : Value) : Op Page := do
  let s ← Op.session
  Op.ofExcept (pageOf (s.resources.getD []) s.pageSize number size)

end Cutover.Reconcile
