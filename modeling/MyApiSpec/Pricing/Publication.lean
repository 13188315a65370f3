import Mathlib.Data.Finmap
import Mathlib.Data.List.Sort
import Mathlib.Data.String.Basic
import MyApiSpec.Base.GoText
import MyApiSpec.Base.Outcome
import MyApiSpec.Base.Store

/-!
# Price publications

`model/price_publication.go:137–398` and the transaction of `UpdateOptionsBulk`
(`model/option.go:735–764`). The prices of all models are a generation: modes, expressions, the bindings
of models to publications, and the ratio options. A command publishes prices, sets locks, or rolls an
earlier command back; its receipt keeps the generation before and behind it. The JSON texts of a receipt
are modelled by the generations: `encoding/json` writes maps in the order of their keys, so that texts are
equal exactly when the generations are.
-/

namespace MyApiSpec.Pricing

open Base

/-- `map[string]string`. -/
abbrev TextMap : Type := Finmap fun _ : String => String

/-- The keys of `publicationRatioOptionKeys`. -/
inductive RatioKey where
  | modelRatio
  | modelPrice
  | completionRatio
  | cacheRatio
  | createCacheRatio
  | imageRatio
  | audioRatio
  | audioCompletionRatio
  deriving DecidableEq, Repr

/-- The option key. -/
def RatioKey.name : RatioKey → String
  | .modelRatio => "ModelRatio"
  | .modelPrice => "ModelPrice"
  | .completionRatio => "CompletionRatio"
  | .cacheRatio => "CacheRatio"
  | .createCacheRatio => "CreateCacheRatio"
  | .imageRatio => "ImageRatio"
  | .audioRatio => "AudioRatio"
  | .audioCompletionRatio => "AudioCompletionRatio"

/-- `PublishedModelPrice`. -/
structure PublishedModelPrice where
  publicationID : String := ""
  sourceSHA256 : String := ""
  expressionSHA256 : String := ""
  locked : Bool := false
  deriving DecidableEq, Repr

/-- `PricePublicationState`. -/
structure PublicationState where
  revision : Int := 0
  models : Finmap fun _ : String => PublishedModelPrice := ∅
  deriving DecidableEq

/-- `PricePublicationSnapshot`. -/
structure Snapshot where
  modes : TextMap := ∅
  expressions : TextMap := ∅
  state : PublicationState := {}
  otherPriceOptions : Finmap fun _ : RatioKey => String := ∅
  deriving DecidableEq

namespace Snapshot

/-- The mode of a model; Go reads a missing key as the empty text. -/
def mode (s : Snapshot) (model : String) : String := (s.modes.lookup model).getD ""

/-- The expression of a model. -/
def expression (s : Snapshot) (model : String) : String := (s.expressions.lookup model).getD ""

/-- The binding of a model. -/
def binding (s : Snapshot) (model : String) : PublishedModelPrice := (s.state.models.lookup model).getD {}

/-- Mode and expression of a model. -/
def price (s : Snapshot) (model : String) : String × String := (s.mode model, s.expression model)

/-- The generation under another revision. -/
def withRevision (s : Snapshot) (revision : Int) : Snapshot :=
  { s with state := { s.state with revision := revision } }

end Snapshot

/-! ### Sizes of the encodings -/

/-- The size of a JSON object from the sizes of its members. -/
def membersSize (members : Multiset Nat) : Nat :=
  if members.card = 0 then 2 else 1 + members.card + members.sum

def textMapSize (m : TextMap) : Nat :=
  membersSize (m.entries.map fun e => jsonStringSize e.1 + 1 + jsonStringSize e.2)

def bindingSize (b : PublishedModelPrice) : Nat :=
  jsonObjectSize [(jsonKeySize "publication_id", jsonStringSize b.publicationID),
    (jsonKeySize "source_sha256", jsonStringSize b.sourceSHA256),
    (jsonKeySize "expression_sha256", jsonStringSize b.expressionSHA256),
    (jsonKeySize "locked", jsonBoolSize b.locked)]

def stateSize (s : PublicationState) : Nat :=
  jsonObjectSize [(jsonKeySize "revision", jsonIntSize s.revision),
    (jsonKeySize "models", membersSize (s.models.entries.map fun e => jsonStringSize e.1 + 1 + bindingSize e.2))]

def snapshotSize (s : Snapshot) : Nat :=
  jsonObjectSize [(jsonKeySize "modes", textMapSize s.modes),
    (jsonKeySize "expressions", textMapSize s.expressions), (jsonKeySize "state", stateSize s.state),
    (jsonKeySize "other_price_options", membersSize (s.otherPriceOptions.entries.map fun e =>
      jsonKeySize e.1.name + 1 + jsonStringSize e.2))]

/-- `MaxOfficialPriceDocumentBytes`. -/
def maxOfficialPriceDocumentBytes : Nat := 2 ^ 20

/-! ### Commands and receipts -/

/-- The actions of a command. -/
inductive Action where
  | publish
  | lock
  | rollback
  deriving DecidableEq, Repr

/-- `PricePublicationChange`. -/
structure Change where
  model : String
  expression : String := ""
  sourceSHA256 : String := ""
  locked : Bool := false
  deriving DecidableEq, Repr

/-- `PricePublicationCommand`. -/
structure Command where
  id : String
  actorID : Int
  expectedDigest : String
  action : Action
  rollbackOf : String := ""
  changes : List Change := []
  deriving DecidableEq, Repr

/-- `PricePublication`. -/
structure Receipt where
  id : String
  requestDigest : String
  actorID : Int
  action : Action
  rollbackOf : String
  before : Snapshot
  after : Snapshot
  revision : Int
  deriving DecidableEq

instance : Keyed String Receipt := ⟨Receipt.id⟩

/-- The options that hold the generation, and the receipts. -/
structure DB where
  options : Snapshot := {}
  receipts : Store String Receipt := Store.empty

/-- The values of a bulk update that belong to the prices: the texts of the options it writes. -/
structure BulkUpdate where
  publicationState : Option String := none
  modes : Option String := none
  expressions : Option String := none
  ratios : Finmap fun _ : RatioKey => String := ∅
  deriving DecidableEq

/-- The digests, and `common.Marshal` and `common.UnmarshalJsonStr` of a `map[string]string`. -/
structure Environment where
  requestDigest : Command → String
  snapshotDigest : Snapshot → String
  expressionHash : String → String
  encode : TextMap → String
  decode : String → Except String TextMap

/-- What one call reads outside the options and receipts: the official price versions, and
`validateModelPricingOptions`, which looks at the registered settings of the process. -/
structure Reads where
  officialPriceVersion : String → Except String Unit
  validateModelPricingOptions : BulkUpdate → Except String Unit

/-- `readPricePublicationSnapshotTx`. -/
def readPricePublicationSnapshot (db : DB) : Except String Snapshot := do
  check (0 ≤ db.options.state.revision) "invalid price publication revision"
  return db.options

/-- The commands that `ApplyPricePublication` looks at. -/
def checkCommand (c : Command) : Except String Unit := do
  check (canonicalLowerHex c.id 64 = true ∧ canonicalLowerHex c.expectedDigest 64 = true)
    "invalid publication identity or expected digest"
  check (0 < c.actorID ∧ c.changes.length ≤ 64) "invalid publication actor or model count"
  check (¬ (c.action ≠ .rollback ∧ (c.changes = [] ∨ c.rollbackOf ≠ ""))) "invalid publication changes"
  check (¬ (c.action = .rollback ∧ (c.changes ≠ [] ∨ c.rollbackOf.utf8ByteSize ≠ 64))) "invalid rollback target"
  check ((∀ change ∈ c.changes, change.model ≠ "" ∧ change.model.utf8ByteSize ≤ 191) ∧
    (c.changes.map Change.model).Nodup) "invalid or duplicate publication model"

/-- The command with its changes in the order of their models. -/
def Command.sorted (c : Command) : Command :=
  { c with changes := c.changes.insertionSort fun a b => a.model ≤ b.model }

/-- One change of a command. -/
def applyChange (env : Environment) (reads : Reads) (c : Command) (after : Snapshot) (change : Change) :
    Except String Snapshot :=
  let binding := after.binding change.model
  if c.action = .lock then do
    check (after.mode change.model = "tiered_expr") "price locks require expression pricing"
    check (change.expression = "" ∧ change.sourceSHA256 = "") "lock cannot change a price"
    return { after with state := { after.state with
      models := after.state.models.insert change.model { binding with locked := change.locked } } }
  else do
    check (binding.locked = false) "model price is locked"
    reads.officialPriceVersion change.sourceSHA256
    check (change.expression ≠ "" ∧ change.expression.utf8ByteSize ≤ 8192) "invalid publication expression"
    return { after with
      modes := after.modes.insert change.model "tiered_expr"
      expressions := after.expressions.insert change.model change.expression
      state := { after.state with
        models := after.state.models.insert change.model
          { publicationID := c.id
            sourceSHA256 := change.sourceSHA256
            expressionSHA256 := env.expressionHash change.expression
            locked := change.locked } } }

/-- The generation behind a command, without its revision. -/
def nextGeneration (env : Environment) (reads : Reads) (db : DB) (c : Command) (before : Snapshot) :
    Except String Snapshot :=
  if c.action = .rollback then do
    let target ← need (db.receipts.get? c.rollbackOf) "record not found"
    check (target.after = before) "price publication has changed"
    return target.before
  else c.changes.foldlM (applyChange env reads c) before

/-- `int64(^uint64(0) >> 1)`. -/
def maxRevision : Int := 2 ^ 63 - 1

/-- The receipt of a new command. -/
def newReceipt (env : Environment) (reads : Reads) (db : DB) (c : Command) (before : Snapshot) :
    Except String Receipt := do
  check (env.snapshotDigest before = c.expectedDigest) "price publication has changed"
  check (snapshotSize before ≤ maxOfficialPriceDocumentBytes) "price publication evidence exceeds capacity"
  let next ← nextGeneration env reads db c before
  check (before.state.revision ≠ maxRevision) "price publication revision exhausted"
  let after := next.withRevision (before.state.revision + 1)
  check (textMapSize after.modes ≤ 65536 ∧ textMapSize after.expressions ≤ 65536 ∧ stateSize after.state ≤ 65536)
    "price publication generation exceeds option capacity"
  reads.validateModelPricingOptions
    { modes := some (env.encode after.modes), expressions := some (env.encode after.expressions) }
  check (snapshotSize after ≤ maxOfficialPriceDocumentBytes) "price publication evidence exceeds capacity"
  return {
    id := c.id
    requestDigest := env.requestDigest c
    actorID := c.actorID
    action := c.action
    rollbackOf := c.rollbackOf
    before := before
    after := after
    revision := after.state.revision }

/-- Persist a receipt with its modes, expressions and state; ratio options are not written. -/
def DB.commit (db : DB) (r : Receipt) : DB :=
  { options :=
      { db.options with
        modes := r.after.modes
        expressions := r.after.expressions
        state := r.after.state }
    receipts := db.receipts.set r }

/-- `ApplyPricePublication`: the receipt, and whether it is new. -/
def applyPricePublication (env : Environment) (reads : Reads) (db : DB) (command : Command) :
    Except String (DB × Receipt × Bool) := do
  checkCommand command
  let c := command.sorted
  let before ← readPricePublicationSnapshot db
  match db.receipts.get? c.id with
  | some r => do
    -- a retry returns the receipt of the first call and leaves newer options alone
    check (r.requestDigest = env.requestDigest c) "price publication has changed"
    return (db, r, false)
  | none => do
    let r ← newReceipt env reads db c before
    return (db.commit r, r, true)

/-! ### Bulk updates -/

/-- A submitted text decoded, or the map that is kept. -/
def submitted (env : Environment) (value : Option String) (old : TextMap) : Except String TextMap :=
  match value with
  | some text => env.decode text
  | none => .ok old

/-- `validateLockedPriceChangesTx`: the modes and expressions behind the update. -/
def validateLockedPriceChanges (env : Environment) (db : DB) (u : BulkUpdate) :
    Except String (TextMap × TextMap) :=
  if u.modes = none ∧ u.expressions = none ∧ u.ratios = ∅ then
    .ok (db.options.modes, db.options.expressions)
  else do
    let before ← readPricePublicationSnapshot db
    let modes ← submitted env u.modes before.modes
    let expressions ← submitted env u.expressions before.expressions
    check (∀ e ∈ before.state.models.entries, e.2.locked = true →
      (modes.lookup e.1).getD "" = before.mode e.1 ∧
        (expressions.lookup e.1).getD "" = before.expression e.1) "model price is locked"
    return (modes, expressions)

/-- `UpdateOptionsBulk`, as far as prices are concerned. -/
def updateOptionsBulk (env : Environment) (reads : Reads) (db : DB) (u : BulkUpdate) : Except String DB := do
  check (u.publicationState = none) "price publication metadata is not an editable option"
  reads.validateModelPricingOptions u
  let maps ← validateLockedPriceChanges env db u
  return { db with options := { db.options with
    modes := maps.1
    expressions := maps.2
    otherPriceOptions := u.ratios ∪ db.options.otherPriceOptions } }

end MyApiSpec.Pricing
