import SimLLM.GraphValidation
import SimLLM.Profile

namespace SimLLM

inductive ProcessingStage where
  | request | scheduler | frameworkMemory | execution | collective | network | completion
  deriving DecidableEq, Repr

inductive StagePhase where
  | entered | completed
  deriving DecidableEq, Repr

inductive CreatedObjectKind where
  | frameworkRequest | vramAllocation | executionOperation | ncclCommand | sendQueue
  | receiveQueue | completionQueue | networkWqe | dcqcnQp | rnicCnLinkPair
  deriving DecidableEq, Repr

inductive ObjectOwner where
  | framework | core | nccl | deviceRuntime | networkBackend
  deriving DecidableEq, Repr

def reusableObjectKinds : List CreatedObjectKind :=
  [.vramAllocation, .sendQueue, .receiveQueue, .completionQueue, .dcqcnQp, .rnicCnLinkPair]

structure CreatedObjectRef where
  kind : CreatedObjectKind
  objectId : String
  deriving DecidableEq, Repr

structure BookkeepingScope where
  correlation : OperationCorrelation := {}
  stepIndex : Option Nat := none
  executionId : Option String := none
  operationId : Option String := none
  deriving DecidableEq, Repr

structure CreatedObjectRecord where
  ref : CreatedObjectRef
  owner : ObjectOwner
  createdAtPs : Nat
  scope : BookkeepingScope := {}
  nativeId : Option String := none
  parentRefs : List CreatedObjectRef := []
  metadata : List (String × ConfigScalar) := []
  deriving DecidableEq, Repr

structure StageRecord where
  stage : ProcessingStage
  phase : StagePhase
  timestampPs : Nat
  scope : BookkeepingScope
  objectRefs : List CreatedObjectRef := []
  deriving DecidableEq, Repr

inductive BookkeepingFact where
  | object (record : CreatedObjectRecord)
  | stage (record : StageRecord)
  | event (event : CompletionEvent)
  deriving DecidableEq, Repr

structure BookkeepingEntry where
  sequence : Nat
  fact : BookkeepingFact
  deriving DecidableEq, Repr

def requireText (value path : String) : Except PyError Unit :=
  require (nonblank value) (fail path "must be a nonblank string")

def requireOptionalText (value : Option String) (path : String) : Except PyError Unit :=
  match value with
  | none => .ok ()
  | some value => requireText value path

def checkCorrelation (value : OperationCorrelation) (path : String) : Except PyError Unit := do
  forEachIdx value.requestIds fun index requestId =>
    requireText requestId (indexPath (path ++ ".request_ids") index)
  require value.requestIds.Nodup (fail (path ++ ".request_ids") "contains duplicate values")
  requireOptionalText value.batchId (path ++ ".batch_id")

def checkScope (value : BookkeepingScope) (path : String) : Except PyError Unit := do
  checkCorrelation value.correlation (path ++ ".correlation")
  requireOptionalText value.executionId (path ++ ".execution_id")
  requireOptionalText value.operationId (path ++ ".operation_id")
  require (value.operationId.isNone || value.executionId.isSome)
    (fail (path ++ ".operation_id") "requires execution_id")

def checkRef (value : CreatedObjectRef) (path : String) : Except PyError Unit :=
  requireText value.objectId (path ++ ".object_id")

def checkRefs (values : List CreatedObjectRef) (path : String) : Except PyError Unit := do
  forEachIdx values fun index value => checkRef value (indexPath path index)
  require values.Nodup (fail path "contains duplicate values")

def ConfigScalar.isFinite : ConfigScalar → Bool
  | .float value => value.isFinite
  | _ => true

def checkMetadata (values : List (String × ConfigScalar)) (path : String) :
    Except PyError Unit := do
  forEachIdx values fun index entry => do
    requireText entry.1 (indexPath (indexPath path index) 0)
    require entry.2.isFinite
      (fail (indexPath (indexPath path index) 1) "expected a finite JSON scalar")
  require (values.map Prod.fst).Nodup (fail path "metadata keys must be unique")

def metadataValue (values : List (String × ConfigScalar)) (name : String) : Option ConfigScalar :=
  (values.reverse.find? (·.1 == name)).map Prod.snd

def checkInherited {α : Type} [DecidableEq α] (name path : String) (parents : List (Option α))
    (child : Option α) : Except PyError Unit :=
  match (parents.filterMap fun value => value).dedup with
  | [] => .ok ()
  | [value] => require (child == some value)
      (fail path "child scope does not inherit parent {}" [name])
  | _ => .error (fail path "causal parents disagree on {}" [name])

/-- `_validate_scope_lineage`; reusable resources do not bind a scope. -/
def checkScopeLineage (parents : List CreatedObjectRecord) (child : BookkeepingScope)
    (path : String) : Except PyError Unit := do
  let scopes := (parents.filter fun parent => !reusableObjectKinds.contains parent.ref.kind).map
    (·.scope)
  if scopes.isEmpty then .ok () else
    let known := scopes.flatMap (·.correlation.requestIds)
    let introduced := sortedSet (child.correlation.requestIds.filter (!known.contains ·))
    require introduced.isEmpty (fail path
      "child scope introduces request IDs absent from causal parents: {}" introduced)
    checkInherited "step_index" path (scopes.map (·.stepIndex)) child.stepIndex
    checkInherited "execution_id" path (scopes.map (·.executionId)) child.executionId
    checkInherited "operation_id" path (scopes.map (·.operationId)) child.operationId
    checkInherited "batch_id" path (scopes.map (·.correlation.batchId)) child.correlation.batchId
    checkInherited "layer" path (scopes.map (·.correlation.layer)) child.correlation.layer
    checkInherited "microbatch" path (scopes.map (·.correlation.microbatch))
      child.correlation.microbatch
    checkInherited "iteration" path (scopes.map (·.correlation.iteration))
      child.correlation.iteration

structure ValidationTables where
  objects : String → Option CreatedObjectRecord := fun _ => none
  subjectTimestamps : String → Option Nat := fun _ => none
  completedWqes : String → Bool := fun _ => false

structure ValidationState where
  base : Option ValidationTables := none
  own : ValidationTables := {}

def ValidationState.view (state : ValidationState) : ValidationTables :=
  match state.base with
  | none => state.own
  | some base =>
    { objects := fun id => state.own.objects id <|> base.objects id
      subjectTimestamps := fun id => state.own.subjectTimestamps id <|> base.subjectTimestamps id
      completedWqes := fun id => state.own.completedWqes id || base.completedWqes id }

inductive FactEffect where
  | nothing
  | create (record : CreatedObjectRecord)
  | subject (objectId : String) (timestampPs : Nat) (completes : Bool)

def ValidationTables.apply (tables : ValidationTables) : FactEffect → ValidationTables
  | .nothing => tables
  | .create record =>
    { tables with objects := fun id =>
        if id = record.ref.objectId then some record else tables.objects id }
  | .subject objectId timestampPs completes =>
    { tables with
      subjectTimestamps := fun id =>
        if id = objectId then some timestampPs else tables.subjectTimestamps id
      completedWqes := fun id => (completes && id = objectId) || tables.completedWqes id }

variable (view : ValidationTables)

def checkReference (timestampPs : Nat) (late path : String) (index : Nat) (ref : CreatedObjectRef) :
    Except PyError CreatedObjectRecord :=
  match view.objects ref.objectId with
  | none => .error (fail (indexPath path index) "unknown object reference")
  | some prior => do
    require (prior.ref == ref) (fail (indexPath path index) "unknown object reference")
    require (prior.createdAtPs ≤ timestampPs) (fail (indexPath path index) late)
    .ok prior

def checkReferences (refs : List CreatedObjectRef) (timestampPs : Nat) (late path : String) :
    Except PyError (List CreatedObjectRecord) :=
  refs.zipIdx.mapM fun entry => checkReference view timestampPs late path entry.2 entry.1

def checkWqeParents (record : CreatedObjectRecord) (path : String) : Except PyError Unit := do
  let kinds := record.parentRefs.map (·.kind)
  let parents := path ++ ".fact.parent_refs"
  require (kinds.count .sendQueue == 1) (fail parents "WQE requires exactly one send queue")
  require (kinds.count .receiveQueue == 1) (fail parents "WQE requires exactly one receive queue")
  require (kinds.count .completionQueue == 1)
    (fail parents "WQE requires exactly one completion queue")
  let transports := kinds.count .dcqcnQp + kinds.count .rnicCnLinkPair
  require (transports ≤ 1) (fail parents "WQE permits at most one QP or link pair")
  let transportFree := metadataValue record.metadata "transport_kind" == some (.str "none")
  require (transports != 0 || transportFree)
    (fail (path ++ ".fact.metadata") "transport-free WQE requires transport_kind=none")
  require (transports != 1 || !transportFree)
    (fail (path ++ ".fact.metadata") "physical WQE cannot use transport_kind=none")

def checkObject (record : CreatedObjectRecord) (path : String) :
    Except PyError FactEffect := do
  checkRef record.ref (path ++ ".fact.ref")
  require (view.objects record.ref.objectId).isNone
    (fail (path ++ ".fact.ref.object_id") "duplicate object ID")
  checkScope record.scope (path ++ ".fact.scope")
  requireOptionalText record.nativeId (path ++ ".fact.native_id")
  checkRefs record.parentRefs (path ++ ".fact.parent_refs")
  require (!record.parentRefs.contains record.ref)
    (fail (path ++ ".fact.parent_refs") "object cannot parent itself")
  let parents ← checkReferences view record.parentRefs record.createdAtPs "child predates parent"
    (path ++ ".fact.parent_refs")
  checkScopeLineage parents record.scope (path ++ ".fact.parent_refs")
  checkMetadata record.metadata (path ++ ".fact.metadata")
  if record.ref.kind == .networkWqe then checkWqeParents record path
  .ok (.create record)

def checkStage (record : StageRecord) (path : String) :
    Except PyError FactEffect := do
  checkScope record.scope (path ++ ".fact.scope")
  checkRefs record.objectRefs (path ++ ".fact.object_refs")
  let records ← checkReferences view record.objectRefs record.timestampPs "stage predates object"
    (path ++ ".fact.object_refs")
  checkScopeLineage records record.scope (path ++ ".fact.object_refs")
  .ok .nothing

def checkEventFields (event : CompletionEvent) (path : String) : Except PyError Unit := do
  requireText event.executionId (path ++ ".execution_id")
  requireText event.operationId (path ++ ".operation_id")
  match event.resource with
  | none => .ok ()
  | some resource => requireText resource.resourceId (path ++ ".resource.resource_id")
  requireOptionalText event.subjectObjectId (path ++ ".subject_object_id")

def checkWqeEvent (subjectId : String) (subject : CreatedObjectRecord) (event : CompletionEvent)
    (path : String) : Except PyError Bool := do
  let completes := event.phase == .completed
  require (!view.completedWqes subjectId) (fail (path ++ ".fact")
    (if completes then "WQE has more than one completion"
    else "WQE accepts no events after its completion"))
  if completes then
    match subject.parentRefs.find? (·.kind == .completionQueue) with
    | none => .error (indexError "tuple index out of range")
    | some queue =>
      require (event.resource == some ⟨.completionQueue, queue.objectId⟩)
        (fail (path ++ ".fact.resource") "WQE completion must name its completion queue")
  .ok completes

def checkSubjectEvent (subjectId : String) (event : CompletionEvent) (path : String) :
    Except PyError FactEffect :=
  match view.objects subjectId with
  | none => .error (fail (path ++ ".fact.subject_object_id") "unknown object ID")
  | some subject => do
    require (subject.scope.executionId.all (· == event.executionId))
      (fail (path ++ ".fact.execution_id") "does not match subject scope")
    require (subject.scope.operationId.all (· == event.operationId))
      (fail (path ++ ".fact.operation_id") "does not match subject scope")
    require (subject.createdAtPs ≤ event.timestampPs)
      (fail (path ++ ".fact.timestamp_ps") "completion predates subject")
    require ((view.subjectTimestamps subjectId).all (· ≤ event.timestampPs))
      (fail (path ++ ".fact.timestamp_ps") "subject timestamps must be nondecreasing")
    let completes ←
      if subject.ref.kind == .networkWqe then checkWqeEvent view subjectId subject event path
      else .ok false
    .ok (.subject subjectId event.timestampPs completes)

def checkEvent (event : CompletionEvent) (path : String) :
    Except PyError FactEffect := do
  checkEventFields event (path ++ ".fact")
  match event.subjectObjectId with
  | none => .ok .nothing
  | some subjectId => checkSubjectEvent view subjectId event path

def checkFact (fact : BookkeepingFact) (path : String) :
    Except PyError FactEffect :=
  match fact with
  | .object record => checkObject view record path
  | .stage record => checkStage view record path
  | .event event => checkEvent view event path

def validateEntry (entry : BookkeepingEntry) (expected : Nat) (state : ValidationState) :
    Except PyError ValidationState := do
  let path := indexPath "ledger.entries" expected
  require (entry.sequence == expected)
    (fail (path ++ ".sequence") "expected contiguous value {}" [toString expected])
  let effect ← checkFact state.view entry.fact path
  .ok { state with own := state.own.apply effect }

def validateEntries (entries : List BookkeepingEntry) (start : Nat) (state : ValidationState) :
    Except PyError ValidationState :=
  (entries.zipIdx start).foldlM (fun state entry => validateEntry entry.1 entry.2 state) state

def validateLedgerState (entries : List BookkeepingEntry) : Except PyError ValidationState :=
  validateEntries entries 0 {}

theorem ValidationState.view_apply (state : ValidationState) (effect : FactEffect) :
    ({ state with own := state.own.apply effect } : ValidationState).view =
      state.view.apply effect := by
  obtain ⟨base, own⟩ := state
  cases base with
  | none => rfl
  | some base =>
    cases effect with
    | nothing => rfl
    | create record =>
      simp only [view, ValidationTables.apply, ValidationTables.mk.injEq, and_self, and_true]
      funext id
      split <;> simp
    | subject objectId timestampPs completes =>
      simp only [view, ValidationTables.apply, ValidationTables.mk.injEq, true_and]
      constructor
      · funext id
        split <;> simp
      · funext id
        simp [Bool.or_assoc]

variable {state next : ValidationState}

theorem validateEntry_view {entry : BookkeepingEntry} {expected : Nat}
    (h : validateEntry entry expected state = .ok next) :
    validateEntry entry expected ⟨none, state.view⟩ = .ok ⟨none, next.view⟩ := by
  obtain ⟨u, hseq, h⟩ := of_bind h
  obtain ⟨effect, heffect, h⟩ := of_bind h
  obtain rfl := Except.ok.inj h
  refine bind_eq_ok.mpr ⟨u, hseq, bind_eq_ok.mpr ⟨effect, heffect, ?_⟩⟩
  rw [ValidationState.view_apply]

theorem validateEntries_view {entries : List BookkeepingEntry} {start : Nat}
    (h : validateEntries entries start state = .ok next) :
    validateEntries entries start ⟨none, state.view⟩ = .ok ⟨none, next.view⟩ := by
  unfold validateEntries at h ⊢
  induction entries generalizing start state with
  | nil =>
    obtain rfl := Except.ok.inj h
    rfl
  | cons entry entries ih =>
    obtain ⟨middle, hentry, hrest⟩ := of_bind h
    exact bind_eq_ok.mpr ⟨_, validateEntry_view hentry, ih hrest⟩

theorem validateEntries_append (first second : List BookkeepingEntry) (start : Nat)
    (state : ValidationState) : validateEntries (first ++ second) start state =
      validateEntries first start state >>= validateEntries second (start + first.length) := by
  unfold validateEntries
  rw [List.zipIdx_append, List.foldlM_append]

structure RequestBookkeeper where
  entries : List BookkeepingEntry
  validation : ValidationTables
  valid : validateLedgerState entries = .ok ⟨none, validation⟩

def RequestBookkeeper.ofLedger (entries : List BookkeepingEntry) :
    Except PyError RequestBookkeeper :=
  match h : validateLedgerState entries with
  | .error error => .error error
  | .ok state => .ok ⟨entries, state.view, validateEntries_view h⟩

theorem RequestBookkeeper.ofLedger_entries (bookkeeper : RequestBookkeeper) :
    RequestBookkeeper.ofLedger bookkeeper.entries = .ok bookkeeper := by
  obtain ⟨entries, validation, valid⟩ := bookkeeper
  unfold RequestBookkeeper.ofLedger
  split
  next error h =>
    rw [valid] at h
    cases h
  next state h =>
    rw [valid] at h
    obtain rfl := Except.ok.inj h
    rfl

def numberEntries (start : Nat) (facts : List BookkeepingFact) : List BookkeepingEntry :=
  (facts.zipIdx start).map fun entry => ⟨entry.2, entry.1⟩

theorem RequestBookkeeper.valid_append (bookkeeper : RequestBookkeeper)
    {additions : List BookkeepingEntry} {overlay : ValidationState}
    (h : validateEntries additions bookkeeper.entries.length ⟨some bookkeeper.validation, {}⟩ =
      .ok overlay) :
    validateLedgerState (bookkeeper.entries ++ additions) = .ok ⟨none, overlay.view⟩ := by
  have hview := validateEntries_view h
  have hbase : (⟨some bookkeeper.validation, {}⟩ : ValidationState).view =
      bookkeeper.validation := by
    simp [ValidationState.view]
  unfold validateLedgerState
  rw [validateEntries_append]
  refine bind_eq_ok.mpr ⟨_, bookkeeper.valid, ?_⟩
  rw [Nat.zero_add]
  exact hview

def RequestBookkeeper.extend (bookkeeper : RequestBookkeeper) (facts : List BookkeepingFact) :
    Except PyError RequestBookkeeper :=
  let additions := numberEntries bookkeeper.entries.length facts
  match h : validateEntries additions bookkeeper.entries.length
      ⟨some bookkeeper.validation, {}⟩ with
  | .error error => .error error
  | .ok overlay => .ok ⟨bookkeeper.entries ++ additions, overlay.view, bookkeeper.valid_append h⟩

def extendLedger (facts : List BookkeepingFact) : EStateM PyError RequestBookkeeper Unit :=
  fun bookkeeper =>
    match bookkeeper.extend facts with
    | .ok extended => .ok () extended
    | .error error => .error error bookkeeper

def operationObjectRef (executionId operationId : String) : CreatedObjectRef :=
  ⟨.executionOperation,
    "execution-operation:" ++ escapeId executionId ++ ":" ++ escapeId operationId⟩

def operationScope (graph : ExecutionGraph) (operation : ExecutionOperation) : BookkeepingScope :=
  ⟨operation.correlation, some graph.stepIndex, some graph.executionId,
    some operation.operationId⟩

def graphFacts (graph : ExecutionGraph) : List BookkeepingFact :=
  let requests := (graph.operations.flatMap (·.correlation.requestIds)).reverse.dedup.reverse
  .stage { stage := .execution, phase := .entered, timestampPs := graph.releasedAtPs
           scope := { correlation := { requestIds := requests }, stepIndex := some graph.stepIndex
                      executionId := some graph.executionId } } ::
    graph.operations.map fun operation =>
      .object { ref := operationObjectRef graph.executionId operation.operationId
                owner := .core, createdAtPs := graph.releasedAtPs
                scope := operationScope graph operation
                nativeId := some operation.operationId }

def registerGraph (graph : ExecutionGraph) : EStateM PyError RequestBookkeeper Unit :=
  fun bookkeeper =>
    match validateExecutionGraph graph with
    | .error error => .error error bookkeeper
    | .ok () => extendLedger (graphFacts graph) bookkeeper

end SimLLM
