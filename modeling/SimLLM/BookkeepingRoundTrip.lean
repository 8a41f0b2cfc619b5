import SimLLM.BookkeepingWire

namespace SimLLM

open List Wire

variable {value : JsonValue} {path : String} {scope : BookkeepingScope}
variable {refs : List CreatedObjectRef} {obj : Dict JsonValue} {fact : BookkeepingFact} {u : Unit}
variable {entries : List BookkeepingEntry}

/-! The wire forms of the bookkeeping values: what an object must look like to stand for a value,
with no rule on the value itself. -/

def ScopeForm (value : JsonValue) (scope : BookkeepingScope) : Prop :=
  ∃ obj : Dict JsonValue, value = .obj obj ∧ HasFields obj scopeFields ∧
    (∃ entry, obj.get? "correlation" = some entry ∧ CorrelationForm entry scope.correlation) ∧
    obj.get? "step_index" = some (optionToJson naturalToJson scope.stepIndex) ∧
    obj.get? "execution_id" = some (optionToJson .str scope.executionId) ∧
    obj.get? "operation_id" = some (optionToJson .str scope.operationId)

def RefForm (value : JsonValue) (ref : CreatedObjectRef) : Prop :=
  ∃ obj : Dict JsonValue, value = .obj obj ∧ HasFields obj ["kind", "object_id"] ∧
    obj.get? "kind" = some (.str ref.kind.value) ∧ obj.get? "object_id" = some (.str ref.objectId)

def RefsForm (value : JsonValue) (refs : List CreatedObjectRef) : Prop :=
  ∃ entries, value = .arr entries ∧ List.Forall₂ RefForm entries refs

def ResourceForm (value : JsonValue) (resource : ResourceRef) : Prop :=
  ∃ obj : Dict JsonValue, value = .obj obj ∧ HasFields obj ["kind", "resource_id"] ∧
    obj.get? "kind" = some (.str resource.kind.value) ∧
    obj.get? "resource_id" = some (.str resource.resourceId)

def ObjectFactForm (obj : Dict JsonValue) (record : CreatedObjectRecord) : Prop :=
  HasFields obj objectFactFields ∧
    (∃ entry, obj.get? "ref" = some entry ∧ RefForm entry record.ref) ∧
    obj.get? "owner" = some (.str record.owner.value) ∧
    obj.get? "created_at_ps" = some (naturalToJson record.createdAtPs) ∧
    (∃ entry, obj.get? "scope" = some entry ∧ ScopeForm entry record.scope) ∧
    obj.get? "native_id" = some (optionToJson .str record.nativeId) ∧
    (∃ entry, obj.get? "parent_refs" = some entry ∧ RefsForm entry record.parentRefs) ∧
    obj.get? "metadata" = some (metadataToJson record.metadata)

def StageFactForm (obj : Dict JsonValue) (record : StageRecord) : Prop :=
  HasFields obj stageFactFields ∧
    obj.get? "stage" = some (.str record.stage.value) ∧
    obj.get? "phase" = some (.str record.phase.value) ∧
    obj.get? "timestamp_ps" = some (naturalToJson record.timestampPs) ∧
    (∃ entry, obj.get? "scope" = some entry ∧ ScopeForm entry record.scope) ∧
    ∃ entry, obj.get? "object_refs" = some entry ∧ RefsForm entry record.objectRefs

def CompletionFactForm (obj : Dict JsonValue) (event : CompletionEvent) : Prop :=
  HasFields obj completionFactFields ∧
    obj.get? "execution_id" = some (.str event.executionId) ∧
    obj.get? "operation_id" = some (.str event.operationId) ∧
    obj.get? "phase" = some (.str event.phase.value) ∧
    obj.get? "timestamp_ps" = some (naturalToJson event.timestampPs) ∧
    (∃ entry, obj.get? "resource" = some entry ∧
      OptionalForm ResourceForm entry event.resource) ∧
    obj.get? "completed_bytes" = some (optionToJson naturalToJson event.completedBytes) ∧
    obj.get? "subject_object_id" = some (optionToJson .str event.subjectObjectId)

def FactForm (value : JsonValue) (fact : BookkeepingFact) : Prop :=
  ∃ obj : Dict JsonValue, value = .obj obj ∧
    match fact with
    | .object record => obj.get? "kind" = some (.str "object") ∧ ObjectFactForm obj record
    | .stage record => obj.get? "kind" = some (.str "stage") ∧ StageFactForm obj record
    | .event event => obj.get? "kind" = some (.str "completion") ∧ CompletionFactForm obj event

def EntryForm (value : JsonValue) (entry : BookkeepingEntry) : Prop :=
  ∃ obj : Dict JsonValue, value = .obj obj ∧ HasFields obj ["sequence", "fact"] ∧
    obj.get? "sequence" = some (naturalToJson entry.sequence) ∧
    ∃ value, obj.get? "fact" = some value ∧ FactForm value entry.fact

def LedgerForm (value : JsonValue) (entries : List BookkeepingEntry) : Prop :=
  ∃ obj : Dict JsonValue, value = .obj obj ∧ HasFields obj ["schema", "entries"] ∧
    obj.get? "schema" = some (.str bookkeepingSchema) ∧
    ∃ rows, obj.get? "entries" = some (.arr rows) ∧ List.Forall₂ EntryForm rows entries

/-! The values the parser asks for beyond the form: every text is nonblank. -/

structure BookkeepingScope.Texts (scope : BookkeepingScope) : Prop where
  correlation : scope.correlation.Valid
  execution : ∀ text, scope.executionId = some text → nonblank text = true
  operation : ∀ text, scope.operationId = some text → nonblank text = true

def CreatedObjectRef.Texts (ref : CreatedObjectRef) : Prop := nonblank ref.objectId = true

def BookkeepingFact.Texts : BookkeepingFact → Prop
  | .object record => record.ref.Texts ∧ record.scope.Texts ∧
      (∀ text, record.nativeId = some text → nonblank text = true) ∧
      (∀ ref ∈ record.parentRefs, ref.Texts) ∧ ∀ entry ∈ record.metadata, ScalarPairText entry
  | .stage record => record.scope.Texts ∧ ∀ ref ∈ record.objectRefs, ref.Texts
  | .event fact => nonblank fact.executionId = true ∧ nonblank fact.operationId = true ∧
      (∀ resource, fact.resource = some resource → nonblank resource.resourceId = true) ∧
      ∀ text, fact.subjectObjectId = some text → nonblank text = true

theorem scopeFromJson_eq_ok :
    scopeFromJson value path = .ok scope ↔ ScopeForm value scope ∧ scope.Texts := by
  simp only [scopeFromJson, bind_eq_ok, object_eq_ok, fields_eq_ok_hasFields,
    field_correlation, field_optionalNatural, field_optionalString, Except.ok.injEq]
  constructor
  · rintro ⟨obj, rfl, _, hkeys, _, ⟨hform, hvalid⟩, _, hstep, _, ⟨hexecution, htexts⟩, _,
      ⟨hoperation, htexts'⟩, rfl⟩
    exact ⟨⟨obj, rfl, hkeys, hform, hstep, hexecution, hoperation⟩, ⟨hvalid, htexts, htexts'⟩⟩
  · rintro ⟨⟨obj, rfl, hkeys, hform, hstep, hexecution, hoperation⟩, ⟨hvalid, htexts, htexts'⟩⟩
    exact ⟨obj, rfl, (), hkeys, _, ⟨hform, hvalid⟩, _, hstep, _, ⟨hexecution, htexts⟩, _,
      ⟨hoperation, htexts'⟩, rfl⟩

theorem refFromJson_eq_ok {ref : CreatedObjectRef} :
    refFromJson value path = .ok ref ↔ RefForm value ref ∧ ref.Texts := by
  simp only [refFromJson, bind_eq_ok, object_eq_ok, fields_eq_ok_hasFields,
    field_enumValue, field_string, Except.ok.injEq]
  constructor
  · rintro ⟨obj, rfl, _, hkeys, _, hkind, _, ⟨hid, htext⟩, rfl⟩
    exact ⟨⟨obj, rfl, hkeys, hkind, hid⟩, htext⟩
  · rintro ⟨⟨obj, rfl, hkeys, hkind, hid⟩, htext⟩
    exact ⟨obj, rfl, (), hkeys, _, hkind, _, ⟨hid, htext⟩, rfl⟩

theorem refsFromJson_eq_ok :
    tuple refFromJson value path = .ok refs ↔ RefsForm value refs ∧ ∀ ref ∈ refs, ref.Texts := by
  rw [tuple_eq_ok RefForm CreatedObjectRef.Texts fun _ _ _ => refFromJson_eq_ok]
  constructor
  · rintro ⟨entries, rfl, hform, htexts⟩
    exact ⟨⟨entries, rfl, hform⟩, htexts⟩
  · rintro ⟨⟨entries, rfl, hform⟩, htexts⟩
    exact ⟨entries, rfl, hform, htexts⟩

theorem resourceFromJson_eq_ok {resource : ResourceRef} :
    resourceFromJson value path = .ok resource ↔
      ResourceForm value resource ∧ nonblank resource.resourceId = true := by
  simp only [resourceFromJson, bind_eq_ok, object_eq_ok, fields_eq_ok_hasFields,
    field_enumValue, field_string, Except.ok.injEq]
  constructor
  · rintro ⟨obj, rfl, _, hkeys, _, hkind, _, ⟨hid, htext⟩, rfl⟩
    exact ⟨⟨obj, rfl, hkeys, hkind, hid⟩, htext⟩
  · rintro ⟨⟨obj, rfl, hkeys, hkind, hid⟩, htext⟩
    exact ⟨obj, rfl, (), hkeys, _, hkind, _, ⟨hid, htext⟩, rfl⟩

theorem optionalResource_eq_ok {resource : Option ResourceRef} :
    optional resourceFromJson value path = .ok resource ↔
      OptionalForm ResourceForm value resource ∧
        ∀ x, resource = some x → nonblank x.resourceId = true := by
  refine optional_eq_ok_form ResourceForm (fun x => nonblank x.resourceId = true)
    (fun _ _ => resourceFromJson_eq_ok) ?_
  rintro a ⟨obj, hobj, _⟩
  cases hobj

theorem objectFactFromJson_eq_ok {record : CreatedObjectRecord} :
    objectFactFromJson obj path = .ok record ↔
      ObjectFactForm obj record ∧ (BookkeepingFact.object record).Texts := by
  have hmetadata : ∀ {metadata}, field metadataFromJson obj path "metadata" = .ok metadata ↔
      obj.get? "metadata" = some (metadataToJson metadata) ∧
        ∀ entry ∈ metadata, ScalarPairText entry :=
    field_eq_ok_encode metadataToJson (fun metadata => ∀ entry ∈ metadata, ScalarPairText entry)
      fun _ _ _ => tuple_eq_ok_map _ ScalarPairText fun _ _ _ => scalarPair_eq_ok
  simp only [objectFactFromJson, bind_eq_ok, fields_eq_ok_hasFields, hmetadata,
    field_eq_ok_form RefForm CreatedObjectRef.Texts fun _ _ _ => refFromJson_eq_ok,
    field_eq_ok_form RefsForm (fun refs => ∀ ref ∈ refs, ref.Texts)
      fun _ _ _ => refsFromJson_eq_ok,
    field_eq_ok_form ScopeForm BookkeepingScope.Texts fun _ _ _ => scopeFromJson_eq_ok,
    field_enumValue, field_natural, field_optionalString, Except.ok.injEq]
  constructor
  · rintro ⟨_, hkeys, _, ⟨href, href'⟩, _, howner, _, hcreated, _, ⟨hscope, hscope'⟩, _,
      ⟨hnative, hnative'⟩, _, ⟨hparents, hparents'⟩, _, ⟨hmeta, hmeta'⟩, rfl⟩
    exact ⟨⟨hkeys, href, howner, hcreated, hscope, hnative, hparents, hmeta⟩,
      ⟨href', hscope', hnative', hparents', hmeta'⟩⟩
  · rintro ⟨⟨hkeys, href, howner, hcreated, hscope, hnative, hparents, hmeta⟩,
      ⟨href', hscope', hnative', hparents', hmeta'⟩⟩
    exact ⟨(), hkeys, _, ⟨href, href'⟩, _, howner, _, hcreated, _, ⟨hscope, hscope'⟩, _,
      ⟨hnative, hnative'⟩, _, ⟨hparents, hparents'⟩, _, ⟨hmeta, hmeta'⟩, rfl⟩

theorem stageFactFromJson_eq_ok {record : StageRecord} : stageFactFromJson obj path = .ok record ↔
      StageFactForm obj record ∧ (BookkeepingFact.stage record).Texts := by
  simp only [stageFactFromJson, bind_eq_ok, fields_eq_ok_hasFields,
    field_eq_ok_form RefsForm (fun refs => ∀ ref ∈ refs, ref.Texts)
      fun _ _ _ => refsFromJson_eq_ok,
    field_eq_ok_form ScopeForm BookkeepingScope.Texts fun _ _ _ => scopeFromJson_eq_ok,
    field_enumValue, field_natural, Except.ok.injEq]
  constructor
  · rintro ⟨_, hkeys, _, hstage, _, hphase, _, htime, _, ⟨hscope, hscope'⟩, _, ⟨hrefs, hrefs'⟩,
      rfl⟩
    exact ⟨⟨hkeys, hstage, hphase, htime, hscope, hrefs⟩, ⟨hscope', hrefs'⟩⟩
  · rintro ⟨⟨hkeys, hstage, hphase, htime, hscope, hrefs⟩, ⟨hscope', hrefs'⟩⟩
    exact ⟨(), hkeys, _, hstage, _, hphase, _, htime, _, ⟨hscope, hscope'⟩, _, ⟨hrefs, hrefs'⟩,
      rfl⟩

theorem completionFactFromJson_eq_ok {event : CompletionEvent} :
    completionFactFromJson obj path = .ok event ↔
      CompletionFactForm obj event ∧ (BookkeepingFact.event event).Texts := by
  simp only [completionFactFromJson, bind_eq_ok, fields_eq_ok_hasFields, field_string,
    field_eq_ok_form (OptionalForm ResourceForm)
      (fun resource => ∀ x, resource = some x → nonblank x.resourceId = true)
      fun _ _ _ => optionalResource_eq_ok,
    field_enumValue, field_natural, field_optionalNatural, field_optionalString, Except.ok.injEq]
  constructor
  · rintro ⟨_, hkeys, _, ⟨hexecution, hexecution'⟩, _, ⟨hoperation, hoperation'⟩, _, hphase, _,
      htime, _, ⟨hresource, hresource'⟩, _, hbytes, _, ⟨hsubject, hsubject'⟩, rfl⟩
    exact ⟨⟨hkeys, hexecution, hoperation, hphase, htime, hresource, hbytes, hsubject⟩,
      ⟨hexecution', hoperation', hresource', hsubject'⟩⟩
  · rintro ⟨⟨hkeys, hexecution, hoperation, hphase, htime, hresource, hbytes, hsubject⟩,
      ⟨hexecution', hoperation', hresource', hsubject'⟩⟩
    exact ⟨(), hkeys, _, ⟨hexecution, hexecution'⟩, _, ⟨hoperation, hoperation'⟩, _, hphase, _,
      htime, _, ⟨hresource, hresource'⟩, _, hbytes, _, ⟨hsubject, hsubject'⟩, rfl⟩

theorem factFromJson_eq_ok :
    factFromJson value path = .ok fact ↔ FactForm value fact ∧ fact.Texts := by
  simp only [factFromJson, bind_eq_ok, object_eq_ok, FactForm]
  constructor
  · rintro ⟨obj, rfl, h⟩
    split at h
    next => cases h
    next entry hentry =>
      obtain ⟨kind, hkind, hbody⟩ := of_bind h
      obtain ⟨rfl, -⟩ := string_eq_ok.mp hkind
      by_cases hobject : kind = "object"
      · subst hobject
        obtain ⟨record, hrecord, rfl⟩ := map_eq_ok.mp (by simpa using hbody)
        obtain ⟨hform, htexts⟩ := objectFactFromJson_eq_ok.mp hrecord
        exact ⟨⟨obj, rfl, hentry, hform⟩, htexts⟩
      by_cases hstage : kind = "stage"
      · subst hstage
        obtain ⟨record, hrecord, rfl⟩ := map_eq_ok.mp (by simpa using hbody)
        obtain ⟨hform, htexts⟩ := stageFactFromJson_eq_ok.mp hrecord
        exact ⟨⟨obj, rfl, hentry, hform⟩, htexts⟩
      by_cases hcompletion : kind = "completion"
      · subst hcompletion
        obtain ⟨event, hevent, rfl⟩ := map_eq_ok.mp (by simpa using hbody)
        obtain ⟨hform, htexts⟩ := completionFactFromJson_eq_ok.mp hevent
        exact ⟨⟨obj, rfl, hentry, hform⟩, htexts⟩
      · simp [hobject, hstage, hcompletion] at hbody
  · rintro ⟨⟨obj, rfl, hform⟩, htexts⟩
    refine ⟨obj, rfl, ?_⟩
    have hkind : ∀ kind, nonblank kind = true → string (.str kind) (path ++ ".kind") = .ok kind :=
      fun _ htext => string_eq_ok.mpr ⟨rfl, htext⟩
    cases fact with
    | object record =>
      have hrecord : objectFactFromJson obj path = .ok record :=
        objectFactFromJson_eq_ok.mpr ⟨hform.2, htexts⟩
      simp only [hform.1]
      exact bind_eq_ok.mpr ⟨_, hkind _ (by decide), map_eq_ok.mpr ⟨record, hrecord, rfl⟩⟩
    | stage record =>
      have hrecord : stageFactFromJson obj path = .ok record :=
        stageFactFromJson_eq_ok.mpr ⟨hform.2, htexts⟩
      simp only [hform.1]
      exact bind_eq_ok.mpr ⟨_, hkind _ (by decide), map_eq_ok.mpr ⟨record, hrecord, rfl⟩⟩
    | event event =>
      have hevent : completionFactFromJson obj path = .ok event :=
        completionFactFromJson_eq_ok.mpr ⟨hform.2, htexts⟩
      simp only [hform.1]
      exact bind_eq_ok.mpr ⟨_, hkind _ (by decide), map_eq_ok.mpr ⟨event, hevent, rfl⟩⟩

theorem entryFromJson_eq_ok {entry : BookkeepingEntry} :
    entryFromJson value path = .ok entry ↔ EntryForm value entry ∧ entry.fact.Texts := by
  simp only [entryFromJson, bind_eq_ok, object_eq_ok, fields_eq_ok_hasFields,
    field_natural, field_eq_ok_form FactForm BookkeepingFact.Texts fun _ _ _ => factFromJson_eq_ok,
    Except.ok.injEq]
  constructor
  · rintro ⟨obj, rfl, _, hkeys, _, hsequence, _, ⟨hfact, htexts⟩, rfl⟩
    exact ⟨⟨obj, rfl, hkeys, hsequence, hfact⟩, htexts⟩
  · rintro ⟨⟨obj, rfl, hkeys, hsequence, hfact⟩, htexts⟩
    exact ⟨obj, rfl, (), hkeys, _, hsequence, _, ⟨hfact, htexts⟩, rfl⟩

/-! Validation asks for every text the parser asks for. -/

theorem requireOptionalText_eq_ok {value : Option String} :
    requireOptionalText value path = .ok u ↔ ∀ text, value = some text → nonblank text = true := by
  cases value with
  | none => simp [requireOptionalText]
  | some text => simp [requireOptionalText, requireText]

theorem checkScope_texts (h : checkScope scope path = .ok u) : scope.Texts := by
  simp only [checkScope, checkCorrelation, requireText, bind_eq_ok, forEachIdx_eq_ok,
    require_eq_ok, forall_getElem?_iff, requireOptionalText_eq_ok, decide_eq_true_eq] at h
  obtain ⟨_, ⟨_, hids, _, hdistinct, hbatch⟩, _, hexecution, _, hoperation, _⟩ := h
  exact ⟨⟨hids, hdistinct, hbatch⟩, hexecution, hoperation⟩

theorem checkRefs_texts (h : checkRefs refs path = .ok u) : ∀ ref ∈ refs, ref.Texts := by
  simp only [checkRefs, checkRef, requireText, bind_eq_ok, forEachIdx_eq_ok, require_eq_ok,
    forall_getElem?_iff] at h
  obtain ⟨_, hrefs, _⟩ := h
  exact hrefs

theorem checkMetadata_texts {metadata : List (String × ConfigScalar)}
    (h : checkMetadata metadata path = .ok u) : ∀ entry ∈ metadata, ScalarPairText entry := by
  simp only [checkMetadata, requireText, bind_eq_ok, forEachIdx_eq_ok, require_eq_ok] at h
  obtain ⟨_, hentries, _⟩ := h
  intro entry hentry
  obtain ⟨i, hi⟩ := mem_iff_getElem?.mp hentry
  obtain ⟨_, hname, hfinite⟩ := hentries i entry hi
  refine ⟨hname, fun x hx => ?_⟩
  rw [hx] at hfinite
  exact hfinite

theorem checkFact_texts {view : ValidationTables} {effect : FactEffect}
    (h : checkFact view fact path = .ok effect) : fact.Texts := by
  cases fact with
  | object record =>
    simp only [checkFact, checkObject, checkRef, requireText, bind_eq_ok, require_eq_ok,
      requireOptionalText_eq_ok] at h
    obtain ⟨_, href, _, _, _, hscope, _, hnative, _, hparents, _, _, _, _, _, _, _, hmetadata, _⟩ :=
      h
    exact ⟨href, checkScope_texts hscope, hnative, checkRefs_texts hparents,
      checkMetadata_texts hmetadata⟩
  | stage record =>
    simp only [checkFact, checkStage, bind_eq_ok] at h
    obtain ⟨_, hscope, _, hrefs, _⟩ := h
    exact ⟨checkScope_texts hscope, checkRefs_texts hrefs⟩
  | event event =>
    obtain ⟨_, hfields, _⟩ := of_bind h
    obtain ⟨_, hexecution, hfields⟩ := of_bind hfields
    obtain ⟨_, hoperation, hfields⟩ := of_bind hfields
    refine ⟨require_eq_ok.mp hexecution, require_eq_ok.mp hoperation, ?_⟩
    cases hresource : event.resource with
    | none =>
      rw [hresource] at hfields
      exact ⟨by simp, requireOptionalText_eq_ok.mp hfields⟩
    | some resource =>
      rw [hresource] at hfields
      obtain ⟨_, htext, hsubject⟩ := of_bind hfields
      refine ⟨fun x hx => ?_, requireOptionalText_eq_ok.mp hsubject⟩
      obtain rfl := Option.some.inj hx
      exact require_eq_ok.mp htext

theorem validateLedgerState_texts {state : ValidationState}
    (h : validateLedgerState entries = .ok state) : ∀ entry ∈ entries, entry.fact.Texts := by
  have hdone := foldlM_done
    (fun done _ => ∀ entry ∈ done, (entry : BookkeepingEntry × Nat).1.fact.Texts) h (by simp) ?_
  · intro entry hentry
    obtain ⟨i, hi⟩ := mem_iff_getElem?.mp hentry
    exact hdone (entry, i) (mem_zipIdx_iff_getElem?.mpr hi)
  · intro done x rest acc next _ hacc hstep
    replace hstep := of_check hstep
    obtain ⟨effect, heffect, _⟩ := of_bind hstep
    exact forall_mem_concat hacc (checkFact_texts heffect)

/-! What is written has the form of what it was written from. -/

theorem scopeForm_toJson (scope : BookkeepingScope) : ScopeForm (scopeToJson scope) scope :=
  ⟨_, rfl, by simp [HasFields, Table.keys, scopeFields],
    ⟨_, rfl, correlationForm_toJson scope.correlation⟩, rfl, rfl, rfl⟩

theorem refForm_toJson (ref : CreatedObjectRef) : RefForm (refToJson ref) ref :=
  ⟨_, rfl, by simp [HasFields, Table.keys], rfl, rfl⟩

theorem refsForm_toJson (refs : List CreatedObjectRef) :
    RefsForm (.arr (refs.map refToJson)) refs :=
  ⟨_, rfl, forall₂_map_left_iff.mpr (forall₂_same.mpr fun ref _ => refForm_toJson ref)⟩

theorem optionalForm_resourceToJson (resource : Option ResourceRef) :
    OptionalForm ResourceForm (optionToJson resourceToJson resource) resource := by
  cases resource with
  | none => rfl
  | some resource => exact ⟨_, rfl, by simp [HasFields, Table.keys], rfl, rfl⟩

theorem factForm_toJson (fact : BookkeepingFact) : FactForm (factToJson fact) fact := by
  cases fact with
  | object record =>
    exact ⟨_, rfl, rfl, by simp [HasFields, Table.keys, objectFactFields],
      ⟨_, rfl, refForm_toJson record.ref⟩, rfl, rfl, ⟨_, rfl, scopeForm_toJson record.scope⟩, rfl,
      ⟨_, rfl, refsForm_toJson record.parentRefs⟩, rfl⟩
  | stage record =>
    exact ⟨_, rfl, rfl, by simp [HasFields, Table.keys, stageFactFields], rfl, rfl, rfl,
      ⟨_, rfl, scopeForm_toJson record.scope⟩, ⟨_, rfl, refsForm_toJson record.objectRefs⟩⟩
  | event event =>
    exact ⟨_, rfl, rfl, by simp [HasFields, Table.keys, completionFactFields], rfl, rfl, rfl, rfl,
      ⟨_, rfl, optionalForm_resourceToJson event.resource⟩, rfl, rfl⟩

theorem entryForm_toJson (entry : BookkeepingEntry) : EntryForm (entryToJson entry) entry :=
  ⟨_, rfl, by simp [HasFields, Table.keys], rfl, _, rfl, factForm_toJson entry.fact⟩

theorem ledgerForm_toJson (entries : List BookkeepingEntry) :
    LedgerForm (.obj [("schema", .str bookkeepingSchema),
      ("entries", .arr (entries.map entryToJson))]) entries :=
  ⟨_, rfl, by simp [HasFields, Table.keys], rfl, _, rfl,
    forall₂_map_left_iff.mpr (forall₂_same.mpr fun entry _ => entryForm_toJson entry)⟩

/-- A payload decodes to a ledger exactly when it has the ledger's form and the ledger
validates: the checks of the parser on the values are implied by validation. -/
theorem bookkeepingLedgerFromJson_eq_ok : bookkeepingLedgerFromJson value = .ok entries ↔
      LedgerForm value entries ∧ validateBookkeepingLedger entries = .ok () := by
  have hentries : ∀ {obj : Dict JsonValue} {entries},
      field (tuple entryFromJson) obj "ledger" "entries" = .ok entries ↔
        (∃ entry, obj.get? "entries" = some entry ∧
          ∃ rows, entry = .arr rows ∧ List.Forall₂ EntryForm rows entries) ∧
            ∀ entry ∈ entries, entry.fact.Texts := by
    intro obj entries
    refine field_eq_ok_form (fun entry entries =>
      ∃ rows, entry = .arr rows ∧ List.Forall₂ EntryForm rows entries)
      (fun entries => ∀ entry ∈ entries, entry.fact.Texts) fun value path entries => ?_
    rw [tuple_eq_ok EntryForm (fun entry => entry.fact.Texts) fun _ _ _ => entryFromJson_eq_ok]
    exact ⟨fun ⟨rows, hrows, hform, htexts⟩ => ⟨⟨rows, hrows, hform⟩, htexts⟩,
      fun ⟨⟨rows, hrows, hform⟩, htexts⟩ => ⟨rows, hrows, hform, htexts⟩⟩
  simp only [bookkeepingLedgerFromJson, bind_eq_ok, object_eq_ok, fields_eq_ok_hasFields,
    field_string, hentries, require_eq_ok, beq_iff_eq, Except.ok.injEq]
  constructor
  · rintro ⟨obj, rfl, _, hkeys, _, ⟨hschema, -⟩, _, rfl, _,
      ⟨⟨_, hrows, rows, rfl, hform⟩, -⟩, _, hvalid, rfl⟩
    exact ⟨⟨obj, rfl, hkeys, hschema, rows, hrows, hform⟩, hvalid⟩
  · rintro ⟨⟨obj, rfl, hkeys, hschema, rows, hrows, hform⟩, hvalid⟩
    obtain ⟨state, hstate, -⟩ := of_bind hvalid
    exact ⟨obj, rfl, (), hkeys, _, ⟨hschema, by decide⟩, (), rfl, entries,
      ⟨⟨_, hrows, rows, rfl, hform⟩, validateLedgerState_texts hstate⟩, (), hvalid, rfl⟩

theorem bookkeeping_wire_round_trip (entries : List BookkeepingEntry) :
    (validateBookkeepingLedger entries = .ok () →
      (bookkeepingLedgerToJson entries >>= bookkeepingLedgerFromJson) = .ok entries) ∧
    ∀ value, (bookkeepingLedgerFromJson value = .ok entries ↔
        LedgerForm value entries ∧ validateBookkeepingLedger entries = .ok ()) ∧
      (bookkeepingLedgerFromJson value = .ok entries →
        ∃ bookkeeper, RequestBookkeeper.ofLedger entries = .ok bookkeeper ∧
          bookkeeper.entries = entries) := by
  refine ⟨fun hvalid => ?_, fun value => ⟨bookkeepingLedgerFromJson_eq_ok, fun h => ?_⟩⟩
  · refine bind_eq_ok.mpr ⟨_, bind_eq_ok.mpr ⟨(), hvalid, rfl⟩, ?_⟩
    exact bookkeepingLedgerFromJson_eq_ok.mpr ⟨ledgerForm_toJson entries, hvalid⟩
  · obtain ⟨-, hvalid⟩ := bookkeepingLedgerFromJson_eq_ok.mp h
    obtain ⟨state, hstate, -⟩ := of_bind hvalid
    have hview := validateEntries_view hstate
    exact ⟨_, RequestBookkeeper.ofLedger_entries ⟨entries, state.view, hview⟩, rfl⟩

def arrivalLedger : List BookkeepingEntry :=
  let request : CreatedObjectRef := ⟨.frameworkRequest, "request:a"⟩
  let scope : BookkeepingScope := { correlation := { requestIds := ["a"] }, stepIndex := some 0 }
  let metadata : List (String × ConfigScalar) :=
    [("prompt_tokens", .int 3), ("weight", .float ⟨0x3ff0000000000000#64⟩)]
  [⟨0, .object ⟨request, .framework, 5, scope, none, [], metadata⟩⟩,
    ⟨1, .stage ⟨.request, .entered, 6, scope, [request]⟩⟩,
    ⟨2, .event ⟨"step-0", "op", .completed, 9, some ⟨.nic, "nic:0"⟩, none, some "request:a"⟩⟩]

theorem arrival_ledger_round_trip : validateBookkeepingLedger arrivalLedger = .ok () ∧
    (bookkeepingLedgerToJson arrivalLedger >>= bookkeepingLedgerFromJson) = .ok arrivalLedger := by
  have hvalid : validateBookkeepingLedger arrivalLedger = .ok () := rfl
  exact ⟨hvalid, (bookkeeping_wire_round_trip arrivalLedger).1 hvalid⟩

end SimLLM
