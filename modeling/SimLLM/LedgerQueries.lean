import SimLLM.LedgerLineage

namespace SimLLM

open List

def BookkeepingFact.object? : BookkeepingFact → Option CreatedObjectRecord
  | .object record => some record
  | _ => none

def createdRecords (entries : List BookkeepingEntry) : List CreatedObjectRecord :=
  entries.filterMap (·.fact.object?)

def selectChild (selected : List CreatedObjectRef) (record : CreatedObjectRecord) :
    List CreatedObjectRef :=
  if record.parentRefs.any selected.contains && !selected.contains record.ref then
    selected ++ [record.ref]
  else selected

def selectPass (created : List CreatedObjectRecord) (selected : List CreatedObjectRef) :
    List CreatedObjectRef :=
  created.foldl selectChild selected

/-- The loop over `changed`: a pass that selects nothing new is the last. -/
def selectDescendants (created : List CreatedObjectRecord) :
    Nat → List CreatedObjectRef → List CreatedObjectRef
  | 0, selected => selected
  | passes + 1, selected =>
    let next := selectPass created selected
    if next = selected then selected else selectDescendants created passes next

/-- What the query keeps: a completion event belongs to its subject, and to the operation it
reports. -/
def factSelected (created : List CreatedObjectRecord) (selected : List CreatedObjectRef) :
    BookkeepingFact → Bool
  | .object record => selected.contains record.ref
  | .stage record => record.objectRefs.any selected.contains
  | .event event =>
    let selectedIds := selected.map (·.objectId)
    let operationKeys := (created.filter fun record =>
      selected.contains record.ref && record.ref.kind == .executionOperation).map fun record =>
        (record.scope.executionId, record.scope.operationId)
    event.subjectObjectId.any selectedIds.contains ||
      operationKeys.contains (some event.executionId, some event.operationId)

def RequestBookkeeper.forObject (bookkeeper : RequestBookkeeper) (ref : CreatedObjectRef)
    (recursive : Bool) : Except PyError (List BookkeepingEntry) := do
  checkRef ref "ref"
  let created := createdRecords bookkeeper.entries
  if ref ∉ created.map (·.ref) then return []
  let selected := if recursive then selectDescendants created (created.length + 1) [ref] else [ref]
  return bookkeeper.entries.filter (factSelected created selected ·.fact)

variable {entries : List BookkeepingEntry} {state : ValidationState} {ref : CreatedObjectRef}
  {selected : List CreatedObjectRef} {created done rest : List CreatedObjectRecord}
  {parent record root : CreatedObjectRecord}

theorem object?_eq_some {fact : BookkeepingFact} :
    fact.object? = some record ↔ fact = .object record := by
  cases fact <;> simp [BookkeepingFact.object?]

theorem mem_createdRecords : record ∈ createdRecords entries ↔ Creates entries record := by
  simp only [createdRecords, Creates, mem_filterMap, mem_map, object?_eq_some]

theorem mem_selectChild {object : CreatedObjectRef} :
    object ∈ selectChild selected record ↔ object ∈ selected ∨
      object = record.ref ∧ ∃ parent ∈ record.parentRefs, parent ∈ selected := by
  unfold selectChild
  split
  next h => grind
  next h => grind

theorem selectPass_append :
    selectPass (done ++ rest) selected = selectPass rest (selectPass done selected) :=
  foldl_append

theorem mem_selectPass_of_mem (h : ref ∈ selected) : ref ∈ selectPass created selected := by
  induction created generalizing selected with
  | nil => exact h
  | cons record created ih => exact ih (mem_selectChild.mpr (.inl h))

theorem mem_selectPass (h : ref ∈ selectPass created selected) :
    ref ∈ selected ∨ ref ∈ created.map (·.ref) := by
  induction created generalizing selected with
  | nil => exact .inl h
  | cons record created ih =>
    rcases ih h with hmem | hmem
    · rcases mem_selectChild.mp hmem with hmem | ⟨rfl, -⟩
      · exact .inl hmem
      · exact .inr mem_cons_self
    · exact .inr (mem_cons_of_mem _ hmem)

theorem selectPass_of_closed
    (h : ∀ record ∈ created, ∀ parent ∈ record.parentRefs, parent ∈ selected →
      record.ref ∈ selected) : selectPass created selected = selected := by
  refine foldlRecOn (motive := (· = selected)) created selectChild rfl ?_
  rintro _ rfl record hrecord
  unfold selectChild
  rw [if_neg]
  simpa using h record hrecord

def DescendantOf (entries : List BookkeepingEntry) (ref : CreatedObjectRef)
    (record : CreatedObjectRecord) : Prop :=
  ∃ root, Creates entries root ∧ root.ref = ref ∧
    Relation.ReflTransGen (ParentOf entries) root record

def Concerns (fact : BookkeepingFact) (record : CreatedObjectRecord) : Prop :=
  match fact with
  | .object created => created = record
  | .stage stage => record.ref ∈ stage.objectRefs
  | .event event => event.subjectObjectId = some record.ref.objectId ∨
      record.ref.kind = .executionOperation ∧
        record.scope.executionId = some event.executionId ∧
        record.scope.operationId = some event.operationId

theorem DescendantOf.creates (h : DescendantOf entries ref record) : Creates entries record := by
  obtain ⟨root, hroot, -, hpath⟩ := h
  cases hpath with
  | refl => exact hroot
  | tail _ hparent => exact hparent.2.1

theorem DescendantOf.child (h : DescendantOf entries ref parent) (hcreated : Creates entries record)
    (href : parent.ref ∈ record.parentRefs) : DescendantOf entries ref record := by
  have hparent : ParentOf entries parent record := ⟨h.creates, hcreated, href⟩
  obtain ⟨root, hroot, hsame, hpath⟩ := h
  exact ⟨root, hroot, hsame, hpath.tail hparent⟩

theorem selectPass_sound (hroot : Creates entries root) (href : root.ref = ref) :
    ∀ object ∈ selectPass (createdRecords entries) [ref],
      ∃ record, DescendantOf entries ref record ∧ record.ref = object := by
  refine foldlRecOn (motive := fun selected : List CreatedObjectRef => ∀ object ∈ selected,
    ∃ record, DescendantOf entries ref record ∧ record.ref = object) _ selectChild ?_ ?_
  · intro object hobject
    exact ⟨root, ⟨root, hroot, href, .refl⟩, href.trans (mem_singleton.mp hobject).symm⟩
  · intro selected ih record hrecord object hobject
    rcases mem_selectChild.mp hobject with hobject | ⟨rfl, parentRef, hparent, hselected⟩
    · exact ih object hobject
    · obtain ⟨parent, hdescends, rfl⟩ := ih parentRef hselected
      exact ⟨record, hdescends.child (mem_createdRecords.mp hrecord) hparent, rfl⟩

section

variable (h : validateLedgerState entries = .ok state)
include h

theorem parent_not_after (hsplit : createdRecords entries = done ++ record :: rest)
    (href : ref ∈ record.parentRefs) : ref ∉ (record :: rest).map (·.ref) := by
  have horder : (createdRecords entries).Pairwise fun a b => b.ref ∉ a.parentRefs := by
    refine pairwise_filterMap.mpr ((entries_follow h).imp_of_mem ?_)
    intro a b ha hb order x hx y hy href
    have hlt := (parent_before h hb ha (object?_eq_some.mp hy) (object?_eq_some.mp hx) href).1
    exact lt_asymm hlt order.sequence
  rw [hsplit] at horder
  have hlater := (pairwise_cons.mp (pairwise_append.mp horder).2.1).1
  intro hmem
  obtain ⟨later, hlater', rfl⟩ := mem_map.mp hmem
  rcases mem_cons.mp hlater' with rfl | hrest
  · obtain ⟨entry, hentry, hfact⟩ :=
      mem_map.mp (mem_createdRecords.mp (hsplit ▸ mem_append_right done mem_cons_self))
    exact lt_irrefl _ (parent_before h hentry hentry hfact hfact href).1
  · exact hlater later hrest href

theorem selectPass_complete (hdescends : DescendantOf entries ref record) :
    record.ref ∈ selectPass (createdRecords entries) [ref] := by
  obtain ⟨root, hroot, rfl, hpath⟩ := hdescends
  induction hpath with
  | refl => exact mem_selectPass_of_mem mem_cons_self
  | tail _ hparent ih =>
    -- the parent was selected in the part of the ledger before its child
    obtain ⟨done, rest, hsplit⟩ := append_of_mem (mem_createdRecords.mpr hparent.2.1)
    rw [hsplit, selectPass_append] at ih ⊢
    have hbefore := (mem_selectPass ih).resolve_right (parent_not_after h hsplit hparent.2.2)
    have hchild := mem_selectChild.mpr (.inr ⟨rfl, _, hparent.2.2, hbefore⟩)
    rw [← singleton_append, selectPass_append]
    exact mem_selectPass_of_mem hchild

theorem mem_selectPass_created (hroot : Creates entries root) (object : CreatedObjectRef) :
    object ∈ selectPass (createdRecords entries) [root.ref] ↔
      ∃ record, DescendantOf entries root.ref record ∧ record.ref = object := by
  constructor
  · exact selectPass_sound hroot rfl object
  · rintro ⟨record, hdescends, rfl⟩
    exact selectPass_complete h hdescends

/-- Parents come before their children in a ledger, so the second pass selects nothing. -/
theorem selectDescendants_eq (hroot : Creates entries root) (passes : Nat) :
    selectDescendants (createdRecords entries) (passes + 2) [root.ref] =
      selectPass (createdRecords entries) [root.ref] := by
  have hclosed : selectPass (createdRecords entries)
      (selectPass (createdRecords entries) [root.ref]) =
        selectPass (createdRecords entries) [root.ref] := by
    refine selectPass_of_closed fun record hrecord parentRef hparent hselected => ?_
    obtain ⟨parent, hdescends, rfl⟩ := (mem_selectPass_created h hroot _).mp hselected
    exact selectPass_complete h (hdescends.child (mem_createdRecords.mp hrecord) hparent)
  by_cases hfirst : selectPass (createdRecords entries) [root.ref] = [root.ref]
  · simp [selectDescendants, hfirst]
  · simp [selectDescendants, hfirst, hclosed]

theorem created_selected (hroot : Creates entries root) (hcreated : Creates entries record) :
    record.ref ∈ selectPass (createdRecords entries) [root.ref] ↔
      DescendantOf entries root.ref record := by
  rw [mem_selectPass_created h hroot]
  constructor
  · rintro ⟨found, hdescends, href⟩
    rwa [created_unique h hcreated hdescends.creates (congrArg (·.objectId) href.symm)]
  · exact fun hdescends => ⟨record, hdescends, rfl⟩

theorem factSelected_iff (hroot : Creates entries root) {fact : BookkeepingFact}
    (hfact : fact ∈ entries.map (·.fact)) :
    factSelected (createdRecords entries) (selectPass (createdRecords entries) [root.ref]) fact =
      true ↔ ∃ record, DescendantOf entries root.ref record ∧ Concerns fact record := by
  have hmem := mem_selectPass_created h hroot
  cases fact with
  | object created =>
    simp only [factSelected, Concerns, contains_iff_mem, created_selected h hroot hfact]
    exact ⟨fun hdescends => ⟨created, hdescends, rfl⟩, fun ⟨_, hdescends, heq⟩ => heq ▸ hdescends⟩
  | stage stage =>
    simp only [factSelected, Concerns, any_eq_true, contains_iff_mem, hmem]
    constructor
    · rintro ⟨_, href, record, hdescends, rfl⟩
      exact ⟨record, hdescends, href⟩
    · rintro ⟨record, hdescends, href⟩
      exact ⟨_, href, record, hdescends, rfl⟩
  | event event =>
    simp only [factSelected, Concerns, Bool.or_eq_true, Option.any_eq_true, contains_iff_mem,
      mem_map, mem_filter, Bool.and_eq_true, beq_iff_eq, Prod.mk.injEq, mem_createdRecords]
    constructor
    · rintro (⟨_, hsubject, _, hselected, rfl⟩ | ⟨record, ⟨hcreated, hselected, hkind⟩, hkeys⟩)
      · obtain ⟨record, hdescends, rfl⟩ := (hmem _).mp hselected
        exact ⟨record, hdescends, .inl hsubject⟩
      · exact ⟨record, (created_selected h hroot hcreated).mp hselected, .inr ⟨hkind, hkeys⟩⟩
    · rintro ⟨record, hdescends, hsubject | ⟨hkind, hkeys⟩⟩
      · exact .inl ⟨_, hsubject, _, (hmem _).mpr ⟨record, hdescends, rfl⟩, rfl⟩
      · exact .inr ⟨record, ⟨hdescends.creates, selectPass_complete h hdescends, hkind⟩, hkeys⟩

end

open Classical in
/-- A recursive query returns the entries that concern the object or one of its descendants, in
ledger order. -/
theorem forObject_recursive (bookkeeper : RequestBookkeeper) (ref : CreatedObjectRef) :
    bookkeeper.forObject ref true = (do
      checkRef ref "ref"
      return bookkeeper.entries.filter fun entry =>
        ∃ record, DescendantOf bookkeeper.entries ref record ∧ Concerns entry.fact record) := by
  unfold RequestBookkeeper.forObject
  refine bind_congr fun _ => ?_
  dsimp only
  split
  next hnone =>
    refine congrArg pure (filter_eq_nil_iff.mpr fun entry _ hmeets => ?_).symm
    obtain ⟨record, ⟨root, hroot, href, -⟩, -⟩ := of_decide_eq_true hmeets
    exact hnone (mem_map.mpr ⟨root, mem_createdRecords.mpr hroot, href⟩)
  next hsome =>
    obtain ⟨root, hmem, rfl⟩ := mem_map.mp (not_not.mp hsome)
    have hroot := mem_createdRecords.mp hmem
    obtain ⟨passes, hpasses⟩ := Nat.exists_eq_add_of_lt (length_pos_of_mem hmem)
    have hselected : selectDescendants (createdRecords bookkeeper.entries)
        ((createdRecords bookkeeper.entries).length + 1) [root.ref] =
          selectPass (createdRecords bookkeeper.entries) [root.ref] := by
      rw [hpasses, Nat.zero_add]
      exact selectDescendants_eq bookkeeper.valid hroot passes
    rw [if_pos rfl, hselected]
    refine congrArg pure (filter_congr fun entry hentry => ?_)
    rw [Bool.eq_iff_iff, decide_eq_true_iff]
    exact factSelected_iff bookkeeper.valid hroot (mem_map_of_mem hentry)

end SimLLM
