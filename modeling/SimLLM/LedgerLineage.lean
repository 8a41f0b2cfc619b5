import SimLLM.BookkeepingWire

namespace SimLLM

open List

variable {entries done rest : List BookkeepingEntry} {entry : BookkeepingEntry}
  {view : ValidationTables} {effect : FactEffect} {state : ValidationState} {path : String}
  {child parent record : CreatedObjectRecord} {event : CompletionEvent} {request subjectId : String}

def Creates (entries : List BookkeepingEntry) (record : CreatedObjectRecord) : Prop :=
  .object record ∈ entries.map (·.fact)

def Reports (entries : List BookkeepingEntry) (event : CompletionEvent) : Prop :=
  .event event ∈ entries.map (·.fact)

structure TablesOf (done : List BookkeepingEntry) (view : ValidationTables) : Prop where
  objects : ∀ id record, view.objects id = some record ↔
    record.ref.objectId = id ∧ Creates done record
  noted : ∀ event subjectId, Reports done event → event.subjectObjectId = some subjectId →
    ∃ subject last, view.objects subjectId = some subject ∧
      view.subjectTimestamps subjectId = some last ∧ event.timestampPs ≤ last ∧
      (subject.ref.kind = .networkWqe → event.phase = .completed →
        view.completedWqes subjectId = true)

theorem checkReferences_spec {refs : List CreatedObjectRef} {timestampPs : Nat} {late : String}
    {records : List CreatedObjectRecord}
    (h : checkReferences view refs timestampPs late path = .ok records) :
    List.Forall₂ (fun ref prior => prior.ref = ref ∧ view.objects ref.objectId = some prior ∧
      prior.createdAtPs ≤ timestampPs) refs records := by
  rw [← zipIdx_map_fst 0 refs, forall₂_map_left_iff]
  refine (mapM_eq_ok.mp h).imp fun row prior hrow => ?_
  unfold checkReference at hrow
  split at hrow
  · cases hrow
  next found hfound =>
    obtain ⟨_, hsame, hrow⟩ := of_bind hrow
    obtain ⟨_, hold, hrow⟩ := of_bind hrow
    cases hrow
    exact ⟨beq_iff_eq.mp (require_eq_ok.mp hsame), hfound,
      of_decide_eq_true (require_eq_ok.mp hold)⟩

theorem checkScopeLineage_requests {parents : List CreatedObjectRecord} {scope : BookkeepingScope}
    {u : Unit} (h : checkScopeLineage parents scope path = .ok u) (hparent : parent ∈ parents)
    (hcausal : parent.ref.kind ∉ reusableObjectKinds)
    (hrequest : request ∈ scope.correlation.requestIds) :
    ∃ source ∈ parents, source.ref.kind ∉ reusableObjectKinds ∧
      request ∈ source.scope.correlation.requestIds := by
  unfold checkScopeLineage at h
  dsimp only at h
  split at h
  next hempty =>
    have hmem : parent ∈ parents.filter fun parent =>
        !reusableObjectKinds.contains parent.ref.kind :=
      mem_filter.mpr ⟨hparent, by simpa using hcausal⟩
    rw [map_eq_nil_iff.mp (isEmpty_iff.mp hempty)] at hmem
    cases hmem
  next =>
    obtain ⟨_, hknown, -⟩ := of_bind h
    have hnone := isEmpty_iff.mp (require_eq_ok.mp hknown)
    by_contra hnew
    have hmem : request ∈ ([] : List String) := by
      rw [← hnone, mem_sortedSet, mem_filter]
      refine ⟨hrequest, ?_⟩
      simpa using fun source hsource hkind hin => hnew ⟨source, hsource, hkind, hin⟩
    cases hmem

theorem checkObject_spec (h : checkObject view child path = .ok effect) :
    effect = .create child ∧ view.objects child.ref.objectId = none ∧
      (∀ ref ∈ child.parentRefs, ∃ parent, view.objects ref.objectId = some parent ∧
        parent.ref = ref ∧ parent.createdAtPs ≤ child.createdAtPs) ∧
      ∀ ref ∈ child.parentRefs, ref.kind ∉ reusableObjectKinds →
        ∀ request ∈ child.scope.correlation.requestIds, ∃ source,
          view.objects source.ref.objectId = some source ∧ source.ref ∈ child.parentRefs ∧
          source.ref.kind ∉ reusableObjectKinds ∧
          request ∈ source.scope.correlation.requestIds := by
  replace h := of_check h
  obtain ⟨_, hfresh, h⟩ := of_bind h
  replace h := of_check h
  replace h := of_check h
  replace h := of_check h
  replace h := of_check h
  obtain ⟨parents, hparents, h⟩ := of_bind h
  obtain ⟨_, hlineage, h⟩ := of_bind h
  replace h := of_check h
  have hchecked := checkReferences_spec hparents
  refine ⟨?_, Option.isNone_iff_eq_none.mp (require_eq_ok.mp hfresh), fun ref href => ?_,
    fun ref href hcausal request hrequest => ?_⟩
  · dsimp only at h
    split at h
    · replace h := of_check h
      exact (Except.ok.inj h).symm
    · exact (Except.ok.inj h).symm
  · obtain ⟨parent, -, hsame, hfound, htime⟩ := hchecked.exists_right href
    exact ⟨parent, hfound, hsame, htime⟩
  · obtain ⟨parent, hmem, rfl, -⟩ := hchecked.exists_right href
    obtain ⟨source, hsource, hkind, hin⟩ :=
      checkScopeLineage_requests hlineage hmem hcausal hrequest
    obtain ⟨_, hmember, rfl, hfound, -⟩ := hchecked.exists_left hsource
    exact ⟨source, hfound, hmember, hkind, hin⟩

theorem checkSubjectEvent_spec (h : checkSubjectEvent view subjectId event path = .ok effect) :
    ∃ subject completes, effect = .subject subjectId event.timestampPs completes ∧
      view.objects subjectId = some subject ∧ subject.createdAtPs ≤ event.timestampPs ∧
      (∀ last, view.subjectTimestamps subjectId = some last → last ≤ event.timestampPs) ∧
      (subject.ref.kind = .networkWqe → view.completedWqes subjectId = false ∧
        (event.phase = .completed → completes = true ∧ ∃ queue ∈ subject.parentRefs,
          queue.kind = .completionQueue ∧
          event.resource = some ⟨.completionQueue, queue.objectId⟩)) := by
  unfold checkSubjectEvent at h
  split at h
  · cases h
  next subject hsubject =>
    replace h := of_check h
    replace h := of_check h
    obtain ⟨_, hcreated, h⟩ := of_bind h
    obtain ⟨_, hlast, h⟩ := of_bind h
    have hcreated := of_decide_eq_true (require_eq_ok.mp hcreated)
    have hlast : ∀ last, view.subjectTimestamps subjectId = some last →
        last ≤ event.timestampPs := fun last heq => by simpa [heq] using hlast
    split at h
    next =>
      obtain ⟨completes, hwqe, h⟩ := of_bind h
      refine ⟨subject, completes, (Except.ok.inj h).symm, hsubject, hcreated, hlast, fun _ => ?_⟩
      obtain ⟨_, hopen, hwqe⟩ := of_bind hwqe
      refine ⟨by simpa using hopen, fun hphase => ?_⟩
      rw [if_pos (beq_iff_eq.mpr hphase)] at hwqe
      split at hwqe
      next => cases hwqe
      next queue hqueue =>
        obtain ⟨_, hresource, hwqe⟩ := of_bind hwqe
        exact ⟨(Except.ok.inj hwqe).symm.trans (beq_iff_eq.mpr hphase), queue,
          mem_of_find?_eq_some hqueue, by simpa using find?_some hqueue,
          beq_iff_eq.mp (require_eq_ok.mp hresource)⟩
    next hkind =>
      exact ⟨subject, false, (Except.ok.inj h).symm, hsubject, hcreated, hlast,
        fun hwqe => absurd (beq_iff_eq.mpr hwqe) hkind⟩

theorem creates_append :
    Creates (done ++ [entry]) record ↔ Creates done record ∨ entry.fact = .object record := by
  simp [Creates, eq_comm]

theorem reports_append : Reports (done ++ [entry]) event ↔
    Reports done event ∨ entry.fact = .event event := by
  simp [Reports, eq_comm]

theorem TablesOf.create (tables : TablesOf done view) (hfact : entry.fact = .object child)
    (hfresh : view.objects child.ref.objectId = none) :
    TablesOf (done ++ [entry]) (view.apply (.create child)) := by
  constructor
  · intro id record
    rw [creates_append, hfact]
    simp only [ValidationTables.apply, BookkeepingFact.object.injEq]
    split
    next hid =>
      have hnot : ¬ (record.ref.objectId = child.ref.objectId ∧ Creates done record) := by
        simp [← tables.objects, hfresh]
      grind
    next hid => grind [tables.objects id record]
  · intro event subjectId hreports hsubject
    rw [reports_append, hfact] at hreports
    obtain ⟨subject, last, hobject, hnoted⟩ :=
      tables.noted event subjectId (hreports.resolve_right BookkeepingFact.noConfusion) hsubject
    refine ⟨subject, last, ?_, hnoted⟩
    have hne : subjectId ≠ child.ref.objectId := by
      rintro rfl
      rw [hfresh] at hobject
      cases hobject
    simpa only [ValidationTables.apply, if_neg hne] using hobject

theorem TablesOf.report (tables : TablesOf done view)
    (hfact : entry.fact = .event event) (hsubject : event.subjectObjectId = some subjectId)
    (h : checkSubjectEvent view subjectId event path = .ok effect) :
    TablesOf (done ++ [entry]) (view.apply effect) := by
  obtain ⟨subject, completes, rfl, hobject, -, hlast, hwqe⟩ := checkSubjectEvent_spec h
  constructor
  · intro id record
    rw [creates_append, hfact]
    simpa [ValidationTables.apply] using tables.objects id record
  · intro other otherId hreports hother
    rw [reports_append, hfact] at hreports
    simp only [ValidationTables.apply]
    rcases hreports with hreports | hsame
    · obtain ⟨subject, last, hfound, htime, hle, hdone⟩ :=
        tables.noted other otherId hreports hother
      by_cases hid : otherId = subjectId
      · subst hid
        exact ⟨subject, event.timestampPs, hfound, if_pos rfl, hle.trans (hlast last htime),
          fun hkind hphase => by simp [hdone hkind hphase]⟩
      · exact ⟨subject, last, hfound, by rw [if_neg hid, htime], hle,
          fun hkind hphase => by simp [hdone hkind hphase]⟩
    · cases hsame
      cases hother.symm.trans hsubject
      exact ⟨subject, event.timestampPs, hobject, if_pos rfl, le_rfl,
        fun hkind hphase => by simp [((hwqe hkind).2 hphase).1]⟩

theorem TablesOf.step (tables : TablesOf done view)
    (h : checkFact view entry.fact path = .ok effect) :
    TablesOf (done ++ [entry]) (view.apply effect) := by
  -- a fact that adds nothing names no object and no subject
  have hnothing : effect = .nothing → (∀ record, entry.fact ≠ .object record) →
      (∀ event, entry.fact = .event event → event.subjectObjectId = none) →
      TablesOf (done ++ [entry]) (view.apply effect) := by
    rintro rfl hobject hevent
    refine ⟨fun id record => ?_, fun event subjectId hreports hsubject => ?_⟩
    · simpa [ValidationTables.apply, creates_append, hobject] using tables.objects id record
    · refine tables.noted event subjectId ((reports_append.mp hreports).resolve_right ?_) hsubject
      intro heq
      rw [hevent event heq] at hsubject
      cases hsubject
  cases hfact : entry.fact with
  | object record =>
    rw [hfact] at h
    obtain ⟨rfl, hfresh, -⟩ := checkObject_spec h
    exact tables.create hfact hfresh
  | stage record =>
    rw [hfact] at h
    replace h := of_check h
    replace h := of_check h
    obtain ⟨_, -, h⟩ := of_bind h
    replace h := of_check h
    exact hnothing (Except.ok.inj h).symm (by simp [hfact]) (by simp [hfact])
  | event event =>
    rw [hfact] at h
    replace h := of_check h
    split at h
    next hnone => exact hnothing (Except.ok.inj h).symm (by simp [hfact]) (by simp [hfact, hnone])
    next subjectId hsubject => exact tables.report hfact hsubject h

theorem tablesOf (h : validateLedgerState done = .ok state) : TablesOf done state.view := by
  induction done using List.reverseRecOn generalizing state with
  | nil =>
    cases h
    exact ⟨by simp [Creates, ValidationState.view], by simp [Reports]⟩
  | append_singleton done entry ih =>
    unfold validateLedgerState at h
    rw [validateEntries_append] at h
    obtain ⟨middle, hdone, h⟩ := of_bind h
    obtain ⟨last, h, hlast⟩ := of_bind h
    cases hlast
    replace h := of_check h
    obtain ⟨effect, hcheck, h⟩ := of_bind h
    cases h
    rw [ValidationState.view_apply]
    exact (ih hdone).step hcheck

theorem validated_split (h : validateLedgerState (done ++ entry :: rest) = .ok state) :
    ∃ view effect path, TablesOf done view ∧ entry.sequence = done.length ∧
      checkFact view entry.fact path = .ok effect := by
  unfold validateLedgerState at h
  rw [validateEntries_append] at h
  obtain ⟨middle, hdone, h⟩ := of_bind h
  obtain ⟨next, h, -⟩ := of_bind h
  obtain ⟨_, hsequence, h⟩ := of_bind h
  obtain ⟨effect, hcheck, -⟩ := of_bind h
  exact ⟨_, effect, _, tablesOf hdone,
    (beq_iff_eq.mp (require_eq_ok.mp hsequence)).trans (Nat.zero_add _), hcheck⟩

def ParentOf (entries : List BookkeepingEntry) (parent child : CreatedObjectRecord) : Prop :=
  Creates entries parent ∧ Creates entries child ∧ parent.ref ∈ child.parentRefs

def CausalParentOf (entries : List BookkeepingEntry) (parent child : CreatedObjectRecord) : Prop :=
  ParentOf entries parent child ∧ parent.ref.kind ∉ reusableObjectKinds

/-- What holds of an entry and a later one: they create different objects, the events of a
subject go forward in time, and the completion of a WQE is the last of its events. -/
structure EntryOrder (entries : List BookkeepingEntry) (earlier later : BookkeepingEntry) :
    Prop where
  sequence : earlier.sequence < later.sequence
  objects : ∀ a b, earlier.fact = .object a → later.fact = .object b →
    a.ref.objectId ≠ b.ref.objectId
  events : ∀ a b subject, earlier.fact = .event a → later.fact = .event b →
    Creates entries subject → a.subjectObjectId = some subject.ref.objectId →
    b.subjectObjectId = some subject.ref.objectId → a.timestampPs ≤ b.timestampPs ∧
      (subject.ref.kind = .networkWqe → a.phase ≠ .completed)

theorem pairwise_of_split {α : Type} {R : α → α → Prop} {l : List α}
    (h : ∀ done x rest, l = done ++ x :: rest → ∀ a ∈ done, R a x) : l.Pairwise R := by
  refine pairwise_iff_getElem.mpr fun i j hi hj hij => ?_
  refine h (l.take j) l[j] (l.drop (j + 1)) ?_ _ (mem_take_iff_getElem.mpr ⟨i, by omega, rfl⟩)
  rw [← drop_eq_getElem_cons hj, take_append_drop]

theorem TablesOf.mem (tables : TablesOf done view) {id : String}
    (h : view.objects id = some record) : ∃ entry ∈ done, entry.fact = .object record :=
  mem_map.mp ((tables.objects id record).mp h).2

section

variable (h : validateLedgerState entries = .ok state)
include h

section

variable {a : BookkeepingEntry} (hsplit : entries = done ++ entry :: rest) (ha : a ∈ done)
include hsplit ha

theorem sequence_lt : a.sequence < entry.sequence := by
  obtain ⟨_, _, _, -, hentry, -⟩ := validated_split (hsplit ▸ h)
  obtain ⟨first, later, rfl⟩ := append_of_mem ha
  rw [append_assoc, cons_append] at hsplit
  obtain ⟨_, _, _, -, hearlier, -⟩ := validated_split (hsplit ▸ h)
  rw [hentry, hearlier, length_append, length_cons]
  omega

theorem created_fresh (hrecord : a.fact = .object record) (hchild : entry.fact = .object child) :
    record.ref.objectId ≠ child.ref.objectId := by
  intro hid
  obtain ⟨view, effect, path, tables, -, hcheck⟩ := validated_split (hsplit ▸ h)
  rw [hchild] at hcheck
  have hfresh := (checkObject_spec hcheck).2.1
  rw [(tables.objects _ record).mpr ⟨hid, mem_map.mpr ⟨a, ha, hrecord⟩⟩] at hfresh
  cases hfresh

end

theorem created_unique (hrecord : Creates entries record) (hchild : Creates entries child)
    (hid : record.ref.objectId = child.ref.objectId) : record = child := by
  have hfound := ((tablesOf h).objects _ record).mpr ⟨hid, hrecord⟩
  exact Option.some.inj (hfound.symm.trans (((tablesOf h).objects _ child).mpr ⟨rfl, hchild⟩))

theorem parent_found (hsplit : entries = done ++ entry :: rest)
    (hchild : entry.fact = .object child) {ref : CreatedObjectRef}
    (href : ref ∈ child.parentRefs) : ∃ a ∈ done, ∃ parent,
      a.fact = .object parent ∧ parent.ref = ref ∧ parent.createdAtPs ≤ child.createdAtPs := by
  obtain ⟨view, effect, path, tables, -, hcheck⟩ := validated_split (hsplit ▸ h)
  rw [hchild] at hcheck
  obtain ⟨parent, hparent, hsame, htime⟩ := (checkObject_spec hcheck).2.2.1 ref href
  obtain ⟨a, ha, hfact⟩ := tables.mem hparent
  exact ⟨a, ha, parent, hfact, hsame, htime⟩

theorem parent_before {a b : BookkeepingEntry} (ha : a ∈ entries) (hb : b ∈ entries)
    (hparent : a.fact = .object parent) (hchild : b.fact = .object child)
    (href : parent.ref ∈ child.parentRefs) :
    a.sequence < b.sequence ∧ parent.createdAtPs ≤ child.createdAtPs := by
  obtain ⟨done, rest, rfl⟩ := append_of_mem hb
  obtain ⟨creator, hcreator, prior, hfact, hsame, htime⟩ := parent_found h rfl hchild href
  have hid : prior.ref.objectId = parent.ref.objectId := congrArg _ hsame
  rcases mem_append.mp ha with hbefore | hafter
  · have heq := created_unique h
      (mem_map.mpr ⟨creator, mem_append_left _ hcreator, hfact⟩)
      (mem_map.mpr ⟨a, ha, hparent⟩) hid
    exact ⟨sequence_lt h rfl hbefore, heq ▸ htime⟩
  · -- the parent would be created a second time
    obtain ⟨first, later, hsplit⟩ := append_of_mem hafter
    rw [hsplit, ← append_assoc] at h
    exact absurd hid (created_fresh h rfl (mem_append_left _ hcreator) hfact hparent)

theorem ancestor_before {ancestor : CreatedObjectRecord}
    (hpath : Relation.TransGen (ParentOf entries) ancestor child) :
    ∀ a ∈ entries, ∀ b ∈ entries, a.fact = .object ancestor → b.fact = .object child →
      a.sequence < b.sequence := by
  induction hpath with
  | single hparent => exact fun a ha b hb hfirst hlast =>
      (parent_before h ha hb hfirst hlast hparent.2.2).1
  | tail _ hparent ih =>
    intro a ha b hb hfirst hlast
    obtain ⟨middle, hmiddle, hfact⟩ := mem_map.mp hparent.1
    exact (ih a ha middle hmiddle hfirst hfact).trans
      (parent_before h hmiddle hb hfact hlast hparent.2.2).1

theorem request_source (hchild : entry ∈ entries) (hfact : entry.fact = .object child)
    (hrequest : request ∈ child.scope.correlation.requestIds)
    (hcausal : ∃ parent, CausalParentOf entries parent child) :
    ∃ source, CausalParentOf entries source child ∧
      request ∈ source.scope.correlation.requestIds := by
  obtain ⟨parent, ⟨-, -, href⟩, hkind⟩ := hcausal
  obtain ⟨done, rest, rfl⟩ := append_of_mem hchild
  obtain ⟨view, effect, path, tables, -, hcheck⟩ := validated_split h
  rw [hfact] at hcheck
  obtain ⟨source, hsource, hparent, hsourceKind, hin⟩ :=
    (checkObject_spec hcheck).2.2.2 parent.ref href hkind request hrequest
  obtain ⟨creator, hcreator, hcreates⟩ := tables.mem hsource
  exact ⟨source, ⟨⟨mem_map.mpr ⟨creator, mem_append_left _ hcreator, hcreates⟩,
    mem_map.mpr ⟨entry, hchild, hfact⟩, hparent⟩, hsourceKind⟩, hin⟩

/-- A request is traced back along causal parents; the induction is on the sequence number. -/
theorem request_root : ∀ n, ∀ entry ∈ entries, entry.sequence = n →
    ∀ child, entry.fact = .object child → request ∈ child.scope.correlation.requestIds →
    (∃ parent, CausalParentOf entries parent child) →
    ∃ ancestor, Relation.TransGen (CausalParentOf entries) ancestor child ∧
      (∀ parent, ¬ CausalParentOf entries parent ancestor) ∧
      request ∈ ancestor.scope.correlation.requestIds := by
  intro n
  induction n using Nat.strong_induction_on with
  | _ n ih =>
    rintro entry hentry rfl child hfact hrequest hcausal
    obtain ⟨source, hsource, hin⟩ := request_source h hentry hfact hrequest hcausal
    by_cases hroot : ∃ parent, CausalParentOf entries parent source
    · obtain ⟨creator, hcreator, hcreates⟩ := mem_map.mp hsource.1.1
      have hlt := (parent_before h hcreator hentry hcreates hfact hsource.1.2.2).1
      obtain ⟨ancestor, hpath, hfree, hmem⟩ :=
        ih _ hlt creator hcreator rfl source hcreates hin hroot
      exact ⟨ancestor, hpath.tail hsource, hfree, hmem⟩
    · exact ⟨source, .single hsource, not_exists.mp hroot, hin⟩

theorem event_checked {subject : CreatedObjectRecord} (hsplit : entries = done ++ entry :: rest)
    (hfact : entry.fact = .event event) (hcreated : Creates entries subject)
    (hsubject : event.subjectObjectId = some subject.ref.objectId) :
    ∃ view effect path, TablesOf done view ∧ view.objects subject.ref.objectId = some subject ∧
      checkSubjectEvent view subject.ref.objectId event path = .ok effect := by
  obtain ⟨view, effect, path, tables, -, hcheck⟩ := validated_split (hsplit ▸ h)
  rw [hfact] at hcheck
  replace hcheck := of_check hcheck
  rw [hsubject] at hcheck
  obtain ⟨found, -, -, hfound, -⟩ := checkSubjectEvent_spec hcheck
  obtain ⟨creator, hcreator, hcreates⟩ := tables.mem hfound
  obtain rfl := created_unique h
    (mem_map.mpr ⟨creator, hsplit ▸ mem_append_left _ hcreator, hcreates⟩) hcreated
    ((tables.objects _ _).mp hfound).1
  exact ⟨view, effect, path, tables, hfound, hcheck⟩

theorem entries_follow : entries.Pairwise (EntryOrder entries) := by
  refine pairwise_of_split fun done x rest hsplit a ha => ⟨sequence_lt h hsplit ha,
    fun _ _ hfirst hsecond => created_fresh h hsplit ha hfirst hsecond, ?_⟩
  intro earlier later subject hearlier hlater hcreated hfirst hsecond
  obtain ⟨view, effect, path, tables, hobject, hcheck⟩ :=
    event_checked h hsplit hlater hcreated hsecond
  obtain ⟨found, _, -, hfound, -, hlast, hwqe⟩ := checkSubjectEvent_spec hcheck
  obtain ⟨noted, last, hnoted, htime, hle, hdone⟩ :=
    tables.noted earlier _ (mem_map.mpr ⟨a, ha, hearlier⟩) hfirst
  cases hobject.symm.trans hfound
  cases hobject.symm.trans hnoted
  refine ⟨hle.trans (hlast last htime), fun hkind hphase => ?_⟩
  rw [(hwqe hkind).1] at hdone
  cases hdone hkind hphase

end

/-- Parents precede their children in a validated ledger, requests come from causal roots, and
the events of a subject follow its creation in order, a WQE's up to its one completion. -/
theorem ledger_lineage (entries : List BookkeepingEntry)
    (h : validateBookkeepingLedger entries = .ok ()) :
    entries.Pairwise (EntryOrder entries) ∧
      (∀ child, Creates entries child → ∀ ref ∈ child.parentRefs,
        ∃ parent, Creates entries parent ∧ parent.ref = ref) ∧
      (∀ a ∈ entries, ∀ b ∈ entries, ∀ parent child, a.fact = .object parent →
        b.fact = .object child → parent.ref ∈ child.parentRefs →
        a.sequence < b.sequence ∧ parent.createdAtPs ≤ child.createdAtPs) ∧
      (∀ record, ¬ Relation.TransGen (ParentOf entries) record record) ∧
      (∀ child, (∃ parent, CausalParentOf entries parent child) →
        ∀ request ∈ child.scope.correlation.requestIds,
        ∃ ancestor, Relation.TransGen (CausalParentOf entries) ancestor child ∧
          (∀ parent, ¬ CausalParentOf entries parent ancestor) ∧
          request ∈ ancestor.scope.correlation.requestIds) ∧
      ∀ subject event, Creates entries subject → Reports entries event →
        event.subjectObjectId = some subject.ref.objectId →
        subject.createdAtPs ≤ event.timestampPs ∧
          (subject.ref.kind = .networkWqe → event.phase = .completed →
            ∃ queue ∈ subject.parentRefs, queue.kind = .completionQueue ∧
              event.resource = some ⟨.completionQueue, queue.objectId⟩) := by
  obtain ⟨state, h, -⟩ := of_bind h
  refine ⟨entries_follow h, fun child hchild ref href => ?_,
    fun a ha b hb parent child hparent hchild href => parent_before h ha hb hparent hchild href,
    fun record hcycle => ?_, fun child hcausal request hrequest => ?_,
    fun subject event hcreated hreports hsubject => ?_⟩
  · obtain ⟨entry, hentry, hfact⟩ := mem_map.mp hchild
    obtain ⟨done, rest, hsplit⟩ := append_of_mem hentry
    obtain ⟨a, ha, parent, hparent, hsame, -⟩ := parent_found h hsplit hfact href
    exact ⟨parent, mem_map.mpr ⟨a, hsplit ▸ mem_append_left _ ha, hparent⟩, hsame⟩
  · obtain ⟨parent, -, hlast⟩ := Relation.TransGen.tail'_iff.mp hcycle
    obtain ⟨entry, hentry, hfact⟩ := mem_map.mp hlast.2.1
    exact lt_irrefl _ (ancestor_before h hcycle entry hentry entry hentry hfact hfact)
  · obtain ⟨parent, hparent⟩ := hcausal
    obtain ⟨entry, hentry, hfact⟩ := mem_map.mp hparent.1.2.1
    exact request_root h _ entry hentry rfl child hfact hrequest ⟨parent, hparent⟩
  · obtain ⟨entry, hentry, hfact⟩ := mem_map.mp hreports
    obtain ⟨done, rest, hsplit⟩ := append_of_mem hentry
    obtain ⟨view, effect, path, -, hobject, hcheck⟩ :=
      event_checked h hsplit hfact hcreated hsubject
    obtain ⟨found, _, -, hfound, htime, -, hwqe⟩ := checkSubjectEvent_spec hcheck
    cases hobject.symm.trans hfound
    exact ⟨htime, fun hkind hphase => ((hwqe hkind).2 hphase).2⟩

def sendLedger : List BookkeepingEntry :=
  let scope : BookkeepingScope := { correlation := { requestIds := ["a"] } }
  let request : CreatedObjectRef := ⟨.frameworkRequest, "request:a"⟩
  let queues : List CreatedObjectRef :=
    [⟨.sendQueue, "sq"⟩, ⟨.receiveQueue, "rq"⟩, ⟨.completionQueue, "cq"⟩]
  numberEntries 0
    (.object { ref := request, owner := .framework, createdAtPs := 5, scope := scope } ::
    queues.map (fun ref => .object { ref := ref, owner := .deviceRuntime, createdAtPs := 0 }) ++
    [.object { ref := ⟨.networkWqe, "wqe"⟩, owner := .networkBackend, createdAtPs := 6
               scope := scope, parentRefs := request :: queues
               metadata := [("transport_kind", .str "none")] },
      .event ⟨"step-0", "op", .completed, 9, some ⟨.completionQueue, "cq"⟩, none, some "wqe"⟩])

theorem sendLedger_ordered : validateBookkeepingLedger sendLedger = .ok () ∧
    sendLedger.Pairwise (EntryOrder sendLedger) := by
  have hvalid : validateBookkeepingLedger sendLedger = .ok () := rfl
  exact ⟨hvalid, (ledger_lineage sendLedger hvalid).1⟩

end SimLLM
