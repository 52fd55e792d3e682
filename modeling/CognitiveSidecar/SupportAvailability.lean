/-
The support of the interpretations: when a reference can no longer be read, and
the pass that marks the interpretations which rest on it.
-/
import CognitiveSidecar.ForgetText
import CognitiveSidecar.Lib.Text

namespace CognitiveSidecar.Support

open List Relational

/-- A `SourceSupportRef`.  A region is kept as its JSON text. -/
inductive SourceSupportRef
  | conversationTextSpan (evidenceRowId : String) (start stop : Nat)
      (quote : String)
  | artifactTextSpan (artifactId representationId : String) (start stop : Nat)
      (quote : String)
  | documentPageRegion (artifactId representationId : String) (page : Nat)
      (region : Option String)
  | imageRegion (artifactId representationId : String) (region : Option String)
  | structuredPath (artifactId representationId path : String)
  | observationRef (observationId : String)
  | domusObservation (observationId : String)
  | teachingLesson (lessonId : String)
  | receiptRef (receiptId : String)
deriving DecidableEq

inductive SupportUnavailableReason
  | sourceRedacted | sourceForgotten | sourceInaccessible
deriving DecidableEq

/-- Intact support has no reason, and unavailable support always has one. -/
inductive SupportAvailability
  | intact
  | unavailable (reason : SupportUnavailableReason)
deriving DecidableEq

inductive ApplicabilityLifecycle
  | current | needsReview | superseded | withdrawn
deriving DecidableEq

/-- The parts of an interpretation envelope beside its lifecycle. -/
structure EnvelopeBody where
  support : List SourceSupportRef
  revisionEvidenceRefs : List SourceSupportRef := []
  derivationParents : List String := []
  revisionOf : Option String := none
  supportAvailability : SupportAvailability := .intact
  other : String := ""
deriving DecidableEq

/-- An envelope as it is stored; its own lifecycle may be none that is known. -/
structure StoredEnvelope where
  body : EnvelopeBody
  applicabilityLifecycle : Option ApplicabilityLifecycle
deriving DecidableEq

structure InterpretationEnvelope where
  body : EnvelopeBody
  applicabilityLifecycle : ApplicabilityLifecycle

/-- A payload: without an envelope, with one that its reader refuses, or with
one it accepts under a known lifecycle. -/
inductive WorkingContextPayload
  | plain (text : String)
  | malformed (text : String)
  | interpretation (text : String) (envelope : StoredEnvelope)
deriving DecidableEq

/-- A row of `working_context_items`. -/
structure WorkingContextItem where
  (id conversationId : String)
  payload : WorkingContextPayload
  superseded : Bool := false
  applicabilityLifecycle : Option ApplicabilityLifecycle
deriving DecidableEq

instance : Keyed WorkingContextItem String := ⟨WorkingContextItem.id⟩

inductive DependencyKind
  | support | revision
deriving DecidableEq

/-- A row of `interpretation_dependencies`. -/
structure DependencyEdge where
  (fromId toId : String)
  kind : DependencyKind
deriving DecidableEq

/-- A row of `conversation_evidence_log`; one with an unknown role or speaker is
not read. -/
structure EvidenceRecord where
  (rowId lineageId : String)
  version : Nat
  conversationId : String
  text : Option String
  sourceStatus : String
  createdAtMs : Int
  isReadable : Bool := true

instance : Keyed EvidenceRecord String := ⟨EvidenceRecord.rowId⟩

/-- A row of `observations`. -/
structure ObservationRecord where
  observationId : String
  cycleId : Option String
  payload : Forget.JsonColumn
  dataClassification : DataClassification
  secretOmitted : Bool

instance : Keyed ObservationRecord String := ⟨ObservationRecord.observationId⟩

/-- A row of `effect_receipts`. -/
structure ReceiptRecord where
  (receiptId effectId : String)
  claims : Forget.JsonColumn
  dataClassification : DataClassification

instance : Keyed ReceiptRecord String := ⟨ReceiptRecord.receiptId⟩

/-- A column that names a row of another table. -/
structure Binding where
  (id value : String)

instance : Keyed Binding String := ⟨Binding.id⟩

/-- The interpretations, their dependencies and the sources they rest on: the
cycle of each effect, the conversation of each cycle, and the lessons. -/
structure SupportDb where
  items : Table WorkingContextItem := Table.empty
  edges : List DependencyEdge := []
  evidence : Table EvidenceRecord := Table.empty
  observations : Table ObservationRecord := Table.empty
  receipts : Table ReceiptRecord := Table.empty
  effectCycles : Table Binding := Table.empty
  cycleConversations : Table Binding := Table.empty
  lessons : List String := []

/-- `supportRefDependencyKey`: an observation of the Domus and a lesson have no
key. -/
def supportRefDependencyKey : SourceSupportRef → Option String
  | .conversationTextSpan evidenceRowId _ _ _ =>
    some ("conversation_evidence:" ++ evidenceRowId)
  | .observationRef observationId => some ("observation:" ++ observationId)
  | .domusObservation _ => none
  | .teachingLesson _ => none
  | .receiptRef receiptId => some ("receipt:" ++ receiptId)
  | .artifactTextSpan artifactId representationId _ _ _
  | .documentPageRegion artifactId representationId _ _
  | .imageRegion artifactId representationId _
  | .structuredPath artifactId representationId _ =>
    some ("artifact:" ++ artifactId ++ ":" ++ representationId)

def workingContextDependencyKey (id : String) : String :=
  "working_context:" ++ id

/-- All references of an envelope, in the order in which they are read. -/
def EnvelopeBody.refs (body : EnvelopeBody) : List SourceSupportRef :=
  body.support ++ body.revisionEvidenceRefs

/-- `INSERT OR IGNORE` of an edge. -/
def insertEdge (edges : List DependencyEdge) (edge : DependencyEdge) :
    List DependencyEdge :=
  if edge ∈ edges then edges else edges ++ [edge]

/-- The edges of an envelope. -/
def dependencyEdges (interpretationId : String) (body : EnvelopeBody) :
    List DependencyEdge :=
  (body.refs.filterMap supportRefDependencyKey).map
      (fun key => ⟨interpretationId, key, .support⟩) ++
    (body.derivationParents ++
        (body.revisionOf.filter (· ≠ "")).toList).map
      (fun parentId =>
        ⟨interpretationId, workingContextDependencyKey parentId, .revision⟩)

/-- Replace the edges of an interpretation by those of its envelope. -/
def persistInterpretationDependencies (db : SupportDb)
    (interpretationId : String) (envelope : Option EnvelopeBody) : SupportDb :=
  let kept := db.edges.filter fun edge => edge.fromId ≠ interpretationId
  { db with
    edges := (envelope.elim [] (dependencyEdges interpretationId)).foldl
      insertEdge kept }

section Sources

/-- The UTF-16 code units of a text. -/
def utf16 (text : String) : List Nat :=
  text.toList.flatMap fun c =>
    if c.toNat < 0x10000 then [c.toNat]
    else [0xD800 + (c.toNat - 0x10000) / 0x400,
      0xDC00 + (c.toNat - 0x10000) % 0x400]

def getConversationEvidence (db : SupportDb) (rowId : String) :
    Option EvidenceRecord :=
  (db.evidence.get? rowId).filter (·.isReadable)

/-- `ORDER BY version DESC, created_at_ms DESC`. -/
def EvidenceRecord.newer (left right : EvidenceRecord) : Prop :=
  right.version < left.version ∨
    right.version = left.version ∧ right.createdAtMs ≤ left.createdAtMs

instance : DecidableRel EvidenceRecord.newer := fun _ _ =>
  inferInstanceAs (Decidable (_ ∨ _))

/-- The newest row of a lineage. -/
def newestOfLineage (db : SupportDb) (lineageId : String) :
    Option EvidenceRecord :=
  firstBy EvidenceRecord.newer
    (db.evidence.rows.filter (·.lineageId = lineageId))

/-- The redaction test, as a publication makes it. -/
def containsRedactedValue (value : JsonValue) : Bool :=
  containsRedactionMarker value

/-- The conversation of a cycle. -/
def conversationOfCycle (db : SupportDb) (cycleId : String) : Option String :=
  (db.cycleConversations.get? cycleId).map Binding.value

/-- A receipt resolves inside the conversation that owns its effect. -/
def resolvesReceiptRef (db : SupportDb) (receipt : ReceiptRecord)
    (conversationId : String) : Bool :=
  !blank receipt.receiptId && !blank conversationId &&
    ((db.effectCycles.get? receipt.effectId).bind fun cycle =>
      conversationOfCycle db cycle.value) = some conversationId &&
    receipt.dataClassification ≠ .secret

/-- Why the span of a text can no longer be read. -/
def unavailableTextSpan (db : SupportDb) (conversationId evidenceRowId : String)
    (start stop : Nat) (quote : String) : Option SupportUnavailableReason :=
  match getConversationEvidence db evidenceRowId with
  | none => some .sourceInaccessible
  | some evidence =>
    match evidence.text with
    | none => some .sourceRedacted
    | some text =>
      if evidence.sourceStatus = "redacted" then some .sourceRedacted
      else if evidence.conversationId ≠ conversationId ∨
          utf16Length text < stop ∨
          ((utf16 text).take stop).drop start ≠ utf16 quote then
        some .sourceInaccessible
      else if (newestOfLineage db evidence.lineageId).map
          EvidenceRecord.rowId = some evidence.rowId then none
      else some .sourceInaccessible

def unavailableObservation (db : SupportDb)
    (conversationId observationId : String) : Option SupportUnavailableReason :=
  match db.observations.get? observationId with
  | none => some .sourceInaccessible
  | some row =>
    match row.payload.parsed with
    | .null => some .sourceInaccessible
    | observation =>
      if containsRedactedValue observation then some .sourceRedacted
      else if row.cycleId.bind (conversationOfCycle db) ≠
            some conversationId ∨
          row.dataClassification = .secret ∨ row.secretOmitted = true then
        some .sourceInaccessible
      else none

def unavailableReceipt (db : SupportDb) (conversationId receiptId : String) :
    Option SupportUnavailableReason :=
  match db.receipts.get? receiptId with
  | none => some .sourceInaccessible
  | some receipt =>
    if containsRedactedValue receipt.claims.parsed then some .sourceRedacted
    else if resolvesReceiptRef db receipt conversationId then none
    else some .sourceInaccessible

/-- Why a reference can no longer be read, if it cannot. -/
def unavailableSupportReason (db : SupportDb) (conversationId : String) :
    SourceSupportRef → Option SupportUnavailableReason
  | .conversationTextSpan evidenceRowId start stop quote =>
    unavailableTextSpan db conversationId evidenceRowId start stop quote
  | .domusObservation _ => none
  | .teachingLesson lessonId =>
    if lessonId ∈ db.lessons then none else some .sourceInaccessible
  | .observationRef observationId =>
    unavailableObservation db conversationId observationId
  | .receiptRef receiptId => unavailableReceipt db conversationId receiptId
  | _ => some .sourceInaccessible

end Sources

section Marking

/-- The envelope of an item as its reader accepts it. -/
def WorkingContextItem.interpretation (item : WorkingContextItem) :
    Option InterpretationEnvelope :=
  match item.payload with
  | .interpretation _ envelope =>
    (item.applicabilityLifecycle.or envelope.applicabilityLifecycle).map
      fun lifecycle => ⟨envelope.body, lifecycle⟩
  | _ => none

/-- A reviewed lifecycle: what still applies needs review. -/
def ApplicabilityLifecycle.reviewed :
    ApplicabilityLifecycle → ApplicabilityLifecycle
  | .current | .needsReview => .needsReview
  | lifecycle => lifecycle

/-- The references that do not rest on a source. -/
def withoutSource (sourceKey : String) (refs : List SourceSupportRef) :
    List SourceSupportRef :=
  refs.filter fun ref => supportRefDependencyKey ref ≠ some sourceKey

def EnvelopeBody.lost (sourceKey : String) (reason : SupportUnavailableReason)
    (body : EnvelopeBody) : EnvelopeBody :=
  { body with
    support := withoutSource sourceKey body.support
    revisionEvidenceRefs := withoutSource sourceKey body.revisionEvidenceRefs
    supportAvailability := .unavailable reason }

/-- `markDependentSupportUnavailable`. -/
def markDependentSupportUnavailable (sourceKey : String)
    (reason : SupportUnavailableReason) (item : WorkingContextItem) :
    WorkingContextItem :=
  match item.payload, item.interpretation with
  | .interpretation text _, some envelope =>
    { item with
      payload := .interpretation text
        { body := envelope.body.lost sourceKey reason
          applicabilityLifecycle :=
            some envelope.applicabilityLifecycle.reviewed }
      applicabilityLifecycle :=
        some envelope.applicabilityLifecycle.reviewed }
  | _, _ => item

theorem markDependentSupportUnavailable_key (sourceKey : String)
    (reason : SupportUnavailableReason) (item : WorkingContextItem) :
    key (markDependentSupportUnavailable sourceKey reason item) = key item := by
  unfold markDependentSupportUnavailable
  split <;> rfl

/-- The interpretation has an edge to the source. -/
def SupportDb.dependsOn (db : SupportDb) (sourceKey : String)
    (item : WorkingContextItem) : Bool :=
  (⟨item.id, sourceKey, .support⟩ : DependencyEdge) ∈ db.edges

/-- Mark the dependents of one source. -/
def markSourceUnavailable (reason : SupportUnavailableReason) (db : SupportDb)
    (sourceKey : String) : SupportDb :=
  { db with
    items := db.items.update (db.dependsOn sourceKey)
      (markDependentSupportUnavailable sourceKey reason)
      (markDependentSupportUnavailable_key sourceKey reason) }

def markInterpretationSupportUnavailable (db : SupportDb)
    (sourceKeys : List String) (reason : SupportUnavailableReason) :
    SupportDb :=
  sourceKeys.eraseDups.foldl (markSourceUnavailable reason) db

/-- An envelope that the pass examines: intact, and still applied. -/
def InterpretationEnvelope.isTrusted (envelope : InterpretationEnvelope) :
    Bool :=
  envelope.body.supportAvailability = .intact &&
    (envelope.applicabilityLifecycle = .current ||
      envelope.applicabilityLifecycle = .needsReview)

/-- The key and the reason of a reference that is lost and has a key. -/
def lostSource (db : SupportDb) (conversationId : String)
    (ref : SourceSupportRef) : Option (String × SupportUnavailableReason) :=
  match unavailableSupportReason db conversationId ref,
      supportRefDependencyKey ref with
  | some reason, some sourceKey => some (sourceKey, reason)
  | _, _ => none

/-- The first such reference of a trusted interpretation. -/
def firstLostSource (db : SupportDb) (conversationId : String)
    (item : WorkingContextItem) : Option (String × SupportUnavailableReason) :=
  match item.interpretation with
  | some envelope =>
    if envelope.isTrusted then
      envelope.body.refs.findSome? (lostSource db conversationId)
    else none
  | none => none

/-- The loop body: the row is the one read before the loop. -/
def refreshItem (conversationId : String) (db : SupportDb)
    (item : WorkingContextItem) : SupportDb :=
  match firstLostSource db conversationId item with
  | some (sourceKey, reason) =>
    markInterpretationSupportUnavailable db [sourceKey] reason
  | none => db

/-- The rows that the pass reads. -/
def SupportDb.heldItems (db : SupportDb) (conversationId : String) :
    List WorkingContextItem :=
  db.items.rows.filter fun item =>
    item.conversationId = conversationId && !item.superseded

def refreshWorkingContextSupportAvailability (db : SupportDb)
    (conversationId : String) : SupportDb :=
  (db.heldItems conversationId).foldl (refreshItem conversationId) db

end Marking

section Marks

variable {db : SupportDb} {conversationId : String}
variable {marked : Prop}

variable {item : WorkingContextItem}

/-- A marked interpretation is never intact. -/
theorem mark_unavailable {envelope : InterpretationEnvelope}
    (sourceKey : String) (reason : SupportUnavailableReason)
    (hread : item.interpretation = some envelope) :
    ∃ marked, (markDependentSupportUnavailable sourceKey reason
        item).interpretation = some marked ∧
      marked.body.supportAvailability = .unavailable reason := by
  cases hpayload : item.payload with
  | plain | malformed =>
    simp [WorkingContextItem.interpretation, hpayload] at hread
  | interpretation =>
    refine ⟨⟨envelope.body.lost sourceKey reason,
      envelope.applicabilityLifecycle.reviewed⟩, ?_, rfl⟩
    unfold markDependentSupportUnavailable
    simp only [hpayload, hread]
    rfl

/-- An item that is no interpretation is left as it is. -/
theorem mark_plain (sourceKey : String) (reason : SupportUnavailableReason)
    (hread : item.interpretation = none) :
    markDependentSupportUnavailable sourceKey reason item = item := by
  unfold markDependentSupportUnavailable
  split
  · rename_i heq
    rw [hread] at heq
    cases heq
  · rfl

theorem mark_conversation (sourceKey : String)
    (reason : SupportUnavailableReason) (item : WorkingContextItem) :
    (markDependentSupportUnavailable sourceKey reason item).conversationId =
        item.conversationId ∧
      (markDependentSupportUnavailable sourceKey reason item).superseded =
        item.superseded := by
  unfold markDependentSupportUnavailable
  split
  · exact ⟨rfl, rfl⟩
  · exact ⟨rfl, rfl⟩

/-- The tables beside the interpretations are those of another state. -/
def SameSources (db db' : SupportDb) : Prop :=
  db' = { db with items := db'.items }

theorem SameSources.refl (db : SupportDb) : SameSources db db := rfl

variable {db' : SupportDb}

theorem SameSources.trans {middle : SupportDb} (hfirst : SameSources db middle)
    (hsecond : SameSources middle db') :
    SameSources db db' := by
  unfold SameSources at *
  rw [hsecond, hfirst]

/-- Whether a reference can be read does not depend on the interpretations. -/
theorem SameSources.reason (hsame : SameSources db db')
    (conversationId : String) :
    unavailableSupportReason db' conversationId =
      unavailableSupportReason db conversationId := by
  rw [hsame]
  rfl

theorem SameSources.firstLostSource (hsame : SameSources db db')
    (conversationId : String) (item : WorkingContextItem) :
    firstLostSource db' conversationId item =
      firstLostSource db conversationId item := by
  rw [hsame]
  rfl

theorem SameSources.edges (hsame : SameSources db db') :
    db'.edges = db.edges := by
  rw [hsame]

/-- The loop marks the dependents of each first lost source. -/
theorem refreshItem_sources (db : SupportDb) (conversationId : String)
    (item : WorkingContextItem) :
    SameSources db (refreshItem conversationId db item) := by
  unfold refreshItem
  split
  · exact SameSources.refl _
  · exact SameSources.refl _

/-- One of the items has a first lost source that the other item depends on. -/
def ReachedBy (db : SupportDb) (conversationId : String)
    (others : List WorkingContextItem) (item : WorkingContextItem) : Prop :=
  ∃ other ∈ others, ∃ sourceKey reason,
    firstLostSource db conversationId other = some (sourceKey, reason) ∧
      db.dependsOn sourceKey item = true

/-- What the loop makes of an item: nothing, or an interpretation that is no
longer intact. -/
structure Examined (marked : Prop) (item item' : WorkingContextItem) : Prop
    where
  id : item'.id = item.id
  conversation : item'.conversationId = item.conversationId
  superseded : item'.superseded = item.superseded
  unmarked : ¬ marked → item' = item
  marked : marked → ∀ envelope, item'.interpretation = some envelope →
    envelope.body.supportAvailability ≠ .intact

theorem Examined.unchanged (hout : ¬ marked) (item : WorkingContextItem) :
    Examined marked item item :=
  ⟨rfl, rfl, rfl, fun _ => rfl, fun hin => absurd hin hout⟩

/-- A marked item, when the loop reaches it. -/
theorem Examined.mark (hin : marked) (sourceKey : String)
    (reason : SupportUnavailableReason) (item : WorkingContextItem) :
    Examined marked item
      (markDependentSupportUnavailable sourceKey reason item) where
  id := markDependentSupportUnavailable_key sourceKey reason item
  conversation := (mark_conversation sourceKey reason item).1
  superseded := (mark_conversation sourceKey reason item).2
  unmarked := fun hout => absurd hin hout
  marked := by
    intro _ _ hread
    cases hbefore : item.interpretation with
    | none =>
      rw [mark_plain sourceKey reason hbefore, hbefore] at hread
      cases hread
    | some =>
      obtain ⟨_, hafter, hlost⟩ := mark_unavailable sourceKey reason hbefore
      rw [hafter] at hread
      rw [← Option.some.inj hread, hlost]
      exact fun heq => by cases heq

theorem Examined.trans {first second both : Prop}
    {middle item' : WorkingContextItem} (hboth : both ↔ first ∨ second)
    (hfirst : Examined first item middle)
    (hsecond : Examined second middle item') : Examined both item item' where
  id := hsecond.id.trans hfirst.id
  conversation := hsecond.conversation.trans hfirst.conversation
  superseded := hsecond.superseded.trans hfirst.superseded
  unmarked := by
    intro hout
    rw [hboth, not_or] at hout
    exact (hsecond.unmarked hout.2).trans (hfirst.unmarked hout.1)
  marked := by
    intro hin envelope hread
    by_cases hagain : second
    · exact hsecond.marked hagain envelope hread
    · rw [hsecond.unmarked hagain] at hread
      exact hfirst.marked ((hboth.mp hin).resolve_right hagain) envelope hread

/-- One round of the loop. -/
theorem refreshItem_examines (conversationId : String) (db' : SupportDb)
    (hsame : SameSources db db') (other : WorkingContextItem) :
    Table.Rewrites
      (fun item => Examined (ReachedBy db conversationId [other] item) item)
      db'.items (refreshItem conversationId db' other).items := by
  unfold refreshItem
  rw [hsame.firstLostSource conversationId other]
  have hreached : ∀ item, ReachedBy db conversationId [other] item ↔
      ∃ sourceKey reason,
        firstLostSource db conversationId other = some (sourceKey, reason) ∧
          db.dependsOn sourceKey item = true := by
    intro _
    simp only [ReachedBy, mem_singleton, exists_eq_left]
  cases hfirst : firstLostSource db conversationId other with
  | none =>
    refine Table.Rewrites.refl (fun item => Examined.unchanged ?_ item) _
    rw [hreached, hfirst]
    rintro ⟨_, _, hnone, _⟩
    cases hnone
  | some loss =>
    obtain ⟨sourceKey, reason⟩ := loss
    intro id
    change Option.Rel _ _ ((db'.items.update (db'.dependsOn sourceKey)
      (markDependentSupportUnavailable sourceKey reason)
      (markDependentSupportUnavailable_key sourceKey reason)).get? id)
    rw [get?_update]
    cases hitem : db'.items.get? id with
    | none => exact Option.Rel.none
    | some item =>
      refine Option.Rel.some ?_
      have hedges : db'.dependsOn sourceKey item =
          db.dependsOn sourceKey item := by
        unfold SupportDb.dependsOn
        rw [hsame.edges]
      dsimp only
      rw [hedges]
      by_cases hdepends : db.dependsOn sourceKey item = true
      · rw [if_pos hdepends]
        exact Examined.mark ((hreached item).mpr
          ⟨sourceKey, reason, hfirst, hdepends⟩) sourceKey reason item
      · rw [if_neg hdepends]
        refine Examined.unchanged ?_ item
        rw [hreached, hfirst]
        rintro ⟨_, _, hloss, hother⟩
        obtain ⟨rfl, _⟩ := Prod.mk.inj (Option.some.inj hloss)
        exact hdepends hother

theorem ReachedBy.congr {others : List WorkingContextItem}
    {item item' : WorkingContextItem} (hid : item'.id = item.id) :
    ReachedBy db conversationId others item' ↔
      ReachedBy db conversationId others item := by
  unfold ReachedBy SupportDb.dependsOn
  rw [hid]

theorem reachedBy_cons (other : WorkingContextItem)
    (rest : List WorkingContextItem) (item : WorkingContextItem) :
    ReachedBy db conversationId (other :: rest) item ↔
      ReachedBy db conversationId [other] item ∨
        ReachedBy db conversationId rest item := by
  unfold ReachedBy
  simp only [mem_cons, not_mem_nil, or_false, exists_eq_or_imp,
    exists_eq_left]

/-- The loop examines every item of the table, whichever rows it goes over. -/
theorem refresh_examines (conversationId : String)
    (others : List WorkingContextItem) (db' : SupportDb)
    (hsame : SameSources db db') :
    SameSources db (others.foldl (refreshItem conversationId) db') ∧
      Table.Rewrites
        (fun item => Examined (ReachedBy db conversationId others item) item)
        db'.items (others.foldl (refreshItem conversationId) db').items := by
  induction others generalizing db' with
  | nil =>
    refine ⟨hsame, Table.Rewrites.refl (fun item =>
      Examined.unchanged ?_ item) _⟩
    rintro ⟨_, hmem, _⟩
    cases hmem
  | cons other rest ih =>
    have hnext := hsame.trans (refreshItem_sources db' conversationId other)
    obtain ⟨hlast, hrest⟩ := ih _ hnext
    have hround := refreshItem_examines conversationId db' hsame other
    refine ⟨hlast, fun id => ?_⟩
    cases hitem : db'.items.get? id with
    | none =>
      cases hfinal : ((other :: rest).foldl (refreshItem conversationId)
          db').items.get? id with
      | none => exact Option.Rel.none
      | some =>
        obtain ⟨_, hmiddle, _⟩ := hrest.backward hfinal
        obtain ⟨_, hback, _⟩ := hround.backward hmiddle
        rw [hitem] at hback
        cases hback
    | some =>
      obtain ⟨_, hmiddle, hfirst⟩ := hround.forward hitem
      obtain ⟨item', hfinal, hsecond⟩ := hrest.forward hmiddle
      rw [show ((other :: rest).foldl (refreshItem conversationId)
        db').items.get? id = some item' from hfinal]
      refine Option.Rel.some (Examined.trans ?_ hfirst hsecond)
      rw [reachedBy_cons, ReachedBy.congr hfirst.id]

end Marks

section Notice

variable {db : SupportDb} {conversationId : String}

/-- No interpretation that still applies is held for intact while one of its
references cannot be read. -/
def LostSupportNoticed (db : SupportDb) (conversationId : String) : Prop :=
  ∀ item ∈ db.heldItems conversationId, ∀ envelope,
    item.interpretation = some envelope →
    (envelope.applicabilityLifecycle = .current ∨
      envelope.applicabilityLifecycle = .needsReview) →
    envelope.body.supportAvailability = .intact →
    ∀ ref ∈ envelope.body.refs,
      unavailableSupportReason db conversationId ref = none

/-- An interpretation that lost a reference has an edge to the first lost
source with a key, of its own or of another interpretation of the pass. -/
def LossesTracked (db : SupportDb) (conversationId : String) : Prop :=
  ∀ item ∈ db.heldItems conversationId, ∀ envelope,
    item.interpretation = some envelope → envelope.isTrusted = true →
    (∃ ref ∈ envelope.body.refs,
      unavailableSupportReason db conversationId ref ≠ none) →
    ReachedBy db conversationId (db.heldItems conversationId) item

theorem isTrusted_iff {envelope : InterpretationEnvelope} :
    envelope.isTrusted = true ↔
      envelope.body.supportAvailability = .intact ∧
        (envelope.applicabilityLifecycle = .current ∨
          envelope.applicabilityLifecycle = .needsReview) := by
  unfold InterpretationEnvelope.isTrusted
  simp only [Bool.and_eq_true, Bool.or_eq_true, decide_eq_true_eq]

theorem mem_heldItems {item : WorkingContextItem} :
    item ∈ db.heldItems conversationId ↔
      db.items.get? item.id = some item ∧
        item.conversationId = conversationId ∧ item.superseded = false := by
  unfold SupportDb.heldItems
  rw [mem_filter]
  simp only [Bool.and_eq_true, decide_eq_true_eq, Bool.not_eq_true']
  exact and_congr_left' Table.mem_iff_get?

/-- The pass notices every lost support if, and only if, the losses are
tracked. -/
theorem lost_support_noticed_iff (db : SupportDb) (conversationId : String) :
    LostSupportNoticed
        (refreshWorkingContextSupportAvailability db conversationId)
        conversationId ↔
      LossesTracked db conversationId := by
  obtain ⟨hsame, hexamined⟩ := refresh_examines
    conversationId (db.heldItems conversationId) db (.refl db)
  have hreason := hsame.reason conversationId
  constructor
  · intro hnoticed item hitem envelope hread htrusted hlost
    by_contra hout
    obtain ⟨hstored, hconversation, hsuperseded⟩ := mem_heldItems.mp hitem
    obtain ⟨item', hstored', hitem'⟩ := hexamined.forward hstored
    have hunchanged : item' = item := hitem'.unmarked hout
    subst hunchanged
    obtain ⟨hintact, hlifecycle⟩ := isTrusted_iff.mp htrusted
    obtain ⟨ref, href, hlost⟩ := hlost
    refine hlost ?_
    rw [← hreason]
    exact hnoticed item' (mem_heldItems.mpr
      ⟨hstored', hconversation, hsuperseded⟩) envelope hread hlifecycle hintact
      ref href
  · intro htracked item' hitem' envelope hread hlifecycle hintact ref href
    obtain ⟨hstored', hconversation, hsuperseded⟩ := mem_heldItems.mp hitem'
    obtain ⟨item, hstored, hmoved⟩ := hexamined.backward hstored'
    by_contra hlost
    have hout : ¬ ReachedBy db conversationId (db.heldItems conversationId)
        item := fun hin => hmoved.marked hin envelope hread hintact
    have hunchanged : item' = item := hmoved.unmarked hout
    subst hunchanged
    refine hout (htracked item' (mem_heldItems.mpr
      ⟨hstored, hconversation, hsuperseded⟩) envelope hread
      (isTrusted_iff.mpr ⟨hintact, hlifecycle⟩) ⟨ref, href, ?_⟩)
    rw [← hreason]
    exact hlost

end Notice

section Lessons

def taughtItem : WorkingContextItem where
  id := "item"
  conversationId := "c"
  payload := .interpretation "You taught me the tune."
    ⟨{ support := [.teachingLesson "lesson:cycle:0"] }, some .current⟩
  applicabilityLifecycle := some .current

/-- An interpretation that rests on a lesson which is no longer there. -/
def taught : SupportDb := { items := Table.empty.insertNew taughtItem }

/-- A lesson has no key, so its loss is passed over. -/
theorem lost_lesson_unnoticed :
    ¬ ∀ (db : SupportDb) (conversationId : String), LostSupportNoticed
      (refreshWorkingContextSupportAvailability db conversationId)
      conversationId := by
  intro hall
  have hreadable := hall taught "c" taughtItem (by decide +kernel)
    ⟨{ support := [.teachingLesson "lesson:cycle:0"] }, .current⟩ rfl
    (.inl rfl) rfl (.teachingLesson "lesson:cycle:0") (by decide)
  exact absurd hreadable (by decide +kernel)

end Lessons

end CognitiveSidecar.Support
