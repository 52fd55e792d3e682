/-
Recovery of captured messages that never reached a batch: a pass fetches the
oldest captures and then leaves out those that have an outcome, which stay
among the oldest.
-/
import CognitiveSidecar.Lib.Passes
import CognitiveSidecar.SocialIngress
import Mathlib.Data.Prod.Lex
import Mathlib.Data.String.Basic

namespace CognitiveSidecar.Social

open List Relational

/-- `ORDER BY created_at_ms ASC, id ASC`. -/
def ExternalMarker.rank (marker : ExternalMarker) : Int ×ₗ String :=
  toLex (marker.createdAtMs, marker.id)

/-- The captures on record; each stays pending. -/
def captures (db : SocialDb) : List ExternalMarker :=
  db.markers.rows.filter (·.kind = .externalCaptured)

structure UnbatchedRecovery where
  nowMs : Int
  horizonMs : Int := 10000
  limit : Int := 100

def UnbatchedRecovery.pageSize (input : UnbatchedRecovery) : Nat :=
  (max 1 (min 1000 input.limit)).toNat

/-- The captures that a pass fetches. -/
def UnbatchedRecovery.page (input : UnbatchedRecovery) (db : SocialDb) :
    List ExternalMarker :=
  (orderedBy ExternalMarker.rank ((captures db).filter
    (·.createdAtMs ≤ input.nowMs - input.horizonMs))).take input.pageSize

/-- A capture whose payload has its three texts; they are read trimmed. -/
def capturePayload (row : ExternalMarker) : Option ExternalMarker := do
  let captureRef ← externalRequiredText row.captureRef
  let evidenceRowId ← externalRequiredText row.evidenceRowId
  let conversationKey ← externalRequiredText row.conversationKey
  pure { row with captureRef, evidenceRowId, conversationKey }

/-- The captures of a conversation, whose references the batcher is given. -/
structure UnbatchedCaptureBatch where
  conversationKey : String
  captured : List ExternalMarker
  finalFragmentReceivedAtMs : Int

/-- A capture joins the batch of its conversation. -/
def joinBatch (row : ExternalMarker) :
    List UnbatchedCaptureBatch → List UnbatchedCaptureBatch
  | [] => [⟨row.conversationKey, [row], row.createdAtMs⟩]
  | batch :: rest =>
    if batch.conversationKey = row.conversationKey then
      { batch with
        captured := batch.captured ++ [row]
        finalFragmentReceivedAtMs :=
          max batch.finalFragmentReceivedAtMs row.createdAtMs } :: rest
    else batch :: joinBatch row rest

/-- The batches of a pass, in the order in which they are handed over. -/
def UnbatchedRecovery.batches (input : UnbatchedRecovery) (db : SocialDb) :
    List UnbatchedCaptureBatch :=
  (((input.page db).filterMap capturePayload).filter fun payload =>
    !hasExternalOutcome db payload.evidenceRowId).foldl
      (fun batches row => joinBatch row batches) []

structure ReconcileUnbatchedCapturesResult where
  batched : Nat := 0
  failures : Nat := 0

/-- One batch, with the readings of the batcher on it; a fault is counted. -/
def handOver (admission : UnbatchedCaptureBatch → ExternalBatchInput)
    (acc : ReconcileUnbatchedCapturesResult × SocialDb)
    (batch : UnbatchedCaptureBatch) :
    ReconcileUnbatchedCapturesResult × SocialDb :=
  let (result, db) := acc
  match admitExternalBatch
      { admission batch with
        conversationKey := batch.conversationKey
        captureRefs := batch.captured.map (·.captureRef) } db with
  | .ok (_, db) =>
    ({ result with batched := result.batched + batch.captured.length }, db)
  | .error _ =>
    ({ result with failures := result.failures + batch.captured.length }, db)

/-- One pass. -/
def reconcileUnbatchedCaptures
    (admission : UnbatchedCaptureBatch → ExternalBatchInput)
    (input : UnbatchedRecovery) (db : SocialDb) :
    ReconcileUnbatchedCapturesResult × SocialDb :=
  let unreadable := ((input.page db).filter
    fun row => (capturePayload row).isNone).length
  (input.batches db).foldl (handOver admission) ({ failures := unreadable }, db)

/-- A pass hands the capture over in some batch. -/
def HandedOver (input : UnbatchedRecovery) (db : SocialDb)
    (capture : ExternalMarker) : Prop :=
  ∃ batch ∈ input.batches db, ∃ payload ∈ batch.captured,
    capturePayload capture = some payload

/-- The captures that come before one. -/
def olderCaptures (db : SocialDb) (capture : ExternalMarker) :
    List ExternalMarker :=
  (captures db).filter (·.rank < capture.rank)

variable {db after : SocialDb} {capture payload : ExternalMarker}
variable {input : ExternalBatchInput} {position : Nat}
variable {results : List (Disposition × Option Nat)}

variable {batches : List UnbatchedCaptureBatch}

theorem mem_joinBatch {row : ExternalMarker} :
    (∃ batch ∈ joinBatch row batches, payload ∈ batch.captured) ↔
      payload = row ∨ ∃ batch ∈ batches, payload ∈ batch.captured := by
  induction batches with
  | nil => simp [joinBatch]
  | cons _ _ ih =>
    unfold joinBatch
    split
    · simp [or_left_comm, or_assoc]
    · simp only [exists_mem_cons_iff, ih, or_left_comm]

theorem mem_foldl_joinBatch {rows : List ExternalMarker} :
    (∃ batch ∈ rows.foldl (fun batches row => joinBatch row batches) batches,
        payload ∈ batch.captured) ↔
      payload ∈ rows ∨ ∃ batch ∈ batches, payload ∈ batch.captured := by
  induction rows generalizing batches with
  | nil => simp
  | cons _ _ ih =>
    rw [foldl_cons, ih, mem_joinBatch, mem_cons, or_left_comm,
      or_assoc]

theorem capturePayload_id (hpayload : capturePayload capture = some payload) :
    payload.id = capture.id := by
  unfold capturePayload at hpayload
  simp only [Option.bind_eq_bind, Option.bind_eq_some_iff] at hpayload
  obtain ⟨_, _, _, _, _, _, hpure⟩ := hpayload
  cases hpure
  rfl

/-- What a pass hands over is on its page and has no outcome. -/
theorem handedOver_iff {input : UnbatchedRecovery}
    (hpayload : capturePayload capture = some payload)
    (hcapture : capture ∈ captures db) :
    HandedOver input db capture ↔ capture ∈ input.page db ∧
      hasExternalOutcome db payload.evidenceRowId = false := by
  have hhanded : HandedOver input db capture ↔
      payload ∈ (input.page db).filterMap capturePayload ∧
        hasExternalOutcome db payload.evidenceRowId = false := by
    unfold HandedOver UnbatchedRecovery.batches
    simp only [hpayload, Option.some.injEq, exists_eq_right']
    rw [mem_foldl_joinBatch]
    simp
  rw [hhanded, mem_filterMap]
  refine and_congr_left fun _ => ⟨?_, fun hmem => ⟨capture, hmem, hpayload⟩⟩
  rintro ⟨row, hrow, hread⟩
  have hmem : row ∈ db.markers.rows := mem_of_mem_filter
    (mem_of_mem_filter (mem_orderedBy.mp (mem_of_mem_take hrow)))
  have hsame : row.id = capture.id :=
    (capturePayload_id hread).symm.trans (capturePayload_id hpayload)
  have hstored := get?_key hmem
  rw [show key row = key capture from hsame,
    get?_key (mem_of_mem_filter hcapture)] at hstored
  cases hstored
  exact hrow

/-- A capture older than the horizon is on the page when fewer captures than
the page holds come before it. -/
theorem mem_page_iff {input : UnbatchedRecovery}
    (hcapture : capture ∈ captures db)
    (hage : capture.createdAtMs ≤ input.nowMs - input.horizonMs) :
    capture ∈ input.page db ↔
      (olderCaptures db capture).length < input.pageSize := by
  have hids : (((captures db).filter
      (·.createdAtMs ≤ input.nowMs - input.horizonMs)).map (·.id)).Nodup :=
    db.markers.keys_nodup.sublist
      ((filter_sublist.trans filter_sublist).map _)
  unfold UnbatchedRecovery.page
  rw [mem_firstPage_iff (·.id)
    (fun _ _ hsame => congrArg (fun rank => (ofLex rank).2) hsame) hids
    (mem_filter.mpr ⟨hcapture, decide_eq_true hage⟩), filter_filter]
  unfold olderCaptures
  rw [filter_congr fun _ _ => ?_]
  rw [Bool.and_eq_left_iff_imp]
  intro hbefore
  rw [decide_eq_true_eq]
  rcases Prod.Lex.lt_iff.mp (of_decide_eq_true hbefore) with hlt | ⟨heq, _⟩
  · exact (le_of_lt hlt).trans hage
  · exact (le_of_eq heq).trans hage

/-! What a pass leaves. -/

theorem captures_insert {marker : ExternalMarker}
    (hkind : marker.kind ≠ .externalCaptured) :
    captures (insertExternalMarker marker db) = captures db := by
  unfold captures insertExternalMarker Table.insertNew
  cases hinsert : db.markers.insert? marker with
  | none => rfl
  | some =>
    rw [Option.getD_some, (insert?_eq_some hinsert).2, filter_append,
      filter_singleton, decide_eq_false hkind]
    exact append_nil _

theorem queueSocialNotification_captures {ownerId principalId : String}
    {conversationId : String} {nowMs : Int} {result : Nat × Bool}
    (hok : queueSocialNotificationInTransaction ownerId principalId
      conversationId nowMs db = .ok (result, after)) :
    captures after = captures db := by
  obtain ⟨_, _, hok⟩ := of_orFault hok
  dsimp only at hok
  split at hok
  · cases of_pure hok
    rfl
  · split at hok
    · cases of_pure hok
      rfl
    · obtain ⟨_, _, hok⟩ := of_orFault hok
      cases of_pure hok
      rfl

theorem admitItem_captures {rawRef : String} {result : Disposition × Option Nat}
    (hok : admitItem input position rawRef db = .ok (result, after)) :
    captures after = captures db := by
  replace hok := passed hok
  dsimp only at hok
  split at hok
  · cases of_pure hok
    rfl
  split at hok
  · cases of_pure hok
    rfl
  split at hok
  · cases of_pure hok
    rfl
  split at hok
  · cases of_pure hok
    rfl
  unfold admitEvidence at hok
  dsimp only at hok
  split at hok
  · cases of_pure hok
    rfl
  · cases of_pure hok
    exact captures_insert MarkerKind.noConfusion
  · obtain ⟨⟨_, _⟩, hqueue, hok⟩ := of_bind hok
    cases of_pure hok
    exact (captures_insert MarkerKind.noConfusion).trans
      (queueSocialNotification_captures hqueue)

theorem admitItems_captures {rawRefs : List String}
    (hok : admitItems input position rawRefs db = .ok (results, after)) :
    captures after = captures db := by
  induction rawRefs generalizing db position results with
  | nil =>
    cases of_pure hok
    rfl
  | cons _ _ ih =>
    obtain ⟨⟨_, _⟩, hitem, hok⟩ := of_bind hok
    obtain ⟨⟨_, _⟩, hrest, hok⟩ := of_bind hok
    cases of_pure hok
    exact (ih hrest).trans (admitItem_captures hitem)

theorem admitExternalBatch_captures
    (hok : admitExternalBatch input db = .ok (results, after)) :
    captures after = captures db := by
  obtain ⟨_, _, hok⟩ := of_orFault hok
  replace hok := passed hok
  exact admitItems_captures hok

theorem handOver_captures
    (admission : UnbatchedCaptureBatch → ExternalBatchInput)
    (acc : ReconcileUnbatchedCapturesResult × SocialDb)
    (batch : UnbatchedCaptureBatch) :
    captures (handOver admission acc batch).2 = captures acc.2 := by
  unfold handOver
  dsimp only
  split
  · rename_i hok
    exact admitExternalBatch_captures hok
  · rfl

theorem foldl_handOver_captures
    (admission : UnbatchedCaptureBatch → ExternalBatchInput)
    (batches : List UnbatchedCaptureBatch)
    (acc : ReconcileUnbatchedCapturesResult × SocialDb) :
    captures (batches.foldl (handOver admission) acc).2 = captures acc.2 := by
  induction batches generalizing acc with
  | nil => rfl
  | cons batch _ ih =>
    rw [foldl_cons, ih]
    exact handOver_captures admission acc batch

/-- A pass takes no capture away. -/
theorem reconcileUnbatchedCaptures_captures
    (admission : UnbatchedCaptureBatch → ExternalBatchInput)
    (input : UnbatchedRecovery) (db : SocialDb) :
    captures (reconcileUnbatchedCaptures admission input db).2 =
      captures db :=
  foldl_handOver_captures admission _ _

/-- Consecutive passes. -/
def recoveryPasses (admission : UnbatchedCaptureBatch → ExternalBatchInput)
    (db : SocialDb) (inputs : List UnbatchedRecovery) : SocialDb :=
  run (fun input db => (reconcileUnbatchedCaptures admission input db).2) db
    inputs

/-- One of the passes hands the capture over. -/
def HandedOverBy (admission : UnbatchedCaptureBatch → ExternalBatchInput)
    (inputs : List UnbatchedRecovery) (db : SocialDb)
    (capture : ExternalMarker) : Prop :=
  ∃ earlier input later, inputs = earlier ++ input :: later ∧
    HandedOver input (recoveryPasses admission db earlier) capture

theorem recoveryPasses_captures
    (admission : UnbatchedCaptureBatch → ExternalBatchInput) (db : SocialDb)
    (inputs : List UnbatchedRecovery) :
    captures (recoveryPasses admission db inputs) = captures db :=
  @run_preserves _ _ _ (fun s => captures s = captures db)
    (fun other s hs =>
      (reconcileUnbatchedCaptures_captures admission other s).trans hs)
    _ rfl inputs

/-- No pass hands over a capture that has a page of captures before it. -/
theorem crowded_out {admission : UnbatchedCaptureBatch → ExternalBatchInput}
    {size : Nat} {inputs : List UnbatchedRecovery}
    (hcapture : capture ∈ captures db)
    (hpayload : capturePayload capture = some payload)
    (hcrowded : size ≤ (olderCaptures db capture).length)
    (hinputs : ∀ input ∈ inputs, input.pageSize = size ∧
      capture.createdAtMs ≤ input.nowMs - input.horizonMs) :
    ¬ HandedOverBy admission inputs db capture := by
  rintro ⟨earlier, input, _, rfl, hhanded⟩
  obtain ⟨hsize, hage⟩ :=
    hinputs input (mem_append_right _ mem_cons_self)
  have hkept := recoveryPasses_captures admission db earlier
  rw [handedOver_iff hpayload (hkept ▸ hcapture),
    mem_page_iff (hkept ▸ hcapture) hage, hsize] at hhanded
  unfold olderCaptures at hhanded hcrowded
  rw [hkept] at hhanded
  exact Nat.not_lt.mpr hcrowded hhanded.1

/-- A capture without an outcome that is older than the horizon is handed over
within a bounded number of passes exactly when fewer captures than a page holds
come before it, with an outcome or without. -/
theorem capture_handed_over_iff
    (admission : UnbatchedCaptureBatch → ExternalBatchInput)
    (input : UnbatchedRecovery) (hcapture : capture ∈ captures db)
    (hpayload : capturePayload capture = some payload)
    (hunbatched : hasExternalOutcome db payload.evidenceRowId = false)
    (hage : capture.createdAtMs ≤ input.nowMs - input.horizonMs) :
    (∃ bound, ∀ inputs : List UnbatchedRecovery, bound ≤ inputs.length →
      (∀ other ∈ inputs, other.pageSize = input.pageSize ∧
        capture.createdAtMs ≤ other.nowMs - other.horizonMs) →
      HandedOverBy admission inputs db capture) ↔
      (olderCaptures db capture).length < input.pageSize := by
  constructor
  · rintro ⟨bound, hbound⟩
    by_contra hcrowded
    have hinputs : ∀ other ∈ List.replicate bound input,
        other.pageSize = input.pageSize ∧
          capture.createdAtMs ≤ other.nowMs - other.horizonMs := by
      intro _ hother
      cases List.eq_of_mem_replicate hother
      exact ⟨rfl, hage⟩
    exact crowded_out hcapture hpayload (Nat.not_lt.mp hcrowded) hinputs
      (hbound _ List.length_replicate.ge hinputs)
  · intro hfew
    refine ⟨1, fun _ hlength hinputs => ?_⟩
    obtain ⟨first, rest, rfl⟩ := List.exists_cons_of_length_pos hlength
    obtain ⟨hsize, hage⟩ := hinputs first List.mem_cons_self
    refine ⟨[], first, rest, rfl, (handedOver_iff hpayload hcapture).mpr ?_⟩
    exact ⟨(mem_page_iff hcapture hage).mpr (hsize ▸ hfew), hunbatched⟩

section Crowded

def crowdingCapture : ExternalMarker where
  id := "m1"
  conversationId := "dm:1"
  kind := .externalCaptured
  captureRef := "extcap:e1"
  evidenceRowId := "e1"
  conversationKey := "dm:1"
  createdAtMs := 0

def waitingCapture : ExternalMarker where
  id := "m2"
  conversationId := "dm:2"
  kind := .externalCaptured
  captureRef := "extcap:e2"
  evidenceRowId := "e2"
  conversationKey := "dm:2"
  createdAtMs := 5

/-- The first capture was quarantined, the second one never reached a batch. -/
def crowdedCaptures : SocialDb where
  markers := ⟨[crowdingCapture, waitingCapture,
    { crowdingCapture with
      id := outcomeMarkerId .quarantinedExternal "e1"
      kind := .quarantinedExternal, quarantined := true }], by decide +kernel⟩

theorem waitingCapture_mem : waitingCapture ∈ captures crowdedCaptures :=
  mem_of_getElem? (show (captures crowdedCaptures)[1]? = _ from rfl)

theorem waitingCapture_payload :
    capturePayload waitingCapture = some waitingCapture := by
  have hread : externalRequiredText "extcap:e2" = some "extcap:e2" ∧
      externalRequiredText "e2" = some "e2" ∧
      externalRequiredText "dm:2" = some "dm:2" := by decide +kernel
  simp [capturePayload, waitingCapture, hread]

/-- A capture that already has its outcome holds a page of one row: the other
one is not handed over, however many passes run. -/
theorem batched_capture_holds_page :
    hasExternalOutcome crowdedCaptures crowdingCapture.evidenceRowId = true ∧
    waitingCapture ∈ captures crowdedCaptures ∧
    hasExternalOutcome crowdedCaptures waitingCapture.evidenceRowId = false ∧
    ∀ admission inputs,
      (∀ input ∈ inputs, input = { nowMs := 20000, limit := 1 }) →
      ¬ HandedOverBy admission inputs crowdedCaptures waitingCapture := by
  refine ⟨by decide +kernel, waitingCapture_mem, by decide +kernel, ?_⟩
  intro _ _ hinputs
  have hcrowded : 1 ≤ (olderCaptures crowdedCaptures waitingCapture).length := by
    decide +kernel
  refine crowded_out waitingCapture_mem waitingCapture_payload hcrowded ?_
  intro input hinput
  cases hinputs input hinput
  exact ⟨by decide, by decide⟩

/-- A batcher that finds every message where it belongs. -/
def plainAdmission (_ : UnbatchedCaptureBatch) : ExternalBatchInput where
  captureRefs := []
  conversationKey := ""
  nowMs := 20000
  reading _ := { bundle := none }

/-- On a page of two rows the waiting capture is handed over. -/
theorem waitingCapture_handed_over :
    ∃ bound, ∀ inputs : List UnbatchedRecovery, bound ≤ inputs.length →
      (∀ other ∈ inputs, other.pageSize = 2 ∧
        5 ≤ other.nowMs - other.horizonMs) →
      HandedOverBy plainAdmission inputs
        crowdedCaptures waitingCapture :=
  (capture_handed_over_iff _ { nowMs := 20000, limit := 2 } waitingCapture_mem
    waitingCapture_payload (by decide +kernel) (by decide)).mpr
    (by decide +kernel)

end Crowded

end CognitiveSidecar.Social
