/-
External dialog at the door: a message is captured once, and a batch of captures
is admitted with one outcome marker for each message and with notices to the
Owner.
-/
import CognitiveSidecar.EvidenceLog
import CognitiveSidecar.Lib.Like
import CognitiveSidecar.Lib.Process
import CognitiveSidecar.Lib.Run

namespace CognitiveSidecar.Social

open Relational

/-- `externalRequiredText`. -/
def externalRequiredText (value : String) : Option String :=
  if trim value = "" then none else some (trim value)

inductive ExternalLocation
  | externalDm (principalId channelId : String)
  | room (guildId channelId : String)

/-- The columns of external dialog in `conversation_evidence_log`. -/
structure ExternalColumns where
  rowId : String
  speakerPrincipalId : Option String
  location : Option ExternalLocation

instance : Keyed ExternalColumns String := ⟨ExternalColumns.rowId⟩

inductive MarkerKind
  | externalCaptured | externalEligiblePending | quarantinedExternal
deriving DecidableEq

/-- A row of `inbox_events` that the external ingress writes, with the fields of
its payload. -/
structure ExternalMarker where
  (id conversationId : String)
  kind : MarkerKind
  (captureRef evidenceRowId conversationKey : String)
  discordMessageId : String := ""
  reason : Option String := none
  authority : Option (Int × Int) := none
  createdAtMs : Int
  quarantined : Bool := false
  quarantineReason : Option String := none

instance : Keyed ExternalMarker String := ⟨ExternalMarker.id⟩

/-- A row of `system_notice_outbox`. -/
structure SocialNotice where
  noticeId : Nat
  (noticeKey conversationId noticeText ownerId : String)
deriving DecidableEq

instance : Keyed SocialNotice Nat := ⟨SocialNotice.noticeId⟩

/-- What the external ingress reads and writes of the sidecar. -/
structure SocialDb where
  log : Sidecar := {}
  columns : Table ExternalColumns := Table.empty
  markers : Table ExternalMarker := Table.empty
  notices : Table SocialNotice := Table.empty

inductive SocialFault
  | kernel (fault : Fault)
  | discordIdConflict | conversationConflict | batchInvalid | timeInvalid
  | uniqueConstraint | interrupted

abbrev SocialOutcome (α : Type) := Except SocialFault α

/-! Dates. -/

/-- The year, month and day of a day number, in the proleptic calendar. -/
def civilOfDays (days : Int) : Int × Nat × Nat :=
  let shifted := days + 719468
  let era := shifted / 146097
  let ofEra := (shifted % 146097).toNat
  let yearOfEra :=
    (ofEra - ofEra / 1460 + ofEra / 36524 - ofEra / 146096) / 365
  let ofYear := ofEra - (365 * yearOfEra + yearOfEra / 4 - yearOfEra / 100)
  let shiftedMonth := (5 * ofYear + 2) / 153
  let day := ofYear - (153 * shiftedMonth + 2) / 5 + 1
  let month := if shiftedMonth < 10 then shiftedMonth + 3 else shiftedMonth - 9
  (yearOfEra + era * 400 + (if month ≤ 2 then 1 else 0), month, day)

/-- A number with leading zeros. -/
def padded (width n : Nat) : String :=
  String.ofList (List.replicate (width - (toString n).length) '0') ++ toString n

/-- `new Date(nowMs).toISOString().slice(0, 10)`, which raises outside the range
of dates. -/
def notificationDay (nowMs : Int) : Option String :=
  if 8640000000000000 < nowMs.natAbs then none
  else
    let (year, month, day) := civilOfDays (nowMs / 86400000)
    let yearText :=
      if 0 ≤ year ∧ year ≤ 9999 then padded 4 year.toNat
      else (if year < 0 then "-" else "+") ++ padded 6 year.natAbs
    some (String.ofList
      ((yearText ++ "-" ++ padded 2 month ++ "-" ++ padded 2 day).toList.take 10))

/-! Captures. -/

/-- A capture body that passed its validation. -/
structure ExternalCapture where
  (conversationKey message discordMessageId speakerPrincipalId : String)
  location : ExternalLocation

section Capture

variable [Host]

/-- A message that is on record as external dialog is a duplicate. -/
def appendExternalUtteranceInTransaction (log : Sidecar)
    (input : AppendEvidenceInput) : SocialOutcome (Evidence × Bool × Sidecar) :=
  match existingByDiscordIds log (uniqueIds input.discordMessageIds) with
  | some existing =>
    if existing.role = .externalDialog then pure (existing, true, log)
    else .error .discordIdConflict
  | none =>
    match appendEvidenceInTransaction log .externalDialog input with
    | .ok (evidence, log) => pure (evidence, false, log)
    | .error fault => .error (.kernel fault)

/-- `INSERT OR IGNORE`. -/
def insertExternalMarker (marker : ExternalMarker) (db : SocialDb) : SocialDb :=
  { db with markers := db.markers.insertNew marker }

def captureMarkerId (evidenceRowId : String) : String :=
  "external:capture:" ++ evidenceRowId

/-- Capture a message; `interrupted` is an exception of a later statement. -/
def admitExternalCapture (body : ExternalCapture) (nowMs : Int)
    (interrupted : Bool) (db : SocialDb) :
    SocialOutcome ((String × Bool) × SocialDb) := do
  let (evidence, duplicate, log) ← appendExternalUtteranceInTransaction db.log
    { conversationId := body.conversationKey, text := some body.message
      discordMessageIds := [body.discordMessageId], nowMs }
  require (evidence.conversationId = body.conversationKey) .conversationConflict
  require (!interrupted) .interrupted
  let columns : ExternalColumns :=
    { rowId := evidence.rowId
      speakerPrincipalId := some body.speakerPrincipalId
      location := some body.location }
  let db := { db with
    log
    columns := if duplicate then db.columns
      else db.columns.insertNew columns }
  let captureRef := "extcap:" ++ evidence.rowId
  pure ((captureRef, duplicate), insertExternalMarker
    { id := captureMarkerId evidence.rowId
      conversationId := body.conversationKey, kind := .externalCaptured
      captureRef, evidenceRowId := evidence.rowId
      conversationKey := body.conversationKey
      discordMessageId := body.discordMessageId
      createdAtMs := evidence.createdAtMs } db)

end Capture

/-! Batches. -/

inductive EligibilityVerdict
  | allowSocial | captureQuarantine | drop

/-- What a batch reads of the nuclear database for one capture: the barrier,
the verdict of `classifyEligibility`, whether a permit for direct contact
stands, and whether something blocks direct contact. -/
structure EligibilityBundle where
  (epoch revision : Int)
  verdict : EligibilityVerdict
  (hasDirectPermit blocked : Bool)

/-- The readings of one capture; `none` is a read that raises, and `markFails` a
write of the eligible marker that does. -/
structure ItemReading where
  bundle : Option EligibilityBundle
  markFails : Bool := false

/-- `interruptedAt` is the capture at which a statement raises. -/
structure ExternalBatchInput where
  captureRefs : List String
  conversationKey : String
  ownerId : String := "default"
  nowMs : Int
  reading : Nat → ItemReading
  interruptedAt : Option Nat := none

inductive Disposition
  | externalEligiblePending | quarantinedExternal | alreadyBatched
  | captureMissing
  | captureInvalid (reason : String)
  | captureRetryable

/-- The identifier behind a capture reference. -/
def afterExtcap (captureRef : String) : Option String :=
  if "extcap:".toList.isPrefixOf captureRef.toList &&
      "extcap:".length < captureRef.length then
    some (String.ofList (captureRef.toList.drop "extcap:".length))
  else none

/-- A marker whose payload has its four texts; they are read trimmed. -/
def readExternalCaptureMarker (db : SocialDb) (captureRef : String) :
    Option ExternalMarker := do
  let evidenceRowId ← afterExtcap captureRef
  let row ← (db.markers.get? (captureMarkerId evidenceRowId)).filter
    (·.kind = .externalCaptured)
  let captureRef ← externalRequiredText row.captureRef
  let evidenceRowId ← externalRequiredText row.evidenceRowId
  let conversationKey ← externalRequiredText row.conversationKey
  let discordMessageId ← externalRequiredText row.discordMessageId
  pure { row with captureRef, evidenceRowId, conversationKey, discordMessageId }

/-- The identifiers of the two outcomes of an evidence row. -/
def outcomeMarkerId (kind : MarkerKind) (evidenceRowId : String) : String :=
  (if kind = .externalEligiblePending then "external:eligible"
    else "external:quarantine") ++ ":" ++ evidenceRowId

def hasExternalOutcome (db : SocialDb) (evidenceRowId : String) : Bool :=
  (db.markers.get?
      (outcomeMarkerId .externalEligiblePending evidenceRowId)).isSome ||
    (db.markers.get?
      (outcomeMarkerId .quarantinedExternal evidenceRowId)).isSome

/-- A message of a known speaker has a place: the direct conversation of the
speaker, or a room. -/
def externalLocationForEligibility (columns : ExternalColumns) :
    Option ExternalLocation := do
  let principalId ← columns.speakerPrincipalId.bind externalRequiredText
  match ← columns.location with
  | .externalDm locationPrincipal channelId => do
    let locationPrincipal ← externalRequiredText locationPrincipal
    let channelId ← externalRequiredText channelId
    if locationPrincipal = principalId then
      some (.externalDm principalId channelId)
    else none
  | .room guildId channelId => do
    let guildId ← externalRequiredText guildId
    let channelId ← externalRequiredText channelId
    some (.room guildId channelId)

def initialContactQuarantineReason (bundle : EligibilityBundle) :
    ExternalLocation → String
  | .room _ _ => "ineligible_current_authority"
  | .externalDm _ _ =>
    if !bundle.hasDirectPermit && !bundle.blocked then
      "initial_contact_pending"
    else "ineligible_current_authority"

def maxSocialNotificationWindowMs : Int := 15 * 60000

def maxSocialNotificationsPerDay : Nat := 20

/-- The key of the notices of a day, up to the number of the window. -/
def windowStem (ownerId principalId day : String) : String :=
  "social_notify:" ++ ownerId ++ ":" ++ principalId ++ ":" ++ day ++ ":window"

def windowKey (ownerId principalId day : String) (window : Int) : String :=
  windowStem ownerId principalId day ++ ":" ++ toString window

def digestKey (ownerId principalId day : String) : String :=
  "social_notify_digest:" ++ ownerId ++ ":" ++ principalId ++ ":" ++ day

/-- `SELECT COUNT(*) … WHERE notice_key LIKE ?`. -/
def countLike (db : SocialDb) (pattern : String) : Nat :=
  (db.notices.rows.filter fun row =>
    like pattern.toList row.noticeKey.toList).length

def noticeWithKey (db : SocialDb) (noticeKey : String) : Option SocialNotice :=
  db.notices.rows.find? (·.noticeKey = noticeKey)

/-- `AUTOINCREMENT`. -/
def nextNoticeId (db : SocialDb) : Nat :=
  (db.notices.rows.map SocialNotice.noticeId).foldl max 0 + 1

/-- One notice for each window; from the daily cap on, one digest. -/
def queueSocialNotificationInTransaction (ownerId principalId : String)
    (conversationId : String) (nowMs : Int) (db : SocialDb) :
    SocialOutcome ((Nat × Bool) × SocialDb) := do
  let ownerId := (externalRequiredText ownerId).getD "default"
  let principalId := (externalRequiredText principalId).getD "unknown"
  let day ← orFault (notificationDay nowMs) .timeInvalid
  let window := nowMs / maxSocialNotificationWindowMs
  let windowKey := windowKey ownerId principalId day window
  match noticeWithKey db windowKey with
  | some existing => pure ((existing.noticeId, false), db)
  | none => do
    let dailyPrefix := windowStem ownerId principalId day ++ ":"
    let capped := maxSocialNotificationsPerDay ≤
      countLike db (dailyPrefix ++ "%")
    let noticeKey := if capped then digestKey ownerId principalId day
      else windowKey
    match noticeWithKey db noticeKey with
    | some existing => pure ((existing.noticeId, false), db)
    | none => do
      let noticeId := nextNoticeId db
      let notices ← orFault (db.notices.insert?
        { noticeId, noticeKey, conversationId, ownerId
          noticeText := if capped then
              "Additional external Discord contact attempts were " ++
              "retained for review after the daily notification cap was " ++
              "reached."
            else "An external contact attempt from Discord principal " ++
              principalId ++ " was retained for review." })
        .uniqueConstraint
      pure ((noticeId, true), { db with notices })

/-- The outcome of one evidence row. -/
def markExternalOutcome (kind : MarkerKind) (evidenceRowId conversationId : String)
    (captureRef : String) (createdAtMs : Int) (reason : Option String)
    (authority : Option (Int × Int)) (db : SocialDb) : SocialDb :=
  let quarantine := kind = .quarantinedExternal
  insertExternalMarker
    { id := outcomeMarkerId kind evidenceRowId
      conversationId, kind, captureRef, evidenceRowId
      conversationKey := conversationId
      reason, authority, createdAtMs
      quarantined := quarantine
      quarantineReason := if quarantine then
          reason.or (some "external_quarantined")
        else none } db

/-- What the eligibility of a capture decides: it is allowed, or quarantined for
a reason, or cannot be read. -/
inductive Admission
  | allow (bundle : EligibilityBundle)
  | quarantine (reason : String)
  | retry

def admissionOf (evidence : Evidence) (columns : Option ExternalColumns)
    (reading : ItemReading) : Admission :=
  if evidence.text.all (·.isEmpty) then .quarantine "empty_contact"
  else match columns.bind externalLocationForEligibility with
    | none => .quarantine "external_envelope_invalid"
    | some location =>
      match reading.bundle with
      | none => .retry
      | some bundle =>
        match bundle.verdict with
        | .allowSocial => if reading.markFails then .retry else .allow bundle
        | .captureQuarantine =>
          .quarantine (initialContactQuarantineReason bundle location)
        | .drop => .quarantine "ineligible_current_authority"

/-- The outcome of a capture that is on record, with the notice it created. -/
def admitEvidence (input : ExternalBatchInput) (captureRef : String)
    (evidence : Evidence) (reading : ItemReading) (db : SocialDb) :
    SocialOutcome ((Disposition × Option Nat) × SocialDb) :=
  let columns := db.columns.get? evidence.rowId
  match admissionOf evidence columns reading with
  | .retry => pure ((.captureRetryable, none), db)
  | .allow bundle =>
    pure ((.externalEligiblePending, none),
      markExternalOutcome .externalEligiblePending evidence.rowId
        input.conversationKey captureRef input.nowMs none
        (some (bundle.epoch, bundle.revision)) db)
  | .quarantine reason => do
    let principalId := (columns.bind (·.speakerPrincipalId)).getD "unknown"
    let ((noticeId, created), db) ← queueSocialNotificationInTransaction
      input.ownerId principalId input.conversationKey input.nowMs db
    pure ((.quarantinedExternal, if created then some noticeId else none),
      markExternalOutcome .quarantinedExternal evidence.rowId
        input.conversationKey captureRef input.nowMs (some reason) none db)

/-- One capture reference of a batch. -/
def admitItem (input : ExternalBatchInput) (position : Nat) (rawRef : String)
    (db : SocialDb) : SocialOutcome ((Disposition × Option Nat) × SocialDb) := do
  require (input.interruptedAt ≠ some position) .interrupted
  let captureRef := trim rawRef
  match readExternalCaptureMarker db captureRef with
  | none => pure ((.captureMissing, none), db)
  | some marker =>
    if hasExternalOutcome db marker.evidenceRowId then
      pure ((.alreadyBatched, none), db)
    else if marker.conversationKey ≠ input.conversationKey ∨
        marker.conversationId ≠ input.conversationKey ∨
        some marker.evidenceRowId ≠ afterExtcap captureRef then
      pure ((.captureInvalid "capture_conversation_mismatch", none), db)
    else
      let onRecord := (db.log.evidence.get? marker.evidenceRowId).filter
        (·.role = .externalDialog)
      match onRecord with
      | none => pure ((.captureInvalid "evidence_missing", none), db)
      | some evidence =>
        admitEvidence input captureRef evidence (input.reading position) db

/-- The references from a position on, in order. -/
def admitItems (input : ExternalBatchInput) (position : Nat) :
    List String → SocialDb →
      SocialOutcome (List (Disposition × Option Nat) × SocialDb)
  | [], db => pure ([], db)
  | rawRef :: rest, db => do
    let (result, db) ← admitItem input position rawRef db
    let (results, db) ← admitItems input (position + 1) rest db
    pure (result :: results, db)

/-- `admitExternalBatch`, up to its commit. -/
def admitExternalBatch (input : ExternalBatchInput) (db : SocialDb) :
    SocialOutcome (List (Disposition × Option Nat) × SocialDb) := do
  let conversationKey ← orFault (externalRequiredText input.conversationKey)
    .batchInvalid
  require (input.captureRefs ≠ [] ∧ input.captureRefs.length ≤ 100 ∧
    ∀ rawRef ∈ input.captureRefs, trim rawRef ≠ "") .batchInvalid
  admitItems { input with conversationKey } 0 input.captureRefs db

/-! Runs. -/

inductive SocialOp
  | capture (body : ExternalCapture) (nowMs : Int) (interrupted : Bool)
  | batch (input : ExternalBatchInput)

abbrev Admitting (α : Type) := Process SocialDb SocialFault α

/-- Each operation is one transaction, and the process may die before it
commits. -/
def SocialOp.process [Host] : SocialOp → Admitting Unit
  | .capture body nowMs interrupted => do
    let _ ← Process.commit (admitExternalCapture body nowMs interrupted)
    pure ()
  | .batch input => do
    let _ ← Process.commit (admitExternalBatch input)
    pure ()

def socialStep [Host] (input : SocialOp × Nat) (db : SocialDb) : SocialDb :=
  (input.1.process input.2 db).2

end CognitiveSidecar.Social
