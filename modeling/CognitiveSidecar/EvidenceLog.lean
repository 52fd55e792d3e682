/-
The conversation evidence log: versioned rows, and the binding of each Discord
message identifier to one lineage.
-/
import CognitiveSidecar.Lib.Order
import CognitiveSidecar.Sidecar

namespace CognitiveSidecar

open Relational

variable [Host]

/-- `CREDENTIAL_OMITTED_PLACEHOLDER`. -/
def credentialOmittedPlaceholder : String := "[credential omitted]"

structure AppendEvidenceInput where
  conversationId : String
  text : Option String
  discordMessageIds : List String := []
  lineageId : Option String := none
  version : Nat := 0
  editOfRowId : Option String := none
  nowMs : Int

/-- Trimmed, without repetitions and empty identifiers. -/
def uniqueIds (ids : List String) : List String :=
  ((ids.map trim).filter (· ≠ "")).eraseDups

/-- `ORDER BY version DESC`. -/
def Evidence.newer (left right : Evidence) : Prop := right.version ≤ left.version

instance : DecidableRel Evidence.newer := fun _ _ =>
  inferInstanceAs (Decidable (_ ≤ _))

/-- The newest version of a lineage. -/
def newestOfLineage (db : Sidecar) (lineageId : String) : Option Evidence :=
  firstBy Evidence.newer (db.evidence.rows.filter (·.lineageId = lineageId))

/-- The newest version of the lineage that a Discord message belongs to. -/
def existingByDiscordId (db : Sidecar) (discordMessageId : String) :
    Option Evidence :=
  (db.discordIds.get? discordMessageId).bind fun binding =>
    newestOfLineage db binding.lineageId

/-- The first known message of a batch decides the whole batch. -/
def existingByDiscordIds (db : Sidecar) (ids : List String) :
    Option Evidence :=
  ids.findSome? (existingByDiscordId db)

/-- The text that is stored, with whether a credential was left out. -/
def normalizeClassification (text : Option String) : Option String × Bool :=
  if text.any Host.hasCredentialShape then
    (some credentialOmittedPlaceholder, true)
  else (text, false)

/-- `INSERT OR IGNORE` of one Discord identifier. -/
def bindDiscordId (conversationId lineageId : String)
    (table : Table DiscordBinding) (item : String × Nat) :
    Table DiscordBinding :=
  (table.insert? ⟨item.1, conversationId, lineageId, item.2⟩).getD table

/-- The version written after the versions a lineage already has. -/
def nextVersion (db : Sidecar) (lineageId : String) (requested : Nat)
    (isEdit : Bool) : Nat :=
  let versions :=
    (db.evidence.rows.filter (·.lineageId = lineageId)).map Evidence.version
  max 1 (max requested
    (versions.max?.getD 0 + if isEdit || versions ≠ [] then 1 else 0))

/-- Write a new evidence row and bind its Discord identifiers. -/
def insertEvidence (db : Sidecar) (role : EvidenceRole)
    (input : AppendEvidenceInput) (parent : Option Evidence) :
    Outcome (Evidence × Sidecar) := do
  let ids := uniqueIds input.discordMessageIds
  let (text, secretOmitted) := normalizeClassification input.text
  let (lineageUUID, drawn) := db.drawUUID
  let given := input.lineageId.or (parent.map Evidence.lineageId)
  let db := if given.isSome then db else drawn
  let lineageId := given.getD lineageUUID
  let (rowId, db) := db.drawUUID
  let storedIds := if ids = [] then
    (parent.map Evidence.discordMessageIds).getD [] else ids
  let row : Evidence :=
    { rowId, lineageId
      version := nextVersion db lineageId input.version parent.isSome
      conversationId := input.conversationId, role, text
      createdAtMs := input.nowMs, discordMessageIds := storedIds
      secretOmitted }
  let evidence ← orFault (db.evidence.insert? row) .uniqueConstraint
  pure (row,
    { db with
      evidence
      discordIds := storedIds.zipIdx.foldl
        (bindDiscordId input.conversationId lineageId) db.discordIds })

def appendEvidenceInTransaction (db : Sidecar) (role : EvidenceRole)
    (input : AppendEvidenceInput) : Outcome (Evidence × Sidecar) := do
  require (!blank input.conversationId) .conversationIdRequired
  match input.editOfRowId.filter (· ≠ "") with
  | some editOfRowId => do
    let parent ← orFault (db.evidence.get? editOfRowId)
      .evidenceEditParentMissing
    insertEvidence db role input (some parent)
  | none =>
    match existingByDiscordIds db (uniqueIds input.discordMessageIds) with
    | some existing => pure (existing, db)
    | none => insertEvidence db role input none

structure AppendOwnerUtteranceResult where
  evidence : Evidence
  duplicate : Bool

/-- Admit owner evidence within a caller-managed transaction. -/
def appendOwnerUtteranceInTransaction (db : Sidecar)
    (input : AppendEvidenceInput) :
    Outcome (AppendOwnerUtteranceResult × Sidecar) := do
  let existing := if (input.editOfRowId.filter (· ≠ "")).isSome then none
    else existingByDiscordIds db (uniqueIds input.discordMessageIds)
  match existing with
  | some evidence => pure (⟨evidence, true⟩, db)
  | none => do
    let (evidence, db) ← appendEvidenceInTransaction db .owner input
    pure (⟨evidence, false⟩, db)

end CognitiveSidecar
