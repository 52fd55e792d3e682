/-
Commitments: promises that a settlement proposes, the Host admits, and later
opportunities keep, defer or end.
-/
import CognitiveSidecar.Lib.Text
import CognitiveSidecar.Sidecar
import Mathlib.Data.List.Sort

namespace CognitiveSidecar.Commitments

open Relational

inductive SocialAudience
  | ownerPrivate
  | ownerDm (threadId : String)
  | dm (principalId : String)
  | room (roomId : String)
deriving DecidableEq

inductive CommitmentTemporal
  | exactly (atMs : Int)
  | bounded (windowStartMs windowEndMs : Int)
  | unscheduled
deriving DecidableEq

inductive CommitmentLateBehavior
  | deliverLate | reconsider | expire
deriving DecidableEq

def CommitmentLateBehavior.text : CommitmentLateBehavior → String
  | deliverLate => "deliver_late"
  | reconsider => "reconsider"
  | expire => "expire"

/-- `COMMITMENT_LATE_BEHAVIORS`. -/
def commitmentLateBehaviors : List String :=
  ["deliver_late", "reconsider", "expire"]

structure CommitmentProposal where
  ordinal : Int
  (action beneficiary : String)
  destination : SocialAudience
  temporal : CommitmentTemporal
  (realizationClause cycleId attemptId : String)
  timezoneId : Option String := none
  requiredPrecisionMs : Option Int := none
  lateBehavior : Option CommitmentLateBehavior := none
  latestUsefulAtMs : Option Int := none
deriving DecidableEq

structure CommitmentDelegationBinding where
  (principalId conversationId operationClass delegationRef : String)
deriving DecidableEq

inductive CommitmentState
  | admitted | communicated | attempted | deferredBlocked
  | completed | cancelled | expired | relinquished | revised | missedOverdue
deriving DecidableEq

/-- `COMMITMENT_STATES`; the other states are ends. -/
def CommitmentState.isActive : CommitmentState → Bool
  | admitted | communicated | attempted | deferredBlocked => true
  | _ => false

/-- What `evidence_json` keeps of an admitted proposal. -/
structure CommitmentEvidence where
  proposal : CommitmentProposal
  admissionRevision : Int
  delegation : Option CommitmentDelegationBinding := none
  recoveryStatus : Bool := false
deriving DecidableEq

/-- The values that the `status` column may take. -/
def commitmentStatuses : List String :=
  ["active", "fulfilled", "released", "forgotten", "motivated"]

/-- A row of `ashley_self_commitments` that was admitted from a proposal. -/
structure CommitmentRow where
  (entityUuid ownerId sourceEntityUuid status : String)
  evidence : Option CommitmentEvidence
  beneficiaryPrincipal : String
  fireAtMs : Option Int
  leaseToken : Option String := none
  leaseExpiresAtMs : Option Int := none
  attemptCount : Nat := 0
  commitmentState : CommitmentState
  lateBehavior : String
  latestUsefulAtMs : Option Int
deriving DecidableEq

instance : Keyed CommitmentRow String := ⟨fun row => row.entityUuid⟩

inductive CommitmentSettlement
  | admitted (proposalId : String) (idempotentReplay : Bool)
      (commitmentId : String) (fireAtMs : Option Int) (admissionRevision : Int)
  | refused (proposalId : String) (idempotentReplay : Bool) (reason : String)
  | unsettled (proposalId : String) (idempotentReplay : Bool) (reason : String)

/-- `resultWithReplay`. -/
def CommitmentSettlement.withReplay : CommitmentSettlement →
    CommitmentSettlement
  | admitted proposalId _ commitmentId fireAtMs admissionRevision =>
    admitted proposalId true commitmentId fireAtMs admissionRevision
  | refused proposalId _ reason => refused proposalId true reason
  | unsettled proposalId _ reason => unsettled proposalId true reason

/-- A row of `commitment_settlements`. -/
structure ProposalRow where
  (proposalId sourceRef : String)
  ordinal : Int
  proposal : CommitmentProposal
  result : Option CommitmentSettlement

instance : Keyed ProposalRow String := ⟨fun row => row.proposalId⟩

/-- A reservation of a delivery with its bubbles, newest reservations first. -/
structure DeliveryReservation where
  (ownerId commitmentId state : String)
  (plannedCount receiptCount : Nat)

inductive ClaimState
  | claimed | released | committed | aborted
deriving DecidableEq

/-- A row of `relationship_motivation_claims`. -/
structure MotivationClaim where
  (ownerId relationshipEntityUuid : String)
  claimState : ClaimState
  leaseUntilMs : Int
  attemptCount : Nat
  lastErrorCode : Option String

/-- The tables of the nuclear database that commitments use. -/
structure CommitmentDb where
  commitments : Table CommitmentRow := Table.empty
  proposals : Table ProposalRow := Table.empty
  deliveries : List DeliveryReservation := []
  claims : List MotivationClaim := []
  drawn : Nat := 0

inductive CommitmentFault
  | sourceRequired | proposalsInvalid | proposalShapeInvalid
  | proposalOrdinalDuplicate | sourceConflict | proposalMissing
  | proposalIntegrityInvalid | dateInvalid | statusCheckFailed

/-- What the platform and the authority tables answer during a call. -/
structure CommitmentReading where
  isTimezone : String → Bool := fun _ => true
  authorityAllows : (ownerId : String) → CommitmentProposal →
    (fireAtMs : Option Int) → (nowMs : Int) → Option String :=
      fun _ _ _ _ => none
  recheckDelegation : CommitmentDelegationBinding → Option String :=
    fun _ => none
  authorityRevision : Int := 0
  commitmentsEnabled : Bool := false
  schedulerIntervalMs : Int := 3600000

structure CommitmentAdmissionOptions where
  ownerId : String := "owner"
  nowMs : Int
  enabled : Bool := false
  maxPerBeneficiary : Nat := 3
  maxGlobal : Nat := 12
  delegationBindings : Int → Option CommitmentDelegationBinding :=
    fun _ => none

def defaultCommitmentTimezoneId : String := "UTC"

def defaultCommitmentSchedulerIntervalMs : Int := 3600000

/-- `normalizeCommitmentProposal`. -/
def normalizeCommitmentProposal (proposal : CommitmentProposal)
    (schedulerIntervalMs : Int) : CommitmentProposal :=
  { proposal with
    timezoneId :=
      let timezoneId := trim (proposal.timezoneId.getD "")
      some (if timezoneId = "" then defaultCommitmentTimezoneId
        else timezoneId)
    requiredPrecisionMs :=
      some (proposal.requiredPrecisionMs.getD schedulerIntervalMs)
    lateBehavior := some (proposal.lateBehavior.getD .reconsider) }

def validDestination : SocialAudience → Bool
  | .ownerPrivate => true
  | .ownerDm threadId => !blank threadId
  | .dm principalId => !blank principalId
  | .room roomId => !blank roomId

def validTemporal : CommitmentTemporal → Bool
  | .exactly _ => true
  | .bounded windowStartMs windowEndMs => windowStartMs ≤ windowEndMs
  | .unscheduled => true

def validTimezoneId (reading : CommitmentReading) (timezoneId : String) :
    Bool :=
  !blank timezoneId && utf16Length timezoneId ≤ 128 &&
    reading.isTimezone timezoneId

def validateCommitmentProposal (reading : CommitmentReading)
    (proposal : CommitmentProposal) : Bool :=
  0 ≤ proposal.ordinal && proposal.ordinal ≤ 7 && !blank proposal.action &&
    !blank proposal.beneficiary && validDestination proposal.destination &&
    validTemporal proposal.temporal && !blank proposal.realizationClause &&
    !blank proposal.cycleId && !blank proposal.attemptId &&
    proposal.timezoneId.all (validTimezoneId reading) &&
    proposal.requiredPrecisionMs.all (0 < ·) &&
    proposal.latestUsefulAtMs.all (0 ≤ ·)

/-- `validateCommitmentProposals`. -/
def validateCommitmentProposals (reading : CommitmentReading)
    (proposals : List CommitmentProposal) :
    Except CommitmentFault (List CommitmentProposal) := do
  require (1 ≤ proposals.length ∧ proposals.length ≤ 8) .proposalsInvalid
  require (proposals.all (validateCommitmentProposal reading) = true)
    .proposalShapeInvalid
  require (proposals.map (·.ordinal)).Nodup .proposalOrdinalDuplicate
  pure (proposals.map fun proposal =>
    normalizeCommitmentProposal
      { proposal with action := trim proposal.action }
      defaultCommitmentSchedulerIntervalMs)

def proposalIdOf (sourceRef : String) (ordinal : Int) : String :=
  "cmt:" ++ sourceRef ++ ":" ++ toString ordinal

/-- Insert one proposal; a stored one of the same place must be the same. -/
def persistOne (sourceRef : String) (db : CommitmentDb)
    (proposal : CommitmentProposal) : Except CommitmentFault CommitmentDb :=
  match db.proposals.rows.find? (fun row =>
      row.sourceRef = sourceRef && row.ordinal = proposal.ordinal) with
  | some existing => do
    require (existing.proposal = proposal) .sourceConflict
    pure db
  | none => do
    let proposals ← orFault (db.proposals.insert?
      { proposalId := proposalIdOf sourceRef proposal.ordinal
        sourceRef := sourceRef, ordinal := proposal.ordinal
        proposal := proposal, result := none }) .sourceConflict
    pure { db with proposals }

/-- Persist immutable proposals before admission. -/
def persistCommitmentProposals (db : CommitmentDb)
    (reading : CommitmentReading) (settlementRef : String)
    (proposals : List CommitmentProposal) :
    Except CommitmentFault CommitmentDb := do
  require (!blank settlementRef) .sourceRequired
  let validated ← validateCommitmentProposals reading proposals
  eachOf (persistOne (trim settlementRef)) db validated

/-- The time at which a proposal fires, or why it cannot. -/
def fireTime (proposal : CommitmentProposal) (nowMs : Int) :
    Except String (Option Int) :=
  match proposal.temporal with
  | .unscheduled => .ok none
  | .exactly atMs =>
    if nowMs < atMs then .ok (some atMs) else .error "temporal_not_future"
  | .bounded windowStartMs windowEndMs =>
    if windowEndMs ≤ nowMs then .error "temporal_window_expired"
    else .ok (some (max nowMs windowStartMs))

def timingFailure (reading : CommitmentReading) (proposal : CommitmentProposal)
    (nowMs schedulerIntervalMs : Int) : Option String :=
  let timing := normalizeCommitmentProposal proposal schedulerIntervalMs
  let precision := timing.requiredPrecisionMs.getD schedulerIntervalMs
  let expires := timing.lateBehavior = some .expire
  if !timing.timezoneId.all (validTimezoneId reading) then
    some "timezone_invalid"
  else if precision ≤ 0 then some "precision_invalid"
  else if precision < schedulerIntervalMs then some "precision_unsupported"
  else if (match proposal.temporal with
      | .bounded windowStartMs windowEndMs =>
        decide (windowEndMs - windowStartMs < schedulerIntervalMs)
      | _ => false) then some "precision_unsupported"
  else if expires && timing.latestUsefulAtMs.isNone then
    some "latest_useful_time_required"
  else if timing.latestUsefulAtMs.any (· < nowMs) && expires then
    some "latest_useful_time_expired"
  else none

def activeCount (db : CommitmentDb) (ownerId : String) : Nat :=
  db.commitments.rows.countP fun row =>
    row.ownerId = ownerId && row.commitmentState.isActive

def beneficiaryCount (db : CommitmentDb) (ownerId beneficiary : String) : Nat :=
  db.commitments.rows.countP fun row =>
    row.ownerId = ownerId && row.beneficiaryPrincipal = beneficiary &&
      row.commitmentState.isActive

def beneficiaryOf (ownerId : String) (proposal : CommitmentProposal) : String :=
  if proposal.beneficiary = "owner" then ownerId else proposal.beneficiary

/-- The fire time and the authority revision of an admission, or the reason
that refuses it. -/
def feasibility (db : CommitmentDb) (reading : CommitmentReading)
    (proposal : CommitmentProposal) (options : CommitmentAdmissionOptions) :
    Except String (Option Int × Int) := do
  require (options.enabled = true ∨ reading.commitmentsEnabled = true)
    "commitments_disabled"
  require (utf16Length proposal.action ≤ 800) "action_too_long"
  require (proposal.beneficiary = "owner" ∨
    proposal.destination ≠ .ownerPrivate) "beneficiary_destination_mismatch"
  match timingFailure reading proposal options.nowMs
      reading.schedulerIntervalMs with
  | some reason => .error reason
  | none => do
    let fireAtMs ← fireTime proposal options.nowMs
    match reading.authorityAllows options.ownerId proposal fireAtMs
        options.nowMs with
    | some reason => .error reason
    | none => do
      require (beneficiaryCount db options.ownerId
        (beneficiaryOf options.ownerId proposal) <
          options.maxPerBeneficiary) "beneficiary_cap"
      require (activeCount db options.ownerId < options.maxGlobal)
        "global_cap"
      pure (fireAtMs, reading.authorityRevision)

/-- A time that `toISOString` accepts. -/
def isDate (ms : Int) : Bool :=
  -8640000000000000 ≤ ms && ms ≤ 8640000000000000

def opportunityRow (proposalId : String) (proposal : CommitmentProposal)
    (options : CommitmentAdmissionOptions) (fireAtMs : Option Int)
    (admissionRevision : Int) : CommitmentRow where
  entityUuid := proposalId
  ownerId := options.ownerId
  sourceEntityUuid := proposalId
  status := "motivated"
  evidence := some
    { proposal
      admissionRevision
      delegation := options.delegationBindings proposal.ordinal }
  beneficiaryPrincipal := beneficiaryOf options.ownerId proposal
  fireAtMs
  commitmentState := .admitted
  lateBehavior := (proposal.lateBehavior.getD .reconsider).text
  latestUsefulAtMs := proposal.latestUsefulAtMs

def ProposalRow.settled (result : CommitmentSettlement) (row : ProposalRow) :
    ProposalRow :=
  { row with result := some result }

theorem ProposalRow.settled_key (result : CommitmentSettlement)
    (row : ProposalRow) : key (row.settled result) = key row := rfl

/-- `UPDATE commitment_settlements … WHERE result_json IS NULL`. -/
def storeResult (db : CommitmentDb) (proposalId : String)
    (result : CommitmentSettlement) : CommitmentDb :=
  { db with
    proposals := db.proposals.update
      (fun row => row.proposalId = proposalId && row.result.isNone)
      (ProposalRow.settled result) (ProposalRow.settled_key result) }

def settleOne (db : CommitmentDb) (reading : CommitmentReading)
    (row : ProposalRow) (options : CommitmentAdmissionOptions) :
    Except CommitmentFault (CommitmentSettlement × CommitmentDb) := do
  require (validateCommitmentProposal reading row.proposal = true)
    .proposalIntegrityInvalid
  let proposal := normalizeCommitmentProposal row.proposal
    defaultCommitmentSchedulerIntervalMs
  match feasibility db reading proposal options with
  | .ok (fireAtMs, admissionRevision) => do
    require (fireAtMs.all isDate = true) .dateInvalid
    let db := { db with
      commitments := db.commitments.insertNew (opportunityRow row.proposalId
        proposal options fireAtMs admissionRevision) }
    let settlement := .admitted row.proposalId false row.proposalId fireAtMs
      admissionRevision
    pure (settlement, storeResult db row.proposalId settlement)
  | .error reason =>
    let settlement := .refused row.proposalId false reason
    pure (settlement, storeResult db row.proposalId settlement)

/-- Settle one stored proposal, or replay its result. -/
def settleCandidate (reading : CommitmentReading)
    (options : CommitmentAdmissionOptions) (proposalId : String)
    (db : CommitmentDb) :
    Except CommitmentFault (CommitmentSettlement × CommitmentDb) := do
  let row ← orFault (db.proposals.get? proposalId) .proposalMissing
  match row.result with
  | some stored => pure (stored.withReplay, db)
  | none => settleOne db reading row options

/-- Each proposal is a transaction of its own: those before a fault stay. -/
def eachProposal (settle : String → CommitmentDb →
      Except CommitmentFault (CommitmentSettlement × CommitmentDb)) :
    List String → CommitmentDb →
      Except CommitmentFault (List CommitmentSettlement) × CommitmentDb
  | [], db => (.ok [], db)
  | proposalId :: rest, db =>
    match settle proposalId db with
    | .error fault => (.error fault, db)
    | .ok (result, after) =>
      let later := eachProposal settle rest after
      ((result :: ·) <$> later.1, later.2)

/-- The proposals of a settlement, in their order. -/
def proposalsOf (db : CommitmentDb) (settlementRef : String) :
    List ProposalRow :=
  (db.proposals.rows.filter (·.sourceRef = settlementRef)).insertionSort
    (·.ordinal ≤ ·.ordinal)

/-- Settle each pending proposal of a settlement and replay the others. -/
def settlePersistedCommitmentProposals (db : CommitmentDb)
    (reading : CommitmentReading) (settlementRef : String)
    (options : CommitmentAdmissionOptions) :
    Except CommitmentFault (List CommitmentSettlement) × CommitmentDb :=
  eachProposal (settleCandidate reading options)
    ((proposalsOf db settlementRef).map (·.proposalId)) db

/-- A proposal without a result becomes a provisional orphan. -/
def orphanCandidate (proposalId : String) (db : CommitmentDb) :
    Except CommitmentFault (CommitmentSettlement × CommitmentDb) := do
  let row ← orFault (db.proposals.get? proposalId) .proposalMissing
  match row.result with
  | some stored => pure (stored.withReplay, db)
  | none =>
    let settlement := .unsettled proposalId false "provisional_orphan"
    pure (settlement, storeResult db proposalId settlement)

/-- Startup recovery never regenerates the output of a thought. -/
def recoverPendingCommitmentProposals (db : CommitmentDb) :
    Except CommitmentFault (List CommitmentSettlement) × CommitmentDb :=
  eachProposal orphanCandidate
    ((db.proposals.rows.filter (·.result.isNone)).map (·.proposalId)) db

/-- A commitment moves, and its lease ends. -/
def CommitmentRow.moved (state : CommitmentState) (status : String)
    (row : CommitmentRow) : CommitmentRow :=
  { row with
    commitmentState := state, status, leaseToken := none
    leaseExpiresAtMs := none }

theorem CommitmentRow.moved_key (state : CommitmentState) (status : String)
    (row : CommitmentRow) : key (row.moved state status) = key row := rfl

def CommitmentRow.cancelledRow (row : CommitmentRow) : CommitmentRow :=
  { row with commitmentState := .cancelled, status := "released" }

theorem CommitmentRow.cancelledRow_key (row : CommitmentRow) :
    key row.cancelledRow = key row := rfl

/-- A promise of a settlement that never published is cancelled; one that was
attempted is history. -/
def cancelCommitmentsForSettlement (db : CommitmentDb)
    (settlementRef : String) : Except CommitmentFault CommitmentDb := do
  require (!blank settlementRef) .sourceRequired
  let ids := (db.proposals.rows.filter
    (·.sourceRef = trim settlementRef)).map (·.proposalId)
  pure { db with
    commitments := db.commitments.update
      (fun row => row.commitmentState = .admitted &&
        ids.contains row.sourceEntityUuid)
      CommitmentRow.cancelledRow CommitmentRow.cancelledRow_key }

structure CommitmentOpportunity where
  (commitmentId ownerId : String)
  proposal : CommitmentProposal
  latestUsefulAtMs : Option Int
  latenessMs : Int
  fireAtMs : Option Int
  state : CommitmentState
  attemptCount : Nat
  leaseToken : Option String
  leaseExpiresAtMs : Option Int
  recoveryStatus : Bool
  delegation : Option CommitmentDelegationBinding
deriving DecidableEq

def proposalLatenessMs (proposal : CommitmentProposal) (nowMs : Int) : Int :=
  match proposal.temporal with
  | .exactly atMs => max 0 (nowMs - atMs)
  | .bounded _ windowEndMs => max 0 (nowMs - windowEndMs)
  | .unscheduled => 0

def delegationClasses : List String :=
  ["public_search", "public_fetch", "supplied_attachment", "bounded_followup"]

def validDelegation (binding : CommitmentDelegationBinding) : Bool :=
  !blank binding.principalId && !blank binding.conversationId &&
    !blank binding.delegationRef &&
    delegationClasses.contains binding.operationClass

def opportunityFromRow (reading : CommitmentReading) (row : CommitmentRow)
    (nowMs : Int) : Option CommitmentOpportunity :=
  match row.evidence with
  | none => none
  | some evidence =>
    if validateCommitmentProposal reading evidence.proposal then
      let proposal := normalizeCommitmentProposal evidence.proposal
        defaultCommitmentSchedulerIntervalMs
      some
        { commitmentId := row.entityUuid, ownerId := row.ownerId, proposal
          latestUsefulAtMs :=
            proposal.latestUsefulAtMs.or row.latestUsefulAtMs
          latenessMs := proposalLatenessMs proposal nowMs
          fireAtMs := row.fireAtMs, state := row.commitmentState
          attemptCount := row.attemptCount, leaseToken := row.leaseToken
          leaseExpiresAtMs := row.leaseExpiresAtMs
          recoveryStatus := evidence.recoveryStatus
          delegation := evidence.delegation.filter validDelegation }
    else none

/-- Claim the motivation of an entity, unless a claim on it is still leased. -/
def tryClaimRelationshipMotivation (db : CommitmentDb) (ownerId : String)
    (entityUuid : String) (clockMs : Int) : Bool × CommitmentDb :=
  let isClaimed := fun (claim : MotivationClaim) =>
    decide (claim.ownerId = ownerId) &&
      decide (claim.relationshipEntityUuid = entityUuid) &&
      decide (claim.claimState = .claimed)
  if (db.claims.find? isClaimed).any (clockMs < ·.leaseUntilMs) then
    (false, db)
  else (true, { db with
    claims := (db.claims.map fun claim =>
      if isClaimed claim then { claim with claimState := .released }
      else claim) ++
        [{ ownerId := ownerId, relationshipEntityUuid := entityUuid
           claimState := .claimed, leaseUntilMs := clockMs + 300000
           attemptCount := 0, lastErrorCode := none }] })

def markClaimOutcome (db : CommitmentDb) (entityUuid : String)
    (state : ClaimState) (errorCode : Option String) : CommitmentDb :=
  { db with
    claims := db.claims.map fun claim =>
      if claim.relationshipEntityUuid = entityUuid ∧
          claim.claimState = .claimed then
        { claim with
          claimState := state
          attemptCount := if state = .aborted then claim.attemptCount + 1
            else claim.attemptCount
          lastErrorCode := errorCode }
      else claim }

/-- The row of an owner and id, in the states that a guard allows. -/
def isAt (ownerId commitmentId : String) (guard : CommitmentRow → Bool)
    (row : CommitmentRow) : Bool :=
  row.ownerId = ownerId && row.entityUuid = commitmentId && guard row

/-- `UPDATE … WHERE owner_id = ? AND entity_uuid = ? AND …`: whether a row
changed, and the table after it. -/
def moveCommitment (db : CommitmentDb) (ownerId commitmentId : String)
    (guard : CommitmentRow → Bool) (state : CommitmentState)
    (status : String) : Bool × CommitmentDb :=
  (db.commitments.rows.any (isAt ownerId commitmentId guard),
    { db with
      commitments := db.commitments.update (isAt ownerId commitmentId guard)
        (CommitmentRow.moved state status)
        (CommitmentRow.moved_key state status) })

def findCommitment (db : CommitmentDb) (ownerId commitmentId : String) :
    Option CommitmentRow :=
  (db.commitments.get? commitmentId).filter (·.ownerId = ownerId)

variable [Host]

def CommitmentRow.leased (leaseToken : String) (leaseExpiresAtMs : Int)
    (row : CommitmentRow) : CommitmentRow :=
  { row with
    commitmentState := .attempted, leaseToken := some leaseToken
    leaseExpiresAtMs := some leaseExpiresAtMs
    attemptCount := row.attemptCount + 1 }

omit [Host] in
theorem CommitmentRow.leased_key (leaseToken : String)
    (leaseExpiresAtMs : Int) (row : CommitmentRow) :
    key (row.leased leaseToken leaseExpiresAtMs) = key row := rfl

/-- The states from which an opportunity is claimed. -/
def CommitmentRow.isClaimable (nowMs : Int) (row : CommitmentRow) : Bool :=
  (row.commitmentState = .admitted || row.commitmentState = .communicated ||
    row.commitmentState = .deferredBlocked) &&
    row.leaseExpiresAtMs.all (· ≤ nowMs)

/-- Lease an opportunity for an attempt.  `clockMs` is the clock that the
motivation claim and the lateness read. -/
def claimCommitmentOpportunity (db : CommitmentDb)
    (reading : CommitmentReading) (ownerId commitmentId : String)
    (nowMs leaseMs clockMs : Int) :
    Option CommitmentOpportunity × CommitmentDb :=
  match findCommitment db ownerId commitmentId with
  | none => (none, db)
  | some current =>
    if !current.commitmentState.isActive then (none, db)
    else if 3 ≤ current.attemptCount then (none, db)
    else if current.leaseExpiresAtMs.any (nowMs < ·) then (none, db)
    else
      let (leasedByClaim, db) :=
        tryClaimRelationshipMotivation db ownerId commitmentId clockMs
      if !leasedByClaim then (none, db)
      else
        let leaseToken := "commitment-lease:" ++ Host.randomUUID db.drawn
        let claimable := isAt ownerId commitmentId
          (CommitmentRow.isClaimable nowMs)
        let next := { db with
          drawn := db.drawn + 1
          commitments := db.commitments.update claimable
            (CommitmentRow.leased leaseToken (nowMs + leaseMs))
            (CommitmentRow.leased_key leaseToken (nowMs + leaseMs)) }
        if !db.commitments.rows.any claimable then
          (none, markClaimOutcome next commitmentId .released
            (some "commitment_claim_race"))
        else ((next.commitments.get? commitmentId).bind
          (opportunityFromRow reading · clockMs), next)

inductive CommitmentWakeVerdict
  | fulfill (opportunity : CommitmentOpportunity)
  | defer (opportunity : CommitmentOpportunity) (nextFireAtMs : Int)
      (reason : String)
  | expired (opportunity : CommitmentOpportunity) (reason : String)
  | notFound
deriving DecidableEq

def CommitmentRow.deferred (nextFireAtMs : Int) (row : CommitmentRow) :
    CommitmentRow :=
  { row with
    commitmentState := .deferredBlocked, fireAtMs := some nextFireAtMs
    leaseToken := none, leaseExpiresAtMs := none }

omit [Host] in
theorem CommitmentRow.deferred_key (nextFireAtMs : Int) (row : CommitmentRow) :
    key (row.deferred nextFireAtMs) = key row := rfl

/-- The proposal that authority is asked about again at wake. -/
def CommitmentOpportunity.rechecked (opportunity : CommitmentOpportunity) :
    CommitmentProposal :=
  { opportunity.proposal with
    ordinal := 0
    beneficiary := if opportunity.proposal.beneficiary = opportunity.ownerId
      then "owner" else opportunity.proposal.beneficiary
    latestUsefulAtMs := opportunity.latestUsefulAtMs, cycleId := "recheck"
    attemptId := "recheck" }

/-- Why an opportunity may not be fulfilled now. -/
def wakeFailure (reading : CommitmentReading)
    (opportunity : CommitmentOpportunity) (nowMs : Int) : Option String :=
  (reading.authorityAllows opportunity.ownerId opportunity.rechecked
    opportunity.fireAtMs nowMs).or
      (opportunity.delegation.bind fun binding =>
        (reading.recheckDelegation binding).map ("social_delegation_" ++ ·))

def CommitmentOpportunity.isPast (opportunity : CommitmentOpportunity)
    (nowMs : Int) : Bool :=
  opportunity.proposal.lateBehavior = some .expire &&
    opportunity.latestUsefulAtMs.any (· < nowMs)

/-- What a due commitment is worth now.  The late behaviour of a proposal that
was read is always a known one, so no opportunity is missed here. -/
def recheckCommitmentOpportunity (db : CommitmentDb)
    (reading : CommitmentReading) (ownerId commitmentId : String)
    (nowMs blockedBackoffMs : Int) : CommitmentWakeVerdict × CommitmentDb :=
  match (findCommitment db ownerId commitmentId).bind
      (opportunityFromRow reading · nowMs) with
  | none => (.notFound, db)
  | some opportunity =>
    if opportunity.isPast nowMs then
      let (_, db) := moveCommitment db ownerId commitmentId
        (·.commitmentState.isActive) .expired "released"
      (.expired { opportunity with state := .expired }
          "latest_useful_at_passed",
        markClaimOutcome db commitmentId .released (some "expired"))
    else match wakeFailure reading opportunity nowMs with
      | none => (.fulfill opportunity, db)
      | some failure =>
        let nextFireAtMs := nowMs + blockedBackoffMs
        let db := { db with
          commitments := db.commitments.update
            (fun row => row.entityUuid = commitmentId &&
              row.commitmentState.isActive)
            (CommitmentRow.deferred nextFireAtMs)
            (CommitmentRow.deferred_key nextFireAtMs) }
        (.defer { opportunity with
            state := .deferredBlocked, fireAtMs := some nextFireAtMs }
            nextFireAtMs failure,
          markClaimOutcome db commitmentId .released (some failure))

inductive DeliveryOutcome
  | committed | partiallyDelivered | aborted | cancelled
deriving DecidableEq

/-- The ends that a relinquishment leaves alone. -/
def CommitmentState.isRelinquishable : CommitmentState → Bool
  | completed | relinquished | revised | missedOverdue => false
  | _ => true

def relinquishCommitment (db : CommitmentDb) (ownerId commitmentId : String)
    (reason : Option String) : Bool × CommitmentDb :=
  let (changed, db) := moveCommitment db ownerId commitmentId
    (·.commitmentState.isRelinquishable) .relinquished "released"
  if changed then (true, markClaimOutcome db commitmentId .released
    (some (reason.getD "relinquished")))
  else (false, db)

/-- What becomes of a commitment when a delivery of it ends. -/
def applyCommitmentDeliveryOutcome (db : CommitmentDb)
    (ownerId commitmentId : String) (state : DeliveryOutcome)
    (cause : Option String) (receiptCount : Nat) :
    Except CommitmentFault CommitmentDb :=
  match findCommitment db ownerId commitmentId with
  | none => .ok db
  | some row =>
    if 0 < receiptCount ∧ state = .committed then
      let (changed, db) := moveCommitment db ownerId commitmentId
        (·.commitmentState.isActive) .completed "fulfilled"
      if changed then .ok (markClaimOutcome db commitmentId .committed none)
      else .ok db
    else if state = .cancelled then
      if 0 < receiptCount then
        .ok (relinquishCommitment db ownerId commitmentId
          (some (cause.getD "cancelled"))).2
      else .ok db
    else if 3 ≤ row.attemptCount then do
      -- the CHECK of the status column does not list 'deferred'
      require (commitmentStatuses.contains "deferred" = true)
        .statusCheckFailed
      let (_, db) := moveCommitment db ownerId commitmentId (fun _ => true)
        .deferredBlocked "deferred"
      pure (markClaimOutcome db commitmentId .released
        (some "retry_exhausted"))
    else .ok db

/-- The reservations of a commitment that are under way or delivered. -/
def deliveriesOf (db : CommitmentDb) (ownerId commitmentId : String) :
    List DeliveryReservation :=
  db.deliveries.filter fun delivery =>
    delivery.ownerId = ownerId && delivery.commitmentId = commitmentId &&
      ["reserved", "sending", "committed", "partially_delivered"].contains
        delivery.state

/-- Every planned bubble of the delivery has a receipt. -/
def DeliveryReservation.isComplete (delivery : DeliveryReservation) : Bool :=
  0 < delivery.plannedCount && delivery.plannedCount ≤ delivery.receiptCount &&
    (delivery.state = "committed" || delivery.state = "partially_delivered")

def CommitmentRow.requeued (row : CommitmentRow) : CommitmentRow :=
  { row with
    commitmentState := .admitted
    evidence := row.evidence.map ({ · with recoveryStatus := true })
    leaseToken := none, leaseExpiresAtMs := none }

omit [Host] in
theorem CommitmentRow.requeued_key (row : CommitmentRow) :
    key row.requeued = key row := rfl

def requeueCommitment (db : CommitmentDb) (ownerId commitmentId : String)
    (nowMs : Int) : CommitmentDb :=
  { db with
    commitments := db.commitments.update
      (isAt ownerId commitmentId fun row => row.commitmentState = .attempted &&
        row.leaseExpiresAtMs.all (· ≤ nowMs))
      CommitmentRow.requeued CommitmentRow.requeued_key }

/-- How many opportunities a recovery requeued and missed. -/
structure RecoveryCounts where
  requeued : Nat := 0
  missed : Nat := 0

/-- Recover one active commitment.  A late behaviour that is not known marks a
row from before the timing contract. -/
def recoverOne (ownerId : String) (nowMs overdueGraceMs : Int)
    (progress : RecoveryCounts × CommitmentDb) (row : CommitmentRow) :
    Except CommitmentFault (RecoveryCounts × CommitmentDb) :=
  let (counts, db) := progress
  let id := row.entityUuid
  let deliveries := deliveriesOf db ownerId id
  let known := commitmentLateBehaviors.contains row.lateBehavior
  let isAttempted := decide (row.commitmentState = .attempted)
  let requeued := { counts with requeued := counts.requeued + 1 }
  let missed := { counts with missed := counts.missed + 1 }
  if deliveries ≠ [] then
    match deliveries.find? (·.isComplete) with
    | some delivery => do
      let db ← applyCommitmentDeliveryOutcome db ownerId id .committed none
        delivery.receiptCount
      pure (counts, db)
    | none => .ok (counts, db)
  else if isAttempted && row.leaseExpiresAtMs.any (nowMs < ·) then
    .ok (counts, db)
  else if row.lateBehavior = "expire" ∧
      row.latestUsefulAtMs.any (· < nowMs) = true then
    let (changed, db) := moveCommitment db ownerId id
      (·.commitmentState.isActive) .expired "released"
    .ok (counts, if changed then markClaimOutcome db id .released
      (some "expired") else db)
  else if row.fireAtMs.any (· < nowMs) && known then
    .ok (requeued, if isAttempted && row.attemptCount < 3 then
      requeueCommitment db ownerId id nowMs else db)
  else if !known && row.fireAtMs.any (· + overdueGraceMs < nowMs) then
    .ok (missed, (moveCommitment db ownerId id (·.commitmentState.isActive)
      .missedOverdue "released").2)
  else if isAttempted && row.attemptCount < 3 then
    .ok (requeued, requeueCommitment db ownerId id nowMs)
  else if isAttempted && !known then
    .ok (missed, (moveCommitment db ownerId id
      (·.commitmentState = .attempted) .missedOverdue "released").2)
  else .ok (requeued, db)

/-- Recover the active commitments of an owner. -/
def recoverCommitmentOpportunities (db : CommitmentDb) (ownerId : String)
    (nowMs overdueGraceMs : Int) :
    Except CommitmentFault (RecoveryCounts × CommitmentDb) :=
  eachOf (recoverOne ownerId nowMs overdueGraceMs) ({}, db)
    (db.commitments.rows.filter fun row =>
      row.ownerId = ownerId && row.commitmentState.isActive)

structure TimingRevision where
  dueAtMs : Option Int := none
  windowStartMs : Option Int := none
  windowEndMs : Option Int := none
  lateBehavior : Option CommitmentLateBehavior := none
  latestUsefulAtMs : Option (Option Int) := none
  nowMs : Int

/-- The time that a revision asks for; a due time and a window exclude each
other. -/
def TimingRevision.temporal (revision : TimingRevision)
    (current : CommitmentTemporal) : Option CommitmentTemporal :=
  match revision.dueAtMs, revision.windowStartMs, revision.windowEndMs with
  | none, none, none => some current
  | some dueAtMs, none, none => some (.exactly dueAtMs)
  | none, some windowStartMs, some windowEndMs =>
    some (.bounded windowStartMs windowEndMs)
  | _, _, _ => none

def CommitmentRow.retimed (proposal : CommitmentProposal)
    (fireAtMs : Option Int) (row : CommitmentRow) : CommitmentRow :=
  { row with
    fireAtMs, evidence := row.evidence.map ({ · with proposal })
    lateBehavior := (proposal.lateBehavior.getD .reconsider).text
    latestUsefulAtMs := proposal.latestUsefulAtMs, commitmentState := .admitted
    leaseToken := none, leaseExpiresAtMs := none }

omit [Host] in
theorem CommitmentRow.retimed_key (proposal : CommitmentProposal)
    (fireAtMs : Option Int) (row : CommitmentRow) :
    key (row.retimed proposal fireAtMs) = key row := rfl

/-- The proposal of a commitment with the timing of a revision, when that is
one that could be admitted, and its fire time. -/
def revisedTiming (reading : CommitmentReading) (ownerId : String)
    (row : CommitmentRow) (revision : TimingRevision) :
    Option (CommitmentProposal × Option Int) := do
  let evidence ← row.evidence
  guard (validateCommitmentProposal reading evidence.proposal = true)
  let current := normalizeCommitmentProposal evidence.proposal
    defaultCommitmentSchedulerIntervalMs
  let temporal ← revision.temporal current.temporal
  let next := normalizeCommitmentProposal { current with
    temporal
    lateBehavior := revision.lateBehavior.or current.lateBehavior
    latestUsefulAtMs :=
      revision.latestUsefulAtMs.getD current.latestUsefulAtMs }
    reading.schedulerIntervalMs
  guard (timingFailure reading next revision.nowMs
    reading.schedulerIntervalMs = none)
  let fireAtMs ← (fireTime next revision.nowMs).toOption
  guard (reading.authorityAllows ownerId next fireAtMs revision.nowMs = none)
  pure (next, fireAtMs)

/-- Amend only the timing of an active commitment. -/
def reviseCommitmentTiming (db : CommitmentDb) (reading : CommitmentReading)
    (ownerId commitmentId : String) (revision : TimingRevision) :
    Except CommitmentFault (Bool × CommitmentDb) :=
  match (findCommitment db ownerId commitmentId).bind
      (revisedTiming reading ownerId · revision) with
  | none => .ok (false, db)
  | some (next, fireAtMs) => do
    require (fireAtMs.all isDate = true) .dateInvalid
    let active := isAt ownerId commitmentId (·.commitmentState.isActive)
    if db.commitments.rows.any active then
      let db := { db with
        commitments := db.commitments.update active
          (CommitmentRow.retimed next fireAtMs)
          (CommitmentRow.retimed_key next fireAtMs) }
      pure (true, markClaimOutcome db commitmentId .released
        (some "timing_revised"))
    else pure (false, db)

def reviseCommitment (db : CommitmentDb) (ownerId commitmentId : String) :
    Bool × CommitmentDb :=
  let (changed, db) := moveCommitment db ownerId commitmentId
    (·.commitmentState.isActive) .revised "released"
  if changed then (true, markClaimOutcome db commitmentId .released
    (some "revised"))
  else (false, db)

end CognitiveSidecar.Commitments
