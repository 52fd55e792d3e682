/-
External watches: a subscription is polled under a claim, several polls may be
under way at once, and a poll awaits its fetch while others work on the rows.
-/
import CognitiveSidecar.Lib.Run
import CognitiveSidecar.Sidecar
import Mathlib.Data.List.Sort

namespace CognitiveSidecar.Watching

open Relational

inductive SourceKind
  | url | urlPattern | rss | atom | json
deriving DecidableEq

structure ExternalSource where
  kind : SourceKind
  urlPattern : String
deriving DecidableEq

inductive MatchKind
  | equality | substring
deriving DecidableEq

/-- `mutationShape`. -/
structure WatchSpec where
  conversationId : String
  concernId : Option String := none
  source : String
  scope : String := ""
  topicKeys : List String
  matching : MatchKind
  expiresAtMs : Option Int
  externalSource : Option ExternalSource
  pollIntervalMs : Option Int
  requesterId : Option String := none
deriving DecidableEq

inductive OutcomeKind
  | notDue | completeNoMatch | matched | fetchFailure | timeout | partialCapture
  | unavailable | rejected | expired
deriving DecidableEq

/-- A row of `observation_subscriptions`.  The term counts the renewals, which
the code does not keep. -/
structure Watch where
  subscriptionId : String
  spec : WatchSpec
  cancelled : Bool := false
  lastPolledAtMs : Option Int := none
  lastPollOutcome : Option OutcomeKind := none
  expiryOpportunityEmittedAtMs : Option Int := none
  pollClaimToken : Option String := none
  pollClaimExpiresAtMs : Option Int := none
  pollGeneration : Nat := 0
  ingestedFrontierAtMs : Option Int := none
  term : Nat := 0
deriving DecidableEq

instance : Keyed Watch String := ⟨Watch.subscriptionId⟩

structure PollClaim where
  (subscriptionId claimToken : String)
  generation : Nat
  expiresAtMs : Int
deriving DecidableEq

/-- A poll with the subscriptions that it listed and has not taken up, and the
one whose fetch it awaits. -/
structure Poll where
  remaining : List Watch
  awaiting : Option (PollClaim × Int) := none
deriving DecidableEq

/-- The opportunity item of an expiry, with the term that expired. -/
structure ExpiryItem where
  subscriptionId : String
  term : Nat
  atMs : Int

/-- The rows and the polls under way, with the claims granted and the expiries
reported so far. -/
structure WatchDb where
  watches : Table Watch := Table.empty
  polls : List Poll := []
  drawn : Nat := 0
  granted : List PollClaim := []
  emitted : List ExpiryItem := []

inductive WatchFault
  | idRequired | conversationRequired | topicKeysRequired | expiryInvalid
  | externalSourceInvalid | externalExpiryRequired | pollIntervalInvalid
  | requesterInvalid | externalSourceRequired | renewalAuthorityRequired
  | capacityExceeded

abbrev WatchOutcome (α : Type) := Except WatchFault α

/-! Subscriptions. -/

/-- `urlValid`: the pattern parses as a public web address. -/
structure CreateInput where
  subscriptionId : String
  spec : WatchSpec
  cancelled : Bool := false
  urlValid : Bool := true
  maxPerConversation : Nat := 16
  authority : Bool := false

def minExternalWatchPollIntervalMs : Int := 60000

def maxExternalWatchPollIntervalMs : Int := 14400000

def maxSafeInteger : Int := 9007199254740991

def positiveSafe (value : Int) : Bool :=
  decide (0 < value ∧ value ≤ maxSafeInteger)

def validateExternalSource (source : ExternalSource) (urlValid : Bool) :
    WatchOutcome Unit := do
  let pattern := trim source.urlPattern
  require (pattern ≠ "" ∧ pattern.length ≤ 2048 ∧
    ¬ ('*' ∈ pattern.toList ∧ pattern.toList.getLast? ≠ some '*'))
    .externalSourceInvalid
  require (urlValid = true) .externalSourceInvalid
  pure ()

def validateSubscription (input : CreateInput) : WatchOutcome Unit := do
  let spec := input.spec
  require (trim input.subscriptionId ≠ "") .idRequired
  require (trim spec.conversationId ≠ "") .conversationRequired
  require (spec.topicKeys ≠ [] ∧ ∀ key ∈ spec.topicKeys, trim key ≠ "")
    .topicKeysRequired
  require (spec.expiresAtMs.all positiveSafe = true) .expiryInvalid
  match spec.externalSource with
  | some source => do
    validateExternalSource source input.urlValid
    require (spec.expiresAtMs.any positiveSafe = true) .externalExpiryRequired
    require (spec.pollIntervalMs.any (fun interval =>
        minExternalWatchPollIntervalMs ≤ interval ∧
          interval ≤ maxExternalWatchPollIntervalMs) = true)
      .pollIntervalInvalid
    require (spec.requesterId.all (trim · ≠ "") = true) .requesterInvalid
    pure ()
  | none => require (spec.pollIntervalMs = none) .externalSourceRequired

/-- The rows of a conversation, or all, by their identifiers. -/
def listObservationSubscriptions (db : WatchDb)
    (conversationId : Option String) (includeCancelled : Bool) : List Watch :=
  ((db.watches.rows.filter fun row =>
      conversationId.all (· = row.spec.conversationId) &&
        (includeCancelled || !row.cancelled)).insertionSort
    fun row other => row.subscriptionId ≤ other.subscriptionId).take 1000

/-- What is stored of a spec: the pattern is stored trimmed. -/
def storedSpec (spec : WatchSpec) : WatchSpec :=
  { spec with
    externalSource := spec.externalSource.map fun source =>
      { source with urlPattern := trim source.urlPattern } }

/-- The new row, in a new term when the state of polling is reset. -/
def CreateInput.row (input : CreateInput) (existing : Option Watch)
    (resetPollState : Bool) (term : Nat) : Watch :=
  let kept := if resetPollState then none else existing
  { subscriptionId := input.subscriptionId, spec := storedSpec input.spec
    cancelled := input.cancelled, lastPolledAtMs := kept.bind (·.lastPolledAtMs)
    lastPollOutcome := kept.bind (·.lastPollOutcome)
    expiryOpportunityEmittedAtMs := kept.bind (·.expiryOpportunityEmittedAtMs)
    pollClaimToken := kept.bind (·.pollClaimToken)
    pollClaimExpiresAtMs := kept.bind (·.pollClaimExpiresAtMs)
    pollGeneration := (kept.map (·.pollGeneration)).getD 0
    ingestedFrontierAtMs := kept.bind (·.ingestedFrontierAtMs)
    term := if resetPollState then term + 1 else term }

/-- Create, renew or cancel a subscription. -/
def createObservationSubscription (input : CreateInput) (db : WatchDb) :
    WatchOutcome WatchDb := do
  validateSubscription input
  let existing := (listObservationSubscriptions db none true).find?
    (·.subscriptionId = input.subscriptionId)
  let changed := existing.any (·.spec ≠ input.spec)
  let reactivating := existing.any (·.cancelled) && !input.cancelled
  require (¬ (existing.isSome = true ∧
    ((changed = true ∧ input.cancelled = false) ∨ reactivating = true) ∧
    input.authority = false)) .renewalAuthorityRequired
  let resetPollState := existing.isNone || changed || reactivating
  let targetAlreadyActive := existing.any fun row =>
    !row.cancelled && row.spec.conversationId = input.spec.conversationId
  let count := (db.watches.rows.filter fun row =>
    row.spec.conversationId = input.spec.conversationId && !row.cancelled &&
      row.subscriptionId ≠ input.subscriptionId).length
  require (targetAlreadyActive = true ∨ input.cancelled = true ∨
    count < input.maxPerConversation) .capacityExceeded
  let term := ((db.watches.get? input.subscriptionId).map (·.term)).getD 0
  let row := input.row existing resetPollState term
  pure { db with
    watches := db.watches.upsert row
      fun old => { row with subscriptionId := old.subscriptionId } }

/-- A row by its identifier. -/
def updateWatch (subscriptionId : String) (p : Watch → Bool) (f : Watch → Watch)
    (hkey : ∀ old, (f old).subscriptionId = old.subscriptionId := by
      intro; rfl) (db : WatchDb) : WatchDb :=
  { db with
    watches := db.watches.update
      (fun row => row.subscriptionId = subscriptionId && p row) f hkey }

def cancelObservationSubscription (subscriptionId : String) (db : WatchDb) :
    WatchDb :=
  updateWatch subscriptionId (fun row => !row.cancelled)
    (fun row => { row with cancelled := true }) (by intro; rfl) db

/-! Polls. -/

/-- The row is under the claim. -/
def PollClaim.held (claim : PollClaim) (row : Watch) : Bool :=
  row.subscriptionId = claim.subscriptionId &&
    row.pollGeneration = claim.generation &&
    row.pollClaimToken = some claim.claimToken

/-- The state of a poll without a claim. -/
def recordUnclaimed (subscriptionId : String) (nowMs : Int)
    (outcome : OutcomeKind) (expiryEmittedAtMs : Option Int) (db : WatchDb) :
    WatchDb :=
  updateWatch subscriptionId (fun _ => true)
    (fun row => { row with
      lastPolledAtMs := some nowMs
      lastPollOutcome := some outcome
      expiryOpportunityEmittedAtMs :=
        expiryEmittedAtMs.or row.expiryOpportunityEmittedAtMs })
    (by intro; rfl) db

/-- The state of a poll under its claim; a match keeps the claim. -/
def recordClaimed (claim : PollClaim) (nowMs : Int) (outcome : OutcomeKind)
    (db : WatchDb) : WatchDb :=
  updateWatch claim.subscriptionId (fun row => claim.held row)
    (fun row => { row with
      lastPolledAtMs := some nowMs
      lastPollOutcome := some outcome
      pollClaimToken :=
        if outcome = .matched then row.pollClaimToken else none
      pollClaimExpiresAtMs :=
        if outcome = .matched then row.pollClaimExpiresAtMs else none })
    (by intro; rfl) db

def claimLeaseMs : Int := 120000

/-- A claim is free, or has expired by the clock of the one who takes it. -/
def Watch.claimable (row : Watch) (nowMs : Int) : Bool :=
  !row.cancelled && row.spec.externalSource.isSome &&
    (row.pollClaimToken = none || row.pollClaimExpiresAtMs.all (· ≤ nowMs))

def claimObservationSubscriptionPoll [Host] (subscriptionId : String)
    (nowMs : Int) (db : WatchDb) : Option PollClaim × WatchDb :=
  let claimToken := Host.randomUUID db.drawn
  let expiresAtMs := nowMs + claimLeaseMs
  let drawn := { db with drawn := db.drawn + 1 }
  match (db.watches.get? subscriptionId).filter (·.claimable nowMs) with
  | none => (none, drawn)
  | some row =>
    let claim : PollClaim :=
      { subscriptionId, claimToken, expiresAtMs
        generation := row.pollGeneration + 1 }
    (some claim,
      updateWatch subscriptionId (fun _ => true)
        (fun row => { row with
          pollClaimToken := some claimToken
          pollClaimExpiresAtMs := some expiresAtMs
          pollGeneration := row.pollGeneration + 1 }) (by intro; rfl)
        { drawn with granted := drawn.granted ++ [claim] })

/-- What a poll does with a listed subscription before its fetch: nothing, or it
records a state, or it reports the expiry, or it asks for a claim. -/
inductive Taken
  | nothing | rejected | expired | claim
deriving DecidableEq

def takeUp (subscription : Watch) (nowMs : Int) : Taken :=
  match subscription.spec.externalSource with
  | none => .nothing
  | some source =>
    if subscription.cancelled then .nothing
    else match subscription.spec.expiresAtMs with
      | none => .rejected
      | some expiresAtMs =>
        if expiresAtMs ≤ nowMs then
          if subscription.expiryOpportunityEmittedAtMs.isSome then .nothing
          else .expired
        else match subscription.spec.pollIntervalMs with
          | none => .rejected
          | some interval =>
            if subscription.lastPolledAtMs.any
                (nowMs < · + interval) then .nothing
            else if trim source.urlPattern = "" ∨
                trim source.urlPattern = "*" then .rejected
            else .claim

/-- What the fetch of a poll came to. -/
structure FetchReading where
  raised : Option OutcomeKind := none
  withinSource : Bool := true
  incomplete : Bool := false
  truncated : Bool := false
  contentTypeAllowed : Bool := true
  parsed : Bool := true
  matchingItems : Nat := 0

def FetchReading.outcome (reading : FetchReading) : OutcomeKind :=
  match reading.raised with
  | some kind => kind
  | none =>
    if !reading.withinSource then .rejected
    else if reading.incomplete || reading.truncated then
      if reading.incomplete && !reading.truncated then .timeout
      else .partialCapture
    else if !reading.contentTypeAllowed then .unavailable
    else if !reading.parsed then .unavailable
    else if reading.matchingItems = 0 then .completeNoMatch
    else .matched

def setPoll (position : Nat) (poll : Poll) (db : WatchDb) : WatchDb :=
  { db with polls := db.polls.set position poll }

/-- A poll lists the active subscriptions. -/
def beginPoll (conversationId : Option String) (db : WatchDb) : WatchDb :=
  { db with
    polls := db.polls ++
      [{ remaining := listObservationSubscriptions db conversationId false }] }

/-- A poll takes up its next subscription, up to the awaited fetch. -/
def advancePoll [Host] (position : Nat) (nowMs : Int) (db : WatchDb) : WatchDb :=
  match db.polls[position]? with
  | some { remaining := subscription :: rest, awaiting := none } =>
    let db := setPoll position { remaining := rest } db
    match takeUp subscription nowMs with
    | .nothing => db
    | .rejected =>
      recordUnclaimed subscription.subscriptionId nowMs .rejected none db
    | .expired =>
      let db := recordUnclaimed subscription.subscriptionId nowMs .expired
        (some nowMs) db
      { db with
        emitted := db.emitted ++
          [⟨subscription.subscriptionId, subscription.term, nowMs⟩] }
    | .claim =>
      match claimObservationSubscriptionPoll subscription.subscriptionId
          nowMs db with
      | (none, db) => db
      | (some claim, db) =>
        setPoll position
          { remaining := rest, awaiting := some (claim, nowMs) } db
  | _ => db

/-- The awaited fetch of a poll settles. -/
def settlePoll (position : Nat) (reading : FetchReading) (db : WatchDb) :
    WatchDb :=
  match db.polls[position]? with
  | some { remaining, awaiting := some (claim, nowMs) } =>
    recordClaimed claim nowMs reading.outcome
      (setPoll position { remaining } db)
  | _ => db

/-- `completePollClaim`, when the observations of a match are stored. -/
def completePollClaim (claim : PollClaim) (frontierAtMs : Int) (db : WatchDb) :
    WatchDb :=
  updateWatch claim.subscriptionId (fun row => claim.held row)
    (fun row => { row with
      ingestedFrontierAtMs := some frontierAtMs
      pollClaimToken := none, pollClaimExpiresAtMs := none }) (by intro; rfl) db

inductive WatchOp
  | create (input : CreateInput)
  | cancel (subscriptionId : String)
  | beginPoll (conversationId : Option String)
  | advance (position : Nat) (nowMs : Int)
  | settle (position : Nat) (reading : FetchReading)
  | complete (claim : PollClaim) (frontierAtMs : Int)

def watchStep [Host] (op : WatchOp) (db : WatchDb) : WatchDb :=
  match op with
  | .create input => commit db (createObservationSubscription input db)
  | .cancel subscriptionId => cancelObservationSubscription subscriptionId db
  | .beginPoll conversationId => beginPoll conversationId db
  | .advance position nowMs => advancePoll position nowMs db
  | .settle position reading => settlePoll position reading db
  | .complete claim frontierAtMs => completePollClaim claim frontierAtMs db

end CognitiveSidecar.Watching
