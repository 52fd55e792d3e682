/-
The derived search index: two full-text tables beside the sidecar, and one row
that says whether they can be trusted.
-/
import CognitiveSidecar.Sidecar
import Mathlib.Data.List.Sort

namespace CognitiveSidecar.Retrieval

/-- The digest and the full-text search of the platform. -/
class IndexHost where
  sha256 : String → String
  isMatch : (query text : String) → Bool
  rank : (query text : String) → Int

/-- A row of `sidecar_memory_assertions` or of `conversation_evidence_log`: its
key, its statement or text, and its kind or conversation. -/
structure SourceRow where
  id : String
  text : Option String
  (scope dataClassification fingerprint : String)
  live : Bool := true

inductive SourceTable
  | memory | conversation
deriving DecidableEq

/-- The sidecar tables that are indexed. -/
structure SourceDb where
  rows : SourceTable → List SourceRow
  ids_nodup : ∀ table, ((rows table).map SourceRow.id).Nodup

def SourceDb.get (source : SourceDb) (table : SourceTable) (id : String) :
    Option SourceRow :=
  (source.rows table).find? (·.id = id)

/-- A row of `memory_fts` or `conversation_fts`. -/
structure FtsRow where
  (id text scope : String)
deriving DecidableEq

inductive ScopeState
  | current | invalidated | unavailable | rebuilding | reconciling
deriving DecidableEq

inductive IndexStatus
  | valid | invalid
deriving DecidableEq

/-- The row of `fts_index_state`. -/
structure IndexState where
  (generation sidecarAssertionCount sidecarConversationCount : Nat)
  (memorySourceHash conversationSourceHash : String)
  barrierRevision : Nat
  authorityVectorJson : String
  scopeState : ScopeState
  status : IndexStatus
  updatedAtMs : Int

structure DerivedIndex where
  fts : SourceTable → List FtsRow
  state : Option IndexState

/-- What a call reads of the authority barrier: nothing, a barrier that is not
stable, or a stable one, whether an invalidation is pending, and whether the
barrier still stands when the call commits. -/
inductive AuthorityReading
  | absent
  | unstable
  | stable (revision : Nat) (vectorJson : String) (pending rechecked : Bool)
deriving DecidableEq

/-- A call, and where it fails: reading the sidecar, writing the index, or
marking the index invalid. -/
structure IndexCall where
  authority : AuthorityReading := .absent
  readFails : Bool := false
  writeFails : Bool := false
  markFails : Bool := false
  nowMs : Int := 0

section Filters

/-- The rows that a rebuild writes. -/
def SourceRow.isIndexed (row : SourceRow) : Bool :=
  row.dataClassification ∈ ["ordinary", "sensitive", "never_public"] &&
    row.text.isSome && row.text ≠ some "[redacted]"

/-- The rows that a sync writes. -/
def SourceRow.isSynced (row : SourceRow) : Bool :=
  row.dataClassification ≠ "secret" && row.text.any (· ≠ "") &&
    row.text ≠ some "[redacted]"

def SourceRow.toFts (row : SourceRow) : FtsRow :=
  { id := row.id, text := row.text.getD "", scope := row.scope }

def rebuildRows (rows : List SourceRow) : List FtsRow :=
  (rows.filter SourceRow.isIndexed).map SourceRow.toFts

end Filters

section Calls

variable [IndexHost]

/-- `computeMemorySourceHash` and `computeConversationSourceHash`. -/
def computeSourceHash (rows : List SourceRow) : String × Nat :=
  let indexed := (rows.filter SourceRow.isIndexed).insertionSort
    fun row other => row.id ≤ other.id
  (IndexHost.sha256 (String.intercalate "\n"
    (indexed.map fun row => row.id ++ ":" ++ row.fingerprint)), indexed.length)

def DerivedIndex.markInvalid (index : DerivedIndex) (call : IndexCall) :
    DerivedIndex :=
  if call.markFails then index
  else
    { index with
      state := some (match index.state with
        | some state =>
          { state with
            status := .invalid, scopeState := .unavailable
            updatedAtMs := call.nowMs }
        | none =>
          { generation := 1, sidecarAssertionCount := 0
            sidecarConversationCount := 0, memorySourceHash := ""
            conversationSourceHash := "", barrierRevision := 0
            authorityVectorJson := "\x7b\x7d", scopeState := .unavailable
            status := .invalid, updatedAtMs := call.nowMs }) }

/-- The binding of the state to the authority that the call reads. -/
def IndexState.isBound (state : IndexState) : AuthorityReading → Bool
  | .stable revision vectorJson _ _ =>
    state.barrierRevision = revision && state.authorityVectorJson = vectorJson
  | _ => true

/-- The flag that readiness rests on. -/
def IndexState.isMarked (state : IndexState) : Bool :=
  state.status = .valid && state.scopeState = .current

def DerivedIndex.nextGeneration (index : DerivedIndex) : Nat :=
  (index.state.map IndexState.generation).getD 0 + 1

/-- Write both tables and the state anew; false when it throws. -/
def DerivedIndex.rebuild (index : DerivedIndex) (source : SourceDb)
    (call : IndexCall) : Bool × DerivedIndex :=
  let written (revision : Nat) (vectorJson : String) : DerivedIndex :=
    let memory := computeSourceHash (source.rows .memory)
    let conversation := computeSourceHash (source.rows .conversation)
    { fts := fun table => rebuildRows (source.rows table)
      state := some
        { generation := index.nextGeneration, sidecarAssertionCount := memory.2
          sidecarConversationCount := conversation.2
          memorySourceHash := memory.1, conversationSourceHash := conversation.1
          barrierRevision := revision, authorityVectorJson := vectorJson
          scopeState := .current, status := .valid
          updatedAtMs := call.nowMs } }
  match call.authority with
  | .unstable => (false, index)
  | .stable _ _ true _ => (false, index.markInvalid call)
  | .stable revision vectorJson false rechecked =>
    if call.readFails then (false, index)
    else if call.writeFails || !rechecked then (false, index.markInvalid call)
    else (true, written revision vectorJson)
  | .absent =>
    if call.readFails then (false, index)
    else if call.writeFails then (false, index.markInvalid call)
    else (true, written 0 "\x7b\x7d")

/-- The fingerprints of the state are those of the sidecar. -/
def IndexState.isFingerprint (state : IndexState) (source : SourceDb) : Bool :=
  state.memorySourceHash = (computeSourceHash (source.rows .memory)).1 &&
    state.conversationSourceHash =
      (computeSourceHash (source.rows .conversation)).1 &&
    state.sidecarAssertionCount = (computeSourceHash (source.rows .memory)).2 &&
    state.sidecarConversationCount =
      (computeSourceHash (source.rows .conversation)).2

def DerivedIndex.reconcile (index : DerivedIndex) (source : SourceDb)
    (call : IndexCall) : Bool × DerivedIndex :=
  let compared :=
    if call.readFails then (false, index.markInvalid call)
    else if index.state.any fun state => state.isMarked &&
        state.isFingerprint source && state.isBound call.authority then
      (true, index)
    else
      match index.rebuild source call with
      | (true, rebuilt) => (true, rebuilt)
      | (false, left) => (false, left.markInvalid call)
  match call.authority with
  | .unstable => (false, index.markInvalid call)
  | .stable _ _ true _ => (false, index.markInvalid call)
  | _ => compared

/-- The readiness of the index, reconciled first unless it is marked. -/
def DerivedIndex.isReady (index : DerivedIndex) (source : SourceDb)
    (call : IndexCall) : Bool × DerivedIndex :=
  match call.authority with
  | .unstable => (false, index.markInvalid call)
  | .stable _ _ true _ => (false, index.markInvalid call)
  | authority =>
    if index.state.any fun state =>
        state.isMarked && state.isBound authority then (true, index)
    else index.reconcile source call

/-- Replace the rows of the changed ids of one table. -/
def syncRows (source : SourceDb) (table : SourceTable) (ids : List String)
    (rows : List FtsRow) : List FtsRow :=
  ids.foldl (fun rows id =>
    let others := rows.filter (·.id ≠ id)
    match source.get table id with
    | some row => if row.isSynced then others ++ [row.toFts] else others
    | none => others) rows

/-- A sync throws when a statement fails or its barrier is not stable. -/
def IndexCall.throws (call : IndexCall) : Bool :=
  call.readFails || call.writeFails || call.authority = .unstable

/-- Bring the changed rows up to date and mark the index. -/
def DerivedIndex.syncAfterCommit (index : DerivedIndex) (source : SourceDb)
    (changed : SourceTable → List String) (call : IndexCall) : DerivedIndex :=
  if changed .memory = [] ∧ changed .conversation = [] then index
  else if call.throws then index.markInvalid call
  else
    { fts := fun table => syncRows source table (changed table) (index.fts table)
      state := some
        { generation := index.nextGeneration
          sidecarAssertionCount :=
            (index.state.map IndexState.sidecarAssertionCount).getD 0
          sidecarConversationCount :=
            (index.state.map IndexState.sidecarConversationCount).getD 0
          memorySourceHash :=
            (index.state.map IndexState.memorySourceHash).getD ""
          conversationSourceHash :=
            (index.state.map IndexState.conversationSourceHash).getD ""
          barrierRevision :=
            match call.authority with
            | .stable revision _ _ _ => revision
            | _ => (index.state.map IndexState.barrierRevision).getD 0
          authorityVectorJson :=
            match call.authority with
            | .stable _ vectorJson _ _ => vectorJson
            | _ => (index.state.map IndexState.authorityVectorJson).getD
                "\x7b\x7d"
          scopeState := .current, status := .valid
          updatedAtMs := call.nowMs } }

end Calls

section Search

variable [IndexHost]

/-- A row that a memory search returns. -/
structure RawFtsMemoryRow where
  (assertionKey statement memoryKind : String)
  live : Bool
  dataClassification : String

/-- A search is ready with its rows or unavailable. -/
inductive SearchAnswer
  | ready (rows : List RawFtsMemoryRow)
  | unavailable

/-- What a search reads beside the index: the limit, the keys with a pending
invalidation, and whether the barrier still stands at its end. -/
structure SearchCall extends IndexCall where
  limit : Nat := 100
  invalidated : List String := []
  stillStable : Bool := true

/-- The best matches of the index, as many as the limit allows. -/
def DerivedIndex.bestMatches (index : DerivedIndex) (query : String)
    (limit : Nat) : List FtsRow :=
  (((index.fts .memory).filter (IndexHost.isMatch query ·.text)).insertionSort
    fun row other =>
      IndexHost.rank query row.text ≤ IndexHost.rank query other.text).take
        (max 1 limit)

/-- The stored row of a match, unless the match cannot be trusted. -/
def trustedRow (source : SourceDb) (invalidated : List String) (row : FtsRow) :
    Option RawFtsMemoryRow :=
  if row.id ∈ invalidated then none
  else
    match source.get .memory row.id with
    | some stored =>
      if stored.dataClassification ∈ ["ordinary", "sensitive",
          "never_public"] then
        some
          { assertionKey := row.id, statement := row.text
            memoryKind := row.scope, live := stored.live
            dataClassification := stored.dataClassification }
      else none
    | none => none

def searchMemoryFts (index : DerivedIndex) (source : SourceDb)
    (query : Option String) (call : SearchCall) :
    SearchAnswer × DerivedIndex :=
  match query.filter (!blank ·) with
  | none => (.ready [], index)
  | some query =>
    if call.authority = .unstable then (.unavailable, index)
    else
      match index.isReady source call.toIndexCall with
      | (false, index) => (.unavailable, index)
      | (true, index) =>
        match (index.bestMatches query call.limit).mapM
            (trustedRow source call.invalidated) with
        | none => (.unavailable, index.markInvalid call.toIndexCall)
        | some rows =>
          if call.authority = .absent || call.stillStable then
            (.ready rows, index)
          else (.unavailable, index.markInvalid call.toIndexCall)

end Search

end CognitiveSidecar.Retrieval
