/-
Superseded speech: the states in which a row of the outbox no longer speaks for
its conversation, and the page on which its replacement is looked for.
-/
import CognitiveSidecar.CycleInbox

namespace CognitiveSidecar

open Relational

def OutboxRow.isSuppressed (row : OutboxRow) : Bool :=
  row.suppressed || row.sendStatus = .suppressed ||
    row.sendStatus = .suppressedShadow

/-- The evidence that a cycle was composed from; blank references are left
out. -/
def composeLogRefs (db : Sidecar) (cycleId : String) : List String :=
  if cycleId = "" then []
  else
    ((db.cycles.get? cycleId).map (·.composeLogIds)).getD [] |>.filter
      (!blank ·)

/-- A later cycle that preempted the generation, or that was itself ended. -/
def Cycle.preempts (speech : OutboxRow) (row : Cycle) : Bool :=
  row.conversationId = speech.conversationId &&
    speech.generation < row.generation &&
    (row.preemptedGeneration.any (speech.generation ≤ ·) ||
      row.disposition = some "owner_preempted" ||
      row.disposition = some "cancelled")

/-- The producing cycle is gone or revoked, or its wake was cancelled. -/
def isRevoked (db : Sidecar) (speech : OutboxRow) : Bool :=
  match db.cycles.get? speech.cycleId with
  | none => true
  | some cycle =>
    cycle.disposition = some "owner_preempted" ||
      cycle.disposition = some "cancelled" ||
      cycle.disposition = some "hard_invalidated" ||
      match (cycle.wakeId.filter (· ≠ "")).bind db.wakes.get? with
      | none => true
      | some wake =>
        wake.state = .terminal && (wake.terminalReason = some .cancelled ||
          wake.terminalReason = some .superseded)

def Cycle.isNewerOwnerTurn (speech : OutboxRow) (row : Cycle) : Bool :=
  row.conversationId = speech.conversationId &&
    speech.generation < row.generation && row.triggerKind = .ownerMessage

/-- An Owner message that waits since after the producing cycle was admitted. -/
def InboxEvent.isNewerOwnerInput (db : Sidecar) (speech : OutboxRow)
    (event : InboxEvent) : Bool :=
  event.conversationId = speech.conversationId &&
    (event.kind = "owner_message" || event.kind = "owner_utterance") &&
    (event.status = .pending || event.status = .claimed) &&
    (db.cycles.get? speech.cycleId).any (·.admittedAtMs < event.createdAtMs)

/-- The newer live speech of the conversation. -/
def newerCandidates (db : Sidecar) (speech : OutboxRow) : List OutboxRow :=
  db.outbox.rows.filter fun row =>
    row.conversationId = speech.conversationId &&
      speech.generation < row.generation && row.origin = .live &&
      !row.isSuppressed

/-- Another cycle answers some of the same evidence. -/
def replaces (db : Sidecar) (speech row : OutboxRow) : Bool :=
  row.cycleId ≠ "" && row.cycleId ≠ speech.cycleId &&
    (composeLogRefs db row.cycleId).any
      (· ∈ composeLogRefs db speech.cycleId)

/-- The candidates that are looked at. -/
def replacementPage (db : Sidecar) (speech : OutboxRow) : List OutboxRow :=
  (newerCandidates db speech).take 25

def speechSupersessionReason (db : Sidecar) (speech : OutboxRow) :
    Option String :=
  let current := getCurrentCycle db speech.conversationId true
  if speech.isSuppressed then some "speech_outbox_suppressed"
  else if current.any fun row =>
      row.cycleId = speech.cycleId && row.generation = speech.generation then
    none
  else if current.any (·.generation < speech.generation) ||
      db.cycles.rows.any (·.preempts speech) || isRevoked db speech ||
      db.cycles.rows.any (·.isNewerOwnerTurn speech) ||
      db.events.rows.any (·.isNewerOwnerInput db speech) then
    some "stale_generation"
  else if (replacementPage db speech).any (replaces db speech) then
    some "stale_generation"
  else none

/-- The documented conditions other than a replacement. -/
inductive Revoked (db : Sidecar) (speech : OutboxRow) : Prop
  | generationMissing {row : Cycle}
    (hcurrent : getCurrentCycle db speech.conversationId true = some row)
    (hless : row.generation < speech.generation)
  | preempted {row : Cycle} (hrow : row ∈ db.cycles.rows)
    (hpreempts : row.preempts speech)
  | producer (hrevoked : isRevoked db speech)
  | ownerTurn {row : Cycle} (hrow : row ∈ db.cycles.rows)
    (hnewer : row.isNewerOwnerTurn speech)
  | ownerInput {event : InboxEvent} (hevent : event ∈ db.events.rows)
    (hnewer : event.isNewerOwnerInput db speech)

/-- Some newer live speech, wherever it stands, replaces the row. -/
def Replaced (db : Sidecar) (speech : OutboxRow) : Prop :=
  ∃ row ∈ newerCandidates db speech, replaces db speech row

/-- The producing cycle is the current one. -/
def IsCurrent (db : Sidecar) (speech : OutboxRow) : Prop :=
  ∃ row, getCurrentCycle db speech.conversationId true = some row ∧
    row.cycleId = speech.cycleId ∧ row.generation = speech.generation

variable {db : Sidecar} {speech : OutboxRow}

theorem revoked_iff :
    Revoked db speech ↔
      ((getCurrentCycle db speech.conversationId true).any
          (·.generation < speech.generation) ||
        db.cycles.rows.any (·.preempts speech) || isRevoked db speech ||
        db.cycles.rows.any (·.isNewerOwnerTurn speech) ||
        db.events.rows.any (·.isNewerOwnerInput db speech)) = true := by
  simp only [Bool.or_eq_true, List.any_eq_true, Option.any_eq_true,
    decide_eq_true_eq, or_assoc]
  constructor
  · rintro (⟨hcurrent, hless⟩ | ⟨hrow, hpreempts⟩ | hrevoked | ⟨hrow, hnewer⟩ |
      ⟨hevent, hnewer⟩)
    · exact .inl ⟨_, hcurrent, hless⟩
    · exact .inr (.inl ⟨_, hrow, hpreempts⟩)
    · exact .inr (.inr (.inl hrevoked))
    · exact .inr (.inr (.inr (.inl ⟨_, hrow, hnewer⟩)))
    · exact .inr (.inr (.inr (.inr ⟨_, hevent, hnewer⟩)))
  · rintro (⟨_, hcurrent, hless⟩ | ⟨_, hrow, hpreempts⟩ | hrevoked |
      ⟨_, hrow, hnewer⟩ | ⟨_, hevent, hnewer⟩)
    · exact .generationMissing hcurrent hless
    · exact .preempted hrow hpreempts
    · exact .producer hrevoked
    · exact .ownerTurn hrow hnewer
    · exact .ownerInput hevent hnewer

/-- A reason is found in the state, or on the page. -/
theorem reason_isSome_iff (hunsuppressed : speech.isSuppressed = false)
    (hnot : ¬ IsCurrent db speech) :
    (speechSupersessionReason db speech).isSome = true ↔
      Revoked db speech ∨
        ∃ row ∈ replacementPage db speech, replaces db speech row := by
  have hother : ¬ (getCurrentCycle db speech.conversationId true).any (fun row =>
      row.cycleId = speech.cycleId && row.generation = speech.generation) := by
    rw [Option.any_eq_true]
    rintro ⟨row, hcurrent, hsame⟩
    exact hnot ⟨row, hcurrent, by simpa using hsame⟩
  unfold speechSupersessionReason
  rw [hunsuppressed, if_neg Bool.false_ne_true, if_neg hother]
  by_cases hrevoked : Revoked db speech
  · rw [if_pos (revoked_iff.mp hrevoked)]
    exact iff_of_true rfl (.inl hrevoked)
  rw [if_neg (mt revoked_iff.mpr hrevoked), or_iff_right hrevoked,
    ← List.any_eq_true]
  split
  · rename_i hpage
    exact iff_of_true rfl hpage
  · rename_i hpage
    exact iff_of_false Bool.false_ne_true hpage

/-- Speech of a cycle that is not the current one has a reason exactly when a
documented condition holds, unless its only replacement stands behind a full
page of newer speech. -/
theorem superseded_recognised_iff (hunsuppressed : speech.isSuppressed = false)
    (hnot : ¬ IsCurrent db speech) :
    ((speechSupersessionReason db speech).isSome = true ↔
      Revoked db speech ∨ Replaced db speech) ↔
    (Revoked db speech ∨ ¬ Replaced db speech ∨
      ∃ row ∈ replacementPage db speech, replaces db speech row) := by
  have hpage : (∃ row ∈ replacementPage db speech, replaces db speech row) →
      Replaced db speech := by
    rintro ⟨row, hrow, hreplaces⟩
    exact ⟨row, List.mem_of_mem_take hrow, hreplaces⟩
  rw [reason_isSome_iff hunsuppressed hnot]
  constructor
  · intro hsame
    by_cases hreplaced : Replaced db speech
    · exact (hsame.mpr (.inr hreplaced)).imp_right .inr
    · exact .inr (.inl hreplaced)
  · rintro (hrevoked | hnone | hfound)
    · exact iff_of_true (.inl hrevoked) (.inl hrevoked)
    · exact or_congr_right (iff_of_false (mt hpage hnone) hnone)
    · exact iff_of_true (.inr hfound) (.inr (hpage hfound))

section Crowded

def speechRow (outboxId : Nat) (cycleId : String) (generation : Int) :
    OutboxRow where
  outboxId := outboxId
  settlementId := ""
  projectionKey := ""
  conversationId := "c"
  cycleId := cycleId
  generation := generation
  licensedText := "a"
  sendStatus := .pending
  nuclearReservationId := none
  discordMessageIds := []
  suppressed := false
  origin := .live
  deliveryIntent :=
    { ownerId := "o", channel := "discord", threadId := "c"
      conversationId := "c", trigger := .ownerMessageReactive
      deliveryLane := .reactive, purpose := .licensedSpeech }
  finalizationReason := none

def speechCycle (cycleId : String) (generation : Int) (refs : List String) :
    Cycle where
  cycleId := cycleId
  conversationId := "c"
  generation := generation
  wakeId := some "w"
  state := .sending
  triggerKind := .idleOpportunity
  triggerRef := ""
  occupantId := none
  authorityEpoch := 0
  admittedAtMs := 0
  updatedAtMs := 0
  composeLogIds := refs
  preemptedGeneration := none
  attemptId := none
  attemptInputBasis := none
  disposition := none

/-- An answer to `m`, `count` newer rows of another subject, and behind them a
newer answer to `m`. -/
def crowdedSpeech (count : Nat) : Sidecar where
  wakes := Table.empty.insertNew
    { wakeId := "w", occurrenceId := "", triggerRef := "", sourceKind := .inbox
      conversationId := "c", cycleId := "old", state := .authorized
      terminalReason := none, capturedTriggerGeneration := none
      capturedAuthorityRevision := 0, consequenceChainId := none
      leaseOwner := none, leaseToken := none, leaseExpiresAtMs := none
      cancellationId := none, createdAtMs := 0, updatedAtMs := 0 }
  cycles := ((Table.empty.insertNew (speechCycle "old" 1 ["m"])).insertNew
    (speechCycle "idle" 2 [])).insertNew (speechCycle "new" 3 ["m"])
  outbox := ((List.range count).foldl
    (fun rows n => rows.insertNew (speechRow (n + 1) "idle" 2))
    (Table.empty.insertNew (speechRow 0 "old" 1))).insertNew
      (speechRow (count + 1) "new" 3)

/-- Behind 25 newer rows the replacement of an answer is not seen. -/
theorem replacement_behind_page_unseen :
    (speechRow 0 "old" 1).isSuppressed = false ∧
    (getCurrentCycle (crowdedSpeech 25) "c" true).map (·.cycleId) = some "new" ∧
    Replaced (crowdedSpeech 25) (speechRow 0 "old" 1) ∧
    speechSupersessionReason (crowdedSpeech 25) (speechRow 0 "old" 1) = none := by
  unfold Replaced
  decide +kernel

/-- Behind 24 it is. -/
theorem crowded_speech_recognised :
    (speechSupersessionReason (crowdedSpeech 24) (speechRow 0 "old" 1)).isSome =
      true ↔ Revoked (crowdedSpeech 24) (speechRow 0 "old" 1) ∨
        Replaced (crowdedSpeech 24) (speechRow 0 "old" 1) := by
  have hnot : ¬ IsCurrent (crowdedSpeech 24) (speechRow 0 "old" 1) := by
    rintro ⟨row, hcurrent, hcycle, _⟩
    have hnew : (getCurrentCycle (crowdedSpeech 24) "c" true).map (·.cycleId) =
        some "new" := by decide +kernel
    rw [show getCurrentCycle (crowdedSpeech 24) "c" true = some row from hcurrent,
      Option.map_some, hcycle] at hnew
    exact absurd hnew (by decide)
  exact (superseded_recognised_iff rfl hnot).mpr (.inr (.inr (by decide +kernel)))

end Crowded

end CognitiveSidecar
