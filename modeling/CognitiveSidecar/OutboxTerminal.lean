/-
The terminal status of a speech row.  The mirrors of a reservation never write
over it; the one recovery of a failed speech and the suppression of undelivered
speech do.
-/
import CognitiveSidecar.DeliveryDispatch

namespace CognitiveSidecar.Delivery

open Relational Table

/-- What one write does to a stored row of an outbox. -/
inductive SourceStep (scope : Scope) : ProjectableRow → ProjectableRow → Prop
  | kept (row) : SourceStep scope row row
  | status (row : ProjectableRow) (status : OutboxSendStatus)
      (options : StatusOptions) (hmay : MayWrite scope row status) :
      SourceStep scope row (row.withStatus status options)
  | suppressed (row : ProjectableRow) (criteria : SuppressCriteria)
      (hselected : criteria.selects row = true)
      (hsuppresses : scope.suppresses = true) :
      SourceStep scope row
        { row with
          sendStatus := .suppressed, suppressed := true
          nuclearFinalizationReason := some criteria.reason }
  | superseded (row : ProjectableRow) (options : StatusOptions)
      (hfailed : row.sendStatus = .sendFailure ∨ row.sendStatus = .projected)
      (hrecovers : scope.recovers = true) :
      SourceStep scope row (row.withStatus .suppressed options)
  | recovered (row : ProjectableRow) (hfailed : row.sendStatus = .sendFailure)
      (honce : row.deliveryIntent.recoveryAttempts = 0)
      (hrecovers : scope.recovers = true) :
      SourceStep scope row
        { row with
          sendStatus := .projected
          deliveryIntent :=
            { row.deliveryIntent with
              recoveryAttempts := row.deliveryIntent.recoveryAttempts + 1 }
          nuclearFinalizationReason := none }
  | addressed (row : ProjectableRow) (owner : String) :
      SourceStep scope row
        { row with
          deliveryIntent := { row.deliveryIntent with ownerId := owner } }

variable {scope : Scope} {row row' stored : ProjectableRow}
variable {projectionKey : OutboxKey} {db after : DeliveryDb}

theorem SourceStep.of_replaced {outbox outbox' : Table ProjectableRow}
    (hreplaced : Replaced outbox outbox' row row')
    (hstep : SourceStep scope row row')
    (hstored : outbox.get? projectionKey = some stored) :
    ∃ stored', outbox'.get? projectionKey = some stored' ∧
      SourceStep scope stored stored' := by
  rcases hreplaced.get? hstored with ⟨_, rfl, hnew⟩ | ⟨_, hsame⟩
  · exact ⟨row', hnew, hstep⟩
  · exact ⟨stored, hsame, .kept stored⟩

theorem Write.source [Host] [DeliveryHost] (hwrite : Write scope db after)
    (hrow : db.outbox.get? projectionKey = some row) :
    ∃ row', after.outbox.get? projectionKey = some row' ∧
      SourceStep scope row row' := by
  cases hwrite with
  | opened | moved | decided | rearmed => exact ⟨row, hrow, .kept row⟩
  | entered _ _ hinsert =>
    exact ⟨row, get?_insert_of_some hinsert hrow, .kept row⟩
  | status old status options _ hreplaced hmay =>
    exact SourceStep.of_replaced hreplaced (.status old status options hmay)
      hrow
  | suppressed criteria hsuppresses =>
    refine ⟨_, by rw [get?_update, hrow]; rfl, ?_⟩
    dsimp only
    split
    · rename_i hselected
      exact .suppressed row criteria hselected hsuppresses
    · exact .kept row
  | superseded old options _ hreplaced hfailed hrecovers =>
    exact SourceStep.of_replaced hreplaced
      (.superseded old options hfailed hrecovers) hrow
  | recovered old _ hreplaced hfailed honce hrecovers =>
    exact SourceStep.of_replaced hreplaced
      (.recovered old hfailed honce hrecovers) hrow
  | addressed old owner _ hreplaced =>
    exact SourceStep.of_replaced hreplaced (.addressed old owner) hrow
  | evidenced _ _ _ _ _ _ _ hok =>
    rw [(markDeliveredEvidence_aside hok).2.1]
    exact ⟨row, hrow, .kept row⟩

/-- A terminal speech row later: as it was; or suppressed, where it had failed
or was partially delivered; or recovered from its failure for the only time. -/
def Ended (recovers suppresses : Bool) (row row' : ProjectableRow) : Prop :=
  (row'.sendStatus = row.sendStatus ∧
    row'.deliveryIntent.recoveryAttempts =
      row.deliveryIntent.recoveryAttempts) ∨
  (row'.sendStatus = .suppressed ∧
    ((row.sendStatus = .sendFailure ∧ (recovers ∨ suppresses)) ∨
      (row.sendStatus = .partiallyDelivered ∧ suppresses))) ∨
  (row.sendStatus = .sendFailure ∧ recovers ∧
    row.deliveryIntent.recoveryAttempts = 0 ∧
    row'.deliveryIntent.recoveryAttempts = 1)

theorem Ended.refl (recovers suppresses : Bool) (row : ProjectableRow) :
    Ended recovers suppresses row row := .inl ⟨rfl, rfl⟩

/-- A recovery is counted once. -/
theorem SourceStep.attempts (hstep : SourceStep scope row row')
    (hspent : row.deliveryIntent.recoveryAttempts = 1) :
    row'.deliveryIntent.recoveryAttempts = 1 := by
  cases hstep with
  | recovered _ honce => rw [hspent] at honce; cases honce
  | kept | status | suppressed | superseded | addressed => exact hspent

/-- One write of an operation that found the speech row terminal. -/
theorem SourceStep.ended (hstep : SourceStep scope row row')
    (hspeech : row.projectionKey.kind = .speech)
    (hfound : ¬ scope.wasOpen row.projectionKey)
    (hterminal : isTerminal row.sendStatus = true) :
    Ended scope.recovers scope.suppresses row row' := by
  cases hstep with
  | kept => exact .refl _ _ row
  | addressed => exact .inl ⟨rfl, rfl⟩
  | status _ _ hmay =>
    rcases hmay with hfree | hopen | hsame | hother
    · exact absurd hfree hfound
    · rw [hterminal] at hopen
      cases hopen
    · exact .inl ⟨hsame.symm, rfl⟩
    · exact absurd hspeech hother
  | suppressed _ hselected hsuppresses =>
    unfold SuppressCriteria.selects at hselected
    simp only [Bool.and_eq_true, decide_eq_true_eq] at hselected
    have hundelivered := hselected.1.1.1.2
    refine .inr (.inl ⟨rfl, ?_⟩)
    cases hstatus : row.sendStatus <;>
      rw [hstatus] at hterminal hundelivered <;>
      first
      | exact .inl ⟨rfl, .inr hsuppresses⟩
      | exact .inr ⟨rfl, hsuppresses⟩
      | exact absurd hundelivered (by decide)
      | cases hterminal
  | superseded _ hfailed hrecovers =>
    rcases hfailed with hfailed | hprojected
    · exact .inr (.inl ⟨rfl, .inl ⟨hfailed, .inl hrecovers⟩⟩)
    · rw [hprojected] at hterminal
      cases hterminal
  | recovered hfailed honce hrecovers =>
    exact .inr (.inr ⟨hfailed, hrecovers, honce, by rw [honce]⟩)

/-- What ends a row twice ends it. -/
theorem Ended.trans {recovers suppresses recovers' suppresses' : Bool}
    {first middle last : ProjectableRow}
    (hterminal : isTerminal first.sendStatus = true)
    (hfirst : Ended recovers suppresses first middle)
    (hlast : isTerminal middle.sendStatus = true →
      Ended recovers' suppresses' middle last)
    (hattempts : middle.deliveryIntent.recoveryAttempts = 1 →
      last.deliveryIntent.recoveryAttempts = 1) :
    Ended (recovers || recovers') (suppresses || suppresses') first last := by
  rcases hfirst with ⟨hstatus, hsame⟩ | ⟨hsuppressed, hwhy⟩ |
    ⟨hfailed, hrecovers, honce, hspent⟩
  · rcases hlast (hstatus ▸ hterminal) with ⟨hstatus', hsame'⟩ |
      ⟨hsuppressed', hwhy'⟩ | ⟨hfailed', hrecovers', honce', hspent'⟩
    · exact .inl ⟨hstatus'.trans hstatus, hsame'.trans hsame⟩
    · rw [hstatus] at hwhy'
      refine .inr (.inl ⟨hsuppressed', ?_⟩)
      rcases hwhy' with ⟨hfailed, hwhy'⟩ | ⟨hincomplete, hwhy'⟩
      · exact .inl ⟨hfailed, hwhy'.imp (by simp_all) (by simp_all)⟩
      · exact .inr ⟨hincomplete, by simp_all⟩
    · exact .inr (.inr ⟨hstatus ▸ hfailed', by simp_all, hsame ▸ honce',
        hspent'⟩)
  · have hlast := hlast (by rw [hsuppressed]; rfl)
    unfold Ended at hlast
    rw [hsuppressed] at hlast
    rcases hlast with ⟨hstatus', _⟩ | ⟨hstatus', _⟩ | ⟨hfailed', _⟩
    · refine .inr (.inl ⟨hstatus', ?_⟩)
      exact hwhy.imp (fun h => ⟨h.1, h.2.imp (by simp_all) (by simp_all)⟩)
        fun h => ⟨h.1, by simp_all⟩
    · refine .inr (.inl ⟨hstatus', ?_⟩)
      exact hwhy.imp (fun h => ⟨h.1, h.2.imp (by simp_all) (by simp_all)⟩)
        fun h => ⟨h.1, by simp_all⟩
    · cases hfailed'
  · exact .inr (.inr ⟨hfailed, by simp [hrecovers], honce, hattempts hspent⟩)

section Runs

variable [Host] [DeliveryHost]

/-- The writes of one operation on a row that it found terminal. -/
theorem writes_ended
    (hwrites : Relation.ReflTransGen (Write scope) db after)
    (hrow : db.outbox.get? projectionKey = some row)
    (hspeech : projectionKey.kind = .speech)
    (hfound : ¬ scope.wasOpen projectionKey)
    (hterminal : isTerminal row.sendStatus = true) :
    ∃ row', after.outbox.get? projectionKey = some row' ∧
      Ended scope.recovers scope.suppresses row row' := by
  induction hwrites with
  | refl => exact ⟨row, hrow, .refl _ _ row⟩
  | tail _ hwrite ih =>
    obtain ⟨middle, hmiddle, hended⟩ := ih
    obtain ⟨last, hlast, hstep⟩ := hwrite.source hmiddle
    have hown : middle.projectionKey = projectionKey :=
      key_of_get? hmiddle
    have hboth := hended.trans hterminal
      (hstep.ended (hown ▸ hspeech) (hown ▸ hfound)) hstep.attempts
    rw [Bool.or_self, Bool.or_self] at hboth
    exact ⟨last, hlast, hboth⟩

/-- A spent recovery stays spent. -/
theorem writes_attempts
    (hwrites : Relation.ReflTransGen (Write scope) db after)
    (hrow : db.outbox.get? projectionKey = some row)
    (hspent : row.deliveryIntent.recoveryAttempts = 1) :
    ∃ row', after.outbox.get? projectionKey = some row' ∧
      row'.deliveryIntent.recoveryAttempts = 1 := by
  induction hwrites with
  | refl => exact ⟨row, hrow, hspent⟩
  | tail _ hwrite ih =>
    obtain ⟨_, hmiddle, hspent⟩ := ih
    obtain ⟨last, hlast, hstep⟩ := hwrite.source hmiddle
    exact ⟨last, hlast, hstep.attempts hspent⟩

theorem run_attempts (hconsistent : Consistent db)
    (hrow : db.outbox.get? projectionKey = some row)
    (hspent : row.deliveryIntent.recoveryAttempts = 1)
    (inputs : List (DeliveryOp × Nat)) :
    ∃ row', (run deliveryStep db inputs).outbox.get? projectionKey = some row' ∧
      row'.deliveryIntent.recoveryAttempts = 1 := by
  have hboth := @run_preserves _ _ deliveryStep
    (fun db => Consistent db ∧
      ∃ row, db.outbox.get? projectionKey = some row ∧
        row.deliveryIntent.recoveryAttempts = 1)
    (fun input db ⟨hconsistent, row, hrow, hspent⟩ =>
      have hreached := deliveryStep_reaches hconsistent input
      ⟨hreached.2, writes_attempts hreached.1 hrow hspent⟩)
    db ⟨hconsistent, row, hrow, hspent⟩ inputs
  exact hboth.2

/-- From a terminal speech row of consistent databases. -/
theorem run_ended (inputs : List (DeliveryOp × Nat)) (hconsistent : Consistent db)
    (hrow : db.outbox.get? projectionKey = some row)
    (hspeech : projectionKey.kind = .speech)
    (hterminal : isTerminal row.sendStatus = true) :
    ∃ row', (run deliveryStep db inputs).outbox.get? projectionKey = some row' ∧
      Ended (inputs.any (·.1.recovers)) (inputs.any (·.1.suppresses))
        row row' := by
  induction inputs generalizing db row with
  | nil => exact ⟨row, hrow, .refl _ _ row⟩
  | cons input rest ih =>
    have hreached := deliveryStep_reaches hconsistent input
    have hfound : ¬ (input.1.scope db).wasOpen projectionKey := by
      intro hopen
      rw [hopen row hrow] at hterminal
      cases hterminal
    obtain ⟨middle, hmiddle, hended⟩ :=
      writes_ended hreached.1 hrow hspeech hfound hterminal
    by_cases hagain : isTerminal middle.sendStatus = true
    · obtain ⟨last, hlast, hrest⟩ := ih hreached.2 hmiddle hagain
      refine ⟨last, hlast, hended.trans hterminal (fun _ => hrest) ?_⟩
      intro hspent
      obtain ⟨_, hfound, hkept⟩ := run_attempts hreached.2 hmiddle hspent rest
      cases hlast.symm.trans hfound
      exact hkept
    · rcases hended with ⟨hstatus, _⟩ | ⟨hsuppressed, _⟩ | hrecovered
      · exact absurd (hstatus ▸ hterminal) hagain
      · exact absurd (hsuppressed ▸ rfl) hagain
      · obtain ⟨last, hlast, hkept⟩ :=
          run_attempts hreached.2 hmiddle hrecovered.2.2.2 rest
        exact ⟨last, hlast, .inr (.inr ⟨hrecovered.1,
          by simp [show input.1.recovers = true from hrecovered.2.1],
          hrecovered.2.2.1, hkept⟩)⟩

/-- In every run: once the status of a speech row is terminal, later operations
leave it, but for two mechanisms.  A recovery of failed speech takes a failed
row that was never recovered out of its status, or suppresses it when it is
superseded; the suppression of undelivered speech suppresses a row that failed
or was partially delivered.  A delivered or suppressed row keeps its status. -/
theorem terminal_status_ends (earlier later : List (DeliveryOp × Nat))
    {outboxId : Nat} {row : ProjectableRow}
    (hrow : (run deliveryStep {} earlier).outbox.get? ⟨.speech, outboxId⟩ =
      some row)
    (hterminal : isTerminal row.sendStatus = true) :
    ∃ row', (run deliveryStep {} (earlier ++ later)).outbox.get?
        ⟨.speech, outboxId⟩ = some row' ∧
      Ended (later.any (·.1.recovers)) (later.any (·.1.suppresses)) row row' := by
  rw [run_append]
  exact run_ended later (run_consistent earlier) hrow rfl hterminal

end Runs

section Plain

attribute [local instance] plainHost plainDelivery

/-- A reply fails before its dispatch, and the next claim sends it again. -/
theorem failed_reply_sends_again :
    ¬ ∀ (earlier later : List (DeliveryOp × Nat)) (outboxId : Nat)
        (row : ProjectableRow),
      (run deliveryStep {} earlier).outbox.get? ⟨.speech, outboxId⟩ = some row →
      isTerminal row.sendStatus = true →
      ((run deliveryStep {} (earlier ++ later)).outbox.get?
        ⟨.speech, outboxId⟩).map (·.sendStatus) = some row.sendStatus := by
  intro habsorbing
  have hkept := habsorbing (reserveReply ++ [claimReply 1, failReply 3])
    [claimReply 4] 1
    { projectionKey := ⟨.speech, 1⟩, settlementId := "s", conversationId := "c"
      text := "a\n\nb", sendStatus := .sendFailure
      nuclearReservationId := some 1
      deliveryIntent := { ownerId := "owner", threadId := "t" }
      nuclearFinalizationReason := some "send_failure" }
    (by decide +kernel) rfl
  revert hkept
  decide +kernel

/-- The recovered reply fails again, and its status stays. -/
theorem recovered_reply_ends :
    ∃ row', (run deliveryStep {} (reserveReply ++
        [claimReply 1, failReply 3, claimReply 4, failReply 5] ++
        [claimReply 6])).outbox.get? ⟨.speech, 1⟩ = some row' ∧
      Ended true false
        { projectionKey := ⟨.speech, 1⟩, settlementId := "s"
          conversationId := "c", text := "a\n\nb", sendStatus := .sendFailure
          nuclearReservationId := some 1
          deliveryIntent :=
            { ownerId := "owner", threadId := "t", recoveryAttempts := 1 }
          nuclearFinalizationReason := some "send_failure" } row' :=
  terminal_status_ends
    (reserveReply ++ [claimReply 1, failReply 3, claimReply 4, failReply 5])
    [claimReply 6] (by decide +kernel) rfl

end Plain

end CognitiveSidecar.Delivery
