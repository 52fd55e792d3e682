/-
Every write of the delivery operations, with what is known where it is made;
and the consistency of the two databases that each write keeps.
-/
import CognitiveSidecar.DeliverySystem
import CognitiveSidecar.Lib.Replaced

namespace CognitiveSidecar.Delivery

open Option Relational Table

/-! The moves of one reservation. -/

/-- A receipt on its bubble, and on the reservation of the bubble. -/
@[reducible]
def DeliveryReservation.withReceipt (row : DeliveryReservation) (ordinal : Nat)
    (discordMessageId : String) (sentAtMs : Int) : DeliveryReservation :=
  { row with
    bubbles := row.bubbles.map fun bubble =>
      if bubble.ordinal = ordinal ∧ bubble.discordMessageId = none then
        { bubble with
          discordMessageId := some discordMessageId
          sentAtMs := some sentAtMs }
      else bubble
    state := if row.state = .reserved then .sending else row.state
    firstSentAtMs :=
      if isTerminalDeliveryState row.state then row.firstSentAtMs
      else row.firstSentAtMs.or (some sentAtMs) }

/-- The reservation is reserved again. -/
@[reducible]
def DeliveryReservation.rearmed (row : DeliveryReservation) :
    DeliveryReservation :=
  { row with
    state := .reserved, errorCategory := none
    finalizationReason := none, finalizedAtMs := none
    deliveryLeaseExpiresAtMs := none }

/-- What an operation may write: the rows that it found open, the reservations
in dispatch that it may decide, and whether it takes receipts, recovers failed
speech or suppresses undelivered speech. -/
structure Scope where
  wasOpen : OutboxKey → Prop
  decides : DeliveryReservation → Prop
  (receives recovers suppresses : Bool)

/-- The writes of one reservation, apart from its decision and its second
reservation. -/
inductive ReservationMove (scope : Scope) :
    DeliveryReservation → DeliveryReservation → Prop
  | claimed (row) (lease : Option Int) (hreserved : row.state = .reserved) :
      ReservationMove scope row
        { row with state := .sending, deliveryLeaseExpiresAtMs := lease }
  | dispatched (row) (nowMs : Int) (hsending : row.state = .sending)
      (hunmarked : row.dispatchStartedAtMs = none) :
      ReservationMove scope row { row with dispatchStartedAtMs := some nowMs }
  | receipted (row : DeliveryReservation) (ordinal : Nat)
      (discordMessageId : String) (sentAtMs : Int) (bubble : DeliveryBubble)
      (hbubble : row.bubbles.find? (·.ordinal = ordinal) = some bubble)
      (hunsent : bubble.discordMessageId = none)
      (hreceives : scope.receives = true) :
      ReservationMove scope row
        (row.withReceipt ordinal discordMessageId sentAtMs)
  | bound (row) (binding : ExternalPublicationIntent)
      (hdrafted : row.state = .drafted) :
      ReservationMove scope row
        { row with
          state := .reserved, destination := some binding.destination
          attemptInputBasis := some binding.attemptInputBasis
          hardDependencyBundle := some binding.hardDependencyBundle
          licenseRefs := binding.licenseRefs }
  | attached (row) (draftText : String) (planned : List String)
      (lease : Option Int) (hdrafted : row.state = .drafted) :
      ReservationMove scope row
        { row with
          draftText := some draftText, state := .reserved
          deliveryLeaseExpiresAtMs := lease
          bubbles := planned.zipIdx.map fun item =>
          { ordinal := item.2, text := item.1 } }
  | aborted (row) (category reason : Option String) (nowMs : Int)
      (hunsent : row.state = .drafted ∨
        row.state = .reserved ∧ row.hasReceipt = false) :
      ReservationMove scope row
        { row with
          state := .aborted, errorCategory := category
          finalizationReason := reason, finalizedAtMs := some nowMs }
  | owned (row) (owner : String) (hreserved : row.state = .reserved) :
      ReservationMove scope row { row with ownerId := owner }
  | noted (row) (reason : Option String) (haborted : row.state = .aborted) :
      ReservationMove scope row { row with finalizationReason := reason }

/-- Nothing of the reservation is on record as sent. -/
structure Unsent (row : DeliveryReservation) : Prop where
  marker : row.dispatchStartedAtMs = none
  first : row.firstSentAtMs = none
  receipts : row.hasReceipt = false

/-- A status that a reservation that is not decided never has. -/
def isSettled (status : OutboxSendStatus) : Bool :=
  status = .delivered || status = .partiallyDelivered || status = .sendFailure

/-- A bubble as it is planned. -/
def DeliveryBubble.isPlanned (bubble : DeliveryBubble) : Bool :=
  bubble.discordMessageId.isNone && bubble.sentAtMs.isNone

/-- A new reservation: nothing of it is sent, and the row it is made for has
no other one. -/
structure Opens (db : DeliveryDb) (row : DeliveryReservation) : Prop where
  marker : row.dispatchStartedAtMs = none
  planned : row.bubbles.all DeliveryBubble.isPlanned = true
  state : row.state = .drafted ∨ row.state = .reserved
  lane : row.projectionKey.any (·.kind = .speech) = true →
    row.deliveryLane ≠ .socialNotify
  speech : ∀ outboxId, row.speechOutboxId = some outboxId →
    row.projectionKey = some ⟨.speech, outboxId⟩
  source : ∀ projectionKey, row.projectionKey = some projectionKey →
    projectionReservation db projectionKey = none ∧
    ∃ source, db.outbox.get? projectionKey = some source ∧
      isTerminal source.sendStatus = false

/-- What the decision of a reservation archives. -/
def DeliveryReservation.archived (row : DeliveryReservation) (ownerId : String) :
    List ArchivedMessage :=
  if row.deliveredText ≠ "" ∧ row.threadId ≠ "" then
    [{ reservationId := row.id, threadId := row.threadId, ownerId
       text := row.deliveredText }]
  else []

/-- A status may be written over the status of a row: the row was open, or is
open, or keeps its status. -/
def MayWrite (scope : Scope) (row : ProjectableRow)
    (status : OutboxSendStatus) : Prop :=
  scope.wasOpen row.projectionKey ∨ isTerminal row.sendStatus = false ∨
    row.sendStatus = status ∨ row.projectionKey.kind ≠ .speech

/-- One committed write of an operation. -/
inductive Write [Host] [DeliveryHost] (scope : Scope)
    (db : DeliveryDb) : DeliveryDb → Prop
  | opened (row : DeliveryReservation) (reservations)
      (hinsert : db.reservations.insert? row = some reservations)
      (hopens : Opens db row) : Write scope db { db with reservations }
  | moved (row row' : DeliveryReservation) (reservations)
      (hreplaced : Replaced db.reservations reservations row row')
      (hmove : ReservationMove scope row row') : Write scope db { db with reservations }
  | decided (row : DeliveryReservation) (input : FinalizeDeliveryInput)
      (reservations)
      (hreplaced : Replaced db.reservations reservations row
        (row.finalized input))
      (hopen : isTerminalDeliveryState row.state = false)
      (hdecides : row.state ≠ .sending ∨ row.hasReceipt = false ∨
        scope.decides row) :
      Write scope db
        { db with
          reservations
          messages := db.messages ++ row.archived input.ownerId }
  | rearmed (row : DeliveryReservation) (speech : ProjectableRow) (reservations)
      (hreplaced : Replaced db.reservations reservations row row.rearmed)
      (haborted : row.state = .aborted) (hunsent : Unsent row)
      (hspeech : (speechIdOf row).bind (getSpeechOutbox db) = some speech)
      (hprojected : speech.sendStatus = .projected) :
      Write scope db { db with reservations }
  | entered (row : ProjectableRow) (outbox)
      (hinsert : db.outbox.insert? row = some outbox)
      (hlane : row.projectionKey.kind = .speech →
        row.deliveryIntent.deliveryLane ≠ .socialNotify)
      (hstatus : row.sendStatus = .pending ∨ row.sendStatus = .suppressedShadow) :
      Write scope db { db with outbox }
  | status (row : ProjectableRow) (status : OutboxSendStatus)
      (options : StatusOptions) (outbox)
      (hreplaced : Replaced db.outbox outbox row (row.withStatus status options))
      (hmay : MayWrite scope row status)
      (hshadow : status ≠ .suppressedShadow)
      (hsettled : isSettled status = true → ∃ reservation,
        projectionReservation db row.projectionKey = some reservation ∧
          isTerminalDeliveryState reservation.state = true) :
      Write scope db { db with outbox }
  | suppressed (criteria : SuppressCriteria)
      (hsuppresses : scope.suppresses = true) :
      Write scope db
        { db with
          outbox := db.outbox.update criteria.selects fun row =>
          { row with
            sendStatus := .suppressed, suppressed := true
            nuclearFinalizationReason := some criteria.reason } }
  | superseded (row : ProjectableRow) (options : StatusOptions) (outbox)
      (hreplaced : Replaced db.outbox outbox row
        (row.withStatus .suppressed options))
      (hfailed : row.sendStatus = .sendFailure ∨ row.sendStatus = .projected)
      (hrecovers : scope.recovers = true) : Write scope db { db with outbox }
  | recovered (row : ProjectableRow) (outbox)
      (hreplaced : Replaced db.outbox outbox row
        { row with
          sendStatus := .projected
          deliveryIntent :=
            { row.deliveryIntent with
              recoveryAttempts := row.deliveryIntent.recoveryAttempts + 1 }
          nuclearFinalizationReason := none })
      (hfailed : row.sendStatus = .sendFailure)
      (honce : row.deliveryIntent.recoveryAttempts = 0)
      (hrecovers : scope.recovers = true) : Write scope db { db with outbox }
  | addressed (row : ProjectableRow) (owner : String) (outbox)
      (hreplaced : Replaced db.outbox outbox row
        { row with
          deliveryIntent := { row.deliveryIntent with ownerId := owner } }) :
      Write scope db { db with outbox }
  | evidenced (reservationId : Nat) (row : ProjectableRow)
      (reservation : DeliveryReservation) (nowMs : Int) (after)
      (hreservation :
        getDeliveryReservation db reservationId = some reservation)
      (hkey : reservation.projectionKey = some row.projectionKey)
      (hok : markDeliveredEvidence reservationId row
        (assessFor row.projectionKey.kind reservation.bubbles) nowMs db =
          .ok ((), after)) :
      Write scope db after

/-! Consistency. -/

/-- A projection key has one reservation and a row; the row of a reservation
that is not decided is not settled; speech keeps off the social lane. -/
structure Consistent (db : DeliveryDb) : Prop where
  sole : ∀ id id' row row' projectionKey,
    db.reservations.get? id = some row → db.reservations.get? id' = some row' →
    row.projectionKey = some projectionKey →
    row'.projectionKey = some projectionKey → id = id'
  speech : ∀ id row outboxId, db.reservations.get? id = some row →
    row.speechOutboxId = some outboxId →
    row.projectionKey = some ⟨.speech, outboxId⟩
  backed : ∀ id row projectionKey, db.reservations.get? id = some row →
    row.projectionKey = some projectionKey →
    ∃ source, db.outbox.get? projectionKey = some source ∧
      source.sendStatus ≠ .suppressedShadow
  unsettled : ∀ id row projectionKey source,
    db.reservations.get? id = some row →
    row.projectionKey = some projectionKey →
    isTerminalDeliveryState row.state = false →
    db.outbox.get? projectionKey = some source →
    isSettled source.sendStatus = false
  sourceLane : ∀ projectionKey source,
    db.outbox.get? projectionKey = some source →
    projectionKey.kind = .speech →
    source.deliveryIntent.deliveryLane ≠ .socialNotify
  lane : ∀ id row, db.reservations.get? id = some row →
    row.projectionKey.any (·.kind = .speech) = true →
    row.deliveryLane ≠ .socialNotify

theorem Consistent.initial : Consistent {} where
  sole := fun _ _ _ _ _ hrow => by cases hrow
  speech := fun _ _ _ hrow => by cases hrow
  backed := fun _ _ _ hrow => by cases hrow
  unsettled := fun _ _ _ _ hrow => by cases hrow
  sourceLane := fun _ _ hsource => by cases hsource
  lane := fun _ _ hrow => by cases hrow

variable {db after : DeliveryDb}
variable {projectionKey : OutboxKey} {id : Nat}

/-- The reservation of a key is stored under it. -/
theorem projectionReservation_stored {reservation : DeliveryReservation}
    (hfound : projectionReservation db projectionKey = some reservation) :
    db.reservations.get? reservation.id = some reservation ∧
      reservation.projectionKey = some projectionKey := by
  exact ⟨get?_key (List.mem_of_find?_eq_some hfound),
    by simpa using List.find?_some hfound⟩

theorem Consistent.projectionReservation_eq (hconsistent : Consistent db)
    {row reservation : DeliveryReservation}
    (hrow : db.reservations.get? id = some row)
    (hkey : row.projectionKey = some projectionKey)
    (hfound : projectionReservation db projectionKey = some reservation) :
    row = reservation := by
  obtain ⟨hstored, hown⟩ := projectionReservation_stored hfound
  cases hconsistent.sole _ _ _ _ _ hrow hstored hkey hown
  exact some.inj (hrow.symm.trans hstored)

/-- A reservation is rewritten: it stays decided, and stays with its row. -/
theorem Consistent.replaced (hconsistent : Consistent db)
    {row row' : DeliveryReservation} {reservations : Table DeliveryReservation}
    (hreplaced : Replaced db.reservations reservations row row')
    (hkey : row'.projectionKey = row.projectionKey)
    (hspeech : row'.speechOutboxId = row.speechOutboxId)
    (hlane : row'.deliveryLane = row.deliveryLane)
    (hopen : isTerminalDeliveryState row'.state = false →
      ∀ projectionKey source, row.projectionKey = some projectionKey →
        db.outbox.get? projectionKey = some source →
        isSettled source.sendStatus = false)
    (hafter : after.reservations = reservations)
    (houtbox : after.outbox = db.outbox) : Consistent after := by
  have hold : ∀ {id other}, after.reservations.get? id = some other →
      ∃ old, db.reservations.get? id = some old ∧
        other.projectionKey = old.projectionKey ∧
        other.speechOutboxId = old.speechOutboxId ∧
        other.deliveryLane = old.deliveryLane := by
    intro _ other hother
    rw [hafter] at hother
    rcases hreplaced.of_get? hother with ⟨rfl, rfl⟩ | ⟨_, hsame⟩
    · exact ⟨row, hreplaced.stored, hkey, hspeech, hlane⟩
    · exact ⟨other, hsame, rfl, rfl, rfl⟩
  refine ⟨?_, ?_, ?_, ?_, ?_, ?_⟩
  · intro _ _ _ _ _ hfirst hsecond hown hown'
    obtain ⟨_, hstored, hsame, _⟩ := hold hfirst
    obtain ⟨_, hstored', hsame', _⟩ := hold hsecond
    exact hconsistent.sole _ _ _ _ _ hstored hstored' (hsame.symm.trans hown)
      (hsame'.symm.trans hown')
  · intro _ _ _ hother hid
    obtain ⟨_, hstored, hsame, hspeech, _⟩ := hold hother
    exact hsame.trans
      (hconsistent.speech _ _ _ hstored (hspeech.symm.trans hid))
  · intro _ _ _ hother hown
    obtain ⟨_, hstored, hsame, _⟩ := hold hother
    rw [houtbox]
    exact hconsistent.backed _ _ _ hstored (hsame.symm.trans hown)
  · intro _ _ projectionKey source hother hown hundecided hsource
    rw [houtbox] at hsource
    rw [hafter] at hother
    rcases hreplaced.of_get? hother with ⟨rfl, rfl⟩ | ⟨_, hsame⟩
    · exact hopen hundecided projectionKey source (hkey.symm.trans hown) hsource
    · exact hconsistent.unsettled _ _ _ _ hsame hown hundecided hsource
  · rw [houtbox]
    exact hconsistent.sourceLane
  · intro _ _ hother hspeech
    obtain ⟨_, hstored, hsame, _, hlane⟩ := hold hother
    rw [hlane]
    exact hconsistent.lane _ _ hstored (hsame ▸ hspeech)

/-- A row is rewritten: it does not become a shadow, nor settled while its
reservation is not decided. -/
theorem Consistent.replacedRow (hconsistent : Consistent db)
    {row row' : ProjectableRow} {outbox : Table ProjectableRow}
    (hreplaced : Replaced db.outbox outbox row row')
    (hlane : row'.deliveryIntent.deliveryLane = row.deliveryIntent.deliveryLane)
    (hshadow : row.sendStatus ≠ .suppressedShadow →
      row'.sendStatus ≠ .suppressedShadow)
    (hsettled : ∀ id reservation, db.reservations.get? id = some reservation →
      reservation.projectionKey = some row.projectionKey →
      isTerminalDeliveryState reservation.state = false →
      isSettled row.sendStatus = false → isSettled row'.sendStatus = false) :
    Consistent { db with outbox } := by
  refine ⟨hconsistent.sole, hconsistent.speech, ?_, ?_, ?_, hconsistent.lane⟩
  · intro _ _ _ hstored hown
    obtain ⟨source, hsource, hvisible⟩ :=
      hconsistent.backed _ _ _ hstored hown
    rcases hreplaced.get? hsource with ⟨_, rfl, hnew⟩ | ⟨_, hsame⟩
    · exact ⟨row', hnew, hshadow hvisible⟩
    · exact ⟨source, hsame, hvisible⟩
  · intro _ _ _ _ hstored hown hundecided hsource
    rcases hreplaced.of_get? hsource with ⟨rfl, rfl⟩ | ⟨_, hsame⟩
    · exact hsettled _ _ hstored hown hundecided
        (hconsistent.unsettled _ _ _ _ hstored hown hundecided hreplaced.stored)
    · exact hconsistent.unsettled _ _ _ _ hstored hown hundecided hsame
  · intro _ _ hsource hspeech
    rcases hreplaced.of_get? hsource with ⟨rfl, rfl⟩ | ⟨_, hsame⟩
    · rw [hlane]
      exact hconsistent.sourceLane _ _ hreplaced.stored hspeech
    · exact hconsistent.sourceLane _ _ hsame hspeech

/-- A decided reservation is never undecided by a move. -/
theorem ReservationMove.undecided {scope : Scope} {row row' : DeliveryReservation}
    (hmove : ReservationMove scope row row')
    (hundecided : isTerminalDeliveryState row'.state = false) :
    isTerminalDeliveryState row.state = false := by
  cases hmove with
  | claimed _ hreserved => rw [hreserved]; rfl
  | dispatched | owned | noted => exact hundecided
  | receipted =>
    by_cases hreserved : row.state = .reserved
    · rw [hreserved]
      rfl
    · simpa only [hreserved, if_false] using hundecided
  | bound _ hdrafted | attached _ _ _ hdrafted => rw [hdrafted]; rfl
  | aborted => cases hundecided

theorem ReservationMove.sameSource {scope : Scope}
    {row row' : DeliveryReservation}
    (hmove : ReservationMove scope row row') :
    row'.projectionKey = row.projectionKey ∧
      row'.speechOutboxId = row.speechOutboxId ∧
      row'.deliveryLane = row.deliveryLane := by
  cases hmove <;> exact ⟨rfl, rfl, rfl⟩

/-- The speech of a reservation is the row of its projection key. -/
theorem Consistent.speechIdOf_eq (hconsistent : Consistent db)
    {row : DeliveryReservation} {outboxId : Nat}
    (hrow : db.reservations.get? id = some row)
    (hspeech : speechIdOf row = some outboxId)
    (hkey : row.projectionKey = some projectionKey) :
    projectionKey = ⟨.speech, outboxId⟩ := by
  rcases or_eq_some_iff.mp hspeech with hcolumn | ⟨_, hown⟩
  · have hcolumn := (filter_eq_some_iff.mp hcolumn).1
    have hlinked := hconsistent.speech _ _ _ hrow hcolumn
    exact some.inj (hkey.symm.trans hlinked)
  · obtain ⟨_, hfound, rfl⟩ := map_eq_some_iff.mp hown
    obtain ⟨hfound, hkind⟩ := filter_eq_some_iff.mp hfound
    cases hkey.symm.trans hfound
    simp only [Bool.and_eq_true, decide_eq_true_eq] at hkind
    obtain ⟨_, n⟩ := projectionKey
    cases hkind.1
    rfl

theorem markDeliveredEvidence_aside [Host] [DeliveryHost] {reservationId : Nat}
    {row : ProjectableRow} {assessment : ReceiptAssessment} {nowMs : Int}
    (hok : markDeliveredEvidence reservationId row assessment nowMs db =
      .ok ((), after)) :
    after.reservations = db.reservations ∧ after.outbox = db.outbox ∧
      after.messages = db.messages := by
  unfold markDeliveredEvidence at hok
  dsimp only at hok
  split at hok
  · cases hok
    exact ⟨rfl, rfl, rfl⟩
  split at hok
  · cases hok
    exact ⟨rfl, rfl, rfl⟩
  split at hok
  · cases hok
  · cases hok
    exact ⟨rfl, rfl, rfl⟩

/-- Every write keeps the databases consistent. -/
theorem Write.consistent [Host] [DeliveryHost] {scope : Scope}
    (hconsistent : Consistent db) (hwrite : Write scope db after) :
    Consistent after := by
  cases hwrite with
  | opened row reservations hinsert hopens =>
    have hget := get?_insert hinsert
    have hnew : ∀ {id other projectionKey},
        reservations.get? id = some other →
        other.projectionKey = some projectionKey →
        (id = key row ∧ other = row) ∨
          (id ≠ key row ∧ db.reservations.get? id = some other) := by
      intro id other projectionKey hother _
      rw [hget] at hother
      by_cases hid : id = key row
      · rw [if_pos hid] at hother
        exact .inl ⟨hid, (some.inj hother).symm⟩
      · rw [if_neg hid] at hother
        exact .inr ⟨hid, hother⟩
    have hunreserved : ∀ {id other projectionKey},
        row.projectionKey = some projectionKey →
        db.reservations.get? id = some other →
        other.projectionKey ≠ some projectionKey := by
      intro id other projectionKey hown hother hsame
      have hnone := (hopens.source _ hown).1
      have hfalse := List.find?_eq_none.mp hnone other
        (mem_of_get? hother)
      exact hfalse (decide_eq_true hsame)
    refine ⟨?_, ?_, ?_, ?_, hconsistent.sourceLane, ?_⟩
    · intro id id' first second projectionKey hfirst hsecond hown hown'
      rcases hnew hfirst hown with ⟨hid, hrow⟩ | ⟨_, hold⟩ <;>
        rcases hnew hsecond hown' with ⟨hid', hrow'⟩ | ⟨_, hold'⟩
      · exact hid.trans hid'.symm
      · exact absurd hown' (hunreserved (hrow ▸ hown) hold')
      · exact absurd hown (hunreserved (hrow' ▸ hown') hold)
      · exact hconsistent.sole _ _ _ _ _ hold hold' hown hown'
    · intro id other outboxId hother hspeech
      rw [hget] at hother
      split at hother
      · cases hother
        exact hopens.speech outboxId hspeech
      · exact hconsistent.speech _ _ _ hother hspeech
    · intro id other projectionKey hother hown
      rcases hnew hother hown with ⟨_, rfl⟩ | ⟨_, hold⟩
      · obtain ⟨_, source, hsource, hopen⟩ := hopens.source _ hown
        refine ⟨source, hsource, ?_⟩
        intro hshadow
        rw [hshadow] at hopen
        cases hopen
      · exact hconsistent.backed _ _ _ hold hown
    · intro id other projectionKey source hother hown hundecided hsource
      rcases hnew hother hown with ⟨_, rfl⟩ | ⟨_, hold⟩
      · obtain ⟨_, source', hsource', hopen⟩ := hopens.source _ hown
        cases hsource.symm.trans hsource'
        cases hstatus : source.sendStatus <;> rw [hstatus] at hopen <;>
          first | rfl | cases hopen
      · exact hconsistent.unsettled _ _ _ _ hold hown hundecided hsource
    · intro id other hother hspeech
      rw [hget] at hother
      split at hother
      · cases hother
        exact hopens.lane hspeech
      · exact hconsistent.lane _ _ hother hspeech
  | moved row row' reservations hreplaced hmove =>
    obtain ⟨hkey, hspeech, hlane⟩ := hmove.sameSource
    refine hconsistent.replaced hreplaced hkey hspeech hlane ?_ rfl rfl
    intro hundecided projectionKey source hown hsource
    exact hconsistent.unsettled _ _ _ _ hreplaced.stored hown
      (hmove.undecided hundecided) hsource
  | decided row input reservations hreplaced hopen hdecides =>
    refine hconsistent.replaced hreplaced rfl rfl rfl ?_ rfl rfl
    intro _ projectionKey source hown hsource
    exact hconsistent.unsettled _ _ _ _ hreplaced.stored hown hopen hsource
  | rearmed row speech reservations hreplaced haborted hunsent hspeech
      hprojected =>
    refine hconsistent.replaced hreplaced rfl rfl rfl ?_ rfl rfl
    intro _ projectionKey source hown hsource
    obtain ⟨outboxId, hid, hfound⟩ := bind_eq_some_iff.mp hspeech
    cases hconsistent.speechIdOf_eq hreplaced.stored hid hown
    cases hsource.symm.trans hfound
    rw [hprojected]
    rfl
  | entered row outbox hinsert hlane hstatus =>
    have hget := get?_insert hinsert
    have hbacked : ∀ {id reservation projectionKey},
        db.reservations.get? id = some reservation →
        reservation.projectionKey = some projectionKey →
        outbox.get? projectionKey = db.outbox.get? projectionKey := by
      intro id reservation projectionKey hstored hown
      obtain ⟨source, hsource, _⟩ := hconsistent.backed _ _ _ hstored hown
      rw [hsource]
      exact get?_insert_of_some hinsert hsource
    refine ⟨hconsistent.sole, hconsistent.speech, ?_, ?_, ?_,
      hconsistent.lane⟩
    · intro id reservation projectionKey hstored hown
      rw [hbacked hstored hown]
      exact hconsistent.backed _ _ _ hstored hown
    · intro id reservation projectionKey source hstored hown hundecided hsource
      rw [hbacked hstored hown] at hsource
      exact hconsistent.unsettled _ _ _ _ hstored hown hundecided hsource
    · intro projectionKey source hsource hspeech
      rw [hget] at hsource
      split at hsource
      · rename_i hown
        cases hsource
        rw [hown] at hspeech
        exact hlane hspeech
      · exact hconsistent.sourceLane _ _ hsource hspeech
  | status row status options outbox hreplaced hmay hshadow hsettled =>
    refine hconsistent.replacedRow hreplaced rfl (fun _ => hshadow) ?_
    intro id reservation hstored hown hundecided _
    cases hbad : isSettled status with
    | false => rfl
    | true =>
      obtain ⟨found, hfound, hterminal⟩ := hsettled hbad
      cases hconsistent.projectionReservation_eq hstored hown hfound
      rw [hundecided] at hterminal
      cases hterminal
  | suppressed criteria hsuppresses =>
    refine ⟨hconsistent.sole, hconsistent.speech, ?_, ?_, ?_,
      hconsistent.lane⟩
    · intro id reservation projectionKey hstored hown
      obtain ⟨source, hsource, hvisible⟩ :=
        hconsistent.backed _ _ _ hstored hown
      refine ⟨_, by rw [get?_update, hsource]; rfl, ?_⟩
      dsimp only
      split
      · intro hshadow
        cases hshadow
      · exact hvisible
    · intro id reservation projectionKey source hstored hown hundecided hsource
      rw [get?_update] at hsource
      obtain ⟨old, hold, rfl⟩ := map_eq_some_iff.mp hsource
      split
      · rfl
      · exact hconsistent.unsettled _ _ _ _ hstored hown hundecided hold
    · intro projectionKey source hsource hspeech
      rw [get?_update] at hsource
      obtain ⟨old, hold, rfl⟩ := map_eq_some_iff.mp hsource
      have hlane := hconsistent.sourceLane _ _ hold hspeech
      split <;> exact hlane
  | superseded row options outbox hreplaced hfailed hrecovers
  | recovered row outbox hreplaced hfailed honce hrecovers =>
    refine hconsistent.replacedRow hreplaced rfl (fun _ hshadow => ?_)
      fun _ _ _ _ _ _ => rfl
    cases hshadow
  | addressed row owner outbox hreplaced =>
    exact hconsistent.replacedRow hreplaced rfl (fun hshadow => hshadow)
      fun _ _ _ _ _ hold => hold
  | evidenced reservationId row reservation nowMs after hreservation hkey hok =>
    obtain ⟨hreservations, houtbox, _⟩ := markDeliveredEvidence_aside hok
    refine ⟨?_, ?_, ?_, ?_, ?_, ?_⟩
    · rw [hreservations]
      exact hconsistent.sole
    · rw [hreservations]
      exact hconsistent.speech
    · rw [hreservations, houtbox]
      exact hconsistent.backed
    · rw [hreservations, houtbox]
      exact hconsistent.unsettled
    · rw [houtbox]
      exact hconsistent.sourceLane
    · rw [hreservations]
      exact hconsistent.lane

/-! One reservation through the writes. -/

/-- What one write does to a stored reservation. -/
inductive RowStep (scope : Scope) :
    DeliveryReservation → DeliveryReservation → Prop
  | kept (row) : RowStep scope row row
  | moved (row row') (hmove : ReservationMove scope row row') : RowStep scope row row'
  | decided (row : DeliveryReservation) (input : FinalizeDeliveryInput)
      (hopen : isTerminalDeliveryState row.state = false) :
      RowStep scope row (row.finalized input)
  | rearmed (row : DeliveryReservation) (haborted : row.state = .aborted)
      (hunsent : Unsent row) : RowStep scope row row.rearmed

/-- A rewritten reservation steps, and every other one is kept. -/
theorem RowStep.of_replaced {scope : Scope}
    {row row' stored : DeliveryReservation}
    {reservations reservations' : Table DeliveryReservation}
    (hreplaced : Replaced reservations reservations' row row')
    (hstep : RowStep scope row row')
    (hstored : reservations.get? id = some stored) :
    ∃ stored', reservations'.get? id = some stored' ∧
      RowStep scope stored stored' := by
  rcases hreplaced.get? hstored with ⟨_, rfl, hnew⟩ | ⟨_, hsame⟩
  · exact ⟨row', hnew, hstep⟩
  · exact ⟨stored, hsame, .kept stored⟩

theorem Write.row [Host] [DeliveryHost] {scope : Scope}
    (hwrite : Write scope db after) {row : DeliveryReservation}
    (hrow : db.reservations.get? id = some row) :
    ∃ row', after.reservations.get? id = some row' ∧ RowStep scope row row' := by
  cases hwrite with
  | opened _ _ hinsert =>
    exact ⟨row, get?_insert_of_some hinsert hrow, .kept row⟩
  | moved old new _ hreplaced hmove =>
    exact RowStep.of_replaced hreplaced (.moved old new hmove) hrow
  | decided old input _ hreplaced hopen _ =>
    exact RowStep.of_replaced hreplaced (.decided old input hopen) hrow
  | rearmed old _ _ hreplaced haborted hunsent =>
    exact RowStep.of_replaced hreplaced (.rearmed old haborted hunsent) hrow
  | evidenced _ _ _ _ _ _ _ hok =>
    rw [(markDeliveredEvidence_aside hok).1]
    exact ⟨row, hrow, .kept row⟩
  | entered | status | suppressed | superseded | recovered | addressed =>
    exact ⟨row, hrow, .kept row⟩

/-- A reservation stays with its row and on its lane. -/
theorem RowStep.sameSource {scope : Scope} {row row' : DeliveryReservation}
    (hstep : RowStep scope row row') :
    row'.projectionKey = row.projectionKey ∧
      row'.speechOutboxId = row.speechOutboxId ∧
      row'.deliveryLane = row.deliveryLane := by
  cases hstep with
  | moved _ hmove => exact hmove.sameSource
  | kept | decided | rearmed => exact ⟨rfl, rfl, rfl⟩

/-- A reservation stays with its row through every sequence of writes. -/
theorem writes_projectionKey [Host] [DeliveryHost] {scope : Scope}
    (hwrites : Relation.ReflTransGen (Write scope) db after)
    {row : DeliveryReservation} (hrow : db.reservations.get? id = some row) :
    ∃ row', after.reservations.get? id = some row' ∧
      row'.projectionKey = row.projectionKey := by
  induction hwrites with
  | refl => exact ⟨row, hrow, rfl⟩
  | tail _ hwrite ih =>
    obtain ⟨_, hmiddle, hkey⟩ := ih
    obtain ⟨last, hlast, hstep⟩ := hwrite.row hmiddle
    exact ⟨last, hlast, hstep.sameSource.1.trans hkey⟩

/-- The reservations in dispatch that an operation may decide: the one it is
asked to finalize, or those whose lease ran out before a claim. -/
def DeliveryOp.decides (op : DeliveryOp) (row : DeliveryReservation) : Prop :=
  match op with
  | .finalize input => row.id = input.reservationId
  | .claim input =>
    (isPendingFor input.ownerId input.lane row && row.firstSentAtMs.isSome &&
      isLeaseExpired input.reading.nowMs row) = true
  | _ => False

def DeliveryOp.receives : DeliveryOp → Bool
  | .receipt _ _ _ _ _ => true
  | _ => false

/-- The operations that recover failed speech. -/
def DeliveryOp.recovers : DeliveryOp → Bool
  | .claim _ | .failedSpeech _ => true
  | _ => false

/-- The operation that suppresses undelivered speech. -/
def DeliveryOp.suppresses : DeliveryOp → Bool
  | .suppress _ _ _ => true
  | _ => false

/-- What an operation may write, from what it finds at its start. -/
def DeliveryOp.scope (op : DeliveryOp) (start : DeliveryDb) : Scope where
  wasOpen := fun projectionKey => ∀ row,
    start.outbox.get? projectionKey = some row →
      isTerminal row.sendStatus = false
  decides := fun row =>
    start.reservations.get? row.id = some row ∧ op.decides row
  receives := op.receives
  recovers := op.recovers
  suppresses := op.suppresses

end CognitiveSidecar.Delivery
