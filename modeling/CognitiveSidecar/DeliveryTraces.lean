/-
Every operation on deliveries, wherever it dies, is a sequence of the known
writes, from consistent databases to consistent databases.
-/
import CognitiveSidecar.DeliveryMoves

namespace CognitiveSidecar.Delivery

open List Relational Table Process

variable [Host] [DeliveryHost] {scope : Scope}
variable {start db after : DeliveryDb}
variable {reservationId : Nat}
variable {row : DeliveryReservation} {planned : List String}
variable {lease : Option Int} {nowMs sentAtMs : Int} {ordinal : Nat}
variable {discordMessageId : String} {outcome : Option DeliveryFault}
variable {f : DeliveryDb → DeliveryDb} {halted : DeliveryDb → Prop}
variable {projectionKey : OutboxKey} {input : OpenDeliveryInput}
variable {draftText : String}

/-- Consistent databases that some writes lead to. -/
def Reaches (scope : Scope) (start db : DeliveryDb) : Prop :=
  Relation.ReflTransGen (Write scope) start db ∧ Consistent db

theorem Reaches.refl (hconsistent : Consistent db) : Reaches scope db db :=
  ⟨.refl, hconsistent⟩

theorem Reaches.tail (hreached : Reaches scope start db)
    (hwrite : Write scope db after) : Reaches scope start after :=
  ⟨hreached.1.tail hwrite, hwrite.consistent hreached.2⟩

/-- Wherever the process stops, known writes led there. -/
def Keeps {α : Type} (scope : Scope) (start db : DeliveryDb)
    (m : Delivering α) : Prop :=
  Leaves db m (fun _ => Reaches scope start) (Reaches scope start)

theorem keeps_pure {α : Type} {a : α} (hreached : Reaches scope start db) :
    Keeps scope start db (pure a) := leaves_pure hreached

omit [Host] [DeliveryHost] in
theorem leaves_write {post : Unit → DeliveryDb → Prop} (hhalted : halted db)
    (hpost : post () (f db)) :
    Leaves db (write f) post halted := by
  refine leaves_transaction hhalted fun _ _ hok => ?_
  cases hok
  exact hpost

omit [Host] [DeliveryHost] in
theorem leaves_write_bind {α : Type} {next : Unit → Delivering α}
    {post : α → DeliveryDb → Prop} (hhalted : halted db)
    (hnext : Leaves (f db) (next ()) post halted) :
    Leaves db (write f >>= next) post halted := by
  refine leaves_commit hhalted fun _ _ hok => ?_
  cases hok
  exact hnext

theorem keeps_write (hreached : Reaches scope start db)
    (hf : Reaches scope start (f db)) :
    Keeps scope start db (write f) := leaves_write hreached hf

/-- A transaction that reaches what it commits. -/
theorem keeps_only {α : Type}
    {transaction : DeliveryDb → DeliveryOutcome (α × DeliveryDb)}
    (hreached : Reaches scope start db)
    (hok : ∀ a after, transaction db = .ok (a, after) →
      Reaches scope start after) : Keeps scope start db (only transaction) :=
  leaves_commit hreached fun a after htransaction =>
    keeps_pure (hok a after htransaction)

/-! Writes of one row. -/

/-- An update of one reservation is a move of the row that its guard lets
through. -/
theorem Reaches.updateReservation (hreached : Reaches scope start db)
    {guard : DeliveryReservation → Bool}
    {f : DeliveryReservation → DeliveryReservation}
    {hkey : ∀ row, key (f row) = key row}
    (hmove : ∀ row, db.reservations.get? reservationId = some row →
      guard row = true → ReservationMove scope row (f row)) :
    Reaches scope start (db.updateReservation reservationId guard f hkey) := by
  rcases @update_key_cases _ _ _ _ db.reservations reservationId
    (fun row => decide (row.id = reservationId) && guard row) guard f hkey
    (fun _ => rfl) with hsame | ⟨row, hrow, hguard, hreplaced⟩
  · unfold DeliveryDb.updateReservation
    rw [hsame]
    exact hreached
  · exact hreached.tail (.moved row (f row) _ hreplaced (hmove row hrow hguard))

/-- A status of one row, where it may be written. -/
theorem Reaches.updateStatus (hreached : Reaches scope start db)
    {status : OutboxSendStatus} {options : StatusOptions}
    (hmay : ∀ row, db.outbox.get? projectionKey = some row →
      MayWrite scope row status) (hshadow : status ≠ .suppressedShadow)
    (hsettled : isSettled status = true → ∃ reservation,
      projectionReservation db projectionKey = some reservation ∧
        isTerminalDeliveryState reservation.state = true) :
    Reaches scope start (updateStatus projectionKey status options db) := by
  unfold Delivery.updateStatus DeliveryDb.updateRow
  rcases @update_key_cases _ _ _ _ db.outbox projectionKey
    (fun row => decide (row.projectionKey = projectionKey) && true)
    (fun _ => true) (·.withStatus status options) (fun _ => rfl)
    (fun _ => rfl) with hsame | ⟨row, hrow, _, hreplaced⟩
  · rw [hsame]
    exact hreached
  · have hown : row.projectionKey = projectionKey := key_of_get? hrow
    refine hreached.tail (.status row status options _ hreplaced
      (hmay row hrow) hshadow ?_)
    rw [hown]
    exact hsettled

omit [Host] [DeliveryHost] in
/-- The reservation of a key is found by the key. -/
theorem Consistent.projectionReservation_of (hconsistent : Consistent db)
    {id : Nat} (hrow : db.reservations.get? id = some row)
    (hkey : row.projectionKey = some projectionKey) :
    projectionReservation db projectionKey = some row := by
  cases hfound : projectionReservation db projectionKey with
  | some =>
    rw [hconsistent.projectionReservation_eq hrow hkey hfound]
  | none =>
    have hfalse := List.find?_eq_none.mp hfound row (mem_of_get? hrow)
    exact absurd (decide_eq_true hkey) hfalse

/-- The status that a reservation gives its row is written where the row is
open, or where the reservation is decided. -/
theorem markTerminal_reaches (hreached : Reaches scope start db)
    {row : ProjectableRow} {destination : DeliveryReservation}
    (hfound : projectionReservation db row.projectionKey = some destination)
    (hmay : (isTerminalDeliveryState destination.state = true →
        isTerminal row.sendStatus = false) →
      ∀ current status, db.outbox.get? row.projectionKey = some current →
        MayWrite scope current status) :
    Reaches scope start (markTerminalFromDestination row destination db) := by
  unfold markTerminalFromDestination
  split
  · rename_i hterminal
    split
    · exact hreached
    · rename_i hopen
      refine hreached.updateStatus (fun current hcurrent =>
        hmay (fun _ => Bool.eq_false_iff.mpr hopen) current _ hcurrent) ?_
        fun _ => ⟨destination, hfound, hterminal⟩
      unfold terminalReconciliation
      split_ifs <;> intro hstatus <;> cases hstatus
  · rename_i hundecided
    have hmay := hmay fun hterminal => absurd hterminal hundecided
    split
    · exact hreached.updateStatus (fun current => hmay current _)
        (by decide) (by intro hbad; cases hbad)
    · exact hreached.updateStatus (fun current => hmay current _)
        (by decide) (by intro hbad; cases hbad)

/-! Reservations. -/

theorem insertReservation_reaches (hreached : Reaches scope start db)
    (hopens : ∀ bubbles : List DeliveryBubble,
      bubbles.all DeliveryBubble.isPlanned = true →
      Opens db { row with
        id := nextReservationId db, bubbles })
    (hok : insertReservation row planned db = .ok (reservationId, after)) :
    Reaches scope start after := by
  obtain ⟨reservations, hinsert, hok⟩ := of_orFault hok
  cases of_pure hok
  refine hreached.tail (.opened _ reservations hinsert (hopens _ ?_))
  rw [all_map, all_eq_true]
  intro _ _
  rfl

omit [Host] [DeliveryHost] in
/-- A reservation that was made for no row. -/
theorem opens_keyless {bubbles : List DeliveryBubble}
    (hfresh : bubbles.all DeliveryBubble.isPlanned = true)
    (hstate : row.state = .drafted ∨ row.state = .reserved)
    (hmarker : row.dispatchStartedAtMs = none) (hkey : row.projectionKey = none)
    (hspeech : row.speechOutboxId = none) :
    Opens db { row with
      id := nextReservationId db, bubbles } where
  marker := hmarker
  planned := hfresh
  state := hstate
  lane := by
    intro hany
    rw [hkey] at hany
    cases hany
  speech := by
    intro _ hid
    rw [hspeech] at hid
    cases hid
  source := by
    intro _ hown
    rw [hkey] at hown
    cases hown

theorem claimWithDraft_reaches (hreached : Reaches scope start db)
    {lane : DeliveryLane}
    (hok : claimWithDraft lane input draftText planned db =
      .ok (reservationId, after)) : Reaches scope start after :=
  insertReservation_reaches hreached
    (fun _ hfresh => opens_keyless hfresh (.inr rfl) rfl rfl rfl) hok

theorem claimReactive_reaches (hreached : Reaches scope start db)
    {duplicate : Option Nat} {deadline : Option Int}
    (hok : claimReactiveDelivery input duplicate deadline lease db =
      .ok (reservationId, after)) : Reaches scope start after := by
  unfold claimReactiveDelivery at hok
  split at hok
  · cases hok
    exact hreached
  · exact insertReservation_reaches hreached
      (fun _ hfresh => opens_keyless hfresh (.inl rfl) rfl rfl rfl) hok

theorem attach_reaches (hreached : Reaches scope start db)
    (hok : attachDraftAndBubbles reservationId draftText planned lease db =
      .ok ((), after)) : Reaches scope start after := by
  obtain ⟨_, hcurrent, hok⟩ := of_orFault hok
  obtain ⟨hdrafted, hok⟩ := of_require hok
  cases of_pure hok
  refine hreached.updateReservation fun _ hrow _ => ?_
  cases hcurrent.symm.trans hrow
  exact .attached _ _ _ _ hdrafted

theorem dispatch_reaches (hreached : Reaches scope start db) :
    Reaches scope start
      (markDeliveryDispatchStarted reservationId nowMs db) := by
  refine hreached.updateReservation fun row _ hguard => ?_
  rw [Bool.and_eq_true, decide_eq_true_eq, decide_eq_true_eq] at hguard
  exact .dispatched row nowMs hguard.1 hguard.2

omit [Host] [DeliveryHost] in
/-- The three updates of a receipt rewrite the reservation once. -/
theorem withReceipt_replaced
    (hrow : db.reservations.get? reservationId = some row)
    (hok : recordBubbleReceipt reservationId ordinal discordMessageId sentAtMs
      none db = .ok ((), after)) :
    after = db ∨
      (∃ bubble, row.bubbles.find? (·.ordinal = ordinal) = some bubble ∧
        bubble.discordMessageId = none) ∧
      ∃ reservations, Replaced db.reservations reservations row
          (row.withReceipt ordinal discordMessageId sentAtMs) ∧
        after = { db with reservations } := by
  have hown : row.id = reservationId := key_of_get? hrow
  unfold recordBubbleReceipt getDeliveryReservation at hok
  rw [hrow, orFault_some] at hok
  obtain ⟨bubble, hbubble, hok⟩ := of_orFault hok
  split at hok
  · cases hok
    exact .inl rfl
  rename_i hunsent
  cases hok
  refine .inr ⟨⟨bubble, hbubble, Option.not_isSome_iff_eq_none.mp hunsent⟩, _,
    ⟨?_, rfl, ?_⟩, rfl⟩
  · change db.reservations.get? row.id = some row
    rw [hown, hrow]
  intro id
  simp only [DeliveryDb.updateReservation, get?_update]
  change _ = if id = row.id then _ else _
  by_cases hid : id = row.id
  · rw [hid, hown, hrow]
    cases hfirst : row.firstSentAtMs <;> cases hstate : row.state <;>
      simp [hown, hstate, hfirst, isTerminalDeliveryState]
  · rw [if_neg hid]
    cases hother : db.reservations.get? id with
    | none => rfl
    | some other =>
      have hne : other.id ≠ reservationId := by
        rw [show other.id = id from key_of_get? hother, ← hown]
        exact hid
      simp [hne]

omit [Host] [DeliveryHost] in
/-- A receipt that is taken is written on its bubble, or was there before. -/
theorem receipt_cases
    (hok : recordBubbleReceipt reservationId ordinal discordMessageId sentAtMs
      outcome db = .ok ((), after)) :
    after = db ∨ ∃ row, db.reservations.get? reservationId = some row ∧
      (∃ bubble, row.bubbles.find? (·.ordinal = ordinal) = some bubble ∧
        bubble.discordMessageId = none) ∧
      ∃ reservations, Replaced db.reservations reservations row
          (row.withReceipt ordinal discordMessageId sentAtMs) ∧
        after = { db with reservations } := by
  cases hrow : db.reservations.get? reservationId with
  | none =>
    unfold recordBubbleReceipt getDeliveryReservation at hok
    rw [hrow] at hok
    cases hok
  | some row =>
    have hok : recordBubbleReceipt reservationId ordinal discordMessageId
        sentAtMs none db = .ok ((), after) := by
      cases outcome with
      | none => exact hok
      | some =>
        unfold recordBubbleReceipt at hok ⊢
        obtain ⟨_, hreservation, hok⟩ := of_orFault hok
        obtain ⟨_, hbubble, hok⟩ := of_orFault hok
        rw [hreservation, orFault_some, ok_bind, hbubble, orFault_some,
          ok_bind]
        split at hok
        · rename_i hsent
          rw [if_pos hsent]
          exact hok
        · cases hok
    rcases withReceipt_replaced hrow hok with hsame | hwritten
    · exact .inl hsame
    · exact .inr ⟨row, rfl, hwritten⟩

theorem receipt_reaches (hreached : Reaches scope start db)
    (hreceives : scope.receives = true)
    (hok : recordBubbleReceipt reservationId ordinal discordMessageId sentAtMs
      outcome db = .ok ((), after)) : Reaches scope start after := by
  rcases receipt_cases hok with rfl | ⟨row, _, ⟨bubble, hbubble, hunsent⟩,
    _, hreplaced, rfl⟩
  · exact hreached
  · exact hreached.tail (.moved _ _ _ hreplaced
      (.receipted row ordinal discordMessageId sentAtMs bubble hbubble hunsent
        hreceives))

/-! The decision. -/

omit [Host] [DeliveryHost] in
theorem reasonFor_terminal (cause : FinalizeCause)
    (receiptCount plannedCount : Nat) :
    isTerminalDeliveryState (reasonFor cause receiptCount plannedCount).1 =
      true := by
  unfold reasonFor
  split_ifs <;> cases cause <;> rfl

/-- The reservations of the later database that are not decided are those of the
earlier one. -/
def Untouched (start db : DeliveryDb) : Prop :=
  ∀ id row, db.reservations.get? id = some row →
    isTerminalDeliveryState row.state = false →
    start.reservations.get? id = some row

/-- After the decision the reservation is decided, and no other one changed. -/
theorem finalize_reaches (hreached : Reaches scope start db)
    {input : FinalizeDeliveryInput} {result : FinalizeDeliveryResult}
    (hdecides : ∀ row, db.reservations.get? input.reservationId = some row →
      isTerminalDeliveryState row.state = false →
      row.state ≠ .sending ∨ row.hasReceipt = false ∨ scope.decides row)
    (hok : finalizeDelivery input db = .ok (result, after)) :
    Reaches scope start after ∧ Untouched db after ∧
      ∃ row, after.reservations.get? input.reservationId = some row ∧
        isTerminalDeliveryState row.state = true := by
  obtain ⟨row, hrow, hok⟩ := of_orFault hok
  obtain ⟨hrow, _⟩ := Option.filter_eq_some_iff.mp hrow
  split at hok
  · cases hok
  split at hok
  · rename_i hterminal
    cases hok
    exact ⟨hreached, fun _ _ hsame _ => hsame, row, hrow, hterminal⟩
  · rename_i hopen
    have hreplaced : Replaced db.reservations
        (db.updateReservation input.reservationId (fun _ => true)
          (·.finalized input)).reservations row (row.finalized input) :=
      @replaced_update _ _ _ _ db.reservations row input.reservationId
        (fun row => decide (row.id = input.reservationId) && true)
        (fun _ => true) (·.finalized input) (fun _ => rfl) (fun _ => rfl) hrow
        rfl
    have hown : key row = input.reservationId := key_of_get? hrow
    have hdecided := hreplaced.own
    rw [hown] at hdecided
    have hopen := Bool.eq_false_iff.mpr hopen
    have hterminal : isTerminalDeliveryState (row.finalized input).state =
        true := reasonFor_terminal _ _ _
    obtain ⟨_, rfl⟩ := of_pure_pair hok
    refine ⟨hreached.tail (.decided row input _ hreplaced hopen
      (hdecides row hrow hopen)), ?_, row.finalized input, hdecided, hterminal⟩
    intro _ _ hother hundecided
    rcases hreplaced.of_get? hother with ⟨_, rfl⟩ | ⟨_, hsame⟩
    · rw [hterminal] at hundecided
      cases hundecided
    · exact hsame

theorem cancel_reaches (hreached : Reaches scope start db)
    {input : CancelDeliveryInput} :
    Reaches scope start (cancelDeliveryReservation input db) := by
  unfold cancelDeliveryReservation
  split
  · exact hreached
  split
  · exact hreached
  rename_i hreservation
  split
  · exact hreached
  rename_i hidle
  split
  · rename_i hok
    refine (finalize_reaches hreached (fun _ hrow _ => .inl ?_) hok).1
    cases hreservation.symm.trans hrow
    exact fun hsending => hidle (.inr hsending)
  · exact hreached

theorem cancelOpen_reaches (hreached : Reaches scope start db)
    {reading : CancelReading} :
    Reaches scope start (cancelOpenReservation reading reservationId db) := by
  unfold cancelOpenReservation
  split
  · exact hreached
  split
  · exact hreached
  · exact cancel_reaches hreached

omit [Host] [DeliveryHost] in
theorem Untouched.trans {middle : DeliveryDb} (hfirst : Untouched db middle)
    (hsecond : Untouched middle after) : Untouched db after :=
  fun id row hrow hopen => hfirst id row (hsecond id row hrow hopen) hopen

/-- Rounds that only decide reservations find the others as they were. -/
theorem forEach_untouched (hreached : Reaches scope start db) {ids : List Nat}
    {body : Nat → Delivering Unit}
    (hbody : ∀ id ∈ ids, ∀ s, Reaches scope start s → Untouched db s →
      Leaves s (body id) (fun _ s' => Reaches scope start s' ∧ Untouched db s')
        (Reaches scope start)) :
    Keeps scope start db (forEach ids body) := by
  have hloop : Leaves db (forEach ids body)
      (fun _ s => Reaches scope start s ∧ Untouched db s)
      (Reaches scope start) :=
    leaves_forEach ⟨hreached, fun _ _ hrow _ => hrow⟩
      fun id hid s hs => hbody id hid s hs.1 hs.2
  exact hloop.mono (fun _ _ hs => hs.1) fun _ hs => hs

/-- A draft that a sweep expires is still a draft when it is decided. -/
theorem expireDrafted_keeps (hreached : Reaches scope start db)
    {outcome : Nat → Option DeliveryFault} :
    Keeps scope start db (expireStaleDraftedReservations nowMs outcome) := by
  refine leaves_read (forEach_untouched hreached ?_)
  intro _ hmem _ hlater huntouched
  obtain ⟨_, hstale, rfl⟩ := mem_map.mp hmem
  obtain ⟨hstored, hdrafted⟩ := mem_filter.mp hstale
  unfold isStaleDrafted at hdrafted
  rw [Bool.and_eq_true, decide_eq_true_eq] at hdrafted
  refine leaves_read ?_
  split
  · exact leaves_pure ⟨hlater, huntouched⟩
  · refine leaves_commit hlater fun _ _ hok => ?_
    obtain ⟨hafter, hkept, _⟩ := finalize_reaches hlater (fun _ hrow hopen => by
      have hsame := huntouched _ _ hrow hopen
      cases hsame.symm.trans (get?_key hstored)
      rw [hdrafted.1]
      exact .inl (by decide)) hok
    exact leaves_pure ⟨hafter, huntouched.trans hkept⟩

end CognitiveSidecar.Delivery
