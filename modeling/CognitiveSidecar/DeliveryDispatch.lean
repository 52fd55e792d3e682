/-
A delivery that may have gone out is not reserved again.  Only two writes make
a reservation reserved: the first binding of a drafted one, and the recovery of
an aborted one, which is made only when nothing is on record as sent.
-/
import CognitiveSidecar.DeliverySweeps

namespace CognitiveSidecar.Delivery

open Relational

/-- A dispatch of the delivery began, or something of it has a receipt. -/
def DeliveryReservation.touched (row : DeliveryReservation) : Bool :=
  row.dispatchStartedAtMs.isSome || row.hasReceipt

/-- The delivery left its draft, and is not reserved once it is touched. -/
structure Landed (row : DeliveryReservation) : Prop where
  left : row.state ≠ .drafted
  touched : row.touched = true → row.state ≠ .reserved

variable {scope : Scope} {row row' : DeliveryReservation}

theorem Unsent.untouched (hunsent : Unsent row) : row.touched = false := by
  unfold DeliveryReservation.touched
  rw [hunsent.marker, hunsent.receipts]
  rfl

/-- A receipt keeps the receipts there are. -/
theorem hasReceipt_withReceipt {ordinal : Nat} {discordMessageId : String}
    {sentAtMs : Int} (hreceipt : row.hasReceipt = true) :
    (row.withReceipt ordinal discordMessageId sentAtMs).hasReceipt = true := by
  unfold DeliveryReservation.hasReceipt at hreceipt ⊢
  obtain ⟨bubble, hbubble, hreceipted⟩ := List.any_eq_true.mp hreceipt
  rw [List.any_map, List.any_eq_true]
  refine ⟨bubble, hbubble, ?_⟩
  unfold Function.comp
  dsimp only
  split
  · exact Bool.or_true _
  · exact hreceipted

/-- What is touched stays touched, once the draft is behind. -/
theorem RowStep.touched (hstep : RowStep scope row row') (hleft : row.state ≠ .drafted)
    (htouched : row.touched = true) : row'.touched = true := by
  cases hstep with
  | kept | decided | rearmed => exact htouched
  | moved _ hmove =>
    cases hmove with
    | claimed => exact htouched
    | aborted => exact htouched
    | owned => exact htouched
    | noted => exact htouched
    | dispatched => rfl
    | bound _ hdrafted => exact absurd hdrafted hleft
    | attached _ _ _ hdrafted => exact absurd hdrafted hleft
    | receipted =>
      rcases Bool.or_eq_true_iff.mp htouched with hmarker | hreceipt
      · exact Bool.or_eq_true_iff.mpr (.inl hmarker)
      · exact Bool.or_eq_true_iff.mpr
          (.inr (hasReceipt_withReceipt hreceipt))

/-- A delivery never goes back to its draft. -/
theorem RowStep.left (hstep : RowStep scope row row') (hleft : row.state ≠ .drafted) :
    row'.state ≠ .drafted := by
  cases hstep with
  | kept => exact hleft
  | rearmed => exact DeliveryState.noConfusion
  | decided input =>
    intro hdrafted
    have hterminal := reasonFor_terminal input.cause row.receipted.length
      row.bubbles.length
    rw [show (reasonFor _ _ _).1 = _ from hdrafted] at hterminal
    cases hterminal
  | moved _ hmove =>
    cases hmove with
    | claimed | aborted | bound | attached => exact DeliveryState.noConfusion
    | dispatched | owned | noted => exact hleft
    | receipted =>
      dsimp only
      split
      · exact DeliveryState.noConfusion
      · exact hleft

/-- A delivery that a write leaves reserved was reserved before, or was a draft,
or is recovered with nothing on record as sent. -/
theorem RowStep.reserved (hstep : RowStep scope row row')
    (hreserved : row'.state = .reserved) :
    (row.state = .reserved ∧ row'.touched = row.touched) ∨
      row.state = .drafted ∨ row'.touched = false := by
  cases hstep with
  | kept => exact .inl ⟨hreserved, rfl⟩
  | rearmed _ hunsent => exact .inr (.inr hunsent.untouched)
  | decided input =>
    have hterminal := reasonFor_terminal input.cause row.receipted.length
      row.bubbles.length
    rw [show (reasonFor _ _ _).1 = _ from hreserved] at hterminal
    cases hterminal
  | moved _ hmove =>
    cases hmove with
    | claimed | aborted => cases hreserved
    | owned | noted => exact .inl ⟨hreserved, rfl⟩
    | bound _ hdrafted | attached _ _ _ hdrafted => exact .inr (.inl hdrafted)
    | dispatched _ hsending => cases hsending.symm.trans hreserved
    | receipted =>
      -- The receipt of a reserved delivery makes it sending.
      dsimp only at hreserved
      split at hreserved
      · cases hreserved
      · rename_i hother
        exact absurd hreserved hother

/-- No write reserves a delivery that is touched. -/
theorem RowStep.landed (hstep : RowStep scope row row') (hlanded : Landed row) :
    Landed row' := by
  refine ⟨hstep.left hlanded.left, fun htouched hreserved => ?_⟩
  rcases hstep.reserved hreserved with ⟨hbefore, hsame⟩ | hdrafted | huntouched
  · exact hlanded.touched (hsame.symm.trans htouched) hbefore
  · exact hlanded.left hdrafted
  · rw [huntouched] at htouched
    cases htouched

/-- What a reservation keeps for good: its row and its lane, the first mark of
a dispatch, a decision other than an abortion and, once the draft is behind, the
texts of its bubbles and each receipt. -/
structure Stays (row row' : DeliveryReservation) : Prop where
  source : row'.projectionKey = row.projectionKey ∧
    row'.speechOutboxId = row.speechOutboxId ∧
    row'.deliveryLane = row.deliveryLane
  marked : row.dispatchStartedAtMs ≠ none →
    row'.dispatchStartedAtMs = row.dispatchStartedAtMs
  decided : isTerminalDeliveryState row.state = true → row.state ≠ .aborted →
    row'.state = row.state ∧ row'.finalizationReason = row.finalizationReason ∧
      row'.finalizedAtMs = row.finalizedAtMs
  bubbles : row.state ≠ .drafted → row'.state ≠ .drafted ∧
    row'.bubbles.map (fun bubble => (bubble.ordinal, bubble.text)) =
      row.bubbles.map (fun bubble => (bubble.ordinal, bubble.text)) ∧
    ∀ bubble ∈ row.bubbles, bubble.discordMessageId ≠ none →
      bubble ∈ row'.bubbles

theorem Stays.trans {a b c : DeliveryReservation} (hab : Stays a b)
    (hbc : Stays b c) : Stays a c where
  source := ⟨hbc.source.1.trans hab.source.1,
    hbc.source.2.1.trans hab.source.2.1, hbc.source.2.2.trans hab.source.2.2⟩
  marked := fun hmark =>
    (hbc.marked ((hab.marked hmark).symm ▸ hmark)).trans (hab.marked hmark)
  decided := by
    intro hterminal hother
    obtain ⟨hstate, hreason, hat⟩ := hab.decided hterminal hother
    rw [← hstate] at hterminal hother
    obtain ⟨hstate', hreason', hat'⟩ := hbc.decided hterminal hother
    exact ⟨hstate'.trans hstate, hreason'.trans hreason, hat'.trans hat⟩
  bubbles := by
    intro hleft
    obtain ⟨hleft, htexts, hreceived⟩ := hab.bubbles hleft
    obtain ⟨hleft, htexts', hreceived'⟩ := hbc.bubbles hleft
    exact ⟨hleft, htexts'.trans htexts, fun bubble hbubble hid =>
      hreceived' bubble (hreceived bubble hbubble hid) hid⟩

theorem RowStep.stays (hstep : RowStep scope row row') : Stays row row' := by
  refine ⟨hstep.sameSource, fun hmark => ?_, fun hterminal hother => ?_,
    fun hleft => ⟨hstep.left hleft, ?_⟩⟩
  · cases hstep with
    | kept | decided | rearmed => rfl
    | moved _ hmove =>
      cases hmove with
      | dispatched _ _ hunmarked => exact absurd hunmarked hmark
      | claimed | receipted | bound | attached | aborted | owned | noted => rfl
  · cases hstep with
    | kept => exact ⟨rfl, rfl, rfl⟩
    | decided _ hopen => cases hopen.symm.trans hterminal
    | rearmed haborted => exact absurd haborted hother
    | moved _ hmove =>
      cases hmove with
      | dispatched => exact ⟨rfl, rfl, rfl⟩
      | noted _ haborted => exact absurd haborted hother
      | claimed _ hopen | owned _ hopen | bound _ hopen | attached _ _ _ hopen =>
        rw [hopen] at hterminal
        cases hterminal
      | aborted _ _ _ hunsent =>
        rcases hunsent with hopen | ⟨hopen, _⟩ <;> rw [hopen] at hterminal <;>
          cases hterminal
      | receipted =>
        refine ⟨if_neg fun hopen => ?_, rfl, rfl⟩
        rw [hopen] at hterminal
        cases hterminal
  · cases hstep with
    | kept | decided | rearmed => exact ⟨rfl, fun _ hbubble _ => hbubble⟩
    | moved _ hmove =>
      cases hmove with
      | claimed | dispatched | bound | aborted | owned | noted =>
        exact ⟨rfl, fun _ hbubble _ => hbubble⟩
      | attached _ _ _ hdrafted => exact absurd hdrafted hleft
      | receipted =>
        refine ⟨?_, fun bubble hbubble hid =>
          List.mem_map.mpr ⟨bubble, hbubble, if_neg fun hfree => hid hfree.2⟩⟩
        rw [List.map_map]
        refine List.map_congr_left fun _ _ => ?_
        unfold Function.comp
        dsimp only
        split <;> rfl

section Runs

variable [Host] [DeliveryHost]

/-- What is known of a stored reservation after a run. -/
theorem run_consistent (inputs : List (DeliveryOp × Nat)) :
    Consistent (run deliveryStep {} inputs) :=
  @run_preserves _ _ deliveryStep Consistent (fun input _ hconsistent =>
    (deliveryStep_reaches hconsistent input).2) _ Consistent.initial inputs

/-- What every write keeps of a reservation, every run keeps. -/
theorem run_row {P : DeliveryReservation → Prop} {db : DeliveryDb}
    (hstep : ∀ {scope row row'}, RowStep scope row row' → P row → P row')
    (hconsistent : Consistent db) {id : Nat} {row : DeliveryReservation}
    (hrow : db.reservations.get? id = some row) (hholds : P row)
    (inputs : List (DeliveryOp × Nat)) :
    ∃ row', (run deliveryStep db inputs).reservations.get? id = some row' ∧
      P row' := by
  have hwrites : ∀ {db after : DeliveryDb} {scope : Scope},
      Relation.ReflTransGen (Write scope) db after →
      (∃ row, db.reservations.get? id = some row ∧ P row) →
      ∃ row, after.reservations.get? id = some row ∧ P row := by
    intro _ _ _ hwrites hfound
    induction hwrites with
    | refl => exact hfound
    | tail _ hwrite ih =>
      obtain ⟨_, hmiddle, hholds⟩ := ih
      obtain ⟨last, hlast, hmoved⟩ := hwrite.row hmiddle
      exact ⟨last, hlast, hstep hmoved hholds⟩
  have hboth := @run_preserves _ _ deliveryStep
    (fun db => Consistent db ∧
      ∃ row, db.reservations.get? id = some row ∧ P row)
    (fun input db ⟨hconsistent, hfound⟩ =>
      have hreached := deliveryStep_reaches hconsistent input
      ⟨hreached.2, hwrites hreached.1 hfound⟩)
    db ⟨hconsistent, row, hrow, hholds⟩ inputs
  exact hboth.2

/-- In every run: a delivery that has been reserved, and that has a dispatch
start or a receipt, is not reserved again.  Where it was reserved untouched,
the first touch finds or makes it not reserved. -/
theorem touched_never_reserved_again
    (earlier middle later : List (DeliveryOp × Nat)) {reservationId : Nat}
    {reserved touched : DeliveryReservation}
    (hreserved : (run deliveryStep {} earlier).reservations.get? reservationId =
      some reserved)
    (hstate : reserved.state = .reserved)
    (hrow : (run deliveryStep {} (earlier ++ middle)).reservations.get?
      reservationId = some touched)
    (htouched : touched.touched = true)
    (hagain : reserved.touched = false ∨ touched.state ≠ .reserved) :
    ∃ row, (run deliveryStep {} (earlier ++ middle ++ later)).reservations.get?
        reservationId = some row ∧
      row.touched = true ∧ row.state ≠ .reserved := by
  have hmiddle : touched.state ≠ .drafted ∧
      (reserved.touched = false → Landed touched) := by
    rw [run_append] at hrow
    have hconsistent := run_consistent earlier
    obtain ⟨_, hsame, hleft⟩ := run_row RowStep.left hconsistent
      hreserved (by rw [hstate]; decide) middle
    cases hrow.symm.trans hsame
    refine ⟨hleft, fun huntouched => ?_⟩
    have hlanded : Landed reserved := by
      refine ⟨by rw [hstate]; decide, fun htouched => ?_⟩
      rw [huntouched] at htouched
      cases htouched
    obtain ⟨_, hsame, hlanded⟩ := run_row RowStep.landed
      hconsistent hreserved hlanded middle
    cases hrow.symm.trans hsame
    exact hlanded
  have hlanded : Landed touched := by
    rcases hagain with huntouched | hother
    · exact hmiddle.2 huntouched
    · exact ⟨hmiddle.1, fun _ => hother⟩
  obtain ⟨row, hlast, hlanded, htouched⟩ := @run_row _ _
    (fun row => Landed row ∧ row.touched = true) _
    (fun hstep hholds => ⟨hstep.landed hholds.1,
      hstep.touched hholds.1.left hholds.2⟩)
    (run_consistent (earlier ++ middle)) _ _ hrow ⟨hlanded, htouched⟩ later
  rw [run_append]
  exact ⟨row, hlast, htouched, hlanded.touched htouched⟩

/-- In every run each row has one reservation at most, which is decided before
the row is settled; and no later run moves a reservation, rewrites what it says,
loses a receipt, takes back the mark of a dispatch or reopens a decision. -/
theorem deliveries_agree (earlier later : List (DeliveryOp × Nat)) :
    let db := run deliveryStep {} earlier
    Consistent db ∧ ∀ id row, db.reservations.get? id = some row →
      ∃ row', (run deliveryStep db later).reservations.get? id = some row' ∧
        Stays row row' := by
  have hconsistent := run_consistent earlier
  refine ⟨hconsistent, fun id row hrow => ?_⟩
  exact run_row (fun hstep hstays => hstays.trans hstep.stays) hconsistent hrow
    ⟨⟨rfl, rfl, rfl⟩, fun _ => rfl, fun _ _ => ⟨rfl, rfl, rfl⟩, fun hleft =>
      ⟨hleft, rfl, fun _ hbubble _ => hbubble⟩⟩ later

end Runs

section Plain

attribute [local instance] plainHost

/-- A deployment where every principal is an authorized Owner. -/
@[reducible]
def plainDelivery : DeliveryHost where
  isAuthorizedOwnerId := fun _ => true
  isDomusLane := fun _ => false

attribute [local instance] plainDelivery

def reply : NewOutboxRow where
  kind := .speech
  settlementId := "s"
  conversationId := "c"
  text := "a\n\nb"
  deliveryIntent := { ownerId := "owner", threadId := "t" }
  speechLane := by intro _; decide

/-- The reply is enqueued and projected in two bubbles. -/
def reserveReply : List (DeliveryOp × Nat) :=
  [(.enqueue reply, 9),
    (.project ⟨.speech, 1⟩
      { nowMs := 0, planned := ["a", "b"], cancel := { nowMs := 0 } }, 9)]

def claimReply (nowMs : Int) : DeliveryOp × Nat :=
  (.claim
    { ownerId := "owner", lane := .cognitiveV021, reading := { nowMs } }, 9)

/-- The decision of the pump after its send failed. -/
def failReply (nowMs : Int) : DeliveryOp × Nat :=
  (.finalize
    { reservationId := 1, ownerId := "owner", cause := .sendFailure, nowMs }, 9)

def reservedReply : DeliveryReservation :=
  { id := 1, ownerId := "owner", channel := "discord", threadId := "t"
    deliveryLane := .reactive, state := .reserved
    draftText := some "a\n\nb", deliveryLeaseExpiresAtMs := some 120000
    projectionKey := some ⟨.speech, 1⟩, speechOutboxId := some 1
    bubbles := [{ ordinal := 0, text := "a" }, { ordinal := 1, text := "b" }] }

def claimedReply : DeliveryReservation :=
  { reservedReply with
    state := .sending
    deliveryLeaseExpiresAtMs := some 120001 }

/-- A dispatched reply fails, and the recovery leaves it aborted. -/
theorem dispatched_reply_stays_aborted :
    ∃ row, (run deliveryStep {} (reserveReply ++
        [claimReply 1, (.dispatch 1 2, 9)] ++
        [failReply 3, claimReply 4])).reservations.get? 1 = some row ∧
      row.touched = true ∧ row.state ≠ .reserved :=
  @touched_never_reserved_again _ _ reserveReply
    [claimReply 1, (.dispatch 1 2, 9)] [failReply 3, claimReply 4] 1
    reservedReply { claimedReply with dispatchStartedAtMs := some 2 }
    (by decide +kernel) rfl (by decide +kernel) rfl (.inl (by decide))

end Plain

end CognitiveSidecar.Delivery
