/-
The text that a reconciliation records, beside the receipts that confirm it.
-/
import Mathlib.Data.List.TakeWhile
import CognitiveSidecar.ArchiveRuns

namespace CognitiveSidecar.Delivery

open List Relational

/-- Both sides of the bubble's receipt are on record. -/
def DeliveryBubble.isConfirmed (bubble : DeliveryBubble) : Bool :=
  bubble.discordMessageId.any (!blank ·) && bubble.sentAtMs.isSome

/-- Every bubble is confirmed; a notice is one bubble. -/
def WhollyConfirmed (kind : ProjectionKind) (bubbles : List DeliveryBubble) :
    Prop :=
  bubbles ≠ [] ∧ (kind = .system → bubbles.length = 1) ∧
    ∀ bubble ∈ bubbles, bubble.isConfirmed = true

/-- The receipts that make no history: a half one, one behind a gap, or those
of a notice in several bubbles. -/
def ReceiptConflict (kind : ProjectionKind) (bubbles : List DeliveryBubble) :
    Prop :=
  (kind = .system ∧ bubbles.length ≠ 1) ∨
    ∃ bubble ∈ bubbles.dropWhile DeliveryBubble.isConfirmed,
      bubble.hasReceipt = true

section Receipts

variable {kind : ProjectionKind} {bubbles : List DeliveryBubble}

/-- Behind a gap any side of a receipt is a conflict. -/
theorem confirm_behind (bubbles : List DeliveryBubble) :
    confirm true bubbles = ([], bubbles.any DeliveryBubble.hasReceipt) := by
  induction bubbles with
  | nil => rfl
  | cons bubble _ ih =>
    unfold confirm
    rw [any_cons]
    cases hid : bubble.discordMessageId.any (!blank ·) <;>
      cases hsent : bubble.sentAtMs.isSome <;>
      simp [hid, hsent, ih, DeliveryBubble.hasReceipt]

theorem confirm_front (bubbles : List DeliveryBubble) :
    (confirm false bubbles).2 =
        (bubbles.dropWhile DeliveryBubble.isConfirmed).any
          DeliveryBubble.hasReceipt ∧
      ((confirm false bubbles).2 = false →
        (confirm false bubbles).1.map DeliveryBubble.text =
          (bubbles.takeWhile DeliveryBubble.isConfirmed).map
            DeliveryBubble.text) := by
  induction bubbles with
  | nil => exact ⟨rfl, fun _ => rfl⟩
  | cons bubble rest ih =>
    obtain ⟨hconflict, htext⟩ := ih
    unfold confirm
    rw [dropWhile_cons, takeWhile_cons]
    cases hid : bubble.discordMessageId.any (!blank ·) <;>
      cases hsent : bubble.sentAtMs.isSome
    case true.true =>
      simpa [DeliveryBubble.isConfirmed, hid, hsent] using ⟨hconflict, htext⟩
    case false.false =>
      simp [DeliveryBubble.isConfirmed, DeliveryBubble.hasReceipt, hid, hsent,
        confirm_behind]
    all_goals simp [DeliveryBubble.isConfirmed, DeliveryBubble.hasReceipt, hid,
      hsent]

theorem assessFor_conflict : (assessFor kind bubbles).conflict = true ↔
    ReceiptConflict kind bubbles := by
  unfold assessFor ReceiptConflict
  dsimp only
  rw [← any_eq_true, ← (confirm_front bubbles).1]
  split <;> simp_all [receiptAssessment]

theorem assessFor_text (hclean : ¬ ReceiptConflict kind bubbles) :
    (assessFor kind bubbles).confirmedPrefix.map DeliveryBubble.text =
      (bubbles.takeWhile DeliveryBubble.isConfirmed).map
        DeliveryBubble.text := by
  rw [← assessFor_conflict] at hclean
  unfold assessFor at hclean ⊢
  dsimp only at hclean ⊢
  split
  · rename_i hnotice
    rw [if_pos hnotice] at hclean
    exact absurd rfl hclean
  · rename_i hother
    rw [if_neg hother] at hclean
    exact (confirm_front bubbles).2 (Bool.eq_false_iff.mpr hclean)

theorem assessFor_complete :
    (assessFor kind bubbles).complete = true ∧
      (assessFor kind bubbles).conflict = false ↔
        WhollyConfirmed kind bubbles := by
  unfold WhollyConfirmed
  constructor
  · rintro ⟨hcomplete, hclean⟩
    have htext := congrArg List.length (@assessFor_text kind bubbles
      (by simp [← assessFor_conflict, hclean]))
    rw [length_map, length_map] at htext
    unfold assessFor at hcomplete hclean htext
    dsimp only at hcomplete hclean htext
    split at hclean
    · cases hclean
    · rename_i hother
      rw [if_neg hother] at hcomplete htext
      simp only [receiptAssessment, Bool.and_eq_true, decide_eq_true_eq,
        Bool.not_eq_true', isEmpty_eq_false_iff] at hcomplete htext
      refine ⟨hcomplete.1.2, fun hsystem => ?_, ?_⟩
      · by_contra hlength
        exact hother ⟨hsystem, hlength⟩
      · rw [← takeWhile_eq_self_iff]
        exact (takeWhile_sublist _).eq_of_length
          (htext.symm.trans hcomplete.2)
  · rintro ⟨hsome, hnotice, hall⟩
    have hclean : ¬ ReceiptConflict kind bubbles := by
      rintro (⟨hsystem, hlength⟩ | ⟨_, hbubble, _⟩)
      · exact hlength (hnotice hsystem)
      · rw [dropWhile_eq_nil_iff.mpr hall] at hbubble
        cases hbubble
    have htext := congrArg List.length (assessFor_text hclean)
    rw [length_map, length_map,
      takeWhile_eq_self_iff.mpr hall] at htext
    rw [← assessFor_conflict, Bool.not_eq_true] at hclean
    refine ⟨?_, hclean⟩
    unfold assessFor at hclean htext ⊢
    dsimp only at hclean htext ⊢
    split at hclean
    · cases hclean
    · rename_i hother
      rw [if_neg hother] at htext ⊢
      simp only [receiptAssessment] at hclean htext ⊢
      simp [hclean, htext, hsome]

theorem terminalReconciliation_delivered_iff {state : DeliveryState} :
    (terminalReconciliation state (assessFor kind bubbles)).1 = .delivered ↔
      WhollyConfirmed kind bubbles := by
  rw [← assessFor_complete]
  unfold terminalReconciliation
  split_ifs <;> simp_all

end Receipts

section Reconciled

variable [Host] [DeliveryHost] {db after : DeliveryDb} {reservationId : Nat}

omit [Host] [DeliveryHost] in
/-- An open row takes over `delivered` from a wholly confirmed decision. -/
theorem markTerminal_delivered_iff {source : ProjectableRow}
    {row : DeliveryReservation}
    (hsource : db.outbox.get? source.projectionKey = some source)
    (hopen : isTerminal source.sendStatus = false) :
    (∃ mirrored, (markTerminalFromDestination source row db).outbox.get?
        source.projectionKey = some mirrored ∧
        mirrored.sendStatus = .delivered) ↔
      isTerminalDeliveryState row.state = true ∧
        WhollyConfirmed source.projectionKey.kind row.bubbles := by
  rw [← @terminalReconciliation_delivered_iff _ _ row.state]
  unfold markTerminalFromDestination updateStatus DeliveryDb.updateRow
  dsimp only
  rw [hopen]
  cases hdecided : isTerminalDeliveryState row.state
  · rw [if_neg Bool.false_ne_true]
    split <;> simp [hsource]
  · simp [hsource]

/-- A reconciliation that comes to its end reports an open row as delivered
exactly if the delivery is decided and every bubble is confirmed; what it
records as delivered is the text of the confirmed prefix, and a conflict records
nothing. -/
theorem delivered_as_confirmed {lives left : Nat} {nowMs : Int}
    (hok : reconcileProjectedDelivery reservationId nowMs lives db =
      (.ok (true, left), after)) :
    ∃ source row, db.reservations.get? reservationId = some row ∧
      row.projectionKey = some source.projectionKey ∧
      db.outbox.get? source.projectionKey = some source ∧
      (isTerminal source.sendStatus = false →
        ((∃ mirrored, after.outbox.get? source.projectionKey = some mirrored ∧
            mirrored.sendStatus = .delivered) ↔
          isTerminalDeliveryState row.state = true ∧
            WhollyConfirmed source.projectionKey.kind row.bubbles)) ∧
      ((after.evidence = db.evidence ∧ after.delivered = db.delivered) ∨
        ¬ ReceiptConflict source.projectionKey.kind row.bubbles ∧
        ∃ said, db.evidence.evidence.insert? said =
            some after.evidence.evidence ∧
          after.delivered = db.delivered ++ [⟨reservationId,
            evidenceRole source.projectionKey.kind, said.rowId⟩] ∧
          said.text = (normalizeClassification (some (bubbleText
            (row.bubbles.takeWhile DeliveryBubble.isConfirmed)))).1) := by
  obtain ⟨source, row, hrow, hkey, hsource, hmarked⟩ := reconcile_ok hok
  refine ⟨source, row, hrow, hkey, hsource, fun hopen => ?_, ?_⟩
  · rw [(markDeliveredEvidence_aside hmarked).2.1]
    exact markTerminal_delivered_iff hsource hopen
  · obtain ⟨_, haside⟩ := markTerminal_aside source row db
    rw [haside] at hmarked
    unfold markDeliveredEvidence getDeliveryReservation at hmarked
    dsimp only at hmarked
    rw [hrow] at hmarked
    dsimp only at hmarked
    split at hmarked
    · cases hmarked
      exact .inl ⟨rfl, rfl⟩
    · rename_i hquiet
      split at hmarked
      · cases hmarked
      · rename_i said _ happended
        cases hmarked
        have hclean : ¬ ReceiptConflict source.projectionKey.kind
            row.bubbles := by
          rw [← assessFor_conflict]
          intro hconflict
          simp [mayBecomeEvidence, hconflict] at hquiet
        cases hknown : existingByDiscordIds db.evidence (uniqueIds
            ((assessFor source.projectionKey.kind
              row.bubbles).confirmedPrefix.filterMap (·.discordMessageId)))
          with
        | some =>
          unfold appendEvidenceInTransaction at happended
          replace happended := passed happended
          simp only [Option.filter_none, hknown] at happended
          cases of_pure happended
          exact .inl (by simp)
        | none =>
          rcases appendEvidenceInTransaction_cases happended with
            ⟨_, hother⟩ | hrecorded
          · cases hknown.symm.trans hother
          · refine .inr ⟨hclean, said, hrecorded.inserted, by simp, ?_⟩
            rw [hrecorded.text]
            dsimp only [bubbleText]
            rw [assessFor_text hclean]

end Reconciled

section Plain

attribute [local instance] plainHost plainDelivery

/-- A reply whose sending failed behind its first bubble. -/
theorem first_bubble_confirmed :
    ∃ (after : DeliveryDb) (source : ProjectableRow) (row : _),
    after = (reconcileProjectedDelivery 1 4 9
      (run deliveryStep {} sendFirstBubble)).2 ∧
    (run deliveryStep {} sendFirstBubble).reservations.get? 1 = some row ∧
    (isTerminal source.sendStatus = false →
      ((∃ mirrored, after.outbox.get? source.projectionKey = some mirrored ∧
          mirrored.sendStatus = .delivered) ↔
        isTerminalDeliveryState row.state = true ∧
          WhollyConfirmed source.projectionKey.kind row.bubbles)) := by
  have hdone : (reconcileProjectedDelivery 1 4 9
      (run deliveryStep {} sendFirstBubble)).1.toOption.map Prod.fst =
        some true := by decide +kernel
  rcases hrun : reconcileProjectedDelivery 1 4 9
    (run deliveryStep {} sendFirstBubble) with ⟨_ | ⟨_, _⟩, after⟩
  · rw [hrun] at hdone
    cases hdone
  · rw [hrun] at hdone
    cases Option.some.inj hdone
    obtain ⟨source, row, hrow, _, _, hstatus, _⟩ := delivered_as_confirmed hrun
    exact ⟨after, source, row, rfl, hrow, hstatus⟩

/-- Receipts of every bubble are not enough: a delivery without bubbles fails,
and a notice in two bubbles is a conflict. -/
theorem confirmed_bubbles_not_delivered :
    (terminalReconciliation .committed (assessFor .speech [])).1 =
        .sendFailure ∧
      ∃ bubbles : List DeliveryBubble,
        (∀ bubble ∈ bubbles, bubble.isConfirmed = true) ∧
        (terminalReconciliation .committed (assessFor .system bubbles)).1 =
          .sendFailure :=
  ⟨by decide, [0, 1].map fun ordinal =>
    { ordinal, text := "a", discordMessageId := some "m", sentAtMs := some 2 },
    by decide, by decide⟩

end Plain

end CognitiveSidecar.Delivery
