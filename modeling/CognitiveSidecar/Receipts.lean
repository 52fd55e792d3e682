/-
What the receipts of a delivery say: the projector's confirmed prefix and the
receipted bubbles of the decision are the same bubbles where the receipts came
in without a gap.
-/
import CognitiveSidecar.DeliverySweeps
import CognitiveSidecar.EvidenceMoves

namespace CognitiveSidecar.Delivery

open List Relational

/-- A message identifier as the receipt route passes it on. -/
def isReported (discordMessageId : String) : Prop :=
  blank discordMessageId = false ∧ trim discordMessageId = discordMessageId

/-- A bubble is as planned, or carries its receipt. -/
def DeliveryBubble.Recorded (bubble : DeliveryBubble) : Prop :=
  (bubble.discordMessageId = none ∧ bubble.sentAtMs = none) ∨
    ∃ id, bubble.discordMessageId = some id ∧ isReported id ∧
      bubble.sentAtMs.isSome = true

/-- No receipted bubble lies behind one without a receipt. -/
def inOrder (bubbles : List DeliveryBubble) : Bool :=
  (bubbles.dropWhile DeliveryBubble.receipted).all (!·.receipted)

variable {bubble : DeliveryBubble} {bubbles : List DeliveryBubble}

theorem isReported.ne_empty {id : String} (hreported : isReported id) :
    id ≠ "" := by
  rintro rfl
  cases hreported.1

/-- The three readings of a receipt agree on a bubble. -/
theorem DeliveryBubble.Recorded.cases (hrecorded : bubble.Recorded) :
    (bubble.receipted = false ∧ bubble.discordMessageId.any (!blank ·) = false ∧
      bubble.sentAtMs.isSome = false) ∨
    (bubble.receipted = true ∧ bubble.discordMessageId.any (!blank ·) = true ∧
      bubble.sentAtMs.isSome = true ∧
      bubble.discordMessageId.map trim = bubble.discordMessageId) := by
  unfold DeliveryBubble.receipted
  rcases hrecorded with ⟨hid, hsent⟩ | ⟨_, hid, hreported, hsent⟩
  · exact .inl (by rw [hid, hsent]; exact ⟨rfl, rfl, rfl⟩)
  · refine .inr ⟨?_, ?_, hsent, ?_⟩
    · rw [hid, Option.any_some, decide_eq_true_eq]
      exact hreported.ne_empty
    · rw [hid, Option.any_some, hreported.1]
      rfl
    · rw [hid, Option.map_some, hreported.2]

theorem DeliveryBubble.Recorded.receipted_iff (hrecorded : bubble.Recorded) :
    bubble.receipted = true ↔ bubble.hasReceipt = true := by
  unfold DeliveryBubble.hasReceipt
  rcases hrecorded.cases with ⟨hreceipted, hid, hsent⟩ |
    ⟨hreceipted, hid, hsent, _⟩ <;> simp [hreceipted, hid, hsent]

/-- Behind a gap nothing is confirmed, and every receipt is a conflict. -/
theorem confirm_gap (hrecorded : ∀ bubble ∈ bubbles, bubble.Recorded) :
    confirm true bubbles = ([], bubbles.any DeliveryBubble.receipted) := by
  induction bubbles with
  | nil => rfl
  | cons bubble _ ih =>
    have ih := ih fun other hother =>
      hrecorded other (mem_cons_of_mem bubble hother)
    unfold confirm
    rcases (hrecorded bubble mem_cons_self).cases with
      ⟨hreceipted, hid, hsent⟩ | ⟨hreceipted, hid, hsent, _⟩ <;>
      simp [hreceipted, hid, hsent, ih]

/-- The confirmed prefix is what is receipted, where the receipts are in
order; elsewhere there is a conflict. -/
theorem confirm_start (hrecorded : ∀ bubble ∈ bubbles, bubble.Recorded) :
    (confirm false bubbles).2 = !inOrder bubbles ∧
      (inOrder bubbles = true →
        (confirm false bubbles).1 =
          bubbles.filter DeliveryBubble.receipted) := by
  induction bubbles with
  | nil => exact ⟨rfl, fun _ => rfl⟩
  | cons bubble rest ih =>
    have hrest : ∀ other ∈ rest, other.Recorded := fun other hother =>
      hrecorded other (mem_cons_of_mem bubble hother)
    have ih := ih hrest
    unfold confirm inOrder
    rcases (hrecorded bubble mem_cons_self).cases with
      ⟨hreceipted, hid, hsent⟩ | ⟨hreceipted, hid, hsent, htrimmed⟩
    · have hgap := confirm_gap hrest
      simp only [hid, hsent, Bool.false_and,
        Bool.false_eq_true, if_false, Bool.not_false, Bool.and_self, if_true,
        hgap, hreceipted, dropWhile_cons_of_neg, not_false_eq_true,
        all_cons, Bool.true_and]
      constructor
      · rw [not_all_eq_any_not]
        simp
      · intro hclean
        rw [filter_cons_of_neg (by simp [hreceipted])]
        symm
        rw [filter_eq_nil_iff]
        intro other hother
        simpa using all_eq_true.mp hclean other hother
    · have hsame : ({ bubble with
          discordMessageId := bubble.discordMessageId.map trim } :
          DeliveryBubble) = bubble := by rw [htrimmed]
      simp only [hid, hsent, Bool.not_false, Bool.and_self, if_true,
        hreceipted, dropWhile_cons_of_pos]
      constructor
      · exact ih.1
      · intro hclean
        rw [filter_cons_of_pos hreceipted, hsame, ih.2 hclean]

/-! What a decision archives and what the projector confirms. -/

/-- The receipts of a delivery make one text: they came in order, a notice is
one bubble, and the text is stored as it is, in a thread. -/
structure Clean [Host] (row : DeliveryReservation) : Prop where
  order : inOrder row.bubbles = true
  notice : row.projectionKey.any (·.kind = .system) = true →
    row.bubbles.length = 1
  trimmed : trim (bubbleText row.receipted) = bubbleText row.receipted
  said : bubbleText row.receipted ≠ ""
  thread : row.threadId ≠ ""
  plain : Host.hasCredentialShape (bubbleText row.receipted) = false

variable {row : DeliveryReservation} {projectionKey : OutboxKey}

/-- A decision without receipts archives nothing. -/
theorem archived_unsaid (hunsaid : row.receipted = []) (ownerId : String) :
    row.archived ownerId = [] := by
  have htext : row.deliveredText = "" := by
    unfold DeliveryReservation.deliveredText
    rw [hunsaid]
    rfl
  unfold DeliveryReservation.archived
  rw [htext]
  exact if_neg fun hboth => hboth.1 rfl

theorem archived_clean [Host] (hclean : Clean row) (ownerId : String) :
    (row.archived ownerId).map (·.text) = [bubbleText row.receipted] := by
  have htext : row.deliveredText = bubbleText row.receipted := hclean.trimmed
  unfold DeliveryReservation.archived
  rw [htext, if_pos ⟨hclean.said, hclean.thread⟩]
  rfl

/-- The decision of a delivery with receipts depends on their number alone. -/
theorem reasonFor_said (cause : FinalizeCause) {receiptCount plannedCount : Nat}
    (hsaid : 0 < receiptCount) (hplanned : 0 < plannedCount) :
    (reasonFor cause receiptCount plannedCount).1 =
      if plannedCount ≤ receiptCount then .committed
      else .partiallyDelivered := by
  unfold reasonFor
  by_cases hall : plannedCount ≤ receiptCount
  · rw [if_pos ⟨hsaid, hplanned, hall⟩, if_pos hall]
  · rw [if_neg (fun hboth => hall hboth.2.2), if_pos hsaid, if_neg hall]
    cases cause <;> rfl

/-- The projector confirms what a clean delivery archived. -/
theorem assess_clean [Host] (hclean : Clean row)
    (hrecorded : ∀ bubble ∈ row.bubbles, bubble.Recorded)
    (hkey : row.projectionKey = some projectionKey) :
    (assessFor projectionKey.kind row.bubbles).confirmedPrefix = row.receipted ∧
      (assessFor projectionKey.kind row.bubbles).conflict = false ∧
      (assessFor projectionKey.kind row.bubbles).complete =
        (!row.bubbles.isEmpty &&
          decide (row.receipted.length = row.bubbles.length)) := by
  obtain ⟨hconflict, hconfirmed⟩ := confirm_start hrecorded
  have hconfirmed := hconfirmed hclean.order
  rw [hclean.order] at hconflict
  have hbase : assessFor projectionKey.kind row.bubbles =
      receiptAssessment row.bubbles := by
    refine if_neg ?_
    rintro ⟨hsystem, hlength⟩
    refine hlength (hclean.notice ?_)
    rw [hkey]
    exact decide_eq_true hsystem
  rw [hbase]
  unfold receiptAssessment
  dsimp only
  rw [hconflict, hconfirmed]
  exact ⟨rfl, rfl, rfl⟩

/-- The receipts of a clean delivery become evidence. -/
theorem mayBecomeEvidence_clean [Host] (hclean : Clean row)
    (hrecorded : ∀ bubble ∈ row.bubbles, bubble.Recorded)
    (hkey : row.projectionKey = some projectionKey)
    (hsaid : row.receipted ≠ [])
    (hstate : row.state = if row.bubbles.length ≤ row.receipted.length then
      .committed else .partiallyDelivered) :
    mayBecomeEvidence row.state
      (assessFor projectionKey.kind row.bubbles) = true := by
  obtain ⟨hconfirmed, hconflict, hcomplete⟩ :=
    assess_clean hclean hrecorded hkey
  have hle : row.receipted.length ≤ row.bubbles.length :=
    length_filter_le _ _
  have hplanned : row.bubbles.isEmpty = false := by
    cases hbubbles : row.bubbles with
    | nil =>
      refine absurd ?_ hsaid
      unfold DeliveryReservation.receipted
      rw [hbubbles]
      rfl
    | cons => rfl
  unfold mayBecomeEvidence
  rw [hconfirmed, hconflict, hcomplete, hplanned, hstate]
  by_cases hall : row.bubbles.length ≤ row.receipted.length
  · rw [if_pos hall, decide_eq_true (Nat.le_antisymm hle hall)]
    simp [isTerminalDeliveryState, hsaid]
  · have hpart : row.receipted.length ≠ row.bubbles.length :=
      fun heq => hall (Nat.le_of_eq heq.symm)
    rw [if_neg hall]
    simp [isTerminalDeliveryState, hsaid, hpart]

/-- Without receipts, or with a gap, there is nothing to record. -/
theorem mayBecomeEvidence_unsaid {kind : ProjectionKind} {state : DeliveryState}
    (hrecorded : ∀ bubble ∈ row.bubbles, bubble.Recorded)
    (hunsaid : row.receipted = [] ∨ inOrder row.bubbles = false) :
    mayBecomeEvidence state (assessFor kind row.bubbles) = false := by
  obtain ⟨hconflict, hconfirmed⟩ := confirm_start hrecorded
  have hquiet : (assessFor kind row.bubbles).conflict = true ∨
      (assessFor kind row.bubbles).confirmedPrefix = [] := by
    unfold assessFor
    split
    · exact .inl rfl
    · unfold receiptAssessment
      dsimp only
      cases horder : inOrder row.bubbles with
      | false => exact .inl (by rw [hconflict, horder]; rfl)
      | true =>
        refine .inr ((hconfirmed horder).trans ?_)
        exact hunsaid.resolve_right (by rw [horder]; decide)
  unfold mayBecomeEvidence
  rcases hquiet with hquiet | hquiet <;> simp [hquiet]

end CognitiveSidecar.Delivery
