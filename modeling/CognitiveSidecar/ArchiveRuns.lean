/-
The two archives over whole runs: when the receipts come in order and on time,
they agree.
-/
import CognitiveSidecar.ArchiveMoves
import CognitiveSidecar.DeliveryDispatch

namespace CognitiveSidecar.Delivery

open List Relational Table Process

section Archiving

variable [Host] {db after : DeliveryDb} {row : DeliveryReservation}
variable {bubble : DeliveryBubble} {ordinal reservationId : Nat}
variable {messageId : String} {sentAtMs : Int}

/-- A receipt comes on time: for a delivery that is out for sending or whose
evidence is on record; or so late, for a delivery that archived nothing, that it
lies behind a gap. -/
def OnTime (db : DeliveryDb) (row : DeliveryReservation) (ordinal : Nat)
    (messageId : String) (sentAtMs : Int) : Prop :=
  row.state = .reserved ∨ row.state = .sending ∨ deliveredOf db row.id ≠ [] ∨
    (isTerminalDeliveryState row.state = true ∧ archivedTexts db row.id = [] ∧
      inOrder (row.withReceipt ordinal messageId sentAtMs).bubbles = false)

/-- A receipt that changes something is on time, as the receipt route reports
it, and of a message that no other delivery has. -/
def ReceiptFits (db : DeliveryDb) (reservationId ordinal : Nat)
    (messageId : String) (sentAtMs : Int) : Prop :=
  ∀ row, db.reservations.get? reservationId = some row →
    row.projectionKey.isSome = true →
    (row.bubbles.find? (·.ordinal = ordinal)).any (·.discordMessageId = none) =
      true →
    isReported messageId ∧ OnTime db row ordinal messageId sentAtMs ∧
      ∀ id other, db.reservations.get? id = some other →
        other.projectionKey.isSome = true → id ≠ reservationId →
        ∀ bubble ∈ other.bubbles, bubble.discordMessageId ≠ some messageId

/-- The operation takes a receipt that fits, or decides only deliveries that
are clean or without receipts. -/
def Fits (input : DeliveryOp × Nat) (db : DeliveryDb) : Prop :=
  match input.1 with
  | .receipt reservationId ordinal messageId sentAtMs _ =>
    ReceiptFits db reservationId ordinal messageId sentAtMs
  | op => ∀ row ∈ db.reservations.rows, op.decides row →
      isTerminalDeliveryState row.state = false →
      row.projectionKey.isSome = true → row.receipted = [] ∨ Clean row

/-! A receipt. -/

omit [Host] in
/-- The bubbles with a receipt keep it. -/
theorem mem_withReceipt (hbubble : bubble ∈ row.bubbles)
    (hsent : bubble.discordMessageId ≠ none) :
    bubble ∈ (row.withReceipt ordinal messageId sentAtMs).bubbles := by
  refine mem_map.mpr ⟨bubble, hbubble, ?_⟩
  rw [if_neg fun hboth => hsent hboth.2]

omit [Host] in
/-- A bubble afterwards is one before, or has the new receipt. -/
theorem of_mem_withReceipt
    (hbubble : bubble ∈ (row.withReceipt ordinal messageId sentAtMs).bubbles) :
    bubble ∈ row.bubbles ∨
      (bubble.discordMessageId = some messageId ∧
        bubble.sentAtMs = some sentAtMs) := by
  obtain ⟨_, hold, hsame⟩ := mem_map.mp hbubble
  split at hsame
  · exact .inr (hsame ▸ ⟨rfl, rfl⟩)
  · exact .inl (hsame ▸ hold)

omit [Host] in
theorem receipted_sent (hreceipted : bubble.receipted = true) :
    bubble.discordMessageId ≠ none := by
  intro hnone
  unfold DeliveryBubble.receipted at hreceipted
  rw [hnone] at hreceipted
  cases hreceipted

omit [Host] in
/-- A receipt decides nothing. -/
theorem withReceipt_terminal (row : DeliveryReservation) (ordinal : Nat)
    (messageId : String) (sentAtMs : Int) :
    isTerminalDeliveryState (row.withReceipt ordinal messageId sentAtMs).state =
      isTerminalDeliveryState row.state := by
  dsimp only
  split
  · rename_i hreserved
    rw [hreserved]
    rfl
  · rfl

/-- The standing of a delivery that takes a receipt on time. -/
theorem Standing.withReceipt {kind : ProjectionKind}
    (hstanding : Standing db row kind)
    (htime : OnTime db row ordinal messageId sentAtMs) :
    Standing db (row.withReceipt ordinal messageId sentAtMs) kind := by
  have hsame := withReceipt_terminal row ordinal messageId sentAtMs
  have hlate : isTerminalDeliveryState row.state = true →
      deliveredOf db row.id ≠ [] ∨ (archivedTexts db row.id = [] ∧
        inOrder (row.withReceipt ordinal messageId sentAtMs).bubbles =
          false) := by
    intro hterminal
    rcases htime with hreserved | hsending | htold | ⟨_, hlate⟩
    · rw [hreserved] at hterminal
      cases hterminal
    · rw [hsending] at hterminal
      cases hterminal
    · exact .inl htold
    · exact .inr hlate
  cases hstanding with
  | undecided hopen harchived hfresh =>
    exact .undecided (hsame.trans hopen) harchived hfresh
  | unsaid hterminal hunsaid harchived hfresh =>
    rcases hlate hterminal with htold | ⟨_, hgap⟩
    · exact absurd hfresh htold
    · exact .unsaid (hsame.trans hterminal) (.inr hgap) harchived hfresh
  | archived hsaid hclean hstate harchived hfresh =>
    have hterminal : isTerminalDeliveryState row.state = true := by
      rw [hstate]
      split <;> rfl
    rcases hlate hterminal with htold | ⟨hnone, _⟩
    · exact absurd hfresh htold
    · rw [harchived] at hnone
      cases hnone
  | told hterminal text rowId evidence hsaid harchived hone hevidence htext =>
    obtain ⟨bubbles, hsome, hreceipted, rfl⟩ := hsaid
    refine .told (hsame.trans hterminal) _ rowId evidence
      ⟨bubbles, hsome, fun bubble hbubble => ?_, rfl⟩ harchived hone hevidence
      htext
    obtain ⟨hmem, hsent⟩ := hreceipted bubble hbubble
    exact ⟨mem_withReceipt hmem (receipted_sent hsent), hsent⟩

/-- A receipt that fits keeps the archives. -/
theorem receipt_archives (harchives : Archives db)
    {outcome : Option DeliveryFault}
    (hfits : ReceiptFits db reservationId ordinal messageId sentAtMs)
    (hok : recordBubbleReceipt reservationId ordinal messageId sentAtMs outcome
      db = .ok ((), after)) : Archives after := by
  rcases receipt_cases hok with rfl | ⟨row, hrow, ⟨_, hfound, hunsent⟩,
    reservations, hreplaced, rfl⟩
  · exact harchives
  have hid : row.id = reservationId := key_of_get? hrow
  refine @Archives.replaced _ db { db with reservations } row _ harchives
    reservations [] hreplaced rfl rfl (append_nil _).symm
    (fun _ hmem => by cases hmem) rfl rfl ?_
  intro _ hkey
  obtain ⟨hreported, htime, hfresh⟩ := hfits row hrow (by rw [hkey]; rfl)
    (by rw [hfound]; exact decide_eq_true hunsent)
  refine ⟨?_, ?_, ?_, ?_, ?_⟩
  · intro bubble hbubble
    rcases of_mem_withReceipt hbubble with hold | ⟨hmessage, hsent⟩
    · exact harchives.recorded hrow hkey bubble hold
    · exact .inr ⟨messageId, hmessage, hreported, by rw [hsent]; rfl⟩
  · -- What takes a receipt on time is sending or decided.
    intro hidle
    have hopen : isTerminalDeliveryState row.state = false := by
      rw [← withReceipt_terminal row ordinal messageId sentAtMs]
      rcases hidle with hstate | hstate <;> rw [hstate] <;> rfl
    have hsending : (row.withReceipt ordinal messageId sentAtMs).state =
        .sending := by
      rcases htime with hreserved | hsending | htold | ⟨hterminal, _⟩
      · exact if_pos hreserved
      · exact (if_neg (by rw [hsending]; decide)).trans hsending
      · exact absurd
          ((harchives.standing hrow hkey).undecided_of hopen).2 htold
      · rw [hterminal] at hopen
        cases hopen
    rw [hsending] at hidle
    rcases hidle with hstate | hstate <;> cases hstate
  · exact ((harchives.standing hrow hkey).withReceipt htime).frame rfl rfl
      fun _ _ hstored => hstored
  · intro _ _ ⟨bubble, hbubble, hsent⟩
    exact ⟨bubble, mem_withReceipt hbubble (by rw [hsent]; simp), hsent⟩
  · intro bubble hbubble _ hsent
    rcases of_mem_withReceipt hbubble with hold | ⟨hmessage, _⟩
    · exact .inl ⟨bubble, hold, hsent⟩
    · cases hmessage.symm.trans hsent
      refine .inr fun id stored _ hstored hown hne => ?_
      exact hfresh id stored hstored (by rw [hown]; rfl) (hid ▸ hne)

section Runs

variable [DeliveryHost]

/-- A step that fits keeps the archives. -/
theorem deliveryStep_archives {input : DeliveryOp × Nat}
    (hconsistent : Consistent db) (harchives : Archives db)
    (hfits : Fits input db) : Archives (deliveryStep input db) := by
  obtain ⟨op, lives⟩ := input
  by_cases hreceives : op.receives = true
  · cases op with
    | receipt =>
      refine deliveryStep_leaves ?_ lives
      exact leaves_commit harchives fun _ _ hok =>
        leaves_pure (receipt_archives harchives hfits hok)
    | _ => cases hreceives
  · have hquiet : (op.scope db).receives = false :=
      Bool.eq_false_iff.mpr hreceives
    have hclean : ∀ row ∈ db.reservations.rows, op.decides row →
        isTerminalDeliveryState row.state = false →
        row.projectionKey.isSome = true → row.receipted = [] ∨ Clean row := by
      cases op with
      | receipt => exact absurd rfl hreceives
      | _ => exact hfits
    have hwrites := (deliveryStep_reaches hconsistent (op, lives)).1
    generalize deliveryStep (op, lives) db = after at hwrites
    induction hwrites with
    | refl => exact harchives
    | tail _ hwrite ih =>
      refine hwrite.archives ih hquiet ?_
      intro row hdecides hopen hkeyed
      exact hclean row (mem_of_get? hdecides.1) hdecides.2 hopen hkeyed

theorem run_archives {inputs : List (DeliveryOp × Nat)}
    (hmeets : Meets deliveryStep Fits {} inputs) :
    Consistent (run deliveryStep {} inputs) ∧
      Archives (run deliveryStep {} inputs) :=
  @meets_preserves _ _ deliveryStep (fun db => Consistent db ∧ Archives db) Fits
    (fun input _ hfits hboth =>
      ⟨(deliveryStep_reaches hboth.1 input).2,
        deliveryStep_archives hboth.1 hboth.2 hfits⟩)
    {} ⟨Consistent.initial, Archives.initial⟩ inputs hmeets

/-- What a reconciliation that comes to its end commits. -/
theorem reconcile_ok {lives left : Nat} {nowMs : Int}
    (hok : reconcileProjectedDelivery reservationId nowMs lives db =
      (.ok (true, left), after)) :
    ∃ source row, db.reservations.get? reservationId = some row ∧
      row.projectionKey = some source.projectionKey ∧
      db.outbox.get? source.projectionKey = some source ∧
      markDeliveredEvidence reservationId source
        (assessFor source.projectionKey.kind row.bubbles) nowMs
        (markTerminalFromDestination source row db) = .ok ((), after) := by
  have hleaves : Leaves db (reconcileProjectedDelivery reservationId nowMs)
      (fun done after => done = true → ∃ source row,
        db.reservations.get? reservationId = some row ∧
        row.projectionKey = some source.projectionKey ∧
        db.outbox.get? source.projectionKey = some source ∧
        markDeliveredEvidence reservationId source
          (assessFor source.projectionKey.kind row.bubbles) nowMs
          (markTerminalFromDestination source row db) = .ok ((), after))
      (fun _ => True) := by
    refine leaves_read ?_
    split
    · rename_i source destination hsource hdestination
      obtain ⟨_, hstored, hkey, hget⟩ := projectedRow_spec hsource
      cases hstored.symm.trans hdestination
      exact leaves_write_bind trivial (leaves_commit trivial fun _ _ hok =>
        leaves_pure fun _ =>
          ⟨source, destination, hdestination, hkey, hget, hok⟩)
    · exact leaves_pure fun hdone => by cases hdone
  have hdone := hleaves lives
  rw [hok] at hdone
  exact hdone rfl

omit [Host] [DeliveryHost] in
theorem markTerminal_aside (source : ProjectableRow) (row : DeliveryReservation)
    (db : DeliveryDb) : ∃ outbox,
      markTerminalFromDestination source row db = { db with outbox } := by
  unfold markTerminalFromDestination updateStatus DeliveryDb.updateRow
  split_ifs <;> exact ⟨_, rfl⟩

/-- In every run whose receipts are on time, as the receipt route reports them
and of messages of one delivery each, and whose decisions find the receipts
clean, the two archives of every delivery made for a row of an outbox agree
once it is decided and reconciled, and hold receipted bubbles only; and wherever
there is evidence they agree. -/
theorem archives_agree {inputs : List (DeliveryOp × Nat)}
    (hmeets : Meets deliveryStep Fits {} inputs) {reservationId : Nat}
    {projectionKey : OutboxKey}
    (hrow : (run deliveryStep {} inputs).reservations.get? reservationId =
      some row) (hkey : row.projectionKey = some projectionKey) :
    (evidenceTexts (run deliveryStep {} inputs) reservationId ≠ [] →
      Agree (run deliveryStep {} inputs) row) ∧
    (isTerminalDeliveryState row.state = true →
      ∀ lives left nowMs after,
        reconcileProjectedDelivery reservationId nowMs lives
          (run deliveryStep {} inputs) = (.ok (true, left), after) →
        Agree after row) := by
  obtain ⟨_, harchives⟩ := run_archives hmeets
  generalize run deliveryStep {} inputs = db at hrow harchives
  have hid : row.id = reservationId := key_of_get? hrow
  constructor
  · intro htold
    have htold : deliveredOf db row.id ≠ [] := by
      intro hnone
      rw [← hid] at htold
      exact htold (evidenceTexts_none hnone)
    have hterminal : isTerminalDeliveryState row.state = true := by
      by_contra hopen
      exact htold ((harchives.standing hrow hkey).undecided_of
        (Bool.eq_false_iff.mpr hopen)).2
    exact (harchives.standing hrow hkey).agree hterminal (.inl htold)
  · intro hterminal _ _ _ _ hok
    obtain ⟨source, _, hstored, hown, _, hmarked⟩ := reconcile_ok hok
    cases hrow.symm.trans hstored
    obtain ⟨outbox, haside⟩ := markTerminal_aside source row db
    rw [haside] at hmarked
    exact (markDelivered_archives (harchives.aside outbox) hrow hown hmarked).2
      hterminal

end Runs

omit [Host] in
/-- A receipt of the only delivery fits when it is on time. -/
theorem ReceiptFits.sole (hrows : db.reservations.rows = [row])
    (hid : row.id = reservationId) (hreported : isReported messageId)
    (htime : OnTime db row ordinal messageId sentAtMs) :
    ReceiptFits db reservationId ordinal messageId sentAtMs := by
  have hsole : ∀ {id other}, db.reservations.get? id = some other →
      other = row := by
    intro _ _ hother
    have hmem := mem_of_get? hother
    rw [hrows] at hmem
    exact mem_singleton.mp hmem
  intro _ hstored _ _
  cases hsole hstored
  refine ⟨hreported, htime, fun id other hother _ hne => absurd ?_ hne⟩
  have hown : other.id = id := key_of_get? hother
  cases hsole hother
  exact hown.symm.trans hid

end Archiving

section Plain

attribute [local instance] plainHost plainDelivery

/-- Of two bubbles only the second has a receipt: the decision archives its
text, the projector finds a conflict and records nothing. -/
theorem gapped_receipt_splits_archives :
    ¬ ∀ (inputs : List (DeliveryOp × Nat)) (reservationId lives : Nat)
        (nowMs : Int) (row : DeliveryReservation),
      (run deliveryStep {} inputs).reservations.get? reservationId = some row →
      isTerminalDeliveryState row.state = true →
      (reconcileProjectedDelivery reservationId nowMs lives
        (run deliveryStep {} inputs)).1.toOption.map Prod.fst = some true →
      archivedTexts (reconcileProjectedDelivery reservationId nowMs lives
          (run deliveryStep {} inputs)).2 reservationId =
        evidenceTexts (reconcileProjectedDelivery reservationId nowMs lives
          (run deliveryStep {} inputs)).2 reservationId := by
  intro hagree
  have hsplit := hagree
    (reserveReply ++ [claimReply 1, (.receipt 1 1 "m1" 2 none, 9), failReply 3])
    1 9 4
    { claimedReply with
      state := .partiallyDelivered
      errorCategory := some "send_failure"
      finalizationReason := some "send_failure_after_partial"
      firstSentAtMs := some 2
      finalizedAtMs := some 3
      bubbles := [{ ordinal := 0, text := "a" },
        { ordinal := 1, text := "b", discordMessageId := some "m1"
          sentAtMs := some 2 }] }
    (by decide +kernel) rfl (by decide +kernel)
  revert hsplit
  decide +kernel

def sentReply : DeliveryReservation :=
  { claimedReply with
    firstSentAtMs := some 2
    bubbles :=
      [{ ordinal := 0, text := "a", discordMessageId := some "m0"
         sentAtMs := some 2 },
        { ordinal := 1, text := "b" }] }

/-- The first bubble of the reply is sent, and then its sending fails. -/
def sendFirstBubble : List (DeliveryOp × Nat) :=
  reserveReply ++ [claimReply 1, (.receipt 1 0 "m0" 2 none, 9), failReply 3]

theorem sendFirstBubble_fits : Meets deliveryStep Fits {} sendFirstBubble := by
  refine ⟨fun _ _ hdecides => hdecides.elim,
    fun _ _ hdecides => hdecides.elim, ?_, ?_, ?_, trivial⟩
  · intro _ hrow hdecides
    cases mem_singleton.mp hrow
    exact absurd (show (isPendingFor "owner" .cognitiveV021 reservedReply &&
      reservedReply.firstSentAtMs.isSome && isLeaseExpired 1 reservedReply) =
        true from hdecides) (by decide)
  · have hrows : (deliveryStep (claimReply 1) (run deliveryStep {}
        reserveReply)).reservations.rows = [claimedReply] := by decide +kernel
    exact .sole hrows rfl ⟨by decide, by decide⟩ (.inr (.inl rfl))
  · intro _ hrow _ _ _
    cases mem_singleton.mp hrow
    exact .inr ⟨by decide +kernel, fun hsystem => absurd hsystem (by decide),
      by decide +kernel, by decide +kernel, by decide, by decide +kernel⟩

/-- The first bubble is in both archives. -/
theorem first_bubble_agrees :
    Agree (run deliveryStep {} sendFirstBubble) { sentReply with
      state := .partiallyDelivered, errorCategory := some "send_failure"
      finalizationReason := some "send_failure_after_partial"
      finalizedAtMs := some 3 } :=
  (@archives_agree _ _ _ sendFirstBubble sendFirstBubble_fits 1 ⟨.speech, 1⟩
    (by decide +kernel) rfl).1 (by decide +kernel)

end Plain

end CognitiveSidecar.Delivery
