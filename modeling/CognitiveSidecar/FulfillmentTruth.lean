/-
What the pump reports: a completed reservation has every planned bubble sent and
receipted; a failure after the dispatch is truthful except where a send breaks
off after bubbles none of whose receipts was stored.
-/
import CognitiveSidecar.FulfillmentPump

namespace CognitiveSidecar.Fulfillment

open List

variable {wire : Wire} {delivery : FulfillmentDelivery}
variable {bubbles : List PlannedBubble} {reading : PumpReading}

/-! Receipts. -/

/-- One of the attempts stores the receipt. -/
def stores (reading : Nat → ReceiptReading) : Bool :=
  reading 0 ≠ .failed || reading 1 ≠ .failed || reading 2 ≠ .failed

/-- Attempts store the receipt as often as they get through. -/
theorem persistAttempts_wire (receipt : Receipt)
    (readings : List ReceiptReading) (wire : Wire) :
    ∃ count, (persistAttempts receipt readings wire).2 =
        { wire with
          receipts := wire.receipts ++ List.replicate count receipt } ∧
      (count = 0 ↔ ∀ reading ∈ readings, reading = .failed) ∧
      ((persistAttempts receipt readings wire).1 = true → count ≠ 0) := by
  induction readings generalizing wire with
  | nil => exact ⟨0, by simp [persistAttempts], by simp, by simp [persistAttempts]⟩
  | cons reading _ ih =>
    cases reading with
    | stored => exact ⟨1, rfl, by simp, by simp⟩
    | storedUnanswered =>
      obtain ⟨count, hwire, _, _⟩ :=
        ih { wire with receipts := wire.receipts ++ [receipt] }
      refine ⟨count + 1, ?_, by simp, by simp⟩
      rw [persistAttempts, hwire,
        append_assoc]
      rfl
    | failed =>
      obtain ⟨count, hwire, hcount, hanswered⟩ := ih wire
      refine ⟨count, hwire, ?_, hanswered⟩
      rw [hcount]
      simp

theorem persistReceiptWithRetry_wire (reading : Nat → ReceiptReading)
    (receipt : Receipt) (wire : Wire) :
    ∃ count, (persistReceiptWithRetry reading receipt wire).2 =
        { wire with
          receipts := wire.receipts ++ List.replicate count receipt } ∧
      (count = 0 ↔ stores reading = false) ∧
      ((persistReceiptWithRetry reading receipt wire).1 = true → count ≠ 0) := by
  obtain ⟨count, hwire, hcount, hanswered⟩ :=
    persistAttempts_wire receipt [reading 0, reading 1, reading 2] wire
  refine ⟨count, hwire, ?_, hanswered⟩
  rw [hcount]
  simp [stores, and_assoc]

/-- The second round leaves the messages and adds receipts; when none of them
fails, each is stored. -/
theorem persistAll_wire (reading : Nat → Nat → ReceiptReading) (index : Nat)
    (receipts : List Receipt) (wire : Wire) :
    (persistAll reading index receipts wire).2.2.out = wire.out ∧
      (∀ receipt ∈ wire.receipts,
        receipt ∈ (persistAll reading index receipts wire).2.2.receipts) ∧
      ((persistAll reading index receipts wire).1 = 0 →
        ∀ receipt ∈ receipts,
          receipt ∈ (persistAll reading index receipts wire).2.2.receipts) := by
  induction receipts generalizing index wire with
  | nil => exact ⟨rfl, fun _ hreceipt => hreceipt,
      fun _ _ hnone => absurd hnone not_mem_nil⟩
  | cons receipt rest ih =>
    obtain ⟨count, hwire, _, hanswered⟩ :=
      persistReceiptWithRetry_wire (reading index) receipt wire
    obtain ⟨hout, hkept, hall⟩ := ih (index + 1)
      (persistReceiptWithRetry (reading index) receipt wire).2
    have hwire' : (persistAll reading index (receipt :: rest) wire).2.2 =
        (persistAll reading (index + 1) rest
          (persistReceiptWithRetry (reading index) receipt wire).2).2.2 := by
      rw [persistAll]
      dsimp only
      split <;> rfl
    rw [hwire']
    have hstored : ∀ other ∈ wire.receipts ++ List.replicate count receipt,
        other ∈ (persistAll reading (index + 1) rest
          (persistReceiptWithRetry (reading index) receipt wire).2
            ).2.2.receipts := by
      intro other hother
      refine hkept other ?_
      rw [hwire]
      exact hother
    refine ⟨?_, ?_, ?_⟩
    · rw [hout, hwire]
    · exact fun other hother =>
        hstored other (mem_append_left _ hother)
    · intro hnone other hother
      rw [persistAll] at hnone
      dsimp only at hnone
      cases hfirst : (persistReceiptWithRetry (reading index) receipt wire).1 with
      | false =>
        rw [hfirst] at hnone
        cases hnone
      | true =>
        rw [hfirst] at hnone
        rcases mem_cons.mp hother with rfl | hrest
        · refine hstored other (mem_append_right _ ?_)
          exact mem_replicate.mpr ⟨hanswered hfirst, rfl⟩
        · exact hall hnone other hrest

/-! The bubbles of a delivery. -/

/-- Every receipt is of a message that is out. -/
def Wire.Backed (wire : Wire) : Prop :=
  ∀ receipt ∈ wire.receipts,
    ⟨receipt.ordinal, some receipt.discordMessageId⟩ ∈ wire.out

/-- The recheck of a bubble blocks it, or its send fails. -/
def PumpReading.breaksAt (reading : PumpReading) (index : Nat) : Bool :=
  reading.bubbleRecheck index ≠ .ok ||
    match reading.send index with
    | .sent _ => false
    | .failed _ => true

/-- A sent bubble on the wire, with its receipts. -/
theorem onBubbleSent_wire (reading : PumpReading) (target : DeliveryTarget)
    (index : Nat) (receipt : Receipt) (wire : Wire) :
    ∃ count, (reading.sendOptions target).onBubbleSent index receipt wire =
        { wire with
          receipts := wire.receipts ++ List.replicate count receipt } ∧
      (count = 0 ↔ stores (reading.receipt index) = false) := by
  obtain ⟨count, hwire, hcount, _⟩ :=
    persistReceiptWithRetry_wire (reading.receipt index) receipt wire
  exact ⟨count, hwire, hcount⟩

/-- All bubbles from an index on went out. -/
structure SentAll (bubbles : List PlannedBubble) (before : BubbleSendResult)
    (wire : Wire) (result : BubbleSendResult) (wire' : Wire)
    (ids : List MessageId) : Prop where
  length : ids.length = bubbles.length
  ordinals : result.receiptedOrdinals =
    before.receiptedOrdinals ++ bubbles.map (·.ordinal)
  messages : result.messages = before.messages ++ ids
  visible : result.anySubstantiveContentVisible =
    (before.anySubstantiveContentVisible || !bubbles.isEmpty)
  out : wire'.out = wire.out ++
    List.zipWith (fun bubble id => ⟨bubble.ordinal, some id⟩) bubbles ids

/-- The send broke off at a place, the bubbles before it out. -/
structure BrokeOff (reading : PumpReading) (index : Nat)
    (bubbles : List PlannedBubble) (before : BubbleSendResult) (wire : Wire)
    (error : DeliverySendError) (wire' : Wire) (place : Nat) : Prop where
  inside : place < bubbles.length
  breaks : reading.breaksAt (index + place) = true
  passed : ∀ earlier < place, reading.breaksAt (index + earlier) = false
  ordinals : error.result.receiptedOrdinals =
    before.receiptedOrdinals ++ (bubbles.take place).map (·.ordinal)
  category : error.result.failureCategory =
    if reading.bubbleRecheck (index + place) = .ok then some .discordSendFailed
    else some .aborted
  blocked : place = 0 → reading.bubbleRecheck (index + place) ≠ .ok →
    wire' = wire
  receipts : wire'.receipts = [] ↔ wire.receipts = [] ∧
    ∀ earlier < place, stores (reading.receipt (index + earlier)) = false
  out : 0 < place ∨ wire.out ≠ [] → wire'.out ≠ []

/-- A step of the pump, which sets no deadline and sends no picture. -/
theorem sendPlanned_open (reading : PumpReading) (target : DeliveryTarget)
    (firstSent : Bool) (index : Nat) (bubble : PlannedBubble)
    (rest : List PlannedBubble) (before : BubbleSendResult) (wire : Wire) :
    sendPlanned (reading.sendOptions target) firstSent index
      (bubble :: rest) before wire =
        match (reading.sendOptions target).beforeBubbleSend index with
        | some message => (failWith .aborted message
            { before with attemptedOrdinal := some bubble.ordinal }, wire)
        | none =>
          match transmit bubble.ordinal (reading.send index) wire with
          | (none, wire) => (failWith .discordSendFailed "bubble_send_failed"
              { before with attemptedOrdinal := some bubble.ordinal }, wire)
          | (some id, wire) =>
            sendPlanned (reading.sendOptions target) true (index + 1) rest
              { before with
                attemptedOrdinal := some bubble.ordinal
                messages := before.messages ++ [id]
                anySubstantiveContentVisible := true
                receiptedOrdinals :=
                  before.receiptedOrdinals ++ [bubble.ordinal] }
              ((reading.sendOptions target).onBubbleSent index
                ⟨bubble.ordinal, id⟩ wire) := by
  have hnoGif (wire : Wire) :
      sendBubble (reading.sendOptions target) index bubble wire =
        transmit bubble.ordinal (reading.send index) wire := by
    unfold sendBubble
    rcases htransmit : transmit bubble.ordinal
      ((reading.sendOptions target).send index) wire with ⟨_ | _, _⟩
    · dsimp only
      rw [if_neg (fun hgif => Bool.false_ne_true hgif.2)]
      exact htransmit.symm
    · exact htransmit.symm
  -- the pump sets no deadline
  have hfirst : (reading.sendOptions target).firstBubbleDeadlineAtMs = none :=
    rfl
  have hfinal : (reading.sendOptions target).finalDeliveryDeadlineAtMs = none :=
    rfl
  rw [sendPlanned]
  simp only [hfirst, hfinal, hnoGif, Option.any_none, Bool.false_eq_true,
    and_false, if_false] <;>
    rfl

/-- One bubble of the pump: it is blocked, or its send fails, or it is out. -/
theorem sendPlanned_cons (reading : PumpReading) (target : DeliveryTarget)
    (firstSent : Bool) (index : Nat) (bubble : PlannedBubble)
    (rest : List PlannedBubble) (before : BubbleSendResult) (wire : Wire) :
    (∃ message, reading.bubbleRecheck index ≠ .ok ∧
      sendPlanned (reading.sendOptions target) firstSent index (bubble :: rest)
          before wire =
        (failWith .aborted message
          { before with attemptedOrdinal := some bubble.ordinal }, wire)) ∨
    (∃ visible, reading.bubbleRecheck index = .ok ∧
      reading.send index = .failed visible ∧
      sendPlanned (reading.sendOptions target) firstSent index (bubble :: rest)
          before wire =
        (failWith .discordSendFailed "bubble_send_failed"
          { before with attemptedOrdinal := some bubble.ordinal },
          (transmit bubble.ordinal (.failed visible) wire).2)) ∨
    ∃ id count, reading.bubbleRecheck index = .ok ∧
      reading.send index = .sent id ∧
      (count = 0 ↔ stores (reading.receipt index) = false) ∧
      sendPlanned (reading.sendOptions target) firstSent index (bubble :: rest)
          before wire =
        sendPlanned (reading.sendOptions target) true (index + 1) rest
          { before with
            attemptedOrdinal := some bubble.ordinal
            messages := before.messages ++ [id]
            anySubstantiveContentVisible := true
            receiptedOrdinals := before.receiptedOrdinals ++ [bubble.ordinal] }
          { out := wire.out ++ [⟨bubble.ordinal, some id⟩]
            receipts := wire.receipts ++
              List.replicate count ⟨bubble.ordinal, id⟩ } := by
  have hopen := sendPlanned_open reading target firstSent index bubble rest before
    wire
  cases hrecheck : reading.bubbleRecheck index with
  | refused reason =>
    refine .inl ⟨target.blockedPrefix ++ reason, Verdict.noConfusion, ?_⟩
    rw [hopen]
    simp only [PumpReading.sendOptions, hrecheck]
  | raised message =>
    refine .inl ⟨message, Verdict.noConfusion, ?_⟩
    rw [hopen]
    simp only [PumpReading.sendOptions, hrecheck]
  | ok =>
    have hunblocked :
        (reading.sendOptions target).beforeBubbleSend index = none := by
      simp only [PumpReading.sendOptions, hrecheck]
    refine .inr ?_
    cases hsend : reading.send index with
    | failed visible =>
      refine .inl ⟨visible, rfl, rfl, ?_⟩
      rw [hopen, hunblocked, hsend]
      cases visible <;> rfl
    | sent id =>
      obtain ⟨count, hwire, hcount⟩ := onBubbleSent_wire reading target
        index ⟨bubble.ordinal, id⟩
        { wire with out := wire.out ++ [⟨bubble.ordinal, some id⟩] }
      refine .inr ⟨id, count, rfl, rfl, hcount, ?_⟩
      rw [hopen, hunblocked, hsend]
      dsimp only [transmit]
      rw [hwire]

/-- The bubbles of the pump all go out, or the send breaks off. -/
theorem sendPlanned_cases (reading : PumpReading) (target : DeliveryTarget)
    (firstSent : Bool) (index : Nat) (bubbles : List PlannedBubble)
    (before : BubbleSendResult) (wire : Wire) :
    (∃ result wire' ids,
      sendPlanned (reading.sendOptions target) firstSent index bubbles before
        wire = (.ok result, wire') ∧
      SentAll bubbles before wire result wire' ids ∧
      ∀ place < bubbles.length, reading.breaksAt (index + place) = false) ∨
    ∃ error wire' place,
      sendPlanned (reading.sendOptions target) firstSent index bubbles before
        wire = (.error error, wire') ∧
      BrokeOff reading index bubbles before wire error wire' place := by
  induction bubbles generalizing firstSent index before wire with
  | nil =>
    refine .inl ⟨before, wire, [], rfl, ⟨rfl, ?_, ?_, ?_, ?_⟩, ?_⟩
    · exact (append_nil _).symm
    · exact (append_nil _).symm
    · exact (Bool.or_false _).symm
    · exact (append_nil _).symm
    · exact fun _ hplace => absurd hplace (Nat.not_lt_zero _)
  | cons bubble rest ih =>
    rcases sendPlanned_cons reading target firstSent index bubble rest before
        wire with ⟨_, hrecheck, hsend⟩ |
      ⟨visible, hrecheck, hfailed, hsend⟩ |
      ⟨id, count, hrecheck, hsent, hcount, hsend⟩
    · refine .inr ⟨_, _, 0, hsend, ?_⟩
      constructor
      · exact Nat.succ_pos _
      · simp [PumpReading.breaksAt, hrecheck]
      · exact fun _ hearlier => absurd hearlier (Nat.not_lt_zero _)
      · exact (append_nil _).symm
      · rw [if_neg (by exact hrecheck)]
      · exact fun _ _ => rfl
      · exact ⟨fun hnone => ⟨hnone, fun _ hearlier =>
          absurd hearlier (Nat.not_lt_zero _)⟩, fun hnone => hnone.1⟩
      · exact fun hout => hout.resolve_left (Nat.lt_irrefl 0)
    · refine .inr ⟨_, _, 0, hsend, ?_⟩
      constructor
      · exact Nat.succ_pos _
      · simp [PumpReading.breaksAt, hfailed]
      · exact fun _ hearlier => absurd hearlier (Nat.not_lt_zero _)
      · exact (append_nil _).symm
      · rw [if_pos (by exact hrecheck)]
      · exact fun _ hblocked => absurd hrecheck hblocked
      · cases visible <;>
          exact ⟨fun hnone => ⟨hnone, fun _ hearlier =>
            absurd hearlier (Nat.not_lt_zero _)⟩, fun hnone => hnone.1⟩
      · intro hout
        have hne := hout.resolve_left (Nat.lt_irrefl 0)
        cases visible with
        | false => exact hne
        | true => exact fun hnil => hne (append_eq_nil_iff.mp hnil).1
    · have hpasses : reading.breaksAt index = false := by
        simp [PumpReading.breaksAt, hrecheck, hsent]
      rw [hsend]
      rcases ih true (index + 1) _ _ with ⟨result, wire', ids, hok, hall, hno⟩ |
        ⟨error, wire', place, herror, hbroke⟩
      · refine .inl ⟨result, wire', id :: ids, hok, ?_, ?_⟩
        · constructor
          · exact congrArg (· + 1) hall.length
          · rw [hall.ordinals, append_assoc]
            rfl
          · rw [hall.messages, append_assoc]
            rfl
          · rw [hall.visible]
            exact (Bool.or_true _).symm
          · rw [hall.out, append_assoc]
            rfl
        · intro place hplace
          cases place with
          | zero => exact hpasses
          | succ place =>
            rw [Nat.add_comm place 1, ← Nat.add_assoc]
            exact hno place (Nat.lt_of_succ_lt_succ hplace)
      · refine .inr ⟨error, wire', place + 1, herror, ?_⟩
        have hshift (earlier : Nat) :
            index + (earlier + 1) = index + 1 + earlier := by
          omega
        constructor
        · exact Nat.succ_lt_succ hbroke.inside
        · rw [hshift]
          exact hbroke.breaks
        · intro earlier hearlier
          cases earlier with
          | zero => exact hpasses
          | succ earlier =>
            rw [hshift]
            exact hbroke.passed earlier (Nat.lt_of_succ_lt_succ hearlier)
        · rw [hbroke.ordinals, append_assoc]
          rfl
        · rw [hshift]
          exact hbroke.category
        · exact fun hzero => absurd hzero (Nat.succ_ne_zero _)
        · rw [hbroke.receipts, append_eq_nil_iff,
            replicate_eq_nil_iff, hcount, and_assoc]
          refine and_congr_right fun _ => ?_
          constructor
          · rintro ⟨hfirst, hothers⟩ earlier hearlier
            cases earlier with
            | zero => exact hfirst
            | succ earlier =>
              rw [hshift]
              exact hothers earlier (Nat.lt_of_succ_lt_succ hearlier)
          · intro hnone
            refine ⟨hnone 0 (Nat.succ_pos _), ?_⟩
            intro earlier hearlier
            rw [← hshift]
            exact hnone (earlier + 1) (Nat.succ_lt_succ hearlier)
        · exact fun _ => hbroke.out (.inr (append_ne_nil_of_right_ne_nil _
            (cons_ne_nil _ _)))

/-- Receipts are of messages that are out, all along the send. -/
theorem sendPlanned_backed (reading : PumpReading) (target : DeliveryTarget)
    (firstSent : Bool) (index : Nat) (bubbles : List PlannedBubble)
    (before : BubbleSendResult) (hwire : wire.Backed) :
    (sendPlanned (reading.sendOptions target) firstSent index bubbles before
      wire).2.Backed := by
  induction bubbles generalizing firstSent index before wire with
  | nil => exact hwire
  | cons bubble rest ih =>
    rcases sendPlanned_cons reading target firstSent index bubble rest before
        wire with ⟨_, _, hsend⟩ | ⟨visible, _, _, hsend⟩ |
      ⟨id, count, _, _, _, hsend⟩
    · rw [hsend]
      exact hwire
    · rw [hsend]
      cases visible with
      | false => exact hwire
      | true => exact fun receipt hreceipt =>
        mem_append_left _ (hwire receipt hreceipt)
    · rw [hsend]
      refine ih true (index + 1) _ ?_
      intro receipt hreceipt
      rcases mem_append.mp hreceipt with hold | hnew
      · exact mem_append_left _ (hwire receipt hold)
      · obtain ⟨_, rfl⟩ := mem_replicate.mp hnew
        exact mem_append_right _ mem_cons_self

/-! What is reported of a delivery. -/

/-- A completed delivery has each planned bubble out and receipted; a failure
after the dispatch was marked has nothing out, or a receipted message. -/
structure DeliveryReport.Truthful (report : DeliveryReport) : Prop where
  completed : report.finalized = some .complete →
    List.Forall₂ (fun bubble message => ∃ id,
      message = OutMessage.mk bubble.ordinal (some id) ∧
        ⟨bubble.ordinal, id⟩ ∈ report.wire.receipts)
      report.planned report.wire.out
  failed : report.dispatchStarted = true →
    report.finalized = some .sendFailure →
      report.wire.out = [] ∨ ∃ receipt ∈ report.wire.receipts,
        ⟨receipt.ordinal, some receipt.discordMessageId⟩ ∈ report.wire.out

/-- The job of the delivery marks its dispatch. -/
def FulfillmentDelivery.dispatches (delivery : FulfillmentDelivery)
    (reading : PumpReading) : Prop :=
  (deliveryTarget delivery.destination).enabled reading = true ∧
    reading.channelRaised = false ∧ delivery.allBubbles ≠ [] ∧
    reading.recheck = .ok ∧ reading.mark = .ok

/-- A send breaks off after bubbles that went out, with the receipt of none of
them stored. -/
def FulfillmentDelivery.breaksUnreceipted (delivery : FulfillmentDelivery)
    (reading : PumpReading) : Prop :=
  delivery.dispatches reading ∧
    ∃ place < delivery.sentBubbles.length, 0 < place ∧
      (∀ earlier < place, reading.breaksAt earlier = false ∧
        stores (reading.receipt earlier) = false) ∧
      reading.breaksAt place = true

theorem sentBubbles_ne_nil (hbubbles : delivery.allBubbles ≠ []) :
    delivery.sentBubbles ≠ [] := by
  unfold FulfillmentDelivery.sentBubbles
  split
  · intro hnil
    rcases take_eq_nil_iff.mp hnil with hcap | hnone
    · exact absurd hcap (by decide)
    · exact hbubbles hnone
  · exact hbubbles

theorem sendBubbles_of_ne_nil (reading : PumpReading) (target : DeliveryTarget)
    (hbubbles : bubbles ≠ []) (wire : Wire) :
    sendBubbles bubbles (reading.sendOptions target) wire =
      sendPlanned (reading.sendOptions target) false 0 bubbles {} wire := by
  unfold sendBubbles
  rw [if_neg (fun hempty => hbubbles hempty.1)]
  rcases sendPlanned (reading.sendOptions target) false 0 bubbles {} wire
    with ⟨_ | _, _⟩
  · rfl
  · dsimp only
    rw [if_neg hbubbles]

theorem finalizeThrown_ne_complete (thrown : Thrown) (dispatchStarted : Bool) :
    finalizeThrown thrown dispatchStarted ≠ some .complete := by
  unfold finalizeThrown
  cases thrown with
  | delivery =>
    dsimp only
    repeat' split
    all_goals decide
  | generic => cases dispatchStarted <;> simp

/-- A job whose recheck or whose mark fails puts nothing on the wire. -/
theorem dispatchJob_blocked (reservationId : Nat) (target : DeliveryTarget)
    (bubbles : List PlannedBubble)
    (hblocked : reading.recheck ≠ .ok ∨ reading.mark ≠ .ok) :
    ∃ thrown, dispatchJob reservationId target bubbles reading =
      ⟨.error thrown, {}, false⟩ := by
  unfold dispatchJob
  cases hrecheck : reading.recheck with
  | refused | raised => exact ⟨_, rfl⟩
  | ok =>
    cases hmark : reading.mark with
    | notOk => exact ⟨_, rfl⟩
    | raised => exact ⟨_, rfl⟩
    | ok => exact absurd hmark (hblocked.resolve_left (by simp [hrecheck]))

/-- A delivery whose dispatch is not marked is not completed. -/
theorem fulfillDelivery_undispatched (hnot : ¬ delivery.dispatches reading) :
    (fulfillDelivery delivery reading).dispatchStarted = false ∧
      (fulfillDelivery delivery reading).finalized ≠ some .complete := by
  unfold fulfillDelivery
  dsimp only
  by_cases henabled : (deliveryTarget delivery.destination).enabled reading = false
  · rw [if_pos henabled]
    exact ⟨rfl, by decide⟩
  rw [if_neg henabled]
  by_cases hchannel : reading.channelRaised = true
  · rw [if_pos hchannel]
    exact ⟨rfl, by decide⟩
  rw [if_neg hchannel]
  by_cases hbubbles : delivery.allBubbles = []
  · rw [if_pos hbubbles]
    exact ⟨rfl, by decide⟩
  rw [if_neg hbubbles]
  have hblocked : reading.recheck ≠ .ok ∨ reading.mark ≠ .ok := by
    by_contra hmarked
    rw [not_or, not_not, not_not] at hmarked
    exact hnot ⟨by simpa using henabled, by simpa using hchannel, hbubbles,
      hmarked⟩
  obtain ⟨thrown, hjob⟩ := dispatchJob_blocked delivery.reservationId
    (deliveryTarget delivery.destination) delivery.sentBubbles hblocked
  rw [hjob]
  exact ⟨rfl, finalizeThrown_ne_complete thrown false⟩

/-- A dispatched delivery is reported by how its bubbles went. -/
theorem fulfillDelivery_dispatched (hdispatches : delivery.dispatches reading) :
    fulfillDelivery delivery reading =
      match sendPlanned
          (reading.sendOptions (deliveryTarget delivery.destination)) false 0
          delivery.sentBubbles {} {} with
      | (.error error, wire) =>
        { planned := delivery.sentBubbles, wire, dispatchStarted := true
          finalized := finalizeThrown (.delivery error) true }
      | (.ok result, wire) =>
        { planned := delivery.sentBubbles, dispatchStarted := true
          wire := (finalizeSent result reading wire).2
          finalized := (finalizeSent result reading wire).1 } := by
  obtain ⟨henabled, hchannel, hbubbles, hrecheck, hmark⟩ := hdispatches
  unfold fulfillDelivery dispatchJob
  dsimp only
  rw [if_neg (by simp [henabled]), if_neg (by simp [hchannel]),
    if_neg hbubbles, hrecheck, hmark]
  rw [sendBubbles_of_ne_nil _ _ (sentBubbles_ne_nil hbubbles)]
  rcases sendPlanned (reading.sendOptions _) false 0 delivery.sentBubbles {} {}
    with ⟨_ | _, _⟩ <;> rfl

/-- What was sent is completed only with every receipt stored, and it is no
failure. -/
theorem finalizeSent_cases {result : BubbleSendResult} (reading : PumpReading)
    (wire : Wire) (hvisible : result.anySubstantiveContentVisible = true) :
    (finalizeSent result reading wire).2.out = wire.out ∧
      (finalizeSent result reading wire).1 ≠ some .sendFailure ∧
      ((finalizeSent result reading wire).1 = some .complete →
        ∀ receipt ∈ result.receipts,
          receipt ∈ (finalizeSent result reading wire).2.receipts) := by
  obtain ⟨hout, _, hall⟩ :=
    persistAll_wire reading.receiptAgain 0 result.receipts wire
  unfold finalizeSent
  rw [if_neg (by simp [hvisible])]
  dsimp only
  by_cases hfailures : 0 <
      (persistAll reading.receiptAgain 0 result.receipts wire).1
  · rw [if_pos hfailures]
    refine ⟨hout, ?_, ?_⟩
    · split <;> simp
    · intro hcomplete
      split at hcomplete <;> cases hcomplete
  · rw [if_neg hfailures]
    have hnone := Nat.eq_zero_of_not_pos hfailures
    split
    · exact ⟨hout, by simp, by simp⟩
    · split
      · exact ⟨hout, by simp, by simp⟩
      · exact ⟨hout, by simp, fun _ => hall hnone⟩

/-- The messages of sent bubbles, each with its receipt. -/
theorem forall₂_sent {ids : List MessageId} {receipts : List Receipt}
    (hlength : ids.length = bubbles.length)
    (hreceipts : ∀ receipt ∈ List.zipWith Receipt.mk
      (bubbles.map (·.ordinal)) ids, receipt ∈ receipts) :
    List.Forall₂ (fun bubble message => ∃ id,
        message = OutMessage.mk bubble.ordinal (some id) ∧
          ⟨bubble.ordinal, id⟩ ∈ receipts)
      bubbles (List.zipWith (fun (bubble : PlannedBubble) id =>
        ⟨bubble.ordinal, some id⟩) bubbles ids) := by
  induction bubbles generalizing ids with
  | nil => exact List.Forall₂.nil
  | cons _ _ ih =>
    cases ids with
    | nil => cases hlength
    | cons id =>
      refine List.Forall₂.cons ⟨id, rfl, ?_⟩ (ih (Nat.succ.inj hlength) ?_)
      · exact hreceipts _ mem_cons_self
      · exact fun receipt hreceipt =>
          hreceipts receipt (mem_cons_of_mem _ hreceipt)

/-- Where the send broke off, the report is truthful unless bubbles went out
before, with the receipt of none stored. -/
theorem finalizeThrown_brokeOff {error : DeliverySendError} {place : Nat}
    (hbroke : BrokeOff reading 0 bubbles {} {} error wire place)
    (hbacked : wire.Backed) :
    (finalizeThrown (.delivery error) true = some .sendFailure →
      wire.out = [] ∨ ∃ receipt ∈ wire.receipts,
        ⟨receipt.ordinal, some receipt.discordMessageId⟩ ∈ wire.out) ↔
    ¬ (0 < place ∧ ∀ earlier < place,
      stores (reading.receipt earlier) = false) := by
  have hordinals := hbroke.ordinals
  have hreceipts := hbroke.receipts
  simp only [Nat.zero_add, nil_append, true_and] at hordinals hreceipts
  have hinside := hbroke.inside
  constructor
  · rintro htruthful ⟨hplace, hunstored⟩
    have hnone := hreceipts.mpr hunstored
    have hfailure : finalizeThrown (.delivery error) true =
        some .sendFailure := by
      unfold finalizeThrown
      dsimp only
      rw [if_pos]
      rw [hordinals, ne_eq, map_eq_nil_iff, take_eq_nil_iff]
      rintro (hzero | hnil)
      · exact absurd hzero (Nat.ne_of_gt hplace)
      · rw [hnil] at hinside
        cases hinside
    rcases htruthful hfailure with hout | ⟨_, hreceipt, _⟩
    · exact hbroke.out (.inl hplace) hout
    · rw [hnone] at hreceipt
      cases hreceipt
  · intro hcovered hfailure
    rcases Nat.eq_zero_or_pos place with hzero | hplace
    · left
      subst hzero
      by_cases hrecheck : reading.bubbleRecheck 0 = .ok
      · -- the first send failed: its visibility is unknown and nothing is told
        have hcategory := hbroke.category
        rw [if_pos hrecheck] at hcategory
        simp [finalizeThrown, hordinals, hcategory] at hfailure
      · rw [hbroke.blocked rfl hrecheck]
    · right
      have hstored : wire.receipts ≠ [] := fun hnone =>
        hcovered ⟨hplace, hreceipts.mp hnone⟩
      obtain ⟨receipt, hreceipt⟩ := exists_mem_of_ne_nil _ hstored
      exact ⟨receipt, hreceipt, hbacked receipt hreceipt⟩

/-- What the pump reports of a delivery is truthful exactly unless its send
breaks off with nothing receipted of what went out. -/
theorem fulfillDelivery_truthful_iff (delivery : FulfillmentDelivery)
    (reading : PumpReading) :
    (fulfillDelivery delivery reading).Truthful ↔
      ¬ delivery.breaksUnreceipted reading := by
  by_cases hdispatches : delivery.dispatches reading
  swap
  · obtain ⟨hstarted, hnot⟩ := fulfillDelivery_undispatched hdispatches
    refine ⟨fun _ hbreaks => hdispatches hbreaks.1, fun _ => ⟨?_, ?_⟩⟩
    · exact fun hcomplete => absurd hcomplete hnot
    · intro hmarked
      rw [hstarted] at hmarked
      cases hmarked
  have hbubbles := sentBubbles_ne_nil hdispatches.2.2.1
  have hbacked := sendPlanned_backed reading
    (deliveryTarget delivery.destination) false 0 delivery.sentBubbles {}
    (show Wire.Backed {} from fun _ hreceipt => absurd hreceipt not_mem_nil)
  rw [fulfillDelivery_dispatched hdispatches]
  rcases sendPlanned_cases reading (deliveryTarget delivery.destination) false 0
      delivery.sentBubbles {} {} with ⟨result, wire, _, hsend, hall, hpassed⟩ |
    ⟨error, wire, place, hsend, hbroke⟩
  · rw [hsend]
    have hvisible : result.anySubstantiveContentVisible = true := by
      rw [hall.visible]
      simpa using hbubbles
    obtain ⟨hout, hnot, hstored⟩ := finalizeSent_cases reading wire hvisible
    refine ⟨?_, fun _ => ⟨?_, fun _ hfailure => absurd hfailure hnot⟩⟩
    · rintro _ ⟨_, place, hinside, _, _, hbreaks⟩
      have hpasses := hpassed place hinside
      rw [Nat.zero_add, hbreaks] at hpasses
      cases hpasses
    · intro hcomplete
      rw [hout, hall.out]
      refine forall₂_sent hall.length ?_
      have hreceipts := hstored hcomplete
      unfold BubbleSendResult.receipts at hreceipts
      rw [hall.ordinals, hall.messages] at hreceipts
      exact hreceipts
  · rw [hsend] at hbacked ⊢
    have hiff := finalizeThrown_brokeOff hbroke hbacked
    constructor
    · rintro ⟨_, hfailed⟩ ⟨_, other, _, hpos, hearlier, hbreaks⟩
      -- the place where the send broke off is the first that breaks
      have hsame : other = place := by
        have hfirst := hbroke.breaks
        rw [Nat.zero_add] at hfirst
        rcases Nat.lt_trichotomy other place with hlt | heq | hlt
        · have hpasses := hbroke.passed other hlt
          rw [Nat.zero_add, hbreaks] at hpasses
          cases hpasses
        · exact heq
        · rw [(hearlier place hlt).1] at hfirst
          cases hfirst
      subst hsame
      exact hiff.mp (hfailed rfl) ⟨hpos, fun earlier hlt =>
        (hearlier earlier hlt).2⟩
    · intro hunbroken
      refine ⟨fun hcomplete => absurd hcomplete
        (finalizeThrown_ne_complete (.delivery error) true), fun _ => ?_⟩
      refine hiff.mpr fun hcovered => hunbroken ⟨hdispatches, place,
        hbroke.inside, hcovered.1, ?_, ?_⟩
      · intro earlier hlt
        have hpasses := hbroke.passed earlier hlt
        rw [Nat.zero_add] at hpasses
        exact ⟨hpasses, hcovered.2 earlier hlt⟩
      · have hbreaks := hbroke.breaks
        rw [Nat.zero_add] at hbreaks
        exact hbreaks

/-- A drain reports truthfully exactly when none of the deliveries that it works
on breaks off with nothing receipted of what went out. -/
theorem drain_truthful_iff
    (deliveries : List (FulfillmentDelivery × PumpReading)) :
    (∀ report ∈ drainPendingDeliveries deliveries, report.Truthful) ↔
      ∀ work ∈ deliveries, work.2.inFlight = false →
        ¬ work.1.breaksUnreceipted work.2 := by
  constructor
  · intro hreports work hwork hfree
    refine (fulfillDelivery_truthful_iff work.1 work.2).mp (hreports _ ?_)
    exact List.mem_filterMap.mpr ⟨work, hwork, by simp [hfree]⟩
  · intro hunbroken _ hreport
    obtain ⟨work, hwork, hreported⟩ := List.mem_filterMap.mp hreport
    cases hfree : work.2.inFlight with
    | true => simp [hfree] at hreported
    | false =>
      simp only [hfree, Bool.false_eq_true, if_false,
        Option.some.injEq] at hreported
      rw [← hreported]
      exact (fulfillDelivery_truthful_iff work.1 work.2).mpr
        (hunbroken work hwork hfree)

/-- Two bubbles: the first goes out and none of its three receipts is stored,
then the second is refused, and the reservation is reported as failed. -/
theorem drain_untruthful :
    ¬ ∀ report ∈ drainPendingDeliveries
        [({ reservationId := 7, draftText := "", destination := .absent
            bubbles := [⟨0, "first"⟩, ⟨1, "second"⟩] },
          { send := fun _ => .sent ⟨"m", by decide⟩
            receipt := fun _ _ => .failed
            bubbleRecheck := fun index =>
              if index = 0 then .ok else .refused "stale_generation" })],
      report.Truthful := by
  intro htruthful
  rcases (htruthful _ List.mem_cons_self).failed (by decide) (by decide)
    with hout | ⟨_, hreceipt, _⟩
  · revert hout
    decide
  · exact absurd hreceipt List.not_mem_nil

end CognitiveSidecar.Fulfillment
