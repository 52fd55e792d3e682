/-
Runs of the effect ledger: what one call changes, the states a receipt allows,
and what holds after every sequence of calls.
-/
import CognitiveSidecar.CycleInbox
import CognitiveSidecar.EffectLedger
import CognitiveSidecar.Lib.Run

namespace CognitiveSidecar

variable {id : String}

open Option Relational

/-- What may become of a stored receipt: nothing, or a final outcome in place
of the one in progress, under the same keys. -/
def ReceiptDescends (row row' : ReceiptRow) : Prop :=
  row' = row ∨
    (row.outcome = .inProgress ∧ row'.outcome ≠ .inProgress ∧
      row' = row.promotedBy row')

theorem ReceiptDescends.trans {row row' row'' : ReceiptRow}
    (hfirst : ReceiptDescends row row') (hsecond : ReceiptDescends row' row'') :
    ReceiptDescends row row'' := by
  rcases hsecond with rfl | ⟨hopen, hfinal, hkeys⟩
  · exact hfirst
  · rcases hfirst with rfl | ⟨_, hclosed, _⟩
    · exact .inr ⟨hopen, hfinal, hkeys⟩
    · exact absurd hopen hclosed

/-- The effect as it was, or marked unknown while it was in flight. -/
def Marks (selected : String → Prop) (row row' : EffectRow) : Prop :=
  row' = row ∨
    (selected row.effectId ∧ row.state = .inFlight ∧
      row' = row.inState .unknown)

theorem Marks.refl {selected : String → Prop} (row : EffectRow) :
    Marks selected row row := .inl rfl

/-- The state that the stored receipt of an effect gives it. -/
def storedState (ledger : EffectLedger) (effectId : String) : InFlightState :=
  ((getEffectReceipt ledger effectId).map effectStateForReceipt).getD .unknown

/-- A receipt is presented for an effect. -/
def EffectOp.presents (op : EffectOp) (effectId : String) : Prop :=
  (∃ receipt, op = .recordEffectReceipt receipt ∧
    receipt.effectId = effectId) ∨ op = .markInFlightReceipted effectId

/-- An effect may be marked unknown. -/
def EffectOp.marks (op : EffectOp) (effectId : String) : Prop :=
  op = .markInFlightUnknown effectId ∨ op = .recoverInFlight

/-- A receipt has been presented for one effect: the stored receipt may have
been replaced by a final one, and the effect has the state that it gives. -/
structure Presented (effectId : String) (s s' : EffectLedger) : Prop where
  others : ∀ id, id ≠ effectId → s'.receipts.get? id = s.receipts.get? id
  kept : ∀ row, s.receipts.get? effectId = some row →
    ∃ row', s'.receipts.get? effectId = some row' ∧ ReceiptDescends row row'
  effects : ∀ id, s'.effects.get? id = (s.effects.get? id).map fun row =>
    if row.effectId = effectId then row.inState (storedState s' effectId)
    else row
  resolved : ∀ row, s.effects.get? effectId = some row →
    row.state = .receipted → storedState s' effectId = .receipted

/-- What one call changes. -/
inductive EffectChange (op : EffectOp) (s : EffectLedger) :
    EffectLedger → Prop
  | unchanged {s' : EffectLedger} (heffects : s'.effects = s.effects)
      (hreceipts : s'.receipts = s.receipts) : EffectChange op s s'
  | begun {s' : EffectLedger} (row : EffectRow) (wakeId : String)
      (hop : ∃ db input nowMs, op = .putInFlight db input nowMs)
      (hinsert : s.effects.insert? row = some s'.effects)
      (hreceipts : s'.receipts = s.receipts)
      (hstate : row.state = .inFlight) (hwake : row.wakeId = some wakeId)
      (hfree : s.getUnresolvedForWake wakeId = none) : EffectChange op s s'
  | marked {s' : EffectLedger}
      (heffects : Table.Rewrites (Marks op.marks) s.effects s'.effects)
      (hreceipts : s'.receipts = s.receipts) : EffectChange op s s'
  | presented {s' : EffectLedger} (effectId : String)
      (hpresented : Presented effectId s s') : EffectChange op s s'

/-- One unresolved effect for each wake, and a resolved effect has the receipt
that resolved it. -/
structure EffectsSound (s : EffectLedger) : Prop where
  occupancy : EffectLedger.WakeIndex s.effects
  backed : ∀ id row, s.effects.get? id = some row → row.state = .receipted →
    ∃ receipt, s.receipts.get? id = some receipt ∧
      effectStateForReceipt receipt = .receipted

theorem EffectRow.isUnresolved_iff {row : EffectRow} :
    row.isUnresolved = true ↔ row.state ≠ .receipted := by
  cases hstate : row.state <;> simp [EffectRow.isUnresolved, hstate]

/-- A receipt in progress resolves nothing. -/
theorem effectStateForReceipt_receipted {receipt : ReceiptRow}
    (hstate : effectStateForReceipt receipt = .receipted) :
    receipt.outcome ≠ .inProgress := by
  intro hopen
  unfold effectStateForReceipt at hstate
  rw [hopen] at hstate
  split at hstate <;> cases hstate

theorem effectStateForReceipt_inFlight {receipt : ReceiptRow}
    (hstate : effectStateForReceipt receipt = .inFlight) :
    receipt.outcome = .inProgress := by
  unfold effectStateForReceipt at hstate
  split at hstate
  · cases hstate
  · cases houtcome : receipt.outcome <;> rw [houtcome] at hstate
    case failed =>
      dsimp only at hstate
      split at hstate <;> cases hstate
    all_goals cases hstate

theorem storedState_of_receipt {s : EffectLedger} {receipt : ReceiptRow}
    (hreceipt : s.receipts.get? id = some receipt) :
    storedState s id = effectStateForReceipt receipt := by
  simp [storedState, getEffectReceipt, hreceipt]

/-- Rows that keep their wake and are not reopened keep the index. -/
theorem wakeIndex_rewrites {t t' : Table EffectRow}
    (hindex : EffectLedger.WakeIndex t)
    (hrel : Table.Rewrites (fun row row' => row'.effectId = row.effectId ∧
      row'.wakeId = row.wakeId ∧
      (row'.isUnresolved = true → row.isUnresolved = true)) t t') :
    EffectLedger.WakeIndex t' := by
  intro _ hrow _ hother hopen hopen' hwake hsame
  obtain ⟨old, hold, hid, holdWake, hwas⟩ :=
    hrel.backward (get?_key hrow)
  obtain ⟨old', hold', hid', holdWake', hwas'⟩ :=
    hrel.backward (get?_key hother)
  rw [hid, hid']
  exact hindex old (mem_of_get? hold) old' (mem_of_get? hold')
    (hwas hopen) (hwas' hopen') (by rw [← holdWake]; exact hwake)
    (by rw [← holdWake, ← holdWake']; exact hsame)

theorem wakeIndex_unresolved {t : Table EffectRow} {id' wakeId : String}
    {row row' : EffectRow} (hindex : EffectLedger.WakeIndex t)
    (hrow : t.get? id = some row) (hrow' : t.get? id' = some row')
    (hopen : row.isUnresolved = true) (hopen' : row'.isUnresolved = true)
    (hwake : row.wakeId = some wakeId) (hwake' : row'.wakeId = some wakeId) :
    id = id' := by
  have hsame := hindex row (mem_of_get? hrow) row'
    (mem_of_get? hrow') hopen hopen' (by rw [hwake]; simp)
    (by rw [hwake, hwake'])
  have hid : row.effectId = id := key_of_get? hrow
  have hid' : row'.effectId = id' := key_of_get? hrow'
  rw [← hid, ← hid', hsame]

theorem getUnresolvedForWake_eq_none {s : EffectLedger} {wakeId : String}
    {row : EffectRow} (hfree : s.getUnresolvedForWake wakeId = none)
    (hrow : s.effects.get? id = some row) (hwake : row.wakeId = some wakeId) :
    row.isUnresolved = false := by
  have hno := List.find?_eq_none.mp hfree row (mem_of_get? hrow)
  simpa [hwake] using hno

/-- The `UPDATE` of a state goes through unless it reopens the effect. -/
theorem setState_ok {s : EffectLedger} {state : InFlightState}
    (hindex : EffectLedger.WakeIndex s.effects)
    (hresolved : ∀ row, s.effects.get? id = some row →
      row.state = .receipted → state = .receipted) :
    s.setState id (fun _ => true) state =
      .ok { s with
        effects := s.effects.update
          (fun row => decide (row.effectId = id) && true)
          (·.inState state) (EffectRow.inState_key · state) } := by
  unfold EffectLedger.setState
  dsimp only
  rw [require_pos]
  · rfl
  refine wakeIndex_rewrites hindex ?_
  refine Table.rewrites_update _ ?_ fun row => ⟨rfl, rfl, fun hopen => hopen⟩
  intro id' row hrow hselected
  refine ⟨rfl, rfl, ?_⟩
  intro hopen
  rw [EffectRow.isUnresolved_iff] at hopen ⊢
  intro hreceipted
  have hid : row.effectId = id := by simpa using hselected
  have hkey : row.effectId = id' := key_of_get? hrow
  exact hopen (hresolved row (by rw [← hid, hkey]; exact hrow) hreceipted)

theorem get?_setState {s after : EffectLedger} {guard : EffectRow → Bool}
    {state : InFlightState} (hok : s.setState id guard state = .ok after) :
    after.receipts = s.receipts ∧ ∀ id',
      after.effects.get? id' = (s.effects.get? id').map fun row =>
        if decide (row.effectId = id) && guard row then row.inState state
        else row := by
  replace hok := passed hok
  cases of_pure hok
  refine ⟨rfl, ?_⟩
  intro _
  rw [get?_update]

section Changes

variable {s s' : EffectLedger}
variable {op : EffectOp}
variable {id : String} {row : EffectRow} {receipt : ReceiptRow}

theorem markInFlightUnknown_marks (selected : String → Prop)
    (hselected : selected id) (hok : markInFlightUnknown s id = .ok (row, s')) :
    Table.Rewrites (Marks selected) s.effects s'.effects ∧
      s'.receipts = s.receipts := by
  obtain ⟨_, hset, hok⟩ := of_bind hok
  obtain ⟨_, _, hok⟩ := of_orFault hok
  obtain ⟨_, rfl⟩ := of_pure_pair hok
  obtain ⟨hreceipts, heffects⟩ := get?_setState hset
  refine ⟨?_, hreceipts⟩
  intro id'
  rw [heffects id']
  cases s.effects.get? id' with
  | none => exact Option.Rel.none
  | some old =>
    refine Option.Rel.some ?_
    dsimp only
    by_cases hmarked : (decide (old.effectId = id) &&
        decide (old.state = .inFlight)) = true
    · rw [if_pos hmarked]
      simp only [Bool.and_eq_true, decide_eq_true_eq] at hmarked
      exact .inr ⟨by rw [hmarked.1]; exact hselected, hmarked.2, rfl⟩
    · rw [if_neg hmarked]
      exact .inl rfl

/-- A marked effect is not marked again. -/
theorem Marks.trans {selected : String → Prop} {row' row'' : EffectRow}
    (hfirst : Marks selected row row') (hsecond : Marks selected row' row'') :
    Marks selected row row'' := by
  rcases hsecond with rfl | ⟨hselected, hopen, rfl⟩
  · exact hfirst
  · rcases hfirst with rfl | ⟨_, _, rfl⟩
    · exact .inr ⟨hselected, hopen, rfl⟩
    · cases hopen

theorem recoverInFlight_marks (selected : String → Prop)
    (hall : ∀ id, selected id) (hok : recoverInFlight s = .ok s') :
    Table.Rewrites (Marks selected) s.effects s'.effects ∧
      s'.receipts = s.receipts := by
  have hstart : Table.Rewrites (Marks selected) s.effects s.effects :=
    Table.Rewrites.refl Marks.refl s.effects
  refine eachOf_preserves (P := fun after =>
    Table.Rewrites (Marks selected) s.effects after.effects ∧
      after.receipts = s.receipts) ?_ hok ⟨hstart, rfl⟩
  intro _ row _ hturn ⟨heffects, hreceipts⟩
  split at hturn
  · obtain ⟨_, hmark⟩ := snd_ok.mp hturn
    obtain ⟨hmarks, hsame⟩ :=
      markInFlightUnknown_marks selected (hall row.effectId) hmark
    exact ⟨Table.Rewrites.trans (fun _ _ _ hfirst hsecond =>
      hfirst.trans hsecond) heffects hmarks, hsame.trans hreceipts⟩
  · cases hturn
    exact ⟨heffects, hreceipts⟩

theorem putInFlight_change [Host] {db : Sidecar} {input : PutInFlightInput}
    {nowMs : Int} (hok : putInFlight db s input nowMs = .ok (row, s')) :
    EffectChange (.putInFlight db input nowMs) s s' := by
  unfold putInFlight at hok
  split at hok
  · obtain ⟨_, rfl⟩ := of_pure_pair hok
    exact .unchanged rfl rfl
  replace hok := passed hok
  obtain ⟨wakeId, _, hok⟩ := of_orFault hok
  obtain ⟨hfree, hok⟩ := of_require hok
  have hidentified : (input.identifiedIn s).2.effects = s.effects ∧
      (input.identifiedIn s).2.receipts = s.receipts := by
    unfold PutInFlightInput.identifiedIn
    split <;> exact ⟨rfl, rfl⟩
  obtain ⟨_, hinsert, hok⟩ := of_orFault hok
  replace hok := passed hok
  obtain ⟨_, rfl⟩ := of_pure_pair hok
  rw [hidentified.1] at hinsert
  exact .begun _ wakeId ⟨db, input, nowMs, rfl⟩ hinsert hidentified.2 rfl rfl
    hfree

/-- A receipt found for an effect is the one stored under its id. -/
theorem existingReceipt_stored {existing : ReceiptRow}
    (hexisting : existingReceipt s receipt = some existing)
    (hsame : existing.effectId = receipt.effectId) :
    s.receipts.get? receipt.effectId = some existing := by
  rcases or_eq_some_iff.mp hexisting with hown | ⟨_, hkey⟩
  · exact hown
  · have hmem : existing ∈ s.receipts.rows := List.mem_of_find?_eq_some hkey
    rw [← hsame]
    exact get?_key hmem

theorem existingReceipt_eq_none (hnone : existingReceipt s receipt = none) :
    s.receipts.get? receipt.effectId = none := by
  exact (or_eq_none_iff.mp hnone).1

/-- Settling an effect by the receipt stored for it. -/
theorem settleOccupancy_presented {mid : EffectLedger} (hsound : EffectsSound s)
    (hid : receipt.effectId = id) (heffects : mid.effects = s.effects)
    (hstored : mid.receipts.get? id = some receipt)
    (hothers : ∀ other, other ≠ id →
      mid.receipts.get? other = s.receipts.get? other)
    (hkept : ∀ row, s.receipts.get? id = some row →
      ReceiptDescends row receipt)
    (hbacked : ∀ row, s.receipts.get? id = some row →
      effectStateForReceipt row = .receipted → row = receipt) :
    Presented id s (settleOccupancy mid receipt).2 := by
  have hresolved : ∀ row, s.effects.get? id = some row →
      row.state = .receipted → effectStateForReceipt receipt = .receipted := by
    intro row hrow hstate
    obtain ⟨old, hold, hreceipted⟩ := hsound.backed id row hrow hstate
    rw [← hbacked old hold hreceipted]
    exact hreceipted
  rw [← heffects] at hresolved
  have hset := setState_ok (by rw [heffects]; exact hsound.occupancy) hresolved
  have hsettled : (settleOccupancy mid receipt).2.receipts = mid.receipts ∧
      ∀ id', (settleOccupancy mid receipt).2.effects.get? id' =
        (mid.effects.get? id').map fun row =>
          if row.effectId = id then
            row.inState (effectStateForReceipt receipt) else row := by
    unfold settleOccupancy updateInFlightOccupancyFromReceipt
    rw [hid, hset]
    simp
  have hstate : storedState (settleOccupancy mid receipt).2 id =
      effectStateForReceipt receipt :=
    storedState_of_receipt (by rw [hsettled.1]; exact hstored)
  refine ⟨?_, ?_, ?_, ?_⟩
  · intro other hother
    rw [hsettled.1]
    exact hothers other hother
  · intro row hrow
    rw [hsettled.1]
    exact ⟨receipt, hstored, hkept row hrow⟩
  · intro id'
    rw [hsettled.2 id', hstate, heffects]
  · intro row hrow hreceipted
    rw [hstate]
    rw [← heffects] at hrow
    exact hresolved row hrow hreceipted

/-- Recording a receipt presents it, unless no receipt is stored for its effect
and none can be. -/
theorem recordEffectReceipt_presented (receipt : ReceiptRow)
    (hsound : EffectsSound s) :
    Presented receipt.effectId s (recordEffectReceipt s receipt).2 ∨
      ((recordEffectReceipt s receipt).2 = s ∧
        s.receipts.get? receipt.effectId = none) := by
  unfold recordEffectReceipt
  cases hexisting : existingReceipt s receipt with
  | some existing =>
    dsimp only
    by_cases hsame : existing.effectId = receipt.effectId
    · left
      have hstored := existingReceipt_stored hexisting hsame
      rw [if_pos hsame]
      by_cases hpromotes : existing.outcome = .inProgress ∧
          receipt.outcome ≠ .inProgress
      · rw [if_pos hpromotes]
        have hpromoted : ∀ id,
            (s.promoteReceipt receipt).receipts.get? id =
              (s.receipts.get? id).map fun row =>
                if row.effectId = receipt.effectId &&
                  row.outcome = .inProgress then row.promotedBy receipt
                else row := fun id =>
          get?_update _ _ _ (ReceiptRow.promotedBy_key · receipt) id
        have hnew : (s.promoteReceipt receipt).receipts.get?
            receipt.effectId = some (existing.promotedBy receipt) := by
          rw [hpromoted, hstored]
          simp [hsame, hpromotes.1]
        have hread : (getEffectReceipt (s.promoteReceipt receipt)
            receipt.effectId).getD existing =
              existing.promotedBy receipt := by
          rw [getEffectReceipt, hnew]
          rfl
        rw [hread]
        refine settleOccupancy_presented hsound hsame rfl hnew ?_ ?_ ?_
        · intro other hother
          rw [hpromoted]
          cases hrow : s.receipts.get? other with
          | none => rfl
          | some row =>
            have hkey : row.effectId = other := key_of_get? hrow
            have hne : row.effectId ≠ receipt.effectId := by
              rw [hkey]
              exact hother
            simp [hne]
        · intro row hrow
          rw [hstored] at hrow
          cases hrow
          exact .inr ⟨hpromotes.1, hpromotes.2, rfl⟩
        · intro row hrow hreceipted
          rw [hstored] at hrow
          cases hrow
          exact absurd hpromotes.1
            (effectStateForReceipt_receipted hreceipted)
      · rw [if_neg hpromotes]
        refine settleOccupancy_presented hsound hsame rfl hstored
          (fun _ _ => rfl) ?_ ?_
        · intro row hrow
          rw [hstored] at hrow
          cases hrow
          exact .inl rfl
        · intro row hrow _
          rw [hstored] at hrow
          exact (some.inj hrow).symm
    · rw [if_neg hsame]
      refine .inr ⟨rfl, ?_⟩
      cases hown : s.receipts.get? receipt.effectId with
      | none => rfl
      | some own =>
        rw [existingReceipt, getEffectReceipt, hown] at hexisting
        cases hexisting
        exact absurd (key_of_get? hown) hsame
  | none =>
    dsimp only
    have hnone := existingReceipt_eq_none hexisting
    split
    · exact .inr ⟨rfl, hnone⟩
    · rename_i inserted hinserted
      left
      replace hinserted := passed hinserted
      obtain ⟨receipts, hinsert, hinserted⟩ := of_orFault hinserted
      cases of_pure hinserted
      refine settleOccupancy_presented hsound rfl rfl ?_ ?_ ?_ ?_
      · rw [get?_insert hinsert]
        exact if_pos rfl
      · intro other hother
        rw [get?_insert hinsert]
        exact if_neg hother
      · intro row hrow
        rw [hnone] at hrow
        cases hrow
      · intro row hrow
        rw [hnone] at hrow
        cases hrow

/-- Reconciling an effect presents the receipt stored for it. -/
theorem markInFlightReceipted_presented (id : String)
    (hsound : EffectsSound s) :
    Presented id s (commit s (Prod.snd <$> markInFlightReceipted s id)) ∨
      (commit s (Prod.snd <$> markInFlightReceipted s id) = s ∧
        s.effects.get? id = none) := by
  have hresolved : ∀ row, s.effects.get? id = some row →
      row.state = .receipted → storedState s id = .receipted := by
    intro row hrow hstate
    obtain ⟨_, hreceipt, hreceipted⟩ := hsound.backed id row hrow hstate
    rw [storedState_of_receipt hreceipt]
    exact hreceipted
  have hset := setState_ok hsound.occupancy hresolved
  obtain ⟨_, hupdated⟩ := get?_setState hset
  unfold markInFlightReceipted
  dsimp only
  rw [show ((getEffectReceipt s id).map effectStateForReceipt).getD .unknown =
    storedState s id from rfl, hset, ok_bind]
  unfold EffectLedger.getInFlightByEffectId
  rw [hupdated id]
  cases hrow : s.effects.get? id with
  | none => exact .inr ⟨rfl, rfl⟩
  | some =>
    left
    refine ⟨fun _ _ => rfl, fun old hold => ⟨old, hold, .inl rfl⟩, ?_,
      hresolved⟩
    intro id'
    refine (hupdated id').trans ?_
    simp only [Bool.and_true, decide_eq_true_eq]
    rfl

/-- Every call changes the ledger in one of the ways above. -/
theorem effectStep_change [Host] (op : EffectOp) (hsound : EffectsSound s) :
    EffectChange op s (effectStep op s) := by
  cases op with
  | putInFlight =>
    refine commit_preserves (P := EffectChange _ s) (.unchanged rfl rfl) ?_
    intro _ hok
    obtain ⟨_, hput⟩ := snd_ok.mp hok
    exact putInFlight_change hput
  | recordEffectReceipt receipt =>
    rcases recordEffectReceipt_presented receipt hsound with
      hpresented | ⟨hsame, _⟩
    · exact .presented receipt.effectId hpresented
    · exact .unchanged (congrArg EffectLedger.effects hsame)
        (congrArg EffectLedger.receipts hsame)
  | markInFlightUnknown id =>
    refine commit_preserves (P := EffectChange _ s) (.unchanged rfl rfl) ?_
    intro _ hok
    obtain ⟨_, hmark⟩ := snd_ok.mp hok
    obtain ⟨heffects, hreceipts⟩ := markInFlightUnknown_marks
      (EffectOp.markInFlightUnknown id).marks (.inl rfl) hmark
    exact .marked heffects hreceipts
  | markInFlightReceipted id =>
    rcases markInFlightReceipted_presented id hsound with
      hpresented | ⟨hsame, _⟩
    · exact .presented id hpresented
    · exact .unchanged (congrArg EffectLedger.effects hsame)
        (congrArg EffectLedger.receipts hsame)
  | recoverInFlight =>
    refine commit_preserves (P := EffectChange _ s) (.unchanged rfl rfl) ?_
    intro _ hok
    obtain ⟨heffects, hreceipts⟩ := recoverInFlight_marks
      EffectOp.recoverInFlight.marks (fun _ => .inr rfl) hok
    exact .marked heffects hreceipts

/-- A change reopens nothing that was resolved, and resolves nothing without a
receipt. -/
theorem EffectChange.sound (hchange : EffectChange op s s')
    (hsound : EffectsSound s) : EffectsSound s' := by
  cases hchange with
  | unchanged heffects hreceipts =>
    constructor
    · rw [heffects]
      exact hsound.occupancy
    · rw [heffects, hreceipts]
      exact hsound.backed
  | begun row wakeId _ hinsert hreceipts hstate hwake hfree =>
    constructor
    · intro old hold other hother hopen hopen' hbound hsame
      rcases (mem_insert_iff hinsert).mp hold with hold | rfl <;>
        rcases (mem_insert_iff hinsert).mp hother with hother | rfl
      · exact hsound.occupancy old hold other hother hopen hopen' hbound hsame
      · rw [getUnresolvedForWake_eq_none hfree (get?_key hold)
          (hsame.trans hwake)] at hopen
        cases hopen
      · rw [getUnresolvedForWake_eq_none hfree (get?_key hother)
          (hsame.symm.trans hwake)] at hopen'
        cases hopen'
      · rfl
    · intro id old hold hreceipted
      rcases of_get?_insert hinsert hold with ⟨_, rfl⟩ | ⟨_, hold⟩
      · rw [hstate] at hreceipted
        cases hreceipted
      · rw [hreceipts]
        exact hsound.backed id old hold hreceipted
  | marked heffects hreceipts =>
    constructor
    · refine wakeIndex_rewrites hsound.occupancy ?_
      intro id
      have hid := heffects id
      revert hid
      cases s.effects.get? id <;> cases s'.effects.get? id <;> intro hid <;>
        cases hid
      · exact Option.Rel.none
      · rename_i hmarks
        refine Option.Rel.some ?_
        rcases hmarks with rfl | ⟨_, hopen, rfl⟩
        · exact ⟨rfl, rfl, fun hopen => hopen⟩
        · exact ⟨rfl, rfl, fun _ => by simp [EffectRow.isUnresolved, hopen]⟩
    · intro id row' hrow' hreceipted
      obtain ⟨row, hrow, hmarks⟩ := heffects.backward hrow'
      rw [hreceipts]
      rcases hmarks with rfl | ⟨_, _, rfl⟩
      · exact hsound.backed id _ hrow hreceipted
      · cases hreceipted
  | presented effectId hpresented =>
    obtain ⟨hothers, hkept, heffects, hresolved⟩ := hpresented
    constructor
    · refine wakeIndex_rewrites hsound.occupancy ?_
      intro id
      rw [heffects id]
      cases hrow : s.effects.get? id with
      | none => exact Option.Rel.none
      | some row =>
        refine Option.Rel.some ?_
        dsimp only
        have hkey : row.effectId = id := key_of_get? hrow
        by_cases hid : row.effectId = effectId
        · rw [if_pos hid]
          refine ⟨rfl, rfl, ?_⟩
          intro hopen
          rw [EffectRow.isUnresolved_iff] at hopen ⊢
          intro hreceipted
          rw [← hid, hkey] at hresolved
          refine hopen (Eq.trans ?_ (hresolved row hrow hreceipted))
          rw [← hid, hkey]
          rfl
        · rw [if_neg hid]
          exact ⟨rfl, rfl, fun hopen => hopen⟩
    · intro id row' hrow' hreceipted
      rw [heffects id] at hrow'
      obtain ⟨row, hrow, rfl⟩ := map_eq_some_iff.mp hrow'
      have hkey : row.effectId = id := key_of_get? hrow
      by_cases hid : row.effectId = effectId
      · rw [if_pos hid] at hreceipted
        have hstate : storedState s' effectId = .receipted := hreceipted
        rw [← hkey, hid]
        cases hreceipt : s'.receipts.get? effectId with
        | none =>
          simp [storedState, getEffectReceipt, hreceipt] at hstate
        | some receipt =>
          rw [storedState_of_receipt hreceipt] at hstate
          exact ⟨receipt, rfl, hstate⟩
      · rw [if_neg hid] at hreceipted
        rw [hothers id (by rw [← hkey]; exact hid)]
        exact hsound.backed id row hrow hreceipted

/-- A stored receipt stays, and only an outcome in progress gives way. -/
theorem EffectChange.receipt_forward {row : ReceiptRow}
    (hchange : EffectChange op s s') (hrow : s.receipts.get? id = some row) :
    ∃ row', s'.receipts.get? id = some row' ∧ ReceiptDescends row row' := by
  cases hchange with
  | unchanged _ hreceipts | begun _ _ _ _ hreceipts | marked _ hreceipts =>
    exact ⟨row, by rw [hreceipts, hrow], .inl rfl⟩
  | presented effectId hpresented =>
    obtain ⟨hothers, hkept, _, _⟩ := hpresented
    by_cases hid : id = effectId
    · subst hid
      exact hkept row hrow
    · exact ⟨row, by rw [hothers id hid, hrow], .inl rfl⟩

/-- A resolved effect keeps its row. -/
theorem EffectChange.resolved_stays (hchange : EffectChange op s s')
    (hrow : s.effects.get? id = some row) (hresolved : row.isUnresolved = false) :
    s'.effects.get? id = some row := by
  have hreceipted : row.state = .receipted := by
    by_contra hopen
    rw [EffectRow.isUnresolved_iff.mpr hopen] at hresolved
    cases hresolved
  cases hchange with
  | unchanged heffects => rw [heffects, hrow]
  | begun _ _ _ hinsert => exact get?_insert_of_some hinsert hrow
  | marked heffects =>
    obtain ⟨_, hrow', hmarks⟩ := heffects.forward hrow
    rcases hmarks with rfl | ⟨_, hopen, _⟩
    · exact hrow'
    · rw [hreceipted] at hopen
      cases hopen
  | presented effectId hpresented =>
    obtain ⟨_, _, heffects, hstays⟩ := hpresented
    rw [heffects id, hrow, map_some]
    have hkey : row.effectId = id := key_of_get? hrow
    by_cases hid : row.effectId = effectId
    · rw [if_pos hid, hstays row (by rw [← hid, hkey]; exact hrow) hreceipted,
        ← hreceipted]
      rfl
    · rw [if_neg hid]

/-- The effect has the state that its stored receipt, if any, gives it. -/
def FollowsReceipt (id : String) (s : EffectLedger) : Prop :=
  ∀ row receipt, s.effects.get? id = some row →
    s.receipts.get? id = some receipt →
    row.state = effectStateForReceipt receipt

/-- The call leaves the effect behind its receipt: it marks the effect unknown
while the receipt is in progress, or begins it after its receipt was stored. -/
def LeavesBehind (op : EffectOp) (id : String) (s : EffectLedger) : Prop :=
  ∃ receipt, s.receipts.get? id = some receipt ∧
    ((op.marks id ∧ receipt.outcome = .inProgress) ∨
      ((∃ db input nowMs, op = .putInFlight db input nowMs) ∧
        s.effects.get? id = none))

theorem EffectChange.leaves (hchange : EffectChange op s s')
    (hfollows : FollowsReceipt id s) (hbehind : ¬ FollowsReceipt id s') :
    LeavesBehind op id s := by
  unfold FollowsReceipt at hbehind
  push Not at hbehind
  obtain ⟨row', receipt', hrow', hreceipt', hne⟩ := hbehind
  cases hchange with
  | unchanged heffects hreceipts =>
    rw [heffects] at hrow'
    rw [hreceipts] at hreceipt'
    exact absurd (hfollows row' receipt' hrow' hreceipt') hne
  | begun row _ hop hinsert hreceipts =>
    rw [hreceipts] at hreceipt'
    rw [get?_insert hinsert] at hrow'
    by_cases hid : id = key row
    · refine ⟨receipt', hreceipt', .inr ⟨hop, ?_⟩⟩
      rw [hid]
      exact (insert?_eq_some hinsert).1
    · rw [if_neg hid] at hrow'
      exact absurd (hfollows row' receipt' hrow' hreceipt') hne
  | marked heffects hreceipts =>
    rw [hreceipts] at hreceipt'
    obtain ⟨row, hrow, hmarks⟩ := heffects.backward hrow'
    have hstate := hfollows row receipt' hrow hreceipt'
    rcases hmarks with rfl | ⟨hselected, hopen, _⟩
    · exact absurd hstate hne
    · have hkey : row.effectId = id := key_of_get? hrow
      rw [hopen] at hstate
      exact ⟨receipt', hreceipt', .inl ⟨by rw [← hkey]; exact hselected,
        effectStateForReceipt_inFlight hstate.symm⟩⟩
  | presented effectId hpresented =>
    obtain ⟨hothers, _, heffects, _⟩ := hpresented
    rw [heffects id] at hrow'
    obtain ⟨row, hrow, rfl⟩ := map_eq_some_iff.mp hrow'
    have hkey : row.effectId = id := key_of_get? hrow
    by_cases hid : row.effectId = effectId
    · rw [if_pos hid] at hne
      rw [← hkey, hid] at hreceipt'
      exact absurd (storedState_of_receipt hreceipt') hne
    · rw [if_neg hid] at hne
      rw [hothers id (by rw [← hkey]; exact hid)] at hreceipt'
      exact absurd (hfollows row receipt' hrow hreceipt') hne

theorem Presented.follows (hpresented : Presented id s s') :
    FollowsReceipt id s' := by
  intro _ _ hrow' hreceipt'
  rw [hpresented.effects id] at hrow'
  obtain ⟨row, hrow, rfl⟩ := map_eq_some_iff.mp hrow'
  have hkey : row.effectId = id := key_of_get? hrow
  rw [if_pos hkey]
  exact storedState_of_receipt hreceipt'

/-- A presented receipt brings the effect back to the state it gives. -/
theorem presents_follows [Host] (hsound : EffectsSound s)
    (hpresents : op.presents id) :
    FollowsReceipt id (effectStep op s) := by
  rcases hpresents with ⟨receipt, rfl, rfl⟩ | rfl
  · rcases recordEffectReceipt_presented receipt hsound with
      hpresented | ⟨hsame, hnone⟩
    · exact hpresented.follows
    · intro _ _ _ hstored
      change (recordEffectReceipt s receipt).2.receipts.get? _ = _ at hstored
      rw [hsame, hnone] at hstored
      cases hstored
  · rcases markInFlightReceipted_presented id hsound with
      hpresented | ⟨hsame, hnone⟩
    · exact hpresented.follows
    · intro _ _ hrow _
      change (commit s (Prod.snd <$> markInFlightReceipted s id)).effects.get?
        _ = _ at hrow
      rw [hsame, hnone] at hrow
      cases hrow

end Changes

section Runs

variable [Host]
variable {s : EffectLedger} {id : String}

theorem run_effectsSound (hsound : EffectsSound s) (ops : List EffectOp) :
    EffectsSound (run effectStep s ops) :=
  run_preserves (P := EffectsSound)
    (fun op _ hs => (effectStep_change op hs).sound hs) hsound ops

omit [Host] in
theorem emptyEffects_sound : EffectsSound {} where
  occupancy := by
    intro _ hrow
    cases hrow
  backed := by
    intro _ _ hrow
    cases hrow

theorem run_receipt_forward {row : ReceiptRow} (hsound : EffectsSound s)
    (hrow : s.receipts.get? id = some row) (ops : List EffectOp) :
    ∃ row', (run effectStep s ops).receipts.get? id = some row' ∧
      ReceiptDescends row row' := by
  induction ops generalizing s row with
  | nil => exact ⟨row, hrow, .inl rfl⟩
  | cons op _ ih =>
    have hchange := effectStep_change op hsound
    obtain ⟨_, hmid, hfirst⟩ := hchange.receipt_forward hrow
    obtain ⟨row', hrow', hlast⟩ := ih (hchange.sound hsound) hmid
    exact ⟨row', hrow', hfirst.trans hlast⟩

theorem run_resolved_stays {row : EffectRow} (hsound : EffectsSound s)
    (hrow : s.effects.get? id = some row) (hresolved : row.isUnresolved = false)
    (ops : List EffectOp) :
    (run effectStep s ops).effects.get? id = some row := by
  induction ops generalizing s with
  | nil => exact hrow
  | cons op _ ih =>
    have hchange := effectStep_change op hsound
    exact ih (hchange.sound hsound) (hchange.resolved_stays hrow hresolved)

/-- The effect was left behind its receipt during the run, and no receipt has
been presented for it since. -/
def LeftBehind (id : String) (ops : List EffectOp) : Prop :=
  ∃ before op after, ops = before ++ op :: after ∧
    LeavesBehind op id (run effectStep {} before) ∧
    ∀ later ∈ after, ¬ later.presents id

/-- An effect that does not follow its receipt was left behind it. -/
theorem leftBehind_of_not_follows {ops : List EffectOp}
    (hbehind : ¬ FollowsReceipt id (run effectStep {} ops)) :
    LeftBehind id ops := by
  have hstart : FollowsReceipt id {} := by
    intro _ _ hrow
    cases hrow
  obtain ⟨before, op, after, rfl, hbefore, hafter⟩ :=
    exists_last_leaving_step hstart hbehind
  refine ⟨before, op, after, rfl, ?_, ?_⟩
  · have hsound := run_effectsSound emptyEffects_sound before
    exact (effectStep_change op hsound).leaves hbefore
      (hafter [] after rfl)
  · intro later hlater hpresents
    obtain ⟨first, rest, rfl⟩ := List.append_of_mem hlater
    refine hafter (first ++ [later]) rest (by simp) ?_
    rw [run_append]
    refine presents_follows ?_ hpresents
    exact run_effectsSound
      ((effectStep_change op (run_effectsSound emptyEffects_sound before)).sound
        (run_effectsSound emptyEffects_sound before)) first

/-- What holds of the effects and their receipts after a sequence of calls. -/
structure EffectHistory (ops : List EffectOp) : Prop where
  occupancy : ∀ id id' row row' wakeId,
    (run effectStep {} ops).effects.get? id = some row →
    (run effectStep {} ops).effects.get? id' = some row' →
    row.isUnresolved = true → row'.isUnresolved = true →
    row.wakeId = some wakeId → row'.wakeId = some wakeId → id = id'
  follows : ∀ id row receipt,
    (run effectStep {} ops).effects.get? id = some row →
    (run effectStep {} ops).receipts.get? id = some receipt →
    row.state = effectStateForReceipt receipt ∨
      (row.isUnresolved = true ∧ LeftBehind id ops)
  receipts : ∀ before after, ops = before ++ after → ∀ id receipt,
    (run effectStep {} before).receipts.get? id = some receipt →
    ∃ receipt', (run effectStep {} ops).receipts.get? id = some receipt' ∧
      ReceiptDescends receipt receipt'
  resolved : ∀ before after, ops = before ++ after → ∀ id row,
    (run effectStep {} before).effects.get? id = some row →
    row.isUnresolved = false →
    (run effectStep {} ops).effects.get? id = some row

/-- After every sequence of calls, replays and conflicting receipts included:
a wake has one unresolved effect at most; an effect has the state its stored
receipt gives it, or it is unresolved and was left behind; a stored receipt
changes from one in progress to a final one only; and a resolved effect stays as
it is. -/
theorem effects_follow_receipts (ops : List EffectOp) : EffectHistory ops := by
  have hsound := run_effectsSound emptyEffects_sound ops
  constructor
  · intro _ _ _ _ _ hrow hrow' hopen hopen' hwake hwake'
    exact wakeIndex_unresolved hsound.occupancy hrow hrow' hopen hopen' hwake
      hwake'
  · intro id row receipt hrow hreceipt
    by_cases hstate : row.state = effectStateForReceipt receipt
    · exact Or.inl hstate
    · refine Or.inr ⟨?_, leftBehind_of_not_follows fun hfollows =>
        hstate (hfollows row receipt hrow hreceipt)⟩
      rw [EffectRow.isUnresolved_iff]
      intro hreceipted
      obtain ⟨_, hstored, hresolves⟩ := hsound.backed id row hrow hreceipted
      rw [hreceipt] at hstored
      cases hstored
      exact hstate (hreceipted.trans hresolves.symm)
  · rintro before after rfl _ _ hreceipt
    rw [run_append]
    exact run_receipt_forward (run_effectsSound emptyEffects_sound before)
      hreceipt after
  · rintro before after rfl _ _ hrow hresolved
    rw [run_append]
    exact run_resolved_stays (run_effectsSound emptyEffects_sound before) hrow
      hresolved after

end Runs

section Plain

attribute [local instance] plainHost

/-- The wake of one inbox event. -/
def wokenByMessage : Sidecar :=
  commit {} (Prod.snd <$> appendInboxEvent {}
    { conversationId := "c", kind := "owner_message", createdAtMs := 0 }
    (some "e"))

/-- The effect of that wake reports progress, and its process is lost. -/
def lostInProgress : List EffectOp :=
  [.putInFlight wokenByMessage
    { effectId := some "f", cycleId := "cycle:wake:wake-occurrence:inboxec"
      generation := 1, correlationId := "f", idempotencyKey := "k"
      originEventId := "e" } 1,
    .recordEffectReceipt
      { receiptId := "r", effectId := "f", idempotencyKey := "k"
        outcome := .inProgress, claims := {}, atMs := 2
        dataClassification := .ordinary, secretOmitted := false },
    .recoverInFlight]

/-- The receipt still says in flight, and recovery has marked the effect
unknown. -/
theorem recovered_effect_leaves_receipt :
    ∃ row receipt,
      (run effectStep {} lostInProgress).effects.get? "f" = some row ∧
      (run effectStep {} lostInProgress).receipts.get? "f" = some receipt ∧
      row.state = .unknown ∧ effectStateForReceipt receipt = .inFlight := by
  have hrow : ((run effectStep {} lostInProgress).effects.get? "f").map
      EffectRow.state = some .unknown := by decide +kernel
  have hreceipt : ((run effectStep {} lostInProgress).receipts.get? "f").map
      effectStateForReceipt = some .inFlight := by decide +kernel
  obtain ⟨row, hrow, hunknown⟩ := Option.map_eq_some_iff.mp hrow
  obtain ⟨receipt, hreceipt, hinFlight⟩ := Option.map_eq_some_iff.mp hreceipt
  exact ⟨row, receipt, hrow, hreceipt, hunknown, hinFlight⟩

end Plain

end CognitiveSidecar
