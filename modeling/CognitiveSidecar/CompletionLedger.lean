/-
The effect ledger as completions rely on it: each key is one effect's, a
receipt carries the key of its effect, and what is final stays.
-/
import CognitiveSidecar.Completions
import CognitiveSidecar.EffectRuns

namespace CognitiveSidecar.Completions

open Option Relational

/-- The row of an effect after a change of the ledger: another state at most. -/
structure SameBinding (row row' : EffectRow) : Prop where
  cycleId : row'.cycleId = row.cycleId
  generation : row'.generation = row.generation
  idempotencyKey : row'.idempotencyKey = row.idempotencyKey

theorem SameBinding.refl (row : EffectRow) : SameBinding row row :=
  ⟨rfl, rfl, rfl⟩

/-- Effects stay bound, and final receipts stay as they are. -/
structure LedgerKept (ledger ledger' : EffectLedger) : Prop where
  bound : ∀ id row, ledger.effects.get? id = some row →
    ∃ row', ledger'.effects.get? id = some row' ∧ SameBinding row row'
  final : ∀ id receipt, ledger.receipts.get? id = some receipt →
    receipt.outcome ≠ .inProgress →
    ledger'.receipts.get? id = some receipt

theorem LedgerKept.refl (ledger : EffectLedger) : LedgerKept ledger ledger :=
  ⟨fun _ row hrow => ⟨row, hrow, .refl row⟩, fun _ _ hreceipt _ => hreceipt⟩

/-- What holds of every reachable ledger. -/
structure LedgerSound (ledger : EffectLedger) : Prop where
  effects : EffectsSound ledger
  oneEffect : ∀ id other row row', ledger.effects.get? id = some row →
    ledger.effects.get? other = some row' →
    row.idempotencyKey = row'.idempotencyKey → id = other
  ownKey : ∀ id receipt, ledger.receipts.get? id = some receipt →
    ∃ row, ledger.effects.get? id = some row ∧
      row.idempotencyKey = receipt.idempotencyKey

theorem emptyLedger_sound : LedgerSound {} where
  effects := emptyEffects_sound
  oneEffect := by
    intro _ _ _ _ hrow
    cases hrow
  ownKey := by
    intro _ _ hreceipt
    cases hreceipt

/-- An operation on the ledger; a worker's receipt carries the key of its
effect. -/
def keyedOp (ledger : EffectLedger) : EffectOp → Option EffectOp
  | .recordEffectReceipt receipt =>
    (ledger.getInFlightByEffectId receipt.effectId).map fun inFlight =>
      .recordEffectReceipt
        { receipt with idempotencyKey := inFlight.idempotencyKey }
  | op => some op

section Ledgers

variable {ledger ledger' : EffectLedger}
variable {receipt : ReceiptRow}
variable {op keyed : EffectOp} {row : EffectRow} {stored : ReceiptRow}
variable {id : String}

/-- Effects are kept, and a new one is one that was begun. -/
theorem effectChange_bindings (hchange : EffectChange op ledger ledger')
    (id : String) :
    (∀ row, ledger.effects.get? id = some row →
      ∃ row', ledger'.effects.get? id = some row' ∧ SameBinding row row') ∧
    ∀ row', ledger'.effects.get? id = some row' →
      (∃ row, ledger.effects.get? id = some row ∧ SameBinding row row') ∨
        ∃ db input nowMs, op = .putInFlight db input nowMs := by
  cases hchange with
  | unchanged heffects _ =>
    rw [heffects]
    exact ⟨fun row hrow => ⟨row, hrow, .refl row⟩,
      fun row hrow => .inl ⟨row, hrow, .refl row⟩⟩
  | begun _ _ hop hinsert =>
    exact ⟨fun old hold => ⟨old, get?_insert_of_some hinsert hold,
      .refl old⟩, fun _ _ => .inr hop⟩
  | marked heffects _ =>
    have hmarks : ∀ row row', Marks op.marks row row' →
        SameBinding row row' := by
      rintro _ _ (rfl | ⟨_, _, rfl⟩)
      · exact .refl _
      · exact ⟨rfl, rfl, rfl⟩
    constructor
    · intro _ hrow
      obtain ⟨row', hrow', hmark⟩ := heffects.forward hrow
      exact ⟨row', hrow', hmarks _ _ hmark⟩
    · intro _ hrow'
      obtain ⟨row, hrow, hmark⟩ := heffects.backward hrow'
      exact .inl ⟨row, hrow, hmarks _ _ hmark⟩
  | presented effectId hpresented =>
    rw [hpresented.effects id]
    have hsame : ∀ row : EffectRow, SameBinding row
        (if row.effectId = effectId then
          row.inState (storedState ledger' effectId) else row) := by
      intro row
      split
      · exact ⟨rfl, rfl, rfl⟩
      · exact .refl row
    constructor
    · intro row hrow
      rw [hrow]
      exact ⟨_, rfl, hsame row⟩
    · intro _ hrow'
      obtain ⟨row, hrow, rfl⟩ := map_eq_some_iff.mp hrow'
      exact .inl ⟨row, hrow, hsame row⟩

theorem effectChange_kept (hchange : EffectChange op ledger ledger') :
    LedgerKept ledger ledger' := by
  constructor
  · exact fun id => (effectChange_bindings hchange id).1
  · intro _ _ hreceipt hfinal
    obtain ⟨_, hreceipt', hdescends⟩ := hchange.receipt_forward hreceipt
    rcases hdescends with rfl | ⟨hopen, _⟩
    · exact hreceipt'
    · exact absurd hopen hfinal

/-- An effect that begins has a key of its own, and no receipt. -/
theorem putInFlight_fresh [Host] {db : Sidecar} {input : PutInFlightInput}
    {nowMs : Int} (hok : putInFlight db ledger input nowMs = .ok (row, ledger')) :
    ledger'.receipts = ledger.receipts ∧
    ∀ id row', ledger'.effects.get? id = some row' →
      ledger.effects.get? id = some row' ∨ row' = row ∧
        ∀ other old, ledger.effects.get? other = some old →
          old.idempotencyKey ≠ row'.idempotencyKey := by
  unfold putInFlight at hok
  split at hok
  · obtain ⟨_, rfl⟩ := of_pure_pair hok
    exact ⟨rfl, fun _ _ hrow' => .inl hrow'⟩
  rename_i hfree
  replace hok := passed hok
  obtain ⟨_, _, hok⟩ := of_orFault hok
  replace hok := passed hok
  have hidentified : (input.identifiedIn ledger).2.effects = ledger.effects ∧
      (input.identifiedIn ledger).2.receipts = ledger.receipts := by
    unfold PutInFlightInput.identifiedIn
    split <;> exact ⟨rfl, rfl⟩
  obtain ⟨_, hinsert, hok⟩ := of_orFault hok
  replace hok := passed hok
  obtain ⟨hrow, rfl⟩ := of_pure_pair hok
  rw [hidentified.1] at hinsert
  refine ⟨hidentified.2, ?_⟩
  intro _ _ hrow'
  rw [get?_insert hinsert] at hrow'
  split at hrow'
  · right
    rw [← some.inj hrow']
    refine ⟨hrow, ?_⟩
    intro _ old hold
    have hno := List.find?_eq_none.mp hfree old (mem_of_get? hold)
    simpa using hno
  · exact .inl hrow'

theorem settleOccupancy_receipts (receipt : ReceiptRow) :
    (settleOccupancy ledger receipt).2.receipts = ledger.receipts := by
  unfold settleOccupancy updateInFlightOccupancyFromReceipt
  split
  · rename_i hset
    exact (get?_setState hset).1
  · rfl

theorem settleOccupancy_ok
    (hok : (settleOccupancy ledger receipt).1 = .ok stored) :
    stored = receipt := by
  unfold settleOccupancy at hok
  split at hok
  · exact (Except.ok.inj hok).symm
  · cases hok

/-- The receipt of an effect that had none is the one recorded. -/
theorem recordEffectReceipt_new
    (hnone : ledger.receipts.get? receipt.effectId = none)
    (hstored : (recordEffectReceipt ledger receipt).2.receipts.get?
      receipt.effectId = some stored) : stored = receipt := by
  unfold recordEffectReceipt at hstored
  cases hexisting : existingReceipt ledger receipt with
  | some existing =>
    rw [hexisting] at hstored
    dsimp only at hstored
    have hother : existing.effectId ≠ receipt.effectId := by
      intro hsame
      rw [existingReceipt_stored hexisting hsame] at hnone
      cases hnone
    rw [if_neg hother, hnone] at hstored
    cases hstored
  | none =>
    rw [hexisting] at hstored
    cases hinserted : ledger.insertReceipt receipt with
    | error =>
      rw [hinserted] at hstored
      rw [hnone] at hstored
      cases hstored
    | ok =>
      rw [hinserted] at hstored
      rw [settleOccupancy_receipts] at hstored
      replace hinserted := passed hinserted
      obtain ⟨_, hinsert, hinserted⟩ := of_orFault hinserted
      cases of_pure hinserted
      rw [get?_insert hinsert] at hstored
      rw [if_pos (show receipt.effectId = key receipt from rfl)] at hstored
      exact (some.inj hstored).symm

/-- Only the recording of a receipt writes receipts. -/
theorem effectStep_receipts [Host]
    (hother : ∀ receipt, op ≠ .recordEffectReceipt receipt) :
    (effectStep op ledger).receipts = ledger.receipts := by
  cases op with
  | recordEffectReceipt receipt => exact absurd rfl (hother receipt)
  | putInFlight db input nowMs =>
    refine commit_preserves
      (P := fun s : EffectLedger => s.receipts = ledger.receipts) rfl
      fun after hok => ?_
    obtain ⟨row, hput⟩ := snd_ok.mp hok
    exact (putInFlight_fresh hput).1
  | markInFlightUnknown id =>
    refine commit_preserves
      (P := fun s : EffectLedger => s.receipts = ledger.receipts) rfl
      fun after hok => ?_
    obtain ⟨row, hmark⟩ := snd_ok.mp hok
    exact (markInFlightUnknown_marks (fun _ => True) trivial hmark).2
  | markInFlightReceipted id =>
    refine commit_preserves
      (P := fun s : EffectLedger => s.receipts = ledger.receipts) rfl
      fun after hok => ?_
    obtain ⟨row, hmark⟩ := snd_ok.mp hok
    obtain ⟨middle, hset, hmark⟩ := of_bind hmark
    obtain ⟨_, _, hmark⟩ := of_orFault hmark
    cases of_pure hmark
    exact (get?_setState hset).1
  | recoverInFlight =>
    refine commit_preserves
      (P := fun s : EffectLedger => s.receipts = ledger.receipts) rfl
      fun after hok => ?_
    exact (recoverInFlight_marks (fun _ => True) (fun _ => trivial) hok).2

/-- A receipt keeps its key, and a new one has that of its effect. -/
theorem effectStep_receiptKey [Host] (hsound : EffectsSound ledger)
    (hkeyed : keyedOp ledger op = some keyed)
    (hreceipt : (effectStep keyed ledger).receipts.get? id = some receipt) :
    (∃ old, ledger.receipts.get? id = some old ∧
      old.idempotencyKey = receipt.idempotencyKey) ∨
    ∃ row, ledger.effects.get? id = some row ∧
      row.idempotencyKey = receipt.idempotencyKey := by
  cases hold : ledger.receipts.get? id with
  | some old =>
    obtain ⟨_, hreceipt', hdescends⟩ :=
        (effectStep_change keyed hsound).receipt_forward hold
    rw [hreceipt] at hreceipt'
    cases hreceipt'
    rcases hdescends with rfl | ⟨_, _, hpromoted⟩
    · exact .inl ⟨_, rfl, rfl⟩
    · exact .inl ⟨old, rfl, by rw [hpromoted]; rfl⟩
  | none =>
    right
    by_cases hrecords : ∃ recorded, keyed = .recordEffectReceipt recorded
    · obtain ⟨recorded, rfl⟩ := hrecords
      have hid : id = recorded.effectId := by
        by_contra hother
        rcases recordEffectReceipt_presented recorded hsound with
          hpresented | ⟨hsame, _⟩
        · have hkept := hpresented.others id hother
          rw [hold] at hkept
          exact absurd (hreceipt.symm.trans hkept) nofun
        · have hnone : (recordEffectReceipt ledger recorded).2.receipts.get?
              id = none := by rw [hsame, hold]
          exact absurd (hreceipt.symm.trans hnone) nofun
      subst hid
      have hnew : receipt = recorded := recordEffectReceipt_new hold hreceipt
      cases op with
      | recordEffectReceipt =>
        obtain ⟨inFlight, hrow, hrecorded⟩ :=
          map_eq_some_iff.mp hkeyed
        cases hrecorded
        rw [hnew]
        exact ⟨inFlight, hrow, rfl⟩
      | putInFlight _ _ _ | markInFlightUnknown _ | markInFlightReceipted _
      | recoverInFlight => cases hkeyed
    · rw [effectStep_receipts fun recorded hop => hrecords ⟨recorded, hop⟩,
        hold] at hreceipt
      cases hreceipt

/-- Two effects never come to share a key. -/
theorem effectStep_oneEffect [Host] (hsound : LedgerSound ledger)
    (op : EffectOp) {other : String} {row' : EffectRow}
    (hrow : (effectStep op ledger).effects.get? id = some row)
    (hrow' : (effectStep op ledger).effects.get? other = some row')
    (hsame : row.idempotencyKey = row'.idempotencyKey) : id = other := by
  have hchange := effectStep_change op hsound.effects
  by_cases hputs : ∃ db input nowMs, op = .putInFlight db input nowMs
  · obtain ⟨db, input, nowMs, rfl⟩ := hputs
    cases hput : putInFlight db ledger input nowMs with
    | error =>
      have hledger : effectStep (.putInFlight db input nowMs) ledger =
          ledger := by
        unfold effectStep
        dsimp only
        rw [hput]
        rfl
      rw [hledger] at hrow hrow'
      exact hsound.oneEffect id other row row' hrow hrow' hsame
    | ok pair =>
      obtain ⟨_, after⟩ := pair
      have hledger : effectStep (.putInFlight db input nowMs) ledger =
          after := by
        unfold effectStep
        dsimp only
        rw [hput]
        rfl
      rw [hledger] at hrow hrow'
      obtain ⟨_, hfresh⟩ := putInFlight_fresh hput
      rcases hfresh id row hrow with hold | ⟨rfl, hnew⟩
      · rcases hfresh other row' hrow' with hold' | ⟨_, hnew'⟩
        · exact hsound.oneEffect id other row row' hold hold' hsame
        · exact absurd hsame (hnew' id row hold)
      · rcases hfresh other row' hrow' with hold' | ⟨rfl, _⟩
        · exact absurd hsame.symm (hnew other row' hold')
        · have hkey : row'.effectId = id := key_of_get? hrow
          rw [← hkey]
          exact key_of_get? hrow'
  · rcases (effectChange_bindings hchange id).2 row hrow with
      ⟨old, hold, hbound⟩ | hop
    · rcases (effectChange_bindings hchange other).2 row' hrow' with
        ⟨old', hold', hbound'⟩ | hop
      · refine hsound.oneEffect id other old old' hold hold' ?_
        rw [← hbound.idempotencyKey, ← hbound'.idempotencyKey, hsame]
      · exact absurd hop hputs
    · exact absurd hop hputs

/-- Each operation keeps the ledger sound. -/
theorem LedgerSound.step [Host] (hsound : LedgerSound ledger)
    (hkeyed : keyedOp ledger op = some keyed) :
    LedgerSound (effectStep keyed ledger) := by
  have hchange := effectStep_change keyed hsound.effects
  refine ⟨hchange.sound hsound.effects, ?_, ?_⟩
  · intro _ _ _ _ hrow hrow' hsame
    exact effectStep_oneEffect hsound keyed hrow hrow' hsame
  · intro id _ hreceipt
    have hbound := fun row => (effectChange_bindings hchange id).1 row
    rcases effectStep_receiptKey hsound.effects hkeyed hreceipt with
      ⟨old, hold, hkey⟩ | ⟨row, hrow, hkey⟩
    · obtain ⟨row, hrow, hown⟩ := hsound.ownKey id old hold
      obtain ⟨row', hrow', hsame⟩ := hbound row hrow
      exact ⟨row', hrow', hsame.idempotencyKey.trans (hown.trans hkey)⟩
    · obtain ⟨row', hrow', hsame⟩ := hbound row hrow
      exact ⟨row', hrow', hsame.idempotencyKey.trans hkey⟩

/-- The receipt that is found under the key of an effect is its own. -/
theorem existingReceipt_own (hsound : LedgerSound ledger)
    {existing : ReceiptRow} {inFlight : EffectRow}
    (hinFlight : ledger.effects.get? receipt.effectId = some inFlight)
    (hkey : receipt.idempotencyKey = inFlight.idempotencyKey)
    (hexisting : existingReceipt ledger receipt = some existing) :
    existing.effectId = receipt.effectId := by
  rcases or_eq_some_iff.mp hexisting with hown | ⟨_, hfound⟩
  · exact key_of_get? (α := ReceiptRow) hown
  · have hmem : existing ∈ ledger.receipts.rows :=
      List.mem_of_find?_eq_some hfound
    have hsame : existing.idempotencyKey = receipt.idempotencyKey := by
      simpa using List.find?_some hfound
    obtain ⟨row, hrow, hown⟩ := hsound.ownKey existing.effectId existing
      (get?_key hmem)
    exact hsound.oneEffect _ _ row inFlight hrow hinFlight
      (hown.trans (hsame.trans hkey))

/-- A final receipt that is recorded for an effect under its key is stored
final, and is the one answered. -/
theorem recordEffectReceipt_final (hsound : LedgerSound ledger)
    {receipt stored : ReceiptRow} {inFlight : EffectRow}
    (hinFlight : ledger.effects.get? receipt.effectId = some inFlight)
    (hkey : receipt.idempotencyKey = inFlight.idempotencyKey)
    (hfinal : receipt.outcome ≠ .inProgress)
    (hok : (recordEffectReceipt ledger receipt).1 = .ok stored) :
    (recordEffectReceipt ledger receipt).2.receipts.get? receipt.effectId =
      some stored ∧ stored.outcome ≠ .inProgress := by
  unfold recordEffectReceipt at hok ⊢
  cases hexisting : existingReceipt ledger receipt with
  | some existing =>
    have hown := existingReceipt_own hsound hinFlight hkey hexisting
    have hstored := existingReceipt_stored hexisting hown
    rw [hexisting] at hok
    dsimp only at hok ⊢
    rw [if_pos hown] at hok ⊢
    by_cases hpromotes : existing.outcome = .inProgress ∧
        receipt.outcome ≠ .inProgress
    · rw [if_pos hpromotes] at hok ⊢
      have hpromoted : getEffectReceipt (ledger.promoteReceipt receipt)
          receipt.effectId = some (existing.promotedBy receipt) := by
        unfold getEffectReceipt EffectLedger.promoteReceipt
        rw [get?_update, hstored, map_some,
          if_pos (by simp [hown, hpromotes.1])]
      rw [settleOccupancy_receipts, settleOccupancy_ok hok, hpromoted]
      exact ⟨hpromoted, hfinal⟩
    · rw [if_neg hpromotes] at hok ⊢
      rw [settleOccupancy_receipts, settleOccupancy_ok hok]
      exact ⟨hstored, fun hopen => hpromotes ⟨hopen, hfinal⟩⟩
  | none =>
    rw [hexisting] at hok
    cases hinserted : ledger.insertReceipt receipt with
    | error =>
      rw [hinserted] at hok
      cases hok
    | ok =>
      rw [hinserted] at hok
      rw [settleOccupancy_receipts, settleOccupancy_ok hok]
      replace hinserted := passed hinserted
      obtain ⟨_, hinsert, hinserted⟩ := of_orFault hinserted
      cases of_pure hinserted
      refine ⟨?_, hfinal⟩
      rw [get?_insert hinsert]
      exact if_pos rfl

end Ledgers

end CognitiveSidecar.Completions
