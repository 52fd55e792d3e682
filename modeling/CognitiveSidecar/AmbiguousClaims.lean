/-
Claims of a wake whose lease ran out while an effect of it is unresolved:
recovery fences the wake, and a direct claim refuses it only when it was
authorized.
-/
import CognitiveSidecar.ClaimProgress

namespace CognitiveSidecar

open Option Relational

/-- Recovery at this time fences the wake, as its lease has run out under an
unresolved effect. -/
structure FencedByRecovery (db : Sidecar) (wakeId : String) (wake : Wake)
    (nowMs : Int) : Prop where
  stored : db.wakes.get? wakeId = some wake
  held : wake.state = .claimed ∨ wake.state = .authorized
  ranOut : wake.leaseRanOut nowMs = true
  ambiguous : hasAmbiguousEffect db wakeId = true
  fenced : ((recoverWakes db nowMs).2.wakes.get? wakeId).map Wake.state =
    some .reconciling

section Claims

variable [Host] {db : Sidecar} {wakeId : String} {wake : Wake} {nowMs : Int}

omit [Host] in
/-- A lease that has run out does not run. -/
theorem Wake.not_leaseRuns {row : Wake} (hranOut : row.leaseRanOut nowMs = true) :
    row.leaseRuns nowMs = false := by
  unfold Wake.leaseRanOut at hranOut
  unfold Wake.leaseRuns
  cases hexpiry : row.leaseExpiresAtMs with
  | none => rfl
  | some =>
    rw [hexpiry, any_some, decide_eq_true_eq] at hranOut
    rw [any_some, decide_eq_false_iff_not]
    omega

/-- Where recovery would fence a wake, no claim of it is granted exactly when
the wake was authorized. -/
theorem claim_refuses_fenced_iff (hreached : Reached db)
    (hfenced : FencedByRecovery db wakeId wake nowMs) :
    (∀ workerId leaseMs token after,
      claimWake db wakeId workerId nowMs leaseMs ≠ .ok (token, after)) ↔
      wake.state = .authorized := by
  have hid : wake.wakeId = wakeId := key_of_get? hfenced.stored
  constructor
  · intro hrefuses
    rcases hfenced.held with hclaimed | hauthorized
    · have hgrantable : wake.isGrantable db nowMs = true := by
        unfold Wake.isGrantable
        rw [hclaimed, Wake.not_leaseRuns hfenced.ranOut]
        rfl
      obtain ⟨token, after, _, hgranted, _⟩ := @claimWakeInTransaction_grants _
        db nowMs (boundedLeaseMs 1) wakeId "worker" wake hreached.sound.drawn
        hfenced.stored hgrantable
      refine absurd ?_ (hrefuses "worker" 1 token after)
      exact require_bind_ok.mpr ⟨by decide +kernel, hgranted⟩
    · exact hauthorized
  · intro hauthorized _ _ _ _ hok
    replace hok := passed hok
    obtain ⟨_, hstored, hgrantable⟩ := claimWakeInTransaction_grantable hok
    rw [hfenced.stored] at hstored
    cases hstored
    unfold Wake.isGrantable at hgrantable
    rw [hauthorized, hid, hfenced.ambiguous] at hgrantable
    simp at hgrantable

end Claims

section Plain

attribute [local instance] plainHost

/-- The wake of a message, which is claimed and perhaps authorized, begins an
effect. -/
def effectBegun (authorizes : List Op) : List Op :=
  [.appendInboxEvent
      { conversationId := "d", kind := "owner_message", createdAtMs := 1 }
      (some "e"),
    .claimWake "wake:wake-occurrence:inboxed" "w" 1 1000] ++ authorizes ++
  [.outside
      { effects := Table.empty.insertNew
          { effectId := "f", cycleId := "cycle:wake:wake-occurrence:inboxed"
            generation := 1, state := .inFlight
            wakeId := some "wake:wake-occurrence:inboxed"
            originEventId := some "e" }
        receipts := Table.empty, reservations := Table.empty
        bindings := Table.empty, outbox := Table.empty
        undertakings := Table.empty } 0]

/-- A wake that passes these tests is fenced by recovery. -/
theorem fencedByRecovery_of_tests {db : Sidecar} {wakeId : String}
    {nowMs : Int} {state : WakeState}
    (hstate : state = .claimed ∨ state = .authorized)
    (hwake : (db.wakes.get? wakeId).any (fun wake =>
      wake.state = state && wake.leaseRanOut nowMs) = true)
    (hambiguous : hasAmbiguousEffect db wakeId = true)
    (hfenced : ((recoverWakes db nowMs).2.wakes.get? wakeId).map Wake.state =
      some .reconciling) :
    ∃ wake, wake.state = state ∧ FencedByRecovery db wakeId wake nowMs := by
  obtain ⟨wake, hstored, htests⟩ := (any_eq_true _ _).mp hwake
  simp only [Bool.and_eq_true, decide_eq_true_eq] at htests
  refine ⟨wake, htests.1, hstored, ?_, htests.2, hambiguous, hfenced⟩
  rw [htests.1]
  exact hstate

/-- An authorized wake in doubt is refused. -/
theorem claim_refuses_fenced_authorized :
    ¬ ∃ workerId leaseMs token after,
      claimWake (run step {} (effectBegun
          [.authorizeWake "wake:wake-occurrence:inboxed" "wake-lease:u" 2]))
        "wake:wake-occurrence:inboxed" workerId 2000 leaseMs =
          .ok (token, after) := by
  rintro ⟨workerId, leaseMs, token, after, hgranted⟩
  obtain ⟨_, hauthorized, hfenced⟩ := @fencedByRecovery_of_tests
    (run step {} (effectBegun
      [.authorizeWake "wake:wake-occurrence:inboxed" "wake-lease:u" 2]))
    "wake:wake-occurrence:inboxed" 2000 .authorized (Or.inr rfl)
    (by decide +kernel) (by decide +kernel) (by decide +kernel)
  exact (claim_refuses_fenced_iff ⟨_, rfl⟩ hfenced).mpr hauthorized workerId
    leaseMs token after hgranted

/-- A claimed wake in doubt, which recovery fences, is leased again. -/
theorem claimed_wake_in_doubt_granted :
    ∃ wake, FencedByRecovery (run step {} (effectBegun []))
        "wake:wake-occurrence:inboxed" wake 2000 ∧
      ∃ token after, claimWake (run step {} (effectBegun []))
        "wake:wake-occurrence:inboxed" "v" 2000 1000 = .ok (token, after) := by
  obtain ⟨wake, _, hfenced⟩ := @fencedByRecovery_of_tests
    (run step {} (effectBegun [])) "wake:wake-occurrence:inboxed" 2000 .claimed
    (Or.inl rfl) (by decide +kernel) (by decide +kernel) (by decide +kernel)
  refine ⟨wake, hfenced, ?_⟩
  have hgrants : (claimWake (run step {} (effectBegun []))
      "wake:wake-occurrence:inboxed" "v" 2000 1000).toOption.isSome = true := by
    decide +kernel
  cases hclaim : claimWake (run step {} (effectBegun []))
      "wake:wake-occurrence:inboxed" "v" 2000 1000 with
  | error =>
    rw [hclaim] at hgrants
    cases hgrants
  | ok granted => exact ⟨granted.1, granted.2, rfl⟩

end Plain

end CognitiveSidecar
