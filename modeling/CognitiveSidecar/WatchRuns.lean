/-
Runs of polls: a claim that its row gave up never comes back, so that its poll
changes nothing, and the expiry of a term is reported once where no poll reports
it from an old listing.
-/
import CognitiveSidecar.WatchPolling

namespace CognitiveSidecar.Watching

open Option List Relational

/-! What a step does to a row. -/

/-- A row keeps its term and the mark of its expiry, or goes on to a later term;
it keeps its claim, or gives it up, or takes the token drawn by the step; and a
cancelled row becomes active without its claim only. -/
structure Carried [Host] (drawn drawn' : Nat) (old new : Watch) : Prop where
  term : old.term < new.term ∨ (old.term = new.term ∧
    (old.expiryOpportunityEmittedAtMs.isSome = true →
      new.expiryOpportunityEmittedAtMs.isSome = true))
  token : ∀ token, new.pollClaimToken = some token →
    (token = Host.randomUUID drawn ∧ drawn < drawn') ∨
      (old.pollClaimToken = some token ∧
        old.pollGeneration = new.pollGeneration ∧
        (old.cancelled = true → new.cancelled = true))

/-- The rows of a step: none is lost, and a new one comes without a claim. -/
def Passes [Host] (db db' : WatchDb) : Prop :=
  ∀ subscriptionId,
    (db.watches.get? subscriptionId = none ∧
      ∀ new, db'.watches.get? subscriptionId = some new →
        new.pollClaimToken = none) ∨
    ∃ old new, db.watches.get? subscriptionId = some old ∧
      db'.watches.get? subscriptionId = some new ∧ Carried db.drawn db'.drawn old new

section Steps

variable [Host]
variable {db : WatchDb}
variable {db' : WatchDb} {claim : PollClaim}
variable {subscriptionId : String} {p : Watch → Bool} {f : Watch → Watch}
variable {row : Watch} {input : CreateInput}
variable {hkey : ∀ old, (f old).subscriptionId = old.subscriptionId}

theorem Carried.same {drawn drawn' : Nat} (row : Watch) :
    Carried drawn drawn' row row :=
  ⟨.inr ⟨rfl, id⟩, fun _ htoken => .inr ⟨htoken, rfl, id⟩⟩

/-- Rows changed one by one, by their lookups. -/
theorem passes_of_map (f : String → Watch → Watch)
    (hrows : ∀ subscriptionId, db'.watches.get? subscriptionId =
      (db.watches.get? subscriptionId).map (f subscriptionId))
    (hcarried : ∀ subscriptionId old,
      db.watches.get? subscriptionId = some old →
        Carried db.drawn db'.drawn old (f subscriptionId old)) :
    Passes db db' := by
  intro subscriptionId
  cases hold : db.watches.get? subscriptionId with
  | none =>
    refine .inl ⟨rfl, ?_⟩
    intro _ hnew
    rw [hrows, hold] at hnew
    cases hnew
  | some old =>
    refine .inr ⟨old, f subscriptionId old, rfl, ?_,
      hcarried subscriptionId old hold⟩
    rw [hrows, hold]
    rfl

theorem passes_of_watches_eq (hrows : db'.watches = db.watches) :
    Passes db db' :=
  passes_of_map (fun _ row => row) (by simp [hrows])
    (fun _ old _ => Carried.same old)

/-- Updates of one row pass when the row that changes is carried. -/
theorem passes_of_update
    (hrows : db'.watches = (updateWatch subscriptionId p f hkey db).watches)
    (hcarried : ∀ old, db.watches.get? subscriptionId = some old →
      p old = true → Carried db.drawn db'.drawn old (f old)) :
    Passes db db' := by
  refine passes_of_map
    (fun _ row => if row.subscriptionId = subscriptionId && p row then f row
      else row) ?_ ?_
  · intro other
    rw [hrows]
    exact get?_update db.watches _ _ hkey other
  · intro _ old hold
    by_cases hselected : (old.subscriptionId = subscriptionId && p old) = true
    · rw [if_pos hselected]
      rw [Bool.and_eq_true, decide_eq_true_eq] at hselected
      refine hcarried old ?_ hselected.2
      rw [← hselected.1]
      exact get?_key (mem_of_get? hold)
    · rw [if_neg hselected]
      exact Carried.same old

omit [Host] in
theorem get?_updateWatch (hrow : db.watches.get? subscriptionId = some row)
    (hp : p row = true) :
    (updateWatch subscriptionId p f hkey db).watches.get? subscriptionId =
      some (f row) := by
  have hid : row.subscriptionId = subscriptionId := key_of_get? hrow
  refine (get?_update db.watches _ _ hkey subscriptionId).trans ?_
  rw [hrow, map_some, if_pos (by simp [hid, hp])]

omit [Host] in
/-- An update that does not select the row leaves it. -/
theorem updateWatch_eq_self
    (hleft : ∀ row, db.watches.get? subscriptionId = some row → ¬ p row = true) :
    (updateWatch subscriptionId p f hkey db).watches = db.watches := by
  refine @Table.update_eq_self Watch String _ db.watches _ f hkey
    fun row hrow hselected => ?_
  rw [Bool.and_eq_true, decide_eq_true_eq] at hselected
  obtain ⟨hid, hp⟩ := hselected
  have hstored := get?_key hrow
  change db.watches.get? row.subscriptionId = some row at hstored
  rw [hid] at hstored
  exact absurd hp (hleft row hstored)

omit [Host] in
/-- The row that a creation finds is the stored one. -/
theorem get?_of_listed {conversationId : Option String}
    {includeCancelled : Bool}
    (hfound : (listObservationSubscriptions db conversationId
      includeCancelled).find? (·.subscriptionId = subscriptionId) = some row) :
    db.watches.get? subscriptionId = some row := by
  have hid : row.subscriptionId = subscriptionId := by
    simpa using List.find?_some hfound
  have hmem := mem_of_find?_eq_some hfound
  have hrow := mem_of_mem_filter
    ((perm_insertionSort _ _).mem_iff.mp (mem_of_mem_take hmem))
  exact Table.get?_eq_some_iff.mpr ⟨hrow, hid⟩

omit [Host] in
/-- A creation writes the row of its identifier: from the stored one, or, with
its state reset, in the term after the stored one. -/
theorem createObservationSubscription_cases
    (hok : createObservationSubscription input db = .ok db') :
    ∃ existing resetPollState,
      (resetPollState = true ∨ ∃ old, existing = some old ∧
        db.watches.get? input.subscriptionId = some old ∧
        (old.cancelled = true → input.cancelled = true)) ∧
      (∀ subscriptionId, db'.watches.get? subscriptionId =
        if subscriptionId = input.subscriptionId then
          some (input.row existing resetPollState
            (((db.watches.get? input.subscriptionId).map (·.term)).getD 0))
        else db.watches.get? subscriptionId) ∧
      db'.polls = db.polls ∧ db'.drawn = db.drawn ∧
      db'.granted = db.granted ∧ db'.emitted = db.emitted := by
  obtain ⟨_, _, hok⟩ := of_bind hok
  generalize hfound : (listObservationSubscriptions db none true).find?
    (fun row => decide (row.subscriptionId = input.subscriptionId)) = existing
    at hok
  replace hok := passed hok
  replace hok := passed hok
  cases of_pure hok
  refine ⟨existing, existing.isNone || existing.any (·.spec ≠ input.spec) ||
    (existing.any (·.cancelled) && !input.cancelled), ?_, ?_,
    rfl, rfl, rfl, rfl⟩
  · cases existing with
    | none => exact .inl rfl
    | some old =>
      cases hreactivating : old.cancelled && !input.cancelled with
      | true => exact .inl (by simp [hreactivating])
      | false =>
        refine .inr ⟨old, rfl, get?_of_listed hfound, ?_⟩
        intro hcancelled
        simpa [hcancelled] using hreactivating
  · intro subscriptionId
    rw [Table.get?_upsert]
    by_cases hid : subscriptionId = input.subscriptionId
    · cases hold : db.watches.get? subscriptionId with
      | none => rfl
      | some old =>
        have hkey : old.subscriptionId = input.subscriptionId :=
          (key_of_get? hold).trans hid
        simp only [map_some, getD_some, hkey]
        rfl
    · rw [if_neg hid, if_neg (show subscriptionId ≠ key _ from hid)]

theorem createObservationSubscription_passes
    (hok : createObservationSubscription input db = .ok db') :
    Passes db db' := by
  obtain ⟨_, resetPollState, hreset, hrows, _⟩ :=
      createObservationSubscription_cases hok
  intro subscriptionId
  rw [hrows]
  by_cases hid : subscriptionId = input.subscriptionId
  · subst hid
    rw [if_pos rfl]
    cases hold : db.watches.get? input.subscriptionId with
    | none =>
      refine .inl ⟨rfl, ?_⟩
      intro _ hnew
      cases some.inj hnew
      rcases hreset with rfl | ⟨_, _, hstored, _⟩
      · rfl
      · rw [hold] at hstored
        cases hstored
    | some old =>
      refine .inr ⟨old, _, rfl, rfl, ?_⟩
      rcases hreset with rfl | ⟨_, rfl, hstored, hcancelled⟩
      · refine ⟨.inl (Nat.lt_succ_self _), ?_⟩
        intro _ htoken
        cases htoken
      · cases hold.symm.trans hstored
        cases resetPollState with
        | true =>
          refine ⟨.inl (Nat.lt_succ_self _), ?_⟩
          intro _ htoken
          cases htoken
        | false =>
          exact ⟨.inr ⟨rfl, id⟩,
            fun _ htoken => .inr ⟨htoken, rfl, hcancelled⟩⟩
  · rw [if_neg hid]
    cases hold : db.watches.get? subscriptionId with
    | none => exact .inl ⟨rfl, by intro _ hnew; cases hnew⟩
    | some old => exact .inr ⟨old, old, rfl, rfl, Carried.same old⟩

/-- A claim is granted with the token that it draws. -/
theorem claimObservationSubscriptionPoll_cases (subscriptionId : String)
    (nowMs : Int) (db : WatchDb) :
    claimObservationSubscriptionPoll subscriptionId nowMs db =
        (none, { db with drawn := db.drawn + 1 }) ∨
      ∃ row, db.watches.get? subscriptionId = some row ∧
        row.claimable nowMs = true ∧
        ∃ claim db', claimObservationSubscriptionPoll subscriptionId nowMs db =
            (some claim, db') ∧
          claim.claimToken = Host.randomUUID db.drawn ∧
          db'.drawn = db.drawn + 1 ∧ db'.granted = db.granted ++ [claim] ∧
          db'.emitted = db.emitted ∧ db'.polls = db.polls ∧
          Passes db db' := by
  unfold claimObservationSubscriptionPoll
  cases hrow : (db.watches.get? subscriptionId).filter
      (·.claimable nowMs) with
  | none => exact .inl rfl
  | some row =>
    obtain ⟨hstored, hclaimable⟩ := filter_eq_some_iff.mp hrow
    refine .inr ⟨row, hstored, hclaimable, _, _, rfl, rfl, rfl, rfl, rfl,
      rfl, passes_of_update rfl ?_⟩
    intro _ _ _
    refine ⟨.inr ⟨rfl, id⟩, ?_⟩
    intro _ htoken
    exact .inl ⟨(some.inj htoken).symm, Nat.lt_succ_self _⟩

theorem recordUnclaimed_passes (subscriptionId : String) (nowMs : Int)
    (outcome : OutcomeKind) (expiryEmittedAtMs : Option Int) (db : WatchDb) :
    Passes db
      (recordUnclaimed subscriptionId nowMs outcome expiryEmittedAtMs db) := by
  refine passes_of_update rfl ?_
  intro _ _ _
  refine ⟨.inr ⟨rfl, ?_⟩, fun _ htoken => .inr ⟨htoken, rfl, id⟩⟩
  intro hmarked
  rw [isSome_or, hmarked, Bool.or_true]

theorem recordClaimed_passes (claim : PollClaim) (nowMs : Int)
    (outcome : OutcomeKind) (db : WatchDb) :
    Passes db (recordClaimed claim nowMs outcome db) := by
  refine passes_of_update rfl ?_
  intro _ _ _
  refine ⟨.inr ⟨rfl, id⟩, ?_⟩
  intro _ htoken
  by_cases hmatched : outcome = .matched
  · rw [if_pos hmatched] at htoken
    exact .inr ⟨htoken, rfl, id⟩
  · rw [if_neg hmatched] at htoken
    cases htoken

theorem completePollClaim_passes (claim : PollClaim) (frontierAtMs : Int)
    (db : WatchDb) : Passes db (completePollClaim claim frontierAtMs db) := by
  refine passes_of_update rfl ?_
  intro _ _ _
  refine ⟨.inr ⟨rfl, id⟩, ?_⟩
  intro _ htoken
  cases htoken

theorem cancelObservationSubscription_passes (subscriptionId : String)
    (db : WatchDb) :
    Passes db (cancelObservationSubscription subscriptionId db) := by
  refine passes_of_update rfl ?_
  intro _ _ _
  exact ⟨.inr ⟨rfl, id⟩, fun _ htoken => .inr ⟨htoken, rfl, fun _ => rfl⟩⟩

/-- A step passes the rows on, and grants at most the claim that it draws. -/
structure Stepped (db db' : WatchDb) : Prop where
  passes : Passes db db'
  drawn_le : db.drawn ≤ db'.drawn
  granted : db'.granted = db.granted ∨
    ∃ claim, claim.claimToken = Host.randomUUID db.drawn ∧
      db.drawn < db'.drawn ∧ db'.granted = db.granted ++ [claim]

theorem Stepped.of_passes (hpasses : Passes db db')
    (hdrawn : db'.drawn = db.drawn) (hgranted : db'.granted = db.granted) :
    Stepped db db' :=
  ⟨hpasses, hdrawn.ge, .inl hgranted⟩

/-- A poll that takes up a subscription changes its row, or reports the expiry
of the listing that it holds. -/
theorem advancePoll_cases (position : Nat) (nowMs : Int) (db : WatchDb) :
    Stepped db (advancePoll position nowMs db) ∧
      ((advancePoll position nowMs db).emitted = db.emitted ∨
        ∃ subscription rest,
          db.polls[position]? = some ⟨subscription :: rest, none⟩ ∧
          takeUp subscription nowMs = .expired ∧
          (advancePoll position nowMs db).emitted = db.emitted ++
            [⟨subscription.subscriptionId, subscription.term, nowMs⟩] ∧
          (advancePoll position nowMs db).watches =
            (recordUnclaimed subscription.subscriptionId nowMs .expired
              (some nowMs) db).watches) := by
  unfold advancePoll
  split
  · rename_i subscription rest hpoll
    dsimp only
    cases htaken : takeUp subscription nowMs with
    | nothing =>
      exact ⟨Stepped.of_passes (passes_of_watches_eq rfl) rfl rfl,
        .inl rfl⟩
    | rejected =>
      exact ⟨Stepped.of_passes (recordUnclaimed_passes
        subscription.subscriptionId nowMs .rejected none db) rfl rfl,
        .inl rfl⟩
    | expired =>
      exact ⟨Stepped.of_passes (recordUnclaimed_passes
        subscription.subscriptionId nowMs .expired (some nowMs) db) rfl rfl,
        .inr ⟨subscription, rest, hpoll, htaken, rfl, rfl⟩⟩
    | claim =>
      rcases claimObservationSubscriptionPoll_cases
          subscription.subscriptionId nowMs
          (setPoll position ⟨rest, none⟩ db) with hnone |
        ⟨_, _, _, claim, db', hgrant, htoken, hdrawn, hgranted, hemitted, _,
          hpasses⟩
      · rw [hnone]
        exact ⟨⟨passes_of_watches_eq rfl, Nat.le_succ _, .inl rfl⟩,
          .inl rfl⟩
      · rw [hgrant]
        have hmore : db.drawn < db'.drawn := by
          rw [hdrawn]
          exact Nat.lt_succ_self _
        exact ⟨⟨hpasses, hmore.le, .inr ⟨claim, htoken, hmore, hgranted⟩⟩,
          .inl hemitted⟩
  · exact ⟨Stepped.of_passes (passes_of_watches_eq rfl) rfl rfl, .inl rfl⟩

theorem settlePoll_stepped (position : Nat) (reading : FetchReading)
    (db : WatchDb) : Stepped db (settlePoll position reading db) := by
  unfold settlePoll
  split
  · rename_i claim nowMs _
    exact Stepped.of_passes (recordClaimed_passes claim nowMs reading.outcome db)
      rfl rfl
  · exact Stepped.of_passes (passes_of_watches_eq rfl) rfl rfl

omit [Host] in
theorem emitted_settlePoll (position : Nat) (reading : FetchReading)
    (db : WatchDb) : (settlePoll position reading db).emitted = db.emitted := by
  unfold settlePoll
  split <;> rfl

theorem create_stepped (input : CreateInput) (db : WatchDb) :
    Stepped db (commit db (createObservationSubscription input db)) ∧
      (commit db (createObservationSubscription input db)).emitted =
        db.emitted := by
  cases hcreated : createObservationSubscription input db with
  | error =>
    exact ⟨Stepped.of_passes (passes_of_watches_eq rfl) rfl rfl, rfl⟩
  | ok =>
    obtain ⟨_, _, _, _, _, hdrawn, hgranted, hemitted⟩ :=
      createObservationSubscription_cases hcreated
    exact ⟨Stepped.of_passes (createObservationSubscription_passes hcreated)
      hdrawn hgranted, hemitted⟩

theorem watchStep_stepped (op : WatchOp) (db : WatchDb) :
    Stepped db (watchStep op db) := by
  cases op with
  | create input => exact (create_stepped input db).1
  | cancel subscriptionId =>
    exact Stepped.of_passes
      (cancelObservationSubscription_passes subscriptionId db) rfl rfl
  | beginPoll =>
    exact Stepped.of_passes (passes_of_watches_eq rfl) rfl rfl
  | advance position nowMs => exact (advancePoll_cases position nowMs db).1
  | settle position reading => exact settlePoll_stepped position reading db
  | complete claim frontierAtMs =>
    exact Stepped.of_passes (completePollClaim_passes claim frontierAtMs db)
      rfl rfl

/-! Claims. -/

/-- The claim is the one of its row. -/
def PollClaim.holds (claim : PollClaim) (db : WatchDb) : Prop :=
  ∃ row, db.watches.get? claim.subscriptionId = some row ∧
    claim.held row = true

/-- Taken over by another claim, released, or cancelled. -/
def PollClaim.lost (claim : PollClaim) (db : WatchDb) : Prop :=
  ∀ row, db.watches.get? claim.subscriptionId = some row →
    claim.held row = true → row.cancelled = true

omit [Host] in
theorem PollClaim.token_of_held (hheld : claim.held row = true) :
    row.pollClaimToken = some claim.claimToken := by
  simp only [PollClaim.held, Bool.and_eq_true, decide_eq_true_eq] at hheld
  exact hheld.2

/-- Every token comes from the host's draws, and no two claims have one. -/
structure Fences (db : WatchDb) : Prop where
  rows : ∀ row ∈ db.watches.rows, ∀ token, row.pollClaimToken = some token →
    ∃ draw < db.drawn, token = Host.randomUUID draw
  grants : ∀ claim ∈ db.granted,
    ∃ draw < db.drawn, claim.claimToken = Host.randomUUID draw
  distinct : (db.granted.map PollClaim.claimToken).Nodup

theorem fences_start : Fences {} :=
  ⟨fun _ hrow => absurd hrow (not_mem_nil),
    fun _ hclaim => absurd hclaim (not_mem_nil), nodup_nil⟩

theorem Fences.step (hfences : Fences db) (hstepped : Stepped db db') :
    Fences db' := by
  constructor
  · intro row hrow token htoken
    have hnew := get?_key hrow
    rcases hstepped.passes (key row) with ⟨_, hunclaimed⟩ |
      ⟨old, new, hold, hnew', hcarried⟩
    · rw [hunclaimed row hnew] at htoken
      cases htoken
    · cases hnew.symm.trans hnew'
      rcases hcarried.token token htoken with ⟨hdraw, hmore⟩ | ⟨hkept, _⟩
      · exact ⟨db.drawn, hmore, hdraw⟩
      · obtain ⟨draw, hlt, hdraw⟩ :=
          hfences.rows old (mem_of_get? hold) token hkept
        exact ⟨draw, hlt.trans_le hstepped.drawn_le, hdraw⟩
  · intro claim hclaim
    have hbefore (hin : claim ∈ db.granted) :
        ∃ draw < db'.drawn, claim.claimToken = Host.randomUUID draw := by
      obtain ⟨draw, hlt, hdraw⟩ := hfences.grants claim hin
      exact ⟨draw, hlt.trans_le hstepped.drawn_le, hdraw⟩
    rcases hstepped.granted with hsame | ⟨_, htoken, hmore, hgranted⟩
    · exact hbefore (hsame ▸ hclaim)
    · rw [hgranted] at hclaim
      rcases mem_append.mp hclaim with hin | hlast
      · exact hbefore hin
      · cases mem_singleton.mp hlast
        exact ⟨db.drawn, hmore, htoken⟩
  · rcases hstepped.granted with hsame | ⟨_, htoken, _, hgranted⟩
    · rw [hsame]
      exact hfences.distinct
    · rw [hgranted, map_append, map_singleton]
      refine List.Nodup.append hfences.distinct (nodup_singleton _) ?_
      rw [disjoint_singleton]
      intro hin
      obtain ⟨claim, hclaim, heq⟩ := mem_map.mp hin
      obtain ⟨_, hlt, hdraw⟩ := hfences.grants claim hclaim
      rw [htoken, hdraw] at heq
      exact hlt.ne (Host.randomUUID_injective heq)

/-- A claim that is lost stays lost: its token is never drawn again, and a
cancelled row becomes active without it. -/
theorem PollClaim.lost_step (hfences : Fences db) (hstepped : Stepped db db')
    (hclaim : claim ∈ db.granted) (hlost : claim.lost db) : claim.lost db' := by
  intro new hnew hheld
  have htoken := PollClaim.token_of_held hheld
  rcases hstepped.passes claim.subscriptionId with ⟨_, hunclaimed⟩ |
    ⟨old, new', hold, hnew', hcarried⟩
  · rw [hunclaimed new hnew] at htoken
    cases htoken
  · cases hnew.symm.trans hnew'
    rcases hcarried.token _ htoken with ⟨hdraw, _⟩ |
      ⟨hkept, hgeneration, hcancelled⟩
    · obtain ⟨_, hlt, hdrawn⟩ := hfences.grants claim hclaim
      rw [hdrawn] at hdraw
      exact absurd (Host.randomUUID_injective hdraw) hlt.ne
    · refine hcancelled (hlost old hold ?_)
      simp only [PollClaim.held, Bool.and_eq_true, decide_eq_true_eq]
        at hheld ⊢
      exact ⟨⟨key_of_get? hold, hgeneration.trans hheld.1.2⟩, hkept⟩

/-! Expiries. -/

/-- What each report leaves at its row: its term has passed, or is marked. -/
structure Reported (db : WatchDb) : Prop where
  once : (db.emitted.map fun item => (item.subscriptionId, item.term)).Nodup
  marked : ∀ item ∈ db.emitted, ∃ row,
    db.watches.get? item.subscriptionId = some row ∧
      (item.term < row.term ∨ (item.term = row.term ∧
        row.expiryOpportunityEmittedAtMs.isSome = true))

/-- An expiry is reported from a listing that is up to date: its row is in the
listed term and not marked. -/
def ExpiryCurrent (position : Nat) (nowMs : Int) (db : WatchDb) : Prop :=
  ∀ poll ∈ db.polls[position]?, poll.awaiting = none →
    ∀ subscription ∈ poll.remaining.head?,
      takeUp subscription nowMs = .expired →
      ∃ row ∈ db.watches.get? subscription.subscriptionId,
        row.term = subscription.term ∧ row.expiryOpportunityEmittedAtMs = none

omit [Host] in
theorem reported_start : Reported {} :=
  ⟨nodup_nil, fun _ hitem => absurd hitem not_mem_nil⟩

/-- The rows keep what the reports left. -/
theorem Reported.marked_step (hreported : Reported db) (hpasses : Passes db db')
    {item : ExpiryItem} (hitem : item ∈ db.emitted) :
    ∃ row, db'.watches.get? item.subscriptionId = some row ∧
      (item.term < row.term ∨ (item.term = row.term ∧
        row.expiryOpportunityEmittedAtMs.isSome = true)) := by
  obtain ⟨_, hrow, hleft⟩ := hreported.marked item hitem
  rcases hpasses item.subscriptionId with ⟨hnone, _⟩ |
    ⟨old, new, hold, hnew, hcarried⟩
  · rw [hrow] at hnone
    cases hnone
  · cases hrow.symm.trans hold
    refine ⟨new, hnew, ?_⟩
    rcases hcarried.term with hlater | ⟨hsame, hmark⟩
    · refine .inl ?_
      rcases hleft with hlt | ⟨heq, _⟩
      · exact hlt.trans hlater
      · rw [heq]
        exact hlater
    · rw [← hsame]
      exact hleft.imp_right fun hmarked => ⟨hmarked.1, hmark hmarked.2⟩

theorem Reported.of_emitted_eq (hreported : Reported db)
    (hpasses : Passes db db') (hemitted : db'.emitted = db.emitted) :
    Reported db' := by
  constructor
  · rw [hemitted]
    exact hreported.once
  · intro _ hitem
    rw [hemitted] at hitem
    exact hreported.marked_step hpasses hitem

theorem Reported.advance (hreported : Reported db) {position : Nat}
    {nowMs : Int} (hcurrent : ExpiryCurrent position nowMs db) :
    Reported (advancePoll position nowMs db) := by
  obtain ⟨hstepped, hemitted⟩ := advancePoll_cases position nowMs db
  rcases hemitted with hsame | ⟨subscription, _, hpoll, htaken, hemitted,
    hwatches⟩
  · exact hreported.of_emitted_eq hstepped.passes hsame
  obtain ⟨_, hrow, hterm, hunmarked⟩ :=
      hcurrent _ hpoll rfl subscription rfl htaken
  constructor
  · rw [hemitted, map_append, map_singleton]
    refine List.Nodup.append hreported.once (nodup_singleton _) ?_
    rw [disjoint_singleton]
    -- a report of the listed term would have marked the row
    intro hin
    obtain ⟨item, hitem, heq⟩ := mem_map.mp hin
    obtain ⟨hid, hitemTerm⟩ := Prod.mk.inj heq
    obtain ⟨_, hmarked, hleft⟩ := hreported.marked item hitem
    rw [hid, hrow] at hmarked
    cases some.inj hmarked
    rw [hitemTerm, hterm, hunmarked] at hleft
    rcases hleft with hlt | ⟨_, hmark⟩
    · exact absurd hlt (Nat.lt_irrefl _)
    · cases hmark
  · intro _ hitem
    rw [hemitted] at hitem
    rcases mem_append.mp hitem with hin | hlast
    · exact hreported.marked_step hstepped.passes hin
    · cases mem_singleton.mp hlast
      rw [hwatches]
      exact ⟨_, get?_updateWatch hrow rfl, .inr ⟨hterm.symm, rfl⟩⟩

/-- The steps under which polls stay fenced: an expiry is reported from a
listing that is up to date, and no fetch of a cancelled row settles. -/
def PolledInOrder (op : WatchOp) (db : WatchDb) : Prop :=
  match op with
  | .advance position nowMs => ExpiryCurrent position nowMs db
  | .settle position _ => ∀ poll ∈ db.polls[position]?,
      ∀ awaited ∈ poll.awaiting,
      ∀ row ∈ db.watches.get? awaited.1.subscriptionId,
        awaited.1.held row = true → row.cancelled = false
  | _ => True

theorem Reported.step {op : WatchOp} (hreported : Reported db)
    (hordered : PolledInOrder op db) : Reported (watchStep op db) := by
  have hpasses := (watchStep_stepped op db).passes
  cases op with
  | create input =>
    exact hreported.of_emitted_eq hpasses (create_stepped input db).2
  | cancel | beginPoll | complete => exact hreported.of_emitted_eq hpasses rfl
  | advance => exact hreported.advance hordered
  | settle position reading =>
    exact hreported.of_emitted_eq hpasses
      (emitted_settlePoll position reading db)

/-! Whole runs. -/

/-- When and how a subscription was last polled. -/
def lastPolled (db : WatchDb) (subscriptionId : String) :
    Option (Option Int × Option OutcomeKind) :=
  (db.watches.get? subscriptionId).map fun row =>
    (row.lastPolledAtMs, row.lastPollOutcome)

/-- No two claims on one subscription are held at once. -/
def Exclusive (db : WatchDb) : Prop :=
  db.granted.Pairwise fun first second =>
    first.subscriptionId = second.subscriptionId →
      ¬ (first.holds db ∧ second.holds db)

/-- A fetch whose claim was lost at any point before it settles changes neither
the time nor the outcome of the last poll. -/
def StaleHarmless (ops : List WatchOp) : Prop :=
  ∀ before after position reading later,
    ops = before ++ (after ++ .settle position reading :: later) →
    ∀ claim ∈ (run watchStep {} before).granted,
      claim.lost (run watchStep {} before) →
      ∀ rest nowMs,
        (run watchStep {} (before ++ after)).polls[position]? =
          some ⟨rest, some (claim, nowMs)⟩ →
        lastPolled (settlePoll position reading
          (run watchStep {} (before ++ after))) =
            lastPolled (run watchStep {} (before ++ after))

/-- The expiry of a term of a subscription is reported at most once. -/
def ReportedOnce (db : WatchDb) : Prop :=
  (db.emitted.map fun item => (item.subscriptionId, item.term)).Nodup

/-- The polls of a run are fenced. -/
def Fenced (ops : List WatchOp) : Prop :=
  (∀ before after, ops = before ++ after →
      Exclusive (run watchStep {} before) ∧
      ReportedOnce (run watchStep {} before)) ∧
    StaleHarmless ops

theorem Fences.exclusive (hfences : Fences db) :
    Exclusive db := by
  refine (pairwise_map.mp hfences.distinct).imp ?_
  rintro _ _ hne hsame ⟨⟨_, hrow, hfirst⟩, ⟨_, hother, hsecond⟩⟩
  rw [← hsame, hrow] at hother
  cases some.inj hother
  have htoken := (PollClaim.token_of_held hfirst).symm.trans
    (PollClaim.token_of_held hsecond)
  exact hne (some.inj htoken)

omit [Host] in
/-- A record under a claim that its row does not hold records nothing. -/
theorem recordClaimed_eq_self {claim : PollClaim} {db : WatchDb}
    (hunheld : ∀ row, db.watches.get? claim.subscriptionId = some row →
      claim.held row = false) (nowMs : Int) (outcome : OutcomeKind) :
    (recordClaimed claim nowMs outcome db).watches = db.watches := by
  refine updateWatch_eq_self fun row hrow => ?_
  exact Bool.eq_false_iff.mp (hunheld row hrow)

theorem fences_run (ops : List WatchOp) : Fences (run watchStep {} ops) :=
  run_preserves (fun op db hfences => hfences.step (watchStep_stepped op db))
    fences_start ops

/-- What is granted and lost stays so along a run. -/
theorem lost_run (hfences : Fences db) (hclaim : claim ∈ db.granted)
    (hlost : claim.lost db) (ops : List WatchOp) :
    claim.lost (run watchStep db ops) := by
  have hstep : ∀ op (db : WatchDb),
      (Fences db ∧ claim ∈ db.granted ∧ claim.lost db) →
      (Fences (watchStep op db) ∧ claim ∈ (watchStep op db).granted ∧
        claim.lost (watchStep op db)) := by
    rintro op db ⟨hfences, hclaim, hlost⟩
    have hstepped := watchStep_stepped op db
    refine ⟨hfences.step hstepped, ?_,
      PollClaim.lost_step hfences hstepped hclaim hlost⟩
    rcases hstepped.granted with hsame | ⟨_, _, _, hgranted⟩
    · rw [hsame]
      exact hclaim
    · rw [hgranted]
      exact mem_append_left _ hclaim
  exact (run_preserves hstep ⟨hfences, hclaim, hlost⟩ ops).2.2

/-- Polls in order are fenced. -/
theorem ordered_polls_fenced (ops : List WatchOp)
    (hordered : Meets watchStep PolledInOrder {} ops) : Fenced ops := by
  constructor
  · rintro before _ rfl
    refine ⟨(fences_run before).exclusive, Reported.once ?_⟩
    exact meets_preserves (fun _ _ hop hreported => hreported.step hop)
      reported_start (meets_append.mp hordered).1
  · rintro before after position reading _ rfl claim hclaim hlost rest nowMs
      hpoll
    rw [← List.append_assoc, meets_append] at hordered
    have hactive := hordered.2.1 _ hpoll (claim, nowMs) rfl
    have hnow := lost_run (fences_run before) hclaim hlost after
    rw [← run_append] at hnow
    have hunheld : ∀ row, (run watchStep {} (before ++ after)).watches.get?
        claim.subscriptionId = some row → claim.held row = false := by
      intro row hrow
      by_contra hheld
      rw [Bool.not_eq_false] at hheld
      have hcancelled := hnow row hrow hheld
      rw [hactive row hrow hheld] at hcancelled
      cases hcancelled
    have hwatches : (settlePoll position reading
        (run watchStep {} (before ++ after))).watches =
          (run watchStep {} (before ++ after)).watches := by
      unfold settlePoll
      rw [hpoll]
      exact @recordClaimed_eq_self claim (setPoll position ⟨rest, none⟩ _)
        hunheld nowMs reading.outcome
    unfold lastPolled
    rw [hwatches]

end Steps

section Plain

attribute [local instance] plainHost

/-- An external watch of the conversation. -/
def watched (subscriptionId : String) (expiresAtMs : Int) : CreateInput where
  subscriptionId := subscriptionId
  spec :=
    { conversationId := "c", source := "external", topicKeys := ["t"], matching := .substring
      expiresAtMs := some expiresAtMs
      externalSource := some ⟨.rss, "https://feed"⟩
      pollIntervalMs := some 60000 }

/-- Two polls, the second while the first awaits its fetch: it gets no claim on
the first watch and reports the expiry of the other. -/
def overlapping : List WatchOp :=
  [.create (watched "a" 900000), .create (watched "b" 1000), .beginPoll none,
    .advance 0 2000, .beginPoll none, .advance 1 2000, .advance 1 2000,
    .settle 0 { raised := some .timeout }]

theorem overlapping_fenced : Fenced overlapping :=
  ordered_polls_fenced overlapping (by
    simp only [overlapping, Meets, PolledInOrder, ExpiryCurrent]
    refine ⟨trivial, trivial, trivial, ?_, trivial, ?_, ?_, ?_, trivial⟩ <;>
      decide +kernel)

/-- Back from its fetch, the first poll reports the expiry again; and the fetch
of a watch that was cancelled meanwhile is still recorded. -/
theorem polling_unfenced :
    ¬ Fenced (overlapping ++ [.advance 0 2000]) ∧
      ¬ Fenced [.create (watched "a" 900000), .beginPoll none,
        .advance 0 2000, .cancel "a", .settle 0 { raised := some .timeout }] := by
  constructor
  · intro hfenced
    have honce := (hfenced.1 (overlapping ++ [.advance 0 2000]) [] rfl).2
    revert honce
    unfold ReportedOnce
    decide +kernel
  · intro hfenced
    have hkept := hfenced.2
      [.create (watched "a" 900000), .beginPoll none, .advance 0 2000,
        .cancel "a"] [] 0 { raised := some .timeout } [] rfl
      ⟨"a", Host.randomUUID 0, 1, 122000⟩ (by decide +kernel) (by
        intro row hrow _
        have hcancelled : ∀ row ∈ (run watchStep {}
            [.create (watched "a" 900000), .beginPoll none, .advance 0 2000,
              .cancel "a"]).watches.get? "a", row.cancelled = true := by
          decide +kernel
        exact hcancelled row hrow) [] 2000 (by decide +kernel)
    have hpolled := congrFun hkept "a"
    revert hpolled
    decide +kernel

end Plain

end CognitiveSidecar.Watching
