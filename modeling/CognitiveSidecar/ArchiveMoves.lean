/-
What each write of a delivery operation does to the two archives.
-/
import CognitiveSidecar.DeliveryArchives

namespace CognitiveSidecar.Delivery

open List Relational Table

variable {scope : Scope} {db after : DeliveryDb} {row : DeliveryReservation}

theorem isPlanned_recorded {bubbles : List DeliveryBubble}
    (hplanned : bubbles.all DeliveryBubble.isPlanned = true) :
    ∀ bubble ∈ bubbles,
      bubble.discordMessageId = none ∧ bubble.sentAtMs = none := by
  intro bubble hbubble
  have hplanned := all_eq_true.mp hplanned bubble hbubble
  unfold DeliveryBubble.isPlanned at hplanned
  rw [Bool.and_eq_true, Option.isNone_iff_eq_none,
    Option.isNone_iff_eq_none] at hplanned
  exact hplanned

theorem receipted_planned (hplanned : row.bubbles.all DeliveryBubble.isPlanned =
    true) : row.receipted = [] := by
  unfold DeliveryReservation.receipted
  rw [filter_eq_nil_iff]
  intro bubble hbubble hreceipted
  unfold DeliveryBubble.receipted at hreceipted
  rw [(isPlanned_recorded hplanned bubble hbubble).1] at hreceipted
  cases hreceipted

theorem receipted_unsent (hrecorded : ∀ bubble ∈ row.bubbles, bubble.Recorded)
    (hunsent : row.hasReceipt = false) : row.receipted = [] := by
  unfold DeliveryReservation.receipted
  rw [filter_eq_nil_iff]
  intro bubble hbubble hreceipted
  have hreceipt := ((hrecorded bubble hbubble).receipted_iff).mp hreceipted
  exact any_eq_false.mp hunsent bubble hbubble hreceipt

variable [Host]

variable {reservations : Table DeliveryReservation}

theorem Archives.opened (harchives : Archives db)
    (hinsert : db.reservations.insert? row = some reservations)
    (hopens : Opens db row) : Archives { db with reservations } := by
  have hget := get?_insert hinsert
  have habsent : db.reservations.get? row.id = none :=
    (insert?_eq_some hinsert).1
  have hcases : ∀ {id other}, reservations.get? id = some other →
      (id = row.id ∧ other = row) ∨ db.reservations.get? id = some other := by
    intro _ _ hother
    rw [hget] at hother
    split at hother
    · rename_i hid
      exact .inl ⟨hid, (Option.some.inj hother).symm⟩
    · exact .inr hother
  have hkept : ∀ {id other}, db.reservations.get? id = some other →
      reservations.get? id = some other :=
    fun hother => get?_insert_of_some hinsert hother
  have hplanned := isPlanned_recorded hopens.planned
  refine ⟨?_, ?_, ?_, ?_, ?_, ?_, ?_⟩
  · intro _ _ _ hother hown
    rcases hcases hother with ⟨_, rfl⟩ | hother
    · exact fun bubble hbubble => .inl (hplanned bubble hbubble)
    · exact harchives.recorded hother hown
  · intro _ _ _ hother hown
    rcases hcases hother with ⟨_, rfl⟩ | hother
    · exact fun _ => receipted_planned hopens.planned
    · exact harchives.idle hother hown
  · intro _ _ _ hother hown
    rcases hcases hother with ⟨_, rfl⟩ | hother
    · refine .undecided ?_ ?_ ?_
      · rcases hopens.state with hstate | hstate <;> rw [hstate] <;> rfl
      · unfold archivedTexts
        rw [map_eq_nil_iff, filter_eq_nil_iff]
        intro message hmessage hsame
        obtain ⟨_, hfound⟩ := harchives.messages message hmessage
        rw [of_decide_eq_true hsame, habsent] at hfound
        cases hfound
      · unfold deliveredOf
        rw [filter_eq_nil_iff]
        intro item hitem hsame
        obtain ⟨_, hfound⟩ := harchives.delivered item hitem
        rw [of_decide_eq_true hsame, habsent] at hfound
        cases hfound
    · exact (harchives.standing hother hown).frame rfl rfl
        fun _ _ hfound => hfound
  · intro message hmessage
    obtain ⟨found, hfound⟩ := harchives.messages message hmessage
    exact ⟨found, hkept hfound⟩
  · intro item hitem
    obtain ⟨found, hfound⟩ := harchives.delivered item hitem
    exact ⟨found, hkept hfound⟩
  · intro _ _ hbinding
    obtain ⟨id, other, projectionKey, hother, hrest⟩ := harchives.bound hbinding
    exact ⟨id, other, projectionKey, hkept hother, hrest⟩
  · intro _ _ _ _ _ _ bubble bubble' _ hfirst
      hsecond hown hown' hbubble hbubble' hmessage hmessage'
    rcases hcases hfirst with ⟨_, rfl⟩ | hfirst
    · rw [(hplanned bubble hbubble).1] at hmessage
      cases hmessage
    rcases hcases hsecond with ⟨_, rfl⟩ | hsecond
    · rw [(hplanned bubble' hbubble').1] at hmessage'
      cases hmessage'
    · exact harchives.distinct hfirst hsecond hown hown' hbubble hbubble'
        hmessage hmessage'

variable {row' : DeliveryReservation} {kind : ProjectionKind}

omit [Host] in
/-- The bubbles stay: no message identifier comes or goes. -/
theorem Rewrites.sameBubbles [Host] (hbubbles : row'.bubbles = row.bubbles)
    (hrecorded : ∀ bubble ∈ row.bubbles, bubble.Recorded)
    (hidle : row'.state = .drafted ∨ row'.state = .reserved →
      row.receipted = [])
    (hstanding : Standing after row' kind) :
    Rewrites db after row row' kind where
  recorded := hbubbles ▸ hrecorded
  idle := by
    unfold DeliveryReservation.receipted at hidle ⊢
    rw [hbubbles]
    exact hidle
  standing := hstanding
  kept := by
    intro _ _ hbubble
    rw [hbubbles]
    exact hbubble
  fresh := by
    intro bubble hbubble _ hmessage
    exact .inl ⟨bubble, hbubbles ▸ hbubble, hmessage⟩

/-- An undecided reservation has nothing in either archive. -/
theorem Standing.undecided_of (hstanding : Standing db row kind)
    (hopen : isTerminalDeliveryState row.state = false) :
    archivedTexts db row.id = [] ∧ deliveredOf db row.id = [] := by
  cases hstanding with
  | undecided _ harchived hfresh => exact ⟨harchived, hfresh⟩
  | unsaid hterminal | told hterminal =>
    rw [hterminal] at hopen
    cases hopen
  | archived _ _ hstate =>
    rw [hstate] at hopen
    split at hopen <;> cases hopen

/-- Without receipts nothing is archived. -/
theorem Standing.unsaid_of (hstanding : Standing db row kind)
    (hunsaid : row.receipted = []) :
    archivedTexts db row.id = [] ∧ deliveredOf db row.id = [] := by
  cases hstanding with
  | undecided _ harchived hfresh | unsaid _ _ harchived hfresh =>
    exact ⟨harchived, hfresh⟩
  | archived hsaid => exact absurd hunsaid hsaid
  | told _ _ _ _ hsaid =>
    obtain ⟨bubbles, hsome, hreceipted, _⟩ := hsaid
    obtain ⟨bubble, hbubble⟩ := exists_mem_of_ne_nil bubbles hsome
    have hmem : bubble ∈ row.receipted :=
      mem_filter.mpr (hreceipted bubble hbubble)
    rw [hunsaid] at hmem
    cases hmem

/-- The reason of a decision does not bear on the archives. -/
theorem Standing.noted (hstanding : Standing db row kind)
    (reason : Option String) :
    Standing db { row with finalizationReason := reason } kind := by
  cases hstanding with
  | undecided hopen harchived hfresh =>
    exact .undecided hopen harchived hfresh
  | unsaid hterminal hunsaid harchived hfresh =>
    exact .unsaid hterminal hunsaid harchived hfresh
  | archived hsaid hclean hstate harchived hfresh =>
    exact .archived hsaid ⟨hclean.order, hclean.notice, hclean.trimmed,
      hclean.said, hclean.thread, hclean.plain⟩ hstate harchived hfresh
  | told hterminal text rowId evidence hsaid harchived hone hevidence htext =>
    exact .told hterminal text rowId evidence hsaid harchived hone hevidence
      htext

/-- The moves of a reservation, apart from receipts. -/
theorem Archives.moved (harchives : Archives db)
    (hreplaced : Replaced db.reservations reservations row row')
    (hmove : ReservationMove scope row row') (hquiet : scope.receives = false) :
    Archives { db with reservations } := by
  have hrow : db.reservations.get? row.id = some row := hreplaced.stored
  refine @Archives.replaced _ db { db with reservations } row row' harchives
    reservations [] hreplaced hmove.sameSource.1 rfl (append_nil _).symm
    (fun _ hmem => by cases hmem) rfl rfl ?_
  intro _ hkey
  have hrecorded := harchives.recorded hrow hkey
  have hidle := harchives.idle hrow hkey
  have hstanding := harchives.standing hrow hkey
  cases hmove with
  | claimed _ hreserved =>
    obtain ⟨harchived, hfresh⟩ := hstanding.undecided_of (hreserved ▸ rfl)
    refine .sameBubbles rfl hrecorded ?_ (.undecided rfl harchived hfresh)
    rintro (hstate | hstate) <;> cases hstate
  | dispatched _ hsending =>
    obtain ⟨harchived, hfresh⟩ := hstanding.undecided_of (hsending ▸ rfl)
    exact .sameBubbles rfl hrecorded hidle
      (.undecided (show isTerminalDeliveryState row.state = false from
        hsending ▸ rfl) harchived hfresh)
  | receipted _ _ _ _ _ _ hreceives =>
    rw [hquiet] at hreceives
    cases hreceives
  | bound _ hdrafted =>
    obtain ⟨harchived, hfresh⟩ := hstanding.undecided_of (hdrafted ▸ rfl)
    exact .sameBubbles rfl hrecorded (fun _ => hidle (.inl hdrafted))
      (.undecided rfl harchived hfresh)
  | attached _ planned _ hdrafted =>
    obtain ⟨harchived, hfresh⟩ := hstanding.undecided_of (hdrafted ▸ rfl)
    have hplanned : (planned.zipIdx.map fun item =>
        ({ ordinal := item.2, text := item.1 } : DeliveryBubble)).all
          DeliveryBubble.isPlanned = true := by
      rw [all_map, all_eq_true]
      exact fun _ _ => rfl
    refine ⟨fun bubble hbubble => .inl (isPlanned_recorded hplanned bubble
      hbubble), fun _ => receipted_planned hplanned,
      .undecided rfl harchived hfresh, fun htold => absurd hfresh htold, ?_⟩
    intro bubble hbubble _ hmessage
    rw [(isPlanned_recorded hplanned bubble hbubble).1] at hmessage
    cases hmessage
  | aborted _ _ _ hunsent =>
    have hunsaid : row.receipted = [] :=
      hidle (hunsent.imp_right fun hreserved => hreserved.1)
    obtain ⟨harchived, hfresh⟩ := hstanding.unsaid_of hunsaid
    refine .sameBubbles rfl hrecorded ?_
      (.unsaid rfl (.inl hunsaid) harchived hfresh)
    rintro (hstate | hstate) <;> cases hstate
  | owned _ hreserved =>
    obtain ⟨harchived, hfresh⟩ := hstanding.undecided_of (hreserved ▸ rfl)
    exact .sameBubbles rfl hrecorded hidle
      (.undecided (show isTerminalDeliveryState row.state = false from
        hreserved ▸ rfl) harchived hfresh)
  | noted reason =>
    exact .sameBubbles rfl hrecorded hidle ((hstanding.noted reason).frame rfl
      rfl fun _ _ hfound => hfound)

/-- A decision archives what is receipted, where that is clean. -/
theorem Archives.decided (harchives : Archives db)
    {input : FinalizeDeliveryInput}
    (hreplaced : Replaced db.reservations reservations row
      (row.finalized input)) (hopen : isTerminalDeliveryState row.state = false)
    (hdecides : row.projectionKey.isSome = true →
      row.receipted = [] ∨ Clean row) :
    Archives { db with
      reservations
      messages := db.messages ++ row.archived input.ownerId } := by
  have hrow : db.reservations.get? row.id = some row := hreplaced.stored
  have howned : ∀ message ∈ row.archived input.ownerId,
      message.reservationId = row.id := by
    intro _ hmessage
    unfold DeliveryReservation.archived at hmessage
    split at hmessage
    · rw [mem_singleton.mp hmessage]
    · cases hmessage
  refine @Archives.replaced _ db _ row (row.finalized input) harchives
    reservations (row.archived input.ownerId) hreplaced rfl rfl rfl howned rfl
    rfl ?_
  intro _ hkey
  have hterminal : isTerminalDeliveryState (row.finalized input).state = true :=
    reasonFor_terminal _ _ _
  obtain ⟨harchived, hfresh⟩ :=
    (harchives.standing hrow hkey).undecided_of hopen
  refine .sameBubbles rfl (harchives.recorded hrow hkey) ?_ ?_
  · intro hidle
    rcases hidle with hstate | hstate <;> rw [hstate] at hterminal <;>
      cases hterminal
  have htexts : archivedTexts { db with
      reservations
      messages := db.messages ++ row.archived input.ownerId } row.id =
        (row.archived input.ownerId).map (·.text) := by
    rw [archivedTexts_append rfl, harchived, nil_append,
      filter_eq_self.mpr]
    intro message hmessage
    exact decide_eq_true (howned message hmessage)
  by_cases hsaid : row.receipted = []
  · refine .unsaid hterminal (.inl hsaid) ?_ hfresh
    exact htexts.trans (by rw [archived_unsaid hsaid]; rfl)
  · have hclean := (hdecides (by rw [hkey]; rfl)).resolve_left hsaid
    have htexts := htexts.trans (archived_clean hclean input.ownerId)
    refine .archived hsaid ⟨hclean.order, hclean.notice, hclean.trimmed,
      hclean.said, hclean.thread, hclean.plain⟩ ?_ htexts hfresh
    have hcount : 0 < row.receipted.length :=
      length_pos_iff.mpr hsaid
    exact reasonFor_said input.cause hcount
      (Nat.lt_of_lt_of_le hcount (length_filter_le _ _))

/-- A recovered reservation had nothing to archive. -/
theorem Archives.rearmed (harchives : Archives db)
    (hreplaced : Replaced db.reservations reservations row row.rearmed)
    (hunsent : Unsent row) : Archives { db with reservations } := by
  have hrow : db.reservations.get? row.id = some row := hreplaced.stored
  refine @Archives.replaced _ db { db with reservations } row row.rearmed
    harchives reservations [] hreplaced rfl rfl (append_nil _).symm
    (fun _ hmem => by cases hmem) rfl rfl ?_
  intro _ hkey
  have hrecorded := harchives.recorded hrow hkey
  have hunsaid := receipted_unsent hrecorded hunsent.receipts
  obtain ⟨harchived, hfresh⟩ :=
    (harchives.standing hrow hkey).unsaid_of hunsaid
  exact .sameBubbles rfl hrecorded (fun _ => hunsaid)
    (.undecided rfl harchived hfresh)

/-- Writes of the outboxes leave the archives. -/
theorem Archives.aside (harchives : Archives db)
    (outbox : Table ProjectableRow) : Archives { db with outbox } where
  recorded := harchives.recorded
  idle := harchives.idle
  standing := fun hrow hkey =>
    (harchives.standing hrow hkey).frame rfl rfl fun _ _ hfound => hfound
  messages := harchives.messages
  delivered := harchives.delivered
  bound := harchives.bound
  distinct := harchives.distinct

/-- Every write but a receipt keeps the archives, where the decisions that it
may make are clean. -/
theorem Write.archives [DeliveryHost] (harchives : Archives db)
    (hquiet : scope.receives = false)
    (hdecides : ∀ row, scope.decides row →
      isTerminalDeliveryState row.state = false →
      row.projectionKey.isSome = true → row.receipted = [] ∨ Clean row)
    (hwrite : Write scope db after) : Archives after := by
  cases hwrite with
  | opened _ _ hinsert hopens =>
    exact harchives.opened hinsert hopens
  | moved _ _ _ hreplaced hmove =>
    exact harchives.moved hreplaced hmove hquiet
  | decided row _ _ hreplaced hopen hallowed =>
    refine harchives.decided hreplaced hopen fun hkeyed => ?_
    obtain ⟨_, hkey⟩ := Option.isSome_iff_exists.mp hkeyed
    have hrow : db.reservations.get? row.id = some row := hreplaced.stored
    rcases hallowed with hidle | hunsent | hallowed
    · refine .inl (harchives.idle hrow hkey ?_)
      cases hstate : row.state <;> rw [hstate] at hopen hidle <;>
        first
        | exact .inl rfl
        | exact .inr rfl
        | exact absurd rfl hidle
        | cases hopen
    · exact .inl
        (receipted_unsent (harchives.recorded hrow hkey) hunsent)
    · exact hdecides row hallowed hopen hkeyed
  | rearmed _ _ _ hreplaced _ hunsent =>
    exact harchives.rearmed hreplaced hunsent
  | entered | status | suppressed | superseded | recovered | addressed =>
    exact harchives.aside _
  | evidenced _ _ _ _ _ hreservation hkey hok =>
    exact (markDelivered_archives harchives hreservation hkey hok).1

end CognitiveSidecar.Delivery
