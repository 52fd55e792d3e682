/-
Whole runs of the external ingress: an evidence row gets one outcome, and the
notices of a day are capped, however captures and batches are replayed.
-/
import CognitiveSidecar.Lib.Separated
import CognitiveSidecar.SocialIngress
import Mathlib.Data.List.Perm.Subperm

namespace CognitiveSidecar.Social

open Option List Relational Table Process

variable {db after : SocialDb}
variable {input : ExternalBatchInput}
variable {marker : ExternalMarker} {nowMs : Int}
variable {result : Disposition × Option Nat} {position : Nat}
variable {results : List (Disposition × Option Nat)}
variable {kind kind' : MarkerKind}

/-- A notice of one window of a day. -/
def IsWindowNotice (ownerId principalId day : String) (row : SocialNotice) :
    Prop :=
  ∃ window : Int, row.noticeKey = windowKey ownerId principalId day window

/-- What the ingress keeps: an outcome is named after its kind and its evidence
row, no evidence row has both outcomes, and the notices have distinct keys and
are capped. -/
structure Admitted (db : SocialDb) : Prop where
  named : ∀ id marker, db.markers.get? id = some marker →
    marker.kind ≠ .externalCaptured →
    id = outcomeMarkerId marker.kind marker.evidenceRowId
  oneOutcome : ∀ evidenceRowId,
    db.markers.get? (outcomeMarkerId .externalEligiblePending evidenceRowId) =
      none ∨
    db.markers.get? (outcomeMarkerId .quarantinedExternal evidenceRowId) = none
  distinctKeys : (db.notices.rows.map SocialNotice.noticeKey).Nodup
  capped : ∀ ownerId principalId day (found : List SocialNotice),
    found.Nodup →
    (∀ row ∈ found, row ∈ db.notices.rows ∧
      IsWindowNotice ownerId principalId day row) →
    found.length ≤ maxSocialNotificationsPerDay

theorem admitted_initial : Admitted {} where
  named := fun _ _ hmarker => nomatch hmarker
  oneOutcome := fun _ => .inl rfl
  distinctKeys := nodup_nil
  capped := by
    intro _ _ _ found _ hfound
    cases found with
    | nil => exact Nat.zero_le _
    | cons row => cases (hfound row mem_cons_self).1

/-- Two stored outcomes of an evidence row are of one kind. -/
theorem Admitted.kind_eq (hdb : Admitted db) {evidenceRowId : String}
    {other : ExternalMarker} (hkind : kind ≠ .externalCaptured)
    (hkind' : kind' ≠ .externalCaptured)
    (hmarker : db.markers.get? (outcomeMarkerId kind evidenceRowId) =
      some marker)
    (hother : db.markers.get? (outcomeMarkerId kind' evidenceRowId) =
      some other) : kind = kind' := by
  have hone := hdb.oneOutcome evidenceRowId
  cases kind <;> cases kind' <;> first | contradiction | rfl | skip
  · exact absurd (hmarker.symm.trans (hone.resolve_right
      (by rw [hother]; exact some_ne_none other))) (some_ne_none _)
  · exact absurd (hother.symm.trans (hone.resolve_right
      (by rw [hmarker]; exact some_ne_none marker)))
      (some_ne_none _)

/-! Identifiers. -/

/-- An outcome is told by its identifier. -/
theorem outcomeMarkerId_inj {id id' : String} (hkind : kind ≠ .externalCaptured)
    (hkind' : kind' ≠ .externalCaptured)
    (heq : outcomeMarkerId kind id = outcomeMarkerId kind' id') :
    kind = kind' ∧ id = id' := by
  cases kind <;> cases kind' <;> first | contradiction | skip
  · exact ⟨rfl, joined_inj heq⟩
  · exact absurd heq (joined_ne (by decide) (by decide))
  · exact absurd heq (joined_ne (by decide) (by decide))
  · exact ⟨rfl, joined_inj heq⟩

theorem captureMarkerId_ne (kind : MarkerKind) (id id' : String) :
    captureMarkerId id ≠ outcomeMarkerId kind id' := by
  cases kind <;> exact joined_ne (by decide) (by decide)

/-- A digest is no notice of a window. -/
theorem digestKey_ne (ownerId principalId day ownerId' principalId' day' : String)
    (window : Int) : digestKey ownerId principalId day ≠
      windowKey ownerId' principalId' day' window := by
  unfold digestKey windowKey windowStem
  simp only [String.append_assoc]
  exact @joined_ne "social_notify_digest:" "social_notify:" _ _
    (by decide) (by decide)

/-- The keys of a day match the pattern that counts them. -/
theorem like_windowKey (ownerId principalId day : String) (window : Int) :
    like (windowStem ownerId principalId day ++ ":" ++ "%").toList
      (windowKey ownerId principalId day window).toList = true := by
  have hstem (last : String) :
      (windowStem ownerId principalId day ++ ":" ++ last).toList =
        (windowStem ownerId principalId day ++ ":").toList ++ last.toList :=
    String.toList_append
  unfold windowKey
  rw [hstem, hstem]
  exact like_prefix _ _

/-! Writes. -/

/-- A capture says nothing of outcomes. -/
theorem Admitted.insertCapture (hdb : Admitted db)
    (hid : marker.id = captureMarkerId marker.evidenceRowId)
    (hkind : marker.kind = .externalCaptured) :
    Admitted (insertExternalMarker marker db) where
  named := by
    intro id found hfound houtcome
    rcases of_get?_insertNew hfound with rfl | hold
    · exact absurd hkind houtcome
    · exact hdb.named id found hold houtcome
  oneOutcome := by
    intro evidenceRowId
    have hkept (kind : MarkerKind)
        (hnone : db.markers.get? (outcomeMarkerId kind evidenceRowId) = none) :
        (insertExternalMarker marker db).markers.get?
          (outcomeMarkerId kind evidenceRowId) = none := by
      refine get?_insertNew_of_ne hnone ?_
      show outcomeMarkerId kind evidenceRowId ≠ marker.id
      rw [hid]
      exact (captureMarkerId_ne kind _ _).symm
    exact (hdb.oneOutcome evidenceRowId).imp (hkept _) (hkept _)
  distinctKeys := hdb.distinctKeys
  capped := hdb.capped

/-- An outcome of an evidence row that has none. -/
theorem Admitted.insertOutcome (hdb : Admitted db)
    (hid : marker.id = outcomeMarkerId marker.kind marker.evidenceRowId)
    (hkind : marker.kind ≠ .externalCaptured)
    (hnone : hasExternalOutcome db marker.evidenceRowId = false) :
    Admitted (insertExternalMarker marker db) where
  named := by
    intro id found hfound houtcome
    rcases of_get?_insertNew hfound with rfl | hold
    · exact (key_of_get? hfound).symm.trans hid
    · exact hdb.named id found hold houtcome
  oneOutcome := by
    intro evidenceRowId
    obtain ⟨heligible, hquarantine⟩ := Bool.or_eq_false_iff.mp hnone
    have hkept (kind : MarkerKind) (hother : kind ≠ .externalCaptured)
        (hdiffers : kind ≠ marker.kind ∨ evidenceRowId ≠ marker.evidenceRowId)
        (hold : db.markers.get? (outcomeMarkerId kind evidenceRowId) = none) :
        (insertExternalMarker marker db).markers.get?
          (outcomeMarkerId kind evidenceRowId) = none := by
      refine get?_insertNew_of_ne hold fun heq => ?_
      obtain ⟨hsame, hrow⟩ :=
        outcomeMarkerId_inj hother hkind (heq.trans hid)
      exact hdiffers.elim (absurd hsame) (absurd hrow)
    by_cases hrow : evidenceRowId = marker.evidenceRowId
    · -- the row had no outcome, and gets one of the two
      subst hrow
      cases hmarker : marker.kind with
      | externalCaptured => exact absurd hmarker hkind
      | externalEligiblePending =>
        exact .inr (hkept _ (by decide)
          (.inl (by rw [hmarker]; decide))
          (isNone_iff_eq_none.mp
            (by simpa using hquarantine)))
      | quarantinedExternal =>
        exact .inl (hkept _ (by decide)
          (.inl (by rw [hmarker]; decide))
          (isNone_iff_eq_none.mp
            (by simpa using heligible)))
    · exact (hdb.oneOutcome evidenceRowId).imp
        (hkept _ (by decide) (.inr hrow)) (hkept _ (by decide) (.inr hrow))
  distinctKeys := hdb.distinctKeys
  capped := hdb.capped

/-- A notice of a new key, counted before it is written. -/
theorem Admitted.insertNotice (hdb : Admitted db) {notice : SocialNotice}
    {notices : Table SocialNotice}
    (hinsert : db.notices.insert? notice = some notices)
    (hnew : noticeWithKey db notice.noticeKey = none)
    (hcounted : ∀ ownerId principalId day,
      IsWindowNotice ownerId principalId day notice →
      countLike db (windowStem ownerId principalId day ++ ":" ++ "%") <
        maxSocialNotificationsPerDay) :
    Admitted { db with notices } where
  named := hdb.named
  oneOutcome := hdb.oneOutcome
  distinctKeys := by
    rw [(insert?_eq_some hinsert).2, map_append]
    refine List.Nodup.append hdb.distinctKeys (nodup_singleton _) ?_
    intro _ hold hlast
    obtain ⟨row, hrow, hkey⟩ := mem_map.mp hold
    rw [map_singleton, mem_singleton] at hlast
    have hdiffers := List.find?_eq_none.mp hnew row hrow
    exact hdiffers (decide_eq_true (hkey.trans hlast))
  capped := by
    intro ownerId principalId day found hnodup hfound
    by_cases hmem : notice ∈ found
    · -- the notices besides the new one were all counted
      have hcount := hcounted ownerId principalId day (hfound notice hmem).2
      have hsubset : found.erase notice ⊆ db.notices.rows.filter fun row =>
          like (windowStem ownerId principalId day ++ ":" ++ "%").toList
            row.noticeKey.toList := by
        intro row hrow
        obtain ⟨hne, hrow⟩ := (List.Nodup.mem_erase_iff hnodup).mp hrow
        obtain ⟨hin, window, hkey⟩ := hfound row hrow
        refine mem_filter.mpr ⟨?_, ?_⟩
        · exact ((mem_insert_iff hinsert).mp hin).resolve_right hne
        · rw [hkey]
          exact like_windowKey ownerId principalId day window
      have hle := (subperm_of_subset (hnodup.erase notice) hsubset).length_le
      have herase := length_erase_of_mem hmem
      unfold countLike at hcount
      omega
    · refine hdb.capped ownerId principalId day found hnodup fun row hrow => ?_
      obtain ⟨hin, hwindow⟩ := hfound row hrow
      refine ⟨((mem_insert_iff hinsert).mp hin).resolve_right ?_, hwindow⟩
      rintro rfl
      exact hmem hrow

/-! Steps. -/

/-- Queueing a notice leaves the rest of the sidecar alone. -/
theorem queueSocialNotification_admitted {ownerId principalId : String}
    {conversationId : String} {result : Nat × Bool} (hdb : Admitted db)
    (hok : queueSocialNotificationInTransaction ownerId principalId
      conversationId nowMs db = .ok (result, after)) :
    Admitted after ∧ after.log = db.log ∧ after.columns = db.columns ∧
      after.markers = db.markers := by
  unfold queueSocialNotificationInTransaction at hok
  dsimp only at hok
  obtain ⟨_, _, hok⟩ := of_orFault hok
  split at hok
  · cases of_pure hok
    exact ⟨hdb, rfl, rfl, rfl⟩
  · split at hok
    · cases of_pure hok
      exact ⟨hdb, rfl, rfl, rfl⟩
    · rename_i hnew
      obtain ⟨_, hinsert, hok⟩ := of_orFault hok
      cases of_pure hok
      refine ⟨hdb.insertNotice hinsert hnew ?_, rfl, rfl, rfl⟩
      rintro _ _ _ ⟨_, hkey⟩
      split at hkey
      · exact absurd hkey (digestKey_ne _ _ _ _ _ _ _)
      · rename_i huncapped
        -- the stems agree, so the count was of these notices
        rw [← (joined_number_inj hkey).1]
        simpa using huncapped

/-- The outcome of a capture that is on record. -/
theorem admitEvidence_admitted {captureRef : String} {evidence : Evidence}
    {reading : ItemReading} (hdb : Admitted db)
    (hnone : hasExternalOutcome db evidence.rowId = false)
    (hok : admitEvidence input captureRef evidence reading db =
      .ok (result, after)) : Admitted after := by
  unfold admitEvidence at hok
  dsimp only at hok
  split at hok
  · cases of_pure hok
    exact hdb
  · cases of_pure hok
    exact hdb.insertOutcome rfl MarkerKind.noConfusion hnone
  · obtain ⟨⟨_, _⟩, hqueue, hok⟩ := of_bind hok
    obtain ⟨hmid, _, _, hmarkers⟩ :=
      queueSocialNotification_admitted hdb hqueue
    cases of_pure hok
    refine hmid.insertOutcome rfl MarkerKind.noConfusion ?_
    unfold hasExternalOutcome at hnone ⊢
    rw [hmarkers]
    exact hnone

theorem admitItem_admitted {rawRef : String} (hdb : Admitted db)
    (hok : admitItem input position rawRef db = .ok (result, after)) :
    Admitted after := by
  replace hok := passed hok
  dsimp only at hok
  split at hok
  · cases of_pure hok
    exact hdb
  · rename_i marker _
    split at hok
    · cases of_pure hok
      exact hdb
    · rename_i hnone
      split at hok
      · cases of_pure hok
        exact hdb
      · split at hok
        · cases of_pure hok
          exact hdb
        · rename_i evidence hevidence
          have hrow : evidence.rowId = marker.evidenceRowId :=
            key_of_get? (eq_some_of_filter_eq_some hevidence)
          refine admitEvidence_admitted hdb ?_ hok
          rw [hrow]
          exact Bool.eq_false_iff.mpr hnone

theorem admitItems_admitted {rawRefs : List String} (hdb : Admitted db)
    (hok : admitItems input position rawRefs db = .ok (results, after)) :
    Admitted after := by
  induction rawRefs generalizing db position results with
  | nil =>
    cases of_pure hok
    exact hdb
  | cons _ _ ih =>
    obtain ⟨⟨_, _⟩, hitem, hok⟩ := of_bind hok
    obtain ⟨⟨_, _⟩, hrest, hok⟩ := of_bind hok
    cases of_pure hok
    exact ih (admitItem_admitted hdb hitem) hrest

theorem admitExternalBatch_admitted (hdb : Admitted db)
    (hok : admitExternalBatch input db = .ok (results, after)) :
    Admitted after := by
  obtain ⟨_, _, hok⟩ := of_orFault hok
  replace hok := passed hok
  exact admitItems_admitted hdb hok

theorem admitExternalCapture_admitted [Host] {body : ExternalCapture}
    {interrupted : Bool} {result : String × Bool} (hdb : Admitted db)
    (hok : admitExternalCapture body nowMs interrupted db =
      .ok (result, after)) : Admitted after := by
  obtain ⟨⟨_, _, log⟩, _, hok⟩ := of_bind hok
  replace hok := passed hok
  replace hok := passed hok
  cases of_pure hok
  have hcolumns (log : Sidecar) (columns : Table ExternalColumns) :
      Admitted { db with log, columns } :=
    ⟨hdb.named, hdb.oneOutcome, hdb.distinctKeys, hdb.capped⟩
  exact (hcolumns _ _).insertCapture rfl rfl

theorem socialStep_admitted [Host] (input : SocialOp × Nat) (db : SocialDb)
    (hdb : Admitted db) : Admitted (socialStep input db) := by
  obtain ⟨op, lives⟩ := input
  have hleaves : Leaves db op.process (fun _ => Admitted) Admitted := by
    cases op with
    | capture =>
      refine leaves_commit hdb fun _ _ hok => leaves_pure ?_
      exact admitExternalCapture_admitted hdb hok
    | batch =>
      refine leaves_commit hdb fun _ _ hok => leaves_pure ?_
      exact admitExternalBatch_admitted hdb hok
  have hend := hleaves lives
  unfold socialStep
  split at hend
  · rename_i heq
    rw [heq]
    exact hend
  · rename_i heq
    rw [heq]
    exact hend

/-- An operation that fails, at whatever point, changes nothing. -/
theorem process_failed [Host] {op : SocialOp} {lives : Nat}
    {halt : Halt SocialFault}
    (hfailed : (op.process lives db).1 = .error halt) :
    (op.process lives db).2 = db := by
  have hleaves : Leaves db op.process (fun _ _ => True) (· = db) := by
    cases op with
    | capture | batch =>
      exact leaves_commit rfl fun _ _ _ => leaves_pure trivial
  have hend := hleaves lives
  split at hend
  · rename_i heq
    rw [heq] at hfailed
    cases hfailed
  · rename_i heq
    rw [heq]
    exact hend

/-- Through every sequence of captures and batches, replayed, overlapping or
failing midway: two outcomes of one evidence row are one marker, a failed
operation leaves the sidecar as it was, and an owner, a principal and a day have
at most twenty notices of windows and one digest. -/
theorem social_admission_once [Host] (inputs : List (SocialOp × Nat)) :
    let db := run socialStep {} inputs
    (∀ marker ∈ db.markers.rows, ∀ other ∈ db.markers.rows,
      marker.kind ≠ .externalCaptured → other.kind ≠ .externalCaptured →
      marker.evidenceRowId = other.evidenceRowId → marker = other) ∧
    (∀ op lives halt, (SocialOp.process op lives db).1 = .error halt →
      (SocialOp.process op lives db).2 = db) ∧
    ∀ ownerId principalId day,
      (∀ found : List SocialNotice, found.Nodup →
        (∀ row ∈ found, row ∈ db.notices.rows ∧
          IsWindowNotice ownerId principalId day row) →
        found.length ≤ 20) ∧
      ∀ row ∈ db.notices.rows, ∀ other ∈ db.notices.rows,
        row.noticeKey = digestKey ownerId principalId day →
        other.noticeKey = digestKey ownerId principalId day → row = other := by
  intro db
  have hdb : Admitted db :=
    run_preserves socialStep_admitted admitted_initial inputs
  refine ⟨?_, fun _ _ _ => process_failed, ?_⟩
  · intro marker hmarker other hother hkind hkind' hrow
    have hnamed := hdb.named _ marker (get?_key hmarker) hkind
    have hnamed' := hdb.named _ other (get?_key hother) hkind'
    have hstored := get?_key hmarker
    have hstored' := get?_key hother
    have hsame : marker.kind = other.kind :=
      hdb.kind_eq hkind hkind' (hnamed ▸ hstored)
        (hrow ▸ hnamed' ▸ hstored')
    have hids : key marker = key other := by
      rw [hnamed, hnamed', hsame, hrow]
    rw [hids, hstored'] at hstored
    exact (Option.some.inj hstored).symm
  · intro ownerId principalId day
    refine ⟨hdb.capped ownerId principalId day, ?_⟩
    intro _ hrow _ hother hkey hkey'
    exact List.inj_on_of_nodup_map hdb.distinctKeys hrow hother
      (hkey.trans hkey'.symm)

section Plain

attribute [local instance] plainHost

/-- A captured message that is batched twice is quarantined once. -/
example :
    let capture : SocialOp := .capture
      { conversationKey := "c", message := "hello", discordMessageId := "m"
        speakerPrincipalId := "p", location := .externalDm "p" "dm" } 0 false
    let batch : SocialOp := .batch
      { captureRefs := ["extcap:uu"], conversationKey := "c", nowMs := 0
        reading := fun _ =>
          ⟨some ⟨1, 1, .captureQuarantine, false, false⟩, false⟩ }
    let db := run socialStep {} [(capture, 1), (batch, 1), (batch, 1)]
    db.markers.rows.map (·.id) =
        ["external:capture:uu", "external:quarantine:uu"] ∧
      db.notices.rows.map (·.noticeKey) =
        ["social_notify:default:p:1970-01-01:window:0"] := by
  decide +kernel

end Plain

end CognitiveSidecar.Social
