/-
The evidence log: what one append writes, and which row its identifiers lead
back to.
-/
import CognitiveSidecar.EvidenceLog
import CognitiveSidecar.LedgerMoves

namespace CognitiveSidecar

open Option List Relational

variable [Host] {permit : Permit} {db after : Sidecar}
variable {id : String} {input : AppendEvidenceInput} {evidence : Evidence}
variable {conversationId lineageId : String} {binding : DiscordBinding}
variable {items : List (String × Nat)} {table : Table DiscordBinding}
variable {role : EvidenceRole}

omit [Host] in
/-- A bound identifier stays bound to its lineage. -/
theorem foldl_bind_of_bound (hbound : table.get? id = some binding) :
    (items.foldl (bindDiscordId conversationId lineageId) table).get? id =
      some binding := by
  induction items generalizing table with
  | nil => exact hbound
  | cons item _ ih =>
    refine ih ?_
    unfold bindDiscordId
    cases hinsert : table.insert?
        ⟨item.1, conversationId, lineageId, item.2⟩ with
    | none => exact hbound
    | some => exact get?_insert_of_some hinsert hbound

omit [Host] in
/-- An unbound identifier of the batch is bound to the lineage. -/
theorem foldl_bind_of_free (hfree : table.get? id = none)
    (hmem : ∃ item ∈ items, item.1 = id) :
    ∃ binding, (items.foldl (bindDiscordId conversationId lineageId)
      table).get? id = some binding ∧ binding.lineageId = lineageId := by
  induction items generalizing table with
  | nil =>
    obtain ⟨_, hin, _⟩ := hmem
    cases hin
  | cons item _ ih =>
    rw [foldl_cons]
    by_cases hhere : item.1 = id
    · have hkey : table.get? (key (⟨item.1, conversationId, lineageId,
          item.2⟩ : DiscordBinding)) = none := by
        rw [← hhere] at hfree
        exact hfree
      obtain ⟨_, hinsert⟩ := exists_insert? hkey
      refine ⟨⟨item.1, conversationId, lineageId, item.2⟩, ?_, rfl⟩
      refine foldl_bind_of_bound ?_
      unfold bindDiscordId
      rw [hinsert, getD_some, get?_insert hinsert]
      exact if_pos hhere.symm
    · refine ih ?_ ?_
      · unfold bindDiscordId
        cases hinsert : table.insert?
            ⟨item.1, conversationId, lineageId, item.2⟩ with
        | none => exact hfree
        | some =>
          rw [getD_some, get?_insert hinsert]
          rw [if_neg (fun heq => hhere heq.symm)]
          exact hfree
      · obtain ⟨other, hin, hid⟩ := hmem
        rcases mem_cons.mp hin with rfl | hin
        · exact absurd hid hhere
        · exact ⟨other, hin, hid⟩

/-- What an append writes: one row, the newest of its lineage, and a binding
for each identifier that had none. -/
structure EvidenceRecorded (db after : Sidecar) (input : AppendEvidenceInput)
    (evidence : Evidence) : Prop where
  frame : after = { db with
    evidence := after.evidence, discordIds := after.discordIds
    uuidsDrawn := after.uuidsDrawn }
  inserted : db.evidence.insert? evidence = some after.evidence
  drawn : ∃ k, db.uuidsDrawn ≤ k ∧ k < after.uuidsDrawn ∧
    evidence.rowId = Host.randomUUID k
  conversationId : evidence.conversationId = input.conversationId
  text : evidence.text = (normalizeClassification input.text).1
  bindings : after.discordIds = evidence.discordMessageIds.zipIdx.foldl
    (bindDiscordId input.conversationId evidence.lineageId) db.discordIds
  newest : ∀ id row, db.evidence.get? id = some row →
    row.lineageId = evidence.lineageId → row.version < evidence.version

omit [Host] in
theorem lt_nextVersion {requested : Nat} {isEdit : Bool} {row : Evidence}
    (hrow : db.evidence.get? id = some row)
    (hlineage : row.lineageId = lineageId) :
    row.version < nextVersion db lineageId requested isEdit := by
  have hmem : row.version ∈ (db.evidence.rows.filter
      (·.lineageId = lineageId)).map Evidence.version :=
    mem_map_of_mem (mem_filter.mpr
      ⟨mem_of_get? hrow, decide_eq_true hlineage⟩)
  unfold nextVersion
  generalize (db.evidence.rows.filter (·.lineageId = lineageId)).map
    Evidence.version = versions at hmem
  have hsome : versions ≠ [] := ne_nil_of_mem hmem
  cases hmax : versions.max? with
  | none => exact absurd (List.max?_eq_none_iff.mp hmax) hsome
  | some =>
    have hle := (List.max?_le_iff hmax).mp (Nat.le_refl _) _ hmem
    simp only [hmax, hsome, getD_some, ne_eq, not_false_eq_true,
      decide_true, Bool.or_true, if_true]
    omega

theorem insertEvidence_cases {parent : Option Evidence}
    (hok : insertEvidence db role input parent = .ok (evidence, after)) :
    EvidenceRecorded db after input evidence ∧
      (parent = none →
        evidence.discordMessageIds = uniqueIds input.discordMessageIds) := by
  unfold insertEvidence at hok
  simp only [Sidecar.drawUUID] at hok
  generalize hmid : (if (input.lineageId.or
    (parent.map Evidence.lineageId)).isSome then db else db.drew) = mid at hok
  have hframe : mid = { db with uuidsDrawn := mid.uuidsDrawn } := by
    rw [← hmid]
    split <;> rfl
  have hle : db.uuidsDrawn ≤ mid.uuidsDrawn := by
    rw [← hmid]
    split
    · exact Nat.le_refl _
    · exact Nat.le_succ _
  have hevidence : mid.evidence = db.evidence := by rw [hframe]
  have hbindings : mid.discordIds = db.discordIds := by rw [hframe]
  obtain ⟨_, htable, hok⟩ := of_orFault hok
  cases of_pure hok
  refine ⟨⟨?_, ?_, ⟨mid.uuidsDrawn, hle, Nat.lt_succ_self _, rfl⟩, rfl, rfl, ?_,
    ?_⟩, ?_⟩
  · rw [hframe]
    rfl
  · rw [← hevidence]
    exact htable
  · rw [← hbindings]
    rfl
  · intro _ _ hrow hlineage
    rw [← hevidence] at hrow
    exact lt_nextVersion hrow hlineage
  · intro hnone
    simp only [hnone, map_none, getD_none]
    split
    · rename_i hempty
      exact hempty.symm
    · rfl

theorem EvidenceRecorded.stored
    (hrecorded : EvidenceRecorded db after input evidence) :
    after.evidence.get? evidence.rowId = some evidence := by
  rw [get?_insert hrecorded.inserted]
  exact if_pos rfl

/-- An identifier of the batch that nobody had bound is bound to the row. -/
theorem EvidenceRecorded.bound
    (hrecorded : EvidenceRecorded db after input evidence)
    (hmem : id ∈ evidence.discordMessageIds)
    (hfree : db.discordIds.get? id = none) :
    ∃ binding, after.discordIds.get? id = some binding ∧
      binding.lineageId = evidence.lineageId := by
  rw [hrecorded.bindings]
  obtain ⟨position, hposition, hid⟩ := getElem_of_mem hmem
  refine foldl_bind_of_free hfree ⟨(id, position), ?_, rfl⟩
  rw [mk_mem_zipIdx_iff_getElem?, List.getElem?_eq_getElem hposition, hid]

theorem EvidenceRecorded.keeps_binding
    (hrecorded : EvidenceRecorded db after input evidence)
    (hbound : db.discordIds.get? id = some binding) :
    after.discordIds.get? id = some binding := by
  rw [hrecorded.bindings]
  exact foldl_bind_of_bound hbound

theorem EvidenceRecorded.moved
    (hrecorded : EvidenceRecorded db after input evidence) :
    Moved permit db after := by
  obtain ⟨k, _⟩ := hrecorded.drawn
  refine .aside (by omega) ?_ ?_ ?_ ?_ (.same ?_) <;> rw [hrecorded.frame]

/-- An append answers with the row of a known identifier, or records one. -/
theorem appendEvidenceInTransaction_cases
    (hok : appendEvidenceInTransaction db role input = .ok (evidence, after)) :
    (after = db ∧ existingByDiscordIds db (uniqueIds input.discordMessageIds) =
      some evidence) ∨ EvidenceRecorded db after input evidence := by
  replace hok := passed hok
  split at hok
  · obtain ⟨_, _, hok⟩ := of_orFault hok
    exact .inr (insertEvidence_cases hok).1
  split at hok
  · rename_i hexisting
    cases of_pure hok
    exact .inl ⟨rfl, hexisting⟩
  · exact .inr (insertEvidence_cases hok).1

/-- An utterance is a duplicate when one of its identifiers is known. -/
theorem appendOwnerUtteranceInTransaction_cases
    {appended : AppendOwnerUtteranceResult} (hedit : input.editOfRowId = none)
    (hok : appendOwnerUtteranceInTransaction db input =
      .ok (appended, after)) :
    (existingByDiscordIds db (uniqueIds input.discordMessageIds) =
        some appended.evidence ∧ appended.duplicate = true ∧ after = db) ∨
    (existingByDiscordIds db (uniqueIds input.discordMessageIds) = none ∧
      appended.duplicate = false ∧
      EvidenceRecorded db after input appended.evidence ∧
      appended.evidence.discordMessageIds =
        uniqueIds input.discordMessageIds) := by
  unfold appendOwnerUtteranceInTransaction at hok
  simp only [hedit, filter_none, isSome_none,
    Bool.false_eq_true, if_false] at hok
  cases hknown : existingByDiscordIds db (uniqueIds input.discordMessageIds)
    with
  | some =>
    simp only [hknown] at hok
    cases of_pure hok
    exact .inl ⟨rfl, rfl, rfl⟩
  | none =>
    simp only [hknown] at hok
    obtain ⟨⟨_, _⟩, happend, hok⟩ := of_bind hok
    cases of_pure hok
    replace happend := passed happend
    simp only [hedit, filter_none, hknown] at happend
    obtain ⟨hrecorded, hids⟩ := insertEvidence_cases happend
    exact .inr ⟨rfl, rfl, hrecorded, hids rfl⟩

end CognitiveSidecar
