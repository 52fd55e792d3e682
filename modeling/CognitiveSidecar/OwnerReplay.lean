/-
Replay of captured messages: how the cuts of a group lie in the parts of a turn,
and what the turns under way owe to the messages that ingress knows already.
-/
import CognitiveSidecar.IngressMoves
import CognitiveSidecar.Lib.Run
import CognitiveSidecar.OwnerTurns
import CognitiveSidecar.TrimmedText

namespace CognitiveSidecar.OwnerTransport

variable {group : List Fragment}
variable {fragment : Fragment} {piece : OwnerTurnPiece}
variable {front back : List OwnerTurnPiece}

open List Relational

/-! The cuts of a group. -/

def Fragment.cutPieces (fragment : Fragment) : List OwnerTurnPiece :=
  fragment.pieces ownerTurnTextLimit

def groupPieces (group : List Fragment) : List OwnerTurnPiece :=
  group.flatMap Fragment.cutPieces

theorem mem_cutPieces (hpiece : piece ∈ fragment.cutPieces) :
    piece.id = fragment.id := by
  obtain ⟨_, _, rfl⟩ := mem_mapIdx.mp hpiece
  rfl

/-- The cuts of a fragment begin with the one that carries its identifier. -/
theorem cutPieces_eq_cons (fragment : Fragment) :
    ∃ first rest, fragment.cutPieces = first :: rest ∧ first.index = 0 := by
  unfold Fragment.cutPieces Fragment.pieces
  have hcuts : OwnerTransport.pieces fragment.text ownerTurnTextLimit ≠ [] := by
    unfold OwnerTransport.pieces
    split <;> exact cons_ne_nil _ _
  obtain ⟨_, _, htexts⟩ := exists_cons_of_ne_nil hcuts
  rw [htexts, mapIdx_cons]
  exact ⟨_, _, rfl, rfl⟩

/-- The cut at a place carries the place as its index. -/
theorem index_cutPieces {before after : List OwnerTurnPiece}
    (hsplit : fragment.cutPieces = before ++ piece :: after) :
    piece.index = before.length := by
  have hget : fragment.cutPieces[before.length]? = some piece := by
    rw [hsplit, List.getElem?_append_right (Nat.le_refl _), Nat.sub_self,
      List.getElem?_cons_zero]
  unfold Fragment.cutPieces Fragment.pieces at hget
  rw [List.getElem?_mapIdx] at hget
  obtain ⟨_, _, rfl⟩ := Option.map_eq_some_iff.mp hget
  rfl

theorem cutPieces_nodup (fragment : Fragment) : fragment.cutPieces.Nodup := by
  refine List.Nodup.of_map OwnerTurnPiece.index ?_
  have hindexes : fragment.cutPieces.map OwnerTurnPiece.index =
      List.range fragment.cutPieces.length := by
    apply ext_getElem (by simp)
    simp [Fragment.cutPieces, Fragment.pieces]
  rw [hindexes]
  exact nodup_range

theorem groupPieces_nodup (hnodup : (group.map (·.id)).Nodup) :
    (groupPieces group).Nodup := by
  unfold groupPieces
  rw [nodup_flatMap]
  refine ⟨fun fragment _ => cutPieces_nodup fragment, ?_⟩
  refine (pairwise_map.mp hnodup).imp ?_
  intro _ _ hne _ hfirst hsecond
  exact hne ((mem_cutPieces hfirst).symm.trans (mem_cutPieces hsecond))

/-- Where a cut occurs in the front of a group, the first cut of its message
does. -/
theorem first_mem_front (hsplit : groupPieces group = front ++ back)
    (hpiece : piece ∈ front) :
    ∃ first ∈ front, first.id = piece.id ∧ first.index = 0 := by
  induction group generalizing front with
  | nil =>
    rw [(append_eq_nil_iff.mp hsplit.symm).1] at hpiece
    cases hpiece
  | cons fragment rest ih =>
    obtain ⟨first, _, hcuts, hfirst⟩ := cutPieces_eq_cons fragment
    have hid : first.id = fragment.id :=
      mem_cutPieces (by rw [hcuts]; exact mem_cons_self)
    have hsplit' : fragment.cutPieces ++ groupPieces rest = front ++ back :=
      hsplit
    rcases append_eq_append_iff.mp hsplit' with
      ⟨_, rfl, hrest⟩ | ⟨_, hblock, _⟩
    · rcases mem_append.mp hpiece with hin | hin
      · refine ⟨first, mem_append_left _ ?_, ?_, hfirst⟩
        · rw [hcuts]
          exact mem_cons_self
        · rw [hid, mem_cutPieces hin]
      · obtain ⟨found, hfound, hsame⟩ := ih hrest hin
        exact ⟨found, mem_append_right _ hfound, hsame⟩
    · obtain ⟨head, _, rfl⟩ :=
          exists_cons_of_ne_nil (ne_nil_of_mem hpiece)
      have hhead : head = first := by
        rw [hcuts] at hblock
        exact (List.cons.inj hblock).1.symm
      refine ⟨first, by rw [hhead]; exact mem_cons_self, ?_, hfirst⟩
      have hin : piece ∈ fragment.cutPieces := by
        rw [hblock]
        exact mem_append_left _ hpiece
      rw [hid, mem_cutPieces hin]

/-- Where the front of a group holds the first cut of a message, the cuts of it
that remain are those up to the next message. -/
theorem mem_takeWhile_back (hnodup : (group.map (·.id)).Nodup)
    (hsplit : groupPieces group = front ++ back) (hfragment : fragment ∈ group)
    {first : OwnerTurnPiece} (hfirst : first ∈ front)
    (hid : first.id = fragment.id) (hpiece : piece ∈ fragment.cutPieces) :
    piece ∈ front ∨ piece ∈ back.takeWhile (·.index ≠ 0) := by
  induction group generalizing front with
  | nil => cases hfragment
  | cons head rest ih =>
    rw [map_cons, nodup_cons] at hnodup
    have hsplit' : head.cutPieces ++ groupPieces rest = front ++ back := hsplit
    rcases append_eq_append_iff.mp hsplit' with
      ⟨more, rfl, hrest⟩ | ⟨more, hblock, hback⟩
    · rcases mem_cons.mp hfragment with rfl | hin
      · exact .inl (mem_append_left _ hpiece)
      · have hmore : first ∈ more := by
          rcases mem_append.mp hfirst with hhead | hmore
          · refine absurd ?_ hnodup.1
            rw [← mem_cutPieces hhead, hid]
            exact mem_map_of_mem hin
          · exact hmore
        rcases ih hnodup.2 hrest hin hmore with hleft | hright
        · exact .inl (mem_append_right _ hleft)
        · exact .inr hright
    · have hhead : first ∈ head.cutPieces := by
        rw [hblock]
        exact mem_append_left _ hfirst
      have hsame : fragment = head := by
        rcases mem_cons.mp hfragment with rfl | hin
        · rfl
        · refine absurd ?_ hnodup.1
          rw [← mem_cutPieces hhead, hid]
          exact mem_map_of_mem hin
      rw [hsame, hblock] at hpiece
      rcases mem_append.mp hpiece with hleft | hmore
      · exact .inl hleft
      right
      -- no cut after the front begins its message
      have hlater : ∀ later ∈ more, decide (later.index ≠ 0) = true := by
        intro _ hlater
        obtain ⟨_, _, rfl⟩ := append_of_mem hlater
        rw [← append_assoc] at hblock
        rw [decide_eq_true_eq, index_cutPieces hblock, length_append]
        have := length_pos_of_mem hfirst
        omega
      rw [hback, takeWhile_append_of_pos hlater]
      exact mem_append_left _ hmore

/-! The parts of a turn. -/

/-- The cuts of a part, joined by newlines. -/
def joined : List OwnerTurnPiece → String
  | [] => ""
  | first :: rest => rest.foldl (fun text piece => text ++ "\n" ++ piece.text)
      first.text

theorem joined_append {pieces : List OwnerTurnPiece} (hpieces : pieces ≠ [])
    (piece : OwnerTurnPiece) :
    joined (pieces ++ [piece]) = joined pieces ++ "\n" ++ piece.text := by
  obtain ⟨first, rest, rfl⟩ := exists_cons_of_ne_nil hpieces
  show (rest ++ [piece]).foldl (fun text piece => text ++ "\n" ++ piece.text)
    first.text = _
  rw [foldl_append]
  rfl

/-- A part joins its cuts and carries the identifiers of their messages. -/
structure OwnerTurnPart.Joins (part : OwnerTurnPart) : Prop where
  nonempty : part.pieces ≠ []
  ids : part.ids = part.pieces.flatMap OwnerTurnPiece.ids
  text : part.text = joined part.pieces

def partPieces (parts : List OwnerTurnPart) : List OwnerTurnPiece :=
  parts.flatMap (·.pieces)

theorem addPiece_spec {limit : Nat} {out : List OwnerTurnPart}
    (hout : ∀ part ∈ out, part.Joins) (piece : OwnerTurnPiece) :
    (∀ part ∈ addPiece limit out piece, part.Joins) ∧
      partPieces (addPiece limit out piece) = partPieces out ++ [piece] := by
  have hnew : OwnerTurnPart.Joins ⟨piece.text, piece.ids, [piece]⟩ :=
    ⟨cons_ne_nil _ _, (flatMap_singleton _ _).symm, rfl⟩
  have hseparate : (∀ part ∈ out ++ [⟨piece.text, piece.ids, [piece]⟩],
        part.Joins) ∧
      partPieces (out ++ [⟨piece.text, piece.ids, [piece]⟩]) =
        partPieces out ++ [piece] := by
    constructor
    · intro part hpart
      rcases mem_append.mp hpart with hin | hlast
      · exact hout part hin
      · rw [mem_singleton.mp hlast]
        exact hnew
    · unfold partPieces
      rw [flatMap_append, flatMap_singleton]
  unfold addPiece
  cases hlast : out.getLast? with
  | none => exact hseparate
  | some last =>
    dsimp only
    split
    · have hjoin : out = out.dropLast ++ [last] :=
        (dropLast_append_getLast? last hlast).symm
      have hjoins := hout last (mem_of_getLast? hlast)
      constructor
      · intro part hpart
        rcases mem_append.mp hpart with hin | hend
        · exact hout part (dropLast_subset _ hin)
        · rw [mem_singleton.mp hend]
          refine ⟨append_ne_nil_of_right_ne_nil _ (cons_ne_nil _ _),
            ?_, ?_⟩
          · rw [flatMap_append, flatMap_singleton, ← hjoins.ids]
          · rw [joined_append hjoins.nonempty, ← hjoins.text]
      · conv_rhs => rw [hjoin]
        unfold partPieces
        rw [flatMap_append, flatMap_append, flatMap_singleton,
          flatMap_singleton, append_assoc]
    · exact hseparate

/-- The parts of a group hold its cuts in order. -/
theorem splitOwnerTurn_spec (group : List Fragment) :
    (∀ part ∈ splitOwnerTurn group ownerTurnTextLimit, part.Joins) ∧
      partPieces (splitOwnerTurn group ownerTurnTextLimit) =
        groupPieces group := by
  have hfold : ∀ (pieces : List OwnerTurnPiece) (out : List OwnerTurnPart),
      (∀ part ∈ out, part.Joins) →
      (∀ part ∈ pieces.foldl (addPiece ownerTurnTextLimit) out, part.Joins) ∧
        partPieces (pieces.foldl (addPiece ownerTurnTextLimit) out) =
          partPieces out ++ pieces := by
    intro pieces
    induction pieces with
    | nil => exact fun _ hout => ⟨hout, (append_nil _).symm⟩
    | cons piece _ ih =>
      intro _ hout
      obtain ⟨hjoins, hpieces⟩ := @addPiece_spec ownerTurnTextLimit _ hout piece
      obtain ⟨hjoins', hpieces'⟩ := ih _ hjoins
      refine ⟨hjoins', ?_⟩
      rw [foldl_cons, hpieces', hpieces, append_assoc]
      rfl
  exact hfold (groupPieces group) [] fun _ hpart =>
    absurd hpart not_mem_nil

end CognitiveSidecar.OwnerTransport
