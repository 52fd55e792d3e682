/-
Turns of the Owner: captured messages are joined into parts that ingress takes,
each part is ingested, and then the group is marked as admitted.  Turns run side
by side, those of the replay and those of live messages alike.
-/
import CognitiveSidecar.Ingress
import CognitiveSidecar.Lib.Cuts
import CognitiveSidecar.OwnerTransport

namespace CognitiveSidecar.OwnerTransport

open Relational

/-! Parts of a turn. -/

def ownerTurnTextLimit : Nat := 3900

structure Fragment where
  (text id : String)
deriving DecidableEq

/-- A cut of a fragment. -/
structure OwnerTurnPiece where
  id : String
  index : Nat
  text : String
deriving DecidableEq

/-- A part, with the cuts that it joins, which the code does not keep. -/
structure OwnerTurnPart where
  text : String
  ids : List String
  pieces : List OwnerTurnPiece

/-- The cuts of a text, which for an empty text are one. -/
def pieces (text : String) (limit : Nat) : List String :=
  match cuts limit text with
  | [] => [""]
  | first :: rest => first :: rest

/-- The cuts of a fragment; only the first carries its identifier. -/
def Fragment.pieces (fragment : Fragment) (limit : Nat) : List OwnerTurnPiece :=
  (OwnerTransport.pieces fragment.text limit).mapIdx fun index text =>
    ⟨fragment.id, index, text⟩

def OwnerTurnPiece.ids (piece : OwnerTurnPiece) : List String :=
  if piece.index = 0 ∧ piece.id ≠ "" then [piece.id] else []

/-- Join a cut to the last part, or begin another with it. -/
def addPiece (limit : Nat) (out : List OwnerTurnPart) (piece : OwnerTurnPiece) :
    List OwnerTurnPart :=
  match out.getLast? with
  | some last =>
    if utf16Length last.text + 1 + utf16Length piece.text ≤ limit then
      out.dropLast ++
        [{ text := last.text ++ "\n" ++ piece.text, ids := last.ids ++ piece.ids
           pieces := last.pieces ++ [piece] }]
    else out ++ [⟨piece.text, piece.ids, [piece]⟩]
  | none => out ++ [⟨piece.text, piece.ids, [piece]⟩]

def splitOwnerTurn (fragments : List Fragment) (limit : Nat) :
    List OwnerTurnPart :=
  (fragments.flatMap (·.pieces limit)).foldl (addPiece limit) []

/-! Turns under way. -/

/-- A group with the parts of it that are still to be ingested. -/
structure Turn where
  group : List Fragment
  remaining : List OwnerTurnPart

/-- A row of the evidence log with the cuts that its text was joined from. -/
structure Ingestion where
  evidenceRowId : String
  pieces : List OwnerTurnPiece
deriving DecidableEq

/-- The store, the turns under way, and what was ingested so far. -/
structure ReplayDb where
  transport : TransportDb := {}
  turns : List Turn := []
  ingested : List Ingestion := []

inductive ReplayOp
  | capture (input : CaptureInput) (reading : RoomReading)
  | historyPage (page : HistoryPage) (reading : RoomReading) (nowMs : Int)
  | ensureCursor (surface : Surface) (reading : RoomReading)
      (activeThread : String) (nowMs : Int)
  | listPending (ownerId : String) (surfaceKey : Option String)
      (limit : Option Int) (nowMs : Int)
  | beginTurn (ids : List String)
  | callIngress (position : Nat) (input : CognitiveIngressInput)
  | markTurn (position : Nat) (ownerId : String) (nowMs : Int)
  | abandon (position : Nat)
  | crash

def fragmentsOf (db : ReplayDb) (ids : List String) : List Fragment :=
  ids.filterMap fun id =>
    (db.transport.captures.get? id).map fun row =>
      ⟨row.text, row.discordMessageId⟩

/-- A turn takes up a group of captured messages. -/
def beginTurn (ids : List String) (db : ReplayDb) : ReplayDb :=
  let group := fragmentsOf db ids
  { db with
    turns := db.turns ++ [⟨group, splitOwnerTurn group ownerTurnTextLimit⟩] }

/-- A turn ends, finished or not. -/
def abandon (position : Nat) (db : ReplayDb) : ReplayDb :=
  { db with turns := db.turns.eraseIdx position }

/-- A turn sends its next part to ingress, and ends when that is refused. -/
def callIngress [Host] (position : Nat) (input : CognitiveIngressInput)
    (db : ReplayDb) : ReplayDb :=
  match db.turns[position]? with
  | some { group, remaining := part :: rest } =>
    match admitCognitiveIngress db.transport.sidecar
        { input with
          message := part.text, discordMessageIds := part.ids } with
    | .error _ => abandon position db
    | .ok (result, sidecar) =>
      { transport := { db.transport with sidecar }
        turns := db.turns.set position ⟨group, rest⟩
        ingested :=
          if result.duplicate then db.ingested
          else db.ingested ++ [⟨result.evidenceRowId, part.pieces⟩] }
  | _ => db

/-- A turn whose parts are all ingested marks its group. -/
def markTurn (position : Nat) (ownerId : String) (nowMs : Int) (db : ReplayDb) :
    ReplayDb :=
  match db.turns[position]? with
  | some { group, remaining := [] } =>
    abandon position { db with
      transport := settle db.transport
        (markOwnerTransportAdmitted ownerId (group.map (·.id)) nowMs
          db.transport) }
  | _ => db

def replayStep [Host] (op : ReplayOp) (db : ReplayDb) : ReplayDb :=
  match op with
  | .capture input reading =>
    { db with
      transport := settle db.transport
        (captureOwnerTransport input reading db.transport) }
  | .historyPage page reading nowMs =>
    { db with
      transport := settle db.transport
        (recordOwnerTransportHistoryPage page reading nowMs db.transport) }
  | .ensureCursor surface reading activeThread nowMs =>
    { db with
      transport := settle db.transport
        (ensureOwnerTransportCursor surface reading activeThread nowMs
          db.transport) }
  | .listPending ownerId surfaceKey limit nowMs =>
    { db with
      transport := settle db.transport
        (listPendingOwnerTransport ownerId surfaceKey limit nowMs
          db.transport) }
  | .beginTurn ids => beginTurn ids db
  | .callIngress position input => callIngress position input db
  | .markTurn position ownerId nowMs => markTurn position ownerId nowMs db
  | .abandon position => abandon position db
  | .crash => { db with turns := [] }

end CognitiveSidecar.OwnerTransport
