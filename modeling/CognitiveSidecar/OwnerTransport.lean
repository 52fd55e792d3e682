/-
Owner transport: every Discord message of the Owner is captured as it arrives or
from the pages of the history, each page together with the cursor that moves
past it.
-/
import CognitiveSidecar.Lib.Text
import CognitiveSidecar.WakeLedger

namespace CognitiveSidecar.OwnerTransport

open Relational

structure RoomContext where
  (guildId channelId : String)
deriving DecidableEq

structure Surface where
  (ownerId channelId : String)
  guildId : Option String := none
deriving DecidableEq

inductive SourceClass
  | suppliedImage | suppliedScreenshot
deriving DecidableEq

structure AttachmentRef where
  (discordAttachmentId declaredMime fileName sourceUrl : String)
  declaredByteSize : Option Int := none
  sourceClass : Option SourceClass := none
deriving DecidableEq

structure CaptureInput where
  surface : Surface
  (discordMessageId text : String)
  attachments : List AttachmentRef := []
  ownerRoomContext : Option RoomContext := none
  (sentAtMs capturedAtMs : Int)

inductive CaptureSource
  | live | history
deriving DecidableEq

/-- A row of `owner_discord_transport_captures`. -/
structure Capture where
  (discordMessageId ownerId surfaceKey channelId : String)
  guildId : Option String
  text : String
  attachments : List AttachmentRef
  ownerRoomContext : Option RoomContext
  (sentAtMs capturedAtMs : Int)
  source : CaptureSource
  admittedAtMs : Option Int := none
deriving DecidableEq

instance : Keyed Capture String := ⟨Capture.discordMessageId⟩

/-- A row of `owner_discord_transport_cursors`. -/
structure Cursor where
  surfaceKey : String
  surface : Surface
  afterMessageId : String
  updatedAtMs : Int

instance : Keyed Cursor String := ⟨Cursor.surfaceKey⟩

structure TransportDb where
  sidecar : Sidecar := {}
  captures : Table Capture := Table.empty
  cursors : Table Cursor := Table.empty

inductive TransportFault
  | ownerInvalid | surfaceInvalid | messageIdInvalid | messageTooLong
  | attachmentsInvalid | attachmentInvalid | messageInvalid | sentAtInvalid
  | capturedAtInvalid | roomInvalid | roomNotActive | roomNotAuthorized
  | captureConflict | cursorInvalid | cursorNotAdvanced | surfaceConflict
  | cursorConflict | batchTooLarge
deriving DecidableEq

abbrev TransportOutcome (α : Type) := Except TransportFault α

/-- What a call leaves: its state, or the old one when it raised. -/
def settle {α : Type} (db : TransportDb)
    (outcome : TransportOutcome (α × TransportDb)) : TransportDb :=
  match outcome with
  | .ok (_, db') => db'
  | .error _ => db

/-! Identifiers. -/

def maxTransportMessageLength : Nat := 4000

def maxTransportAttachments : Nat := 4

def maxPendingLimit : Nat := 100

def maxIdLength : Nat := 200

def requiredStringMax (value : String) (fault : TransportFault) (limit : Nat) :
    TransportOutcome String := do
  let normalized := trim value
  require (normalized ≠ "" ∧ utf16Length normalized ≤ limit) fault
  pure normalized

def requiredId (value : String) (fault : TransportFault) :
    TransportOutcome String :=
  requiredStringMax value fault maxIdLength

def optionalGuildId (value : Option String) :
    TransportOutcome (Option String) :=
  match value.filter (· ≠ "") with
  | none => pure none
  | some guildId => do
    let guildId ← requiredId guildId .surfaceInvalid
    pure (some guildId)

/-- The identifiers of a surface, each required. -/
def requiredSurface (surface : Surface) : TransportOutcome Surface := do
  let ownerId ← requiredId surface.ownerId .ownerInvalid
  let channelId ← requiredId surface.channelId .surfaceInvalid
  let guildId ← optionalGuildId surface.guildId
  pure { ownerId, channelId, guildId }

/-- `ownerTransportSurfaceKey`, of a surface whose identifiers are required. -/
def Surface.key (surface : Surface) : String :=
  match surface.guildId with
  | some guildId => "owner-room:" ++ guildId ++ ":" ++ surface.channelId
  | none => "owner-dm:" ++ surface.ownerId ++ ":" ++ surface.channelId

def isDigit (c : Char) : Bool := '0' ≤ c && c ≤ '9'

def isDigits (text : String) : Bool := text ≠ "" && text.toList.all isDigit

/-- `BigInt`, of a text of digits. -/
def decimal (text : String) : Nat :=
  text.toList.foldl (fun value c => 10 * value + (c.toNat - '0'.toNat)) 0

/-- The UTF-16 code units of a character. -/
def charUnits (c : Char) : List Nat :=
  if c.toNat < 0x10000 then [c.toNat]
  else
    [0xd800 + (c.toNat - 0x10000) / 0x400, 0xdc00 + (c.toNat - 0x10000) % 0x400]

/-- `<` of two texts. -/
def textLess (left right : String) : Bool :=
  left.toList.flatMap charUnits < right.toList.flatMap charUnits

/-- `compareTransportIds(left, right) < 0`. -/
def transportLess (left right : String) : Bool :=
  if isDigits left && isDigits right then decimal left < decimal right
  else textLess left right

def isDiscordSnowflake (value : String) : Bool :=
  17 ≤ value.toList.length && value.toList.length ≤ 20 &&
    value.toList.all isDigit

/-! Captures. -/

/-- What the room of a capture is found to be: whether publication to its
channel is on, and the trusted room that its eligibility bundle names. -/
structure RoomReading where
  publicationEnabled : Bool := false
  trustedRoom : Option (Surface × Bool) := none

/-- The trusted room is this one, in the mode `trusted_social`. -/
def RoomReading.trusts (reading : RoomReading) (surface : Surface) : Bool :=
  reading.trustedRoom = some (surface, true)

def attachmentRef (value : AttachmentRef) : TransportOutcome AttachmentRef := do
  let discordAttachmentId ← requiredId value.discordAttachmentId
    .attachmentInvalid
  let declaredMime ← requiredStringMax value.declaredMime .attachmentInvalid 200
  let fileName ← requiredStringMax value.fileName .attachmentInvalid 200
  let sourceUrl ← requiredStringMax value.sourceUrl .attachmentInvalid 4096
  require (∀ size ∈ value.declaredByteSize, isSafeInteger size ∧ 0 ≤ size)
    .attachmentInvalid
  pure { value with discordAttachmentId, declaredMime, fileName, sourceUrl }

def attachmentRefs (values : List AttachmentRef) :
    TransportOutcome (List AttachmentRef) := do
  require (values.length ≤ maxTransportAttachments) .attachmentsInvalid
  values.mapM attachmentRef

def roomContext (value : Option RoomContext) :
    TransportOutcome (Option RoomContext) :=
  match value with
  | none => pure none
  | some context => do
    let guildId ← requiredId context.guildId .roomInvalid
    let channelId ← requiredId context.channelId .roomInvalid
    pure (some { guildId, channelId })

/-- The surface is the Owner's own channel, or a trusted room that is active. -/
def authorizeSurface (surface : Surface) (reading : RoomReading) :
    TransportOutcome Unit :=
  match surface.guildId with
  | none => pure ()
  | some _ => do
    require (reading.publicationEnabled = true) .roomNotActive
    require (reading.trusts surface = true) .roomNotAuthorized
    pure ()

/-- The row of a capture, not yet admitted. -/
def normalizeCapture (input : CaptureInput) (reading : RoomReading)
    (source : CaptureSource) : TransportOutcome Capture := do
  let surface ← requiredSurface input.surface
  let discordMessageId ← requiredId input.discordMessageId .messageIdInvalid
  require (utf16Length input.text ≤ maxTransportMessageLength) .messageTooLong
  let attachments ← attachmentRefs input.attachments
  require (¬ (blank input.text = true ∧ attachments = [])) .messageInvalid
  require (isSafeInteger input.sentAtMs ∧ 0 ≤ input.sentAtMs) .sentAtInvalid
  require (isSafeInteger input.capturedAtMs ∧ 0 ≤ input.capturedAtMs)
    .capturedAtInvalid
  let context ← roomContext input.ownerRoomContext
  require (context = surface.guildId.map (⟨·, surface.channelId⟩)) .roomInvalid
  authorizeSurface surface reading
  pure
    { discordMessageId, source
      ownerId := surface.ownerId, surfaceKey := surface.key
      channelId := surface.channelId, guildId := surface.guildId
      text := input.text, attachments, ownerRoomContext := context
      sentAtMs := input.sentAtMs, capturedAtMs := input.capturedAtMs }

/-- What of a capture a second one of the same message must repeat. -/
def captureMatches (existing input : Capture) : Bool :=
  existing.ownerId = input.ownerId &&
    existing.surfaceKey = input.surfaceKey &&
    existing.channelId = input.channelId &&
    existing.guildId = input.guildId &&
    existing.text = input.text &&
    existing.attachments = input.attachments &&
    existing.ownerRoomContext = input.ownerRoomContext &&
    existing.sentAtMs = input.sentAtMs

/-- Insert a capture, or find that it is stored; the flag tells which. -/
def insertCaptureInTransaction (captures : Table Capture) (input : Capture) :
    TransportOutcome (Bool × Table Capture) :=
  match captures.get? input.discordMessageId with
  | some existing => do
    require (captureMatches existing input = true) .captureConflict
    pure (false, captures)
  | none => pure (true, captures.insertNew input)

structure CaptureResult where
  duplicate : Bool
  surfaceKey : String

def captureOwnerTransport (input : CaptureInput) (reading : RoomReading)
    (db : TransportDb) : TransportOutcome (CaptureResult × TransportDb) := do
  let normalized ← normalizeCapture input reading .live
  let (inserted, captures) ← insertCaptureInTransaction db.captures normalized
  pure (⟨!inserted, normalized.surfaceKey⟩, { db with captures })

/-! Cursors. -/

def roomIdentity (guildId channelId : String) : String :=
  "room:" ++ guildId ++ ":" ++ channelId

/-- The Owner's active thread is resolved by the nuclear store. -/
def conversationIdForSurface (surface : Surface) (activeThread : String) :
    String :=
  match surface.guildId with
  | some guildId => roomIdentity guildId surface.channelId
  | none => activeThread

/-- The greatest Discord identifier that the conversation's evidence binds. -/
def canonicalBoundary (sidecar : Sidecar) (conversationId : String) :
    Option String :=
  ((((sidecar.discordIds.rows.filter
      (·.conversationId = conversationId)).map
        DiscordBinding.discordMessageId).filter
          (isDiscordSnowflake ·)).insertionSort
    fun left right => transportLess right left = false).getLast?

structure CursorState where
  surfaceKey : String
  afterMessageId : Option String

/-- Find the cursor of a surface, or set it to the boundary of what is already
admitted. -/
def ensureOwnerTransportCursor (input : Surface) (reading : RoomReading)
    (activeThread : String) (nowMs : Int) (db : TransportDb) :
    TransportOutcome (CursorState × TransportDb) := do
  let surface ← requiredSurface input
  authorizeSurface surface reading
  match (db.cursors.get? surface.key).filter
      (isDiscordSnowflake ·.afterMessageId) with
  | some current =>
    pure (⟨surface.key, some current.afterMessageId⟩, db)
  | none =>
    match canonicalBoundary db.sidecar
        (conversationIdForSurface surface activeThread) with
    | none => pure (⟨surface.key, none⟩, db)
    | some boundary =>
      let cursor : Cursor := ⟨surface.key, surface, boundary, nowMs⟩
      pure (⟨surface.key, some boundary⟩,
        { db with
          cursors := db.cursors.upsert cursor
            fun old => { cursor with surfaceKey := old.surfaceKey } })

structure HistoryPage where
  surface : Surface
  (afterMessageId nextAfterMessageId : String)
  captures : List CaptureInput

/-- A page whose identifiers and captures have passed their checks. -/
structure NormalizedPage where
  surface : Surface
  (afterMessageId nextAfterMessageId : String)
  captures : List Capture
deriving DecidableEq

/-- A captured time of zero is read as none. -/
def pageCapture (surface : Surface) (nowMs : Int) (capture : CaptureInput) :
    CaptureInput :=
  { capture with
    surface
    capturedAtMs :=
      if capture.capturedAtMs = 0 then nowMs else capture.capturedAtMs }

def normalizePage (page : HistoryPage) (reading : RoomReading) (nowMs : Int) :
    TransportOutcome NormalizedPage := do
  let surface ← requiredSurface page.surface
  let afterMessageId ← requiredId page.afterMessageId .cursorInvalid
  let nextAfterMessageId ← requiredId page.nextAfterMessageId .cursorInvalid
  require (transportLess afterMessageId nextAfterMessageId = true)
    .cursorNotAdvanced
  let captures ← page.captures.mapM fun capture => do
    let normalized ← normalizeCapture (pageCapture surface nowMs capture)
      reading .history
    require (normalized.surfaceKey = surface.key) .surfaceConflict
    pure normalized
  pure { surface, afterMessageId, nextAfterMessageId, captures }

structure HistoryPageResult where
  (surfaceKey afterMessageId : String)
  (newlyCaptured duplicates : Nat)

/-- The captures of a page, with the numbers of new and of known ones. -/
def insertCaptures : List Capture → Table Capture →
    TransportOutcome (Nat × Nat × Table Capture)
  | [], captures => pure (0, 0, captures)
  | capture :: rest, captures => do
    let (inserted, captures) ← insertCaptureInTransaction captures capture
    let (newlyCaptured, duplicates, captures) ← insertCaptures rest captures
    if inserted then pure (newlyCaptured + 1, duplicates, captures)
    else pure (newlyCaptured, duplicates + 1, captures)

/-- The transaction of a page: its captures, and the cursor past them. -/
def recordPage (page : NormalizedPage) (nowMs : Int) (db : TransportDb) :
    TransportOutcome (HistoryPageResult × TransportDb) := do
  require ((db.cursors.get? page.surface.key).any
    (·.afterMessageId = page.afterMessageId) = true) .cursorConflict
  let (newlyCaptured, duplicates, captures) ←
    insertCaptures page.captures db.captures
  pure (⟨page.surface.key, page.nextAfterMessageId, newlyCaptured, duplicates⟩,
    { db with
      captures
      cursors := db.cursors.update
        (fun row => row.surfaceKey = page.surface.key &&
          row.afterMessageId = page.afterMessageId)
        (fun row => { row with
          afterMessageId := page.nextAfterMessageId, updatedAtMs := nowMs })
        (by intro; rfl) })

def recordOwnerTransportHistoryPage (page : HistoryPage) (reading : RoomReading)
    (nowMs : Int) (db : TransportDb) :
    TransportOutcome (HistoryPageResult × TransportDb) := do
  let normalized ← normalizePage page reading nowMs
  recordPage normalized nowMs db

/-! Replay. -/

/-- Mark the captures of the Owner that a test selects. -/
def admitCaptures (ownerId : String) (nowMs : Int) (p : Capture → Bool)
    (db : TransportDb) : TransportDb :=
  { db with
    captures := db.captures.update
      (fun row => row.ownerId = ownerId && row.admittedAtMs = none && p row)
      (fun row => { row with admittedAtMs := some nowMs }) (by intro; rfl) }

def Capture.before (left right : Capture) : Bool :=
  left.sentAtMs < right.sentAtMs ||
    (left.sentAtMs = right.sentAtMs &&
      (left.capturedAtMs < right.capturedAtMs ||
        (left.capturedAtMs = right.capturedAtMs &&
          left.discordMessageId ≤ right.discordMessageId)))

/-- The captures that wait for their admission, oldest first; those whose
message the evidence already binds are marked before. -/
def listPendingOwnerTransport (ownerId : String) (surfaceKey : Option String)
    (limit : Option Int) (nowMs : Int) (db : TransportDb) :
    TransportOutcome (List Capture × TransportDb) := do
  let ownerId ← requiredId ownerId .ownerInvalid
  let limit := max 1 (min maxPendingLimit
    ((limit.getD maxPendingLimit).toNat))
  let db := admitCaptures ownerId nowMs
    (fun row => (db.sidecar.discordIds.get? row.discordMessageId).isSome) db
  let pending := (db.captures.rows.filter fun row =>
    row.ownerId = ownerId && row.admittedAtMs = none &&
      (surfaceKey.filter (· ≠ "")).all (· = row.surfaceKey)).insertionSort
        fun left right => left.before right
  pure (pending.take limit, db)

structure MarkResult where
  (marked alreadyAdmitted : Nat)

def markOwnerTransportAdmitted (ownerId : String) (discordMessageIds : List String)
    (nowMs : Int) (db : TransportDb) :
    TransportOutcome (MarkResult × TransportDb) := do
  let ownerId ← requiredId ownerId .ownerInvalid
  let ids ← discordMessageIds.mapM fun id => requiredId id .messageIdInvalid
  let ids := ids.eraseDups
  require (ids.length ≤ maxPendingLimit) .batchTooLarge
  let rows := ids.filterMap fun id =>
    (db.captures.get? id).filter (·.ownerId = ownerId)
  pure (⟨(rows.filter (·.admittedAtMs = none)).length,
      (rows.filter (·.admittedAtMs ≠ none)).length⟩,
    admitCaptures ownerId nowMs (fun row => row.discordMessageId ∈ ids) db)

end CognitiveSidecar.OwnerTransport
