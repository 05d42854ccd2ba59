import Mathlib
import CasperSidecar.Lib.RingBuffer
import CasperSidecar.EventStreamServer.SseServer

/-!
# EventStreamServer.HttpServer

The run loop of the event stream server
(`sidecar/src/event_stream_server/http_server.rs`): its ring buffer of
recent events, `handle_incoming_data`, which buffers and broadcasts what
`EventStreamServer::broadcast` sends, and `register_new_subscriber`, which
replays buffered events to a new client.

The crate `wheelbuf` is not part of the repository: its `WheelBuf` is a
parameter `wb`, any `RingBufferImpl` (`Lib.RingBuffer`), whose laws are what
this development assumes of it: it keeps the last `capacity` items pushed,
its iterator yields them oldest first, and its `push`, which indexes the
backing vector modulo the capacity, panics on a zero-capacity buffer.  The
`unwrap`s of `register_new_subscriber` are kept: the replay returns `none`
where the source would panic.
-/

namespace CasperSidecar

/-- The event stream server configuration (`config.rs`); the bind address is not
modelled. -/
structure Config where
  eventStreamBufferLength : UInt32
  maxConcurrentSubscribers : UInt32
deriving DecidableEq

/-- `SIDECAR_VERSION`: the sidecar crate's version, 1.0.0 (`sidecar/Cargo.toml`). -/
def sidecarVersion : ProtocolVersion := .fromParts 1 0 0

/-- What `EventStreamServer::broadcast` sends to the run loop (`InboundData`). -/
structure InboundData where
  maybeEventIndex : Option EventIndex
  data : SseData
  inboundFilter : Option Filter
  maybeJsonData : Option String
deriving DecidableEq

/-- The event `handle_incoming_data` builds from inbound data. -/
def InboundData.toEvent (item : InboundData) : ServerSentEvent :=
  ⟨item.maybeEventIndex, item.data, item.maybeJsonData, item.inboundFilter⟩

/-- `WheelBuf` over `(protocol version, event)` pairs, the run loop's buffer. -/
abbrev EventBufferImpl := RingBufferImpl (ProtocolVersion × ServerSentEvent)

/-- The list model of `Lib.RingBuffer` as the run loop's `WheelBuf`: the implementation
the concrete runs below are evaluated with. -/
def wheelBufModel : EventBufferImpl := RingBuffer.impl _

/-- `build_buffer`: a `WheelBuf` over a vector of `event_stream_buffer_length`
placeholders, none of which is a live item. -/
def buildBuffer (wb : EventBufferImpl) (config : Config) : wb.Buf :=
  wb.new config.eventStreamBufferLength.toNat

/-! ## Handling incoming data -/

/-- The locals of the run loop's event-stream future. -/
structure RunLoop (wb : EventBufferImpl) where
  latestProtocolVersion : Option ProtocolVersion
  buffer : wb.Buf

/-- What one call of `handle_incoming_data` does. -/
inductive Handled (wb : EventBufferImpl) where
  /-- `Ok(())`, after broadcasting `message`. -/
  | ok (loop : RunLoop wb) (message : BroadcastChannelMessage)
  /-- `Err(())`: the data sender was dropped and the loop exits. -/
  | closed
  /-- The buffer push panicked. -/
  | panicked

/-- `handle_incoming_data`: an `ApiVersion` updates the latest version; any other
event is buffered under the latest version, or only logged as an error when no
version was seen yet; every event is broadcast. -/
def handleIncomingData {wb : EventBufferImpl} (maybeData : Option InboundData) (loop : RunLoop wb) :
    Handled wb :=
  match maybeData with
  | none => .closed
  | some item =>
      match item.data with
      | .apiVersion v => .ok { loop with latestProtocolVersion := some v } (.serverSentEvent item.toEvent)
      | _ =>
          match loop.latestProtocolVersion with
          | none => .ok loop (.serverSentEvent item.toEvent)
          | some v =>
              match wb.push loop.buffer (v, item.toEvent) with
              | none => .panicked
              | some buffer => .ok { loop with buffer } (.serverSentEvent item.toEvent)

/-! ## Registering a subscriber -/

/-- `Iterator::skip_while` with a predicate that may panic (`none`): the items from
the first one the predicate rejects. -/
def skipWhile {α : Type} (p : α → Option Bool) : List α → Option (List α)
  | [] => some []
  | a :: l =>
      match p a with
      | none => none
      | some true => skipWhile p l
      | some false => some (a :: l)

/-- The buffer size as an event id (`buffer.capacity() as Id`). -/
def bufferSize (wb : EventBufferImpl) (buffer : wb.Buf) : EventIndex := (wb.capacity buffer).toUInt32

/-- `in_wraparound_zone`: whether the oldest buffered id lies within the buffer size
of the wrap of `u32`; `false` for an empty buffer (`unwrap_or_default`). -/
def inWraparoundZone (wb : EventBufferImpl) (buffer : wb.Buf) : Option Bool :=
  match (wb.iter buffer).head? with
  | none => some false
  | some event =>
      event.2.id.map fun id =>
        decide (id > UInt32.ofNat 4294967295 - bufferSize wb buffer) || decide (id < bufferSize wb buffer)

/-- The `skip_while` predicate: skip the events before `start_index`, comparing ids
shifted past the wrap when the buffer is in the wraparound zone. -/
def skipBeforeStart (inZone : Bool) (size startIndex : EventIndex)
    (tuple : ProtocolVersion × ServerSentEvent) : Option Bool :=
  tuple.2.id.map fun id =>
    if inZone then decide (id + size < startIndex + size) else decide (id < startIndex)

/-- The buffered events `register_new_subscriber` replays for `start_from`. -/
def selectReplayed (wb : EventBufferImpl) (startIndex : EventIndex) (buffer : wb.Buf) :
    Option (List (ProtocolVersion × ServerSentEvent)) := do
  let inZone ← inWraparoundZone wb buffer
  skipWhile (skipBeforeStart inZone (bufferSize wb buffer) startIndex) (wb.iter buffer)

/-- A stale `start_from` is answered with the whole buffer only when it does not lie
across the wrap.  With one buffered event and a buffer of capacity 4, a client asking
for id 1000 while the buffer starts at 5000 gets the whole buffer, as the comment of
`register_new_subscriber` says ("If they requested more than is buffered, just provide
the whole buffer"); a client asking for `u32::MAX - 1000` while the buffer starts at 5,
which lies as far behind it across the wrap, gets nothing. -/
theorem selectReplayed_stale_across_wrap (wb : EventBufferImpl) {buffer buffer' : wb.Buf}
    (hcapacity : wb.capacity buffer = 4)
    (hitems : wb.iter buffer = [(.fromParts 1 0 0, ⟨some 5000, .shutdown, none, none⟩)])
    (hcapacity' : wb.capacity buffer' = 4)
    (hitems' : wb.iter buffer' = [(.fromParts 1 0 0, ⟨some 5, .shutdown, none, none⟩)]) :
    selectReplayed wb 1000 buffer = some [(.fromParts 1 0 0, ⟨some 5000, .shutdown, none, none⟩)] ∧
    selectReplayed wb (4294967295 - 1000) buffer' = some [] := by
  simp only [selectReplayed, inWraparoundZone, bufferSize, hcapacity, hitems, hcapacity', hitems']
  decide

/-- The two buffers of one event each, in the list model with capacity 4. -/
theorem selectReplayed_stale_across_wrap_one_push :
    selectReplayed wheelBufModel 1000
        ⟨4, [(.fromParts 1 0 0, ⟨some 5000, .shutdown, none, none⟩)], by decide⟩ =
      some [(.fromParts 1 0 0, ⟨some 5000, .shutdown, none, none⟩)] ∧
    selectReplayed wheelBufModel (4294967295 - 1000)
        ⟨4, [(.fromParts 1 0 0, ⟨some 5, .shutdown, none, none⟩)], by decide⟩ = some [] :=
  selectReplayed_stale_across_wrap wheelBufModel rfl rfl rfl rfl

/-- The replay loop: an `ApiVersion` before each replayed event whose version differs
from the last one announced (`observed_protocol_version`), then the event. -/
def sendReplayed : Option ProtocolVersion → List (ProtocolVersion × ServerSentEvent) →
    List ServerSentEvent
  | _, [] => []
  | observed, (protocol, event) :: rest =>
      -- `observed_protocol_version.is_none() || !observed_protocol_version.unwrap().eq(protocol)`
      if observed != some protocol then
        .initialEvent protocol :: event :: sendReplayed (some protocol) rest
      else event :: sendReplayed observed rest

/-- `send_api_version_if_necessary`: the latest version, only when nothing was replayed. -/
def sendApiVersionIfNecessary (observedEvents : Bool)
    (latestProtocolVersion : Option ProtocolVersion) : List ServerSentEvent :=
  if !observedEvents then
    match latestProtocolVersion with
    | none => []
    | some v => [.initialEvent v]
  else []

/-- `register_new_subscriber`: the events sent on the client's initial-events channel,
in order, or `none` where an `unwrap` panics. -/
def registerNewSubscriber (wb : EventBufferImpl) (startFrom : Option EventIndex) (buffer : wb.Buf)
    (latestProtocolVersion : Option ProtocolVersion) : Option (List ServerSentEvent) := do
  let replayed ← match startFrom with
    | none => pure []
    | some startIndex => selectReplayed wb startIndex buffer
  pure (.sidecarVersionEvent sidecarVersion :: sendReplayed none replayed ++
    sendApiVersionIfNecessary (!replayed.isEmpty) latestProtocolVersion)

end CasperSidecar
