import Mathlib
import CasperSidecar.EventStreamServer.Server

/-!
# EventStreamServer.Buffer

What the run loop's ring buffer holds in every reachable state.

The abstract view is the history of the data the run loop handled: each
`ApiVersion` sets the latest version, and every other item handled once a
version is known is buffered under it (`bufferedFrom`).  The run loop refines
that view: its buffer is the last `event_stream_buffer_length` entries of the
history, and its latest version is the last one announced
(`RunLoop.Refines`, preserved by `handle_incoming_data`).  Separately,
`EventStreamServer::broadcast` hands out the ids of the non-`ApiVersion`
items as one run of consecutive `u32`s (`Server.Indexed`).  Together they
give the shape of the buffer (`Server.BufferShape`): indexed events only,
consecutive ids, each under the version announced last before it, so that
the `unwrap`s of `register_new_subscriber` never panic.
-/

namespace CasperSidecar

open RingBuffer

variable {wb : EventBufferImpl}

/-! ## The buffered history -/

/-- The version an `ApiVersion` announces. -/
def SseData.apiVersion? : SseData → Option ProtocolVersion
  | .apiVersion v => some v
  | _ => none

theorem SseData.isApiVersion_eq (data : SseData) : data.isApiVersion = data.apiVersion?.isSome := by
  cases data <;> rfl

/-- The latest version once `item` is handled. -/
def latestAfter (latest : Option ProtocolVersion) (item : InboundData) : Option ProtocolVersion :=
  item.data.apiVersion?.or latest

/-- The entry `item` adds to the buffer: the event under the latest version, unless
the item is an `ApiVersion` or no version is known yet. -/
def bufferEntry (latest : Option ProtocolVersion) (item : InboundData) :
    List (ProtocolVersion × ServerSentEvent) :=
  if item.data.isApiVersion then [] else (latest.map fun v => (v, item.toEvent)).toList

/-- The latest version once `items` are handled in order. -/
def latestVersion (latest : Option ProtocolVersion) (items : List InboundData) :
    Option ProtocolVersion :=
  items.foldl latestAfter latest

/-- Every entry the items add to the buffer, oldest first. -/
def bufferedFrom : Option ProtocolVersion → List InboundData → List (ProtocolVersion × ServerSentEvent)
  | _, [] => []
  | latest, item :: rest => bufferEntry latest item ++ bufferedFrom (latestAfter latest item) rest

@[simp] theorem latestVersion_nil (latest : Option ProtocolVersion) :
    latestVersion latest [] = latest := rfl

theorem latestVersion_cons (latest : Option ProtocolVersion) (item : InboundData)
    (rest : List InboundData) :
    latestVersion latest (item :: rest) = latestVersion (latestAfter latest item) rest := rfl

theorem latestAfter_of_isApiVersion_false {latest : Option ProtocolVersion} {item : InboundData}
    (h : item.data.isApiVersion = false) : latestAfter latest item = latest := by
  rw [SseData.isApiVersion_eq, Option.isSome_eq_false_iff, Option.isNone_iff_eq_none] at h
  simp [latestAfter, h]

theorem isSome_latestAfter_of_isApiVersion (latest : Option ProtocolVersion) {item : InboundData}
    (h : item.data.isApiVersion = true) : (latestAfter latest item).isSome := by
  rw [SseData.isApiVersion_eq, Option.isSome_iff_exists] at h
  obtain ⟨v, hv⟩ := h
  simp [latestAfter, hv]

theorem latestVersion_append_singleton (latest : Option ProtocolVersion) (items : List InboundData)
    (item : InboundData) :
    latestVersion latest (items ++ [item]) = latestAfter (latestVersion latest items) item := by
  simp [latestVersion]

theorem bufferedFrom_append_singleton (latest : Option ProtocolVersion) (items : List InboundData)
    (item : InboundData) :
    bufferedFrom latest (items ++ [item]) =
      bufferedFrom latest items ++ bufferEntry (latestVersion latest items) item := by
  induction items generalizing latest with
  | nil => simp [bufferedFrom]
  | cons first rest ih =>
      simp only [List.cons_append, bufferedFrom, ih, latestVersion_cons, List.append_assoc]

/-- **Where a buffered entry comes from**: an item of the history that is not an
`ApiVersion`, whose event it carries, under the version announced last before it. -/
theorem mem_bufferedFrom {latest : Option ProtocolVersion} {items : List InboundData}
    {e : ProtocolVersion × ServerSentEvent} (h : e ∈ bufferedFrom latest items) :
    ∃ pre item post, items = pre ++ item :: post ∧ item.data.isApiVersion = false ∧
      item.toEvent = e.2 ∧ latestVersion latest pre = some e.1 := by
  induction items generalizing latest with
  | nil => simp [bufferedFrom] at h
  | cons item rest ih =>
      rw [bufferedFrom, List.mem_append] at h
      rcases h with hentry | hrest
      · -- the entry of the head item
        unfold bufferEntry at hentry
        split at hentry
        · simp at hentry
        · rename_i hapi
          cases hlatest : latest with
          | none => simp [hlatest] at hentry
          | some v =>
              simp only [hlatest, Option.map_some, Option.toList_some, List.mem_singleton] at hentry
              subst hentry
              exact ⟨[], item, rest, rfl, by simpa using hapi, rfl, rfl⟩
      · obtain ⟨pre, item', post, hsplit, hapi, hevent, hversion⟩ := ih hrest
        exact ⟨item :: pre, item', post, by rw [hsplit, List.cons_append], hapi, hevent, hversion⟩

/-! ## `handle_incoming_data` -/

/-- **`handle_incoming_data` on an item**: it moves the latest version on, pushes the
item's buffer entry, if any, and broadcasts the item's event; it panics where the push
does. -/
theorem handleIncomingData_eq (item : InboundData) (loop : RunLoop wb) :
    handleIncomingData (some item) loop =
      ((wb.pushAll loop.buffer (bufferEntry loop.latestProtocolVersion item)).map fun buffer =>
        Handled.ok ⟨latestAfter loop.latestProtocolVersion item, buffer⟩
          (.serverSentEvent item.toEvent)).getD .panicked := by
  obtain ⟨latest, buffer⟩ := loop
  simp only [handleIncomingData]
  split
  · -- `ApiVersion(v)`: only the latest version changes
    rename_i v hdata
    simp [bufferEntry, latestAfter, hdata, SseData.isApiVersion, SseData.apiVersion?]
  · rename_i hdata
    have hnone : item.data.apiVersion? = none := by
      cases hd : item.data <;> simp_all [SseData.apiVersion?]
    have hapi : item.data.isApiVersion = false := by
      simp [SseData.isApiVersion_eq, hnone]
    rw [latestAfter_of_isApiVersion_false hapi]
    cases latest with
    | none => simp [bufferEntry, hapi]
    | some v =>
        -- the one entry goes through `WheelBuf::push`
        simp only [bufferEntry, hapi, Bool.false_eq_true, if_false, Option.map_some,
          Option.toList_some, RingBufferImpl.pushAll_singleton]
        cases wb.push buffer (v, item.toEvent) <;> rfl

/-- The run loop's locals agree with a history of handled data: the buffer has the
configured capacity and holds the last entries of the history, and the latest version
is the one announced last. -/
structure RunLoop.Refines (loop : RunLoop wb) (capacity : Nat) (history : List InboundData) :
    Prop where
  capacity_eq : wb.capacity loop.buffer = capacity
  latest_eq : loop.latestProtocolVersion = latestVersion none history
  items_eq : wb.iter loop.buffer = lastN capacity (bufferedFrom none history)

theorem RunLoop.refines_init (config : Config) :
    RunLoop.Refines ⟨none, buildBuffer wb config⟩ config.eventStreamBufferLength.toNat [] :=
  ⟨wb.capacity_new _, rfl, by simp [buildBuffer, wb.iter_new, bufferedFrom]⟩

/-- **`handle_incoming_data` refines handling one more item of the history.** -/
theorem RunLoop.Refines.handleIncomingData {loop loop' : RunLoop wb} {capacity : Nat}
    {history : List InboundData} {item : InboundData} {message : BroadcastChannelMessage}
    (h : loop.Refines capacity history)
    (hstep : CasperSidecar.handleIncomingData (some item) loop = .ok loop' message) :
    loop'.Refines capacity (history ++ [item]) ∧ message = .serverSentEvent item.toEvent := by
  rw [handleIncomingData_eq] at hstep
  cases hpush : wb.pushAll loop.buffer (bufferEntry loop.latestProtocolVersion item) with
  | none => simp [hpush] at hstep
  | some buffer =>
      simp only [hpush, Option.map_some, Option.getD_some, Handled.ok.injEq] at hstep
      obtain ⟨rfl, rfl⟩ := hstep
      obtain ⟨hcapacity, hiter⟩ := RingBufferImpl.pushAll_eq_some hpush
      refine ⟨⟨?_, ?_, ?_⟩, rfl⟩
      · rw [hcapacity, h.capacity_eq]
      · simp [h.latest_eq, latestVersion_append_singleton]
      · rw [hiter, h.capacity_eq, h.items_eq, lastN_lastN_append, bufferedFrom_append_singleton,
          h.latest_eq]

/-! ## The ids `broadcast` hands out -/

/-- The ids carried by a sequence of inbound data. -/
def eventIndices (items : List InboundData) : List EventIndex :=
  items.filterMap InboundData.maybeEventIndex

/-- Everything `broadcast` sent so far, oldest first. -/
def Server.sent (s : Server wb) : List InboundData := s.processed ++ s.dataChannel

/-- `broadcast` sends one item, with the indexer's next index unless it is an
`ApiVersion`, and advances the indexer past it. -/
theorem Server.sent_broadcast (s : Server wb) (data : SseData) (inboundFilter : Option Filter)
    (maybeJsonData : Option String) :
    (s.broadcast data inboundFilter maybeJsonData).sent =
        s.sent ++ [⟨if data.isApiVersion then none else some s.eventIndexer.index, data, inboundFilter,
          maybeJsonData⟩] ∧
      (s.broadcast data inboundFilter maybeJsonData).eventIndexer.index =
        if data.isApiVersion then s.eventIndexer.index else s.eventIndexer.index + 1 := by
  cases hapi : data.isApiVersion
  · simp [Server.broadcast_of_isApiVersion_false hapi, Server.sent]
  · simp [Server.broadcast_of_isApiVersion hapi, Server.sent]

/-- The data branch moves the oldest item from the channel to the history. -/
theorem Server.sent_of_receiveData {s s' : Server wb} (h : s.receiveData = some s') : s'.sent = s.sent := by
  obtain ⟨item, rest, runLoop, message, hchannel, -, rfl⟩ := Server.receiveData_eq_some h
  simp [Server.sent, hchannel]

theorem Server.DataSide.sent_eq {s s' : Server wb} (h : s.DataSide s') : s'.sent = s.sent := by
  simp [Server.sent, h.processed, h.dataChannel]

/-- `broadcast` indexes exactly the non-`ApiVersion` data, with consecutive ids
ending just before the indexer's next index. -/
structure Server.Indexed (s : Server wb) : Prop where
  index_none_iff : ∀ item ∈ s.sent, item.maybeEventIndex = none ↔ item.data.isApiVersion = true
  consecutive : ∃ start, eventIndices s.sent = idsFrom start (eventIndices s.sent).length ∧
    s.eventIndexer.index = start + (eventIndices s.sent).length.toUInt32

theorem Server.indexed_init (config : Config) (index : EventIndex) :
    (Server.init wb config index).Indexed :=
  ⟨by simp [Server.init, Server.sent], ⟨index, by simp [Server.init, Server.sent, eventIndices]⟩⟩

theorem Server.Indexed.broadcast {s : Server wb} (h : s.Indexed) (data : SseData)
    (inboundFilter : Option Filter) (maybeJsonData : Option String) :
    (s.broadcast data inboundFilter maybeJsonData).Indexed := by
  obtain ⟨start, hids, hnext⟩ := h.consecutive
  cases hapi : data.isApiVersion
  · -- an indexed item: the run grows by the indexer's next index
    have hsent : (s.broadcast data inboundFilter maybeJsonData).sent =
        s.sent ++ [⟨some s.eventIndexer.index, data, inboundFilter, maybeJsonData⟩] := by
      simp [Server.sent_broadcast, hapi]
    have hindexer : (s.broadcast data inboundFilter maybeJsonData).eventIndexer.index =
        s.eventIndexer.index + 1 := by
      simp [Server.sent_broadcast, hapi]
    have hindices : eventIndices (s.broadcast data inboundFilter maybeJsonData).sent =
        eventIndices s.sent ++ [s.eventIndexer.index] := by
      simp [hsent, eventIndices]
    constructor
    · intro item hitem
      rw [hsent, List.mem_append, List.mem_singleton] at hitem
      rcases hitem with hold | rfl
      · exact h.index_none_iff item hold
      · simp [hapi]
    · refine ⟨start, ?_, ?_⟩
      · rw [hindices, List.length_append, List.length_singleton, idsFrom_succ, ← hids, ← hnext]
      · rw [hindexer, hindices, List.length_append, List.length_singleton, hnext]
        simp [UInt32.ofNat_add, UInt32.add_assoc]
  · -- an `ApiVersion`: no index
    have hsent : (s.broadcast data inboundFilter maybeJsonData).sent =
        s.sent ++ [⟨none, data, inboundFilter, maybeJsonData⟩] := by
      simp [Server.sent_broadcast, hapi]
    have hindexer : (s.broadcast data inboundFilter maybeJsonData).eventIndexer = s.eventIndexer := by
      simp [Server.broadcast_of_isApiVersion hapi]
    have hindices : eventIndices (s.broadcast data inboundFilter maybeJsonData).sent =
        eventIndices s.sent := by
      simp [hsent, eventIndices]
    constructor
    · intro item hitem
      rw [hsent, List.mem_append, List.mem_singleton] at hitem
      rcases hitem with hold | rfl
      · exact h.index_none_iff item hold
      · simp [hapi]
    · exact ⟨start, by rw [hindices]; exact hids, by rw [hindexer, hindices]; exact hnext⟩

theorem Server.Indexed.receiveData {s s' : Server wb} (h : s.Indexed) (hs : s.receiveData = some s') :
    s'.Indexed := by
  obtain ⟨item, rest, runLoop, message, -, -, hs'⟩ := Server.receiveData_eq_some hs
  have hsent : s'.sent = s.sent := Server.sent_of_receiveData hs
  have hindexer : s'.eventIndexer = s.eventIndexer := by rw [hs']
  exact ⟨hsent ▸ h.index_none_iff, hsent ▸ hindexer ▸ h.consecutive⟩

theorem Server.Indexed.dataSide {s s' : Server wb} (h : s.Indexed) (hs : s.DataSide s') : s'.Indexed := by
  have hsent : s'.sent = s.sent := hs.sent_eq
  exact ⟨hsent ▸ h.index_none_iff, hsent ▸ hs.eventIndexer ▸ h.consecutive⟩

/-- **The indexer invariant holds in every reachable state.** -/
theorem Server.Reachable.indexed {config : Config} {s : Server wb} (hs : s.Reachable config) :
    s.Indexed := by
  induction hs with
  | init index => exact Server.indexed_init config index
  | step a _ hstep ih =>
      rcases Server.step_cases hstep with ⟨data, inboundFilter, maybeJsonData, rfl⟩ | hdata | hside
      · exact ih.broadcast data inboundFilter maybeJsonData
      · exact ih.receiveData hdata
      · exact ih.dataSide hside

/-- **The run loop refines its history in every reachable state.** -/
theorem Server.Reachable.refines {config : Config} {s : Server wb} (hs : s.Reachable config) :
    s.runLoop.Refines config.eventStreamBufferLength.toNat s.processed := by
  induction hs with
  | init index => exact RunLoop.refines_init config
  | step a _ hstep ih =>
      rcases Server.step_cases hstep with ⟨data, inboundFilter, maybeJsonData, rfl⟩ | hdata | hside
      · cases data <;> exact ih
      · obtain ⟨item, rest, runLoop, message, -, hhandle, rfl⟩ := Server.receiveData_eq_some hdata
        exact (ih.handleIncomingData hhandle).1
      · rw [hside.runLoop, hside.processed]
        exact ih

/-! ## The ids of the buffered entries -/

/-- Once a version is known every indexed item is buffered, so the buffered ids are
all the ids. -/
theorem map_id_bufferedFrom_some {items : List InboundData} {v : ProtocolVersion}
    (h : ∀ item ∈ items, item.maybeEventIndex = none ↔ item.data.isApiVersion = true) :
    (bufferedFrom (some v) items).map (fun e => e.2.id) = (eventIndices items).map some := by
  induction items generalizing v with
  | nil => rfl
  | cons item rest ih =>
      have hrest := fun i hi => h i (List.mem_cons_of_mem item hi)
      have hitem := h item List.mem_cons_self
      cases hapi : item.data.isApiVersion
      · -- an indexed event, buffered under `v`
        obtain ⟨index, hindex⟩ := Option.ne_none_iff_exists'.mp (by simpa [hapi] using hitem)
        simp [bufferedFrom, bufferEntry, hapi, latestAfter_of_isApiVersion_false hapi, eventIndices,
          hindex, InboundData.toEvent, ih hrest]
      · -- an `ApiVersion`: no entry, no id, and a version is still known
        have hindex : item.maybeEventIndex = none := by simpa [hapi] using hitem
        obtain ⟨w, hw⟩ := Option.isSome_iff_exists.mp
          (isSome_latestAfter_of_isApiVersion (some v) hapi)
        simp [bufferedFrom, bufferEntry, hapi, hw, eventIndices, hindex, ih hrest]

/-- The buffered ids are the ids from some point of the history on: those of the
indexed items handled once a first version was known. -/
theorem exists_map_id_bufferedFrom (latest : Option ProtocolVersion) {items : List InboundData}
    (h : ∀ item ∈ items, item.maybeEventIndex = none ↔ item.data.isApiVersion = true) :
    ∃ j, (bufferedFrom latest items).map (fun e => e.2.id) = ((eventIndices items).drop j).map some := by
  cases latest with
  | some v => exact ⟨0, by rw [List.drop_zero, map_id_bufferedFrom_some h]⟩
  | none =>
      induction items with
      | nil => exact ⟨0, rfl⟩
      | cons item rest ih =>
          have hrest := fun i hi => h i (List.mem_cons_of_mem item hi)
          have hitem := h item List.mem_cons_self
          cases hapi : item.data.isApiVersion
          · -- an indexed event before any version: handled, not buffered
            obtain ⟨index, hindex⟩ := Option.ne_none_iff_exists'.mp (by simpa [hapi] using hitem)
            obtain ⟨j, hj⟩ := ih hrest
            refine ⟨j + 1, ?_⟩
            simpa [bufferedFrom, bufferEntry, hapi, latestAfter_of_isApiVersion_false hapi,
              eventIndices, hindex] using hj
          · -- the first `ApiVersion`: everything after it is buffered
            have hindex : item.maybeEventIndex = none := by simpa [hapi] using hitem
            obtain ⟨w, hw⟩ := Option.isSome_iff_exists.mp (isSome_latestAfter_of_isApiVersion none hapi)
            refine ⟨0, ?_⟩
            simp [bufferedFrom, bufferEntry, hapi, hw, eventIndices, hindex, map_id_bufferedFrom_some hrest]


/-! ## The shape of the buffer -/

theorem skipWhile_isSome {α : Type} {p : α → Option Bool} {l : List α}
    (h : ∀ a ∈ l, (p a).isSome) : (skipWhile p l).isSome := by
  induction l with
  | nil => rfl
  | cons a l ih =>
      obtain ⟨b, hb⟩ := Option.isSome_iff_exists.mp (h a List.mem_cons_self)
      cases b with
      | true => simpa [skipWhile, hb] using ih fun x hx => h x (List.mem_cons_of_mem a hx)
      | false => simp [skipWhile, hb]

/-- With every buffered event indexed, the `unwrap`s of `register_new_subscriber`
succeed. -/
theorem registerNewSubscriber_isSome (startFrom : Option EventIndex) {buffer : wb.Buf}
    (latest : Option ProtocolVersion) (h : ∀ e ∈ wb.iter buffer, e.2.id.isSome) :
    (registerNewSubscriber wb startFrom buffer latest).isSome := by
  cases startFrom with
  | none => simp [registerNewSubscriber]
  | some startIndex =>
      have hzone : (inWraparoundZone wb buffer).isSome := by
        unfold inWraparoundZone
        cases hhead : (wb.iter buffer).head? with
        | none => rfl
        | some e => simpa using h e (List.mem_of_head? hhead)
      obtain ⟨inZone, hz⟩ := Option.isSome_iff_exists.mp hzone
      have hskip : (skipWhile (skipBeforeStart inZone (bufferSize wb buffer) startIndex)
          (wb.iter buffer)).isSome :=
        skipWhile_isSome fun e he => by simpa [skipBeforeStart] using h e he
      obtain ⟨replayed, hr⟩ := Option.isSome_iff_exists.mp hskip
      simp [registerNewSubscriber, selectReplayed, hz, hr]

/-- The shape of the run loop's buffer. -/
structure Server.BufferShape (s : Server wb) : Prop where
  /-- Every entry is an event other than `ApiVersion`, with an id. -/
  entry_indexed : ∀ e ∈ wb.iter s.runLoop.buffer, e.2.data.isApiVersion = false ∧ e.2.id.isSome
  /-- The buffered ids are consecutive modulo `2^32`, oldest first. -/
  consecutive : ∃ f, (wb.iter s.runLoop.buffer).map (fun e => e.2.id) =
    (idsFrom f (wb.iter s.runLoop.buffer).length).map some
  /-- Each entry's version is the one the last `ApiVersion` handled before its event
  announced. -/
  entry_version : ∀ e ∈ wb.iter s.runLoop.buffer, ∃ pre item post,
    s.processed = pre ++ item :: post ∧ item.toEvent = e.2 ∧ latestVersion none pre = some e.1
  /-- `register_new_subscriber` does not panic, whatever the client asks for. -/
  register_total : ∀ startFrom, (registerNewSubscriber wb startFrom s.runLoop.buffer
    s.runLoop.latestProtocolVersion).isSome

/-- Every buffered entry is an indexed event of the history, under the version
announced last before it. -/
theorem Server.Reachable.entry {config : Config} {s : Server wb} (hs : s.Reachable config)
    {e : ProtocolVersion × ServerSentEvent} (he : e ∈ wb.iter s.runLoop.buffer) :
    (e.2.data.isApiVersion = false ∧ e.2.id.isSome) ∧ ∃ pre item post,
      s.processed = pre ++ item :: post ∧ item.toEvent = e.2 ∧ latestVersion none pre = some e.1 := by
  rw [hs.refines.items_eq] at he
  obtain ⟨pre, item, post, hsplit, hapi, hevent, hversion⟩ := mem_bufferedFrom (mem_of_mem_lastN he)
  have hsent : item ∈ s.sent := by simp [Server.sent, hsplit]
  have hindex : item.maybeEventIndex ≠ none := by
    rw [ne_eq, hs.indexed.index_none_iff item hsent, hapi]
    decide
  refine ⟨⟨?_, ?_⟩, pre, item, post, hsplit, hevent, hversion⟩
  · simpa [← hevent, InboundData.toEvent] using hapi
  · simpa [← hevent, InboundData.toEvent, Option.isSome_iff_ne_none] using hindex

/-- The buffered ids are consecutive in every reachable state. -/
theorem Server.Reachable.consecutive {config : Config} {s : Server wb} (hs : s.Reachable config) :
    ∃ f, (wb.iter s.runLoop.buffer).map (fun e => e.2.id) =
      (idsFrom f (wb.iter s.runLoop.buffer).length).map some := by
  have hnone : ∀ item ∈ s.processed,
      item.maybeEventIndex = none ↔ item.data.isApiVersion = true :=
    fun item h => hs.indexed.index_none_iff item (List.mem_append_left _ h)
  obtain ⟨j, hj⟩ := exists_map_id_bufferedFrom none hnone
  obtain ⟨start, hids, -⟩ := hs.indexed.consecutive
  -- the ids handled so far are a prefix of the ids sent so far
  have hhandled : eventIndices s.processed = idsFrom start (eventIndices s.processed).length := by
    have happend : eventIndices s.processed ++ eventIndices s.dataChannel =
        idsFrom start (eventIndices s.sent).length := by
      rw [← hids, Server.sent, eventIndices, eventIndices, eventIndices, List.filterMap_append]
    exact eq_idsFrom_of_append_eq happend
  have hmap : (wb.iter s.runLoop.buffer).map (fun e => e.2.id) =
      (lastN config.eventStreamBufferLength.toNat ((eventIndices s.processed).drop j)).map some := by
    rw [hs.refines.items_eq, map_lastN, hj, map_lastN]
  -- the buffered ids are a suffix of that prefix, hence a run themselves
  have hsuffix : lastN config.eventStreamBufferLength.toNat ((eventIndices s.processed).drop j) <:+
      idsFrom start (eventIndices s.processed).length := by
    rw [← hhandled]
    exact (lastN_suffix _ _).trans (List.drop_suffix _ _)
  obtain ⟨f, hf⟩ := exists_idsFrom_of_suffix hsuffix
  have hlength := congrArg List.length hmap
  rw [List.length_map, List.length_map] at hlength
  refine ⟨f, ?_⟩
  rw [hmap, hf, hlength]

/-- **The shape of the buffer in every reachable state**: whatever data was
broadcast and however the registrations interleaved, the buffer holds only
indexed events other than `ApiVersion`, with consecutive ids, each under the
version the last `ApiVersion` handled before it announced, and
`register_new_subscriber` does not panic. -/
theorem bufferShape_of_reachable {config : Config} {s : Server wb} (hs : s.Reachable config) :
    s.BufferShape where
  entry_indexed := fun _ he => (hs.entry he).1
  consecutive := hs.consecutive
  entry_version := fun _ he => (hs.entry he).2
  register_total := fun startFrom =>
    registerNewSubscriber_isSome startFrom _ fun _ he => (hs.entry he).1.2

/-- Across the wrap of the ids: a buffer of two ends up holding the events of ids
`u32::MAX` and `0`, in that order. -/
theorem bufferShape_across_wrap :
    ∃ s : Server wheelBufModel, s.Reachable ⟨2, 10⟩ ∧
      (wheelBufModel.iter s.runLoop.buffer).map (fun e => e.2.id) = [some 4294967295, some 0] ∧
      s.BufferShape := by
  obtain ⟨s, hs, hids⟩ := @Server.exists_reachable_of_exec wheelBufModel ⟨2, 10⟩ 4294967294
    [.broadcast (.apiVersion (.fromParts 1 0 0)) none none,
      .broadcast (.fault ⟨0⟩ ⟨0, []⟩ ⟨0⟩) none none,
      .broadcast (.fault ⟨1⟩ ⟨0, []⟩ ⟨0⟩) none none,
      .broadcast (.fault ⟨2⟩ ⟨0, []⟩ ⟨0⟩) none none,
      .receiveData, .receiveData, .receiveData, .receiveData]
    (fun s => (wheelBufModel.iter s.runLoop.buffer).map (fun e => e.2.id) ==
      [some 4294967295, some 0])
    (by decide)
  exact ⟨s, hs, by simpa using hids, bufferShape_of_reachable hs⟩

end CasperSidecar
