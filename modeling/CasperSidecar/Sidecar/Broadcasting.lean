import Mathlib
import CasperSidecar.EventStreamServer.Provenance
import CasperSidecar.RestServer.Filters

/-!
# Sidecar.Broadcasting

The sidecar as one system (`sidecar/src/main.rs`): the consumers of inbound events
(`Sidecar`) send what they saved on the outbound channel, and the task of
`start_event_broadcasting` receives each message in turn and hands it to
`EventStreamServer::broadcast` (`Server`), whose run loop and clients go on in their
own interleaving.  A `Pipeline` holds the two halves and how many messages of the
channel the task has received; a step of the consumers, of the task or of the server
may come next.  The server is broadcast to by the task only.

* `Pipeline.Reachable.inv` — each half is a reachable state of its own, and the server
  was sent exactly the messages the task received, in the order sent, with the ids of
  the channel's numbering from the restored index (`numbered`);
* `streamed_events_served` — every event of a stored kind a client of the event stream
  got is served by the REST API from the database the consumers wrote;
* `streamed_in_sent_order` — a client's receiver gets the messages in the order the
  consumers sent them, each with its id in that numbering, and no two of its events
  take one key of the tables.
-/

namespace CasperSidecar

variable {wb : EventBufferImpl}

/-! ## The system -/

/-- The consumers, the broadcasting task and the event stream server. -/
structure Pipeline (wb : EventBufferImpl) where
  sidecar : Sidecar
  /-- How many messages of the outbound channel the task has received. -/
  forwarded : Nat
  server : Server wb

/-- The consumers over a database holding `store`, and `EventStreamServer::new` with
its counter restored to `index`. -/
def Pipeline.init (wb : EventBufferImpl) (store : EventStore) (config : Config) (index : EventIndex) :
    Pipeline wb :=
  ⟨.init store, 0, .init wb config index⟩

/-- What happens next: a step of the consumers, the task receiving the next message,
or a step of the server's run loop or of one of its clients. -/
inductive Pipeline.Action where
  | handle (a : Sidecar.Action)
  | forward
  | serve (a : CasperSidecar.Action)

/-- One step of the system; the server is broadcast to by `forward` only. -/
def Pipeline.step (config : Config) (p : Pipeline wb) : Pipeline.Action → Option (Pipeline wb)
  | .handle a => (p.sidecar.step a).map fun sidecar => { p with sidecar }
  | .forward =>
      -- `outbound_sse_data_receiver.recv()`, then `event_stream_server.broadcast`
      match p.sidecar.outbound[p.forwarded]? with
      | some (sseData, inboundFilter, maybeJsonData) =>
          some { p with forwarded := p.forwarded + 1,
                        server := p.server.broadcast sseData inboundFilter maybeJsonData }
      | none => none
  | .serve (.broadcast ..) => none
  | .serve a => (p.server.step config a).map fun server => { p with server }

/-- The states the system reaches from its start. -/
def Pipeline.Reachable (store : EventStore) (config : Config) (index : EventIndex) :
    Pipeline wb → Prop :=
  Transition.Reachable (Pipeline.step config) (.init wb store config index)

/-! ## What each half does to the channel -/

/-- The consumers only append to the outbound channel. -/
theorem Sidecar.outbound_prefix_of_step {s s' : Sidecar} {a : Sidecar.Action} (h : s.step a = some s') :
    s.outbound <+: s'.outbound := by
  cases a with
  | handle event dbFails unixTimestamp currentTimestamp =>
      cases h
      cases hkind : event.data.isApiVersion with
      | false =>
          rw [(s.handleSingleEvent_of_not_apiVersion hkind dbFails unixTimestamp currentTimestamp).1]
      | true =>
          -- only `handle_api_version` sends at once, and it appends
          obtain ⟨id, data, source, jsonData, inboundFilter⟩ := event
          cases data <;> simp only [SseData.isApiVersion, Bool.false_eq_true] at hkind
          case apiVersion version =>
            simp only [Sidecar.handleSingleEvent, Sidecar.handleApiVersion_eq]
            split
            · exact List.prefix_append _ _
            · exact List.prefix_refl _
  | send i =>
      obtain ⟨hi, rfl⟩ := Sidecar.step_send h
      exact List.prefix_append _ _

/-- The message `EventStreamServer::broadcast` was called with for an item. -/
def InboundData.message (item : InboundData) : OutboundMessage :=
  (item.data, item.inboundFilter, item.maybeJsonData)

/-- The message an event was built from: its data, inbound filter and raw JSON. -/
def ServerSentEvent.message (event : ServerSentEvent) : OutboundMessage :=
  (event.data, event.inboundFilter, event.jsonData)

/-! ## The ids of the channel's messages -/

/-- The number of messages that take an id: all but the `ApiVersion`s. -/
def indexedCount (messages : List OutboundMessage) : Nat :=
  messages.countP fun m => !m.1.isApiVersion

/-- The channel's messages numbered from `index` in the order sent: an `ApiVersion`
takes no id, any other message the next one, wrapping at `2^32`. -/
def numbered (index : EventIndex) : List OutboundMessage → List (OutboundMessage × Option EventIndex)
  | [] => []
  | m :: rest =>
      if m.1.isApiVersion then (m, none) :: numbered index rest
      else (m, some index) :: numbered (index + 1) rest

/-- Numbering a channel in two parts starts the second where the first's ids end. -/
theorem numbered_append (index : EventIndex) (l l' : List OutboundMessage) :
    numbered index (l ++ l') = numbered index l ++ numbered (index + (indexedCount l).toUInt32) l' := by
  induction l generalizing index with
  | nil => simp [numbered, indexedCount]
  | cons m rest ih =>
      by_cases hapi : m.1.isApiVersion = true
      · simp [numbered, hapi, ih, indexedCount]
      · -- an indexed message moves the start of the rest by one
        have hstart : index + 1 + (indexedCount rest).toUInt32 = index + (indexedCount (m :: rest)).toUInt32 := by
          simp only [indexedCount, List.countP_cons, hapi, Bool.not_false, if_true, UInt32.ofNat_add]
          ac_rfl
        simp only [List.cons_append, numbered, hapi, Bool.false_eq_true, if_false, ih, hstart]

theorem map_fst_numbered (index : EventIndex) (l : List OutboundMessage) :
    (numbered index l).map Prod.fst = l := by
  induction l generalizing index with
  | nil => rfl
  | cons m rest ih =>
      unfold numbered
      split <;> simp [ih]

theorem numbered_take_sublist (index : EventIndex) (l : List OutboundMessage) (n : Nat) :
    (numbered index (l.take n)).Sublist (numbered index l) := by
  conv_rhs => rw [← List.take_append_drop n l]
  rw [numbered_append]
  exact List.sublist_append_left _ _

/-! ## What the server does to what it was sent -/

/-- The run loop and the clients leave what `broadcast` sent, and the indexer, as they
are. -/
theorem Server.sent_of_step {config : Config} {s s' : Server wb} {a : Action}
    (h : s.step config a = some s')
    (ha : ∀ data inboundFilter maybeJsonData, a ≠ .broadcast data inboundFilter maybeJsonData) :
    s'.sent = s.sent ∧ s'.eventIndexer = s.eventIndexer := by
  cases a with
  | broadcast data inboundFilter maybeJsonData => exact absurd rfl (ha data inboundFilter maybeJsonData)
  | receiveData =>
      obtain ⟨item, rest, runLoop, message, -, -, hs'⟩ := Server.receiveData_eq_some h
      exact ⟨Server.sent_of_receiveData h, by rw [hs']⟩
  | receiveSubscriber =>
      have hside := Server.receiveSubscriber_dataSide h
      exact ⟨hside.sent_eq, hside.eventIndexer⟩
  | connect startFrom =>
      cases h
      have hside := Server.connect_dataSide config s startFrom
      exact ⟨hside.sent_eq, hside.eventIndexer⟩
  | subscribe c =>
      have hside := Server.subscribe_dataSide h
      exact ⟨hside.sent_eq, hside.eventIndexer⟩
  | disconnect c =>
      have hside := Server.disconnect_dataSide h
      exact ⟨hside.sent_eq, hside.eventIndexer⟩

theorem Pipeline.step_serve {config : Config} {p p' : Pipeline wb} {a : CasperSidecar.Action}
    (h : p.step config (.serve a) = some p') :
    (∀ data inboundFilter maybeJsonData, a ≠ .broadcast data inboundFilter maybeJsonData) ∧
      ∃ server, p.server.step config a = some server ∧ p' = { p with server } := by
  cases a
  case broadcast => cases h
  all_goals
    simp only [Pipeline.step] at h
    obtain ⟨server, hserver, rfl⟩ := Option.map_eq_some_iff.mp h
    exact ⟨by simp, server, hserver, rfl⟩

/-! ## The invariant -/

/-- Each half is a reachable state of its own, the task has received a prefix of the
outbound channel, and the server was sent exactly those messages, in order, numbered
from the restored index. -/
structure Pipeline.Inv (store : EventStore) (config : Config) (index : EventIndex) (p : Pipeline wb) :
    Prop where
  sidecar_reachable : p.sidecar.Reachable store
  server_reachable : p.server.Reachable config
  forwarded_le : p.forwarded ≤ p.sidecar.outbound.length
  sent_eq : p.server.sent.map (fun item => (item.message, item.maybeEventIndex)) =
    numbered index (p.sidecar.outbound.take p.forwarded)
  counter_eq : p.server.eventIndexer.index =
    index + (indexedCount (p.sidecar.outbound.take p.forwarded)).toUInt32

theorem Pipeline.inv_init (store : EventStore) (config : Config) (index : EventIndex) :
    (Pipeline.init wb store config index).Inv store config index :=
  ⟨.init, .init index, Nat.zero_le _, rfl, by simp [Pipeline.init, Server.init, indexedCount]⟩

theorem Pipeline.Inv.step {store : EventStore} {config : Config} {index : EventIndex} {p p' : Pipeline wb}
    {a : Pipeline.Action} (h : p.Inv store config index) (hstep : p.step config a = some p') :
    p'.Inv store config index := by
  cases a with
  | handle a =>
      -- the channel grows at its end, past what the task received
      simp only [Pipeline.step] at hstep
      obtain ⟨sidecar, hsidecar, rfl⟩ := Option.map_eq_some_iff.mp hstep
      obtain ⟨fresh, hfresh⟩ := Sidecar.outbound_prefix_of_step hsidecar
      have hle := h.forwarded_le
      have htake : sidecar.outbound.take p.forwarded = p.sidecar.outbound.take p.forwarded := by
        rw [← hfresh, List.take_append_of_le_length hle]
      refine ⟨.step a h.sidecar_reachable hsidecar, h.server_reachable, ?_, ?_, ?_⟩
      · simp only [← hfresh, List.length_append]
        omega
      · simp only [htake]
        exact h.sent_eq
      · simp only [htake]
        exact h.counter_eq
  | forward =>
      simp only [Pipeline.step] at hstep
      split at hstep
      · rename_i sseData inboundFilter maybeJsonData hnext
        cases hstep
        obtain ⟨hsent, hcounter⟩ := p.server.sent_broadcast sseData inboundFilter maybeJsonData
        have htake : p.sidecar.outbound.take (p.forwarded + 1) =
            p.sidecar.outbound.take p.forwarded ++ [(sseData, inboundFilter, maybeJsonData)] := by
          rw [List.take_add_one, hnext]
          rfl
        refine ⟨h.sidecar_reachable, .step (.broadcast sseData inboundFilter maybeJsonData)
          h.server_reachable rfl, (List.getElem?_eq_some_iff.mp hnext).1, ?_, ?_⟩
        · -- the item takes the indexer's id, the next one of the numbering
          simp only [hsent, htake, List.map_append, h.sent_eq, numbered_append, ← h.counter_eq]
          cases hapi : sseData.isApiVersion <;> simp [numbered, hapi, InboundData.message]
        · simp only [hcounter, htake, h.counter_eq]
          cases hapi : sseData.isApiVersion <;>
            simp [indexedCount, hapi, UInt32.ofNat_add, UInt32.add_assoc]
      · cases hstep
  | serve a =>
      obtain ⟨ha, server, hserver, rfl⟩ := Pipeline.step_serve hstep
      obtain ⟨hsent, hindexer⟩ := Server.sent_of_step hserver ha
      refine ⟨h.sidecar_reachable, .step a h.server_reachable hserver, h.forwarded_le, ?_, ?_⟩
      · simp only [hsent]
        exact h.sent_eq
      · simp only [hindexer]
        exact h.counter_eq

theorem Pipeline.Reachable.inv {store : EventStore} {config : Config} {index : EventIndex}
    {p : Pipeline wb} (hp : p.Reachable store config index) : p.Inv store config index :=
  Transition.Reachable.invariant (Pipeline.inv_init store config index)
    (fun _ _ _ h hstep => h.step hstep) hp

/-- Every item the run loop handled carries a message the consumers sent. -/
theorem Pipeline.Inv.message_mem_outbound {store : EventStore} {config : Config} {index : EventIndex}
    {p : Pipeline wb} (h : p.Inv store config index) {item : InboundData}
    (hitem : item ∈ p.server.processed) : item.message ∈ p.sidecar.outbound := by
  have hmem : (item.message, item.maybeEventIndex) ∈ numbered index (p.sidecar.outbound.take p.forwarded) := by
    rw [← h.sent_eq]
    exact List.mem_map_of_mem (List.mem_append_left _ hitem)
  have hfst : item.message ∈ (numbered index (p.sidecar.outbound.take p.forwarded)).map Prod.fst :=
    List.mem_map_of_mem hmem
  rw [map_fst_numbered] at hfst
  exact List.mem_of_mem_take hfst

/-! ## What the clients get -/

theorem ServerSentEvent.IsAnnouncement.record?_eq_none {event : ServerSentEvent}
    (h : event.IsAnnouncement) : event.data.record? = none := by
  obtain ⟨version, rfl | rfl⟩ := h <;> rfl

/-- An event of a stored kind has a path in the REST API. -/
theorem SseData.exists_restPath_of_record {data : SseData} {record : EventTypeId × EventKey × Row}
    (h : data.record? = some record) : ∃ path, data.restPath? = some path := by
  cases data <;> simp_all [SseData.record?, SseData.restPath?]

/-- **What a client is streamed, the REST API serves.**  In every run of the sidecar, over
any database and any interleaving of the consumers, the broadcasting task, the server's
run loop and its clients: every event of a stored kind that a client of the event
stream got, replayed on subscription or broadcast to it, has a path in the REST API,
where a request is answered with the event's row from the database. -/
theorem streamed_events_served {store : EventStore} {config : Config} {index : EventIndex}
    {p : Pipeline wb} (hp : p.Reachable store config index) {client : Client}
    (hclient : client ∈ p.server.clients) {event : ServerSentEvent} (hevent : event ∈ client.events)
    {eventTypeId : EventTypeId} {eventKey : EventKey} {row : Row}
    (hrecord : event.data.record? = some (eventTypeId, eventKey, row)) :
    ∃ path reply, event.data.restPath? = some path ∧
      restResponse p.sidecar.store ⟨true, path⟩ = .ok reply ∧ reply.serves row = true := by
  have h := hp.inv
  rcases h.server_reachable.events_handled client hclient event hevent with
    hannounce | ⟨item, hitem, rfl⟩
  · rw [hannounce.record?_eq_none] at hrecord
    cases hrecord
  -- the event is a handled item's, whose message the consumers sent after its save
  have hrecord' : item.data.record? = some (eventTypeId, eventKey, row) := hrecord
  have hrow : row ∈ p.sidecar.store.tables.rows :=
    h.sidecar_reachable.mem_rows_of_sent (h.message_mem_outbound hitem)
      (by simp [tableRow?, InboundData.message, hrecord'])
  obtain ⟨path, hpath⟩ := SseData.exists_restPath_of_record hrecord
  obtain ⟨reply, hreply, hserves⟩ := restResponse_of_record hrecord hrow hpath
  exact ⟨path, reply, hpath, hreply, hserves⟩

/-- A client subscribes; a node reports a deploy, which is saved, sent, received by the
task, handled by the run loop and broadcast to the client. -/
theorem streamed_events_served_accepted_deploy :
    ∃ p : Pipeline wheelBufModel, p.Reachable .empty ⟨4, 10⟩ 0 ∧
      ∃ client ∈ p.server.clients, ∃ event ∈ client.events,
      event.data = .deployAccepted ⟨⟨⟨Vector.replicate 32 7⟩⟩⟩ ∧
      ∃ reply, restResponse p.sidecar.store
          ⟨true, ["deploy", "accepted", (⟨Vector.replicate 32 7⟩ : Digest).hexText]⟩ = .ok reply ∧
        reply.serves ⟨.deployAccepted, [.deployAccepted ⟨⟨Vector.replicate 32 7⟩⟩]⟩ = true := by
  obtain ⟨p, hp, hrun⟩ := @Transition.exists_reachable_of_exec _ _ (Pipeline.step ⟨4, 10⟩)
    (.init wheelBufModel .empty ⟨4, 10⟩ 0)
    [.serve (.connect none), .serve (.subscribe 0), .serve .receiveSubscriber,
      .handle (.handle ⟨1, .deployAccepted ⟨⟨⟨Vector.replicate 32 7⟩⟩⟩, "http://10.0.0.1:9999", none,
        .main⟩ false 0 0),
      .handle (.send 0), .forward, .serve .receiveData]
    (fun p => p.server.clients.any fun client => client.events.any fun event =>
      event.data == .deployAccepted ⟨⟨⟨Vector.replicate 32 7⟩⟩⟩)
    (by decide)
  obtain ⟨client, hclient, hany⟩ := List.any_eq_true.mp hrun
  obtain ⟨event, hevent, hdata⟩ := List.any_eq_true.mp hany
  have hdeploy : event.data = .deployAccepted ⟨⟨⟨Vector.replicate 32 7⟩⟩⟩ := beq_iff_eq.mp hdata
  have hrecord : event.data.record? = some (.deployAccepted, .hash ⟨Vector.replicate 32 7⟩,
      ⟨.deployAccepted, [.deployAccepted ⟨⟨Vector.replicate 32 7⟩⟩]⟩) := by
    rw [hdeploy]
    rfl
  have hserved := streamed_events_served hp hclient hevent hrecord
  obtain ⟨path, reply, hpath, hreply, hserves⟩ := hserved
  rw [hdeploy] at hpath
  cases hpath
  exact ⟨p, hp, client, hclient, event, hevent, hdeploy, reply, hreply, hserves⟩

/-- The events sent on the outbound channel take pairwise distinct keys. -/
theorem Sidecar.Committed.outbound_keys_pairwise {s : Sidecar} (hc : s.Committed) :
    (s.outbound.map Prod.fst).Pairwise (fun a b => a.tableKeys.Disjoint b.tableKeys) := by
  have hsub : (s.outbound.filterMap tableRow?).Subperm s.store.tables.rows :=
    ((List.sublist_append_left _ _).filterMap _).subperm.trans hc.rows_subperm
  have hpairwise := s.store.tables.pairwise_disjoint_of_subperm hsub
  rw [List.pairwise_filterMap] at hpairwise
  rw [List.pairwise_map]
  exact hpairwise.imp SseData.tableKeys_disjoint

/-- **Each client gets the events in the order sent, with the ids counted from the
restored index.**  In every run of the sidecar from an event index `index`: the events a
client's receiver got, each with its id, are a sublist of the outbound channel numbered
from `index`.  So the client gets the messages in the order the consumers sent them, none
more often than sent, and each with `index` plus the number of messages other than
`ApiVersion` sent before it (wrapping at `2^32`).  No two of them take one key of the
tables (one block, deploy, fault, signature or step). -/
theorem streamed_in_sent_order {store : EventStore} {config : Config} {index : EventIndex}
    {p : Pipeline wb} (hp : p.Reachable store config index) {client : Client}
    (hclient : client ∈ p.server.clients) :
    (client.received.map fun event => (event.message, event.id)).Sublist
        (numbered index p.sidecar.outbound) ∧
      (client.received.map ServerSentEvent.data).Pairwise (fun a b => a.tableKeys.Disjoint b.tableKeys) := by
  have h := hp.inv
  -- the receiver's events are handled items', whose messages and ids the task numbered
  have hnumbered : (client.received.map fun event => (event.message, event.id)).Sublist
      (numbered index p.sidecar.outbound) :=
    calc (client.received.map fun event => (event.message, event.id)).Sublist
          ((p.server.processed.map InboundData.toEvent).map fun event => (event.message, event.id)) :=
          (h.server_reachable.received_sublist client hclient).map _
      _ = p.server.processed.map fun item => (item.message, item.maybeEventIndex) := by
          rw [List.map_map]
          rfl
      List.Sublist _ (p.server.sent.map fun item => (item.message, item.maybeEventIndex)) :=
          (List.sublist_append_left _ _).map _
      _ = numbered index (p.sidecar.outbound.take p.forwarded) := h.sent_eq
      List.Sublist _ (numbered index p.sidecar.outbound) := numbered_take_sublist index _ _
  refine ⟨hnumbered, ?_⟩
  -- their messages are a sublist of the channel, whose keys are pairwise distinct
  have hsent : (client.received.map ServerSentEvent.message).Sublist p.sidecar.outbound := by
    simpa [List.map_map, Function.comp_def, map_fst_numbered] using hnumbered.map Prod.fst
  have hkeys := h.sidecar_reachable.committed.outbound_keys_pairwise
  rw [show client.received.map ServerSentEvent.data =
    (client.received.map ServerSentEvent.message).map Prod.fst by rw [List.map_map]; rfl]
  exact hkeys.sublist (hsent.map _)

/-- A client subscribes; a node reports two deploys, which the consumers send in the
other order; the client gets both in the order sent, with ids `0` and `1`. -/
theorem streamed_in_sent_order_two_deploys :
    ∃ p : Pipeline wheelBufModel, p.Reachable .empty ⟨4, 10⟩ 0 ∧ ∃ client ∈ p.server.clients,
      client.received.map ServerSentEvent.id = [some 0, some 1] ∧
      (client.received.map fun event => (event.message, event.id)).Sublist
          (numbered 0 p.sidecar.outbound) ∧
      (client.received.map ServerSentEvent.data).Pairwise (fun a b => a.tableKeys.Disjoint b.tableKeys) := by
  obtain ⟨p, hp, hrun⟩ := @Transition.exists_reachable_of_exec _ _ (Pipeline.step ⟨4, 10⟩)
    (.init wheelBufModel .empty ⟨4, 10⟩ 0)
    [.serve (.connect none), .serve (.subscribe 0),
      .handle (.handle ⟨1, .deployAccepted ⟨⟨⟨Vector.replicate 32 7⟩⟩⟩, "http://10.0.0.1:9999", none,
        .main⟩ false 0 0),
      .handle (.handle ⟨2, .deployAccepted ⟨⟨⟨Vector.replicate 32 8⟩⟩⟩, "http://10.0.0.1:9999", none,
        .main⟩ false 0 0),
      .handle (.send 1), .handle (.send 0), .forward, .forward, .serve .receiveData, .serve .receiveData]
    (fun p => p.server.clients.any fun client => client.received.map ServerSentEvent.id == [some 0, some 1])
    (by decide)
  obtain ⟨client, hclient, hids⟩ := List.any_eq_true.mp hrun
  have hids' : client.received.map ServerSentEvent.id = [some 0, some 1] := beq_iff_eq.mp hids
  have hordered := streamed_in_sent_order hp hclient
  exact ⟨p, hp, client, hclient, hids', hordered⟩

end CasperSidecar
