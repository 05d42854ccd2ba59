import Mathlib
import CasperSidecar.EventStreamServer.Versions

/-!
# EventStreamServer.Provenance

Where the events a client of the event stream server gets come from.  A client's
events are its initial events, then the events of the messages its broadcast receiver
got (`Client.received`).  Each is an announcement the server makes itself, the sidecar
version or an `ApiVersion` built by `initial_event`, or the event
`handle_incoming_data` built from an item the run loop handled: the message it
broadcasts, and what `register_new_subscriber` replays from the buffer, which holds
entries of the handled items only (`RunLoop.Refines`).

* `Server.Reachable.forall_clients` — the rule for a property of every client relative
  to the run loop's history: one premise per action that touches a client;
* `Server.Reachable.events_handled` — every event a client got is an announcement or
  the event of a handled item;
* `Server.Reachable.received_sublist` — a receiver gets handled events in the order
  they were handled, each at most once.
-/

namespace CasperSidecar

variable {wb : EventBufferImpl}

/-- The event of a broadcast message. -/
def BroadcastChannelMessage.event? : BroadcastChannelMessage → Option ServerSentEvent
  | .serverSentEvent event => some event
  | .shutdown => none

/-- The events of the messages a client's receiver got. -/
def Client.received (client : Client) : List ServerSentEvent :=
  (client.ongoingEvents.getD []).filterMap BroadcastChannelMessage.event?

/-- The events a client got: its initial events, then those its receiver got. -/
def Client.events (client : Client) : List ServerSentEvent :=
  client.initialEvents.getD [] ++ client.received

/-- An event the server makes itself: the sidecar version, or an API version announced
to a new subscriber. -/
def ServerSentEvent.IsAnnouncement (event : ServerSentEvent) : Prop :=
  ∃ version, event = .initialEvent version ∨ event = .sidecarVersionEvent version

/-- Every event the clients got is an announcement or the event of an item of
`history`. -/
def Server.EventsFrom (clients : List Client) (history : List InboundData) : Prop :=
  ∀ client ∈ clients, ∀ event ∈ client.events,
    event.IsAnnouncement ∨ ∃ item ∈ history, item.toEvent = event

/-! ## The initial events -/

theorem mem_sendReplayed {observed : Option ProtocolVersion}
    {replayed : List (ProtocolVersion × ServerSentEvent)} {event : ServerSentEvent}
    (h : event ∈ sendReplayed observed replayed) :
    event.IsAnnouncement ∨ ∃ entry ∈ replayed, entry.2 = event := by
  induction replayed generalizing observed with
  | nil => cases h
  | cons entry rest ih =>
      obtain ⟨protocol, replayedEvent⟩ := entry
      -- the rest of the replay, after the entry and its announcement if any
      have hrest : ∀ observed', event ∈ sendReplayed observed' rest →
          event.IsAnnouncement ∨ ∃ entry ∈ (protocol, replayedEvent) :: rest, entry.2 = event := by
        intro observed' hmem
        rcases ih hmem with hannounce | ⟨e, he, heq⟩
        · exact .inl hannounce
        · exact .inr ⟨e, List.mem_cons_of_mem _ he, heq⟩
      unfold sendReplayed at h
      split at h
      · rcases List.mem_cons.mp h with rfl | h
        · exact .inl ⟨protocol, .inl rfl⟩
        rcases List.mem_cons.mp h with rfl | h
        · exact .inr ⟨_, List.mem_cons_self, rfl⟩
        · exact hrest _ h
      · rcases List.mem_cons.mp h with rfl | h
        · exact .inr ⟨_, List.mem_cons_self, rfl⟩
        · exact hrest _ h

theorem isAnnouncement_of_mem_sendApiVersionIfNecessary {observedEvents : Bool}
    {latest : Option ProtocolVersion} {event : ServerSentEvent}
    (h : event ∈ sendApiVersionIfNecessary observedEvents latest) : event.IsAnnouncement := by
  unfold sendApiVersionIfNecessary at h
  split at h
  · cases latest with
    | none => cases h
    | some version => exact ⟨version, .inl (List.mem_singleton.mp h)⟩
  · cases h

/-- A new subscriber's initial events are announcements and replayed buffer entries. -/
theorem mem_registerNewSubscriber {startFrom : Option EventIndex} {buffer : wb.Buf}
    {latest : Option ProtocolVersion} {events : List ServerSentEvent}
    (h : registerNewSubscriber wb startFrom buffer latest = some events) {event : ServerSentEvent}
    (he : event ∈ events) : event.IsAnnouncement ∨ ∃ entry ∈ wb.iter buffer, entry.2 = event := by
  obtain ⟨replayed, hsuffix, rfl⟩ := registerNewSubscriber_eq_some h
  rw [List.cons_append] at he
  rcases List.mem_cons.mp he with rfl | he
  · exact .inl ⟨sidecarVersion, .inr rfl⟩
  rcases List.mem_append.mp he with hreplayed | hfallback
  · rcases mem_sendReplayed hreplayed with hannounce | ⟨entry, hentry, heq⟩
    · exact .inl hannounce
    · exact .inr ⟨entry, hsuffix.subset hentry, heq⟩
  · exact .inl (isAnnouncement_of_mem_sendApiVersionIfNecessary hfallback)

/-- The buffer holds the events of handled items only. -/
theorem RunLoop.Refines.mem_buffer {loop : RunLoop wb} {capacity : Nat} {history : List InboundData}
    (h : loop.Refines capacity history) {entry : ProtocolVersion × ServerSentEvent}
    (he : entry ∈ wb.iter loop.buffer) : ∃ item ∈ history, item.toEvent = entry.2 := by
  rw [h.items_eq] at he
  obtain ⟨pre, item, post, hsplit, -, hevent, -⟩ := mem_bufferedFrom (RingBuffer.mem_of_mem_lastN he)
  exact ⟨item, by simp [hsplit], hevent⟩

/-! ## A broadcast message -/

@[simp] theorem Client.initialEvents_receive (message : BroadcastChannelMessage) (client : Client) :
    (client.receive message).initialEvents = client.initialEvents := by
  unfold Client.receive
  split <;> rfl

/-- A client's receiver gets the message's event, or nothing when it is not live. -/
theorem Client.received_receive (message : BroadcastChannelMessage) (client : Client) :
    (client.receive message).received = client.received ∨
      (client.receive message).received = client.received ++ message.event?.toList := by
  unfold Client.receive
  split
  · cases hongoing : client.ongoingEvents with
    | none => exact .inl (by simp [Client.received, hongoing])
    | some messages =>
        right
        cases message <;> simp [Client.received, hongoing, BroadcastChannelMessage.event?]
  · exact .inl rfl

theorem Client.events_receive (message : BroadcastChannelMessage) (client : Client) :
    ∀ event ∈ (client.receive message).events, event ∈ client.events ∨ message.event? = some event := by
  intro event he
  rw [Client.events, Client.initialEvents_receive] at he
  rcases Client.received_receive message client with h | h <;> rw [h] at he
  · exact .inl he
  · simp only [List.mem_append, Option.mem_toList] at he
    rcases he with hinitial | hreceived | hnew
    · exact .inl (List.mem_append_left _ hinitial)
    · exact .inl (List.mem_append_right _ hreceived)
    · exact .inr hnew

/-! ## The client rule -/

theorem Server.receiveSubscriber_eq_some {s s' : Server wb} (h : s.receiveSubscriber = some s') :
    ∃ c rest client events, s.subscriberChannel = c :: rest ∧ s.clients[c]? = some client ∧
      registerNewSubscriber wb client.startFrom s.runLoop.buffer s.runLoop.latestProtocolVersion =
        some events ∧
      s' = { s with subscriberChannel := rest,
                    clients := s.clients.set c { client with initialEvents := some events } } := by
  unfold Server.receiveSubscriber at h
  split at h
  · contradiction
  · rename_i c rest hchannel
    split at h
    · contradiction
    · rename_i client hclient
      split at h
      · contradiction
      · rename_i events hevents
        exact ⟨c, rest, client, events, hchannel, hclient, hevents, (Option.some.inj h).symm⟩

theorem Server.subscribe_eq_some {s s' : Server wb} {c : Nat} (h : s.subscribe c = some s') :
    ∃ client, s.clients[c]? = some client ∧ client.ongoingEvents = none ∧
      s' = { s with clients := s.clients.set c { client with ongoingEvents := some [] } } := by
  unfold Server.subscribe at h
  split at h
  · rename_i client hclient
    split at h
    · rename_i hnone
      exact ⟨client, hclient, Option.isNone_iff_eq_none.mp hnone, (Option.some.inj h).symm⟩
    · contradiction
  · contradiction

theorem Server.disconnect_eq_some {s s' : Server wb} {c : Nat} (h : s.disconnect c = some s') :
    ∃ client, s.clients[c]? = some client ∧
      s' = { s with clients := s.clients.set c { client with connected := false } } := by
  unfold Server.disconnect at h
  split at h
  · rename_i client hclient
    split at h
    · exact ⟨client, hclient, (Option.some.inj h).symm⟩
    · contradiction
  · contradiction

theorem forall_mem_set_of {α : Type} {l : List α} {p : α → Prop} (h : ∀ x ∈ l, p x) (i : Nat)
    {y : α} (hy : p y) : ∀ x ∈ l.set i y, p x := by
  intro x hx
  rcases List.mem_or_eq_of_mem_set hx with hold | rfl
  · exact h x hold
  · exact hy

section ClientRule

variable {config : Config} (P : List InboundData → Client → Prop)

/-- **The client rule**: a property of each client relative to the run loop's history
holds in every reachable state when a newly admitted client has it and each action on
a client keeps it: the broadcast every client is handed as its item is handled, the
initial events `register_new_subscriber` builds from a buffer of handled items, the
subscription of a client not yet subscribed, and the disconnection. -/
theorem Server.Reachable.forall_clients
    (hconnect : ∀ history startFrom, P history ⟨startFrom, none, none, true⟩)
    (hreceive : ∀ history client item, P history client →
      P (history ++ [item]) (client.receive (.serverSentEvent item.toEvent)))
    (hregister : ∀ history client (loop : RunLoop wb) capacity events, P history client →
      loop.Refines capacity history →
      registerNewSubscriber wb client.startFrom loop.buffer loop.latestProtocolVersion = some events →
      P history { client with initialEvents := some events })
    (hsubscribe : ∀ history client, P history client → client.ongoingEvents = none →
      P history { client with ongoingEvents := some [] })
    (hdisconnect : ∀ history client, P history client → P history { client with connected := false })
    {s : Server wb} (hs : s.Reachable config) : ∀ client ∈ s.clients, P s.processed client := by
  induction hs with
  | init index =>
      intro client hclient
      cases hclient
  | step a hprev hstep ih =>
      cases a with
      | broadcast data inboundFilter maybeJsonData =>
          -- only the data channel changes
          cases hstep
          cases data <;> exact ih
      | receiveData =>
          obtain ⟨item, rest, runLoop, message, -, hhandle, rfl⟩ := Server.receiveData_eq_some hstep
          obtain ⟨-, rfl⟩ := hprev.refines.handleIncomingData hhandle
          intro client hclient
          obtain ⟨client₀, hclient₀, rfl⟩ := List.mem_map.mp hclient
          exact hreceive _ _ item (ih client₀ hclient₀)
      | receiveSubscriber =>
          obtain ⟨c, rest, client, events, -, hclient, hevents, rfl⟩ :=
            Server.receiveSubscriber_eq_some hstep
          exact forall_mem_set_of ih c
            (hregister _ _ _ _ _ (ih _ (List.mem_of_getElem? hclient)) hprev.refines hevents)
      | connect startFrom =>
          cases hstep
          unfold Server.connect
          split
          · exact ih
          · intro client hclient
            rcases List.mem_append.mp hclient with hold | hnew
            · exact ih client hold
            · rw [List.mem_singleton.mp hnew]
              exact hconnect _ _
      | subscribe c =>
          obtain ⟨client, hclient, hnone, rfl⟩ := Server.subscribe_eq_some hstep
          exact forall_mem_set_of ih c (hsubscribe _ _ (ih _ (List.mem_of_getElem? hclient)) hnone)
      | disconnect c =>
          obtain ⟨client, hclient, rfl⟩ := Server.disconnect_eq_some hstep
          exact forall_mem_set_of ih c (hdisconnect _ _ (ih _ (List.mem_of_getElem? hclient)))

end ClientRule

/-! ## In every reachable state -/

/-- **Clients get only announcements and handled events.**  In every reachable state of
the server, every event a client got, among its initial events or from its broadcast
receiver, is the sidecar version, an API version announced to it, or the event of an
item the run loop handled. -/
theorem Server.Reachable.events_handled {config : Config} {s : Server wb} (hs : s.Reachable config) :
    Server.EventsFrom s.clients s.processed := by
  refine hs.forall_clients
    (fun history client => ∀ event ∈ client.events,
      event.IsAnnouncement ∨ ∃ item ∈ history, item.toEvent = event) ?_ ?_ ?_ ?_ ?_
  · intro history startFrom event he
    cases he
  · -- an old event keeps its item; the new one is the handled item's
    intro history client item hclient event he
    rcases Client.events_receive _ client event he with hold | hnew
    · rcases hclient event hold with hannounce | ⟨item', hitem', heq⟩
      · exact .inl hannounce
      · exact .inr ⟨item', List.mem_append_left _ hitem', heq⟩
    · cases hnew
      exact .inr ⟨item, List.mem_append_right _ (List.mem_singleton_self item), rfl⟩
  · -- the replayed entries are events of handled items
    intro history client loop capacity events hclient hrefines hevents event he
    rcases List.mem_append.mp he with hinitial | hreceived
    · rcases mem_registerNewSubscriber hevents (by simpa using hinitial) with
        hannounce | ⟨entry, hentry, rfl⟩
      · exact .inl hannounce
      · exact .inr (hrefines.mem_buffer hentry)
    · exact hclient event (List.mem_append_right _ hreceived)
  · intro history client hclient hnone event he
    exact hclient event (by simpa [Client.events, Client.received, hnone] using he)
  · intro history client hclient event he
    exact hclient event he

/-- **Each receiver gets the handled events in order.**  In every reachable state of the
server, the events a client's broadcast receiver got are a sublist of the events of the
items the run loop handled: in the order they were handled, none twice. -/
theorem Server.Reachable.received_sublist {config : Config} {s : Server wb} (hs : s.Reachable config) :
    ∀ client ∈ s.clients, client.received.Sublist (s.processed.map InboundData.toEvent) := by
  refine hs.forall_clients
    (fun history client => client.received.Sublist (history.map InboundData.toEvent))
    ?_ ?_ ?_ ?_ ?_
  · intro history startFrom
    exact List.nil_sublist _
  · intro history client item hclient
    rw [List.map_append, List.map_singleton]
    rcases Client.received_receive (.serverSentEvent item.toEvent) client with h | h <;> rw [h]
    · exact hclient.trans (List.sublist_append_left _ _)
    · exact hclient.append (List.Sublist.refl _)
  · intro history client loop capacity events hclient _ _
    exact hclient
  · intro history client _ _
    exact List.nil_sublist _
  · intro history client hclient
    exact hclient

end CasperSidecar
