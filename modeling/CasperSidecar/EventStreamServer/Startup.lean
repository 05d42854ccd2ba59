import Mathlib
import CasperSidecar.EventStreamServer.Buffer

/-!
# EventStreamServer.Startup

What `EventStreamServer::new` builds from its configuration
(`sidecar/src/event_stream_server.rs`): the broadcast channel, sized by
`get_broadcast_channel_size` as `event_stream_buffer_length` plus
`ADDITIONAL_PERCENT_FOR_BROADCAST_CHANNEL_SIZE` percent in `u32` arithmetic, the
run loop's ring buffer of `event_stream_buffer_length` slots (`build_buffer`),
and the event indexer restored from its cache file.

`tokio::sync::broadcast::channel` and `WheelBuf` are not part of the
repository: the first is a parameter `channelPanics` with the law of its
documentation (`BroadcastChannelSpec`: it panics on a zero capacity, and on
none a `u32` can hold), the second the buffer parameter `wb`, whose push
panics on a zero-length buffer.  A debug build panics where the `u32`
multiplication overflows; a release build wraps.  The channel holds at least the buffer's
length, as the comment on `ADDITIONAL_PERCENT_FOR_BROADCAST_CHANNEL_SIZE`
requires, and nothing panics exactly for the lengths from `1` to `35791394`
(`startup_sound_iff`).
-/

namespace CasperSidecar

variable {wb : EventBufferImpl}

/-! ## Sizing the channels -/

/-- `ADDITIONAL_PERCENT_FOR_BROADCAST_CHANNEL_SIZE`. -/
def additionalPercentForBroadcastChannelSize : UInt32 := 20

/-- `get_broadcast_channel_size`, as a release build computes it: the `u32`
multiplication wraps. -/
def getBroadcastChannelSize (config : Config) : UInt32 :=
  config.eventStreamBufferLength * (100 + additionalPercentForBroadcastChannelSize) / 100

/-- Whether the multiplication of `get_broadcast_channel_size` overflows `u32`, where a
debug build panics. -/
def getBroadcastChannelSizeOverflows (config : Config) : Bool :=
  decide (2 ^ 32 ≤ config.eventStreamBufferLength.toNat *
    (100 + additionalPercentForBroadcastChannelSize).toNat)

/-- What this development assumes of `broadcast::channel(capacity)`, whether it panics:
by its documentation it does for a zero capacity and one above `usize::MAX / 2`, which
no capacity below `2^32` reaches on a 64-bit target. -/
structure BroadcastChannelSpec (channelPanics : Nat → Bool) : Prop where
  panics_iff : ∀ capacity, capacity < 2 ^ 32 → (channelPanics capacity = true ↔ capacity = 0)

/-- The panics of `broadcast::channel` as its documentation states them, on a 64-bit
target. -/
def broadcastChannelPanics (capacity : Nat) : Bool :=
  capacity == 0 || decide (2 ^ 63 - 1 < capacity)

theorem broadcastChannelPanics_spec : BroadcastChannelSpec broadcastChannelPanics :=
  ⟨fun capacity hlt => by simp [broadcastChannelPanics]; omega⟩

theorem toNat_getBroadcastChannelSize (config : Config) :
    (getBroadcastChannelSize config).toNat =
      config.eventStreamBufferLength.toNat * 120 % 2 ^ 32 / 100 := by
  simp [getBroadcastChannelSize, additionalPercentForBroadcastChannelSize, UInt32.toNat_div,
    UInt32.toNat_mul]

theorem getBroadcastChannelSizeOverflows_eq (config : Config) :
    getBroadcastChannelSizeOverflows config =
      decide (2 ^ 32 ≤ config.eventStreamBufferLength.toNat * 120) := by
  rfl

/-- The run loop's first push panics exactly on a zero-length buffer. -/
theorem push_buildBuffer_isSome (wb : EventBufferImpl) (config : Config)
    (item : ProtocolVersion × ServerSentEvent) :
    (wb.push (buildBuffer wb config) item).isSome = decide (0 < config.eventStreamBufferLength.toNat) := by
  have hnone : wb.push (buildBuffer wb config) item = none ↔
      config.eventStreamBufferLength.toNat = 0 := by
    rw [wb.push_eq_none_iff, buildBuffer, wb.capacity_new]
  rw [Bool.eq_iff_iff, Option.isSome_iff_ne_none, ne_eq, hnone, decide_eq_true_eq]
  omega

/-- **Startup is sound exactly for buffer lengths from `1` to `35791394`.**  For any
configured `event_stream_buffer_length` `L`: the multiplication of
`get_broadcast_channel_size` does not overflow, `broadcast::channel` gets a nonzero
capacity, that capacity is at least `L`, and the run loop's first push into the
buffer `build_buffer` made does not panic, if and only if `0 < L ≤ 35791394`. -/
theorem startup_sound_iff (wb : EventBufferImpl) {channelPanics : Nat → Bool}
    (hchannel : BroadcastChannelSpec channelPanics) (config : Config)
    (item : ProtocolVersion × ServerSentEvent) :
    (getBroadcastChannelSizeOverflows config = false ∧
      channelPanics (getBroadcastChannelSize config).toNat = false ∧
      config.eventStreamBufferLength ≤ getBroadcastChannelSize config ∧
      (wb.push (buildBuffer wb config) item).isSome) ↔
    0 < config.eventStreamBufferLength.toNat ∧ config.eventStreamBufferLength.toNat ≤ 35791394 := by
  have hlt := config.eventStreamBufferLength.toNat_lt
  -- the channel gets a capacity of `u32`, where it panics only at zero
  have hpanics : channelPanics (getBroadcastChannelSize config).toNat = false ↔
      (getBroadcastChannelSize config).toNat ≠ 0 := by
    rw [← Bool.not_eq_true, hchannel.panics_iff _ (getBroadcastChannelSize config).toNat_lt]
  rw [getBroadcastChannelSizeOverflows_eq, push_buildBuffer_isSome, hpanics,
    UInt32.le_iff_toNat_le, toNat_getBroadcastChannelSize]
  simp only [decide_eq_false_iff_not, not_le, ne_eq, decide_eq_true_eq]
  by_cases hfits : config.eventStreamBufferLength.toNat * 120 < 2 ^ 32
  · -- no overflow: the capacity is the exact `L * 120 / 100`
    rw [Nat.mod_eq_of_lt hfits]
    omega
  · omega

/-- At the default length of `5000`, with the list model of the buffer and the panics
the channel's documentation states: startup is sound. -/
theorem startup_sound_at_default_length :
    (getBroadcastChannelSizeOverflows ⟨5000, 100⟩ = false ∧
      broadcastChannelPanics (getBroadcastChannelSize ⟨5000, 100⟩).toNat = false ∧
      (5000 : UInt32) ≤ getBroadcastChannelSize ⟨5000, 100⟩ ∧
      (wheelBufModel.push (buildBuffer wheelBufModel ⟨5000, 100⟩)
        (.fromParts 1 0 0, ⟨some 0, .shutdown, none, none⟩)).isSome) ↔
      0 < (5000 : UInt32).toNat ∧ (5000 : UInt32).toNat ≤ 35791394 :=
  startup_sound_iff wheelBufModel broadcastChannelPanics_spec ⟨5000, 100⟩ _

/-! ## Restarting the server -/

/-- **A restarted server continues the ids.**  When a server that handed out ids is
dropped, its indexer writes the cache file; the server `EventStreamServer::new` builds
from that file hands out next the id after the last one handed out (modulo `2^32`). -/
theorem restart_continues_ids {config config' : Config} {s : Server wb} (hs : s.Reachable config)
    {last : EventIndex} (hlast : (eventIndices s.sent).getLast? = some last) :
    (Server.init wb config' (EventIndexer.new (some s.eventIndexer.drop)).index).eventIndexer.index =
      last + 1 := by
  rw [EventIndexer.new_drop]
  obtain ⟨start, hids, hnext⟩ := hs.indexed.consecutive
  show s.eventIndexer.index = last + 1
  -- the run of ids is not empty: it ends at `last`
  cases hlength : (eventIndices s.sent).length with
  | zero => simp [List.length_eq_zero_iff.mp hlength] at hlast
  | succ n =>
      rw [hids, hlength, idsFrom_succ, List.getLast?_append_of_ne_nil _ (by simp),
        List.getLast?_singleton, Option.some.injEq] at hlast
      rw [hnext, hlength, ← hlast, UInt32.add_assoc]
      simp only [UInt32.ofNat_add]
      rfl

/-- A server started at `u32::MAX - 1` hands out `u32::MAX - 1` and `u32::MAX`; the
server built from its cache file goes on from `0`. -/
theorem restart_continues_ids_across_wrap :
    ∃ s : Server wheelBufModel, s.Reachable ⟨2, 10⟩ ∧
      (eventIndices s.sent).getLast? = some 4294967295 ∧
      (Server.init wheelBufModel ⟨2, 10⟩
        (EventIndexer.new (some s.eventIndexer.drop)).index).eventIndexer.index = 0 := by
  obtain ⟨s, hs, hlast⟩ := @Server.exists_reachable_of_exec wheelBufModel ⟨2, 10⟩ 4294967294
    [.broadcast (.fault ⟨0⟩ ⟨0, []⟩ ⟨0⟩) none none,
      .broadcast (.fault ⟨1⟩ ⟨0, []⟩ ⟨0⟩) none none]
    (fun s => (eventIndices s.sent).getLast? == some 4294967295) (by decide)
  have hlast' : (eventIndices s.sent).getLast? = some 4294967295 := by simpa using hlast
  exact ⟨s, hs, hlast', (restart_continues_ids hs hlast').trans rfl⟩

end CasperSidecar
