import Mathlib

/-!
# Types.SseData

The data the sidecar receives from nodes and re-serves to its clients
(`types/src/sse_data.rs`, `types/src/filter.rs`,
`sidecar/src/event_stream_server/endpoint.rs`): the `SseData` variants with
their payloads, the event-type filters of the outbound endpoints, the
inbound filters the node connections use, and the outbound endpoints.

Payload records keep the fields the modelled code reads: the hashes and keys
the database writers store, the protocol versions the event stream server
tracks.  Fields that no modelled function reads (a block's parent hash,
body and proofs, a deploy's header, payment, session and approvals) are left
out; `casper_types` values that the sidecar only carries through
(`PublicKey`, `Signature`, `ExecutionResult`) are kept as the bytes or the
JSON text they carry.
-/

namespace CasperSidecar

/-! ## Versions and hashes -/

/-- `casper_types::ProtocolVersion`, a semantic version. -/
structure ProtocolVersion where
  major : UInt32
  minor : UInt32
  patch : UInt32
deriving DecidableEq, Repr

/-- `ProtocolVersion::from_parts`. -/
def ProtocolVersion.fromParts (major minor patch : UInt32) : ProtocolVersion :=
  ⟨major, minor, patch⟩

/-- The derived order of `ProtocolVersion` (a `SemVer`): lexicographic on major, minor
and patch. -/
def ProtocolVersion.lt (a b : ProtocolVersion) : Bool :=
  a.major < b.major || a.major == b.major && (a.minor < b.minor || a.minor == b.minor && a.patch < b.patch)

/-- The version as one number, ordered as the derived order. -/
def ProtocolVersion.rank (v : ProtocolVersion) : Nat :=
  (v.major.toNat * 2 ^ 32 + v.minor.toNat) * 2 ^ 32 + v.patch.toNat

theorem ProtocolVersion.lt_iff_rank_lt (a b : ProtocolVersion) : a.lt b ↔ a.rank < b.rank := by
  obtain ⟨a₁, a₂, a₃⟩ := a
  obtain ⟨b₁, b₂, b₃⟩ := b
  have ha₂ := a₂.toNat_lt
  have ha₃ := a₃.toNat_lt
  have hb₂ := b₂.toNat_lt
  have hb₃ := b₃.toNat_lt
  simp only [ProtocolVersion.lt, ProtocolVersion.rank, Bool.or_eq_true, Bool.and_eq_true,
    decide_eq_true_eq, beq_iff_eq, UInt32.lt_iff_toNat_lt, ← UInt32.toNat_inj]
  constructor
  · rintro (h | ⟨h₁, h | ⟨h₂, h₃⟩⟩)
    · have : (a₁.toNat + 1) * 2 ^ 32 ≤ b₁.toNat * 2 ^ 32 := Nat.mul_le_mul_right _ h
      nlinarith
    · rw [h₁]
      nlinarith
    · rw [h₁, h₂]
      omega
  · intro h
    rcases Nat.lt_trichotomy a₁.toNat b₁.toNat with h₁ | h₁ | h₁
    · exact .inl h₁
    · rcases Nat.lt_trichotomy a₂.toNat b₂.toNat with h₂ | h₂ | h₂
      · exact .inr ⟨h₁, .inl h₂⟩
      · rw [h₁, h₂] at h
        exact .inr ⟨h₁, .inr ⟨h₂, by omega⟩⟩
      · rw [h₁] at h
        nlinarith
    · have : (b₁.toNat + 1) * 2 ^ 32 ≤ a₁.toNat * 2 ^ 32 := Nat.mul_le_mul_right _ h₁
      nlinarith

theorem ProtocolVersion.lt_trans {a b c : ProtocolVersion} (hab : a.lt b) (hbc : b.lt c) :
    a.lt c := by
  rw [ProtocolVersion.lt_iff_rank_lt] at hab hbc ⊢
  omega

theorem ProtocolVersion.lt_irrefl (a : ProtocolVersion) : ¬a.lt a := by
  rw [ProtocolVersion.lt_iff_rank_lt]
  omega

/-- Distinct versions have distinct ranks. -/
theorem ProtocolVersion.eq_of_rank_eq {a b : ProtocolVersion} (h : a.rank = b.rank) : a = b := by
  obtain ⟨a₁, a₂, a₃⟩ := a
  obtain ⟨b₁, b₂, b₃⟩ := b
  have ha₂ := a₂.toNat_lt
  have ha₃ := a₃.toNat_lt
  have hb₂ := b₂.toNat_lt
  have hb₃ := b₃.toNat_lt
  simp only [ProtocolVersion.rank] at h
  simp only [ProtocolVersion.mk.injEq, ← UInt32.toNat_inj]
  omega

/-- The order is total: of two versions that are not in order, the second is the
first or below it. -/
theorem ProtocolVersion.eq_or_lt_of_not_lt {a b : ProtocolVersion} (h : a.lt b = false) :
    a = b ∨ b.lt a = true := by
  have hle : b.rank ≤ a.rank := by
    have hnot : ¬a.rank < b.rank := fun hlt => by
      rw [← ProtocolVersion.lt_iff_rank_lt] at hlt
      rw [hlt] at h
      cases h
    omega
  rcases Nat.eq_or_lt_of_le hle with heq | hlt
  · exact .inl (ProtocolVersion.eq_of_rank_eq heq.symm)
  · exact .inr ((ProtocolVersion.lt_iff_rank_lt b a).mpr hlt)

/-- The output of the hash function (`types/src/digest.rs`): 32 bytes. -/
structure Digest where
  bytes : Vector UInt8 32
deriving DecidableEq

/-- A block hash, a newtype over `Digest`. -/
structure BlockHash where
  inner : Digest
deriving DecidableEq

/-- A deploy hash, a newtype over `Digest`. -/
structure DeployHash where
  inner : Digest
deriving DecidableEq

/-- `casper_types::PublicKey`: the algorithm tag and the key bytes. -/
structure PublicKey where
  tag : UInt8
  bytes : List UInt8
deriving DecidableEq

/-- `casper_types::Signature`: the algorithm tag and the signature bytes. -/
structure Signature where
  tag : UInt8
  bytes : List UInt8
deriving DecidableEq

/-- `casper_types::EraId`. -/
structure EraId where
  value : UInt64
deriving DecidableEq

/-- `casper_types::Timestamp`, milliseconds since the epoch. -/
structure Timestamp where
  millis : UInt64
deriving DecidableEq

/-- `casper_types::TimeDiff`, in milliseconds. -/
structure TimeDiff where
  millis : UInt64
deriving DecidableEq

/-- `casper_types::ExecutionResult`, carried as the JSON text it serializes to. -/
structure ExecutionResult where
  json : String
deriving DecidableEq

/-! ## Payload records -/

/-- `JsonBlock`: the block hash and the header's height. -/
structure JsonBlock where
  hash : BlockHash
  height : UInt64
deriving DecidableEq

/-- `Deploy`: its hash. -/
structure Deploy where
  hash : DeployHash
deriving DecidableEq

/-- `FinalitySignature` (`types/src/block.rs`). -/
structure FinalitySignature where
  blockHash : BlockHash
  eraId : EraId
  signature : Signature
  publicKey : PublicKey
deriving DecidableEq

/-- The "data" field of the events sent on the event stream to clients. -/
inductive SseData where
  | apiVersion (version : ProtocolVersion)
  | sidecarVersion (version : ProtocolVersion)
  | blockAdded (blockHash : BlockHash) (block : JsonBlock)
  | deployAccepted (deploy : Deploy)
  | deployProcessed (deployHash : DeployHash) (account : PublicKey) (timestamp : Timestamp)
      (ttl : TimeDiff) (dependencies : List DeployHash) (blockHash : BlockHash)
      (executionResult : ExecutionResult)
  | deployExpired (deployHash : DeployHash)
  | fault (eraId : EraId) (publicKey : PublicKey) (timestamp : Timestamp)
  | finalitySignature (signature : FinalitySignature)
  | step (eraId : EraId) (executionEffect : String)
  | shutdown
deriving DecidableEq

/-- `matches!(data, SseData::ApiVersion(..))`. -/
def SseData.isApiVersion : SseData → Bool
  | .apiVersion _ => true
  | _ => false

/-! ## Filters and endpoints -/

/-- A filter for event types a client has subscribed to receive. -/
inductive EventFilter where
  | apiVersion
  | sidecarVersion
  | blockAdded
  | deployAccepted
  | deployProcessed
  | deployExpired
  | fault
  | finalitySignature
  | step
deriving DecidableEq, Repr

/-- `SseData::should_include`: whether an endpoint's event-type filter lets the
data through.  `Shutdown` always passes. -/
def SseData.shouldInclude (data : SseData) (filter : List EventFilter) : Bool :=
  match data with
  | .shutdown => true
  | .apiVersion _ => filter.contains .apiVersion
  | .sidecarVersion _ => filter.contains .sidecarVersion
  | .blockAdded .. => filter.contains .blockAdded
  | .deployAccepted _ => filter.contains .deployAccepted
  | .deployProcessed .. => filter.contains .deployProcessed
  | .deployExpired _ => filter.contains .deployExpired
  | .fault .. => filter.contains .fault
  | .finalitySignature _ => filter.contains .finalitySignature
  | .step .. => filter.contains .step

/-- The node endpoint an inbound event came from (`casper_event_types::Filter`). -/
inductive Filter where
  | events
  | main
  | deploys
  | sigs
deriving DecidableEq, Repr

/-- The sidecar's outbound endpoints. -/
inductive Endpoint where
  | events
  | main
  | deploys
  | sigs
  | sidecar
deriving DecidableEq, Repr

/-- `Endpoint::is_corresponding_to`. -/
def Endpoint.isCorrespondingTo : Endpoint → Filter → Bool
  | .events, .events => true
  | .main, .main => true
  | .deploys, .deploys => true
  | .sigs, .sigs => true
  | _, _ => false

end CasperSidecar
