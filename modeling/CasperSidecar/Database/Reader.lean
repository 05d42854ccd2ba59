import Mathlib
import CasperSidecar.Database.EventStore

/-!
# Database.Reader

The reading side of the database behind the REST API
(`database/reader_generator.rs`, `rest_server/handlers.rs`).

The writers store each hash and public key as text, `hex::encode` of its bytes
(for a public key `to_hex`, the tag byte then the key bytes): lowercase hex
digits.  The handlers admit a hash of 64 hex digits and a public key of 66 or 68
in either case (`check_hash_is_correct_format`,
`check_public_key_is_correct_format`), and the readers compare the text they
are given with the stored column by `=`, byte by byte.  Text is kept as its
characters.  A spelling with a capital hex letter denotes the same bytes as
the stored one, is admitted, and is found by no reader
(`uppercase_spelling_not_found`).

`get_deploy_aggregate_by_hash` combines three readers.  Its guard
`matches!(DatabaseReadError::NotFound, _err)` matches the constant `NotFound`
against the binding pattern `_err`, which matches anything, so the errors of
the second and third readers are never returned
(`aggregate_swallows_read_errors`); it is modelled over any three readers, that
is over every database state and every failure of the connection or of the
stored JSON.

The readers return the matching rows of `Database.EventStore`; the raw JSON
they deserialize is not modelled.
-/

namespace CasperSidecar

/-! ## Hex text -/

/-- The hex digit `n < 16` as `hex::encode` writes it: `0`-`9`, then `a`-`f`. -/
def hexDigitLower (n : Nat) : Char :=
  Char.ofNat (if n < 10 then 48 + n else 87 + n)

/-- `hex::encode`: two lowercase hex digits per byte, the high nibble first. -/
def hexEncode (bytes : List UInt8) : List Char :=
  bytes.flatMap fun b => [hexDigitLower (b.toNat / 16), hexDigitLower (b.toNat % 16)]

/-- `PublicKey::to_hex` of `casper_types`: the tag byte, then the key bytes. -/
def PublicKey.toHex (publicKey : PublicKey) : List Char :=
  hexEncode (publicKey.tag :: publicKey.bytes)

/-- The character class `[0-9A-Fa-f]`. -/
def isHexDigit (c : Char) : Bool :=
  ('0' ≤ c && c ≤ '9') || ('A' ≤ c && c ≤ 'F') || ('a' ≤ c && c ≤ 'f')

/-- `check_hash_is_correct_format`: the regex `^([0-9A-Fa-f]){64}$`. -/
def checkHashIsCorrectFormat (hash : List Char) : Bool :=
  hash.length == 64 && hash.all isHexDigit

/-- `check_public_key_is_correct_format`: the regex `^([0-9A-Fa-f]{2}){33,34}$`. -/
def checkPublicKeyIsCorrectFormat (publicKeyHex : List Char) : Bool :=
  (publicKeyHex.length == 66 || publicKeyHex.length == 68) && publicKeyHex.all isHexDigit

/-! ### What a spelling denotes

The bytes a text spells, read in either case, as `check_hash_is_correct_format` accepts
it and as hex is read in general.  This is the specification the readers are measured
against, not a function of the sidecar: two texts spell one key when they denote the
same bytes. -/

/-- The value of a hex digit of either case. -/
def hexValue (c : Char) : Option Nat :=
  if '0' ≤ c ∧ c ≤ '9' then some (c.toNat - 48)
  else if 'a' ≤ c ∧ c ≤ 'f' then some (c.toNat - 87)
  else if 'A' ≤ c ∧ c ≤ 'F' then some (c.toNat - 55)
  else none

/-- The bytes a hex text denotes, two digits a byte, in either case. -/
def hexDecode : List Char → Option (List UInt8)
  | [] => some []
  | [_] => none
  | hi :: lo :: rest => do
      let high ← hexValue hi
      let low ← hexValue lo
      let bytes ← hexDecode rest
      pure ((16 * high + low).toUInt8 :: bytes)

/-- The hex digit `n < 16` in capitals. -/
def hexDigitUpper (n : Nat) : Char :=
  Char.ofNat (if n < 10 then 48 + n else 55 + n)

/-- The spelling of `bytes` in capital hex digits. -/
def hexEncodeUpper (bytes : List UInt8) : List Char :=
  bytes.flatMap fun b => [hexDigitUpper (b.toNat / 16), hexDigitUpper (b.toNat % 16)]

/-- A capital hex letter, `A`-`F`. -/
def isUpperHexLetter (c : Char) : Bool :=
  'A' ≤ c && c ≤ 'F'

theorem hexValue_hexDigitLower : ∀ n < 16, hexValue (hexDigitLower n) = some n := by
  decide

theorem hexValue_hexDigitUpper : ∀ n < 16, hexValue (hexDigitUpper n) = some n := by
  decide

theorem isHexDigit_hexDigitUpper : ∀ n < 16, isHexDigit (hexDigitUpper n) = true := by
  decide

theorem isUpperHexLetter_hexDigitLower : ∀ n < 16, isUpperHexLetter (hexDigitLower n) = false := by
  decide

theorem isUpperHexLetter_hexDigitUpper : ∀ n < 16, 10 ≤ n → isUpperHexLetter (hexDigitUpper n) = true := by
  decide

/-- A byte from its two nibbles. -/
theorem toUInt8_nibbles (b : UInt8) : (16 * (b.toNat / 16) + b.toNat % 16).toUInt8 = b := by
  rw [Nat.div_add_mod]
  exact UInt8.ofNat_toNat

/-- The two nibbles of a byte are hex digits. -/
theorem nibbles_lt (b : UInt8) : b.toNat / 16 < 16 ∧ b.toNat % 16 < 16 := by
  have hb := b.toNat_lt
  omega

/-! ### Spellings two digits a byte

`hex::encode` and the capital spelling differ only in the digit each nibble is written
with; what they share is proved once, for any digit function. -/

section Nibbles

variable (digit : Nat → Char)

theorem length_flatMap_nibbles (bytes : List UInt8) :
    (bytes.flatMap fun b => [digit (b.toNat / 16), digit (b.toNat % 16)]).length =
      2 * bytes.length := by
  induction bytes with
  | nil => rfl
  | cons b rest ih =>
      simp only [List.flatMap_cons, List.length_append, ih, List.length_cons, List.length_nil]
      omega

/-- Every character of the spelling is the digit of a nibble. -/
theorem exists_nibble_of_mem_flatMap {bytes : List UInt8} {c : Char}
    (hc : c ∈ bytes.flatMap fun b => [digit (b.toNat / 16), digit (b.toNat % 16)]) :
    ∃ n < 16, digit n = c := by
  simp only [List.mem_flatMap, List.mem_cons, List.not_mem_nil, or_false] at hc
  obtain ⟨b, -, rfl | rfl⟩ := hc
  · exact ⟨_, (nibbles_lt b).1, rfl⟩
  · exact ⟨_, (nibbles_lt b).2, rfl⟩

/-- A spelling whose digits `hexValue` reads back denotes the bytes spelled. -/
theorem hexDecode_flatMap_nibbles (hvalue : ∀ n < 16, hexValue (digit n) = some n)
    (bytes : List UInt8) :
    hexDecode (bytes.flatMap fun b => [digit (b.toNat / 16), digit (b.toNat % 16)]) =
      some bytes := by
  induction bytes with
  | nil => rfl
  | cons b rest ih =>
      obtain ⟨hhigh, hlow⟩ := nibbles_lt b
      rw [List.flatMap_cons, List.cons_append, List.cons_append, List.nil_append, hexDecode,
        hvalue _ hhigh, hvalue _ hlow, ih]
      simp only [Option.pure_def, Option.bind_eq_bind, Option.bind_some, toUInt8_nibbles]

/-- A hash spelled in hex digits passes the handlers' check. -/
theorem checkHashIsCorrectFormat_flatMap_nibbles (hdigit : ∀ n < 16, isHexDigit (digit n) = true)
    (digest : Digest) :
    checkHashIsCorrectFormat
      (digest.bytes.toList.flatMap fun b => [digit (b.toNat / 16), digit (b.toNat % 16)]) = true := by
  simp only [checkHashIsCorrectFormat, length_flatMap_nibbles, Vector.length_toList,
    Bool.and_eq_true, beq_iff_eq, List.all_eq_true]
  refine ⟨trivial, fun c hc => ?_⟩
  obtain ⟨n, hn, rfl⟩ := exists_nibble_of_mem_flatMap digit hc
  exact hdigit n hn

end Nibbles

theorem isHexDigit_hexDigitLower : ∀ n < 16, isHexDigit (hexDigitLower n) = true := by
  decide

/-- Two spellings of one key: both the writer's and the capital one denote its bytes. -/
theorem hexDecode_hexEncode (bytes : List UInt8) : hexDecode (hexEncode bytes) = some bytes :=
  hexDecode_flatMap_nibbles hexDigitLower hexValue_hexDigitLower bytes

theorem hexDecode_hexEncodeUpper (bytes : List UInt8) :
    hexDecode (hexEncodeUpper bytes) = some bytes :=
  hexDecode_flatMap_nibbles hexDigitUpper hexValue_hexDigitUpper bytes

/-- The writers' text never holds a capital letter. -/
theorem not_isUpperHexLetter_of_mem_hexEncode {bytes : List UInt8} {c : Char}
    (hc : c ∈ hexEncode bytes) : isUpperHexLetter c = false := by
  obtain ⟨n, hn, rfl⟩ := exists_nibble_of_mem_flatMap hexDigitLower hc
  exact isUpperHexLetter_hexDigitLower n hn

/-- The capital spelling of a hash passes the handlers' check. -/
theorem checkHashIsCorrectFormat_hexEncodeUpper (digest : Digest) :
    checkHashIsCorrectFormat (hexEncodeUpper digest.bytes.toList) = true :=
  checkHashIsCorrectFormat_flatMap_nibbles hexDigitUpper isHexDigit_hexDigitUpper digest

/-- The writer's spelling of a hash passes the handlers' check. -/
theorem checkHashIsCorrectFormat_hexEncode (digest : Digest) :
    checkHashIsCorrectFormat (hexEncode digest.bytes.toList) = true :=
  checkHashIsCorrectFormat_flatMap_nibbles hexDigitLower isHexDigit_hexDigitLower digest

/-- A byte with a nibble of `a` to `f` gives the capital spelling a capital letter. -/
theorem exists_isUpperHexLetter_hexEncodeUpper {bytes : List UInt8}
    (hletter : ∃ b ∈ bytes, 10 ≤ b.toNat / 16 ∨ 10 ≤ b.toNat % 16) :
    (hexEncodeUpper bytes).any isUpperHexLetter = true := by
  obtain ⟨b, hb, hhigh | hlow⟩ := hletter
  · exact List.any_eq_true.mpr ⟨hexDigitUpper (b.toNat / 16),
      List.mem_flatMap.mpr ⟨b, hb, List.mem_cons_self⟩,
      isUpperHexLetter_hexDigitUpper _ (nibbles_lt b).1 hhigh⟩
  · exact List.any_eq_true.mpr ⟨hexDigitUpper (b.toNat % 16),
      List.mem_flatMap.mpr ⟨b, hb, List.mem_cons_of_mem _ List.mem_cons_self⟩,
      isUpperHexLetter_hexDigitUpper _ (nibbles_lt b).2 hlow⟩

/-! ## The readers -/

/-- The `block_hash` column of `BlockAdded`, as the bytes the writer hex-encodes into it. -/
def IndexKey.blockAddedBlockHash : IndexKey → Option (List UInt8)
  | .blockAdded blockHash _ => some blockHash.inner.bytes.toList
  | _ => none

/-- The `deploy_hash` column of `DeployAccepted`. -/
def IndexKey.deployAcceptedDeployHash : IndexKey → Option (List UInt8)
  | .deployAccepted deployHash => some deployHash.inner.bytes.toList
  | _ => none

/-- The `deploy_hash` column of `DeployProcessed`. -/
def IndexKey.deployProcessedDeployHash : IndexKey → Option (List UInt8)
  | .deployProcessed deployHash => some deployHash.inner.bytes.toList
  | _ => none

/-- The `deploy_hash` column of `DeployExpired`. -/
def IndexKey.deployExpiredDeployHash : IndexKey → Option (List UInt8)
  | .deployExpired deployHash => some deployHash.inner.bytes.toList
  | _ => none

/-- The `block_hash` column of `FinalitySignature`. -/
def IndexKey.finalitySignatureBlockHash : IndexKey → Option (List UInt8)
  | .finalitySignature blockHash _ => some blockHash.inner.bytes.toList
  | _ => none

/-- The `public_key` column of `Fault`, which holds `to_hex` of the key. -/
def IndexKey.faultPublicKey : IndexKey → Option (List UInt8)
  | .fault _ publicKey => some (publicKey.tag :: publicKey.bytes)
  | _ => none

/-- `SELECT … WHERE column = value` on a column where the writers store `hex::encode` of
the bytes `column` reads off a row's keys, compared byte by byte. -/
def selectWhereHex (store : EventStore) (column : IndexKey → Option (List UInt8))
    (value : List Char) : List Row :=
  store.tables.rows.filter fun row => row.keys.any fun key => (column key).map hexEncode == some value

/-- `fetch_optional`, then `None => Err(NotFound)`. -/
def fetchOne (rows : List Row) : Except DatabaseReadError Row :=
  match rows with
  | [] => .error .notFound
  | row :: _ => .ok row

/-- `fetch_all`, then `parse_*_from_rows`, which answers `NotFound` when no row matched. -/
def fetchAll (rows : List Row) : Except DatabaseReadError (List Row) :=
  if rows.isEmpty then .error .notFound else .ok rows

/-- `get_block_by_hash`. -/
def getBlockByHash (store : EventStore) (hash : List Char) : Except DatabaseReadError Row :=
  fetchOne (selectWhereHex store IndexKey.blockAddedBlockHash hash)

/-- `get_deploy_accepted_by_hash`. -/
def getDeployAcceptedByHash (store : EventStore) (hash : List Char) : Except DatabaseReadError Row :=
  fetchOne (selectWhereHex store IndexKey.deployAcceptedDeployHash hash)

/-- `get_deploy_processed_by_hash`. -/
def getDeployProcessedByHash (store : EventStore) (hash : List Char) : Except DatabaseReadError Row :=
  fetchOne (selectWhereHex store IndexKey.deployProcessedDeployHash hash)

/-- `get_deploy_expired_by_hash`. -/
def getDeployExpiredByHash (store : EventStore) (hash : List Char) : Except DatabaseReadError Row :=
  fetchOne (selectWhereHex store IndexKey.deployExpiredDeployHash hash)

/-- `get_finality_signatures_by_block`. -/
def getFinalitySignaturesByBlock (store : EventStore) (blockHash : List Char) :
    Except DatabaseReadError (List Row) :=
  fetchAll (selectWhereHex store IndexKey.finalitySignatureBlockHash blockHash)

/-- `get_faults_by_public_key`. -/
def getFaultsByPublicKey (store : EventStore) (publicKey : List Char) :
    Except DatabaseReadError (List Row) :=
  fetchAll (selectWhereHex store IndexKey.faultPublicKey publicKey)

/-- No stored text holds a capital letter, so a key spelled with one matches no row. -/
theorem selectWhereHex_eq_nil (store : EventStore) (column : IndexKey → Option (List UInt8))
    {value : List Char} (hupper : value.any isUpperHexLetter = true) :
    selectWhereHex store column value = [] := by
  rw [selectWhereHex, List.filter_eq_nil_iff]
  intro row _ hmatch
  obtain ⟨key, -, hkey⟩ := List.any_eq_true.mp hmatch
  obtain ⟨c, hc, hcupper⟩ := List.any_eq_true.mp hupper
  cases hcolumn : column key with
  | none => simp [hcolumn] at hkey
  | some bytes =>
      -- the row's text is `hex::encode` of its bytes: lowercase only
      have htext : hexEncode bytes = value := by simpa [hcolumn] using hkey
      rw [← htext] at hc
      rw [not_isUpperHexLetter_of_mem_hexEncode hc] at hcupper
      cases hcupper

/-- The row a writer stored is matched by the writer's own spelling of its key. -/
theorem mem_selectWhereHex {store : EventStore} {column : IndexKey → Option (List UInt8)}
    {row : Row} (hrow : row ∈ store.tables.rows) {key : IndexKey} (hkey : key ∈ row.keys)
    {bytes : List UInt8} (hcolumn : column key = some bytes) :
    row ∈ selectWhereHex store column (hexEncode bytes) := by
  rw [selectWhereHex, List.mem_filter]
  exact ⟨hrow, List.any_eq_true.mpr ⟨key, hkey, by simp [hcolumn]⟩⟩

theorem fetchOne_isOk_of_mem {rows : List Row} {row : Row} (hrow : row ∈ rows) :
    (fetchOne rows).isOk = true := by
  cases rows with
  | nil => cases hrow
  | cons first rest => rfl

/-- **Every reader misses a key spelled with a capital letter**, in every state of the
store. -/
theorem readers_miss_capital_spelling (store : EventStore) {key : List Char}
    (hupper : key.any isUpperHexLetter = true) :
    getBlockByHash store key = .error .notFound ∧
      getDeployAcceptedByHash store key = .error .notFound ∧
      getDeployProcessedByHash store key = .error .notFound ∧
      getDeployExpiredByHash store key = .error .notFound ∧
      getFinalitySignaturesByBlock store key = .error .notFound ∧
      getFaultsByPublicKey store key = .error .notFound := by
  simp only [getBlockByHash, getDeployAcceptedByHash, getDeployProcessedByHash,
    getDeployExpiredByHash, getFinalitySignaturesByBlock, getFaultsByPublicKey,
    selectWhereHex_eq_nil store _ hupper]
  exact ⟨rfl, rfl, rfl, rfl, rfl, rfl⟩

/-! ## The deploy aggregate -/

/-- `DeployAggregate`. -/
structure DeployAggregate (α β : Type) where
  deployHash : List Char
  deployAccepted : Option α
  deployProcessed : Option β
  deployExpired : Bool
deriving DecidableEq

/-- The three readers `get_deploy_aggregate_by_hash` calls on `self`. -/
structure DeployReaders (α β γ : Type) where
  getDeployAcceptedByHash : List Char → Except DatabaseReadError α
  getDeployProcessedByHash : List Char → Except DatabaseReadError β
  getDeployExpiredByHash : List Char → Except DatabaseReadError γ

/-- `matches!(value, _err)`: the pattern `_err` binds whatever it is matched against,
so the macro is `true` for every value. -/
def matchesBindingPattern (value : DatabaseReadError) : Bool :=
  match value with
  | _err => true

/-- `get_deploy_aggregate_by_hash`: the accepted record or its error; then the processed
record, or, when there is none, whether an expired record was found.  Each guard
meant to pass a non-`NotFound` error on is `!matches!(DatabaseReadError::NotFound, _err)`. -/
def getDeployAggregateByHash {α β γ : Type} (readers : DeployReaders α β γ) (hash : List Char) :
    Except DatabaseReadError (DeployAggregate α β) := do
  let deployAccepted ← readers.getDeployAcceptedByHash hash
  match readers.getDeployProcessedByHash hash with
  | .ok deployProcessed => pure ⟨hash, some deployAccepted, some deployProcessed, false⟩
  | .error err =>
      if !matchesBindingPattern .notFound then throw err
      match readers.getDeployExpiredByHash hash with
      | .ok _ => pure ⟨hash, some deployAccepted, none, true⟩
      | .error err =>
          if !matchesBindingPattern .notFound then throw err
          pure ⟨hash, some deployAccepted, none, false⟩

/-- The aggregate in closed form: only the first reader's error is ever returned. -/
theorem getDeployAggregateByHash_eq {α β γ : Type} (readers : DeployReaders α β γ)
    (hash : List Char) :
    getDeployAggregateByHash readers hash =
      (readers.getDeployAcceptedByHash hash).map fun deployAccepted =>
        ⟨hash, some deployAccepted, (readers.getDeployProcessedByHash hash).toOption,
          (readers.getDeployProcessedByHash hash).toOption.isNone &&
            (readers.getDeployExpiredByHash hash).isOk⟩ := by
  unfold getDeployAggregateByHash
  cases readers.getDeployAcceptedByHash hash with
  | error err => rfl
  | ok deployAccepted =>
      cases readers.getDeployProcessedByHash hash with
      | ok deployProcessed => rfl
      | error err =>
          cases readers.getDeployExpiredByHash hash <;> rfl

/-- **The aggregate swallows the errors of the processed and expired readers.**  For
any readers (any database state, any failure of the connection or of the stored JSON)
and a hash whose accepted record is read, `get_deploy_aggregate_by_hash` answers `Ok`
whatever error reading the processed record gave, `NotFound` or not: the deploy is
reported as not processed, and as expired exactly when the expired record was read. -/
theorem aggregate_swallows_read_errors {α β γ : Type} (readers : DeployReaders α β γ)
    (hash : List Char) {deployAccepted : α} {err : DatabaseReadError}
    (haccepted : readers.getDeployAcceptedByHash hash = .ok deployAccepted)
    (hprocessed : readers.getDeployProcessedByHash hash = .error err) :
    getDeployAggregateByHash readers hash =
      .ok ⟨hash, some deployAccepted, none, (readers.getDeployExpiredByHash hash).isOk⟩ := by
  rw [getDeployAggregateByHash_eq, haccepted, hprocessed]
  rfl

/-- Corrupt JSON in the processed record and a lost connection on the expired one:
the aggregate reports a deploy that is neither processed nor expired. -/
theorem aggregate_swallows_read_errors_corrupt_record :
    getDeployAggregateByHash (⟨fun _ => .ok (), fun _ => .error .serialisation,
        fun _ => .error .unhandled⟩ : DeployReaders Unit Unit Unit) [] =
      .ok ⟨[], some (), none, false⟩ :=
  aggregate_swallows_read_errors _ [] rfl rfl

/-! ## The handlers -/

/-- Why a REST request is rejected: its parameter failed the format check
(`InvalidParam`), or the reader failed (`StorageError`). -/
inductive Rejection where
  | invalidParam
  | storageError (err : DatabaseReadError)
deriving DecidableEq, Repr

/-- A handler addressed by a hex key: the format check, the reader, then
`format_or_reject_storage_result`. -/
def checkedRead {α : Type} (check : List Char → Bool) (read : List Char → Except DatabaseReadError α)
    (key : List Char) : Except Rejection α :=
  if !check key then .error .invalidParam
  else
    match read key with
    | .ok data => .ok data
    | .error err => .error (.storageError err)

/-- The readers of the deploy aggregate, on the store. -/
def EventStore.deployReaders (store : EventStore) : DeployReaders Row Row Row :=
  ⟨getDeployAcceptedByHash store, getDeployProcessedByHash store, getDeployExpiredByHash store⟩

/-- The handler `get_block_by_hash`. -/
def Handlers.getBlockByHash (store : EventStore) (hash : List Char) : Except Rejection Row :=
  checkedRead checkHashIsCorrectFormat (CasperSidecar.getBlockByHash store) hash

/-- The handler `get_deploy_by_hash`. -/
def Handlers.getDeployByHash (store : EventStore) (hash : List Char) :
    Except Rejection (DeployAggregate Row Row) :=
  checkedRead checkHashIsCorrectFormat (getDeployAggregateByHash store.deployReaders) hash

/-- The handler `get_faults_by_public_key`. -/
def Handlers.getFaultsByPublicKey (store : EventStore) (publicKey : List Char) :
    Except Rejection (List Row) :=
  checkedRead checkPublicKeyIsCorrectFormat (CasperSidecar.getFaultsByPublicKey store) publicKey

/-- The handler `get_finality_signatures_by_block`. -/
def Handlers.getFinalitySignaturesByBlock (store : EventStore) (blockHash : List Char) :
    Except Rejection (List Row) :=
  checkedRead checkHashIsCorrectFormat (CasperSidecar.getFinalitySignaturesByBlock store)
    blockHash

theorem isOk_mapError {ε ε' α : Type} (x : Except ε α) (f : ε → ε') :
    (x.mapError f).isOk = x.isOk := by
  cases x <;> rfl

/-- A key that passes the check goes to the reader, whose error is the rejection. -/
theorem checkedRead_of_check {α : Type} {check : List Char → Bool}
    {read : List Char → Except DatabaseReadError α} {key : List Char} (hcheck : check key = true) :
    checkedRead check read key = (read key).mapError .storageError := by
  unfold checkedRead
  rw [hcheck]
  cases read key <;> rfl

/-- **The REST API does not find a block by the capitals of its hash.**  After
`save_block_added` stored a block whose hash has a hex letter, the spelling of the hash
in capitals passes `check_hash_is_correct_format` and denotes the same bytes as the
writer's lowercase text, which finds the block; the capital spelling is answered with
`NotFound`. -/
theorem uppercase_spelling_not_found {store store' : EventStore} {blockHash : BlockHash}
    {block : JsonBlock} {eventId : UInt32} {eventSourceAddress : String}
    (hsave : store.saveBlockAdded blockHash block eventId eventSourceAddress = .ok store')
    (hletter : ∃ b ∈ blockHash.inner.bytes.toList, 10 ≤ b.toNat / 16 ∨ 10 ≤ b.toNat % 16) :
    checkHashIsCorrectFormat (hexEncodeUpper blockHash.inner.bytes.toList) = true ∧
      hexDecode (hexEncodeUpper blockHash.inner.bytes.toList) =
        hexDecode (hexEncode blockHash.inner.bytes.toList) ∧
      (Handlers.getBlockByHash store' (hexEncode blockHash.inner.bytes.toList)).isOk = true ∧
      Handlers.getBlockByHash store' (hexEncodeUpper blockHash.inner.bytes.toList) =
        .error (.storageError .notFound) := by
  refine ⟨checkHashIsCorrectFormat_hexEncodeUpper _, by
    rw [hexDecode_hexEncodeUpper, hexDecode_hexEncode], ?_, ?_⟩
  · -- the writer's own spelling finds the row it stored
    have hrows := EventStore.rows_of_saveEvent_eq_ok hsave
    have hrow : (⟨.blockAdded, [.blockAddedHeight block.height, .blockAdded blockHash block.height]⟩ :
        Row) ∈ store'.tables.rows := by
      rw [hrows]
      simp
    have hfound := fetchOne_isOk_of_mem (mem_selectWhereHex hrow
      (List.mem_cons_of_mem _ List.mem_cons_self) (rfl : IndexKey.blockAddedBlockHash _ = _))
    rw [Handlers.getBlockByHash, checkedRead_of_check (checkHashIsCorrectFormat_hexEncode _),
      isOk_mapError]
    exact hfound
  · rw [Handlers.getBlockByHash, checkedRead_of_check (checkHashIsCorrectFormat_hexEncodeUpper _),
      (readers_miss_capital_spelling store' (exists_isUpperHexLetter_hexEncodeUpper hletter)).1]
    rfl

/-- A block whose hash is 32 bytes `0xAB`, asked for as `ABAB…AB`. -/
theorem uppercase_spelling_not_found_first_block :
    ∃ store', EventStore.empty.saveBlockAdded ⟨⟨Vector.replicate 32 0xAB⟩⟩
        ⟨⟨⟨Vector.replicate 32 0xAB⟩⟩, 100⟩ 1 "http://10.0.0.1:9999" = .ok store' ∧
      Handlers.getBlockByHash store' (hexEncodeUpper (Vector.replicate 32 (0xAB : UInt8)).toList) =
        .error (.storageError .notFound) := by
  have hok : (EventStore.empty.saveBlockAdded ⟨⟨Vector.replicate 32 0xAB⟩⟩
      ⟨⟨⟨Vector.replicate 32 0xAB⟩⟩, 100⟩ 1 "http://10.0.0.1:9999").isOk = true := by
    decide
  cases hsave : EventStore.empty.saveBlockAdded ⟨⟨Vector.replicate 32 0xAB⟩⟩
      ⟨⟨⟨Vector.replicate 32 0xAB⟩⟩, 100⟩ 1 "http://10.0.0.1:9999" with
  | error err =>
      rw [hsave] at hok
      cases hok
  | ok store' =>
      have hletter : ∃ b ∈ (Vector.replicate 32 (0xAB : UInt8)).toList,
          10 ≤ b.toNat / 16 ∨ 10 ≤ b.toNat % 16 :=
        ⟨0xAB, by simp, .inl (by decide)⟩
      exact ⟨store', rfl, (uppercase_spelling_not_found hsave hletter).2.2.2⟩

end CasperSidecar
