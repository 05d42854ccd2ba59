import Mathlib
import CasperSidecar.Listener.EventListener

/-!
# Listener.SseConnector

The connection loop of a connection manager (`listener/src/sse_connector.rs`):
`SseConnection::connect` calls `internal_connect` while `retry_count <=
max_attempts`, counting from `0`, returns at once on a stream or on a
`NonRecoverableError`, keeps any other error as `last_error`, and after the
loop gives up with `couldnt_connect(last_error, url, max_attempts)`.

What `internal_connect` returns on each call is a free input (`Nat → Except
ConnectionManagerError Unit`, by call number), so every sequence of outcomes
is covered.  The stream itself, the sleeps between calls and the address in the
error's message are left out; the message is kept as the attempt count it
reports.

When `connect` gives up it has made `max_attempts + 1` calls and reports
`max_attempts` (`connect_gives_up_after_one_more_call`).
-/

namespace CasperSidecar

/-- What `SseConnection::connect` returns as its error: an error of `internal_connect`
passed on as it is, or the one `couldnt_connect` builds, of the kind of the last error,
whose message reports `attempts` attempts. -/
inductive ConnectFailure where
  | returned (err : ConnectionManagerError)
  | couldntConnect (kind : ConnectionManagerError) (attempts : Nat)
deriving DecidableEq, Repr

/-- `couldnt_connect`: no last error gives a `NonRecoverableError`; otherwise the last
error's kind, with the message as its context. -/
def couldntConnect (lastError : Option ConnectionManagerError) (attempts : Nat) : ConnectFailure :=
  match lastError with
  | none => .couldntConnect .nonRecoverableError attempts
  | some .initialConnectionError => .couldntConnect .initialConnectionError attempts
  | some .nonRecoverableError => .couldntConnect .nonRecoverableError attempts

/-- The `while` loop of `SseConnection::connect` from `retry_count` with `last_error`:
how many times it calls `internal_connect`, and what `connect` returns. -/
def connectLoop (maxAttempts : Nat) (internalConnect : Nat → Except ConnectionManagerError Unit)
    (retryCount : Nat) (lastError : Option ConnectionManagerError) :
    Nat × Except ConnectFailure Unit :=
  if retryCount ≤ maxAttempts then
    match internalConnect retryCount with
    | .ok () => (1, .ok ())
    | .error .nonRecoverableError => (1, .error (.returned .nonRecoverableError))
    | .error err =>
        let (calls, result) := connectLoop maxAttempts internalConnect (retryCount + 1) (some err)
        (calls + 1, result)
  else (0, .error (couldntConnect lastError maxAttempts))
termination_by maxAttempts + 1 - retryCount

/-- `SseConnection::connect`: the loop from `retry_count = 0` with no error yet. -/
def SseConnection.connect (maxAttempts : Nat)
    (internalConnect : Nat → Except ConnectionManagerError Unit) : Nat × Except ConnectFailure Unit :=
  connectLoop maxAttempts internalConnect 0 none

/-! ## The loop, call by call -/

section Loop

variable {maxAttempts retryCount : Nat} {internalConnect : Nat → Except ConnectionManagerError Unit}

theorem connectLoop_of_ok (h : retryCount ≤ maxAttempts) (hcall : internalConnect retryCount = .ok ())
    (lastError : Option ConnectionManagerError) :
    connectLoop maxAttempts internalConnect retryCount lastError = (1, .ok ()) := by
  rw [connectLoop, if_pos h, hcall]

theorem connectLoop_of_nonRecoverableError (h : retryCount ≤ maxAttempts)
    (hcall : internalConnect retryCount = .error .nonRecoverableError)
    (lastError : Option ConnectionManagerError) :
    connectLoop maxAttempts internalConnect retryCount lastError =
      (1, .error (.returned .nonRecoverableError)) := by
  rw [connectLoop, if_pos h, hcall]

/-- A call that fails with an `InitialConnectionError` is counted and the loop goes on
with it as `last_error`. -/
theorem connectLoop_of_initialConnectionError (h : retryCount ≤ maxAttempts)
    (hcall : internalConnect retryCount = .error .initialConnectionError)
    (lastError : Option ConnectionManagerError) :
    connectLoop maxAttempts internalConnect retryCount lastError =
      ((connectLoop maxAttempts internalConnect (retryCount + 1) (some .initialConnectionError)).1 + 1,
        (connectLoop maxAttempts internalConnect (retryCount + 1) (some .initialConnectionError)).2) := by
  rw [connectLoop, if_pos h, hcall]

theorem connectLoop_of_lt (h : ¬retryCount ≤ maxAttempts) (lastError : Option ConnectionManagerError) :
    connectLoop maxAttempts internalConnect retryCount lastError =
      (0, .error (couldntConnect lastError maxAttempts)) := by
  rw [connectLoop, if_neg h]

end Loop

/-- The only error the loop keeps as `last_error`. -/
theorem eq_initialConnectionError {err : ConnectionManagerError}
    (hnon : err = .nonRecoverableError → False) : err = .initialConnectionError := by
  cases err
  · exact absurd rfl hnon
  · rfl

/-- The attempt count of every error `couldnt_connect` builds is the one it is given. -/
theorem couldntConnect_attempts {lastError : Option ConnectionManagerError} {attempts : Nat}
    {kind : ConnectionManagerError} {reported : Nat}
    (h : couldntConnect lastError attempts = .couldntConnect kind reported) : reported = attempts := by
  cases lastError with
  | none => simp_all [couldntConnect]
  | some err => cases err <;> simp_all [couldntConnect]

/-- Giving up, the loop has called `internal_connect` once for each `retry_count` left
up to `max_attempts`, and its error reports `max_attempts`. -/
theorem connectLoop_eq_couldntConnect {maxAttempts : Nat}
    {internalConnect : Nat → Except ConnectionManagerError Unit} {retryCount : Nat}
    {lastError : Option ConnectionManagerError} {calls : Nat} {kind : ConnectionManagerError}
    {attempts : Nat}
    (h : connectLoop maxAttempts internalConnect retryCount lastError =
      (calls, .error (.couldntConnect kind attempts))) :
    calls = maxAttempts + 1 - retryCount ∧ attempts = maxAttempts := by
  induction retryCount, lastError using connectLoop.induct maxAttempts internalConnect
    generalizing calls with
  | case1 retryCount lastError hle hcall =>
      rw [connectLoop_of_ok hle hcall] at h
      cases h
  | case2 retryCount lastError hle hcall =>
      rw [connectLoop_of_nonRecoverableError hle hcall] at h
      cases h
  | case3 retryCount lastError hle err hnon hcall _ _ _ ih =>
      obtain rfl := eq_initialConnectionError hnon
      rw [connectLoop_of_initialConnectionError hle hcall, Prod.mk.injEq] at h
      obtain ⟨hcount, hresult⟩ := h
      -- the rest of the loop gave up after one call fewer
      obtain ⟨hcalls, hattempts⟩ := ih (Prod.ext rfl hresult)
      have hrest : (connectLoop maxAttempts internalConnect (retryCount + 1)
          (some .initialConnectionError)).1 = maxAttempts + 1 - (retryCount + 1) := hcalls
      exact ⟨by omega, hattempts⟩
  | case4 retryCount lastError hgt =>
      rw [connectLoop_of_lt hgt, Prod.mk.injEq, Except.error.injEq] at h
      obtain ⟨hcount, hresult⟩ := h
      exact ⟨by omega, couldntConnect_attempts hresult⟩

/-- With every call failing recoverably, the loop runs to its end: one call for each
`retry_count` left. -/
theorem connectLoop_of_failing (maxAttempts : Nat) (calls retryCount : Nat)
    (h : retryCount + calls = maxAttempts + 1) :
    connectLoop maxAttempts (fun _ => .error .initialConnectionError) retryCount
        (some .initialConnectionError) =
      (calls, .error (.couldntConnect .initialConnectionError maxAttempts)) := by
  induction calls generalizing retryCount with
  | zero =>
      rw [connectLoop_of_lt (by omega)]
      rfl
  | succ calls ih =>
      rw [connectLoop_of_initialConnectionError (by omega) rfl, ih (retryCount + 1) (by omega)]

/-- A node that refuses every connection: `connect` calls it `max_attempts + 1` times. -/
theorem connect_of_failing (maxAttempts : Nat) :
    SseConnection.connect maxAttempts (fun _ => .error .initialConnectionError) =
      (maxAttempts + 1, .error (.couldntConnect .initialConnectionError maxAttempts)) := by
  rw [SseConnection.connect, connectLoop_of_initialConnectionError (Nat.zero_le _) rfl,
    connectLoop_of_failing maxAttempts maxAttempts 1 (by omega)]

/-- **`connect` makes one call more than `max_attempts` and reports `max_attempts`.**
Whenever `SseConnection::connect` gives up with the error `couldnt_connect` builds,
`internal_connect` was called `max_attempts + 1` times, while the message reports
`max_attempts` attempts. -/
theorem connect_gives_up_after_one_more_call (maxAttempts : Nat)
    (internalConnect : Nat → Except ConnectionManagerError Unit) {calls : Nat}
    {kind : ConnectionManagerError} {attempts : Nat}
    (h : SseConnection.connect maxAttempts internalConnect =
      (calls, .error (.couldntConnect kind attempts))) :
    calls = maxAttempts + 1 ∧ attempts = maxAttempts :=
  connectLoop_eq_couldntConnect h

/-- With `max_attempts = 2` and a node that refuses every connection, `connect` calls
`internal_connect` three times and reports two attempts. -/
theorem connect_gives_up_after_one_more_call_refused :
    ∃ calls attempts, SseConnection.connect 2 (fun _ => .error .initialConnectionError) =
        (calls, .error (.couldntConnect .initialConnectionError attempts)) ∧
      calls = 3 ∧ attempts = 2 :=
  ⟨3, 2, connect_of_failing 2, connect_gives_up_after_one_more_call 2 _ (connect_of_failing 2)⟩

end CasperSidecar
