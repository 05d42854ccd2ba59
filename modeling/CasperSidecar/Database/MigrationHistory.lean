import Mathlib
import CasperSidecar.Database.MigrationManager

/-!
# Database.MigrationHistory

What `MigrationManager::migrate` does to the history of executed migrations,
call after call.  The invariant (`Database.Consistent`): the `Migration`
table holds exactly the executions, their versions strictly increase, and a
failed one is always the last.  One call from a consistent database appends
nothing when the list has a version-less or a repeated version, the version
fetch fails or the newest row is a failure, and otherwise runs the listed
versions above the newest one in ascending order up to the first failure, or
up to the first whose statements cannot be built (`RunsUntilFailure`); the
state it leaves is the old one after the transactions that committed, in
order (`CommittedRuns`).  A call that returned `Ok`, made again with the same
list, changes nothing (`migrate_again_changes_nothing`).
-/

namespace CasperSidecar

variable {σ : Type}

/-! ## Runs that stop at the first failure -/

/-- `executions` runs the versions `pending` in order and stops at the first failure:
its versions are a prefix of `pending`, all but the last succeeded, and it is all of
`pending` unless its last one failed or the next one is of `unbuilt`, whose statements
cannot be built. -/
def RunsUntilFailure (pending unbuilt : List UInt32) (executions : List (UInt32 × Bool)) : Prop :=
  executions.map Prod.fst <+: pending ∧ (∀ e ∈ executions.dropLast, e.2 = true) ∧
    (executions.map Prod.fst = pending ∨ executions.getLast?.map Prod.snd = some false ∨
      ∃ v ∈ unbuilt, executions.map Prod.fst ++ [v] <+: pending)

theorem runsUntilFailure_nil (unbuilt : List UInt32) : RunsUntilFailure [] unbuilt [] :=
  ⟨List.prefix_refl _, by simp, .inl rfl⟩

theorem runsUntilFailure_failure (v : UInt32) (pending unbuilt : List UInt32) :
    RunsUntilFailure (v :: pending) unbuilt [(v, false)] :=
  ⟨by simp, by simp, .inr (.inl rfl)⟩

theorem runsUntilFailure_unbuilt {v : UInt32} {unbuilt : List UInt32} (hv : v ∈ unbuilt)
    (pending : List UInt32) : RunsUntilFailure (v :: pending) unbuilt [] :=
  ⟨by simp, by simp, .inr (.inr ⟨v, hv, by simp⟩)⟩

theorem RunsUntilFailure.success {pending unbuilt : List UInt32} {executions : List (UInt32 × Bool)}
    (h : RunsUntilFailure pending unbuilt executions) (v : UInt32) :
    RunsUntilFailure (v :: pending) unbuilt ((v, true) :: executions) := by
  obtain ⟨hversions, hdropLast, hend⟩ := h
  refine ⟨by simpa using hversions, ?_, ?_⟩
  · -- the new head succeeded; the rest is the old run
    cases executions with
    | nil => simp
    | cons e rest =>
        intro e' he'
        rw [List.dropLast_cons_cons, List.mem_cons] at he'
        rcases he' with rfl | he'
        · rfl
        · exact hdropLast e' he'
  · rcases hend with hall | hlast | ⟨w, hw, hnext⟩
    · exact .inl (by simp [hall])
    · cases executions with
      | nil => simp at hlast
      | cons e rest => exact .inr (.inl (by simpa [List.getLast?_cons_cons] using hlast))
    · exact .inr (.inr ⟨w, hw, by simpa using hnext⟩)

/-! ## The state the committed transactions leave -/

/-- `state'` is `state` after the transactions of `executions`, in order, each run by
the migration of `migrations` with its version: a committed one changes the state as
the migration's statements and script do, and a rolled-back one leaves it. -/
inductive CommittedRuns (migrations : List (Migration σ)) : σ → List (UInt32 × Bool) → σ → Prop where
  | nil (state : σ) : CommittedRuns migrations state [] state
  | commit {migration : Migration σ} {version : UInt32} {state mid state' : σ}
      {executions : List (UInt32 × Bool)} :
      migration ∈ migrations → migration.producesStatements = true →
      migration.version = some version → migration.run state = .ok mid →
      CommittedRuns migrations mid executions state' →
      CommittedRuns migrations state ((version, true) :: executions) state'
  | rollBack {migration : Migration σ} {version : UInt32} {state state' : σ}
      {err : DatabaseWriteError} {executions : List (UInt32 × Bool)} :
      migration ∈ migrations → migration.producesStatements = true →
      migration.version = some version → migration.run state = .error err →
      CommittedRuns migrations state executions state' →
      CommittedRuns migrations state ((version, false) :: executions) state'

theorem CommittedRuns.mono {migrations migrations' : List (Migration σ)}
    (hsub : ∀ m ∈ migrations, m ∈ migrations') {state state' : σ}
    {executions : List (UInt32 × Bool)} (h : CommittedRuns migrations state executions state') :
    CommittedRuns migrations' state executions state' := by
  induction h with
  | nil state => exact .nil state
  | commit hm hbuilt hversion hrun _ ih => exact .commit (hsub _ hm) hbuilt hversion hrun ih
  | rollBack hm hbuilt hversion hrun _ ih => exact .rollBack (hsub _ hm) hbuilt hversion hrun ih

/-! ## The `Migration` table -/

theorem MigrationTable.insert_of_not_mem {table : MigrationTable} {version : UInt32}
    (h : version ∉ table.rows.map Prod.fst) (isSuccess : Bool) :
    ∃ table', table.insert version isSuccess = .ok table' ∧
      table'.rows = table.rows ++ [(version, isSuccess)] := by
  simp [MigrationTable.insert, h]

/-- The fold of the newest-row query, on rows of increasing versions. -/
theorem foldl_newerRow_of_increasing {rows : List (UInt32 × Bool)}
    (h : (rows.map Prod.fst).Pairwise (· < ·)) (acc : Option (UInt32 × Bool))
    (hacc : ∀ n ∈ acc, ∀ row ∈ rows, n.1 < row.1) :
    rows.foldl newerRow acc = rows.getLast?.or acc := by
  induction rows generalizing acc with
  | nil => simp
  | cons row rest ih =>
      rw [List.map_cons, List.pairwise_cons] at h
      -- every row is newer than what came before it
      have hstep : newerRow acc row = some row := by
        cases acc with
        | none => rfl
        | some n => simp [newerRow, hacc n rfl row List.mem_cons_self]
      have hrest : ∀ n ∈ some row, ∀ r ∈ rest, n.1 < r.1 := by
        intro n hn r hr
        simp only [Option.mem_def, Option.some.injEq] at hn
        subst hn
        exact h.1 r.1 (List.mem_map_of_mem hr)
      rw [List.foldl_cons, hstep, ih h.2 (some row) hrest]
      cases hlast : rest.getLast? <;> simp [List.getLast?_cons, hlast]

/-- On rows of increasing versions the newest row is the last one inserted. -/
theorem MigrationTable.newest_eq_getLast? {table : MigrationTable}
    (h : (table.rows.map Prod.fst).Pairwise (· < ·)) : table.newest = table.rows.getLast? := by
  rw [MigrationTable.newest, foldl_newerRow_of_increasing h none (by simp), Option.or_none]

/-! ## Checking and sorting the list -/

/-- The uniqueness check passes exactly on lists of distinct versions, none of them
already seen. -/
theorem firstDuplicateVersion_eq_none_iff (seen : List UInt32) (migrations : List (Migration σ)) :
    firstDuplicateVersion seen migrations = none ↔
      (migrations.filterMap Migration.version).Nodup ∧
        ∀ v ∈ migrations.filterMap Migration.version, v ∉ seen := by
  induction migrations generalizing seen with
  | nil => simp [firstDuplicateVersion]
  | cons migration rest ih =>
      cases hversion : migration.version with
      | none => simp [firstDuplicateVersion, hversion, ih]
      | some v =>
          have hcons : (migration :: rest).filterMap Migration.version =
              v :: rest.filterMap Migration.version := by
            simp [hversion]
          rw [hcons]
          by_cases hseen : v ∈ seen
          · simp [firstDuplicateVersion, hversion, hseen]
          · have hstep : firstDuplicateVersion seen (migration :: rest) =
                firstDuplicateVersion (v :: seen) rest := by
              simp [firstDuplicateVersion, hversion, hseen]
            rw [hstep, ih]
            simp only [List.nodup_cons, List.mem_cons, not_or]
            constructor
            · rintro ⟨hnodup, hfresh⟩
              exact ⟨⟨fun h => (hfresh v h).1 rfl, hnodup⟩, fun w hw => by
                rcases hw with rfl | hw
                · exact hseen
                · exact (hfresh w hw).2⟩
            · rintro ⟨⟨hv, hnodup⟩, hfresh⟩
              exact ⟨hnodup, fun w hw => ⟨fun h => hv (h ▸ hw), hfresh w (.inr hw)⟩⟩

theorem validateUniquenessOfMigrationVersions_eq_ok_iff (migrations : List (Migration σ)) :
    validateUniquenessOfMigrationVersions migrations = .ok () ↔
      (migrations.filterMap Migration.version).Nodup := by
  rw [validateUniquenessOfMigrationVersions]
  cases h : firstDuplicateVersion [] migrations with
  | none => simpa using ((firstDuplicateVersion_eq_none_iff [] migrations).mp h).1
  | some v =>
      have hne : ¬(migrations.filterMap Migration.version).Nodup := fun hnodup =>
        absurd h (by simp [(firstDuplicateVersion_eq_none_iff [] migrations).mpr ⟨hnodup, by simp⟩])
      simp [hne]

theorem versionLe_trans (a b c : Option UInt32) (hab : versionLe a b = true)
    (hbc : versionLe b c = true) : versionLe a c = true := by
  cases a <;> cases b <;> cases c <;> simp_all [versionLe, UInt32.le_iff_toNat_le]
  omega

theorem versionLe_total (a b : Option UInt32) : (versionLe a b || versionLe b a) = true := by
  cases a <;> cases b <;> simp [versionLe, UInt32.le_iff_toNat_le]
  omega

/-- **`sorted_by_key` puts distinct versions in strictly increasing order.** -/
theorem sortedByVersion_increasing {migrations : List (Migration σ)}
    (hnodup : (migrations.filterMap Migration.version).Nodup) :
    ((sortedByVersion migrations).filterMap Migration.version).Pairwise (· < ·) := by
  have hperm : ((sortedByVersion migrations).filterMap Migration.version).Perm
      (migrations.filterMap Migration.version) :=
    (List.mergeSort_perm _ _).filterMap _
  have hsorted := List.pairwise_mergeSort (fun a b c => versionLe_trans a.version b.version c.version)
    (fun a b => versionLe_total a.version b.version) migrations
  have hle : ((sortedByVersion migrations).filterMap Migration.version).Pairwise (· ≤ ·) := by
    rw [List.pairwise_filterMap]
    refine hsorted.imp fun {a b} hab x hx y hy => ?_
    simpa [versionLe, hx, hy] using hab
  -- sorted and without repeats, hence strictly increasing
  refine (hle.and (hperm.nodup_iff.mpr hnodup)).imp fun {a b} ⟨hab, hne⟩ => ?_
  have hne' : a.toNat ≠ b.toNat := fun h => hne (UInt32.toNat_inj.mp h)
  rw [UInt32.le_iff_toNat_le] at hab
  rw [UInt32.lt_iff_toNat_lt]
  omega

/-- The versions `do_migrate` keeps above the newest one. -/
theorem filterMap_version_filter (v : UInt32) (migrations : List (Migration σ)) :
    (migrations.filter fun m => m.version.any (· > v)).filterMap Migration.version =
      (migrations.filterMap Migration.version).filter fun w => v < w := by
  induction migrations with
  | nil => rfl
  | cons migration rest ih =>
      cases hversion : migration.version with
      | none => simp [hversion, ih]
      | some w =>
          by_cases hw : v < w
          · simp [hversion, hw, ih]
          · simp [hversion, hw, ih]

/-! ## `execute_migration` -/

/-- The initial migration changes nothing. -/
@[simp] theorem Database.executeMigration_initial (db : Database σ) :
    db.executeMigration .initial = (db, .ok ()) := by
  rfl

/-- A migration whose statements cannot be built fails and changes nothing. -/
theorem Database.executeMigration_of_unbuilt (db : Database σ) {migration : Migration σ}
    (hbuilt : migration.producesStatements = false) :
    db.executeMigration migration = (db, .error .unhandled) := by
  simp [Database.executeMigration, hbuilt]

/-- **`execute_migration` of a versioned migration whose version is not recorded yet**:
its transaction commits or rolls back, and its outcome is both executed and recorded. -/
theorem Database.executeMigration_versioned (db : Database σ) {migration : Migration σ}
    {version : UInt32} (hbuilt : migration.producesStatements = true)
    (hversion : migration.version = some version)
    (hfresh : version ∉ db.migrationTable.rows.map Prod.fst) :
    (db.executeMigration migration).1.executions =
        db.executions ++ [(version, (migration.run db.state).isOk)] ∧
      (db.executeMigration migration).1.migrationTable.rows =
        db.migrationTable.rows ++ [(version, (migration.run db.state).isOk)] ∧
      (db.executeMigration migration).1.state = (migration.run db.state).toOption.getD db.state ∧
      (db.executeMigration migration).2.isOk = (migration.run db.state).isOk := by
  obtain ⟨table', hinsert, hrows⟩ := MigrationTable.insert_of_not_mem hfresh
    ((migration.run db.state).map fun _ => ()).isOk
  have hisOk : ((migration.run db.state).map fun _ => ()).isOk = (migration.run db.state).isOk := by
    cases migration.run db.state <;> rfl
  rw [hisOk] at hinsert hrows
  simp only [Database.executeMigration, hbuilt, Bool.not_true, Bool.false_eq_true, if_false,
    hversion, Database.storeVersionBasedOnResult, hisOk, hinsert]
  refine ⟨trivial, hrows, ?_, trivial⟩
  cases migration.run db.state <;> rfl

/-! ## The invariant -/

/-- The `Migration` table records exactly the executions, whose versions strictly
increase, and only the last of which may have failed. -/
structure Database.Consistent (db : Database σ) : Prop where
  rows_eq : db.migrationTable.rows = db.executions
  increasing : (db.executions.map Prod.fst).Pairwise (· < ·)
  failure_last : ∀ e ∈ db.executions.dropLast, e.2 = true

theorem Database.consistent_fresh (state : σ) : (Database.fresh state).Consistent :=
  ⟨rfl, List.Pairwise.nil, by simp [Database.fresh]⟩

/-- The newest row of a consistent database is its last execution. -/
theorem Database.Consistent.newest_eq {db : Database σ} (h : db.Consistent) :
    db.migrationTable.newest = db.executions.getLast? := by
  rw [MigrationTable.newest_eq_getLast? (h.rows_eq ▸ h.increasing), h.rows_eq]

/-- Executing a migration whose version is above every executed one, from a database
whose executions all succeeded, keeps the database consistent. -/
theorem Database.Consistent.executeMigration {db : Database σ} (hdb : db.Consistent)
    (hsucceeded : ∀ e ∈ db.executions, e.2 = true) {migration : Migration σ} {version : UInt32}
    (hbuilt : migration.producesStatements = true) (hversion : migration.version = some version)
    (habove : ∀ e ∈ db.executions, e.1 < version) :
    (db.executeMigration migration).1.Consistent ∧
      (db.executeMigration migration).1.executions =
        db.executions ++ [(version, (migration.run db.state).isOk)] ∧
      (db.executeMigration migration).1.state = (migration.run db.state).toOption.getD db.state ∧
      (db.executeMigration migration).2.isOk = (migration.run db.state).isOk := by
  -- the version is above every recorded one, so its insert succeeds
  have hfresh : version ∉ db.migrationTable.rows.map Prod.fst := by
    rw [hdb.rows_eq]
    intro hmem
    obtain ⟨e, he, hev⟩ := List.mem_map.mp hmem
    exact UInt32.lt_irrefl _ (hev ▸ habove e he)
  obtain ⟨hexecutions, hrows, hstate, hisOk⟩ := db.executeMigration_versioned hbuilt hversion hfresh
  refine ⟨⟨?_, ?_, ?_⟩, hexecutions, hstate, hisOk⟩
  · rw [hrows, hexecutions, hdb.rows_eq]
  · rw [hexecutions, List.map_append, List.pairwise_append]
    refine ⟨hdb.increasing, by simp, ?_⟩
    intro a ha b hb
    obtain ⟨e, he, rfl⟩ := List.mem_map.mp ha
    simp only [List.map_cons, List.map_nil, List.mem_singleton] at hb
    exact hb ▸ habove e he
  · rw [hexecutions, List.dropLast_concat]
    exact hsucceeded

/-- **The loop of `do_migrate`**: on versioned migrations of strictly increasing
versions, all above the executed ones, from a consistent database whose executions
all succeeded, it executes them in order up to the first failure, or up to the first
whose statements cannot be built, keeps the database consistent, and leaves the state
the committed transactions made. -/
theorem Database.Consistent.executeMigrations {db : Database σ} (hdb : db.Consistent)
    (hsucceeded : ∀ e ∈ db.executions, e.2 = true) {todo : List (Migration σ)}
    {unbuilt : List UInt32} (hversioned : ∀ m ∈ todo, m.version.isSome)
    (hunbuilt : ∀ m ∈ todo, m.producesStatements = false → ∀ v ∈ m.version, v ∈ unbuilt)
    (hincreasing : (todo.filterMap Migration.version).Pairwise (· < ·))
    (habove : ∀ v ∈ todo.filterMap Migration.version, ∀ e ∈ db.executions, e.1 < v) :
    ∃ db' result, db.executeMigrations todo = some (db', result) ∧ db'.Consistent ∧
      ∃ executions, db'.executions = db.executions ++ executions ∧
        RunsUntilFailure (todo.filterMap Migration.version) unbuilt executions ∧
        CommittedRuns todo db.state executions db'.state := by
  induction todo generalizing db with
  | nil => exact ⟨db, .ok (), rfl, hdb, [], by simp, runsUntilFailure_nil _, .nil db.state⟩
  | cons migration rest ih =>
      obtain ⟨version, hversion⟩ :=
        Option.isSome_iff_exists.mp (hversioned migration List.mem_cons_self)
      have hfilter : (migration :: rest).filterMap Migration.version =
          version :: rest.filterMap Migration.version := by
        simp [hversion]
      rw [hfilter, List.pairwise_cons] at hincreasing
      rw [hfilter] at habove ⊢
      cases hbuilt : migration.producesStatements with
      | false =>
          -- the statements cannot be built: the loop stops before a transaction ran
          have hloop : db.executeMigrations (migration :: rest) =
              some (db, .error (.executeMigrationFailed version .unhandled)) := by
            simp only [Database.executeMigrations, hversion, db.executeMigration_of_unbuilt hbuilt]
          exact ⟨db, _, hloop, hdb, [], by simp,
            runsUntilFailure_unbuilt (hunbuilt migration List.mem_cons_self hbuilt version hversion) _,
            .nil db.state⟩
      | true =>
          obtain ⟨hconsistent, hexecutions, hstate, hisOk⟩ :=
            hdb.executeMigration hsucceeded hbuilt hversion (habove version List.mem_cons_self)
          generalize hexec : db.executeMigration migration = step at hconsistent hexecutions hstate hisOk
          obtain ⟨db₁, result⟩ := step
          have hloop : db.executeMigrations (migration :: rest) =
              match result with
              | .error err => some (db₁, .error (.executeMigrationFailed version err))
              | .ok () => db₁.executeMigrations rest := by
            simp only [Database.executeMigrations, hversion, hexec]
            cases result <;> rfl
          cases result with
          | error e =>
              -- the transaction rolled back: the loop stops after it
              obtain ⟨err, hrun⟩ : ∃ err, migration.run db.state = .error err := by
                cases hrun : migration.run db.state with
                | ok mid => rw [hrun] at hisOk; cases hisOk
                | error err => exact ⟨err, rfl⟩
              rw [hrun] at hexecutions hstate
              have hstate' : db₁.state = db.state := hstate
              refine ⟨db₁, _, hloop, hconsistent, [(version, false)], hexecutions,
                runsUntilFailure_failure _ _ _, ?_⟩
              rw [hstate']
              exact .rollBack List.mem_cons_self hbuilt hversion hrun (.nil db.state)
          | ok u =>
              obtain ⟨mid, hrun⟩ : ∃ mid, migration.run db.state = .ok mid := by
                cases hrun : migration.run db.state with
                | ok mid => exact ⟨mid, rfl⟩
                | error err => rw [hrun] at hisOk; cases hisOk
              rw [hrun] at hexecutions hstate
              have hstate' : db₁.state = mid := hstate
              have hexecutions₁ : db₁.executions = db.executions ++ [(version, true)] := hexecutions
              -- the rest runs from a database whose executions all succeeded, below the rest
              have hsucceeded₁ : ∀ e ∈ db₁.executions, e.2 = true := by
                intro e he
                rw [hexecutions₁, List.mem_append, List.mem_singleton] at he
                rcases he with he | rfl
                · exact hsucceeded e he
                · rfl
              have habove₁ : ∀ v ∈ rest.filterMap Migration.version, ∀ e ∈ db₁.executions,
                  e.1 < v := by
                intro v hv e he
                rw [hexecutions₁, List.mem_append, List.mem_singleton] at he
                rcases he with he | rfl
                · exact habove v (List.mem_cons_of_mem _ hv) e he
                · exact hincreasing.1 v hv
              obtain ⟨db', result', hrun', hconsistent', executions, hexecutions', hruns,
                  hcommitted⟩ :=
                ih hconsistent hsucceeded₁ (fun m hm => hversioned m (List.mem_cons_of_mem _ hm))
                  (fun m hm => hunbuilt m (List.mem_cons_of_mem _ hm)) hincreasing.2 habove₁
              refine ⟨db', result', by rw [hloop, hrun'], hconsistent',
                (version, true) :: executions,
                by rw [hexecutions', hexecutions₁, List.append_assoc, List.singleton_append],
                hruns.success version, ?_⟩
              rw [hstate'] at hcommitted
              exact .commit List.mem_cons_self hbuilt hversion hrun
                (hcommitted.mono fun m hm => List.mem_cons_of_mem _ hm)

/-! ## One call of `migrate` -/

/-- A consistent database whose newest row succeeded: every execution succeeded, at a
version no larger than the newest. -/
theorem Database.Consistent.le_of_newest {db : Database σ} (hdb : db.Consistent) {v : UInt32}
    (hnewest : db.migrationTable.newest = some (v, true)) :
    ∀ e ∈ db.executions, e.2 = true ∧ e.1 ≤ v := by
  rw [hdb.newest_eq, List.getLast?_eq_some_iff] at hnewest
  obtain ⟨older, holder⟩ := hnewest
  have hincreasing := hdb.increasing
  have hfailure := hdb.failure_last
  rw [holder, List.map_append, List.pairwise_append] at hincreasing
  rw [holder, List.dropLast_concat] at hfailure
  intro e he
  rw [holder, List.mem_append, List.mem_singleton] at he
  rcases he with he | rfl
  · have hlt := hincreasing.2.2 e.1 (List.mem_map_of_mem he) v (by simp)
    rw [UInt32.lt_iff_toNat_lt] at hlt
    exact ⟨hfailure e he, by rw [UInt32.le_iff_toNat_le]; omega⟩
  · exact ⟨rfl, by rw [UInt32.le_iff_toNat_le]⟩

theorem Database.migrate_eq (db : Database σ) (migrations : List (Migration σ))
    (fetchError : Option DatabaseReadError) :
    db.migrate migrations fetchError =
      if migrations.any fun m => m.version.isNone then some (db, .error .migrationWithoutVersion)
      else
        match validateUniquenessOfMigrationVersions migrations with
        | .error err => some (db, .error err)
        | .ok () =>
            match fetchError with
            | some err => some (db, .error (.versionFetchFailed err))
            | none => db.doMigrate migrations db.migrationTable.newest := by
  simp only [Database.migrate, Database.executeMigration_initial]
  cases fetchError <;> rfl

/-- The loop of `do_migrate` on the sorted list of distinct versioned migrations above
every executed version, from a consistent database whose executions all succeeded. -/
theorem Database.Consistent.executeSorted {db : Database σ} (hdb : db.Consistent)
    (hsucceeded : ∀ e ∈ db.executions, e.2 = true) {todo : List (Migration σ)}
    {unbuilt : List UInt32} (hversioned : ∀ m ∈ todo, m.version.isSome)
    (hunbuilt : ∀ m ∈ todo, m.producesStatements = false → ∀ v ∈ m.version, v ∈ unbuilt)
    (hnodup : (todo.filterMap Migration.version).Nodup)
    (habove : ∀ v ∈ todo.filterMap Migration.version, ∀ e ∈ db.executions, e.1 < v) :
    ∃ db' result, db.executeMigrations (sortedByVersion todo) = some (db', result) ∧
      db'.Consistent ∧ ∃ executions, db'.executions = db.executions ++ executions ∧
        ((sortedByVersion todo).filterMap Migration.version).Perm (todo.filterMap Migration.version) ∧
        ((sortedByVersion todo).filterMap Migration.version).Pairwise (· < ·) ∧
        RunsUntilFailure ((sortedByVersion todo).filterMap Migration.version) unbuilt executions ∧
        CommittedRuns todo db.state executions db'.state := by
  have hsorted : ∀ m ∈ sortedByVersion todo, m ∈ todo := fun m hm => (List.mergeSort_perm _ _).subset hm
  have hperm : ((sortedByVersion todo).filterMap Migration.version).Perm
      (todo.filterMap Migration.version) :=
    (List.mergeSort_perm _ _).filterMap _
  have hincreasing := sortedByVersion_increasing hnodup
  obtain ⟨db', result, hrun, hconsistent, executions, hexecutions, hruns, hcommitted⟩ :=
    hdb.executeMigrations hsucceeded (fun m hm => hversioned m (hsorted m hm))
      (fun m hm => hunbuilt m (hsorted m hm)) hincreasing (fun v hv => habove v (hperm.subset hv))
  exact ⟨db', result, hrun, hconsistent, executions, hexecutions, hperm, hincreasing, hruns,
    hcommitted.mono hsorted⟩

/-- The versions of the listed migrations whose statements cannot be built. -/
def unbuiltVersions (migrations : List (Migration σ)) : List UInt32 :=
  (migrations.filter fun m => !m.producesStatements).filterMap Migration.version

theorem mem_unbuiltVersions {migrations : List (Migration σ)} {m : Migration σ}
    (hm : m ∈ migrations) (hbuilt : m.producesStatements = false) :
    ∀ v ∈ m.version, v ∈ unbuiltVersions migrations := by
  intro v hv
  exact List.mem_filterMap.mpr ⟨m, List.mem_filter.mpr ⟨hm, by simp [hbuilt]⟩, hv⟩

/-- What one call of `migrate` on `db` with `migrations`, its version fetch failing with
`fetchError` when that is set, may execute: nothing when the list has a migration
without version or a repeated version, the fetch fails, or the newest row is a failure;
otherwise the listed versions above the newest one (all of them when no row is
recorded), in strictly increasing order, up to the first failure or the first whose
statements cannot be built. -/
def ExecutesPending (db : Database σ) (migrations : List (Migration σ))
    (fetchError : Option DatabaseReadError) (executions : List (UInt32 × Bool)) : Prop :=
  (((∃ m ∈ migrations, m.version = none) ∨ ¬(migrations.filterMap Migration.version).Nodup ∨
      fetchError ≠ none ∨ db.migrationTable.newest.map Prod.snd = some false) → executions = []) ∧
  (((∀ m ∈ migrations, m.version.isSome) ∧ (migrations.filterMap Migration.version).Nodup ∧
      fetchError = none ∧ db.migrationTable.newest.map Prod.snd ≠ some false) →
    ∃ pending, pending.Perm ((migrations.filterMap Migration.version).filter
        fun v => (db.migrationTable.newest.map Prod.fst).all (· < v)) ∧
      pending.Pairwise (· < ·) ∧ RunsUntilFailure pending (unbuiltVersions migrations) executions)

/-- Executing nothing is what a blocked call may do. -/
theorem executesPending_nil {db : Database σ} {migrations : List (Migration σ)}
    {fetchError : Option DatabaseReadError}
    (hblocked : ¬((∀ m ∈ migrations, m.version.isSome) ∧
      (migrations.filterMap Migration.version).Nodup ∧ fetchError = none ∧
      db.migrationTable.newest.map Prod.snd ≠ some false)) :
    ExecutesPending db migrations fetchError [] :=
  ⟨fun _ => rfl, fun hgo => absurd hgo hblocked⟩

/-- A call that passes every check may run the pending versions. -/
theorem executesPending_of_go {db : Database σ} {migrations : List (Migration σ)}
    {executions : List (UInt32 × Bool)} (hsome : ∀ m ∈ migrations, m.version.isSome)
    (hunique : (migrations.filterMap Migration.version).Nodup)
    (hnewest : db.migrationTable.newest.map Prod.snd ≠ some false)
    (hpending : ∃ pending, pending.Perm ((migrations.filterMap Migration.version).filter
        fun v => (db.migrationTable.newest.map Prod.fst).all (· < v)) ∧
      pending.Pairwise (· < ·) ∧ RunsUntilFailure pending (unbuiltVersions migrations) executions) :
    ExecutesPending db migrations none executions := by
  refine ⟨fun hblocked => ?_, fun _ => hpending⟩
  exfalso
  rcases hblocked with ⟨m, hm, hmnone⟩ | hdup | hfailed | hfailed
  · simpa [hmnone] using hsome m hm
  · exact hdup hunique
  · exact hfailed rfl
  · exact hnewest hfailed

/-- **One call of `migrate` on a consistent database** executes what `ExecutesPending`
allows, leaves the state its committed transactions made, and keeps the database
consistent. -/
theorem Database.Consistent.migrate {db : Database σ} (hdb : db.Consistent)
    (migrations : List (Migration σ)) (fetchError : Option DatabaseReadError) :
    ∃ db' result, db.migrate migrations fetchError = some (db', result) ∧ db'.Consistent ∧
      ∃ executions, db'.executions = db.executions ++ executions ∧
        ExecutesPending db migrations fetchError executions ∧
        CommittedRuns migrations db.state executions db'.state := by
  by_cases hnone : migrations.any fun m => m.version.isNone
  · -- a migration without version
    refine ⟨db, _, by rw [Database.migrate_eq, if_pos hnone], hdb, [], by simp,
      executesPending_nil fun hgo => ?_, .nil db.state⟩
    obtain ⟨m, hm, hmnone⟩ := List.any_eq_true.mp hnone
    simpa [Option.isNone_iff_eq_none.mp hmnone] using hgo.1 m hm
  have hsome : ∀ m ∈ migrations, m.version.isSome := by
    intro m hm
    cases hversion : m.version with
    | none => exact absurd (List.any_eq_true.mpr ⟨m, hm, by simp [hversion]⟩) hnone
    | some v => rfl
  by_cases hunique : (migrations.filterMap Migration.version).Nodup
  swap
  · -- a repeated version
    cases hvalid : validateUniquenessOfMigrationVersions migrations with
    | ok u => exact absurd ((validateUniquenessOfMigrationVersions_eq_ok_iff _).mp hvalid) hunique
    | error err =>
        exact ⟨db, _, by rw [Database.migrate_eq, if_neg hnone, hvalid], hdb, [], by simp,
          executesPending_nil fun hgo => hunique hgo.2.1, .nil db.state⟩
  have hvalid := (validateUniquenessOfMigrationVersions_eq_ok_iff migrations).mpr hunique
  cases fetchError with
  | some err =>
      -- the newest version cannot be fetched
      exact ⟨db, _, by rw [Database.migrate_eq, if_neg hnone, hvalid], hdb, [], by simp,
        executesPending_nil fun hgo => Option.some_ne_none err hgo.2.2.1, .nil db.state⟩
  | none => ?_
  have hmigrate : db.migrate migrations none = db.doMigrate migrations db.migrationTable.newest := by
    rw [Database.migrate_eq, if_neg hnone, hvalid]
  have hunbuilt : ∀ m ∈ migrations, m.producesStatements = false →
      ∀ v ∈ m.version, v ∈ unbuiltVersions migrations :=
    fun m hm hbuilt => mem_unbuiltVersions hm hbuilt
  rw [hmigrate]
  by_cases hempty : migrations.isEmpty
  · -- nothing to migrate
    have hnil : migrations = [] := List.isEmpty_iff.mp hempty
    refine ⟨db, .ok (), by simp [Database.doMigrate, hempty], hdb, [], by simp, ⟨fun _ => rfl,
      fun _ => ⟨[], by simp [hnil], List.Pairwise.nil, runsUntilFailure_nil _⟩⟩, .nil db.state⟩
  cases hnewest : db.migrationTable.newest with
  | none =>
      -- no row: every listed migration runs
      have hnoexec : db.executions = [] := by
        rw [hdb.newest_eq] at hnewest
        exact List.getLast?_eq_none_iff.mp hnewest
      obtain ⟨db', result, hrun, hconsistent, executions, hexecutions, hperm, hincreasing, hruns,
          hcommitted⟩ :=
        hdb.executeSorted (by simp [hnoexec]) hsome hunbuilt hunique (by simp [hnoexec])
      exact ⟨db', result, by simpa [Database.doMigrate, hempty] using hrun, hconsistent,
        executions, hexecutions, executesPending_of_go hsome hunique (by simp [hnewest])
          ⟨_, by simpa [hnewest] using hperm, hincreasing, hruns⟩, hcommitted⟩
  | some row =>
      obtain ⟨v, success⟩ := row
      cases success with
      | false =>
          -- the newest migration failed: nothing runs
          exact ⟨db, .error (.lastMigrationFailed v), by simp [Database.doMigrate, hempty], hdb, [],
            by simp, executesPending_nil fun hgo => hgo.2.2.2 (by simp [hnewest]), .nil db.state⟩
      | true =>
          -- the listed migrations above the newest version run
          have hbelow := hdb.le_of_newest hnewest
          have hfilter := filterMap_version_filter v migrations
          obtain ⟨db', result, hrun, hconsistent, executions, hexecutions, hperm, hincreasing, hruns,
              hcommitted⟩ :=
            hdb.executeSorted (fun e he => (hbelow e he).1)
              (fun m hm => hsome m (List.mem_of_mem_filter hm))
              (fun m hm => hunbuilt m (List.mem_of_mem_filter hm))
              (by rw [hfilter]; exact hunique.filter _)
              (fun w hw e he => by
                rw [hfilter, List.mem_filter, decide_eq_true_eq] at hw
                have hle := (hbelow e he).2
                rw [UInt32.le_iff_toNat_le] at hle
                rw [UInt32.lt_iff_toNat_lt] at hw ⊢
                omega)
          exact ⟨db', result, by simpa [Database.doMigrate, hempty] using hrun, hconsistent,
            executions, hexecutions, executesPending_of_go hsome hunique (by simp [hnewest])
              ⟨_, by simpa [hnewest, hfilter] using hperm, hincreasing, hruns⟩,
            hcommitted.mono fun m hm => List.mem_of_mem_filter hm⟩

/-! ## Any sequence of calls -/

/-- Every database a sequence of `migrate` calls reaches is consistent. -/
theorem Database.Reachable.consistent {db : Database σ} (h : db.Reachable) : db.Consistent := by
  induction h with
  | fresh state => exact Database.consistent_fresh state
  | migrate _ hmigrate ih =>
      obtain ⟨db', result, hrun, hconsistent, -⟩ := ih.migrate _ _
      rw [hrun, Option.some.injEq, Prod.mk.injEq] at hmigrate
      exact hmigrate.1 ▸ hconsistent

/-- **`migrate` on any database reached by earlier calls**, its version fetch failing
or not: it returns, appends to the history exactly what `ExecutesPending` allows,
leaves the state the committed transactions made from the old one, in order, and a
`Migration` table that records every execution, at strictly increasing versions, with no
execution after a failure. -/
theorem migrate_executes_pending {db : Database σ} (hdb : db.Reachable)
    (migrations : List (Migration σ)) (fetchError : Option DatabaseReadError) :
    ∃ db' result, db.migrate migrations fetchError = some (db', result) ∧
      (∃ executions, db'.executions = db.executions ++ executions ∧
        ExecutesPending db migrations fetchError executions ∧
        CommittedRuns migrations db.state executions db'.state) ∧
      db'.migrationTable.rows = db'.executions ∧
      (db'.executions.map Prod.fst).Pairwise (· < ·) ∧
      ∀ e ∈ db'.executions.dropLast, e.2 = true := by
  obtain ⟨db', result, hrun, hconsistent, hpending⟩ := hdb.consistent.migrate migrations fetchError
  exact ⟨db', result, hrun, hpending, hconsistent.rows_eq, hconsistent.increasing,
    hconsistent.failure_last⟩

/-- The first call on a fresh database, with two migrations listed out of order. -/
theorem migrate_executes_pending_fresh :
    ∃ db' result, (Database.fresh 0).migrate
        [⟨some 2, true, fun n => .ok (n + 1)⟩, ⟨some 1, true, fun n => .ok (2 * n)⟩] none =
          some (db', result) ∧
      (∃ executions, db'.executions = (Database.fresh 0).executions ++ executions ∧
        ExecutesPending (Database.fresh 0)
          [⟨some 2, true, fun n => .ok (n + 1)⟩, ⟨some 1, true, fun n => .ok (2 * n)⟩] none
          executions ∧
        CommittedRuns [⟨some 2, true, fun n => .ok (n + 1)⟩, ⟨some 1, true, fun n => .ok (2 * n)⟩]
          (Database.fresh 0).state executions db'.state) ∧
      db'.migrationTable.rows = db'.executions ∧
      (db'.executions.map Prod.fst).Pairwise (· < ·) ∧
      ∀ e ∈ db'.executions.dropLast, e.2 = true :=
  migrate_executes_pending (Database.Reachable.fresh 0) _ _

/-! ## Running the same migrations again -/

/-- `execute_migration` returned `Ok`: the transaction committed and was recorded. -/
theorem Database.executeMigration_eq_ok {db db' : Database σ} {migration : Migration σ}
    {version : UInt32} (hversion : migration.version = some version)
    (h : db.executeMigration migration = (db', .ok ())) :
    db'.executions = db.executions ++ [(version, true)] := by
  cases hbuilt : migration.producesStatements with
  | false =>
      rw [db.executeMigration_of_unbuilt hbuilt] at h
      cases h
  | true => ?_
  simp only [Database.executeMigration, hbuilt, Bool.not_true, Bool.false_eq_true, if_false,
    Database.storeVersionBasedOnResult, hversion] at h
  cases hrun : migration.run db.state with
  | error err =>
      -- a rolled-back transaction makes the call fail, whether or not it is recorded
      simp only [hrun] at h
      split at h <;> simp [Except.map] at h
  | ok state =>
      simp only [hrun] at h
      split at h
      · simp at h
      · simp only [Prod.mk.injEq] at h
        rw [← h.1]
        rfl

/-- The loop of `do_migrate` returned `Ok`: every migration it was given committed and
was recorded, in order. -/
theorem Database.executeMigrations_eq_ok {db db' : Database σ} {todo : List (Migration σ)}
    (h : db.executeMigrations todo = some (db', .ok ())) :
    db'.executions = db.executions ++ (todo.filterMap Migration.version).map fun v => (v, true) := by
  induction todo generalizing db with
  | nil =>
      simp only [Database.executeMigrations, Option.some.injEq, Prod.mk.injEq] at h
      simp [← h.1]
  | cons migration rest ih =>
      simp only [Database.executeMigrations] at h
      cases hversion : migration.version with
      | none => simp [hversion] at h
      | some version =>
          simp only [hversion] at h
          split at h
          · simp at h
          · rename_i db₁ hexec
            rw [ih h, Database.executeMigration_eq_ok hversion hexec]
            simp [hversion]

/-- What a call of `do_migrate` that returned `Ok` on a consistent database leaves:
executions that all succeeded, and every listed version at most one of them. -/
theorem Database.Consistent.doMigrate_eq_ok {db db' : Database σ} (hdb : db.Consistent)
    {migrations : List (Migration σ)} (hempty : migrations.isEmpty = false)
    (h : db.doMigrate migrations db.migrationTable.newest = some (db', .ok ())) :
    (∀ e ∈ db'.executions, e.2 = true) ∧
      ∀ w ∈ migrations.filterMap Migration.version, ∃ e ∈ db'.executions, w ≤ e.1 := by
  -- the run appends successes to executions that had all succeeded
  have hafter : ∀ pending : List UInt32,
      db'.executions = db.executions ++ pending.map (fun v => (v, true)) →
      (∀ e ∈ db.executions, e.2 = true) → ∀ e ∈ db'.executions, e.2 = true := by
    intro pending hexecutions hsucceeded e he
    rw [hexecutions, List.mem_append] at he
    rcases he with hold | hnew
    · exact hsucceeded e hold
    · obtain ⟨v, -, rfl⟩ := List.mem_map.mp hnew
      rfl
  have hran : ∀ pending : List UInt32,
      db'.executions = db.executions ++ pending.map (fun v => (v, true)) →
      ∀ w ∈ pending, ∃ e ∈ db'.executions, w ≤ e.1 := fun pending hexecutions w hw =>
    ⟨(w, true), by rw [hexecutions]; exact List.mem_append_right _ (List.mem_map_of_mem hw),
      UInt32.le_refl w⟩
  cases hnewest : db.migrationTable.newest with
  | none =>
      -- no row: the whole list ran
      rw [hnewest] at h
      simp only [Database.doMigrate, hempty, Bool.false_eq_true, if_false] at h
      have hnil : db.executions = [] := by
        rw [hdb.newest_eq] at hnewest
        exact List.getLast?_eq_none_iff.mp hnewest
      have hperm : ((sortedByVersion migrations).filterMap Migration.version).Perm
          (migrations.filterMap Migration.version) :=
        (List.mergeSort_perm _ _).filterMap _
      have hexecutions := Database.executeMigrations_eq_ok h
      exact ⟨hafter _ hexecutions (by simp [hnil]),
        fun w hw => hran _ hexecutions w (hperm.mem_iff.mpr hw)⟩
  | some row =>
      obtain ⟨v, success⟩ := row
      rw [hnewest] at h
      cases success with
      | false => simp [Database.doMigrate, hempty] at h
      | true =>
          -- the listed versions above the newest one ran; the others are below it
          simp only [Database.doMigrate, hempty, Bool.false_eq_true, if_false, Bool.not_true] at h
          have hold := hdb.le_of_newest hnewest
          have hlast : (v, true) ∈ db.executions :=
            List.mem_of_getLast? (hdb.newest_eq ▸ hnewest)
          have hperm : ((sortedByVersion (migrations.filter fun m => m.version.any (· > v))).filterMap
              Migration.version).Perm ((migrations.filterMap Migration.version).filter fun w => v < w) := by
            rw [← filterMap_version_filter]
            exact (List.mergeSort_perm _ _).filterMap _
          have hexecutions := Database.executeMigrations_eq_ok h
          refine ⟨hafter _ hexecutions fun e he => (hold e he).1, fun w hw => ?_⟩
          by_cases hvw : v < w
          · exact hran _ hexecutions w
              (hperm.mem_iff.mpr (List.mem_filter.mpr ⟨hw, by simpa using hvw⟩))
          · refine ⟨(v, true), by rw [hexecutions]; exact List.mem_append_left _ hlast, ?_⟩
            show w ≤ v
            rw [UInt32.lt_iff_toNat_lt] at hvw
            rw [UInt32.le_iff_toNat_le]
            omega

/-- A consistent database whose executions all succeeded, and one of whose executions
is at least `w`: its newest row succeeded, at a version at least `w`. -/
theorem Database.Consistent.newest_of_succeeded {db : Database σ} (hdb : db.Consistent)
    (hsucceeded : ∀ e ∈ db.executions, e.2 = true) {e : UInt32 × Bool} (he : e ∈ db.executions) :
    ∃ v, db.migrationTable.newest = some (v, true) ∧ ∀ e ∈ db.executions, e.1 ≤ v := by
  obtain ⟨last, hlast⟩ := Option.isSome_iff_exists.mp
    (List.getLast?_isSome.mpr (List.ne_nil_of_mem he))
  have hnewest : db.migrationTable.newest = some (last.1, true) := by
    rw [hdb.newest_eq, hlast, ← hsucceeded last (List.mem_of_getLast? hlast)]
  exact ⟨last.1, hnewest, fun e he => (hdb.le_of_newest hnewest e he).2⟩

/-- A list `migrate` checked has a version on every migration. -/
theorem exists_version_of_not_any_isNone {migrations : List (Migration σ)}
    (hnone : ¬(migrations.any fun m => m.version.isNone) = true) :
    ∀ m ∈ migrations, ∃ v, m.version = some v := by
  intro m hm
  cases hversion : m.version with
  | none => exact absurd (List.any_eq_true.mpr ⟨m, hm, by simp [hversion]⟩) hnone
  | some v => exact ⟨v, rfl⟩

/-- Listed versions each covered by an execution at most `newest` select no migration
above `newest`. -/
theorem filter_above_eq_nil {migrations : List (Migration σ)} {executions : List (UInt32 × Bool)}
    {newest : UInt32} (hsome : ∀ m ∈ migrations, ∃ v, m.version = some v)
    (hcover : ∀ w ∈ migrations.filterMap Migration.version, ∃ e ∈ executions, w ≤ e.1)
    (hbelow : ∀ e ∈ executions, e.1 ≤ newest) :
    (migrations.filter fun m => m.version.any (· > newest)) = [] := by
  rw [List.filter_eq_nil_iff]
  intro m hm hgt
  obtain ⟨w, hw⟩ := hsome m hm
  obtain ⟨e, he, hle⟩ := hcover w (List.mem_filterMap.mpr ⟨m, hm, hw⟩)
  have hle' := hbelow e he
  rw [hw] at hgt
  simp only [Option.any_some, decide_eq_true_eq] at hgt
  have hlt : newest < w := hgt
  rw [UInt32.le_iff_toNat_le] at hle hle'
  rw [UInt32.lt_iff_toNat_lt] at hlt
  omega

/-- **Running the same migrations again changes nothing.**  On any database reached by
earlier calls, once `migrate` with a list of migrations has returned `Ok`, calling it
again with the same list, its version fetch succeeding, returns `Ok` and leaves the
database as it is: every listed version is at most the newest recorded one, and that
one succeeded. -/
theorem migrate_again_changes_nothing {db db' : Database σ} (hdb : db.Reachable)
    {migrations : List (Migration σ)} {fetchError : Option DatabaseReadError}
    (hmigrate : db.migrate migrations fetchError = some (db', .ok ())) :
    db'.migrate migrations none = some (db', .ok ()) := by
  have hconsistent' := (Database.Reachable.migrate hdb hmigrate).consistent
  -- the first call passed the checks on the list and fetched the newest version
  have hnone : ¬(migrations.any fun m => m.version.isNone) = true := by
    intro hnone
    rw [Database.migrate_eq, if_pos hnone] at hmigrate
    simp at hmigrate
  have hsome := exists_version_of_not_any_isNone hnone
  cases hvalid : validateUniquenessOfMigrationVersions migrations with
  | error err =>
      rw [Database.migrate_eq, if_neg hnone, hvalid] at hmigrate
      simp at hmigrate
  | ok u =>
      have hfirst : db.doMigrate migrations db.migrationTable.newest = some (db', .ok ()) := by
        rw [Database.migrate_eq, if_neg hnone, hvalid] at hmigrate
        cases fetchError with
        | some err => simp at hmigrate
        | none => exact hmigrate
      rw [Database.migrate_eq, if_neg hnone, hvalid]
      cases hempty : migrations.isEmpty
      case true => simp [Database.doMigrate, hempty]
      case false =>
        obtain ⟨hsucceeded, hcover⟩ := hdb.consistent.doMigrate_eq_ok hempty hfirst
        -- the newest row of `db'` succeeded, at a version no listed one exceeds
        obtain ⟨m, hm⟩ := List.exists_mem_of_ne_nil migrations (by simpa using hempty)
        obtain ⟨w, hw⟩ := hsome m hm
        obtain ⟨e, he, -⟩ := hcover w (List.mem_filterMap.mpr ⟨m, hm, hw⟩)
        obtain ⟨newest, hnewest, hbelow⟩ := hconsistent'.newest_of_succeeded hsucceeded he
        have hnothing := filter_above_eq_nil hsome hcover hbelow
        simp [Database.doMigrate, hempty, hnewest, hnothing, sortedByVersion,
          Database.executeMigrations]

/-- One migration, run on a fresh database and then again. -/
theorem migrate_again_changes_nothing_fresh :
    ∃ db' : Database Nat,
      (Database.fresh 0).migrate [⟨some 1, true, fun n => .ok (n + 1)⟩] none = some (db', .ok ()) ∧
        db'.migrate [⟨some 1, true, fun n => .ok (n + 1)⟩] none = some (db', .ok ()) := by
  have hfirst : (Database.fresh 0).migrate [⟨some 1, true, fun n => .ok (n + 1)⟩] none =
      some (⟨1, ⟨[(1, true)], by decide⟩, [(1, true)]⟩, .ok ()) := by
    simp [Database.migrate_eq, sortedByVersion, validateUniquenessOfMigrationVersions,
      firstDuplicateVersion, Database.doMigrate, MigrationTable.newest, Database.fresh,
      MigrationTable.empty, Database.executeMigrations, Database.executeMigration,
      Database.storeVersionBasedOnResult, MigrationTable.insert]
    rfl
  exact ⟨_, hfirst, migrate_again_changes_nothing (Database.Reachable.fresh 0) hfirst⟩

end CasperSidecar
