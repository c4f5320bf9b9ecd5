import LdapProxy.TransitionRun

namespace LdapProxy

open LdapProxy.Transition

/-!
# The table of threads

`stk_threads.c`: `stk_thread_get` hands out the elements of a table in order,
`stk_create_thread` starts a thread on one of them.  Two counters move apart,
one in each of the functions, and `stk_threads_index` compares them.
-/

/-- `STK_MAX_THREADS` -/
def stkMaxThreads : Nat :=
  128

/-- `stk_thread_t` -/
structure StkThread where
  tid : Nat
  initialized : Int
  magic : Nat
  taskQueue : Option Nat

/-- The static data of `stk_threads.c`. -/
structure ThreadTable where
  stkThreads : Nat → StkThread
  nthreads : Int
  maxThreads : Int
  freeIndex : Int

/--
What `stk_init_threads` gets from the system: three error codes, and memory
that holds anything.
-/
structure ThreadResources where
  attrInit : Int
  mutexInit : Int
  setStackSize : Int
  memory : Option (Nat → StkThread)

/-- Every call of the system succeeds. -/
def ThreadResources.plenty : ThreadResources where
  attrInit := 0
  mutexInit := 0
  setStackSize := 0
  memory :=
    some fun _ =>
      { tid := 0
        initialized := 0
        magic := 0
        taskQueue := none }

/-- `stk_init_threads`, the first call of it; `STK_ERR` is `none`. -/
def stkInitThreads
    (resources : ThreadResources)
    (n : Int) :
    Option ThreadTable :=
  let maxThreads : Int := if n > stkMaxThreads then stkMaxThreads else n
  if resources.attrInit ≠ 0 then
    none
  else if resources.mutexInit ≠ 0 then
    none
  else if resources.setStackSize ≠ 0 then
    none
  else
    resources.memory.map fun stkThreads =>
      { stkThreads := stkThreads
        nthreads := 0
        maxThreads := maxThreads
        freeIndex := 0 }

/-- `stk_threads_index` -/
def stkThreadsIndex (table : ThreadTable) : Int × ThreadTable :=
  if table.freeIndex > table.nthreads then
    (-1, table)
  else
    (table.freeIndex, { table with freeIndex := table.freeIndex + 1 })

/-- `stk_thread_get`: the index of the element, or `NULL`. -/
def stkThreadGet (table : ThreadTable) : Option Nat × ThreadTable :=
  let (idx, table) := stkThreadsIndex table
  if idx < 0 then
    (none, table)
  else
    (some idx.toNat, table)

/-- Write one element of the table. -/
def ThreadTable.set
    (table : ThreadTable)
    (thread : Nat)
    (record : StkThread) :
    ThreadTable :=
  { table with
    stkThreads := Function.update table.stkThreads thread record }

/--
`stk_create_thread`, with what `stk_async_queue_new` returns and the thread
that `pthread_create` starts, if it does.  The result says whether the thread
runs; an element behind the table cannot be written.
-/
def stkCreateThread
    (table : ThreadTable)
    (thread arg : Nat)
    (queue started : Option Nat) :
    Option (Bool × ThreadTable) :=
  if thread < stkMaxThreads then
    let record :=
      { table.stkThreads thread with magic := arg, taskQueue := queue }
    match queue, started with
    | none, _ =>
        some (false, table.set thread record)
    | some _, none =>
        some (false, table.set thread record)
    | some _, some tid =>
        some
          (true,
            { table.set thread { record with tid := tid, initialized := 1 } with
              nthreads := table.nthreads + 1 })
  else
    none

/-- A call of one of the two functions, with its arguments. -/
inductive ThreadCall where
  | get
  | create (arg : Nat) (queue started : Option Nat)
  deriving DecidableEq

/-- The calls of `stk_thread_get`. -/
def ThreadCall.isGet : ThreadCall → Bool
  | .get => true
  | .create .. => false

/--
The table, what `stk_thread_get` has returned so far, and the element that has
been obtained and not created.
-/
structure ThreadUse where
  table : ThreadTable
  results : List (Option Nat)
  pending : Option Nat

namespace ThreadUse

/-- Nothing has been obtained yet. -/
def initial (table : ThreadTable) : ThreadUse where
  table := table
  results := []
  pending := none

/--
One call.  A thread that has been obtained is created before the next one is
obtained; when that fails it is still to be created.
-/
def step (s : ThreadUse) : ThreadCall → Option ThreadUse
  | .get =>
      match s.pending with
      | some _ =>
          none
      | none =>
          let (thread, table) := stkThreadGet s.table
          some
            { table := table
              results := s.results ++ [thread]
              pending := thread }
  | .create arg queue started =>
      match s.pending with
      | none =>
          none
      | some thread =>
          (stkCreateThread s.table thread arg queue started).map
            fun (created, table) =>
              { s with
                table := table
                pending := if created then none else some thread }

/-- The threads that have been obtained. -/
def obtained (results : List (Option Nat)) : List Nat :=
  results.filterMap id

/--
No more threads are handed out than the configuration and the table allow,
none of them twice.
-/
structure Limited (maxThreads : Int) (results : List (Option Nat)) : Prop where
  below :
    ∀ thread,
      some thread ∈ results →
      (thread : Int) < min maxThreads stkMaxThreads
  distinct : (obtained results).Nodup
  exhausted :
    ∀ before result after,
      results = before ++ result :: after →
      min maxThreads stkMaxThreads ≤ ((obtained before).length : Int) →
      result = none

/-- A call hands out the next element, fails to create it, or creates it. -/
theorem step_cases
    {s next : ThreadUse}
    {call : ThreadCall}
    (taken : s.step call = some next) :
    (call = .get ∧
        s.pending = none ∧
        next.table = (stkThreadGet s.table).2 ∧
        next.results = s.results ++ [(stkThreadGet s.table).1] ∧
        next.pending = (stkThreadGet s.table).1) ∨
      (call.isGet = false ∧
        next.results = s.results ∧
        next.table.freeIndex = s.table.freeIndex ∧
        next.table.nthreads = s.table.nthreads ∧
        next.pending = s.pending) ∨
      (call.isGet = false ∧
        (∃ thread, s.pending = some thread ∧ thread < stkMaxThreads) ∧
        next.results = s.results ∧
        next.table.freeIndex = s.table.freeIndex ∧
        next.table.nthreads = s.table.nthreads + 1 ∧
        next.pending = none) := by
  cases call with
  | get =>
      left
      cases waiting : s.pending with
      | some thread =>
          simp [step, waiting] at taken
      | none =>
          simp only [step, waiting, Option.some.injEq] at taken
          subst next
          exact ⟨rfl, rfl, rfl, rfl, rfl⟩
  | create arg queue started =>
      right
      cases waiting : s.pending with
      | none =>
          simp [step, waiting] at taken
      | some thread =>
          simp only [step, waiting] at taken
          obtain ⟨⟨created, table⟩, called, rfl⟩ :=
            Option.map_eq_some_iff.mp taken
          unfold stkCreateThread at called
          split at called
          case isFalse =>
            cases called
          case isTrue inside =>
            cases queue with
            | none =>
                cases called
                exact .inl ⟨rfl, rfl, rfl, rfl, rfl⟩
            | some queue =>
                cases started with
                | none =>
                    cases called
                    exact .inl ⟨rfl, rfl, rfl, rfl, rfl⟩
                | some tid =>
                    cases called
                    exact
                      .inr ⟨rfl, ⟨thread, rfl, inside⟩, rfl, rfl, rfl, rfl⟩

/--
Both counters are the number of threads that have been obtained, but for the
one that is still to be created; the table is handed out from its beginning.
-/
structure Counted (s : ThreadUse) : Prop where
  freeIndex : s.table.freeIndex = s.results.length
  nthreads :
    s.table.nthreads = s.results.length - (if s.pending = none then 0 else 1)
  results : s.results = (List.range s.results.length).map some

/-- With the counters equal, `stk_thread_get` never returns `NULL`. -/
theorem Counted.get
    {s : ThreadUse}
    (counted : s.Counted)
    (nothing : s.pending = none) :
    stkThreadGet s.table =
      (some s.results.length,
        { s.table with freeIndex := s.table.freeIndex + 1 }) := by
  have equal : s.table.freeIndex = s.table.nthreads := by
    rw [counted.freeIndex, counted.nthreads, if_pos nothing, sub_zero]
  have index : ¬ s.table.freeIndex > s.table.nthreads := by omega
  have positive : ¬ s.table.freeIndex < 0 := by
    rw [counted.freeIndex]
    omega
  have position : s.table.freeIndex.toNat = s.results.length := by
    rw [counted.freeIndex, Int.toNat_natCast]
  simp only [stkThreadGet, stkThreadsIndex, if_neg index, if_neg positive,
    position]

/-- Every call keeps the counters. -/
theorem counted_step
    {s next : ThreadUse}
    {call : ThreadCall}
    (counted : s.Counted)
    (taken : s.step call = some next) :
    next.Counted := by
  obtain ⟨-, nothing, table, results, pending⟩ |
    ⟨-, results, freeIndex, nthreads, pending⟩ |
    ⟨-, waiting, results, freeIndex, nthreads, pending⟩ := step_cases taken
  · rw [counted.get nothing] at table results pending
    have threads := counted.nthreads
    rw [if_pos nothing] at threads
    refine ⟨?_, ?_, ?_⟩
    · rw [table, results, List.length_append, List.length_singleton,
        counted.freeIndex]
      rfl
    · rw [table, results, pending, List.length_append,
        List.length_singleton, if_neg nofun]
      push_cast
      omega
    · rw [results, List.length_append, List.length_singleton,
        List.range_succ, List.map_append, ← counted.results]
      rfl
  · refine ⟨?_, ?_, ?_⟩
    · rw [freeIndex, results, counted.freeIndex]
    · rw [nthreads, results, pending, counted.nthreads]
    · rw [results, ← counted.results]
  · have threads := counted.nthreads
    obtain ⟨thread, isPending, -⟩ := waiting
    rw [isPending, if_neg nofun] at threads
    refine ⟨?_, ?_, ?_⟩
    · rw [freeIndex, results, counted.freeIndex]
    · rw [nthreads, results, pending, if_pos rfl]
      omega
    · rw [results, ← counted.results]

/-- Every call of `stk_thread_get` has a result. -/
theorem length_results
    {s final : ThreadUse}
    {calls : List ThreadCall}
    (run : Run (Enabled step) s calls final) :
    final.results.length =
      s.results.length + calls.countP ThreadCall.isGet := by
  induction run with
  | done =>
      rfl
  | next taken _ inductionHypothesis =>
      rw [inductionHypothesis, List.countP_cons]
      obtain ⟨rfl, -, -, results, -⟩ | ⟨other, results, -⟩ |
        ⟨other, -, results, -⟩ := step_cases taken
      · rw [results, List.length_append, List.length_singleton,
          if_pos (show ThreadCall.get.isGet = true from rfl)]
        omega
      · rw [results, other]
        simp
      · rw [results, other]
        simp

/-- The table of the first call of `stk_init_threads`. -/
theorem counted_initial
    {resources : ThreadResources}
    {n : Int}
    {table : ThreadTable}
    (initialised : stkInitThreads resources n = some table) :
    (initial table).Counted := by
  have counters : table.freeIndex = 0 ∧ table.nthreads = 0 := by
    unfold stkInitThreads at initialised
    split_ifs at initialised
    all_goals
      obtain ⟨_, -, rfl⟩ := Option.map_eq_some_iff.mp initialised
      exact ⟨rfl, rfl⟩
  exact ⟨counters.1, counters.2, rfl⟩

/-- Runs hand out the first elements of the table, one for every call. -/
theorem results_run
    {resources : ThreadResources}
    {n : Int}
    {table : ThreadTable}
    {calls : List ThreadCall}
    {s : ThreadUse}
    (initialised : stkInitThreads resources n = some table)
    (run : Run (Enabled step) (initial table) calls s) :
    s.results =
      (List.range (calls.countP ThreadCall.isGet)).map some := by
  have counted : s.Counted :=
    run.invariant Counted counted_step (counted_initial initialised)
  have length := length_results run
  rw [show (initial table).results.length = 0 from rfl, zero_add] at length
  rw [← length]
  exact counted.results

/-- All elements of such a list have been obtained. -/
theorem obtained_range (count : Nat) :
    obtained ((List.range count).map some) = List.range count := by
  unfold obtained
  rw [List.filterMap_map]
  exact List.filterMap_some

/-- The first elements of the table are within the limit if their number is. -/
theorem limited_range
    {maxThreads : Int}
    {count : Nat} :
    Limited maxThreads ((List.range count).map some) ↔
      count ≤ (min maxThreads stkMaxThreads).toNat := by
  constructor
  · intro limited
    by_contra more
    have member :
        some (min maxThreads stkMaxThreads).toNat ∈
          (List.range count).map some :=
      List.mem_map_of_mem (List.mem_range.mpr (Nat.lt_of_not_le more))
    have below := limited.below _ member
    omega
  · intro fits
    refine ⟨?_, ?_, ?_⟩
    · intro thread member
      obtain ⟨index, inRange, same⟩ := List.mem_map.mp member
      cases same
      have := List.mem_range.mp inRange
      omega
    · rw [obtained_range]
      exact List.nodup_range
    · intro before result after split full
      exfalso
      have counted := congrArg List.length split
      rw [List.length_map, List.length_range, List.length_append,
        List.length_cons] at counted
      have most : (obtained before).length ≤ before.length :=
        List.length_filterMap_le ..
      omega

/--
`stk_thread_get` returns the address behind a full table, and nothing can be
created there.
-/
theorem get_behind_table
    {s : ThreadUse}
    (counted : s.Counted)
    (nothing : s.pending = none)
    (full : s.results.length = stkMaxThreads) :
    ∃ next,
      s.step .get = some next ∧
        next.results = s.results ++ [some stkMaxThreads] ∧
        ∀ arg queue started,
          next.step (.create arg queue started) = none := by
  refine ⟨_, by simp only [step, nothing]; rfl, ?_, ?_⟩
  · rw [counted.get nothing, full]
  · intro arg queue started
    have outside : ¬ stkMaxThreads < stkMaxThreads := Nat.lt_irrefl _
    simp only [step, counted.get nothing, full, stkCreateThread,
      if_neg outside, Option.map_none]

/--
The loops of `lp_ldap_init` and `lp_mysql_init` without a failure: each worker
gets a thread and is started on it.
-/
def startWorkers (num : Int) : List ThreadCall :=
  (List.range num.toNat).flatMap fun i =>
    [.get, .create i (some i) (some i)]

/-- The LDAP workers are started, then the MySQL workers. -/
def startAll (ldapNum mysqlNum : Int) : List ThreadCall :=
  startWorkers ldapNum ++ startWorkers mysqlNum

/-- One worker is started while the table has room. -/
theorem start_worker
    {s : ThreadUse}
    (counted : s.Counted)
    (nothing : s.pending = none)
    (room : s.results.length < stkMaxThreads)
    (i : Nat) :
    ∃ next,
      Run (Enabled step) s [.get, .create i (some i) (some i)] next ∧
        next.Counted ∧
        next.pending = none ∧
        next.results.length = s.results.length + 1 := by
  have accepted :
      ∃ next,
        exec step s [.get, .create i (some i) (some i)] = some next ∧
          next.pending = none := by
    simp only [exec, step, nothing, counted.get nothing, stkCreateThread,
      if_pos room, Option.map_some, if_true]
    exact ⟨_, rfl, rfl⟩
  obtain ⟨next, accepted, nothingLater⟩ := accepted
  have run := exec_run accepted
  exact
    ⟨next, run, run.invariant Counted counted_step counted, nothingLater,
      length_results run⟩

/-- All workers are started if the table has room for them. -/
theorem start_workers
    {s : ThreadUse}
    (counted : s.Counted)
    (nothing : s.pending = none)
    (num : Nat)
    (room : s.results.length + num ≤ stkMaxThreads) :
    ∃ next,
      Run (Enabled step) s (startWorkers num) next ∧
        next.Counted ∧
        next.pending = none ∧
        next.results.length = s.results.length + num := by
  induction num with
  | zero =>
      exact ⟨s, .done, counted, nothing, rfl⟩
  | succ num inductionHypothesis =>
      obtain ⟨middle, first, countedMiddle, nothingMiddle, obtained⟩ :=
        inductionHypothesis (by omega)
      obtain ⟨next, last, countedNext, nothingNext, more⟩ :=
        start_worker countedMiddle nothingMiddle (by omega) num
      refine ⟨next, ?_, countedNext, nothingNext, by omega⟩
      have calls :
          startWorkers ((num + 1 : Nat) : Int) =
            startWorkers num ++ [.get, .create num (some num) (some num)] := by
        simp only [startWorkers, Int.toNat_natCast, List.range_succ,
          List.flatMap_append, List.flatMap_singleton]
      rw [calls]
      exact first.trans last

/-- As many workers as the table holds are started, in a table of any limit. -/
theorem start_all
    {resources : ThreadResources}
    {maxThreads ldapNum mysqlNum : Int}
    {table : ThreadTable}
    (initialised : stkInitThreads resources maxThreads = some table)
    (room : ldapNum.toNat + mysqlNum.toNat ≤ stkMaxThreads) :
    ∃ s,
      Run (Enabled step) (initial table) (startAll ldapNum mysqlNum) s ∧
        s.Counted ∧
        s.pending = none ∧
        s.results.length = ldapNum.toNat + mysqlNum.toNat := by
  have loops (num : Int) : startWorkers num.toNat = startWorkers num := by
    unfold startWorkers
    rw [Int.toNat_natCast]
  have roomFirst :
      (initial table).results.length + ldapNum.toNat ≤ stkMaxThreads := by
    rw [show (initial table).results.length = 0 from rfl]
    omega
  obtain ⟨middle, first, countedMiddle, nothingMiddle, obtained⟩ :=
    start_workers (counted_initial initialised) rfl ldapNum.toNat roomFirst
  rw [show (initial table).results.length = 0 from rfl, zero_add] at obtained
  obtain ⟨s, second, counted, nothing, more⟩ :=
    start_workers countedMiddle nothingMiddle mysqlNum.toNat (by omega)
  rw [loops] at first second
  exact ⟨s, first.trans second, counted, nothing, by omega⟩

/--
Starting the workers keeps to the limit exactly when there are not more of them
than threads.
-/
theorem start_all_limited
    {resources : ThreadResources}
    {maxThreads ldapNum mysqlNum : Int}
    {table : ThreadTable}
    (initialised : stkInitThreads resources maxThreads = some table)
    (room : ldapNum.toNat + mysqlNum.toNat ≤ stkMaxThreads) :
    ∃ s,
      Run (Enabled step) (initial table) (startAll ldapNum mysqlNum) s ∧
        (Limited maxThreads s.results ↔
          ldapNum.toNat + mysqlNum.toNat ≤
            (min maxThreads stkMaxThreads).toNat) := by
  obtain ⟨s, run, counted, -, obtained⟩ := start_all initialised room
  refine ⟨s, run, ?_⟩
  rw [counted.results, obtained]
  exact limited_range

/--
In every run of the two functions, the threads that are handed out respect the
limit exactly when `stk_thread_get` is not called more often than the limit
allows.
-/
theorem thread_get_limited_iff
    {resources : ThreadResources}
    {maxThreads : Int}
    {table : ThreadTable}
    {calls : List ThreadCall}
    {s : ThreadUse}
    (initialised : stkInitThreads resources maxThreads = some table)
    (run : Run (Enabled step) (initial table) calls s) :
    Limited maxThreads s.results ↔
      calls.countP ThreadCall.isGet ≤
        (min maxThreads stkMaxThreads).toNat := by
  rw [results_run initialised run]
  exact limited_range

/-- The workers of the default settings are started. -/
theorem thread_get_limited_iff_defaults :
    ∃ table s,
      stkInitThreads .plenty 128 = some table ∧
        Run (Enabled step) (initial table) (startAll 4 8) s ∧
        s.results = (List.range 12).map some ∧
        (Limited 128 s.results ↔
          (startAll 4 8).countP ThreadCall.isGet ≤
            (min (128 : Int) stkMaxThreads).toNat) := by
  have initialised : ∃ table, stkInitThreads .plenty 128 = some table :=
    ⟨_, rfl⟩
  obtain ⟨table, initialised⟩ := initialised
  obtain ⟨s, run, counted, -, obtained⟩ :=
    @start_all .plenty 128 4 8 table initialised (by decide)
  have twelve : s.results.length = 12 := obtained
  have results := counted.results
  rw [twelve] at results
  exact
    ⟨table, s, initialised, run, results,
      thread_get_limited_iff initialised run⟩

/--
With one thread configured, an LDAP worker and a MySQL worker get two threads;
with all threads of the table started, the address behind it is returned.
-/
theorem thread_get_beyond_limit :
    (∃ table s,
      stkInitThreads .plenty 1 = some table ∧
        Run (Enabled step) (initial table) (startAll 1 1) s ∧
        s.results = [some 0, some 1] ∧
        ¬ Limited 1 s.results) ∧
      ∃ table s next,
        stkInitThreads .plenty 128 = some table ∧
          Run (Enabled step) (initial table) (startAll 120 8) s ∧
          s.step .get = some next ∧
          next.results = s.results ++ [some 128] ∧
          ¬ Limited 128 next.results := by
  have initialised (n : Int) :
      ∃ table, stkInitThreads .plenty n = some table :=
    ⟨_, rfl⟩
  constructor
  · obtain ⟨table, initialised⟩ := initialised 1
    obtain ⟨s, run, counted, -, obtained⟩ :=
      @start_all .plenty 1 1 1 table initialised (by decide)
    have results : s.results = [some 0, some 1] := by
      rw [counted.results, obtained]
      rfl
    refine ⟨table, s, initialised, run, results, ?_⟩
    intro limited
    have below := limited.below 1 (by rw [results]; decide)
    exact absurd below (by decide)
  · obtain ⟨table, initialised⟩ := initialised 128
    obtain ⟨s, run, counted, nothing, obtained⟩ :=
      @start_all .plenty 128 120 8 table initialised (by decide)
    obtain ⟨next, taken, results, -⟩ :=
      get_behind_table counted nothing obtained
    refine ⟨table, s, next, initialised, run, taken, results, ?_⟩
    intro limited
    have below := limited.below stkMaxThreads (by
      rw [results]
      exact List.mem_append_right _ (List.mem_singleton.mpr rfl))
    exact absurd below (by decide)

end ThreadUse

end LdapProxy
