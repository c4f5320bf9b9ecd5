import LdapProxy.StkList
import LdapProxy.TickAccounts

namespace LdapProxy

open LdapProxy.LinkedRing

/-!
# The list of ticks in memory

`c->task_ticks` is an intrusive list of `task_tick_t`.  The three functions of
`lp_task.c` on it are modelled on the link fields, and each of them does to the
list what the model of the connections does to the sequence of ticks.
-/

variable {Node : Type*}

/--
The entries of all tick lists: their links, their `tick` fields, and the
entries that are allocated and not freed.
-/
structure TickHeap (Node : Type*) where
  links : Links Node
  tick : Node → Nat
  allocated : List Node

namespace TickHeap

variable [DecidableEq Node]

/-- `stk_free` -/
def free (entry : Node) (h : TickHeap Node) : TickHeap Node :=
  { h with allocated := h.allocated.erase entry }

/--
`lp_conn_register_task_tick` on the list with this head, when `stk_alloc`
returns `entry`.
-/
def registerTaskTick
    (entry : Option Node)
    (taskTicks : Node)
    (taskTick : Nat)
    (h : TickHeap Node) :
    Int × TickHeap Node :=
  match entry with
  | none =>
      (lpErr, h)
  | some tick =>
      (lpOk,
        { links := stkListAddTail tick taskTicks h.links
          tick := Function.update h.tick tick taskTick
          allocated := tick :: h.allocated })

/-- The loop of `lp_conn_check_task_tick` from `itr` on. -/
def checkTaskTickLoop (taskTicks : Node) (taskTick : Nat) :
    Nat → Node → TickHeap Node → Option (Int × TickHeap Node)
  | 0, _, _ =>
      none
  | fuel + 1, itr, h =>
      if itr = taskTicks then
        some (lpErr, h)
      else if h.tick itr = taskTick then
        some (lpOk, { h with links := stkListDel itr h.links }.free itr)
      else
        checkTaskTickLoop taskTicks taskTick fuel (h.links.next itr) h

/-- `lp_conn_check_task_tick` -/
def checkTaskTick (taskTicks : Node) (taskTick : Nat) (h : TickHeap Node) :
    Option (Int × TickHeap Node) :=
  checkTaskTickLoop taskTicks taskTick (h.allocated.length + 1)
    (h.links.next taskTicks) h

/-- The loop of `lp_clean_task_ticks`, with at most `fuel` repetitions. -/
def cleanTaskTicksLoop (list : Node) :
    Nat → TickHeap Node → Option (TickHeap Node)
  | 0, _ =>
      none
  | fuel + 1, h =>
      match stkListPopEntry list h.links with
      | (none, _) =>
          some h
      | (some itr, links) =>
          cleanTaskTicksLoop list fuel ({ h with links := links }.free itr)

/-- `lp_clean_task_ticks` -/
def cleanTaskTicks (list : Node) (h : TickHeap Node) :
    Option (TickHeap Node) :=
  cleanTaskTicksLoop list (h.allocated.length + 1) h

/-- These allocated entries are the list. -/
structure Entries
    (h : TickHeap Node)
    (list : Node)
    (entries : List Node) : Prop where
  ring : Ring h.links list entries
  allocated : entries ⊆ h.allocated

/-- The entries of the list hold these ticks. -/
def Represents
    (h : TickHeap Node)
    (list : Node)
    (ticks : List Nat) :
    Prop :=
  ∃ entries, h.Entries list entries ∧ entries.map h.tick = ticks

variable {h : TickHeap Node}
variable {list : Node}
variable {entries : List Node}

omit [DecidableEq Node] in
/-- There are no more entries than allocated ones. -/
theorem Entries.length_le
    (isList : h.Entries list entries) :
    entries.length ≤ h.allocated.length :=
  ((List.nodup_cons.mp isList.ring.nodup).2.subperm
    isList.allocated).length_le

/-- A new entry holds its tick behind the others. -/
theorem registerTaskTick_represents
    {ticks : List Nat}
    (represents : h.Represents list ticks)
    {entry : Node}
    (fresh : entry ∉ h.allocated)
    (notHead : entry ≠ list)
    (taskTick : Nat) :
    (registerTaskTick (some entry) list taskTick h).1 = lpOk ∧
      (registerTaskTick (some entry) list taskTick h).2.Represents list
        (ticks ++ [taskTick]) := by
  obtain ⟨entries, isList, rfl⟩ := represents
  have outside : entry ∉ entries :=
    fun member => fresh (isList.allocated member)
  refine ⟨rfl, entries ++ [entry], ⟨?_, ?_⟩, ?_⟩
  · refine stkListAddTail_ring isList.ring ?_
    rw [List.mem_cons, not_or]
    exact ⟨notHead, outside⟩
  · intro other member
    rcases List.mem_append.mp member with inList | new
    · exact List.mem_cons_of_mem _ (isList.allocated inList)
    · rw [List.mem_singleton.mp new]
      exact List.mem_cons_self ..
  · simp only [registerTaskTick, List.map_append, List.map_singleton,
      Function.update_self]
    congr 1
    apply List.map_congr_left
    intro other member
    exact Function.update_of_ne (ne_of_mem_of_not_mem member outside) ..

/-- The loop passes over entries with other ticks. -/
theorem checkTaskTickLoop_skips
    {taskTick : Nat}
    {start : Node}
    (walk : h.links.Walk list start entries)
    (others : taskTick ∉ entries.map h.tick)
    {fuel : Nat}
    (enough : entries.length < fuel) :
    checkTaskTickLoop list taskTick fuel start h = some (lpErr, h) := by
  induction walk generalizing fuel with
  | arrived =>
      obtain ⟨fuel, rfl⟩ := Nat.exists_eq_succ_of_ne_zero enough.ne'
      simp only [checkTaskTickLoop, if_true]
  | visit goesOn _ inductionHypothesis =>
      obtain ⟨fuel, rfl⟩ :=
        Nat.exists_eq_succ_of_ne_zero (Nat.ne_zero_of_lt enough)
      rw [List.map_cons, List.mem_cons, not_or] at others
      simp only [checkTaskTickLoop, goesOn, if_false, Ne.symm others.1]
      exact inductionHypothesis others.2 (Nat.lt_of_succ_lt_succ enough)

/-- The loop stops at the first entry with the tick. -/
theorem checkTaskTickLoop_finds
    {taskTick : Nat}
    {start found : Node}
    {left right : List Node}
    (walk : h.links.Walk list start (left ++ found :: right))
    (before : taskTick ∉ left.map h.tick)
    (here : h.tick found = taskTick)
    {fuel : Nat}
    (enough : left.length < fuel) :
    checkTaskTickLoop list taskTick fuel start h =
      some
        (lpOk,
          { h with links := stkListDel found h.links }.free found) := by
  induction left generalizing start fuel with
  | nil =>
      obtain ⟨fuel, rfl⟩ :=
        Nat.exists_eq_succ_of_ne_zero (Nat.ne_zero_of_lt enough)
      cases walk with
      | visit goesOn _ =>
          simp only [checkTaskTickLoop, goesOn, if_false, here, if_true]
  | cons first rest inductionHypothesis =>
      obtain ⟨fuel, rfl⟩ :=
        Nat.exists_eq_succ_of_ne_zero (Nat.ne_zero_of_lt enough)
      rw [List.map_cons, List.mem_cons, not_or] at before
      cases walk with
      | visit goesOn later =>
          simp only [checkTaskTickLoop, goesOn, if_false,
            Ne.symm before.1]
          exact inductionHypothesis later before.2
            (Nat.lt_of_succ_lt_succ enough)

/-- Taking an entry out of the list frees it. -/
theorem Entries.without
    {found : Node}
    {left right : List Node}
    (isList : h.Entries list (left ++ found :: right)) :
    ({ h with links := stkListDel found h.links }.free found).Entries list
      (left ++ right) where
  ring := stkListDel_ring isList.ring
  allocated := by
    have nodup := (List.nodup_cons.mp isList.ring.nodup).2
    intro other member
    have inList : other ∈ left ++ found :: right := by
      simp only [List.mem_append, List.mem_cons] at member ⊢
      tauto
    have different : other ≠ found := by
      rintro rfl
      exact (List.nodup_middle.mp nodup |> List.nodup_cons.mp).1 member
    exact (List.mem_erase_of_ne different).mpr (isList.allocated inList)

/--
`lp_conn_check_task_tick` ends; it frees the first entry with the tick, or finds
none and changes nothing.
-/
theorem checkTaskTick_ends
    (isList : h.Entries list entries)
    (taskTick : Nat) :
    (∃ left found right,
        entries = left ++ found :: right ∧
        taskTick ∉ left.map h.tick ∧
        h.tick found = taskTick ∧
        checkTaskTick list taskTick h =
          some
            (lpOk,
              { h with links := stkListDel found h.links }.free found)) ∨
      taskTick ∉ entries.map h.tick ∧
        checkTaskTick list taskTick h = some (lpErr, h) := by
  have enough : entries.length < h.allocated.length + 1 :=
    Nat.lt_succ_of_le isList.length_le
  by_cases registered : taskTick ∈ entries.map h.tick
  · obtain ⟨first, second, before, split, -⟩ :=
      List.exists_erase_eq registered
    obtain ⟨left, behind, rfl, rfl, found⟩ :=
      List.map_eq_append_iff.mp split
    obtain ⟨entry, right, rfl, here, rfl⟩ := List.map_eq_cons_iff.mp found
    refine .inl ⟨left, entry, right, rfl, before, here, ?_⟩
    refine checkTaskTickLoop_finds isList.ring.walk before here ?_
    rw [List.length_append] at enough
    omega
  · exact .inr
      ⟨registered, checkTaskTickLoop_skips isList.ring.walk registered enough⟩

/-- The ticks lose the first one that is checked, if they have it. -/
theorem checkTaskTick_represents
    {ticks : List Nat}
    (represents : h.Represents list ticks)
    (taskTick : Nat) :
    ∃ ret after,
      checkTaskTick list taskTick h = some (ret, after) ∧
        (taskTick ∈ ticks ∧ ret = lpOk ∧
            after.Represents list (ticks.erase taskTick) ∨
          taskTick ∉ ticks ∧ ret = lpErr ∧ after = h) := by
  obtain ⟨entries, isList, rfl⟩ := represents
  rcases checkTaskTick_ends isList taskTick with
    ⟨left, found, right, rfl, before, here, checked⟩ | ⟨unknown, checked⟩
  · refine ⟨lpOk, _, checked, .inl ⟨?_, rfl, left ++ right,
      isList.without, ?_⟩⟩
    · rw [List.map_append, List.map_cons, here]
      exact List.mem_append_right _ (List.mem_cons_self ..)
    · rw [List.map_append, List.map_append, List.map_cons, here,
        List.erase_append_right _ before, List.erase_cons_head]
      rfl
  · exact ⟨lpErr, h, checked, .inr ⟨unknown, rfl, rfl⟩⟩

/-- The loop of `lp_clean_task_ticks` frees every entry. -/
theorem cleanTaskTicksLoop_empties
    (isList : h.Entries list entries)
    {fuel : Nat}
    (enough : entries.length < fuel) :
    ∃ after,
      cleanTaskTicksLoop list fuel h = some after ∧
        after.Represents list [] := by
  induction entries generalizing h fuel with
  | nil =>
      obtain ⟨fuel, rfl⟩ := Nat.exists_eq_succ_of_ne_zero enough.ne'
      refine ⟨h, ?_, [], isList, rfl⟩
      simp only [cleanTaskTicksLoop, stkListPopEntry_nil isList.ring]
  | cons entry rest inductionHypothesis =>
      obtain ⟨fuel, rfl⟩ :=
        Nat.exists_eq_succ_of_ne_zero (Nat.ne_zero_of_lt enough)
      have isFirst : h.Entries list ([] ++ entry :: rest) := isList
      have left := isFirst.without
      simp only [cleanTaskTicksLoop, stkListPopEntry_cons isList.ring]
      exact inductionHypothesis left (Nat.lt_of_succ_lt_succ enough)

/-- `lp_clean_task_ticks` ends with an empty list. -/
theorem cleanTaskTicks_represents
    {ticks : List Nat}
    (represents : h.Represents list ticks) :
    ∃ after,
      cleanTaskTicks list h = some after ∧ after.Represents list [] := by
  obtain ⟨entries, isList, -⟩ := represents
  exact cleanTaskTicksLoop_empties isList
    (Nat.lt_succ_of_le isList.length_le)

section OtherList

variable {other : Node}
variable {others : List Node}

/-- Taking an entry out of one list leaves the others alone. -/
theorem Entries.other_without
    {found : Node}
    {left right : List Node}
    (isList : h.Entries list (left ++ found :: right))
    (isOther : h.Entries other others)
    (apart :
      ∀ query ∈ list :: (left ++ found :: right),
        query ∉ other :: others) :
    ({ h with links := stkListDel found h.links }.free found).Entries other
      others where
  ring := stkListDel_ring_other isList.ring isOther.ring apart
  allocated := by
    intro query member
    have different : query ≠ found := by
      rintro rfl
      exact apart query (by simp) (List.mem_cons_of_mem _ member)
    exact (List.mem_erase_of_ne different).mpr (isOther.allocated member)

/-- `lp_conn_register_task_tick` leaves the other lists alone. -/
theorem registerTaskTick_other
    (isList : h.Entries list entries)
    (isOther : h.Entries other others)
    (apart : ∀ query ∈ list :: entries, query ∉ other :: others)
    {entry : Node}
    (fresh : entry ∉ h.allocated)
    (notHead : entry ≠ other)
    (taskTick : Nat) :
    (registerTaskTick (some entry) list taskTick h).2.Entries other others ∧
      others.map (registerTaskTick (some entry) list taskTick h).2.tick =
        others.map h.tick := by
  have outside : entry ∉ others :=
    fun member => fresh (isOther.allocated member)
  refine ⟨⟨?_, ?_⟩, ?_⟩
  · refine stkListAddTail_ring_other isList.ring isOther.ring apart ?_
    rw [List.mem_cons, not_or]
    exact ⟨notHead, outside⟩
  · exact fun query member =>
      List.mem_cons_of_mem _ (isOther.allocated member)
  · apply List.map_congr_left
    intro query member
    exact Function.update_of_ne (ne_of_mem_of_not_mem member outside) ..

/-- `lp_conn_check_task_tick` leaves the other lists alone. -/
theorem checkTaskTick_other
    (isList : h.Entries list entries)
    (isOther : h.Entries other others)
    (apart : ∀ query ∈ list :: entries, query ∉ other :: others)
    {taskTick : Nat}
    {ret : Int}
    {after : TickHeap Node}
    (checked : checkTaskTick list taskTick h = some (ret, after)) :
    after.Entries other others ∧ after.tick = h.tick := by
  rcases checkTaskTick_ends isList taskTick with
    ⟨left, found, right, rfl, -, -, finds⟩ | ⟨-, skips⟩
  · rw [finds] at checked
    cases checked
    exact ⟨isList.other_without isOther apart, rfl⟩
  · rw [skips] at checked
    cases checked
    exact ⟨isOther, rfl⟩

/-- The loop of `lp_clean_task_ticks` leaves the other lists alone. -/
theorem cleanTaskTicksLoop_other
    (isList : h.Entries list entries)
    (isOther : h.Entries other others)
    (apart : ∀ query ∈ list :: entries, query ∉ other :: others)
    {fuel : Nat}
    {after : TickHeap Node}
    (cleaned : cleanTaskTicksLoop list fuel h = some after) :
    after.Entries other others ∧ after.tick = h.tick := by
  induction entries generalizing h fuel with
  | nil =>
      cases fuel with
      | zero =>
          cases cleaned
      | succ fuel =>
          simp only [cleanTaskTicksLoop, stkListPopEntry_nil isList.ring]
            at cleaned
          cases cleaned
          exact ⟨isOther, rfl⟩
  | cons entry rest inductionHypothesis =>
      cases fuel with
      | zero =>
          cases cleaned
      | succ fuel =>
          have isFirst : h.Entries list ([] ++ entry :: rest) := isList
          have left := isFirst.without
          have otherLeft := isFirst.other_without isOther apart
          have stillApart :
              ∀ query ∈ list :: rest, query ∉ other :: others := by
            intro query member
            apply apart
            simp only [List.mem_cons] at member ⊢
            tauto
          simp only [cleanTaskTicksLoop, stkListPopEntry_cons isList.ring]
            at cleaned
          have kept := inductionHypothesis left otherLeft stillApart cleaned
          exact kept

/-- `lp_clean_task_ticks` leaves the other lists alone. -/
theorem cleanTaskTicks_other
    (isList : h.Entries list entries)
    (isOther : h.Entries other others)
    (apart : ∀ query ∈ list :: entries, query ∉ other :: others)
    {after : TickHeap Node}
    (cleaned : cleanTaskTicks list h = some after) :
    after.Entries other others ∧ after.tick = h.tick :=
  cleanTaskTicksLoop_other isList isOther apart cleaned

end OtherList

/-- The list of a connection is what registering a tick leaves of it. -/
theorem registerTaskTick_refines
    {c : Connection}
    (represents : h.Represents list c.taskTicks)
    (task : Task)
    {entry : Option Node}
    (fresh : ∀ tick ∈ entry, tick ∉ h.allocated ∧ tick ≠ list) :
    (registerTaskTick entry list task.tick h).1 =
        (lpConnRegisterTaskTick entry.isSome c task).1 ∧
      (registerTaskTick entry list task.tick h).2.Represents list
        (lpConnRegisterTaskTick entry.isSome c task).2.taskTicks := by
  cases entry with
  | none =>
      exact ⟨rfl, represents⟩
  | some tick =>
      obtain ⟨notAllocated, notHead⟩ := fresh tick rfl
      exact registerTaskTick_represents represents notAllocated notHead
        task.tick

/-- The list of a connection is what checking a tick leaves of it. -/
theorem checkTaskTick_refines
    {c : Connection}
    (represents : h.Represents list c.taskTicks)
    (task : Task) :
    ∃ after,
      checkTaskTick list task.tick h =
          some ((lpConnCheckTaskTick c task).1, after) ∧
        after.Represents list
          (lpConnCheckTaskTick c task).2.taskTicks := by
  obtain ⟨ret, after, checked, found | notFound⟩ :=
    checkTaskTick_represents represents task.tick
  · obtain ⟨registered, rfl, erased⟩ := found
    rw [lpConnCheckTaskTick_accepts registered]
    exact ⟨after, checked, erased⟩
  · obtain ⟨unknown, rfl, rfl⟩ := notFound
    rw [lpConnCheckTaskTick_rejects unknown]
    exact ⟨after, checked, represents⟩

/-- The list of a connection that is given back is empty. -/
theorem cleanTaskTicks_refines
    {c : Connection}
    (represents : h.Represents list c.taskTicks) :
    ∃ after,
      cleanTaskTicks list h = some after ∧
        after.Represents list c.cleared.taskTicks :=
  cleanTaskTicks_represents represents

end TickHeap

end LdapProxy
