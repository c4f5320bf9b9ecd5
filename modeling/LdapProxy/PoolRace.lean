import LdapProxy.PoolInsert

namespace LdapProxy

open LdapProxy.LinkedRing
open LdapProxy.Transition

/-!
# Who disturbs an insert

An insert into the pool's ring that runs outside the mutex survives as long as
no other insert starts and no pop deletes the record it has read as the first
one.
-/

/-- The push is about to read the first record of the ring. -/
def Push.starts (push : Push) : Bool :=
  match push.phase with
  | .data _ =>
      true
  | _ =>
      false

/--
The record that the push has read as the first one is that of the first node of
the list.
-/
def Push.relies (push : Push) (h : Heap) : Bool :=
  match push.phase.inserts with
  | some (_, .block first) =>
      Place.block (h.data first) = h.links.next .list
  | _ =>
      false

namespace PoolSystem

/--
No insert starts while another one is under way, and no pop deletes the record
that an insert has read as the first one.
-/
def Undisturbed (s : PoolSystem) : Step → Prop
  | .assign thread =>
      (s.pushOf thread).any Push.starts = true →
        ∀ other ∈ s.pushes, other.phase.inserts = none
  | .pop =>
      ∀ push ∈ s.pushes, push.relies s.heap = false
  | .resume =>
      ∀ push ∈ s.pushes, push.relies s.heap = false
  | _ =>
      True

instance (s : PoolSystem) :
    (taken : Step) → Decidable (s.Undisturbed taken)
  | .assign thread =>
      inferInstanceAs
        (Decidable
          ((s.pushOf thread).any Push.starts = true →
            ∀ other ∈ s.pushes, other.phase.inserts = none))
  | .pop =>
      inferInstanceAs
        (Decidable (∀ push ∈ s.pushes, push.relies s.heap = false))
  | .resume =>
      inferInstanceAs
        (Decidable (∀ push ∈ s.pushes, push.relies s.heap = false))
  | .push .. =>
      inferInstanceAs (Decidable True)
  | .record .. =>
      inferInstanceAs (Decidable True)
  | .append _ =>
      inferInstanceAs (Decidable True)
  | .wake =>
      inferInstanceAs (Decidable True)

variable {b : QueueBlocks}
variable {records nodes : List Nat}
variable {active : Option Push}
variable {s next : PoolSystem}
variable {push : Push}

namespace Sound

/-- Where the worker is plays no part in the invariant. -/
theorem setConsumer
    (sound : Sound b records nodes active s)
    (consumer : Consumer) :
    Sound b records nodes active { s with consumer := consumer } where
  shape := by
    have shape := sound.shape
    cases active <;> exact shape
  only := sound.only
  inserting := by
    intro push isActive
    obtain ⟨record, rest, inserting⟩ := sound.inserting push isActive
    exact ⟨record, rest, inserting.member, inserting.inserts,
      inserting.first, inserting.data, inserting.unread⟩
  prepared := sound.prepared
  threads := sound.threads

/-- A place outside the pool's ring is none that the insert writes. -/
theorem outside_insert
    {record : Nat}
    {rest : List Nat}
    {place : Place}
    (inserting : Inserting records s push record rest)
    (outside : place ∉ Place.cleanup :: records.map Place.block) :
    place ≠ .cleanup ∧
      place ≠ .block record ∧
      place ≠ (rest.map Place.block).headD .cleanup := by
  rw [inserting.first] at outside
  simp only [List.map_cons, List.mem_cons, not_or] at outside
  refine ⟨outside.1, outside.2.1, ?_⟩
  rintro rfl
  cases rest with
  | nil =>
      exact outside.1 rfl
  | cons first later =>
      exact outside.2.2 (List.mem_cons_self ..)

/-- Places of the list are outside the pool's ring. -/
theorem list_outside
    {place : Place}
    (sound : Sound b records nodes active s)
    (member : place ∈ Place.list :: nodes.map Place.block) :
    place ∉ Place.cleanup :: records.map Place.block :=
  fun inPool => places_apart sound.shape.apart place inPool member

/-- No insert touches the queue's list. -/
theorem list (sound : Sound b records nodes active s) :
    Ring s.heap.links .list (nodes.map Place.block) := by
  have ring := sound.shape.list
  cases active with
  | none =>
      exact ring
  | some push =>
      obtain ⟨record, rest, inserting⟩ := sound.inserting push rfl
      apply ring.congr
      · intro query member
        rcases outside_insert inserting (sound.list_outside member) with
          ⟨notHead, notRecord, -⟩
        exact (Phase.finish_next inserting.inserts notHead notRecord).symm
      · intro query member
        rcases outside_insert inserting (sound.list_outside member) with
          ⟨-, notRecord, notNext⟩
        exact (Phase.finish_prev inserting.inserts notNext notRecord).symm

/-- Adding a node to the list commutes with finishing an insert. -/
theorem completed_pushLocked
    {node : Nat}
    (sound : Sound b records nodes active s)
    (notRecord : node ∉ records) :
    { s with heap := pushLocked node s.heap }.completed active =
      pushLocked node (s.completed active) := by
  cases active with
  | none =>
      rfl
  | some push =>
      obtain ⟨record, rest, inserting⟩ := sound.inserting push rfl
      have newOutside :
          Place.block node ∉ Place.cleanup :: records.map Place.block :=
        block_notMem (by simp) notRecord
      have headOutside := sound.list_outside (List.mem_cons_self ..)
      have prevOutside := sound.list_outside sound.list.prev_head_mem
      have new := outside_insert inserting newOutside
      have head := outside_insert inserting headOutside
      have prev := outside_insert inserting prevOutside
      have commutes :=
        Phase.finish_addTail inserting.inserts new.1 new.2.2 new.2.1
          head.2.2 head.2.1 prev.1 prev.2.1
      exact congrArg (fun links => { s.heap with links := links }) commutes

/-- A push puts its node into the list. -/
theorem append
    (sound : Sound b records nodes active s)
    (member : push ∈ s.pushes)
    (phase : push.phase = .element)
    (consumer : Consumer) :
    Sound b records (nodes ++ [push.node]) active
      { heap := pushLocked push.node s.heap
        pushes := s.pushes.erase push
        consumer := consumer } where
  shape := by
    have whole := sound.split member
    rw [Push.pending, Push.loose, phase] at whole
    have notRecord : push.node ∉ records := by
      intro inRecords
      exact (List.nodup_append.mp whole.linked_nodup).2.2 push.node inRecords
        push.node (by simp) rfl
    have commutes := sound.completed_pushLocked notRecord
    have appended := QueueHeap.append whole
    rw [← commutes] at appended
    cases active <;> exact appended
  only := by
    intro other inRest inside
    exact sound.only other (List.mem_of_mem_erase inRest) inside
  inserting := by
    intro other isActive
    obtain ⟨record, rest, inserting⟩ := sound.inserting other isActive
    have different : other ≠ push := by
      rintro rfl
      have inserts := inserting.inserts
      rw [phase] at inserts
      cases inserts
    refine ⟨record, rest,
      (List.mem_erase_of_ne different).mpr inserting.member,
      inserting.inserts, inserting.first, inserting.data, ?_⟩
    have notNode : Place.cleanup ≠ .block push.node := by simp
    have notPrev : Place.cleanup ≠ s.heap.links.prev .list := by
      intro same
      have outside := sound.list_outside sound.list.prev_head_mem
      rw [← same] at outside
      exact outside (List.mem_cons_self ..)
    refine (stkListAddTail_next ..).trans ?_
    rw [if_neg notPrev, if_neg notNode]
    exact inserting.unread
  prepared := by
    intro other inRest
    exact sound.prepared other (List.mem_of_mem_erase inRest)
  threads := by
    have distinct := sound.advanced_threads member push.phase s.heap
    exact (List.nodup_cons.mp distinct).2

/-- A pop while no insert is under way. -/
theorem pop_alone
    {node : Nat}
    (sound : Sound b records (node :: nodes) none s) :
    ∃ records' record,
      popEntry s.heap =
          .taken node (s.heap.element node) (s.heap.popped node record) ∧
        Sound b records' nodes none
          { s with heap := s.heap.popped node record } := by
  obtain ⟨left, record, right, -, -, -, popped, shape⟩ := sound.shape.pop
  refine ⟨left ++ right, record, popped, shape, sound.only, ?_, ?_,
    sound.threads⟩
  · intro push isActive
    cases isActive
  · intro push member
    rcases Heap.popped_fields node record s.heap with
      ⟨handler, data, -⟩
    apply (sound.prepared push member).congr
    · exact fun address _ => congrFun handler address
    · exact fun address _ => congrFun data address

/-- Taking the first node out of the list commutes with finishing an insert. -/
theorem finish_unlist
    {node record : Nat}
    {rest : List Nat}
    (sound : Sound b records (node :: nodes) active s)
    (inserting : Inserting records s push record rest) :
    push.phase.finish (stkListDel (.block node) s.heap.links) =
      stkListDel (.block node) (push.phase.finish s.heap.links) := by
  have ring : Ring s.heap.links .list
      ([] ++ Place.block node :: nodes.map Place.block) := sound.list
  rcases ring.neighbours_mem with ⟨prevMember, nextMember⟩
  have prevListed :
      s.heap.links.prev (.block node) ∈
        Place.list :: (node :: nodes).map Place.block := by
    rw [List.mem_singleton.mp prevMember]
    exact List.mem_cons_self ..
  have nextListed :
      s.heap.links.next (.block node) ∈
        Place.list :: (node :: nodes).map Place.block := by
    simp only [List.mem_append, List.mem_singleton] at nextMember
    simp only [List.map_cons, List.mem_cons]
    tauto
  have nodeListed :
      Place.block node ∈ Place.list :: (node :: nodes).map Place.block := by
    simp
  have entry := outside_insert inserting (sound.list_outside nodeListed)
  have prev := outside_insert inserting (sound.list_outside prevListed)
  have following := outside_insert inserting (sound.list_outside nextListed)
  exact Phase.finish_del inserting.inserts entry.1 entry.2.2 entry.2.1
    prev.1 prev.2.1 following.2.2 following.2.1

/-- Behind the record of an insert, finishing it changes no `next`. -/
theorem follows_behind
    {record : Nat}
    {place : Place}
    {rest : List Nat}
    {links : Links Place}
    {phase : Phase}
    (inside : phase.inserts = some (record, place))
    (outside : record ∉ rest)
    (linked :
      (rest.map Place.block ++ [Place.cleanup]).IsChain
        (fun itr next => (phase.finish links).next itr = next)) :
    (rest.map Place.block ++ [Place.cleanup]).IsChain
      (fun itr next => links.next itr = next) := by
  induction rest with
  | nil =>
      exact .singleton _
  | cons first later inductionHypothesis =>
      have notRecord : Place.block first ≠ .block record := by
        rintro same
        cases same
        exact outside (List.mem_cons_self ..)
      have same :
          (phase.finish links).next (.block first) =
            links.next (.block first) :=
        Phase.finish_next inside (by simp) notRecord
      have tail :=
        inductionHypothesis
          (fun member => outside (List.mem_cons_of_mem _ member))
          linked.tail
      cases later with
      | nil =>
          exact List.isChain_cons_cons.mpr
            ⟨same.symm.trans (List.isChain_cons_cons.mp linked).1, tail⟩
      | cons second others =>
          exact List.isChain_cons_cons.mpr
            ⟨same.symm.trans (List.isChain_cons_cons.mp linked).1, tail⟩

/-- The shape in the middle of a pop. -/
theorem unlist
    {node record : Nat}
    {rest : List Nat}
    (sound : Sound b records (node :: nodes) (some push) s)
    (inserting : Inserting records s push record rest) :
    QueueHeap b
      { s.heap.unlisted node with
        links := push.phase.finish (s.heap.unlisted node).links }
      records nodes (node :: s.pushes.flatMap Push.pending)
      (s.pushes.flatMap Push.loose) := by
  have shape := sound.shape.unlistFirst
  rw [completed, Heap.unlisted, ← sound.finish_unlist inserting] at shape
  exact shape

/-- The record of the popped node stands behind the first one. -/
theorem record_behind
    {node record : Nat}
    {rest : List Nat}
    (sound : Sound b records (node :: nodes) (some push) s)
    (inserting : Inserting records s push record rest)
    (spares : ∀ first, rest.head? = some first → s.heap.data first ≠ node) :
    ∃ first left taken right,
      rest = first :: (left ++ taken :: right) ∧
        s.heap.data taken = node ∧
        ∀ other ∈ first :: left, s.heap.data other ≠ node := by
  have shape := sound.unlist inserting
  obtain ⟨before, taken, right, split, dataOf, notBefore⟩ :=
    shape.record_of (List.mem_append_right _ (List.mem_cons_self ..))
  have notOwn : s.heap.data record ≠ node := by
    intro same
    have pending : push.node ∈ s.pushes.flatMap Push.pending := by
      apply List.mem_flatMap.mpr
      refine ⟨push, inserting.member, ?_⟩
      rw [(inside_blocks inserting.inserts push).1]
      exact List.mem_singleton_self _
    rw [← inserting.data, same] at pending
    have distinct := (List.nodup_cons.mp shape.owners_nodup).2
    have behind := (List.nodup_append.mp distinct).2.1
    exact (List.nodup_cons.mp behind).1 pending
  rw [inserting.first] at split
  cases before with
  | nil =>
      cases split
      exact absurd dataOf notOwn
  | cons own others =>
      cases split
      cases others with
      | nil =>
          exact absurd dataOf (spares taken rfl)
      | cons first left =>
          exact ⟨first, left, taken, right, rfl, dataOf,
            fun other member =>
              notBefore other (List.mem_cons_of_mem _ member)⟩

/-- The pool's ring is searched as if no insert were under way. -/
theorem follows
    {node record first : Nat}
    {rest : List Nat}
    (sound : Sound b records (node :: nodes) (some push) s)
    (inserting : Inserting records s push record (first :: rest)) :
    (s.heap.unlisted node).links.Visits .cleanup
      ((first :: rest).map Place.block) := by
  have shape := sound.unlist inserting
  have chain := Ring.visits shape.cleanup
  have distinct := (List.nodup_append.mp shape.linked_nodup).1
  rw [inserting.first] at chain distinct
  apply List.isChain_cons_cons.mpr
  constructor
  · have ring : Ring s.heap.links .list
        ([] ++ Place.block node :: nodes.map Place.block) := sound.list
    have notPrev : Place.cleanup ≠ s.heap.links.prev (.block node) := by
      rw [List.mem_singleton.mp ring.neighbours_mem.1]
      simp
    refine (stkListDel_next ..).trans ?_
    rw [if_neg notPrev]
    exact inserting.unread
  · exact follows_behind inserting.inserts (List.nodup_cons.mp distinct).1
      (List.IsChain.tail (List.IsChain.tail chain))

/-- Taking a record out commutes with finishing an insert in front of it. -/
theorem finish_withoutRecord
    {record first taken : Nat}
    {left right : List Nat}
    {links : Links Place}
    {phase : Phase}
    (inside : phase.inserts = some (record, .block first))
    (ring :
      Ring (phase.finish links) .cleanup
        ((record :: first :: (left ++ taken :: right)).map Place.block)) :
    Place.cleanup ≠ links.prev (.block taken) ∧
      phase.finish (stkListDel (.block taken) links) =
        stkListDel (.block taken) (phase.finish links) := by
  have distinct : (record :: first :: (left ++ taken :: right)).Nodup :=
    List.Nodup.of_map Place.block (List.nodup_cons.mp ring.nodup).2
  have marked : Ring (phase.finish links) .cleanup
      ([Place.block record] ++ (first :: left).map Place.block ++
        Place.block taken :: right.map Place.block) := by
    simpa using ring
  have prevMember := marked.prev_mem (by simp)
  have nextMember := marked.neighbours_mem.2
  have notFirst : taken ≠ first := by grind
  have notRecord : taken ≠ record := by grind
  have prev :
      (phase.finish links).prev (.block taken) =
        links.prev (.block taken) :=
    Phase.finish_prev inside (by simp [notFirst]) (by simp [notRecord])
  have following :
      (phase.finish links).next (.block taken) =
        links.next (.block taken) :=
    Phase.finish_next inside (by simp) (by simp [notRecord])
  rw [prev] at prevMember
  rw [following] at nextMember
  obtain ⟨before, inLeft, prevIs⟩ := List.mem_map.mp prevMember
  have beforeNotRecord : before ≠ record := by grind
  rw [← prevIs]
  refine ⟨by simp, ?_⟩
  apply Phase.finish_del inside
  · simp
  · simp [notFirst]
  · simp [notRecord]
  · simp [← prevIs]
  · simp [← prevIs, beforeNotRecord]
  · intro same
    rw [same] at nextMember
    simp at nextMember
    grind
  · intro same
    rw [same] at nextMember
    simp at nextMember
    grind

/-- A pop while the insert of another thread is under way. -/
theorem pop_during
    {node record : Nat}
    {rest : List Nat}
    (sound : Sound b records (node :: nodes) (some push) s)
    (inserting : Inserting records s push record rest)
    (spares : ∀ first, rest.head? = some first → s.heap.data first ≠ node) :
    ∃ records' taken,
      popEntry s.heap =
          .taken node (s.heap.element node) (s.heap.popped node taken) ∧
        Sound b records' nodes (some push)
          { s with heap := s.heap.popped node taken } := by
  obtain ⟨first, left, taken, right, restEq, dataOf, notBefore⟩ :=
    sound.record_behind inserting spares
  subst restEq
  have shape := sound.unlist inserting
  have chain := sound.follows inserting
  have firstEq := inserting.first
  subst firstEq
  have inside : push.phase.inserts = some (record, .block first) :=
    inserting.inserts
  rcases finish_withoutRecord inside shape.cleanup with
    ⟨notPrev, commutes⟩
  have handlerOf : s.heap.handler taken = .free :=
    shape.handlers taken (by simp)
  have enough : (first :: left).length ≤ s.heap.blocks.length := by
    have count := shape.blocks.length_eq
    simp only [Heap.unlisted, List.length_cons, List.length_append] at count ⊢
    omega
  rw [← List.cons_append (a := first)] at chain
  have found :
      stkPoolCleanupDel node (s.heap.unlisted node) =
        some ((s.heap.unlisted node).withoutRecord taken) :=
    stkPoolCleanupDel_found chain dataOf notBefore enough
  rcases Heap.popped_fields node taken s.heap with ⟨handler, data, -⟩
  have links :
      (s.heap.popped node taken).links =
        stkListDel (.block taken) (s.heap.unlisted node).links :=
    Heap.withoutRecord_links taken _
  refine ⟨record :: first :: (left ++ right), taken,
    popEntry_taken sound.list found, ?_, sound.only, ?_, ?_, sound.threads⟩
  · rw [← List.cons_append (a := first),
      ← List.cons_append (a := record)] at shape
    have smaller := shape.withoutRecord dataOf
    rw [Heap.withoutRecord_free (by exact handlerOf)] at smaller
    simp only [completed, Heap.popped]
    rw [Heap.withoutRecord_free (by exact handlerOf)]
    simp only [commutes]
    exact smaller
  · intro other isActive
    cases isActive
    refine ⟨record, first :: (left ++ right), inserting.member, inside, rfl,
      (congrFun data record).trans inserting.data, ?_⟩
    rw [links, stkListDel_next, if_neg notPrev]
    exact (List.isChain_cons_cons.mp chain).1
  · intro other member
    apply (sound.prepared other member).congr
    · exact fun address _ => congrFun handler address
    · exact fun address _ => congrFun data address

end Sound

namespace Sound

/-- The worker takes the first node, if the list has one. -/
theorem pop
    (sound : Sound b records nodes active s)
    (undisturbed : ∀ push ∈ s.pushes, push.relies s.heap = false) :
    ∃ records' nodes',
      Sound b records' nodes' active (s.afterPop (popEntry s.heap)) := by
  cases nodes with
  | nil =>
      have fails : popEntry s.heap = .fails := by
        rw [popEntry, stkListPopEntry_nil sound.list]
      rw [fails]
      exact ⟨records, [], sound.setConsumer .lost⟩
  | cons node rest =>
      cases active with
      | none =>
          obtain ⟨records', taken, popped, kept⟩ := sound.pop_alone
          rw [popped]
          exact ⟨records', rest, kept.setConsumer .outside⟩
      | some push =>
          obtain ⟨record, behind, inserting⟩ := sound.inserting push rfl
          have spares :
              ∀ first, behind.head? = some first →
                s.heap.data first ≠ node := by
            intro first isFirst same
            have relies := undisturbed push inserting.member
            have listed : s.heap.links.next .list = .block node :=
              sound.list.next_head
            obtain ⟨later, rfl⟩ := List.head?_eq_some_iff.mp isFirst
            rw [Push.relies, inserting.inserts] at relies
            simp [listed, same] at relies
          obtain ⟨records', taken, popped, kept⟩ :=
            sound.pop_during inserting spares
          rw [popped]
          exact ⟨records', rest, kept.setConsumer .outside⟩

/-- The next assignment of a push. -/
theorem assign
    {phase : Phase}
    {heap : Heap}
    (sound : Sound b records nodes active s)
    (member : push ∈ s.pushes)
    (alone :
      push.starts = true → ∀ other ∈ s.pushes, other.phase.inserts = none)
    (assigned : push.assign s.heap = some (phase, heap)) :
    ∃ records' active',
      Sound b records' nodes active' (s.advance push phase heap) := by
  unfold Push.assign at assigned
  cases at' : push.phase with
  | p =>
      simp [at'] at assigned
  | cleanup record =>
      simp only [at', Option.some.injEq, Prod.mk.injEq] at assigned
      rcases assigned with ⟨rfl, rfl⟩
      exact ⟨records, active, sound.setHandler member at'⟩
  | handler record =>
      simp only [at', Option.some.injEq, Prod.mk.injEq] at assigned
      rcases assigned with ⟨rfl, rfl⟩
      exact ⟨records, active, sound.setData member at'⟩
  | data record =>
      simp only [at', Option.some.injEq, Prod.mk.injEq] at assigned
      rcases assigned with ⟨rfl, rfl⟩
      have nobody : active = none := by
        cases active with
        | none =>
            rfl
        | some other =>
            obtain ⟨found, rest, inserting⟩ := sound.inserting other rfl
            have outside :=
              alone (by simp [Push.starts, at']) other inserting.member
            rw [inserting.inserts] at outside
            cases outside
      subst nobody
      exact ⟨_, _, sound.start member at'⟩
  | arguments record place =>
      simp only [at', Option.some.injEq, Prod.mk.injEq] at assigned
      rcases assigned with ⟨rfl, rfl⟩
      exact ⟨records, _,
        sound.advance_inside member (by rw [at']; rfl) rfl
          (by rw [at']; rfl) rfl⟩
  | nextPrev record place =>
      simp only [at', Option.some.injEq, Prod.mk.injEq] at assigned
      rcases assigned with ⟨rfl, rfl⟩
      exact ⟨records, _,
        sound.advance_inside member (by rw [at']; rfl) rfl
          (by rw [at']; rfl) rfl⟩
  | newNext record place =>
      simp only [at', Option.some.injEq, Prod.mk.injEq] at assigned
      rcases assigned with ⟨rfl, rfl⟩
      exact ⟨records, _,
        sound.advance_inside member (by rw [at']; rfl) rfl
          (by rw [at']; rfl) rfl⟩
  | newPrev record place =>
      simp only [at', Option.some.injEq, Prod.mk.injEq] at assigned
      rcases assigned with ⟨rfl, rfl⟩
      exact ⟨records, none, sound.complete member at'⟩
  | prevNext =>
      simp only [at', Option.some.injEq, Prod.mk.injEq] at assigned
      rcases assigned with ⟨rfl, rfl⟩
      exact ⟨records, active, sound.setElement member at'⟩
  | element =>
      simp [at'] at assigned

/-- The push of a thread is one of the pushes. -/
theorem mem_of_pushOf
    {thread : Nat}
    (found : s.pushOf thread = some push) :
    push ∈ s.pushes :=
  List.mem_of_find?_eq_some found

/-- A step that disturbs no insert keeps the pool sound. -/
theorem step
    {taken : Step}
    (sound : Sound b records nodes active s)
    (undisturbed : s.Undisturbed taken)
    (steps : s.step taken = some next) :
    ∃ records' nodes' active', Sound b records' nodes' active' next := by
  cases taken with
  | push thread data node =>
      simp only [PoolSystem.step, Option.ite_none_right_eq_some,
        Option.some.injEq] at steps
      rcases steps with ⟨⟨idle, unused⟩, rfl⟩
      exact ⟨_, _, _, sound.call idle unused data⟩
  | record thread cleanup =>
      cases found : s.pushOf thread with
      | none =>
          simp [PoolSystem.step, found] at steps
      | some push =>
          simp only [PoolSystem.step, found, Option.ite_none_right_eq_some,
            Option.some.injEq] at steps
          rcases steps with ⟨⟨phase, unused⟩, rfl⟩
          exact ⟨_, _, _, sound.record (mem_of_pushOf found) phase unused⟩
  | assign thread =>
      cases found : s.pushOf thread with
      | none =>
          simp [PoolSystem.step, found] at steps
      | some push =>
          simp only [PoolSystem.step, found, Option.map_eq_some_iff,
            Prod.exists] at steps
          rcases steps with ⟨phase, heap, assigned, rfl⟩
          have alone :
              push.starts = true →
                ∀ other ∈ s.pushes, other.phase.inserts = none := by
            intro starts
            apply undisturbed
            rw [found]
            exact starts
          obtain ⟨records', active', kept⟩ :=
            sound.assign (mem_of_pushOf found) alone assigned
          exact ⟨records', nodes, active', kept⟩
  | append thread =>
      cases found : s.pushOf thread with
      | none =>
          simp [PoolSystem.step, found] at steps
      | some push =>
          simp only [PoolSystem.step, found, Option.ite_none_right_eq_some,
            Option.some.injEq] at steps
          rcases steps with ⟨phase, rfl⟩
          exact ⟨_, _, _, sound.append (mem_of_pushOf found) phase _⟩
  | pop =>
      simp only [PoolSystem.step, Option.ite_none_right_eq_some,
        Option.some.injEq] at steps
      rcases steps with ⟨-, rfl⟩
      by_cases empty : stkListEmpty .list s.heap.links = true
      · rw [stkAsyncQueuePop, if_pos empty]
        exact ⟨_, _, _, sound.setConsumer .waiting⟩
      · rw [stkAsyncQueuePop, if_neg empty]
        obtain ⟨records', nodes', kept⟩ := sound.pop undisturbed
        exact ⟨records', nodes', active, kept⟩
  | wake =>
      simp only [PoolSystem.step, Option.ite_none_right_eq_some,
        Option.some.injEq] at steps
      rcases steps with ⟨-, rfl⟩
      exact ⟨_, _, _, sound.setConsumer .woken⟩
  | resume =>
      simp only [PoolSystem.step, Option.ite_none_right_eq_some,
        Option.some.injEq] at steps
      rcases steps with ⟨-, rfl⟩
      obtain ⟨records', nodes', kept⟩ := sound.pop undisturbed
      exact ⟨records', nodes', active, kept⟩

end Sound

/--
In every run in which no insert is disturbed, the pool is whole whenever no
thread is inside push or pop.
-/
theorem pool_whole
    {memory : Heap}
    {taken : List Step}
    (run :
      Run (Guarded Undisturbed (Enabled step)) (initial b memory) taken s)
    (quiet : s.Quiet) :
    s.PoolWhole b := by
  obtain ⟨records, nodes, active, sound⟩ :
      ∃ records nodes active, Sound b records nodes active s := by
    apply run.invariant
      (fun s => ∃ records nodes active, Sound b records nodes active s)
    · rintro s taken next ⟨records, nodes, active, sound⟩
        ⟨undisturbed, steps⟩
      exact sound.step undisturbed steps
    · exact ⟨[b.record], [], none, sound_initial b memory⟩
  exact sound.poolWhole quiet

/-- The decidable form of the condition. -/
theorem undisturbed_of_check
    {taken : Step}
    (checked : decide (s.Undisturbed taken) = true) :
    s.Undisturbed taken :=
  of_decide_eq_true checked

/-- A push from its call to the last assignment before the mutex. -/
def pushSteps (thread data node cleanup : Nat) : List Step :=
  .push thread data node :: .record thread cleanup ::
    List.replicate 8 (.assign thread)

/-- A pop takes the first of two nodes in the middle of a third insert. -/
def popDuringInsert : List Step :=
  pushSteps 0 70 4 5 ++ [Step.append 0] ++
    pushSteps 1 80 6 7 ++ [Step.append 1] ++
    [Step.push 2 90 8, .record 2 9, .assign 2, .assign 2, .assign 2, .assign 2,
      .pop, .assign 2, .assign 2, .assign 2, .assign 2, .append 2]

/-- Afterwards all threads are outside and the pool is whole. -/
theorem pool_whole_run :
    ∃ s : PoolSystem,
      (s.Quiet ∧
        s.heap.links.Visits .cleanup ([9, 7, 3].map Place.block)) ∧
      s.PoolWhole firstBlocks := by
  have reached :
      ∃ s : PoolSystem,
        Run (Guarded Undisturbed (Enabled step))
            (initial firstBlocks zeroMemory) popDuringInsert s ∧
          s.Quiet ∧
            s.heap.links.Visits .cleanup ([9, 7, 3].map Place.block) :=
    exec_guarded_reaches undisturbed_of_check _ (by decide +kernel)
  obtain ⟨s, run, quiet, visits⟩ := reached
  exact ⟨s, ⟨quiet, visits⟩, pool_whole run quiet⟩

/-- Two threads read the same first record and insert before it. -/
def twoInserts : List Step :=
  [.push 0 70 4, .push 1 80 5, .record 0 6, .record 1 7,
    .assign 0, .assign 0, .assign 0, .assign 1, .assign 1, .assign 1,
    .assign 0, .assign 0, .assign 0, .assign 0, .assign 0,
    .assign 1, .assign 1, .assign 1, .assign 1, .assign 1,
    .append 0, .append 1]

/-- A pop deletes the record that an insert has read as the first one. -/
def popOfFirst : List Step :=
  pushSteps 0 70 4 5 ++ [Step.append 0] ++
    [Step.push 1 80 6, .record 1 7, .assign 1, .assign 1, .assign 1, .pop,
      .assign 1, .assign 1, .assign 1, .assign 1, .assign 1, .append 1]

/-- A ring with the wrong number of records is not whole. -/
theorem not_poolWhole
    {records nodes : List Nat}
    (cleanup : s.heap.links.Visits .cleanup (records.map Place.block))
    (list : s.heap.links.Visits .list (nodes.map Place.block))
    (wrong : records.length ≠ nodes.length + 1) :
    ¬ s.PoolWhole b := by
  rintro ⟨otherRecords, otherNodes, recordRing, nodeRing, owners⟩
  have sameRecords := Ring.eq_visited recordRing cleanup (by simp)
  have sameNodes := Ring.eq_visited nodeRing list (by simp)
  have recordCount := congrArg List.length sameRecords
  have nodeCount := congrArg List.length sameNodes
  have count := owners.length_eq
  simp only [List.length_map, List.length_cons] at recordCount nodeCount count
  apply wrong
  rw [← recordCount, ← nodeCount, count]

/--
Two overlapping inserts lose a record, and a pop in the middle of an insert
leaves a freed record in the ring.
-/
theorem pool_broken :
    (∃ s : PoolSystem,
      Run (Enabled step) (initial firstBlocks zeroMemory) twoInserts s ∧
        s.Quiet ∧ ¬ s.PoolWhole firstBlocks) ∧
      ∃ s : PoolSystem,
        Run (Enabled step) (initial firstBlocks zeroMemory) popOfFirst s ∧
          s.Quiet ∧ ¬ s.PoolWhole firstBlocks := by
  constructor
  · have reached :
        ∃ s : PoolSystem,
          Run (Enabled step) (initial firstBlocks zeroMemory) twoInserts s ∧
            s.Quiet ∧
              s.heap.links.Visits .cleanup ([7, 3].map Place.block) ∧
                s.heap.links.Visits .list ([4, 5].map Place.block) :=
      exec_reaches _ (by decide +kernel)
    obtain ⟨s, run, quiet, cleanup, list⟩ := reached
    exact ⟨s, run, quiet, not_poolWhole cleanup list (by decide)⟩
  · have reached :
        ∃ s : PoolSystem,
          Run (Enabled step) (initial firstBlocks zeroMemory) popOfFirst s ∧
            s.Quiet ∧
              s.heap.links.Visits .cleanup ([7, 5, 3].map Place.block) ∧
                s.heap.links.Visits .list ([6].map Place.block) :=
      exec_reaches _ (by decide +kernel)
    obtain ⟨s, run, quiet, cleanup, list⟩ := reached
    exact ⟨s, run, quiet, not_poolWhole cleanup list (by decide)⟩

end PoolSystem

end LdapProxy
