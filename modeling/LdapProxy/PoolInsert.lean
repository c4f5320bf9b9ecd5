import LdapProxy.PoolThreads

namespace LdapProxy

open LdapProxy.LinkedRing
open LdapProxy.Transition

/-!
# An insert outside the mutex

The invariant of the pool while one push is inside its insert: with the
assignments made that this push still has to make, the pool's ring has a record
for the queue and for each node that is in the list or on its way to it.
-/

/-- The record and the neighbour of an insert that is under way. -/
def Phase.inserts : Phase → Option (Nat × Place)
  | .arguments record next =>
      some (record, next)
  | .nextPrev record next =>
      some (record, next)
  | .newNext record next =>
      some (record, next)
  | .newPrev record next =>
      some (record, next)
  | _ =>
      none

/-- The assignments that the insert still has to make. -/
def Phase.finish : Phase → Links Place → Links Place
  | .arguments record next, links =>
      links.link (.block record) .cleanup next
  | .nextPrev record next, links =>
      ((links.setNext (.block record) next).setPrev (.block record)
        .cleanup).setNext .cleanup (.block record)
  | .newNext record _, links =>
      (links.setPrev (.block record) .cleanup).setNext .cleanup
        (.block record)
  | .newPrev record _, links =>
      links.setNext .cleanup (.block record)
  | _, links =>
      links

namespace Phase

variable {phase : Phase}
variable {record : Nat}
variable {next query : Place}
variable {links other : Links Place}

/-- Finishing an insert writes `next` of the head and of the record. -/
theorem finish_next
    (inside : phase.inserts = some (record, next))
    (notHead : query ≠ .cleanup)
    (notRecord : query ≠ .block record) :
    (phase.finish links).next query = links.next query := by
  cases phase <;> cases inside <;>
    simp [finish, Links.link_next, Links.setNext_next, notHead, notRecord]

/-- Finishing an insert writes `prev` of the neighbour and of the record. -/
theorem finish_prev
    (inside : phase.inserts = some (record, next))
    (notNext : query ≠ next)
    (notRecord : query ≠ .block record) :
    (phase.finish links).prev query = links.prev query := by
  cases phase <;> cases inside <;>
    simp [finish, Links.link_prev, Links.setPrev_prev, notNext, notRecord]

/-- What finishing makes of a `next` field depends on this field alone. -/
theorem finish_next_congr
    (phase : Phase)
    (same : other.next query = links.next query) :
    (phase.finish other).next query = (phase.finish links).next query := by
  cases phase <;>
    simp [finish, Links.link_next, Links.setNext_next, same]

/-- The same for a `prev` field. -/
theorem finish_prev_congr
    (phase : Phase)
    (same : other.prev query = links.prev query) :
    (phase.finish other).prev query = (phase.finish links).prev query := by
  cases phase <;>
    simp [finish, Links.link_prev, Links.setPrev_prev, same]

/-- Deleting a node far from the insert and finishing it commute. -/
theorem finish_del
    {entry : Place}
    (inside : phase.inserts = some (record, next))
    (notHead : entry ≠ .cleanup)
    (notNext : entry ≠ next)
    (notRecord : entry ≠ .block record)
    (prevNotHead : links.prev entry ≠ .cleanup)
    (prevNotRecord : links.prev entry ≠ .block record)
    (nextNotNext : links.next entry ≠ next)
    (nextNotRecord : links.next entry ≠ .block record) :
    phase.finish (stkListDel entry links) =
      stkListDel entry (phase.finish links) := by
  have prev : (phase.finish links).prev entry = links.prev entry :=
    finish_prev inside notNext notRecord
  have following : (phase.finish links).next entry = links.next entry :=
    finish_next inside notHead notRecord
  ext query
  · have here := stkListDel_next entry query links
    rw [stkListDel_next, prev, following]
    by_cases isPrev : query = links.prev entry
    · rw [if_pos isPrev] at here ⊢
      subst isPrev
      exact (finish_next inside prevNotHead prevNotRecord).trans here
    · rw [if_neg isPrev] at here ⊢
      exact finish_next_congr phase here
  · have here := stkListDel_prev entry query links
    rw [stkListDel_prev, prev, following]
    by_cases isNext : query = links.next entry
    · rw [if_pos isNext] at here ⊢
      subst isNext
      exact (finish_prev inside nextNotNext nextNotRecord).trans here
    · rw [if_neg isNext] at here ⊢
      exact finish_prev_congr phase here

/-- Adding a node to another list and finishing the insert commute. -/
theorem finish_addTail
    {new head : Place}
    (inside : phase.inserts = some (record, next))
    (newNotHead : new ≠ .cleanup)
    (newNotNext : new ≠ next)
    (newNotRecord : new ≠ .block record)
    (headNotNext : head ≠ next)
    (headNotRecord : head ≠ .block record)
    (prevNotHead : links.prev head ≠ .cleanup)
    (prevNotRecord : links.prev head ≠ .block record) :
    phase.finish (stkListAddTail new head links) =
      stkListAddTail new head (phase.finish links) := by
  have prev : (phase.finish links).prev head = links.prev head :=
    finish_prev inside headNotNext headNotRecord
  ext query
  · have here := stkListAddTail_next new head query links
    rw [stkListAddTail_next, prev]
    by_cases isPrev : query = links.prev head
    · rw [if_pos isPrev] at here ⊢
      subst isPrev
      exact (finish_next inside prevNotHead prevNotRecord).trans here
    · rw [if_neg isPrev] at here ⊢
      by_cases isNew : query = new
      · rw [if_pos isNew] at here ⊢
        subst isNew
        exact (finish_next inside newNotHead newNotRecord).trans here
      · rw [if_neg isNew] at here ⊢
        exact finish_next_congr phase here
  · have here := stkListAddTail_prev new head query links
    rw [stkListAddTail_prev, prev]
    by_cases isNew : query = new
    · rw [if_pos isNew] at here ⊢
      subst isNew
      exact (finish_prev inside newNotNext newNotRecord).trans here
    · rw [if_neg isNew] at here ⊢
      by_cases isHead : query = head
      · rw [if_pos isHead] at here ⊢
        subst isHead
        exact (finish_prev inside headNotNext headNotRecord).trans here
      · rw [if_neg isHead] at here ⊢
        exact finish_prev_congr phase here

end Phase

/-- The node of a push whose record is in the ring or being put there. -/
def Push.pending (push : Push) : List Nat :=
  match push.phase with
  | .p =>
      []
  | .cleanup _ =>
      []
  | .handler _ =>
      []
  | .data _ =>
      []
  | _ =>
      [push.node]

/-- The blocks of a push whose record is not in the ring. -/
def Push.loose (push : Push) : List Nat :=
  match push.phase with
  | .p =>
      [push.node]
  | .cleanup record =>
      [record, push.node]
  | .handler record =>
      [record, push.node]
  | .data record =>
      [record, push.node]
  | _ =>
      []

/-- The fields that a push has already set in its record. -/
def Push.Prepared (push : Push) (h : Heap) : Prop :=
  match push.phase with
  | .handler record =>
      h.handler record = .free
  | .data record =>
      h.handler record = .free ∧ h.data record = push.node
  | _ =>
      True

/-- What a push has set depends on its own blocks alone. -/
theorem Push.Prepared.congr
    {push : Push}
    {h other : Heap}
    (prepared : push.Prepared h)
    (handler : ∀ record ∈ push.loose, other.handler record = h.handler record)
    (data : ∀ record ∈ push.loose, other.data record = h.data record) :
    push.Prepared other := by
  unfold Push.Prepared at prepared ⊢
  unfold Push.loose at handler data
  cases phase : push.phase with
  | handler record =>
      simp only [phase] at prepared handler ⊢
      rw [handler record (List.mem_cons_self ..)]
      exact prepared
  | data record =>
      simp only [phase] at prepared handler data ⊢
      rw [handler record (List.mem_cons_self ..),
        data record (List.mem_cons_self ..)]
      exact prepared
  | _ =>
      trivial

namespace PoolSystem

/-- The heap with the insert of a push finished. -/
def completed (s : PoolSystem) (active : Option Push) : Heap :=
  match active with
  | none =>
      s.heap
  | some push =>
      { s.heap with links := push.phase.finish s.heap.links }

/-- What is known of a push whose insert is under way. -/
structure Inserting
    (records : List Nat)
    (s : PoolSystem)
    (push : Push)
    (record : Nat)
    (rest : List Nat) :
    Prop where
  member : push ∈ s.pushes
  inserts :
    push.phase.inserts =
      some (record, (rest.map Place.block).headD .cleanup)
  first : records = record :: rest
  data : s.heap.data record = push.node
  unread :
    s.heap.links.next .cleanup = (rest.map Place.block).headD .cleanup

/-- At most one insert is under way, and finishing it gives a whole pool. -/
structure Sound
    (b : QueueBlocks)
    (records nodes : List Nat)
    (active : Option Push)
    (s : PoolSystem) :
    Prop where
  shape :
    QueueHeap b (s.completed active) records nodes
      (s.pushes.flatMap Push.pending) (s.pushes.flatMap Push.loose)
  only :
    ∀ push ∈ s.pushes, push.phase.inserts ≠ none → active = some push
  inserting :
    ∀ push, active = some push →
      ∃ record rest, Inserting records s push record rest
  prepared : ∀ push ∈ s.pushes, push.Prepared s.heap
  threads : (s.pushes.map Push.thread).Nodup

/-- A new queue is sound. -/
theorem sound_initial (b : QueueBlocks) (memory : Heap) :
    Sound b [b.record] [] none (initial b memory) where
  shape := stkAsyncQueueNew_shape b memory
  only := by
    intro push member
    cases member
  inserting := by
    intro push isActive
    cases isActive
  prepared := by
    intro push member
    cases member
  threads := List.nodup_nil

variable {b : QueueBlocks}
variable {records nodes : List Nat}
variable {active : Option Push}
variable {s next : PoolSystem}
variable {push : Push}

namespace Sound

/-- When all threads are outside, the pool is whole. -/
theorem poolWhole
    (sound : Sound b records nodes active s)
    (quiet : s.Quiet) :
    s.PoolWhole b := by
  have shape := sound.shape
  have nobody : active = none := by
    cases active with
    | none =>
        rfl
    | some push =>
        obtain ⟨record, rest, inserting⟩ := sound.inserting push rfl
        have member := inserting.member
        rw [quiet.1] at member
        cases member
  subst nobody
  have owners := shape.owners
  rw [quiet.1, List.flatMap_nil, List.append_nil] at owners
  exact ⟨records, nodes, shape.cleanup, shape.list, owners⟩

/-- The blocks of one push and those of the others. -/
theorem split
    (sound : Sound b records nodes active s)
    (member : push ∈ s.pushes) :
    QueueHeap b (s.completed active) records nodes
      (push.pending ++ (s.pushes.erase push).flatMap Push.pending)
      (push.loose ++ (s.pushes.erase push).flatMap Push.loose) := by
  have moved := List.perm_cons_erase member
  exact sound.shape.perm (moved.flatMap_right Push.pending)
    (moved.flatMap_right Push.loose)

/-- Pushes are told apart by their threads. -/
theorem advanced_threads
    (sound : Sound b records nodes active s)
    (member : push ∈ s.pushes)
    (phase : Phase)
    (heap : Heap) :
    ((s.advance push phase heap).pushes.map Push.thread).Nodup :=
  ((List.perm_cons_erase member).map Push.thread).nodup_iff.mp sound.threads

/-- The blocks of one push are not those of another. -/
theorem loose_apart
    {other : Push}
    {record : Nat}
    (sound : Sound b records nodes active s)
    (member : push ∈ s.pushes)
    (mine : record ∈ push.loose)
    (inRest : other ∈ s.pushes.erase push) :
    ∀ address ∈ other.loose, address ≠ record := by
  have distinct := (List.nodup_cons.mp (sound.split member).shape_nodup).2
  have looseDistinct := (List.nodup_append.mp distinct).1
  intro address theirs
  have inOthers :
      address ∈ (s.pushes.erase push).flatMap Push.loose :=
    List.mem_flatMap.mpr ⟨other, inRest, theirs⟩
  exact
    ((List.nodup_append.mp looseDistinct).2.2 record mine address
      inOthers).symm

/-- A step of a push before or after its insert. -/
theorem advance_outside
    {phase : Phase}
    {heap : Heap}
    (sound : Sound b records nodes active s)
    (member : push ∈ s.pushes)
    (before : push.phase.inserts = none)
    (after : phase.inserts = none)
    (links : heap.links = s.heap.links)
    (data : ∀ record ∈ records, heap.data record = s.heap.data record)
    (shape :
      QueueHeap b ((s.advance push phase heap).completed active) records
        nodes
        ({ push with phase := phase }.pending ++
          (s.pushes.erase push).flatMap Push.pending)
        ({ push with phase := phase }.loose ++
          (s.pushes.erase push).flatMap Push.loose))
    (own : { push with phase := phase }.Prepared heap)
    (others : ∀ other ∈ s.pushes.erase push, other.Prepared heap) :
    Sound b records nodes active (s.advance push phase heap) where
  shape := shape
  only := by
    intro other inPushes inside
    rcases List.mem_cons.mp inPushes with rfl | inRest
    · exact absurd after inside
    · exact sound.only other (List.mem_of_mem_erase inRest) inside
  inserting := by
    intro other isActive
    obtain ⟨record, rest, inserting⟩ := sound.inserting other isActive
    have different : other ≠ push := by
      rintro rfl
      have inserts := inserting.inserts
      rw [before] at inserts
      cases inserts
    refine ⟨record, rest, ?_, inserting.inserts, inserting.first, ?_, ?_⟩
    · apply List.mem_cons_of_mem
      exact (List.mem_erase_of_ne different).mpr inserting.member
    · refine (data record ?_).trans inserting.data
      rw [inserting.first]
      exact List.mem_cons_self ..
    · exact (congrArg (fun l => Links.next l .cleanup) links).trans
        inserting.unread
  prepared := by
    intro other inPushes
    rcases List.mem_cons.mp inPushes with rfl | inRest
    · exact own
    · exact others other inRest
  threads := sound.advanced_threads member phase heap

/-- A thread calls push. -/
theorem call
    {thread node : Nat}
    (sound : Sound b records nodes active s)
    (idle : s.pushOf thread = none)
    (unused : node ∉ s.heap.blocks)
    (data : Nat) :
    Sound b records nodes active
      { s with
        heap := s.heap.malloc node
        pushes := ⟨thread, data, node, .p⟩ :: s.pushes } where
  shape := by
    have unusedCompleted : node ∉ (s.completed active).blocks := by
      cases active <;> exact unused
    have shape := sound.shape.malloc unusedCompleted
    cases active <;> exact shape
  only := by
    intro push member inside
    rcases List.mem_cons.mp member with rfl | member
    · exact absurd rfl inside
    · exact sound.only push member inside
  inserting := by
    intro push isActive
    obtain ⟨record, rest, inserting⟩ := sound.inserting push isActive
    exact ⟨record, rest, List.mem_cons_of_mem _ inserting.member,
      inserting.inserts, inserting.first, inserting.data, inserting.unread⟩
  prepared := by
    intro push member
    rcases List.mem_cons.mp member with rfl | member
    · trivial
    · exact sound.prepared push member
  threads := by
    refine List.nodup_cons.mpr ⟨?_, sound.threads⟩
    intro member
    obtain ⟨push, inPushes, same⟩ := List.mem_map.mp member
    have other := List.find?_eq_none.mp idle push inPushes
    exact other (decide_eq_true same)

/-- A push allocates its record. -/
theorem record
    {cleanup : Nat}
    (sound : Sound b records nodes active s)
    (member : push ∈ s.pushes)
    (phase : push.phase = .p)
    (unused : cleanup ∉ s.heap.blocks) :
    Sound b records nodes active
      (s.advance push (.cleanup cleanup) (s.heap.malloc cleanup)) := by
  have before : push.phase.inserts = none := by rw [phase]; rfl
  refine sound.advance_outside member before rfl rfl (fun _ _ => rfl)
    ?_ ?_ ?_
  · have unusedCompleted : cleanup ∉ (s.completed active).blocks := by
      cases active <;> exact unused
    have shape := (sound.split member).malloc unusedCompleted
    rw [Push.pending, Push.loose, phase] at shape
    cases active <;> exact shape
  · trivial
  · intro other inRest
    exact sound.prepared other (List.mem_of_mem_erase inRest)

/-- A push sets the handler of its record. -/
theorem setHandler
    {cleanup : Nat}
    (sound : Sound b records nodes active s)
    (member : push ∈ s.pushes)
    (phase : push.phase = .cleanup cleanup) :
    Sound b records nodes active
      (s.advance push (.handler cleanup)
        { s.heap with
          handler := Function.update s.heap.handler cleanup .free }) := by
  have mine : cleanup ∈ push.loose := by simp [Push.loose, phase]
  have whole := sound.split member
  have outside := (whole.loose_outside (List.mem_append_left _ mine)).1
  have before : push.phase.inserts = none := by rw [phase]; rfl
  refine sound.advance_outside member before rfl rfl (fun _ _ => rfl)
    ?_ ?_ ?_
  · have shape := whole.setHandler outside .free
    rw [Push.pending, Push.loose, phase] at shape
    cases active <;> exact shape
  · exact Function.update_self ..
  · intro other inRest
    apply (sound.prepared other (List.mem_of_mem_erase inRest)).congr
    · intro address theirs
      exact Function.update_of_ne
        (sound.loose_apart member mine inRest address theirs) ..
    · exact fun _ _ => rfl

/-- A push sets the data of its record. -/
theorem setData
    {cleanup : Nat}
    (sound : Sound b records nodes active s)
    (member : push ∈ s.pushes)
    (phase : push.phase = .handler cleanup) :
    Sound b records nodes active
      (s.advance push (.data cleanup)
        { s.heap with
          data := Function.update s.heap.data cleanup push.node }) := by
  have mine : cleanup ∈ push.loose := by simp [Push.loose, phase]
  have whole := sound.split member
  have outside := (whole.loose_outside (List.mem_append_left _ mine)).1
  have handlerOf : s.heap.handler cleanup = .free := by
    have prepared := sound.prepared push member
    rw [Push.Prepared, phase] at prepared
    exact prepared
  have before : push.phase.inserts = none := by rw [phase]; rfl
  refine sound.advance_outside member before rfl rfl ?_ ?_ ?_ ?_
  · intro record inRecords
    exact Function.update_of_ne (ne_of_mem_of_not_mem inRecords outside) ..
  · have shape := whole.setData outside push.node
    rw [Push.pending, Push.loose, phase] at shape
    cases active <;> exact shape
  · exact ⟨handlerOf, Function.update_self ..⟩
  · intro other inRest
    apply (sound.prepared other (List.mem_of_mem_erase inRest)).congr
    · exact fun _ _ => rfl
    · intro address theirs
      exact Function.update_of_ne
        (sound.loose_apart member mine inRest address theirs) ..

/-- A push stores the data in its node. -/
theorem setElement
    (sound : Sound b records nodes active s)
    (member : push ∈ s.pushes)
    (phase : push.phase = .prevNext) :
    Sound b records nodes active
      (s.advance push .element
        { s.heap with
          element :=
            Function.update s.heap.element push.node push.data }) := by
  have before : push.phase.inserts = none := by rw [phase]; rfl
  refine sound.advance_outside member before rfl rfl (fun _ _ => rfl)
    ?_ ?_ ?_
  · have shape :=
      (sound.split member).setElement
        (Function.update s.heap.element push.node push.data)
    rw [Push.pending, Push.loose, phase] at shape
    cases active <;> exact shape
  · trivial
  · intro other inRest
    exact sound.prepared other (List.mem_of_mem_erase inRest)

/-- A push reads the first record and starts its insert. -/
theorem start
    {record : Nat}
    (sound : Sound b records nodes none s)
    (member : push ∈ s.pushes)
    (phase : push.phase = .data record) :
    Sound b (record :: records) nodes
      (some
        { push with
          phase := .arguments record (s.heap.links.next .cleanup) })
      (s.advance push (.arguments record (s.heap.links.next .cleanup))
        s.heap) := by
  have whole := sound.split member
  have prepared := sound.prepared push member
  have first : s.heap.links.next .cleanup =
      (records.map Place.block).headD .cleanup :=
    Ring.next_head whole.cleanup
  rw [Push.pending, Push.loose, phase] at whole
  rw [Push.Prepared, phase] at prepared
  constructor
  · have shape := whole.linkRecord prepared.2 prepared.1
    exact shape
  · intro other inPushes inside
    rcases List.mem_cons.mp inPushes with rfl | inRest
    · rfl
    · have nobody :=
        sound.only other (List.mem_of_mem_erase inRest) inside
      cases nobody
  · intro other isActive
    cases isActive
    refine ⟨record, records, List.mem_cons_self .., ?_, rfl, prepared.2,
      first⟩
    rw [← first]
    rfl
  · intro other inPushes
    rcases List.mem_cons.mp inPushes with rfl | inRest
    · trivial
    · exact sound.prepared other (List.mem_of_mem_erase inRest)
  · exact sound.advanced_threads member _ _

/-- During its insert a push has its node pending and no loose block. -/
theorem inside_blocks
    {phase : Phase}
    {record : Nat}
    {place : Place}
    (inside : phase.inserts = some (record, place))
    (push : Push) :
    { push with phase := phase }.pending = [push.node] ∧
      { push with phase := phase }.loose = [] := by
  cases phase <;> first | exact ⟨rfl, rfl⟩ | cases inside

/-- An assignment of an insert that is not the last one. -/
theorem advance_inside
    {phase : Phase}
    {record : Nat}
    {place : Place}
    {links : Links Place}
    (sound : Sound b records nodes active s)
    (member : push ∈ s.pushes)
    (before : push.phase.inserts = some (record, place))
    (after : phase.inserts = some (record, place))
    (same : phase.finish links = push.phase.finish s.heap.links)
    (unread : links.next .cleanup = s.heap.links.next .cleanup) :
    Sound b records nodes (some { push with phase := phase })
      (s.advance push phase { s.heap with links := links }) := by
  have isActive : active = some push := by
    apply sound.only push member
    rw [before]
    simp
  have whole := sound.split member
  obtain ⟨found, rest, inserting⟩ := sound.inserting push isActive
  have inserts := inserting.inserts
  rw [before] at inserts
  cases inserts
  subst isActive
  constructor
  · have blocks := inside_blocks before push
    have newBlocks := inside_blocks after push
    rw [blocks.1, blocks.2, completed, ← same] at whole
    rw [advance, List.flatMap_cons, List.flatMap_cons, newBlocks.1,
      newBlocks.2]
    exact whole
  · intro other inPushes inside
    rcases List.mem_cons.mp inPushes with rfl | inRest
    · rfl
    · have isPush :=
        sound.only other (List.mem_of_mem_erase inRest) inside
      cases isPush
      have distinct : s.pushes.Nodup :=
        List.Nodup.of_map Push.thread sound.threads
      exact absurd inRest distinct.not_mem_erase
  · intro other isActive
    cases isActive
    exact ⟨record, rest, List.mem_cons_self .., after, inserting.first,
      inserting.data, unread.trans inserting.unread⟩
  · intro other inPushes
    rcases List.mem_cons.mp inPushes with rfl | inRest
    · cases phase <;> trivial
    · exact sound.prepared other (List.mem_of_mem_erase inRest)
  · exact sound.advanced_threads member _ _

/-- The last assignment of an insert. -/
theorem complete
    {record : Nat}
    {place : Place}
    (sound : Sound b records nodes active s)
    (member : push ∈ s.pushes)
    (phase : push.phase = .newPrev record place) :
    Sound b records nodes none
      (s.advance push .prevNext
        { s.heap with
          links := s.heap.links.setNext .cleanup (.block record) }) := by
  have isActive : active = some push := by
    apply sound.only push member
    rw [phase]
    simp [Phase.inserts]
  have whole := sound.split member
  subst isActive
  constructor
  · rw [Push.pending, Push.loose, completed, phase] at whole
    exact whole
  · intro other inPushes inside
    rcases List.mem_cons.mp inPushes with rfl | inRest
    · exact absurd rfl inside
    · have isPush :=
        sound.only other (List.mem_of_mem_erase inRest) inside
      cases isPush
      have distinct : s.pushes.Nodup :=
        List.Nodup.of_map Push.thread sound.threads
      exact absurd inRest distinct.not_mem_erase
  · intro other isActive
    cases isActive
  · intro other inPushes
    rcases List.mem_cons.mp inPushes with rfl | inRest
    · trivial
    · exact sound.prepared other (List.mem_of_mem_erase inRest)
  · exact sound.advanced_threads member _ _

end Sound

end PoolSystem

end LdapProxy
