import LdapProxy.SlotPool
import LdapProxy.TransitionRun

namespace LdapProxy

open LdapProxy.NullChain
open LdapProxy.Transition

/-!
# Connection slots in several threads

`lp_get_connection` and `lp_free_connection` each have one section under
`__conn_mutex`; before and after it a call works on the slot that it holds.
A slot is held from the section that takes it off the chain to the one that
links it again.  Any thread may use, pass on or free a slot that it holds.
-/

/-- What the holder of a slot is doing. -/
inductive Holding.Phase where
  /-- `lp_get_connection` has left the mutex and not yet stored `c->fd`. -/
  | taken (fd : Int)
  | used
  /-- `lp_free_connection` has emptied the lists. -/
  | discarded
  /-- `lp_free_connection` has zeroed the events and the slot. -/
  | wiped (saved : SavedSlot)
  /-- `lp_free_connection` is about to enter the mutex. -/
  | restored
  deriving Repr, DecidableEq

/-- A thread that holds a slot. -/
structure Holding where
  thread : Nat
  slot : Nat
  phase : Holding.Phase
  deriving Repr, DecidableEq

/-- What is known of a slot that is held. -/
def Holding.Phase.Keeps (given c : Slot) : Holding.Phase → Prop
  | .taken _ =>
      Slot.Clean given c
  | .used =>
      Slot.Home given c
  | .discarded =>
      Slot.Home given c
  | .wiped saved =>
      saved = given.saved ∧ c = Slot.zero
  | .restored =>
      Slot.Clean given c

/--
The pool and its holders.  The history variable `returned` lists the slots that
calls of `lp_get_connection` have returned, with their contents at that time.
-/
structure SlotSystem where
  pool : SlotPool
  holdings : List Holding
  returned : List (Nat × Slot)

namespace SlotSystem

/-- The pool before any call. -/
def initial (pool : SlotPool) : SlotSystem where
  pool := pool
  holdings := []
  returned := []

/-- The slots that are held. -/
def held (s : SlotSystem) : List Nat :=
  s.holdings.map Holding.slot

/-- What a thread does next. -/
inductive Step where
  /-- `lp_get_connection` under the mutex. -/
  | get (thread : Nat) (fd : Int)
  /-- `lp_get_connection` stores `c->fd` and returns. -/
  | store (thread slot : Nat) (fd : Int)
  /-- The holder writes the fields and the events of its slot. -/
  | use (thread slot : Nat) (contents : Slot) (rev wev : Option Nat)
  /-- The holder passes its slot on. -/
  | pass (thread slot other : Nat)
  /-- `lp_free_connection` discards the lists. -/
  | discard (thread slot : Nat)
  /-- `lp_free_connection` saves three fields and zeroes the slot. -/
  | wipe (thread slot : Nat)
  /-- `lp_free_connection` puts them back and initialises the lists. -/
  | restore (thread slot : Nat) (saved : SavedSlot)
  /-- `lp_free_connection` under the mutex. -/
  | link (thread slot : Nat)

/-- A holder goes on; the pool is changed on the way. -/
def advance
    (s : SlotSystem)
    (before after : Holding)
    (pool : SlotPool) :
    SlotSystem :=
  { s with
    pool := pool
    holdings := after :: s.holdings.erase before }

/--
What a holder may write: any field but the events and the index, and the
contents of its events.
-/
def usePool
    (p : SlotPool)
    (slot : Nat)
    (contents : Slot)
    (rev wev : Option Nat) :
    SlotPool :=
  { p.set slot
      { contents with
        rev := (p.connections slot).rev
        wev := (p.connections slot).wev
        idx := (p.connections slot).idx } with
    readEvents :=
      match (p.connections slot).rev with
      | some event =>
          Function.update p.readEvents event rev
      | none =>
          p.readEvents
    writeEvents :=
      match (p.connections slot).wev with
      | some event =>
          Function.update p.writeEvents event wev
      | none =>
          p.writeEvents }

/-- One step. -/
def step (s : SlotSystem) : Step → Option SlotSystem
  | .get thread fd =>
      match s.pool.getLocked with
      | (none, _) =>
          some s
      | (some slot, pool) =>
          some
            { s with
              pool := pool
              holdings := ⟨thread, slot, .taken fd⟩ :: s.holdings }
  | .store thread slot fd =>
      if ⟨thread, slot, .taken fd⟩ ∈ s.holdings then
        some
          { s.advance ⟨thread, slot, .taken fd⟩ ⟨thread, slot, .used⟩
              (s.pool.set slot { s.pool.connections slot with fd := fd }) with
            returned :=
              s.returned ++
                [(slot, { s.pool.connections slot with fd := fd })] }
      else
        none
  | .use thread slot contents rev wev =>
      if ⟨thread, slot, .used⟩ ∈ s.holdings then
        some { s with pool := usePool s.pool slot contents rev wev }
      else
        none
  | .pass thread slot other =>
      if ⟨thread, slot, .used⟩ ∈ s.holdings then
        some (s.advance ⟨thread, slot, .used⟩ ⟨other, slot, .used⟩ s.pool)
      else
        none
  | .discard thread slot =>
      if ⟨thread, slot, .used⟩ ∈ s.holdings then
        match (s.pool.connections slot).discarded with
        | some c =>
            some
              (s.advance ⟨thread, slot, .used⟩ ⟨thread, slot, .discarded⟩
                (s.pool.set slot c))
        | none =>
            none
      else
        none
  | .wipe thread slot =>
      if ⟨thread, slot, .discarded⟩ ∈ s.holdings then
        match s.pool.wipe slot with
        | some pool =>
            some
              (s.advance ⟨thread, slot, .discarded⟩
                ⟨thread, slot, .wiped (s.pool.connections slot).saved⟩ pool)
        | none =>
            none
      else
        none
  | .restore thread slot saved =>
      if ⟨thread, slot, .wiped saved⟩ ∈ s.holdings then
        some
          (s.advance ⟨thread, slot, .wiped saved⟩ ⟨thread, slot, .restored⟩
            (s.pool.set slot ((s.pool.connections slot).restored saved)))
      else
        none
  | .link thread slot =>
      if ⟨thread, slot, .restored⟩ ∈ s.holdings then
        some
          { s with
            pool := s.pool.freeLocked slot
            holdings := s.holdings.erase ⟨thread, slot, .restored⟩ }
      else
        none

/--
Every slot is on the chain or held once, the counters follow, and the slots on
the chain are clean.
-/
structure Sound
    (count : Nat)
    (given : Nat → Slot)
    (chain : List Nat)
    (s : SlotSystem) :
    Prop where
  chained : Chain s.pool.data s.pool.freeConnections chain
  shared : (chain ++ s.held).Perm (List.range count)
  freeN : s.pool.freeConnectionsN = chain.length
  heldN : s.pool.connectionsN = s.held.length
  clean : ∀ slot ∈ chain, Slot.Clean (given slot) (s.pool.connections slot)
  keeps :
    ∀ holding ∈ s.holdings,
      holding.phase.Keeps (given holding.slot)
        (s.pool.connections holding.slot)
  returned :
    ∀ slot contents,
      (slot, contents) ∈ s.returned → Slot.Clean (given slot) contents

variable {count slot : Nat}
variable {given : Nat → Slot}
variable {chain : List Nat}
variable {s next : SlotSystem}
variable {before after : Holding}

/-- The pool is sound once it is initialised. -/
theorem initial_sound (positive : 0 < count) :
    ∃ pool,
      lpConnectionsInit count = some pool ∧
        Sound count pool.connections (List.range count) (initial pool) := by
  refine ⟨_, if_neg (Nat.ne_of_gt positive), ?_⟩
  constructor
  · exact connectionsInitLoop_range count
  · exact .of_eq (List.append_nil _)
  · exact congrArg Int.ofNat List.length_range.symm
  · rfl
  · intro slot member
    obtain ⟨data, reached⟩ :
        ∃ data,
          (connectionsInitLoop count (fun _ => Slot.zero) none).1 slot =
            Slot.zero.chained slot data :=
      connectionsInitLoop_reached (List.mem_range.mp member)
    refine ⟨⟨rfl, rfl, rfl⟩, ?_, ?_, ?_, ?_, ?_, ?_, ?_⟩ <;>
      simp only [initial] <;> rw [reached] <;> rfl
  · intro holding member
    cases member
  · intro slot contents member
    cases member

namespace Sound

/-- A slot that is held is not on the chain. -/
theorem not_chained
    (sound : Sound count given chain s)
    (member : before ∈ s.holdings) :
    before.slot ∉ chain := by
  have nodup := sound.shared.nodup_iff.mpr List.nodup_range
  intro inChain
  have inHeld : before.slot ∈ s.held := List.mem_map_of_mem member
  exact (List.nodup_append.mp nodup).2.2 _ inChain _ inHeld rfl

/-- No slot is held twice. -/
theorem held_nodup (sound : Sound count given chain s) : s.held.Nodup :=
  (sound.shared.nodup_iff.mpr List.nodup_range).of_append_right

/-- The slots of the holdings, one of them in front. -/
theorem held_perm (member : before ∈ s.holdings) :
    s.held.Perm
      (before.slot :: (s.holdings.erase before).map Holding.slot) :=
  (List.perm_cons_erase member).map Holding.slot

/-- The other holders hold other slots. -/
theorem others
    (sound : Sound count given chain s)
    (member : before ∈ s.holdings) :
    ∀ holding ∈ s.holdings.erase before,
      holding ∈ s.holdings ∧ holding.slot ≠ before.slot := by
  intro holding inErased
  refine ⟨List.mem_of_mem_erase inErased, ?_⟩
  intro same
  have nodup := (held_perm member).nodup_iff.mp sound.held_nodup
  apply (List.nodup_cons.mp nodup).1
  rw [← same]
  exact List.mem_map_of_mem inErased

/-- A holder that goes on changes nothing but its own slot. -/
theorem advance
    {pool : SlotPool}
    (sound : Sound count given chain s)
    (member : before ∈ s.holdings)
    (sameSlot : after.slot = before.slot)
    (elsewhere :
      ∀ other,
        other ≠ before.slot →
        pool.connections other = s.pool.connections other)
    (free : pool.freeConnections = s.pool.freeConnections)
    (freeN : pool.freeConnectionsN = s.pool.freeConnectionsN)
    (heldN : pool.connectionsN = s.pool.connectionsN)
    (keeps :
      after.phase.Keeps (given before.slot) (pool.connections before.slot)) :
    Sound count given chain (s.advance before after pool) := by
  have heldAfter :
      (s.advance before after pool).held =
        before.slot :: (s.holdings.erase before).map Holding.slot := by
    unfold held SlotSystem.advance
    rw [List.map_cons, sameSlot]
  have unchanged :
      ∀ other ∈ chain,
        pool.connections other = s.pool.connections other := by
    intro other inChain
    apply elsewhere other
    rintro rfl
    exact sound.not_chained member inChain
  constructor
  · have chained :
        Chain pool.data s.pool.freeConnections chain := by
      apply sound.chained.congr
      intro other inChain
      exact congrArg Slot.data (unchanged other inChain)
    rw [← free] at chained
    exact chained
  · rw [heldAfter]
    exact ((held_perm member).symm.append_left chain).trans sound.shared
  · exact freeN.trans sound.freeN
  · rw [heldAfter, ← (held_perm member).length_eq]
    exact heldN.trans sound.heldN
  · intro other inChain
    have clean := sound.clean other inChain
    rw [← unchanged other inChain] at clean
    exact clean
  · intro holding isHolding
    rcases List.mem_cons.mp isHolding with rfl | inErased
    · rw [sameSlot]
      exact keeps
    · obtain ⟨inHoldings, different⟩ :=
        sound.others member holding inErased
      have kept := sound.keeps holding inHoldings
      rw [← elsewhere holding.slot different] at kept
      exact kept
  · exact sound.returned

/-- What a thread knows of a slot that it holds. -/
theorem kept
    {thread : Nat}
    {phase : Holding.Phase}
    (sound : Sound count given chain s)
    (member : ⟨thread, slot, phase⟩ ∈ s.holdings) :
    phase.Keeps (given slot) (s.pool.connections slot) :=
  sound.keeps _ member

/-- A holder that writes the record of its slot. -/
theorem setSlot
    {c : Slot}
    (sound : Sound count given chain s)
    (member : before ∈ s.holdings)
    (sameSlot : after.slot = before.slot)
    (keeps : after.phase.Keeps (given before.slot) c) :
    Sound count given chain
      (s.advance before after (s.pool.set before.slot c)) := by
  apply sound.advance member sameSlot
  · intro other different
    exact SlotPool.set_other different ..
  · rfl
  · rfl
  · rfl
  · rw [SlotPool.set_self]
    exact keeps

/-- The call that finds a free slot holds it. -/
theorem get
    {thread : Nat}
    {fd : Int}
    {rest : List Nat}
    (sound : Sound count given (slot :: rest) s)
    (chained : Chain s.pool.data (s.pool.data slot) rest) :
    Sound count given rest
      { s with
        pool :=
          { s.pool with
            freeConnections := s.pool.data slot
            freeConnectionsN := s.pool.freeConnectionsN - 1
            connectionsN := s.pool.connectionsN + 1 }
        holdings := ⟨thread, slot, .taken fd⟩ :: s.holdings } := by
  constructor
  · exact chained
  · exact List.perm_middle.trans sound.shared
  · have freeN := sound.freeN
    simp only [List.length_cons, Nat.cast_add, Nat.cast_one] at freeN
    exact sub_eq_of_eq_add freeN
  · have heldN := sound.heldN
    simp only [held, List.map_cons, List.length_cons, Nat.cast_add,
      Nat.cast_one, heldN]
  · intro other inRest
    exact sound.clean other (List.mem_cons_of_mem _ inRest)
  · intro holding isHolding
    rcases List.mem_cons.mp isHolding with rfl | inHoldings
    · exact sound.clean slot (List.mem_cons_self ..)
    · exact sound.keeps holding inHoldings
  · exact sound.returned

/-- A call that returns a slot returns a clean one. -/
theorem store
    {thread : Nat}
    {fd : Int}
    (sound : Sound count given chain s)
    (member : ⟨thread, slot, .taken fd⟩ ∈ s.holdings) :
    Sound count given chain
      { s.advance ⟨thread, slot, .taken fd⟩ ⟨thread, slot, .used⟩
          (s.pool.set slot { s.pool.connections slot with fd := fd }) with
        returned :=
          s.returned ++
            [(slot, { s.pool.connections slot with fd := fd })] } := by
  have clean :
      Slot.Clean (given slot) { s.pool.connections slot with fd := fd } :=
    Slot.Clean.setFd (sound.kept member) fd
  have advanced :
      Sound count given chain
        (s.advance ⟨thread, slot, .taken fd⟩ ⟨thread, slot, .used⟩
          (s.pool.set slot { s.pool.connections slot with fd := fd })) :=
    sound.setSlot member rfl clean.toHome
  constructor
  · exact advanced.chained
  · exact advanced.shared
  · exact advanced.freeN
  · exact advanced.heldN
  · exact advanced.clean
  · exact advanced.keeps
  · intro other contents isReturned
    rcases List.mem_append.mp isReturned with earlier | now
    · exact sound.returned other contents earlier
    · cases List.mem_singleton.mp now
      exact clean

/-- A call that links a slot gives it back. -/
theorem link
    {thread : Nat}
    (sound : Sound count given chain s)
    (member : ⟨thread, slot, .restored⟩ ∈ s.holdings) :
    Sound count given (slot :: chain)
      { s with
        pool := s.pool.freeLocked slot
        holdings := s.holdings.erase ⟨thread, slot, .restored⟩ } := by
  have fresh : slot ∉ chain := sound.not_chained member
  have perm := held_perm member
  have elsewhere :
      ∀ other,
        other ≠ slot →
        (s.pool.freeLocked slot).connections other =
          s.pool.connections other := by
    intro other different
    exact Function.update_of_ne different ..
  have here :
      (s.pool.freeLocked slot).connections slot =
        { s.pool.connections slot with data := s.pool.freeConnections } :=
    Function.update_self ..
  constructor
  · exact s.pool.freeLocked_chain sound.chained fresh
  · apply List.Perm.trans _ sound.shared
    apply List.Perm.trans _ (perm.symm.append_left chain)
    exact List.perm_middle.symm
  · have freeN := sound.freeN
    simp only [SlotPool.freeLocked, SlotPool.set, freeN, List.length_cons,
      Nat.cast_add, Nat.cast_one]
  · have heldN := sound.heldN
    rw [perm.length_eq, List.length_cons, Nat.cast_add, Nat.cast_one] at heldN
    exact sub_eq_of_eq_add heldN
  · intro other inChain
    rcases List.mem_cons.mp inChain with rfl | earlier
    · rw [here]
      exact Slot.Clean.setData (sound.kept member) _
    · have different : other ≠ slot := by
        rintro rfl
        exact fresh earlier
      rw [elsewhere other different]
      exact sound.clean other earlier
  · intro holding inErased
    obtain ⟨inHoldings, different⟩ := sound.others member holding inErased
    rw [elsewhere holding.slot different]
    exact sound.keeps holding inHoldings
  · exact sound.returned

/-- A holder that uses its slot keeps it. -/
theorem use
    {thread : Nat}
    {contents : Slot}
    {rev wev : Option Nat}
    (sound : Sound count given chain s)
    (member : ⟨thread, slot, .used⟩ ∈ s.holdings) :
    Sound count given chain
      { s with pool := usePool s.pool slot contents rev wev } := by
  have home : Slot.Home (given slot) (s.pool.connections slot) :=
    sound.kept member
  have advanced :
      Sound count given chain
        (s.advance ⟨thread, slot, .used⟩ ⟨thread, slot, .used⟩
          (usePool s.pool slot contents rev wev)) := by
    refine sound.advance member rfl ?_ rfl rfl rfl ?_
    · intro other different
      exact SlotPool.set_other different ..
    · unfold usePool
      rw [SlotPool.set_self]
      exact ⟨home.rev, home.wev, home.idx⟩
  have sameHoldings := (List.perm_cons_erase member).symm
  have sameHeld := sameHoldings.map Holding.slot
  constructor
  · exact advanced.chained
  · exact (sameHeld.symm.append_left chain).trans advanced.shared
  · exact advanced.freeN
  · exact advanced.heldN.trans (congrArg Int.ofNat sameHeld.length_eq)
  · exact advanced.clean
  · intro holding isHolding
    exact advanced.keeps holding (sameHoldings.symm.subset isHolding)
  · exact sound.returned

/-- Every step keeps the pool sound. -/
theorem step
    {taken : Step}
    (sound : Sound count given chain s)
    (steps : step s taken = some next) :
    ∃ chain, Sound count given chain next := by
  cases taken with
  | get thread fd =>
      cases free : s.pool.freeConnections with
      | none =>
          simp only [SlotSystem.step, SlotPool.getLocked, free,
            Option.some.injEq] at steps
          exact ⟨chain, steps ▸ sound⟩
      | some slot =>
          simp only [SlotSystem.step, SlotPool.getLocked, free,
            Option.some.injEq] at steps
          have chained := sound.chained
          rw [free] at chained
          obtain ⟨rest, rfl, later⟩ := chained.taken
          exact ⟨rest, steps ▸ sound.get later⟩
  | store thread slot fd =>
      simp only [SlotSystem.step, Option.ite_none_right_eq_some,
        Option.some.injEq] at steps
      obtain ⟨member, rfl⟩ := steps
      exact ⟨chain, sound.store member⟩
  | use thread slot contents rev wev =>
      simp only [SlotSystem.step, Option.ite_none_right_eq_some,
        Option.some.injEq] at steps
      obtain ⟨member, rfl⟩ := steps
      exact ⟨chain, sound.use member⟩
  | pass thread slot other =>
      simp only [SlotSystem.step, Option.ite_none_right_eq_some,
        Option.some.injEq] at steps
      obtain ⟨member, rfl⟩ := steps
      exact
        ⟨chain,
          sound.advance member rfl (fun _ _ => rfl) rfl rfl rfl
            (sound.kept member)⟩
  | discard thread slot =>
      simp only [SlotSystem.step, Option.ite_none_right_eq_some] at steps
      obtain ⟨member, steps⟩ := steps
      cases discards : (s.pool.connections slot).discarded with
      | none =>
          simp only [discards, reduceCtorEq] at steps
      | some c =>
          simp only [discards, Option.some.injEq] at steps
          have home : Slot.Home (given slot) (s.pool.connections slot) :=
            sound.kept member
          exact
            ⟨chain,
              steps ▸ sound.setSlot member rfl (home.discarded discards)⟩
  | wipe thread slot =>
      simp only [SlotSystem.step, Option.ite_none_right_eq_some] at steps
      obtain ⟨member, steps⟩ := steps
      cases wiped : s.pool.wipe slot with
      | none =>
          simp only [wiped, reduceCtorEq] at steps
      | some pool =>
          simp only [wiped, Option.some.injEq] at steps
          obtain ⟨connections, free, freeN, heldN⟩ :=
            SlotPool.wipe_some wiped
          have home : Slot.Home (given slot) (s.pool.connections slot) :=
            sound.kept member
          have saved :
              (s.pool.connections slot).saved = (given slot).saved := by
            unfold Slot.saved
            rw [home.rev, home.wev, home.idx]
          refine
            ⟨chain, steps ▸ sound.advance member rfl ?_ free freeN heldN ?_⟩
          · intro other different
            rw [connections]
            exact SlotPool.set_other different ..
          · rw [connections, SlotPool.set_self]
            exact ⟨saved, rfl⟩
  | restore thread slot saved =>
      simp only [SlotSystem.step, Option.ite_none_right_eq_some,
        Option.some.injEq] at steps
      obtain ⟨member, rfl⟩ := steps
      obtain ⟨rfl, zero⟩ :
          saved = (given slot).saved ∧ s.pool.connections slot = Slot.zero :=
        sound.kept member
      rw [zero]
      exact
        ⟨chain,
          sound.setSlot member rfl (Slot.zero_restored rfl rfl rfl)⟩
  | link thread slot =>
      simp only [SlotSystem.step, Option.ite_none_right_eq_some,
        Option.some.injEq] at steps
      obtain ⟨member, rfl⟩ := steps
      exact ⟨slot :: chain, sound.link member⟩

/-- `lp_get_connection` finds nothing exactly when every slot is held. -/
theorem get_null_iff (sound : Sound count given chain s) :
    s.pool.getLocked.1 = none ↔ ∀ slot < count, slot ∈ s.held := by
  have isNull :
      s.pool.getLocked.1 = none ↔ s.pool.freeConnections = none := by
    unfold SlotPool.getLocked
    cases s.pool.freeConnections with
    | none =>
        exact Iff.rfl
    | some slot =>
        constructor <;> intro never <;> cases never
  rw [isNull, sound.chained.null_iff]
  constructor
  · rintro rfl slot inside
    exact sound.shared.symm.subset (List.mem_range.mpr inside)
  · intro allHeld
    apply List.eq_nil_iff_forall_not_mem.mpr
    intro slot inChain
    have inside : slot ∈ List.range count :=
      sound.shared.subset (List.mem_append_left _ inChain)
    have inHeld := allHeld slot (List.mem_range.mp inside)
    have nodup := sound.shared.nodup_iff.mpr List.nodup_range
    exact (List.nodup_append.mp nodup).2.2 _ inChain _ inHeld rfl

/-- A slot is on the chain exactly when it is not held. -/
theorem mem_chain_iff (sound : Sound count given chain s) :
    slot ∈ chain ↔ slot < count ∧ slot ∉ s.held := by
  have nodup := sound.shared.nodup_iff.mpr List.nodup_range
  have members : slot ∈ chain ++ s.held ↔ slot < count :=
    sound.shared.mem_iff.trans List.mem_range
  rw [← members, List.mem_append]
  constructor
  · intro inChain
    refine ⟨Or.inl inChain, ?_⟩
    intro inHeld
    exact (List.nodup_append.mp nodup).2.2 _ inChain _ inHeld rfl
  · rintro ⟨inChain | inHeld, notHeld⟩
    · exact inChain
    · exact absurd inHeld notHeld

end Sound

/--
The chain of free slots ends, visits every slot that is not held and no other
one, and the counters follow it; no slot is held twice; no slot is found exactly
when all are held; and every slot that was returned was clean, with the events
and the index that it was given.
-/
structure Whole
    (count : Nat)
    (given : Nat → Slot)
    (s : SlotSystem) :
    Prop where
  chain :
    ∃ chain,
      Chain s.pool.data s.pool.freeConnections chain ∧
        chain.Nodup ∧
        (∀ slot, slot ∈ chain ↔ slot < count ∧ slot ∉ s.held) ∧
        s.pool.freeConnectionsN = chain.length
  counters : s.pool.freeConnectionsN + s.pool.connectionsN = count
  single : s.held.Nodup
  inside : ∀ slot ∈ s.held, slot < count
  null : s.pool.getLocked.1 = none ↔ ∀ slot < count, slot ∈ s.held
  returned :
    ∀ slot contents,
      (slot, contents) ∈ s.returned → Slot.Clean (given slot) contents

/-- A sound pool is whole. -/
theorem Sound.whole (sound : Sound count given chain s) :
    Whole count given s where
  chain :=
    ⟨chain, sound.chained, sound.chained.nodup,
      fun _ => sound.mem_chain_iff, sound.freeN⟩
  counters := by
    have length := sound.shared.length_eq
    rw [List.length_append, List.length_range] at length
    rw [sound.freeN, sound.heldN, ← length, Nat.cast_add]
  single := sound.held_nodup
  inside := by
    intro slot inHeld
    have member := sound.shared.subset (List.mem_append_right _ inHeld)
    exact List.mem_range.mp member
  null := sound.get_null_iff
  returned := sound.returned

/--
After `lp_connections_init` with any number of slots, and any interleaving of
calls by any number of threads, the pool is whole.
-/
theorem slot_pool_whole (positive : 0 < count) :
    ∃ pool,
      lpConnectionsInit count = some pool ∧
        ∀ taken s,
          Run (Enabled step) (initial pool) taken s →
          Whole count pool.connections s := by
  obtain ⟨pool, initialised, sound⟩ := initial_sound positive
  refine ⟨pool, initialised, ?_⟩
  intro taken s run
  have kept : ∃ chain, Sound count pool.connections chain s := by
    apply run.invariant (fun s => ∃ chain, Sound count pool.connections chain s)
    · rintro s taken next ⟨chain, sound⟩ steps
      exact sound.step steps
    · exact ⟨_, sound⟩
  obtain ⟨chain, sound⟩ := kept
  exact sound.whole

/-- A slot in use: both flags set, requests, replies and ticks pending. -/
def busySlot : Slot :=
  { Slot.zero with
    connActive := true
    connClosing := true
    taskTicks := some [7]
    discard := some fun _ => []
    reqList := some [1, 2]
    rplList := some [3] }

/--
Two threads get the two slots and a third one finds none; it gets the first
slot after that was used and freed.
-/
def reusing : List Step :=
  [.get 0 5, .get 1 6, .store 0 0 5, .use 0 0 busySlot (some 0) none,
    .store 1 1 6, .discard 0 0, .wipe 0 0, .get 2 8,
    .restore 0 0 ⟨some 0, some 0, 0⟩, .link 0 0, .get 2 8, .store 2 0 8]

/-- The pool of two slots is whole when one of them has been used again. -/
theorem slot_pool_whole_reusing :
    ∃ pool s,
      lpConnectionsInit 2 = some pool ∧
        Run (Enabled step) (initial pool) reusing s ∧
        s.returned.map Prod.fst = [0, 1, 0] ∧
        Whole 2 pool.connections s := by
  obtain ⟨pool, initialised, whole⟩ :=
    slot_pool_whole (show 0 < 2 by decide)
  have isPool : (lpConnectionsInit 2).get (by decide) = pool :=
    Option.get_of_eq_some _ initialised
  have reached :
      ∃ s,
        Run (Enabled step)
            (initial ((lpConnectionsInit 2).get (by decide))) reusing s ∧
          s.returned.map Prod.fst = [0, 1, 0] :=
    exec_reaches _ (by decide +kernel)
  rw [isPool] at reached
  obtain ⟨s, run, returned⟩ := reached
  exact ⟨pool, s, initialised, run, returned, whole reusing s run⟩

end SlotSystem

end LdapProxy
