import LdapProxy.RoundRobin
import LdapProxy.TransitionHistory
import LdapProxy.Wiring

namespace LdapProxy

open LdapProxy.RoundRobin
open LdapProxy.Transition

/-!
# Clients are dealt out to the LDAP workers in turn

The clients that `lp_ldap_io_register` accepts go to the workers 0, 1, 2, …
and around again.  A client that is turned away for lack of a slot takes no
turn, and neither do closed connections give one back.  A registration whose
worker cannot be notified has taken its turn when it fails; as in every step of
the proxy, the notifications succeed here.
-/

/--
The workers of the clients that were accepted so far: a client gets the first
free slot and is turned away when there is none.
-/
def recordOwner
    (s : System)
    (action : Action)
    (next : System)
    (owners : List (Option Nat)) :
    List (Option Nat) :=
  match action, s.proc.freeConnections with
  | .register _, slot :: _ =>
      owners ++ [(next.conns slot).ldap]
  | _, _ =>
      owners

/-- `__index` of `lp_get_ldap` once so many workers were chosen. -/
def IndexAfter (env : Environment) (chosen index : Nat) : Prop :=
  (lpGetLdap env index).1 = chosen % env.ldapNum

/-- The first turn is that of the first worker. -/
theorem indexAfter_zero (env : Environment) : IndexAfter env 0 0 := by
  have positive := env.ldapPositive
  unfold IndexAfter lpGetLdap
  rw [if_neg (by omega), Nat.zero_mod]

/-- The next turn is the one after. -/
theorem IndexAfter.next
    {env : Environment}
    {chosen index : Nat}
    (after : IndexAfter env chosen index) :
    IndexAfter env (chosen + 1) (lpGetLdap env index).2 := by
  have positive := env.ldapPositive
  have second : (lpGetLdap env index).2 = (lpGetLdap env index).1 + 1 := rfl
  have less := Nat.mod_lt chosen positive
  unfold IndexAfter at after ⊢
  rw [second, after, ← Nat.mod_add_mod]
  simp only [lpGetLdap]
  by_cases last : chosen % env.ldapNum + 1 = env.ldapNum
  · rw [if_pos last.ge, last, Nat.mod_self]
  · have inside : chosen % env.ldapNum + 1 < env.ldapNum := by omega
    rw [if_neg (by omega), Nat.mod_eq_of_lt inside]

/-- The owners of the clients that were accepted, while turns are taken. -/
def OwnersInTurn
    (env : Environment)
    (t : System × List (Option Nat)) :
    Prop :=
  IndexAfter env t.2.length t.1.ldapIndex ∧
    t.2 = (turns env.ldapNum t.2.length).map some

/-- A step that registers nobody takes no turn. -/
theorem Stepped.ldapIndex
    {env : Environment}
    {s next : System}
    {action : Action}
    (stepped : Stepped env s action next)
    (notRegister : ∀ sockfd, action ≠ .register sockfd) :
    next.ldapIndex = s.ldapIndex := by
  cases stepped with
  | opened sockfd slot rest free =>
      exact (notRegister sockfd rfl).elim
  | refused sockfd full =>
      rfl
  | ldapPopped ldap task rest current queue =>
      rfl
  | served ldap send task current server =>
      rfl
  | replied ldap send task ret last current fromMysql replied =>
      rfl
  | stray ldap send task current notServer notMysql =>
      rfl
  | handled ldap slot event last idle delivered returned =>
      rfl
  | mysqlPopped mysql task rest worker current queue taken left =>
      rfl
  | answered mysql task ldap current owner =>
      rfl
  | unanswered mysql task current noOwner =>
      rfl
  | dropped mysql task current =>
      rfl

/-- Every step keeps the turns. -/
theorem OwnersInTurn.step
    {env : Environment}
    {s next : System}
    {owners : List (Option Nat)}
    {action : Action}
    (inTurn : OwnersInTurn env (s, owners))
    (stepped : Stepped env s action next) :
    OwnersInTurn env (next, recordOwner s action next owners) := by
  by_cases register : ∃ sockfd, action = .register sockfd
  · obtain ⟨sockfd, rfl⟩ := register
    cases stepped with
    | refused sockfd full =>
        simpa only [recordOwner, full] using inTurn
    | opened sockfd slot rest free =>
        obtain ⟨index, owned⟩ := inTurn
        have owner : ((s.opened env sockfd slot rest).conns slot).ldap =
            some (owners.length % env.ldapNum) := by
          rw [← index]
          simp [System.opened, System.pushed, System.put,
            Connection.opened]
        simp only [recordOwner, free, OwnersInTurn, List.length_append,
          List.length_singleton, owner]
        refine ⟨index.next, ?_⟩
        rw [turns_succ, List.map_append, ← owned]
        rfl
  · have notRegister : ∀ sockfd, action ≠ .register sockfd :=
      fun sockfd same => register ⟨sockfd, same⟩
    have sameOwners : recordOwner s action next owners = owners := by
      cases action with
      | register sockfd =>
          exact (notRegister sockfd rfl).elim
      | ldapPop ldap =>
          rfl
      | ldapExec ldap send =>
          rfl
      | ldapEvent ldap slot event =>
          rfl
      | mysqlPop mysql =>
          rfl
      | mysqlExec mysql =>
          rfl
    rw [sameOwners]
    unfold OwnersInTurn
    rw [stepped.ldapIndex notRegister]
    exact inTurn

/--
In every run, the client that is accepted as number `k` gets the LDAP worker
`k % ldap_num`, so the workers never differ by more than one in the number of
clients they were given.
-/
theorem clients_in_turn
    {env : Environment}
    {actions : List Action}
    {s : System}
    {owners : List (Option Nat)}
    (run :
      Run (Enabled (recorded (step env) recordOwner))
        (System.initial env, []) actions (s, owners)) :
    owners =
        (List.range owners.length).map (fun k => some (k % env.ldapNum)) ∧
      ∀ ldap < env.ldapNum,
        owners.count (some ldap) =
          owners.length / env.ldapNum +
            if ldap < owners.length % env.ldapNum then 1 else 0 := by
  have inTurn : OwnersInTurn env (s, owners) := by
    refine run.invariant (OwnersInTurn env) ?_ ⟨indexAfter_zero env, rfl⟩
    rintro ⟨s, owners⟩ action ⟨next, after⟩ inTurn both
    obtain ⟨taken, rfl⟩ := recorded_eq_some_iff.mp both
    exact inTurn.step (step_stepped taken)
  have owned : owners = (turns env.ldapNum owners.length).map some :=
    inTurn.2
  constructor
  · rw [turns, List.map_map] at owned
    exact owned
  · intro ldap inside
    have counted : owners.count (some ldap) =
        (turns env.ldapNum owners.length).count ldap := by
      conv_lhs => rw [owned]
      exact List.count_map_of_injective _ some (Option.some_injective Nat) _
    rw [counted, count_turns env.ldapPositive inside]

/-- The only slot is used twice; a third client is turned away. -/
theorem clients_in_turn_again :
    ∃ (s : System) (owners : List (Option Nat)),
      (s.ldapIndex = 2 ∧ s.proc.freeConnections = []) ∧
        owners =
            (List.range owners.length).map
              (fun k => some (k % twoWorkers.ldapNum)) ∧
          ∀ ldap < twoWorkers.ldapNum,
            owners.count (some ldap) =
              owners.length / twoWorkers.ldapNum +
                if ldap < owners.length % twoWorkers.ldapNum then 1
                else 0 := by
  obtain ⟨s, run, ends⟩ :
      ∃ s,
        Run (Enabled (step twoWorkers)) (System.initial twoWorkers)
            (newClient 0 ++ [clientLeaves 0, .register 6, .register 7]) s ∧
          s.ldapIndex = 2 ∧ s.proc.freeConnections = [] :=
    exec_reaches
      (fun s : System => s.ldapIndex = 2 ∧ s.proc.freeConnections = [])
      (by decide +kernel)
  obtain ⟨owners, recorded⟩ := run.recorded ([] : List (Option Nat))
  exact ⟨s, owners, ends, clients_in_turn recorded⟩

end LdapProxy
