import Mathlib.Algebra.Order.BigOperators.Group.List
import Mathlib.Algebra.Order.Ring.Nat
import SnmpSet.Proofs.Clients.Serial

/-!
# Clients come to an end

Each move of a client brings it closer to the end of its requests. Since some client can move as
long as a request is under way or still to be made, clients that all get their turns again and
again have all their replies in the end.
-/

namespace SnmpSet

/-- How many moves a batch can take from a place on. A commit is counted twice, as it may have to
be undone. -/
def Place.effort {α : Type} : Place α → Nat
  | .inRound .prepare done todo => todo.length + 3 * (done.length + todo.length) + 4
  | .inRound .check done todo => todo.length + 2 * (done.length + todo.length) + 3
  | .inRound .commit done todo => 2 * todo.length + done.length + 2
  | .undoing todo .. => todo.length + 1
  | .ended .. => 0

namespace Place

variable {α : Type} {policy : WritePolicy} {requester : Requester} {place : Place α} {x : α}
  {step : Target → Step}

/-- A step reduces the effort. -/
theorem effort_advance_lt (hnext : place.upNext? policy requester = some (x, step)) (y : α)
    (stop : Option Stop) : (place.advance y stop).effort < place.effort := by
  obtain ⟨round, done, todo, rfl, -⟩ | ⟨todo, done, position, reason, fault, rfl, -⟩ :=
    eq_of_upNext? hnext
  · rcases stop with _ | _ | _ | _ <;> cases round <;> simp [advance, effort] <;> omega
  · simp [advance, effort]

/-- A turn reduces the effort. -/
theorem effort_turn_lt (hnext : place.upNext? policy requester = none)
    (hnotEnded : ∀ all stop, place ≠ .ended all stop) : place.turn.effort < place.effort := by
  cases place with
  | inRound round done todo =>
    cases todo with
    | nil => cases round <;> simp only [turn, Round.next?, effort, List.length_nil] <;> omega
    | cons => cases hnext
  | undoing todo =>
    cases todo with
    | nil => simp [turn, effort]
    | cons => cases hnext
  | ended all stop => exact absurd rfl (hnotEnded all stop)

end Place

namespace Request

/-- How many objects a request locks at most. -/
def size : Request → Nat
  | .set _ bindings => bindings.length
  | .get _ | .propose _ _ => 1

/-- How many moves a request can take. -/
def effort (request : Request) : Nat := 7 * request.size + 9

/-- A request locks no more objects than its size. -/
theorem length_le_of_lockOrder {a : Agent} {request : Request} {addresses : List Oid}
    (hadmitted : a.lockOrder request = .ok addresses) : addresses.length ≤ request.size := by
  cases request with
  | set requester bindings =>
    obtain ⟨-, rfl⟩ := Agent.lockOrder_set_eq_ok hadmitted
    simp [size]
  | get oid | propose oid proposed =>
    simp only [Agent.lockOrder] at hadmitted
    split at hadmitted
    · obtain rfl := Except.ok.inj hadmitted
      exact Nat.le_refl 1
    · cases hadmitted

end Request

/-- How many moves a client can still make. -/
def Client.effort (c : Client) : Nat :=
  (c.pending.map Request.effort).sum +
    match c.activity with
    | .idle => 0
    | .locking request wanted => 2 * wanted.length + c.held.length + 5 * request.size + 8
    | .working _ _ place => place.effort + c.held.length + 2
    | .leaving _ => c.held.length + 1

namespace Service

variable {ι : Type} [DecidableEq ι] {a : Agent} {s s' : Service ι} {i : ι}

/-- A move of a client reduces its effort. -/
theorem Orderly.effort_move_lt (h : s.Orderly a) (hmove : s.move i = some s') :
    (s'.client i).effort < (s.client i).effort := by
  cases moves_of_move hmove with
  | replied hidle hpending horder =>
    have hi := h.client i
    simp only [Client.Orderly, hidle] at hi
    simp [reply, withClient, Client.effort, hidle, hpending, hi, Request.effort]
    omega
  | admitted hidle hpending horder =>
    have hi := h.client i
    simp only [Client.Orderly, hidle] at hi
    have hlength := Request.length_le_of_lockOrder horder
    simp [withClient, Client.effort, hidle, hpending, hi, Request.effort]
    omega
  | locked hlocking hfree =>
    simp [withClient, Client.effort, hlocking]
    omega
  | started hlocking hwrites =>
    obtain ⟨ts, hresolved, hstarted, -⟩ := h.of_locking hlocking
    obtain rfl := Option.some.inj (hwrites.symm.trans hstarted)
    have hlength := congrArg List.length (Agent.oids_of_resolve hresolved)
    simp only [List.length_map] at hlength
    simp [withClient, Client.effort, hlocking, Place.effort, Request.size, hlength]
    omega
  | served hlocking hnoBatch =>
    simp [reply, withClient, Client.effort, hlocking]
    omega
  | @stepped requester bindings place write step body hworking hnext hfound =>
    have hlt := Place.effort_advance_lt hnext (step ⟨write, body⟩).target.write
      (step ⟨write, body⟩).stop
    simpa [withClient, Client.effort, hworking] using hlt
  | turned hworking hnext hnotEnded =>
    simpa [withClient, Client.effort, hworking] using Place.effort_turn_lt hnext hnotEnded
  | ended hworking =>
    simp [reply, withClient, Client.effort, hworking, Place.effort]
  | released hleaving hheld =>
    simp [withClient, Client.effort, hleaving, hheld]
  | left hleaving hheld =>
    simp [withClient, Client.effort, hleaving, hheld]

/-- How many moves some clients can still make. -/
def effort (s : Service ι) (clients : List ι) : Nat :=
  (clients.map fun i => (s.client i).effort).sum

variable {clients : List ι}

/-- A move reduces the effort of all clients together. -/
theorem Orderly.sum_effort_move_lt (h : s.Orderly a) (hmove : s.move i = some s')
    (hi : i ∈ clients) : s'.effort clients < s.effort clients := by
  refine List.sum_lt_sum _ _ (fun j _ => ?_) ⟨i, hi, h.effort_move_lt hmove⟩
  by_cases hj : j = i
  · exact hj ▸ (h.effort_move_lt hmove).le
  · rw [client_of_move hmove hj]

/-- No turns add to the effort of all clients together. -/
theorem Orderly.sum_effort_run_le (h : s.Orderly a) (hall : ∀ i, i ∈ clients) (turns : List ι) :
    (s.run turns).effort clients ≤ s.effort clients := by
  induction turns generalizing s with
  | nil => exact Nat.le_refl _
  | cons i turns ih =>
    rw [Service.run]
    cases hmove : s.move i with
    | none => exact ih h
    | some s' =>
      exact (ih (h.move hmove)).trans (h.sum_effort_move_lt hmove (hall i)).le

/-- If a client that can move has its turn, the turns reduce the effort, whoever is the first to
move. -/
theorem Orderly.sum_effort_run_lt (h : s.Orderly a) (hall : ∀ i, i ∈ clients) {turns : List ι}
    (hi : i ∈ turns) (hmoves : (s.move i).isSome) :
    (s.run turns).effort clients < s.effort clients := by
  induction turns with
  | nil => cases hi
  | cons j turns ih =>
    rw [Service.run]
    cases hmove : s.move j with
    | none =>
      rcases List.mem_cons.mp hi with rfl | hi
      · simp [hmove] at hmoves
      · exact ih hi
    | some s' =>
      exact ((h.move hmove).sum_effort_run_le hall turns).trans_lt
        (h.sum_effort_move_lt hmove (hall j))

/-- The turns of a schedule can be taken part by part. -/
theorem run_append (s : Service ι) (turns turns' : List ι) :
    s.run (turns ++ turns') = (s.run turns).run turns' := by
  induction turns generalizing s with
  | nil => rfl
  | cons i turns ih => exact ih _

/-- A service that is over stays as it is. -/
theorem run_of_isOver (hover : s.IsOver) (turns : List ι) : s.run turns = s := by
  induction turns with
  | nil => rfl
  | cons i turns ih =>
    obtain ⟨hidle, hpending⟩ := hover i
    have hmove : s.move i = none := by simp [Service.move, hidle, hpending]
    rw [Service.run, hmove, Option.getD_none, ih]

/-- After as many rounds as there are moves to make, each with a turn for every client, the
service is over. -/
theorem Orderly.isOver_run_flatten (h : s.Orderly a) (hall : ∀ i, i ∈ clients)
    {rounds : List (List ι)} (hfair : ∀ round ∈ rounds, ∀ i, i ∈ round)
    (hlong : s.effort clients ≤ rounds.length) : (s.run rounds.flatten).IsOver := by
  induction rounds generalizing s with
  | nil =>
    refine Classical.byContradiction fun hopen => ?_
    obtain ⟨i, hmoves⟩ := h.exists_move hopen
    obtain ⟨s', hmove⟩ := Option.isSome_iff_exists.mp hmoves
    have hlt := h.sum_effort_move_lt hmove (hall i)
    rw [List.length_nil] at hlong
    omega
  | cons round rounds ih =>
    by_cases hover : s.IsOver
    · rwa [run_of_isOver hover]
    obtain ⟨i, hmoves⟩ := h.exists_move hover
    obtain ⟨hround, hrounds⟩ := List.forall_mem_cons.mp hfair
    have hlt := h.sum_effort_run_lt hall (hround i) hmoves
    rw [List.length_cons] at hlong
    rw [List.flatten_cons, run_append]
    exact ih (h.run round) hrounds (by omega)

/-- Clients that get their turns again and again have all their replies in the end, and the agent
is then as if their requests had been made one after another. -/
theorem allServed_of_fair (a : Agent) (requests : ι → List Request) (hall : ∀ i, i ∈ clients)
    {rounds : List (List ι)} (hfair : ∀ round ∈ rounds, ∀ i, i ∈ round)
    (hlong : (clients.map fun i => ((requests i).map Request.effort).sum).sum ≤ rounds.length) :
    let s := (start a requests).run rounds.flatten
    s.IsOver ∧ s.agent = a.afterAll (s.served.map Served.request) ∧
      ∀ i, (s.servedTo i).map Served.request = requests i ∧
        (s.servedTo i).map Served.reply = (s.client i).replies := by
  intro s
  have hover : s.IsOver := (orderly_start a requests).isOver_run_flatten hall hfair hlong
  exact ⟨hover, agent_of_isOver a requests rounds.flatten hover⟩

/-- An agent with two integers. -/
def withTwoIntegers : Agent :=
  .ofStore <| Store.empty
    |>.put (.plain ⟨[1, 1]⟩ (.integer 0))
    |>.put (.plain ⟨[1, 2]⟩ (.integer 0))

/-- Two clients name the integers in opposite order. -/
def crossing : Bool → List Request
  | true => [.set none [⟨⟨[1, 1]⟩, .integer 1⟩, ⟨⟨[1, 2]⟩, .integer 1⟩]]
  | false => [.set none [⟨⟨[1, 2]⟩, .integer 2⟩, ⟨⟨[1, 1]⟩, .integer 2⟩]]

-- the second client waits for the first, and then writes both
example :
    let s := (start withTwoIntegers crossing).run (List.replicate 30 [true, false]).flatten
    s.served.map Served.client = [true, false] ∧ s.locked = [] ∧
      s.agent.store.value? ⟨[1, 1]⟩ = some (.integer 2) ∧
      s.agent.store.value? ⟨[1, 2]⟩ = some (.integer 2) := by
  cbv

end Service

end SnmpSet
