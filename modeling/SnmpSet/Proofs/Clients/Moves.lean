import SnmpSet.Clients
import SnmpSet.Proofs.Store

/-!
# What a move of a client can do

Each move of a client is one of ten kinds, told by what the client is doing. No move
touches another client, and only a step of a batch touches an object or tells observers
anything.
-/

namespace SnmpSet.Service

variable {ι : Type} [DecidableEq ι]

/-- The service after a move of a client, by the kind of the move. -/
inductive Moves (s : Service ι) (i : ι) : Service ι → Prop where
  /-- A request is replied to at once. -/
  | replied {request : Request} {pending : List Request} {reply : Reply}
      (hidle : (s.client i).activity = .idle) (hpending : (s.client i).pending = request :: pending)
      (horder : s.agent.lockOrder request = .error reply) :
      Moves s i (s.reply i { s.client i with pending } request reply)
  /-- A request is admitted. -/
  | admitted {request : Request} {pending : List Request} {wanted : List Oid}
      (hidle : (s.client i).activity = .idle) (hpending : (s.client i).pending = request :: pending)
      (horder : s.agent.lockOrder request = .ok wanted) :
      Moves s i (s.withClient i
        { s.client i with pending, activity := .locking request wanted })
  /-- A free object is locked. -/
  | locked {request : Request} {oid : Oid} {wanted : List Oid}
      (hlocking : (s.client i).activity = .locking request (oid :: wanted))
      (hfree : oid ∉ s.locked) :
      Moves s i ({ s with locked := oid :: s.locked }.withClient i
        { s.client i with
          activity := .locking request wanted, held := oid :: (s.client i).held })
  /-- A batch is started. -/
  | started {requester : Requester} {bindings : List VarBind} {writes : List PendingWrite}
      (hlocking : (s.client i).activity = .locking (.set requester bindings) [])
      (hwrites : s.agent.store.writesOf bindings = some writes) :
      Moves s i (s.withClient i
        { s.client i with
          activity := .working requester bindings (.inRound .prepare [] writes)
          held := bindings.map VarBind.oid })
  /-- A read or a proposal is served. -/
  | served {request : Request} (hlocking : (s.client i).activity = .locking request [])
      (hnoBatch : ∀ requester bindings, request ≠ .set requester bindings) :
      Moves s i (s.reply i (s.client i) request (s.agent.serve request).reply)
  /-- A step of a batch is taken. -/
  | stepped {requester : Requester} {bindings : List VarBind} {place : Place PendingWrite}
      {write : PendingWrite} {step : Target → Step} {body : ObjectBody}
      (hworking : (s.client i).activity = .working requester bindings place)
      (hnext : place.upNext? s.agent.policy requester = some (write, step))
      (hfound : s.agent.store.object? write.oid = some ⟨write.oid, body⟩) :
      Moves s i ({ s with
        agent := { s.agent with
          store := s.agent.store.put ⟨write.oid, (step ⟨write, body⟩).target.body⟩ }
        told := s.told ++ (step ⟨write, body⟩).notified }.withClient i
        { s.client i with
          activity := .working requester bindings
            (place.advance (step ⟨write, body⟩).target.write (step ⟨write, body⟩).stop) })
  /-- A batch turns from one round to what comes next. -/
  | turned {requester : Requester} {bindings : List VarBind} {place : Place PendingWrite}
      (hworking : (s.client i).activity = .working requester bindings place)
      (hnext : place.upNext? s.agent.policy requester = none)
      (hnotEnded : ∀ writes stop, place ≠ .ended writes stop) :
      Moves s i (s.withClient i
        { s.client i with activity := .working requester bindings place.turn })
  /-- A batch that has come to its end is replied to. -/
  | ended {requester : Requester} {bindings : List VarBind} {writes : List PendingWrite}
      {stop : Option (Nat × Stop)}
      (hworking : (s.client i).activity = .working requester bindings (.ended writes stop)) :
      Moves s i (s.reply i (s.client i) (.set requester bindings)
        (.answered (Agent.answerTo bindings (writes.map fun w => w.finish.report) stop)))
  /-- An object is released. -/
  | released {reply : Reply} {oid : Oid} {held : List Oid}
      (hleaving : (s.client i).activity = .leaving reply)
      (hheld : (s.client i).held = oid :: held) :
      Moves s i ({ s with locked := s.locked.erase oid }.withClient i { s.client i with held })
  /-- A reply reaches the client. -/
  | left {reply : Reply} (hleaving : (s.client i).activity = .leaving reply)
      (hheld : (s.client i).held = []) :
      Moves s i (s.withClient i
        { s.client i with activity := .idle, replies := (s.client i).replies ++ [reply] })

variable {s s' : Service ι} {i : ι}

/-- Every move is of one of the kinds. -/
theorem moves_of_move (hmove : s.move i = some s') : Moves s i s' := by
  unfold move at hmove
  split at hmove
  · next hidle =>
    split at hmove
    · cases hmove
    · next request pending hpending =>
      obtain rfl := Option.some.inj hmove
      unfold takeUp
      split
      · next horder => exact .replied hidle hpending horder
      · next horder => exact .admitted hidle hpending horder
  · next request oid wanted hlocking =>
    unfold lock at hmove
    split at hmove
    · cases hmove
    · next hfree =>
      obtain rfl := Option.some.inj hmove
      exact .locked hlocking hfree
  · next request hlocking =>
    unfold startOn at hmove
    split at hmove
    · obtain ⟨writes, hwrites, rfl⟩ := Option.map_eq_some_iff.mp hmove
      exact .started hlocking hwrites
    · obtain rfl := Option.some.inj hmove
      exact .served hlocking nofun
    · obtain rfl := Option.some.inj hmove
      exact .served hlocking nofun
  · next requester bindings place hworking =>
    split at hmove
    · next write step hnext =>
      obtain ⟨o, hfound, rfl⟩ := Option.map_eq_some_iff.mp hmove
      obtain ⟨body, rfl⟩ := Store.exists_body_of_object? hfound
      exact .stepped hworking hnext hfound
    · next hnext =>
      obtain rfl := Option.some.inj hmove
      unfold goOn
      split
      · exact .ended hworking
      · next hnotEnded => exact .turned hworking hnext hnotEnded
  · next reply hleaving =>
    obtain rfl := Option.some.inj hmove
    unfold leave
    dsimp only
    split
    · next oid held hheld => exact .released hleaving hheld
    · next hheld => exact .left hleaving hheld

/-- What holds of all clients still does if it holds of a client that comes to another state. -/
theorem forall_client {P : Client → Prop} {c : Client}
    (hclient : s'.client = fun j => if j = i then c else s.client j) (hc : P c)
    (hall : ∀ j, P (s.client j)) (j : ι) : P (s'.client j) := by
  rw [hclient]
  dsimp only
  split
  · exact hc
  · exact hall j

/-- A move of a client leaves the others where they are. -/
theorem client_of_move (hmove : s.move i = some s') {j : ι} (hj : j ≠ i) :
    s'.client j = s.client j := by
  cases moves_of_move hmove <;> simp [reply, withClient, hj]

/-- What each move preserves, a run preserves. -/
theorem run_induction {P : Service ι → Prop}
    (hstep : ∀ {s s' : Service ι} {i : ι}, P s → s.move i = some s' → P s') (h : P s)
    (turns : List ι) : P (s.run turns) := by
  induction turns generalizing s with
  | nil => exact h
  | cons i turns ih =>
    rw [run]
    cases hmove : s.move i with
    | none => exact ih h
    | some s' => exact ih (hstep h hmove)

end SnmpSet.Service
