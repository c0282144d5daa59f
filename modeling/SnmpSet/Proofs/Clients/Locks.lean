import SnmpSet.Proofs.Clients.Admission
import SnmpSet.Proofs.Clients.Moves
import SnmpSet.Proofs.Clients.Places

/-!
# Locks

No two clients ever hold the same object, and each client holds objects below the one that it
waits for. So clients never wait for each other in a circle: as long as a request is under way or
still to be made, some client can move.
-/

namespace SnmpSet

/-- Some address in a list has none above it. -/
theorem Oid.exists_greatest {oids : List Oid} (hne : oids ≠ []) :
    ∃ oid ∈ oids, ∀ oid' ∈ oids, ¬oid < oid' := by
  induction oids with
  | nil => exact absurd rfl hne
  | cons first rest ih =>
    by_cases hrest : rest = []
    · simp [hrest, Oid.lt_irrefl]
    obtain ⟨oid, hmem, hgreatest⟩ := ih hrest
    by_cases hlt : oid < first
    · refine ⟨first, List.mem_cons_self, List.forall_mem_cons.mpr ⟨Oid.lt_irrefl first, ?_⟩⟩
      exact fun oid' hmem' hlt' => hgreatest oid' hmem' (Oid.lt_trans hlt hlt')
    · exact ⟨oid, List.mem_cons_of_mem _ hmem, List.forall_mem_cons.mpr ⟨hlt, hgreatest⟩⟩

/-- A client holds what its activity needs. The agent tells which addresses a request locks. -/
def Client.Orderly (a : Agent) (c : Client) : Prop :=
  match c.activity with
  | .idle => c.held = []
  | .locking request wanted => a.lockOrder request = .ok (c.held.reverse ++ wanted)
  | .working _ bindings place =>
    (∃ ts, a.resolve bindings = .ok ts) ∧ c.held = bindings.map VarBind.oid ∧
      place.items.map PendingWrite.oid = c.held
  | .leaving _ => c.held.Nodup

namespace Client

variable {a : Agent} {c : Client}

/-- A client holds no object twice. -/
theorem Orderly.nodup_held (h : c.Orderly a) : c.held.Nodup := by
  unfold Orderly at h
  split at h
  · rw [h]
    exact List.nodup_nil
  · have hascending := (List.pairwise_append.mp (Agent.ascending_of_lockOrder h)).1
    rw [List.pairwise_reverse] at hascending
    refine hascending.imp fun {oid oid'} (hlt : oid' < oid) heq => ?_
    exact Oid.lt_irrefl oid (by rwa [← heq] at hlt)
  · obtain ⟨⟨ts, hresolved⟩, hheld, -⟩ := h
    rw [hheld]
    exact (Agent.addressed_of_targetsOf (Agent.resolve_eq_ok.mp hresolved).2.2).nodup
  · exact h

end Client

namespace Service

variable {ι : Type}

/-- Clients hold what they need, each object is held by one client at most, and just the objects
that are held are locked. The agent resembles the one at the start. -/
structure Orderly (a : Agent) (s : Service ι) : Prop where
  resembles : s.agent.Resembles a
  client : ∀ i, (s.client i).Orderly a
  nodup_locked : s.locked.Nodup
  mem_locked : ∀ oid, oid ∈ s.locked ↔ ∃ i, oid ∈ (s.client i).held
  holder_unique : ∀ {oid i j}, oid ∈ (s.client i).held → oid ∈ (s.client j).held → i = j

variable {a : Agent} {s s' : Service ι} {i : ι} {requester : Requester} {bindings : List VarBind}
  {place : Place PendingWrite}

/-- At the start nothing is held. -/
theorem orderly_start (a : Agent) (requests : ι → List Request) : (start a requests).Orderly a where
  resembles := .refl a
  client _ := rfl
  nodup_locked := List.nodup_nil
  mem_locked oid := by simp [start]
  holder_unique hheld := absurd hheld List.not_mem_nil

/-- What a client holds is below what it is going to lock. -/
theorem Orderly.held_lt (h : s.Orderly a) {request : Request} {oid oid' : Oid} {wanted : List Oid}
    (hlocking : (s.client i).activity = .locking request (oid' :: wanted))
    (hheld : oid ∈ (s.client i).held) : oid < oid' := by
  have hi := h.client i
  simp only [Client.Orderly, hlocking] at hi
  have hascending := (List.pairwise_append.mp (Agent.ascending_of_lockOrder hi)).2.2
  exact hascending oid (List.mem_reverse.mpr hheld) oid' List.mem_cons_self

/-- A client that works on a batch holds the objects of its bindings. -/
theorem Orderly.of_working (h : s.Orderly a)
    (hworking : (s.client i).activity = .working requester bindings place) :
    (s.client i).held = bindings.map VarBind.oid ∧
      place.items.map PendingWrite.oid = bindings.map VarBind.oid := by
  have hi := h.client i
  simp only [Client.Orderly, hworking] at hi
  exact ⟨hi.2.1, hi.2.2.trans hi.2.1⟩

/-- A client that has locked all objects of a batch can start on it. -/
theorem Orderly.of_locking (h : s.Orderly a)
    (hlocking : (s.client i).activity = .locking (.set requester bindings) []) :
    ∃ ts, s.agent.resolve bindings = .ok ts ∧
      s.agent.store.writesOf bindings = some (ts.map Target.write) ∧
      ∀ oid, oid ∈ bindings.map VarBind.oid ↔ oid ∈ (s.client i).held := by
  have hi := h.client i
  simp only [Client.Orderly, hlocking, List.append_nil] at hi
  obtain ⟨⟨ts, hresolved⟩, hheld⟩ := Agent.lockOrder_set_eq_ok hi
  obtain ⟨ts', hresolved'⟩ := Agent.exists_resolve h.resembles hresolved
  refine ⟨ts', hresolved', ?_, fun oid => ?_⟩
  · exact Agent.writesOf_of_targetsOf (Agent.resolve_eq_ok.mp hresolved').2.2
  · refine Iff.trans ?_ List.mem_reverse
    rw [hheld, List.mem_mergeSort]

section Moves

variable [DecidableEq ι]

/-- Clients stay orderly if one of them comes to do something else with what it holds. -/
theorem Orderly.of_sameHeld (h : s.Orderly a) {c : Client} (hresembles : s'.agent.Resembles a)
    (hlocked : s'.locked = s.locked)
    (hclient : s'.client = fun j => if j = i then c else s.client j) (hc : c.Orderly a)
    (hheld : ∀ oid, oid ∈ c.held ↔ oid ∈ (s.client i).held) : s'.Orderly a := by
  have hsame : ∀ j oid, oid ∈ (s'.client j).held ↔ oid ∈ (s.client j).held := by
    intro j oid
    by_cases hj : j = i
    · simp [hclient, hj, hheld]
    · simp [hclient, hj]
  constructor
  · exact hresembles
  · exact forall_client hclient hc h.client
  · rw [hlocked]
    exact h.nodup_locked
  · intro oid
    simp only [hlocked, h.mem_locked, hsame]
  · intro oid j k hj hk
    exact h.holder_unique ((hsame j oid).mp hj) ((hsame k oid).mp hk)

/-- Clients stay orderly if one of them locks a free object. -/
theorem Orderly.lock (h : s.Orderly a) {c : Client} {oid : Oid} (hfree : oid ∉ s.locked)
    (hc : c.Orderly a) (hheld : c.held = oid :: (s.client i).held) :
    ({ s with locked := oid :: s.locked }.withClient i c).Orderly a := by
  have hnobody : ∀ j, oid ∉ (s.client j).held := fun j hmem =>
    hfree ((h.mem_locked oid).mpr ⟨j, hmem⟩)
  have hholds : ∀ j oid', oid' ∈ (if j = i then c else s.client j).held ↔
      (j = i ∧ oid' = oid) ∨ oid' ∈ (s.client j).held := by
    intro j oid'
    by_cases hj : j = i <;> simp [hj, hheld]
  constructor
  · exact h.resembles
  · exact forall_client rfl hc h.client
  · exact List.nodup_cons.mpr ⟨hfree, h.nodup_locked⟩
  · intro oid'
    simp only [withClient, hholds, List.mem_cons, h.mem_locked oid']
    constructor
    · rintro (heq | ⟨j, hmem⟩)
      · exact ⟨i, .inl ⟨rfl, heq⟩⟩
      · exact ⟨j, .inr hmem⟩
    · rintro ⟨j, ⟨-, heq⟩ | hmem⟩
      · exact .inl heq
      · exact .inr ⟨j, hmem⟩
  · intro oid' j k hj hk
    simp only [withClient, hholds] at hj hk
    rcases hj with ⟨rfl, heq⟩ | hj <;> rcases hk with ⟨rfl, heq'⟩ | hk
    · rfl
    · exact absurd hk (heq ▸ hnobody k)
    · exact absurd hj (heq' ▸ hnobody j)
    · exact h.holder_unique hj hk

/-- Clients stay orderly if one of them releases an object. -/
theorem Orderly.release (h : s.Orderly a) {c : Client} {oid : Oid}
    (hc : c.Orderly a) (hheld : (s.client i).held = oid :: c.held) :
    ({ s with locked := s.locked.erase oid }.withClient i c).Orderly a := by
  have hnodup : (oid :: c.held).Nodup := hheld ▸ (h.client i).nodup_held
  have hholds : ∀ j oid', oid' ∈ (if j = i then c else s.client j).held ↔
      oid' ≠ oid ∧ oid' ∈ (s.client j).held := by
    intro j oid'
    by_cases hj : j = i
    · simp only [hj, if_true, hheld, List.mem_cons]
      have hnot := (List.nodup_cons.mp hnodup).1
      constructor
      · exact fun hmem => ⟨fun heq => hnot (heq ▸ hmem), .inr hmem⟩
      · rintro ⟨hne, heq | hmem⟩
        · exact absurd heq hne
        · exact hmem
    · simp only [hj, if_false]
      refine ⟨fun hmem => ⟨?_, hmem⟩, And.right⟩
      rintro rfl
      exact hj (h.holder_unique hmem (hheld ▸ List.mem_cons_self))
  constructor
  · exact h.resembles
  · exact forall_client rfl hc h.client
  · exact h.nodup_locked.erase oid
  · intro oid'
    simp only [withClient, hholds, h.nodup_locked.mem_erase_iff, h.mem_locked oid',
      exists_and_left]
  · intro oid' j k hj hk
    exact h.holder_unique ((hholds j oid').mp hj).2 ((hholds k oid').mp hk).2

/-- Clients stay orderly at each move. -/
theorem Orderly.move (h : s.Orderly a) (hmove : s.move i = some s') : s'.Orderly a := by
  have hi := h.client i
  have hnodup := hi.nodup_held
  unfold Client.Orderly at hi
  cases moves_of_move hmove with
  | replied hidle hpending horder =>
    exact h.of_sameHeld h.resembles rfl rfl hnodup fun _ => Iff.rfl
  | admitted hidle hpending horder =>
    rw [hidle] at hi
    refine h.of_sameHeld h.resembles rfl rfl ?_ fun _ => Iff.rfl
    simp only [Client.Orderly, show (s.client i).held = [] from hi, List.reverse_nil,
      List.nil_append, ← horder, Agent.lockOrder_congr h.resembles]
  | locked hlocking hfree =>
    rw [hlocking] at hi
    refine h.lock hfree ?_ rfl
    simpa [Client.Orderly] using hi
  | @started requester bindings writes hlocking hwrites =>
    rw [hlocking] at hi
    obtain ⟨hresolved, -⟩ := Agent.lockOrder_set_eq_ok hi
    obtain ⟨ts, hts, hstarted, hheld⟩ := h.of_locking hlocking
    obtain rfl := Option.some.inj (hwrites.symm.trans hstarted)
    refine h.of_sameHeld h.resembles rfl rfl ⟨hresolved, rfl, ?_⟩ hheld
    simpa [Place.items, Function.comp_def] using Agent.oids_of_resolve hts
  | served hlocking hnoBatch =>
    exact h.of_sameHeld h.resembles rfl rfl hnodup fun _ => Iff.rfl
  | @stepped requester bindings place write step body hworking hnext hfound =>
    rw [hworking] at hi
    obtain ⟨hresolved, hheld, hitems⟩ := hi
    have hsame : (step ⟨write, body⟩).target.write.oid = write.oid :=
      congrArg Prod.fst (Place.frame_of_upNext? hnext ⟨write, body⟩)
    have hused : s.agent.store.contains write.oid := by
      simp [Store.contains_eq_isSome, hfound]
    refine h.of_sameHeld ((Agent.resembles_put hused _).trans h.resembles) rfl rfl ?_
      fun _ => Iff.rfl
    refine ⟨hresolved, hheld, ?_⟩
    rw [Place.map_items_advance hnext hsame, hitems]
  | turned hworking hnext hnotEnded =>
    rw [hworking] at hi
    refine h.of_sameHeld h.resembles rfl rfl ?_ fun _ => Iff.rfl
    simpa [Client.Orderly] using hi
  | ended hworking =>
    exact h.of_sameHeld h.resembles rfl rfl hnodup fun _ => Iff.rfl
  | released hleaving hheld =>
    refine h.release ?_ hheld
    simp only [Client.Orderly, hleaving]
    exact (List.nodup_cons.mp (hheld ▸ hnodup)).2
  | left hleaving hheld =>
    exact h.of_sameHeld h.resembles rfl rfl hheld fun _ => Iff.rfl

/-- Clients are orderly after any turns. -/
theorem Orderly.run (h : s.Orderly a) (turns : List ι) : (s.run turns).Orderly a :=
  run_induction (fun h hmove => h.move hmove) h turns

/-! ## Clients do not wait in a circle -/

/-- A client that has something to do can move, unless it waits for a locked object. -/
theorem Orderly.isSome_move (h : s.Orderly a)
    (hopen : ¬((s.client i).activity = .idle ∧ (s.client i).pending = []))
    (hnotWaiting : ∀ request oid wanted,
      (s.client i).activity = .locking request (oid :: wanted) → oid ∉ s.locked) :
    (s.move i).isSome := by
  unfold Service.move
  split
  · next hidle =>
    split
    · next hpending => exact absurd ⟨hidle, hpending⟩ hopen
    · rfl
  · next request oid wanted hlocking =>
    simp [Service.lock, hnotWaiting request oid wanted hlocking]
  · next request hlocking =>
    cases request with
    | set requester bindings =>
      obtain ⟨ts, -, hwrites, -⟩ := h.of_locking hlocking
      simp [startOn, hwrites]
    | get | propose => rfl
  · next requester bindings place hworking =>
    have hi := h.client i
    simp only [Client.Orderly, hworking] at hi
    obtain ⟨⟨ts, hresolved⟩, hheld, hitems⟩ := hi
    split
    · next write step hnext =>
      have hmem : write.oid ∈ bindings.map VarBind.oid := by
        rw [← hheld, ← hitems]
        exact List.mem_map_of_mem (Place.mem_items_of_upNext? hnext)
      obtain ⟨b, hb, hoid⟩ := List.mem_map.mp hmem
      obtain ⟨-, -, hpaired⟩ := Agent.resolve_eq_ok.mp hresolved
      have hused := (Agent.addressed_of_targetsOf hpaired).found b hb
      rw [hoid] at hused
      have hfound : (s.agent.store.object? write.oid).isSome :=
        (h.resembles.contains_eq write.oid).trans hused
      simpa [Service.step] using hfound
    · rfl
  · rfl

/-- As long as a request is under way or still to be made, some client can move: the one that
holds the greatest locked address waits for nobody. -/
theorem Orderly.exists_move (h : s.Orderly a) (hopen : ¬s.IsOver) : ∃ i, (s.move i).isSome := by
  obtain ⟨i, hi⟩ := Classical.not_forall.mp hopen
  by_cases hlocked : s.locked = []
  · exact ⟨i, h.isSome_move hi fun request oid wanted _ => by simp [hlocked]⟩
  · obtain ⟨greatest, hmem, hgreatest⟩ := Oid.exists_greatest hlocked
    obtain ⟨j, hheld⟩ := (h.mem_locked greatest).mp hmem
    have hj := h.client j
    refine ⟨j, h.isSome_move ?_ fun request oid wanted hlocking hwaiting => ?_⟩
    · rintro ⟨hidle, -⟩
      simp only [Client.Orderly, hidle] at hj
      simp [hj] at hheld
    · exact hgreatest oid hwaiting (h.held_lt hlocking hheld)

end Moves

end Service

end SnmpSet
