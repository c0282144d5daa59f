import SnmpSet.Proofs.Agent.Notifications
import SnmpSet.Proofs.Session.Basic

/-!
# The history that observers are told

What a whole session tells observers is a list of changes that can be replayed on the
store it began with, whatever comes of its requests. The changes of one object make up
a chain from the value that it had at first to the value that it has now, and each of
them is told once for each attachment of an observer to the object.
-/

namespace SnmpSet

/-- The change that a notification is about. -/
def Notification.change (n : Notification) : Change := ⟨n.oid, n.old, n.new⟩

namespace Store

variable {s : Store} {oid : Oid}

/-- Of what changes tell, the part about one object is what its own changes tell. -/
theorem filter_oid_flatMap_notices (changes : List Change) :
    (changes.flatMap s.notices).filter (fun n => n.oid = oid) =
      (changes.filter fun c => c.oid = oid).flatMap s.notices := by
  induction changes with
  | nil => rfl
  | cons c changes ih =>
    have hsame : ∀ n ∈ s.notices c, n.oid = c.oid := by simp [notices]
    rw [List.flatMap_cons, List.filter_append, ih]
    by_cases hoid : c.oid = oid
    · have hall : (s.notices c).filter (fun n => n.oid = oid) = s.notices c :=
        List.filter_eq_self.mpr fun n hn => by simpa [hsame n hn] using hoid
      rw [hall, List.filter_cons_of_pos (by simpa using hoid), List.flatMap_cons]
    · have hnone : (s.notices c).filter (fun n => n.oid = oid) = [] :=
        List.filter_eq_nil_iff.mpr fun n hn => by simpa [hsame n hn] using hoid
      rw [hnone, List.filter_cons_of_neg (by simpa using hoid), List.nil_append]

/-- An observer that is attached once to each object is told about each change once. -/
theorem map_change_filter_observer {observer : Observer} {changes : List Change}
    (honce : ∀ c ∈ changes, (s.observers c.oid).count observer = 1) :
    ((changes.flatMap s.notices).filter fun n => n.observer = observer).map Notification.change =
      changes := by
  induction changes with
  | nil => rfl
  | cons c changes ih =>
    obtain ⟨hfirst, hrest⟩ := List.forall_mem_cons.mp honce
    have hattached : (s.observers c.oid).filter (fun o => o = observer) = [observer] := by
      rw [List.filter_eq, hfirst]
      rfl
    have hnotices :
        ((s.notices c).filter fun n => n.observer = observer).map Notification.change = [c] := by
      rw [notices, List.filter_map, List.map_map]
      change ((s.observers c.oid).filter fun o => o = observer).map (fun _ => c) = [c]
      rw [hattached]
      rfl
    rw [List.flatMap_cons, List.filter_append, List.map_append, hnotices, ih hrest,
      List.singleton_append]

end Store

namespace Agent

variable {a : Agent}

/-- What a request tells can be replayed on the store before it, and leads to the store
after it. -/
theorem exists_replay?_serve (hbounded : a.store.KeysBounded) (request : Request) :
    ∃ changes : List Change, a.notifiedBy request = changes.flatMap a.store.notices ∧
      a.store.replay? changes = some (a.serve request).after.store := by
  cases request with
  | set requester bindings => exact (announces_set hbounded requester bindings).replays hbounded
  | get _ | propose _ _ => exact ⟨[], rfl, rfl⟩

/-- What a session tells can be replayed on the store before it, and leads to the store
after it. -/
theorem exists_replay?_afterAll (hbounded : a.store.KeysBounded) (requests : List Request) :
    ∃ changes : List Change, a.history requests = changes.flatMap a.store.notices ∧
      a.store.replay? changes = some (a.afterAll requests).store := by
  induction requests generalizing a with
  | nil => exact ⟨[], rfl, rfl⟩
  | cons request requests ih =>
    obtain ⟨store, hafter, hframes⟩ := exists_store_serve a request
    obtain ⟨first, htold, hreplay⟩ := exists_replay?_serve hbounded request
    rw [hafter] at hreplay
    obtain ⟨later, htold', hreplay'⟩ := ih (a := { a with store }) (hbounded.of_frames hframes)
    refine ⟨first ++ later, ?_, ?_⟩
    · -- observers stay attached, so the later changes are told as they would be at first
      rw [history, hafter, htold, htold', List.flatMap_append, Store.notices_of_frames hframes]
    · rw [Store.replay?_append, hreplay, Option.bind_some, afterAll, hafter]
      exact hreplay'

/-- Every request tells observers what it is due to tell for what comes of it, and
nothing else. What a session tells the observers of an object is a chain of changes,
each of them once for each attachment: it begins with the value that the object had at
first, each change goes on from the value that the one before has left, and the last
leads to the value that the object has in the end. So an observer that is attached once
is told just this chain. -/
theorem history_chains (hbounded : a.store.KeysBounded) :
    (∀ requester bindings told,
      a.Announces requester bindings told ↔ (a.set requester bindings).notified = told) ∧
    ∀ (requests : List Request) (oid : Oid) (body : ObjectBody),
      a.store.object? oid = some ⟨oid, body⟩ →
      ∃ (chain : List Change) (current : Value),
        (a.history requests).filter (fun n => n.oid = oid) =
          chain.flatMap (fun c => body.observers.map fun observer =>
            ⟨observer, oid, c.old, c.new⟩) ∧
        chain.foldlM Change.follow? body.value = some current ∧
        (a.afterAll requests).store.object? oid = some ⟨oid, { body with value := current }⟩ ∧
        ∀ observer, body.observers.count observer = 1 →
          ((a.history requests).filter fun n => n.oid = oid ∧ n.observer = observer).map
            Notification.change = chain := by
  refine ⟨fun requester bindings told => ⟨(announces_set hbounded requester bindings).unique, ?_⟩,
    fun requests oid body hfound => ?_⟩
  · rintro rfl
    exact announces_set hbounded requester bindings
  obtain ⟨changes, htold, hreplay⟩ := exists_replay?_afterAll hbounded requests
  obtain ⟨current, hafter, hfollow⟩ := Store.follow?_of_replay? hreplay hfound
  have hobservers : a.store.observers oid = body.observers := Store.observers_of_object? hfound
  have hoid : ∀ c ∈ changes.filter (fun c => c.oid = oid), c.oid = oid :=
    fun c hc => by simpa using (List.mem_filter.mp hc).2
  have hfilter : (a.history requests).filter (fun n => n.oid = oid) =
      (changes.filter fun c => c.oid = oid).flatMap a.store.notices := by
    rw [htold, Store.filter_oid_flatMap_notices]
  refine ⟨changes.filter fun c => c.oid = oid, current, ?_, hfollow, hafter, ?_⟩
  · rw [hfilter]
    refine congrArg List.flatten (List.map_congr_left fun c hc => ?_)
    rw [Store.notices, hoid c hc, hobservers]
  · intro observer honce
    have hsplit : ((a.history requests).filter fun n => n.oid = oid ∧ n.observer = observer) =
        ((a.history requests).filter fun n => n.oid = oid).filter fun n =>
          n.observer = observer := by
      rw [List.filter_filter]
      exact List.filter_congr fun n _ => by simp [and_comm]
    rw [hsplit, hfilter]
    exact Store.map_change_filter_observer fun c hc => by rwa [hoid c hc, hobservers]

/-- An agent with a counter that two observers watch, a string with one observer that is
attached twice, and a key whose protocol never derives a key of the right length. -/
def withObservers : Agent :=
  .ofStore <| Store.empty
    |>.put (((ManagedObject.testAndIncr ⟨[1, 1]⟩ 7).observedBy ⟨1⟩).observedBy ⟨2⟩)
    |>.put (((ManagedObject.plain ⟨[1, 2]⟩ (.octets [1])).observedBy ⟨1⟩).observedBy ⟨1⟩)
    |>.put ((ManagedObject.keyChange ⟨[1, 3]⟩ (.failing 1) .empty [9]).observedBy ⟨1⟩)

/-- The first request is accepted. The second is undone because the key's commit fails,
and the third is refused for the counter. -/
def observedRequests : List Request :=
  [.set none [⟨⟨[1, 2]⟩, .octets [2]⟩, ⟨⟨[1, 1]⟩, .integer 7⟩],
    .set none [⟨⟨[1, 1]⟩, .integer 8⟩, ⟨⟨[1, 2]⟩, .octets [3]⟩, ⟨⟨[1, 3]⟩, .octets [3, 4]⟩],
    .set none [⟨⟨[1, 2]⟩, .octets [4]⟩, ⟨⟨[1, 1]⟩, .integer 7⟩],
    .get ⟨[1, 2]⟩]

/-- What the counter's observers are told of these requests: the counter is incremented,
and it is incremented once more and set back. -/
def counterChain : List Change :=
  [⟨⟨[1, 1]⟩, .integer 7, .integer 8⟩, ⟨⟨[1, 1]⟩, .integer 8, .integer 9⟩,
    ⟨⟨[1, 1]⟩, .integer 9, .integer 8⟩]

/-- A request that is undone tells its changes and takes them back. Each observer of the
counter is told the chain that leads to its value. -/
theorem observedRequests_chain :
    withObservers.store.KeysBounded ∧
    withObservers.Announces none
      [⟨⟨[1, 1]⟩, .integer 7⟩, ⟨⟨[1, 2]⟩, .octets [2]⟩, ⟨⟨[1, 3]⟩, .octets [3, 4]⟩]
      [⟨⟨1⟩, ⟨[1, 1]⟩, .integer 7, .integer 8⟩, ⟨⟨2⟩, ⟨[1, 1]⟩, .integer 7, .integer 8⟩,
        ⟨⟨1⟩, ⟨[1, 2]⟩, .octets [1], .octets [2]⟩, ⟨⟨1⟩, ⟨[1, 2]⟩, .octets [1], .octets [2]⟩,
        ⟨⟨1⟩, ⟨[1, 2]⟩, .octets [2], .octets [1]⟩, ⟨⟨1⟩, ⟨[1, 2]⟩, .octets [2], .octets [1]⟩,
        ⟨⟨1⟩, ⟨[1, 1]⟩, .integer 8, .integer 7⟩, ⟨⟨2⟩, ⟨[1, 1]⟩, .integer 8, .integer 7⟩] ∧
    (∀ observer : Observer, observer = ⟨1⟩ ∨ observer = ⟨2⟩ →
      ((withObservers.history observedRequests).filter fun n =>
        n.oid = ⟨[1, 1]⟩ ∧ n.observer = observer).map Notification.change = counterChain) ∧
    counterChain.foldlM Change.follow? (.integer 7) = some (.integer 8) ∧
    (withObservers.afterAll observedRequests).store.value? ⟨[1, 1]⟩ = some (.integer 8) := by
  have hbounded : withObservers.store.KeysBounded := by decide
  obtain ⟨hannounces, hchains⟩ := history_chains hbounded
  obtain ⟨chain, current, -, hfollow, hafter, honce⟩ :=
    hchains observedRequests ⟨[1, 1]⟩ _ rfl
  obtain rfl : chain = counterChain := (honce ⟨2⟩ rfl).symm
  have hvalue : (withObservers.afterAll observedRequests).store.value? ⟨[1, 1]⟩ =
      some (.integer 8) := rfl
  obtain rfl : current = .integer 8 :=
    Option.some.inj ((Store.value?_of_object? hafter).symm.trans hvalue)
  refine ⟨hbounded, (hannounces _ _ _).mpr rfl, ?_, hfollow, hvalue⟩
  rintro _ (rfl | rfl)
  · exact honce ⟨1⟩ rfl
  · exact honce ⟨2⟩ rfl

/-- An agent with an integer that has one observer attached twice. -/
def withDoubleObserver : Agent :=
  .ofStore <| Store.empty
    |>.put (((ManagedObject.plain ⟨[1, 1]⟩ (.integer 0)).observedBy ⟨1⟩).observedBy ⟨1⟩)

/-- Not everything that observers are told about an object is one chain from its first
value to its last: with two attachments each change is told twice in a row. -/
theorem not_forall_history_follows :
    ¬ ∀ (a : Agent) (requests : List Request) (oid : Oid) (body : ObjectBody),
      a.store.KeysBounded → a.store.object? oid = some ⟨oid, body⟩ →
      (((a.history requests).filter fun n => n.oid = oid).map Notification.change).foldlM
        Change.follow? body.value = (a.afterAll requests).store.value? oid := by
  intro h
  have hchain := h withDoubleObserver [.set none [⟨⟨[1, 1]⟩, .integer 5⟩]] ⟨[1, 1]⟩ _
    (by decide) rfl
  exact absurd hchain (by decide)

end Agent

end SnmpSet
