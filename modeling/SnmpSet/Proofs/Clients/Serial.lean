import SnmpSet.Proofs.Clients.Locks
import SnmpSet.Proofs.Clients.Underway
import SnmpSet.Proofs.Session.Counter

/-!
# Clients at once and one after another

However the moves of several clients are interleaved, each client gets the replies, each object
comes to the value and its observers are told the changes that they would if the requests were
served one after another, in the order in which they have been replied to. This holds since a
batch works on nothing but objects that it has locked: what other clients do meanwhile neither
changes what is left of it nor shows what it has done so far.
-/

namespace SnmpSet

namespace Service

variable {ι : Type}

/-- The store with what observers have been told so far. -/
def now (s : Service ι) : Watched Store := ⟨s.agent.store, s.told⟩

/-- No batch is under way that works on the object at an address. -/
def AtRest (s : Service ι) (oid : Oid) : Prop :=
  ∀ i {requester bindings place},
    (s.client i).activity = .working requester bindings place → oid ∉ bindings.map VarBind.oid

/-- What clients and observers see is what they would see if just the requests that have been
replied to had been made. The agent that has served these agrees with the service on all objects
at rest, and each batch under way is at a place in the run that it would have next. -/
structure Follows (b : Agent) (past : List Notification) (s : Service ι) : Prop where
  resembles : s.agent.Resembles b
  settled : ∀ {oid}, s.AtRest oid → s.now.SameAt oid ⟨b.store, past⟩
  underway : ∀ {i requester bindings place},
    (s.client i).activity = .working requester bindings place →
      ∃ ts asked mine, place.Underway b past s.now requester bindings ts asked mine

variable {a b b' : Agent} {past past' : List Notification} {s s' : Service ι} {i : ι} {c : Client}
  {requester : Requester} {bindings : List VarBind} {place : Place PendingWrite}

/-- At the start all objects are at rest. -/
theorem follows_start (a : Agent) (requests : ι → List Request) :
    (start a requests).Follows a [] where
  resembles := .refl a
  settled _ := .refl _ _
  underway hworking := nomatch hworking

/-- The objects that a client holds are at rest if it does not work on a batch. -/
theorem Orderly.atRest_of_held (h : s.Orderly a) {oid : Oid} (hheld : oid ∈ (s.client i).held)
    (hi : ∀ requester bindings place, (s.client i).activity ≠ .working requester bindings place) :
    s.AtRest oid := by
  intro j requester bindings place hworking hmem
  rw [← (h.of_working hworking).1] at hmem
  obtain rfl := h.holder_unique hheld hmem
  exact hi _ _ _ hworking

/-- Objects that are not locked are at rest. -/
theorem Orderly.atRest_of_not_mem_locked (h : s.Orderly a) {oid : Oid} (hfree : oid ∉ s.locked) :
    s.AtRest oid := by
  intro j requester bindings place hworking hmem
  rw [← (h.of_working hworking).1] at hmem
  exact hfree ((h.mem_locked oid).mpr ⟨j, hmem⟩)

/-- Two clients work on different objects. -/
theorem Orderly.disjoint (h : s.Orderly a) {j : ι} {oid : Oid}
    (hheld : oid ∈ (s.client i).held) (hj : j ≠ i)
    (hworking : (s.client j).activity = .working requester bindings place) :
    oid ∉ bindings.map VarBind.oid := by
  rw [← (h.of_working hworking).1]
  exact fun hmem => hj (h.holder_unique hmem hheld)

/-! ## Replies -/

/-- A read or a proposal is replied to as it would have been if it had just been served. -/
theorem Follows.reply_eq (h : s.Orderly a) (hf : s.Follows b past) {request : Request}
    (hlocking : (s.client i).activity = .locking request [])
    (hnoBatch : ∀ requester bindings, request ≠ .set requester bindings) :
    (s.agent.serve request).reply = (b.serve request).reply := by
  have hi := h.client i
  simp only [Client.Orderly, hlocking, List.append_nil] at hi
  have hsettled : ∀ oid ∈ (s.client i).held, s.agent.store.object? oid = b.store.object? oid :=
    fun oid hoid => (hf.settled (h.atRest_of_held hoid (by simp [hlocking]))).object?_eq
  cases request with
  | set requester bindings => exact absurd rfl (hnoBatch requester bindings)
  | get oid | propose oid proposed =>
    simp only [Agent.lockOrder] at hi
    split at hi
    · have hmem : oid ∈ (s.client i).held := by
        rw [← List.mem_reverse, ← Except.ok.inj hi]
        exact List.mem_singleton_self oid
      simp [Agent.serve, Agent.get, Store.read, hsettled oid hmem]
    · cases hi

/-- A batch that has come to its end is answered as it would have been if it had just been
served. -/
theorem Follows.answer_eq (h : s.Orderly a) (hf : s.Follows b past) {writes : List PendingWrite}
    {stop : Option (Nat × Stop)}
    (hworking : (s.client i).activity = .working requester bindings (.ended writes stop)) :
    .answered (Agent.answerTo bindings (writes.map fun w => w.finish.report) stop) =
      (b.serve (.set requester bindings)).reply := by
  obtain ⟨ts, asked, mine, hunderway⟩ := hf.underway hworking
  exact congrArg Reply.answered (hunderway.ended (h.of_working hworking).2).1.symm

/-! ## What a move leaves -/

section Moves

variable [DecidableEq ι]

/-- It leaves all as it is if a client that works on no batch comes to do something else that is
no work on a batch. -/
theorem Follows.rest (hf : s.Follows b past) (hagent : s'.agent = s.agent)
    (htold : s'.told = s.told)
    (hclient : s'.client = fun j => if j = i then c else s.client j)
    (hi : ∀ requester bindings place, (s.client i).activity ≠ .working requester bindings place)
    (hc : ∀ requester bindings place, c.activity ≠ .working requester bindings place) :
    s'.Follows b past := by
  have hsame : ∀ j requester bindings place,
      (s'.client j).activity = .working requester bindings place ↔
        (s.client j).activity = .working requester bindings place := by
    intro j requester bindings place
    by_cases hj : j = i
    · subst hj
      simp [hclient, hi, hc]
    · simp [hclient, hj]
  have hnow : s'.now = s.now := by rw [now, now, hagent, htold]
  constructor
  · rw [hagent]
    exact hf.resembles
  · intro oid hrest
    rw [hnow]
    exact hf.settled fun j requester bindings place hworking =>
      hrest j ((hsame j requester bindings place).mpr hworking)
  · intro j requester bindings place hworking
    rw [hnow]
    exact hf.underway ((hsame j requester bindings place).mp hworking)

/-- A client changes and tells nothing of other objects than those that it holds. What is served
when it is replied to does not either. -/
theorem Follows.within (h : s.Orderly a) (hf : s.Follows b past)
    (hclient : s'.client = fun j => if j = i then c else s.client j)
    (hheld : ∀ oid, oid ∈ bindings.map VarBind.oid ↔ oid ∈ (s.client i).held)
    (hresembles : s'.agent.Resembles s.agent) (hserves : b'.Resembles b)
    (hnow : ∀ oid ∉ bindings.map VarBind.oid, s'.now.SameAt oid s.now)
    (hserved : ∀ oid ∉ bindings.map VarBind.oid,
      Watched.SameAt oid ⟨b'.store, past'⟩ ⟨b.store, past⟩)
    (hsettled : ∀ oid ∈ bindings.map VarBind.oid, s'.AtRest oid →
      s'.now.SameAt oid ⟨b'.store, past'⟩)
    (hplace : ∀ {requester' bindings' place'},
      c.activity = .working requester' bindings' place' → ∃ ts asked mine,
        place'.Underway b' past' s'.now requester' bindings' ts asked mine) :
    s'.Follows b' past' := by
  have hothers : ∀ {j}, j ≠ i → s'.client j = s.client j := fun hj => by simp [hclient, hj]
  constructor
  · exact (hresembles.trans hf.resembles).trans hserves.symm
  · intro oid hrest
    by_cases hmem : oid ∈ bindings.map VarBind.oid
    · exact hsettled oid hmem hrest
    refine ((hnow oid hmem).trans (hf.settled ?_)).trans (hserved oid hmem).symm
    intro j requester' bindings' place' hworking
    by_cases hj : j = i
    · subst hj
      rwa [← (h.of_working hworking).1, ← hheld]
    · exact hrest j (by rwa [hothers hj])
  · intro j requester' bindings' place' hworking
    by_cases hj : j = i
    · subst hj
      exact hplace (by simpa [hclient] using hworking)
    · rw [hothers hj] at hworking
      obtain ⟨ts, asked, mine, hunderway⟩ := hf.underway hworking
      have hnot : ∀ oid ∈ bindings'.map VarBind.oid, oid ∉ bindings.map VarBind.oid :=
        fun oid hmem' hmem => h.disjoint ((hheld oid).mp hmem) hj hworking hmem'
      exact ⟨ts, asked, mine, hunderway.elsewhere (h.of_working hworking).2 hserves
        (fun oid hoid => hserved oid (hnot oid hoid)) fun oid hoid => hnow oid (hnot oid hoid)⟩

/-- A client that starts on a batch finds its objects at rest. -/
theorem Follows.started (h : s.Orderly a) (hf : s.Follows b past) {writes : List PendingWrite}
    (hlocking : (s.client i).activity = .locking (.set requester bindings) [])
    (hwrites : s.agent.store.writesOf bindings = some writes)
    (hc : c.activity = .working requester bindings (.inRound .prepare [] writes)) :
    (s.withClient i c).Follows b past := by
  obtain ⟨ts, hresolved, hstarted, hheld⟩ := h.of_locking hlocking
  obtain rfl := Option.some.inj (hwrites.symm.trans hstarted)
  have hsettled : ∀ oid ∈ bindings.map VarBind.oid, s.now.SameAt oid ⟨b.store, past⟩ :=
    fun oid hoid => hf.settled (h.atRest_of_held ((hheld oid).mp hoid) (by simp [hlocking]))
  -- the agent that is followed finds the same targets
  rw [Agent.resolve_congr hf.resembles.maxBindings_eq fun oid hoid =>
    (hsettled oid hoid).object?_eq] at hresolved
  refine hf.within h rfl hheld (.refl _) (.refl b) (fun _ _ => .refl _ _) (fun _ _ => .refl _ _)
    (fun oid hoid _ => hsettled oid hoid) fun hworking => ?_
  obtain ⟨rfl, rfl, rfl⟩ := Activity.working.inj (hc.symm.trans hworking)
  exact ⟨ts, [], [], .start hresolved hsettled⟩

/-- A step of a batch changes and tells nothing of other objects than its own. -/
theorem Follows.stepped (h : s.Orderly a) (hf : s.Follows b past) {write : PendingWrite}
    {step : Target → Step} {taken : Step}
    (hworking : (s.client i).activity = .working requester bindings place)
    (hnext : place.upNext? s.agent.policy requester = some (write, step))
    (htaken : step (s.agent.store.load write) = taken)
    (hused : s.agent.store.contains write.oid)
    (hagent : s'.agent =
      { s.agent with store := s.agent.store.put ⟨write.oid, taken.target.body⟩ })
    (htold : s'.told = s.told ++ taken.notified)
    (hclient : s'.client = fun j => if j = i then c else s.client j)
    (hc : c.activity =
      .working requester bindings (place.advance taken.target.write taken.stop)) :
    s'.Follows b past := by
  obtain ⟨hheld, hitems⟩ := h.of_working hworking
  obtain ⟨ts, asked, mine, hunderway⟩ := hf.underway hworking
  have hmem : write.oid ∈ bindings.map VarBind.oid :=
    hitems ▸ List.mem_map_of_mem (Place.mem_items_of_upNext? hnext)
  have hnow : s'.now =
      ⟨s.agent.store.put ⟨write.oid, taken.target.body⟩, s.told ++ taken.notified⟩ := by
    rw [now, hagent, htold]
  have hself : (s'.client i).activity =
      .working requester bindings (place.advance taken.target.write taken.stop) := by
    simp [hclient, hc]
  refine hf.within h hclient (fun oid => by rw [hheld]) ?_ (.refl b) ?_ (fun _ _ => .refl _ _)
    (fun oid hoid hrest => absurd hoid (hrest i hself)) fun hgoesOn => ?_
  · rw [hagent]
    exact Agent.resembles_put hused _
  · intro oid hnot
    have hne : write.oid ≠ oid := fun heq => hnot (heq ▸ hmem)
    rw [hnow]
    refine .of_told (Store.object?_put_of_ne hne.symm) fun n hn => ?_
    have hoid : n.oid = write.oid :=
      Place.oid_of_mem_notified_of_upNext? hnext (t := s.agent.store.load write) (htaken ▸ hn)
    rwa [hoid]
  · obtain ⟨rfl, rfl, rfl⟩ := Activity.working.inj (hc.symm.trans hgoesOn)
    rw [hnow]
    rw [hf.resembles.policy_eq] at hnext
    exact ⟨ts, _, _, hunderway.step hitems hnext htaken⟩

/-- A turn changes and tells nothing. -/
theorem Follows.turned (h : s.Orderly a) (hf : s.Follows b past)
    (hworking : (s.client i).activity = .working requester bindings place)
    (hc : c.activity = .working requester bindings place.turn) :
    (s.withClient i c).Follows b past := by
  obtain ⟨hheld, -⟩ := h.of_working hworking
  obtain ⟨ts, asked, mine, hunderway⟩ := hf.underway hworking
  have hself : ((s.withClient i c).client i).activity =
      .working requester bindings place.turn := by simp [withClient, hc]
  refine hf.within h rfl (fun oid => by rw [hheld]) (.refl _) (.refl b) (fun _ _ => .refl _ _)
    (fun _ _ => .refl _ _) (fun oid hoid hrest => absurd hoid (hrest i hself)) fun hgoesOn => ?_
  obtain ⟨rfl, rfl, rfl⟩ := Activity.working.inj (hc.symm.trans hgoesOn)
  exact ⟨ts, asked, mine, hunderway.turn⟩

/-- A batch that has come to its end leaves all as if it had just been served. -/
theorem Follows.ended (h : s.Orderly a) (hf : s.Follows b past) {writes : List PendingWrite}
    {stop : Option (Nat × Stop)}
    (hworking : (s.client i).activity = .working requester bindings (.ended writes stop))
    (hagent : s'.agent = s.agent) (htold : s'.told = s.told)
    (hclient : s'.client = fun j => if j = i then c else s.client j)
    (hc : ∀ requester bindings place, c.activity ≠ .working requester bindings place) :
    s'.Follows (b.serve (.set requester bindings)).after
      (past ++ b.notifiedBy (.set requester bindings)) := by
  obtain ⟨hheld, hitems⟩ := h.of_working hworking
  obtain ⟨ts, asked, mine, hunderway⟩ := hf.underway hworking
  obtain ⟨-, hown, helsewhere⟩ := hunderway.ended hitems
  have hnow : s'.now = s.now := by rw [now, now, hagent, htold]
  exact hf.within h hclient (fun oid => by rw [hheld]) (hagent ▸ .refl _)
    (Agent.resembles_afterAll b [.set requester bindings]) (fun _ _ => hnow ▸ .refl _ _) helsewhere
    (fun oid hoid _ => hnow ▸ hown oid hoid) fun hgoesOn => absurd hgoesOn (hc _ _ _)

/-- After a move of a client the service still follows an agent that serves the requests one after
another. If the move replies to a request, the reply is the one that this agent gives. -/
theorem Follows.move (h : s.Orderly a) (hf : s.Follows b past) (hmove : s.move i = some s') :
    (s'.served = s.served ∧ s'.Follows b past) ∨
      ∃ request, s'.served = s.served ++ [⟨i, request, (b.serve request).reply⟩] ∧
        s'.Follows (b.serve request).after (past ++ b.notifiedBy request) := by
  cases moves_of_move hmove with
  | @replied request pending reply hidle hpending horder =>
    rw [Agent.lockOrder_congr hf.resembles] at horder
    obtain ⟨hserve, hsilent⟩ := Agent.serve_of_lockOrder_eq_error horder
    refine .inr ⟨request, ?_, ?_⟩
    · rw [hserve]
      rfl
    · rw [hserve, hsilent, List.append_nil]
      exact hf.rest rfl rfl rfl (by simp [hidle]) (by simp)
  | admitted hidle hpending horder =>
    exact .inl ⟨rfl, hf.rest rfl rfl rfl (by simp [hidle]) (by simp)⟩
  | locked hlocking hfree =>
    exact .inl ⟨rfl, hf.rest rfl rfl rfl (by simp [hlocking]) (by simp)⟩
  | started hlocking hwrites => exact .inl ⟨rfl, hf.started h hlocking hwrites rfl⟩
  | @served request hlocking hnoBatch =>
    rw [hf.reply_eq h hlocking hnoBatch]
    obtain ⟨hafter, hsilent⟩ := Agent.serve_of_noBatch b hnoBatch
    refine .inr ⟨request, rfl, ?_⟩
    rw [hafter, hsilent, List.append_nil]
    exact hf.rest rfl rfl rfl (by simp [hlocking]) (by simp)
  | @stepped requester bindings place write step body hworking hnext hfound =>
    have hused : s.agent.store.contains write.oid := by simp [Store.contains_eq_isSome, hfound]
    obtain rfl := Store.bodyAt_of_object? hfound
    exact .inl ⟨rfl, hf.stepped h hworking hnext rfl hused rfl rfl rfl rfl⟩
  | turned hworking hnext hnotEnded => exact .inl ⟨rfl, hf.turned h hworking rfl⟩
  | @ended requester bindings writes stop hworking =>
    rw [hf.answer_eq h hworking]
    exact .inr ⟨_, rfl, hf.ended h hworking rfl rfl rfl (by simp)⟩
  | released hleaving hheld =>
    exact .inl ⟨rfl, hf.rest rfl rfl rfl (by simp [hleaving]) (by simp [hleaving])⟩
  | left hleaving hheld =>
    exact .inl ⟨rfl, hf.rest rfl rfl rfl (by simp [hleaving]) (by simp)⟩

/-- Over any turns the service replies as an agent does that serves one request after another, and
follows this agent. -/
theorem Follows.run (h : s.Orderly a) (hf : s.Follows b past) (turns : List ι) :
    ∃ later : List (Served ι), (s.run turns).served = s.served ++ later ∧
      later.map Served.reply =
        (b.session (later.map Served.request)).map Exchange.reply ∧
      (s.run turns).Follows (b.afterAll (later.map Served.request))
        (past ++ b.history (later.map Served.request)) := by
  induction turns generalizing s b past with
  | nil =>
    refine ⟨[], (List.append_nil _).symm, rfl, ?_⟩
    simpa [Service.run, Agent.afterAll, Agent.history] using hf
  | cons i turns ih =>
    rw [Service.run]
    cases hmove : s.move i with
    | none => exact ih h hf
    | some s' =>
      rcases hf.move h hmove with ⟨hserved, hfollows⟩ | ⟨request, hserved, hfollows⟩
      · rw [Option.getD_some, ← hserved]
        exact ih (h.move hmove) hfollows
      · obtain ⟨later, hlater, hreplies, hfollows'⟩ := ih (h.move hmove) hfollows
        refine ⟨⟨i, request, (b.serve request).reply⟩ :: later, ?_, ?_, ?_⟩
        · rw [Option.getD_some, hlater, hserved, List.append_assoc, List.singleton_append]
        · rw [List.map_cons, List.map_cons, Agent.session, List.map_cons, hreplies]
        · rw [List.map_cons, Agent.afterAll, Agent.history, ← List.append_assoc]
          exact hfollows'

end Moves

end Service

/-! ## Each client's own requests -/

/-- The requests of a client that have not been replied to, in the order in which it makes
them. -/
def Client.ahead (c : Client) : List Request :=
  match c.activity with
  | .idle | .leaving _ => c.pending
  | .locking request _ => request :: c.pending
  | .working requester bindings _ => .set requester bindings :: c.pending

/-- The replies to the requests of a client, the one that it has still to receive included. -/
def Client.answers (c : Client) : List Reply :=
  match c.activity with
  | .leaving reply => c.replies ++ [reply]
  | _ => c.replies

namespace Service

variable {ι : Type} [DecidableEq ι] {requests : ι → List Request} {s s' : Service ι} {i : ι}
  {c : Client}

/-- The requests of a client that have been served, with their replies. -/
def servedTo (s : Service ι) (i : ι) : List (Served ι) := s.served.filter fun x => x.client = i

/-- Each client's requests are served in the order in which it makes them, and the replies reach
it in this order. -/
structure Accounts (requests : ι → List Request) (s : Service ι) : Prop where
  requests_eq : ∀ i, (s.servedTo i).map Served.request ++ (s.client i).ahead = requests i
  answers_eq : ∀ i, (s.servedTo i).map Served.reply = (s.client i).answers

/-- At the start all requests are ahead. -/
theorem accounts_start (a : Agent) (requests : ι → List Request) :
    (start a requests).Accounts requests where
  requests_eq _ := rfl
  answers_eq _ := rfl

/-- A move that replies to no request leaves what is ahead and what has been answered. -/
theorem Accounts.of_served_eq (h : s.Accounts requests) (hserved : s'.served = s.served)
    (hclient : s'.client = fun j => if j = i then c else s.client j)
    (hahead : c.ahead = (s.client i).ahead) (hanswers : c.answers = (s.client i).answers) :
    s'.Accounts requests := by
  have hsame (j : ι) : (s'.client j).ahead = (s.client j).ahead ∧
      (s'.client j).answers = (s.client j).answers := by
    by_cases hj : j = i <;> simp [hclient, hj, hahead, hanswers]
  constructor
  · intro j
    rw [servedTo, hserved, (hsame j).1]
    exact h.requests_eq j
  · intro j
    rw [servedTo, hserved, (hsame j).2]
    exact h.answers_eq j

/-- A reply to the first request that a client has ahead is the next of its answers. -/
theorem Accounts.reply (h : s.Accounts requests) {request : Request} {reply : Reply}
    (hahead : (s.client i).ahead = request :: c.pending)
    (hanswers : (s.client i).answers = c.replies) :
    (s.reply i c request reply).Accounts requests := by
  have hserved (j : ι) : (s.reply i c request reply).servedTo j =
      s.servedTo j ++ if j = i then [⟨i, request, reply⟩] else [] := by
    by_cases hj : j = i
    · simp [servedTo, Service.reply, withClient, hj]
    · simp [servedTo, Service.reply, withClient, hj, Ne.symm hj]
  have hself : (s.reply i c request reply).client i = { c with activity := .leaving reply } := by
    simp [Service.reply, withClient]
  constructor
  · intro j
    rw [hserved, ← h.requests_eq j]
    by_cases hj : j = i
    · subst hj
      rw [hahead, hself]
      simp [Client.ahead]
    · simp [Service.reply, withClient, hj]
  · intro j
    rw [hserved, List.map_append, h.answers_eq j]
    by_cases hj : j = i
    · subst hj
      rw [hanswers, hself]
      simp [Client.answers]
    · simp [Service.reply, withClient, hj]

/-- Requests stay accounted for at each move. -/
theorem Accounts.move (h : s.Accounts requests) (hmove : s.move i = some s') :
    s'.Accounts requests := by
  cases moves_of_move hmove with
  | replied hidle hpending horder =>
    exact h.reply (by simp [Client.ahead, hidle, hpending]) (by simp [Client.answers, hidle])
  | admitted hidle hpending horder =>
    exact h.of_served_eq rfl rfl (by simp [Client.ahead, hidle, hpending])
      (by simp [Client.answers, hidle])
  | locked hlocking hfree =>
    exact h.of_served_eq rfl rfl (by simp [Client.ahead, hlocking])
      (by simp [Client.answers, hlocking])
  | started hlocking hwrites =>
    exact h.of_served_eq rfl rfl (by simp [Client.ahead, hlocking])
      (by simp [Client.answers, hlocking])
  | served hlocking hnoBatch =>
    exact h.reply (by simp [Client.ahead, hlocking]) (by simp [Client.answers, hlocking])
  | stepped hworking hnext hfound =>
    exact h.of_served_eq rfl rfl (by simp [Client.ahead, hworking])
      (by simp [Client.answers, hworking])
  | turned hworking hnext hnotEnded =>
    exact h.of_served_eq rfl rfl (by simp [Client.ahead, hworking])
      (by simp [Client.answers, hworking])
  | ended hworking =>
    exact h.reply (by simp [Client.ahead, hworking]) (by simp [Client.answers, hworking])
  | released hleaving hheld =>
    exact h.of_served_eq rfl rfl (by simp [Client.ahead, hleaving])
      (by simp [Client.answers, hleaving])
  | left hleaving hheld =>
    exact h.of_served_eq rfl rfl (by simp [Client.ahead, hleaving])
      (by simp [Client.answers, hleaving])

/-- After any turns the service follows the agent that has served the same requests one after
another, and has replied to them as that agent does. -/
theorem follows_run (a : Agent) (requests : ι → List Request) (turns : List ι) :
    let s := (start a requests).run turns
    let order := s.served.map Served.request
    s.served.map Served.reply = (a.session order).map Exchange.reply ∧
      s.Follows (a.afterAll order) (a.history order) := by
  intro s order
  obtain ⟨later, hserved, hreplies, hfollows⟩ :=
    (follows_start a requests).run (orderly_start a requests) turns
  obtain rfl : s.served = later := hserved
  exact ⟨hreplies, hfollows⟩

/-- However several clients take turns, their requests are served as if they were made one after
another, in the order in which they are replied to, which is that of each client for its own
requests: all replies are the same, and so is each object that is not locked and what its observers
have been told. -/
theorem run_serves_serially (a : Agent) (requests : ι → List Request) (turns : List ι) :
    let s := (start a requests).run turns
    let order := s.served.map Served.request
    s.served.map Served.reply = (a.session order).map Exchange.reply ∧
      (∀ i, (s.servedTo i).map Served.request ++ (s.client i).ahead = requests i ∧
        (s.servedTo i).map Served.reply = (s.client i).answers) ∧
      ∀ oid ∉ s.locked, s.agent.store.object? oid = (a.afterAll order).store.object? oid ∧
        s.told.filter (fun n => n.oid = oid) =
          (a.history order).filter fun n => n.oid = oid := by
  intro s order
  have horderly : s.Orderly a := (orderly_start a requests).run turns
  have haccounts : s.Accounts requests :=
    run_induction (fun h hmove => h.move hmove) (accounts_start a requests) turns
  obtain ⟨hreplies, hfollows⟩ := follows_run a requests turns
  refine ⟨hreplies, fun i => ⟨haccounts.requests_eq i, haccounts.answers_eq i⟩, fun oid hfree => ?_⟩
  have hsettled := hfollows.settled (horderly.atRest_of_not_mem_locked hfree)
  exact ⟨hsettled.object?_eq, hsettled.told_eq⟩

/-- When all clients have had all their replies, the agent is as if their requests had been made
one after another. -/
theorem agent_of_isOver (a : Agent) (requests : ι → List Request) (turns : List ι)
    (hover : ((start a requests).run turns).IsOver) :
    let s := (start a requests).run turns
    s.agent = a.afterAll (s.served.map Served.request) ∧
      ∀ i, (s.servedTo i).map Served.request = requests i ∧
        (s.servedTo i).map Served.reply = (s.client i).replies := by
  intro s
  obtain ⟨-, haccounts, -⟩ := run_serves_serially a requests turns
  obtain ⟨-, hfollows⟩ := follows_run a requests turns
  have hrest (oid : Oid) : s.AtRest oid := fun i {_ _ _} hworking =>
    nomatch (hover i).1.symm.trans hworking
  refine ⟨?_, fun i => ?_⟩
  · have hstore : s.agent.store = (a.afterAll (s.served.map Served.request)).store :=
      Store.eq_of_object?_eq fun oid => (hfollows.settled (hrest oid)).object?_eq
    have hpolicy := hfollows.resembles.policy_eq
    have hmax := hfollows.resembles.maxBindings_eq
    exact congr (congr (congrArg Agent.mk hstore) hpolicy) hmax
  · obtain ⟨hidle, hpending⟩ := hover i
    obtain ⟨hrequests, hanswers⟩ := haccounts i
    simp only [Client.ahead, hidle, hpending, List.append_nil] at hrequests
    simp only [Client.answers, hidle] at hanswers
    exact ⟨hrequests, hanswers⟩

/-- However many clients write to a counter at once, it moves on by one for each of their batches
that is accepted. -/
theorem counts_run {a : Agent} {oid : Oid} {n : Int32} (hcounts : a.store.Counts oid n)
    (requests : ι → List Request) (turns : List ι) :
    let s := (start a requests).run turns
    oid ∉ s.locked → ∃ m, s.agent.store.value? oid = some (.integer m) ∧
      m.toInt = (n.toInt + s.served.countP fun x =>
        x.reply.isAccepted && x.request.addresses oid) % 2 ^ 31 := by
  intro s hfree
  obtain ⟨hreplies, -, hstore⟩ := run_serves_serially a requests turns
  obtain ⟨m, hm, htotal⟩ := Agent.counts_afterAll hcounts (s.served.map Served.request)
  refine ⟨m, ?_, ?_⟩
  · rw [← hm.value?_eq, Store.value?, Store.value?, (hstore oid hfree).1]
  · -- requests and replies are paired up alike among those served and in the session
    have hpairs : s.served.map (fun x => (x.request, x.reply)) =
        (a.session (s.served.map Served.request)).map fun x => (x.request, x.reply) := by
      rw [← List.zip_map', ← List.zip_map', hreplies, Agent.map_request_session]
    have hcount := congrArg (List.countP fun x : Request × Reply =>
      x.2.isAccepted && x.1.addresses oid) hpairs
    rw [List.countP_map, List.countP_map] at hcount
    rw [htotal]
    exact congrArg (fun k : Nat => (n.toInt + k) % 2 ^ 31) hcount.symm

end Service

end SnmpSet
