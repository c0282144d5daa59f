import SnmpSet.Proofs.Session.Events

/-!
# Time stamps over a run

While an agent serves requests, its time stamps are attached to clocks and set to what these
read, and the clocks go on. No request reaches a time stamp. So a time stamp holds the
reading that was taken last of the clock that it was attached to at the time.
-/

namespace SnmpSet

namespace Event

/-- The clock that the object at an address is attached to after an event. -/
def attached (oid : Oid) (clock : Option Clock) : Event → Option Clock
  | .attach address clock' => if address = oid then some clock' else clock
  | .request _ | .stamp _ | .clocks _ => clock

/-- The reading that an event takes for the object at an address. -/
def taken? (oid : Oid) (clock : Option Clock) (readings : Readings) : Event → Option TimeTicks
  | .stamp address => if address = oid then clock.map readings else none
  | .request _ | .attach _ _ | .clocks _ => none

end Event

/-- The clock that the object at an address is attached to after a run. -/
def attachedAfter (oid : Oid) (clock : Option Clock) (run : List Event) : Option Clock :=
  run.foldl (Event.attached oid) clock

/-- The readings that a run takes for the object at an address, the first one first. -/
def World.taken (w : World) (oid : Oid) (clock : Option Clock) : List Event → List TimeTicks
  | [] => []
  | event :: run =>
    (event.taken? oid clock w.readings).toList ++
      (w.after event).taken oid (event.attached oid clock) run

/-- A time stamp that is attached to a clock, or to none, and holds a reading. -/
def ObjectBody.stamped (clock : Option Clock) (ticks : TimeTicks) (rules : RuleList)
    (observers : List Observer) : ObjectBody :=
  { value := .timeTicks ticks, kind := .timeStamp ⟨clock⟩, rules, observers }

/-- Time stamps are stuck: they are not writable. -/
theorem ObjectBody.stuck_stamped (clock : Option Clock) (ticks : TimeTicks) (rules : RuleList)
    (observers : List Observer) : (stamped clock ticks rules observers).Stuck := by
  intro proposed requester hprepared
  obtain ⟨hwritable, -⟩ := verdict_prepare_eq_ok.mp hprepared
  cases hwritable

namespace World

variable {w : World} {oid : Oid} {clock : Option Clock} {ticks : TimeTicks} {rules : RuleList}
  {observers : List Observer}

/-- The object at an address is a time stamp with a clock and a reading, in a world whose keys
are bounded. -/
structure HasStamp (w : World) (oid : Oid) (clock : Option Clock) (ticks : TimeTicks)
    (rules : RuleList) (observers : List Observer) : Prop where
  bounded : w.agent.store.KeysBounded
  found : w.agent.store.object? oid = some ⟨oid, .stamped clock ticks rules observers⟩

/-- A time stamp is attached to a clock in place of the one before. -/
theorem HasStamp.attaching_eq (hstamp : w.HasStamp oid clock ticks rules observers) (c : Clock) :
    w.attaching oid c =
      .ok (some ())
        ⟨w.agent.store.put ⟨oid, .stamped (some c) ticks rules observers⟩, w.told⟩ := by
  have hgranted : (ObjectBody.attachClock oid c).run
      ⟨.stamped clock ticks rules observers, w.told⟩ =
        .ok () ⟨.stamped (some c) ticks rules observers, w.told⟩ :=
    ObjectBody.attachClock_of_timeStamp rfl c
  exact Store.updateAt_of_ok (s := w.watched) hstamp.found hgranted

/-- A time stamp that is attached to a clock is set to what that reads, and its observers are
told. -/
theorem HasStamp.stamping_of_attached {c : Clock}
    (hstamp : w.HasStamp oid (some c) ticks rules observers) :
    w.stamping oid = .ok (some (w.readings c))
      ⟨w.agent.store.put ⟨oid, .stamped (some c) (w.readings c) rules observers⟩,
        w.told ++ observers.map fun observer =>
          ⟨observer, oid, .timeTicks ticks, .timeTicks (w.readings c)⟩⟩ := by
  have hgranted : (ObjectBody.stampNow oid w.readings).run
      ⟨.stamped (some c) ticks rules observers, w.told⟩ =
        .ok (w.readings c) ⟨.stamped (some c) (w.readings c) rules observers,
          w.told ++ observers.map fun observer =>
            ⟨observer, oid, .timeTicks ticks, .timeTicks (w.readings c)⟩⟩ :=
    ObjectBody.stampNow_of_attached rfl w.readings
  exact Store.updateAt_of_ok (s := w.watched) hstamp.found hgranted

/-- A time stamp that is attached to no clock is at fault, and all is as it was. -/
theorem HasStamp.stamping_of_unattached (hstamp : w.HasStamp oid none ticks rules observers) :
    w.stamping oid = .error (.unattached oid "time source") w.watched :=
  Store.updateAt_of_fault hstamp.found (ObjectBody.stampNow_of_unattached rfl w.readings)

/-- Setting an object leaves what is then left of the objects. -/
theorem after_stamp_of_ok {read : Option TimeTicks} {s : Watched Store}
    (hstamping : w.stamping oid = .ok read s) : w.after (.stamp oid) = w.withWatched s := by
  rw [after, Watched.after_of_ok hstamping]

/-- A fault at setting an object that leaves the objects as they were leaves all as it was. -/
theorem after_stamp_of_fault {fault : Fault} (hstamping : w.stamping oid = .error fault w.watched) :
    w.after (.stamp oid) = w := by
  rw [after, Watched.after_of_fault hstamping]
  rfl

/-- Attaching an object leaves what is then left of the objects. -/
theorem after_attach_of_ok {c : Clock} {done : Option Unit} {s : Watched Store}
    (hattaching : w.attaching oid c = .ok done s) :
    w.after (.attach oid c) = w.withWatched s := by
  rw [after, Watched.after_of_ok hattaching]

/-- A fault at attaching an object that leaves the objects as they were leaves all as it was. -/
theorem after_attach_of_fault {c : Clock} {fault : Fault}
    (hattaching : w.attaching oid c = .error fault w.watched) : w.after (.attach oid c) = w := by
  rw [after, Watched.after_of_fault hattaching]
  rfl

/-- What one event makes of a time stamp. -/
theorem HasStamp.after (hstamp : w.HasStamp oid clock ticks rules observers) (event : Event) :
    (w.after event).HasStamp oid (event.attached oid clock)
      ((event.taken? oid clock w.readings).getD ticks) rules observers := by
  refine ⟨keysBounded_after hstamp.bounded event, ?_⟩
  cases event with
  | request request =>
    have hstuck := ObjectBody.stuck_stamped clock ticks rules observers
    exact (Agent.keeps_stuck hstamp.found hstuck request).2
  | attach address c =>
    by_cases hoid : address = oid
    · subst hoid
      rw [after_attach_of_ok (hstamp.attaching_eq c), Event.attached, if_pos rfl]
      exact Store.object?_put_self w.agent.store ⟨address, _⟩
    · rw [Event.attached, if_neg hoid]
      exact (Store.object?_updateAt_of_ne (Ne.symm hoid)).trans hstamp.found
  | stamp address =>
    by_cases hoid : address = oid
    · subst hoid
      rw [Event.taken?, if_pos rfl]
      cases clock with
      | none =>
        rw [after_stamp_of_fault hstamp.stamping_of_unattached]
        exact hstamp.found
      | some c =>
        rw [after_stamp_of_ok hstamp.stamping_of_attached]
        exact Store.object?_put_self w.agent.store ⟨address, _⟩
    · rw [Event.taken?, if_neg hoid]
      exact (Store.object?_updateAt_of_ne (Ne.symm hoid)).trans hstamp.found
  | clocks readings => exact hstamp.found

/-- What a run makes of a time stamp: it is attached to the clock that it was attached to last,
and holds the reading that was taken last. -/
theorem HasStamp.afterAll (hstamp : w.HasStamp oid clock ticks rules observers)
    (run : List Event) :
    (w.afterAll run).HasStamp oid (attachedAfter oid clock run)
      ((w.taken oid clock run).getLast?.getD ticks) rules observers := by
  induction run generalizing w clock ticks with
  | nil => exact hstamp
  | cons event run ih =>
    -- the reading that the first event takes counts only if the others take none
    have hlast : (w.taken oid clock (event :: run)).getLast?.getD ticks =
        ((w.after event).taken oid (event.attached oid clock) run).getLast?.getD
          ((event.taken? oid clock w.readings).getD ticks) := by
      rw [taken, List.getLast?_append]
      cases event.taken? oid clock w.readings <;>
        cases ((w.after event).taken oid (event.attached oid clock) run).getLast? <;> rfl
    rw [hlast]
    exact ih (hstamp.after event)

/-- The readings of a run are those of its first part and then those of the rest. -/
theorem taken_append (w : World) (oid : Oid) (clock : Option Clock)
    (first later : List Event) :
    w.taken oid clock (first ++ later) = w.taken oid clock first ++
      (w.afterAll first).taken oid (attachedAfter oid clock first) later := by
  induction first generalizing w clock with
  | nil => rfl
  | cons event first ih =>
    rw [List.cons_append, taken, taken, ih, List.append_assoc]
    rfl

/-- No reading is taken where there is no stamping with a clock attached. -/
theorem taken_eq_nil {run : List Event}
    (hunattached : ∀ first later, run = first ++ .stamp oid :: later →
      attachedAfter oid clock first = none) : w.taken oid clock run = [] := by
  induction run generalizing w clock with
  | nil => rfl
  | cons event run ih =>
    have hhead : event.taken? oid clock w.readings = none := by
      cases event with
      | stamp address =>
        rw [Event.taken?]
        split
        · next hoid =>
          obtain rfl := hoid
          have hclock : clock = none := hunattached [] run rfl
          rw [hclock, Option.map_none]
        · rfl
      | request _ | attach _ _ | clocks _ => rfl
    have htail : (w.after event).taken oid (event.attached oid clock) run = [] :=
      ih fun first later hsplit =>
        hunattached (event :: first) later (by rw [hsplit, List.cons_append])
    rw [taken, hhead, htail]
    rfl

/-- A stamping with a clock attached, and none after it, takes the last reading of a run. -/
theorem getLast?_taken {first later : List Event} {c : Clock}
    (hattached : attachedAfter oid clock first = some c) (hlatest : .stamp oid ∉ later) :
    (w.taken oid clock (first ++ .stamp oid :: later)).getLast? =
      some ((w.afterAll first).readings c) := by
  have hhead : (Event.stamp oid).taken? oid (some c) (w.afterAll first).readings =
      some ((w.afterAll first).readings c) := if_pos rfl
  -- whether a clock is attached later on does not matter: nothing asks for a reading there
  have htail : ((w.afterAll first).after (.stamp oid)).taken oid
      ((Event.stamp oid).attached oid (some c)) later = [] := taken_eq_nil
    fun first' later' hsplit => absurd (by simp [hsplit]) hlatest
  rw [taken_append, hattached, taken, hhead, htail, List.append_nil, Option.toList_some,
    List.getLast?_concat]

/-- What a run leaves of a time stamp that starts at zero, and what comes of asking for more. -/
structure StampsInRun (w : World) (oid : Oid) (clock : Option Clock) (rules : RuleList)
    (observers : List Observer) (run : List Event) : Prop where
  /-- The object is a time stamp with the clock that was attached last and the reading that was
  taken last, or zero. -/
  object_eq : (w.afterAll run).object? oid = some ⟨oid, .stamped (attachedAfter oid clock run)
    ((w.taken oid clock run).getLast?.getD ⟨0⟩) rules observers⟩
  /-- It holds zero as long as it has not been set with a clock attached. -/
  value_unset : (∀ first later, run = first ++ .stamp oid :: later →
      attachedAfter oid clock first = none) →
    (w.afterAll run).agent.store.value? oid = some (.timeTicks ⟨0⟩)
  /-- It holds what the clock read that was attached when it was set last. -/
  value_latest : ∀ first later c, run = first ++ .stamp oid :: later →
    attachedAfter oid clock first = some c → .stamp oid ∉ later →
    (w.afterAll run).agent.store.value? oid = some (.timeTicks ((w.afterAll first).readings c))
  /-- With a clock attached, setting it answers what the clock reads, stores this, tells every
  observer once for each attachment, and changes no other object. -/
  stamp_attached : ∀ c, attachedAfter oid clock run = some c →
    ∃ old, (w.afterAll run).agent.store.value? oid = some old ∧
      (∃ s, (w.afterAll run).stamping oid = .ok (some ((w.afterAll run).readings c)) s) ∧
      ((w.afterAll run).after (.stamp oid)).object? oid =
        some ⟨oid, .stamped (some c) ((w.afterAll run).readings c) rules observers⟩ ∧
      ((w.afterAll run).after (.stamp oid)).told = (w.afterAll run).told ++
        observers.map (fun observer =>
          ⟨observer, oid, old, .timeTicks ((w.afterAll run).readings c)⟩) ∧
      ∀ other, other ≠ oid → ((w.afterAll run).after (.stamp oid)).object? other =
        (w.afterAll run).object? other
  /-- With no clock attached, setting it is a fault that changes nothing, and nobody is told. -/
  stamp_unattached : attachedAfter oid clock run = none →
    (w.afterAll run).stamping oid =
        .error (.unattached oid "time source") (w.afterAll run).watched ∧
      (w.afterAll run).after (.stamp oid) = w.afterAll run ∧
      ((w.afterAll run).after (.stamp oid)).told = (w.afterAll run).told
  /-- A batch with a binding for it is refused and changes nothing, and nobody is told. -/
  set_refused : ∀ requester bindings, oid ∈ bindings.map VarBind.oid →
    (∃ r, ((w.afterAll run).agent.set requester bindings).answer = .response r ∧
      r.status ≠ .noError) ∧
    (w.afterAll run).after (.request (.set requester bindings)) = w.afterAll run
  /-- Attaching a clock to an object of another kind, or setting one, is a fault that changes
  nothing, and nobody is told. -/
  other_kinds : ∀ address body, (w.afterAll run).object? address = some ⟨address, body⟩ →
    (∀ stamp, body.kind ≠ .timeStamp stamp) →
    (w.afterAll run).stamping address =
      .error (.unattached address "time stamp kind") (w.afterAll run).watched ∧
    (w.afterAll run).after (.stamp address) = w.afterAll run ∧
    ∀ c, (w.afterAll run).attaching address c =
        .error (.unattached address "time stamp kind") (w.afterAll run).watched ∧
      (w.afterAll run).after (.attach address c) = w.afterAll run

/-- A batch with a binding for a time stamp is refused and changes nothing. -/
theorem HasStamp.set_refused (hstamp : w.HasStamp oid clock ticks rules observers)
    {bindings : List VarBind} (haddressed : oid ∈ bindings.map VarBind.oid)
    (requester : Requester) :
    (∃ r, (w.agent.set requester bindings).answer = .response r ∧ r.status ≠ .noError) ∧
      w.after (.request (.set requester bindings)) = w := by
  have hstuck := ObjectBody.stuck_stamped clock ticks rules observers
  obtain ⟨hanswer, hagent, hsilent⟩ :=
    Agent.set_of_stuck hstamp.bounded hstamp.found hstuck haddressed requester
  refine ⟨hanswer, ?_⟩
  change { w with
    agent := (w.agent.set requester bindings).agent
    told := w.told ++ (w.agent.set requester bindings).notified } = w
  rw [hagent, hsilent, List.append_nil]

/-- Time stamps change only by being set to what their clocks read. A time stamp holds zero
until it is set with a clock attached for the first time, and then what the clock read when
this was done last. Setting it is a fault just while no clock is attached, and no request
writes it or anything along with it. -/
theorem stamps_in_run {oid : Oid} {clock : Option Clock} {rules : RuleList}
    {observers : List Observer} (hbounded : w.agent.store.KeysBounded)
    (hfound : w.agent.store.object? oid =
      some ⟨oid, { (ManagedObject.timeStamp oid clock).body with rules, observers }⟩)
    (run : List Event) : w.StampsInRun oid clock rules observers run := by
  have hstart : w.HasStamp oid clock ⟨0⟩ rules observers := ⟨hbounded, hfound⟩
  have hstamp := hstart.afterAll run
  have hvalue := Store.value?_of_object? hstamp.found
  refine
    { object_eq := hstamp.found
      value_unset := fun hunattached => ?unset
      value_latest := fun first later c hsplit hattached hlatest => ?latest
      stamp_attached := fun c hattached => ?attached
      stamp_unattached := fun hunattached => ?unattached
      set_refused := fun requester bindings haddressed => hstamp.set_refused haddressed requester
      other_kinds := fun address body hother hkind => ?other }
  case unset =>
    rw [hvalue, taken_eq_nil hunattached]
    rfl
  case latest =>
    subst hsplit
    rw [hvalue, getLast?_taken hattached hlatest]
    rfl
  case attached =>
    rw [hattached] at hstamp
    have hstamping := hstamp.stamping_of_attached
    refine ⟨_, hvalue, ⟨_, hstamping⟩, ?_, ?_, fun other hne => ?_⟩
    · rw [after_stamp_of_ok hstamping]
      exact Store.object?_put_self _ ⟨oid, _⟩
    · rw [after_stamp_of_ok hstamping]
      rfl
    · exact Store.object?_updateAt_of_ne hne
  case unattached =>
    rw [hunattached] at hstamp
    have hkept := after_stamp_of_fault hstamp.stamping_of_unattached
    exact ⟨hstamp.stamping_of_unattached, hkept, congrArg told hkept⟩
  case other =>
    have hstamping : (w.afterAll run).stamping address = _ :=
      Store.updateAt_of_fault hother (ObjectBody.stampNow_of_otherKind hkind _)
    refine ⟨hstamping, after_stamp_of_fault hstamping, fun c => ?_⟩
    have hattaching : (w.afterAll run).attaching address c = _ :=
      Store.updateAt_of_fault hother (ObjectBody.attachClock_of_otherKind hkind c)
    exact ⟨hattaching, after_attach_of_fault hattaching⟩

/-- An observed time stamp that is attached to no clock and a plain object, and clocks that read
zero. -/
def withLateClock : World where
  agent := .ofStore <| Store.empty
    |>.put ((ManagedObject.timeStamp ⟨[1, 1]⟩ none).observedBy ⟨1⟩)
    |>.put (ManagedObject.plain ⟨[1, 2]⟩ (.integer 0))
  readings _ := ⟨0⟩
  told := []

/-- The stamp is set too early, and then attached to a clock that goes on to seven. -/
def upToSeven : List Event :=
  [.stamp ⟨[1, 1]⟩, .attach ⟨[1, 1]⟩ ⟨0⟩, .clocks fun _ => ⟨7⟩]

/-- A batch proposes five for the plain object and eight for the stamp, and the clock goes on to
nine. -/
def upToNine : List Event :=
  [.request (.set none [⟨⟨[1, 2]⟩, .integer 5⟩, ⟨⟨[1, 1]⟩, .timeTicks ⟨8⟩⟩]), .clocks fun _ => ⟨9⟩]

/-- The world after these, where the stamp is set in between. -/
def atNine : World := withLateClock.afterAll (upToSeven ++ .stamp ⟨[1, 1]⟩ :: upToNine)

/-- The stamp holds seven at the end. It would be set to nine now, but no batch would write it,
and the plain object would be attached to nothing. In the beginning it was not to be set. -/
theorem withLateClock_stamps_in_run :
    withLateClock.agent.store.KeysBounded ∧
    atNine.agent.store.value? ⟨[1, 1]⟩ = some (.timeTicks ⟨7⟩) ∧
    (atNine.after (.stamp ⟨[1, 1]⟩)).object? ⟨[1, 1]⟩ =
      some ⟨⟨[1, 1]⟩, .stamped (some ⟨0⟩) ⟨9⟩ .empty [⟨1⟩]⟩ ∧
    (∃ r, (atNine.agent.set none [⟨⟨[1, 1]⟩, .timeTicks ⟨7⟩⟩]).answer = .response r ∧
      r.status ≠ .noError) ∧
    atNine.after (.attach ⟨[1, 2]⟩ ⟨0⟩) = atNine ∧
    withLateClock.after (.stamp ⟨[1, 1]⟩) = withLateClock := by
  have hbounded : withLateClock.agent.store.KeysBounded := by decide
  have hfound : withLateClock.agent.store.object? ⟨[1, 1]⟩ = some ⟨⟨[1, 1]⟩,
      { (ManagedObject.timeStamp ⟨[1, 1]⟩ none).body with
        rules := .empty, observers := [⟨1⟩] }⟩ := rfl
  have hrun := stamps_in_run hbounded hfound
  have hend := hrun (upToSeven ++ .stamp ⟨[1, 1]⟩ :: upToNine)
  have hlatest : Event.stamp ⟨[1, 1]⟩ ∉ upToNine := by simp [upToNine]
  have hheld : atNine.agent.store.value? ⟨[1, 1]⟩ = some (.timeTicks ⟨7⟩) :=
    hend.value_latest upToSeven upToNine ⟨0⟩ rfl rfl hlatest
  obtain ⟨-, -, -, hset, -⟩ := hend.stamp_attached ⟨0⟩ rfl
  obtain ⟨hrefused, -⟩ := hend.set_refused none [⟨⟨[1, 1]⟩, .timeTicks ⟨7⟩⟩]
    (List.mem_singleton.mpr rfl)
  have hplain : ∀ stamp, Kind.plain ≠ .timeStamp stamp := by simp
  obtain ⟨-, -, hattached⟩ := hend.other_kinds ⟨[1, 2]⟩ _ rfl hplain
  obtain ⟨-, hunset, -⟩ := (hrun []).stamp_unattached rfl
  exact ⟨hbounded, hheld, hset, hrefused, (hattached ⟨0⟩).2, hunset⟩

end World

end SnmpSet
