import SnmpSet.Proofs.Agent.Outcomes

/-!
# What no request changes

Whatever comes of a request, even if the agent halts at one of its bindings,
an object keeps its address, its kind, its rules and its observers. No step of a
batch touches anything else than a value, so this needs no assumption on the
phases of a batch or on the length of keys.
-/

namespace SnmpSet

/-- All of an object but its address and its value. -/
structure Frame where
  kind : Kind
  rules : RuleList
  observers : List Observer

/-- The frame of a body. -/
def ObjectBody.frame (b : ObjectBody) : Frame := ⟨b.kind, b.rules, b.observers⟩

/-- The frame of the object at an address. -/
def Store.frame? (s : Store) (oid : Oid) : Option Frame :=
  (s.object? oid).map fun o => o.body.frame

/-- Stores with the same frames have keys that are as bounded. -/
theorem Store.KeysBounded.of_frames {s s' : Store} (hbounded : s.KeysBounded)
    (hframes : ∀ oid, s'.frame? oid = s.frame? oid) : s'.KeysBounded := by
  intro o' hmem
  have hframe : s.frame? o'.oid = some o'.body.frame := by
    rw [← hframes, frame?, object?_of_mem_objects hmem, Option.map_some]
  obtain ⟨o, hfound, heq⟩ := Option.map_eq_some_iff.mp hframe
  have hkind : o.body.kind = o'.body.kind := congrArg Frame.kind heq
  rw [← hkind]
  exact hbounded o (mem_objects_of_object? hfound)

namespace Target

/-- The address of a target and the frame of its object. -/
def frame (t : Target) : Oid × Frame := (t.write.oid, t.body.frame)

/-- A write that moves on keeps its address. -/
theorem oid_of_moveTo {w w' : PendingWrite} {phase : Phase} (hmoved : w.moveTo phase = .ok w') :
    w'.oid = w.oid := by
  unfold PendingWrite.moveTo at hmoved
  split at hmoved
  · obtain rfl := Except.ok.inj hmoved
    rfl
  · simp at hmoved

/-- Moving a write on keeps the frame. -/
theorem frame_moveTo (t : Target) (phase : Phase) (asked : List Rule)
    (told : List Notification) : (t.moveTo phase asked told).target.frame = t.frame := by
  unfold moveTo
  split
  · next w hmoved => simp [frame, oid_of_moveTo hmoved]
  · rfl

/-- Failing a write keeps the frame. -/
theorem frame_refuse (t : Target) (e : Refusal) (asked : List Rule) :
    (t.refuse e asked).target.frame = t.frame := by
  unfold refuse PendingWrite.refuse
  cases hmoved : t.write.moveTo .failed with
  | error fault => rfl
  | ok w => simp [Except.map, frame, oid_of_moveTo hmoved]

/-- Prepare keeps the frame. -/
theorem frame_prepare (policy : WritePolicy) (requester : Requester) (t : Target) :
    (t.prepare policy requester).target.frame = t.frame := by
  unfold prepare
  dsimp only
  split
  · exact frame_moveTo t _ _ _
  · exact frame_refuse t _ _
  · rfl

/-- Check keeps the frame. -/
theorem frame_check (t : Target) : t.check.target.frame = t.frame := by
  unfold check
  dsimp only
  split
  · exact frame_moveTo t _ _ _
  · exact frame_refuse t _ _

/-- A commit keeps the frame. -/
theorem frame_commit (t : Target) : t.commit.target.frame = t.frame := by
  unfold commit ObjectBody.commit PendingWrite.commit
  cases t.body.kind.commit t.body.value t.write.proposed with
  | error failure =>
    cases failure with
    | refused e => exact frame_refuse t _ _
    | halted => rfl
  | ok c =>
    cases hmoved : t.write.moveTo .committed with
    | error fault => rfl
    | ok w => simp [Except.map, frame, oid_of_moveTo hmoved, ObjectBody.assign, ObjectBody.frame]

/-- An undo keeps the frame. -/
theorem frame_undo (t : Target) : t.undo.target.frame = t.frame := by
  unfold undo
  split
  · exact frame_moveTo _ _ _ _
  · rfl

end Target

namespace Run

variable {ts : List Target}

/-- A stage keeps all frames if its step does. -/
theorem frames_stage {step : Target → Step} (hstep : ∀ t, (step t).target.frame = t.frame)
    (ts : List Target) : (stage step ts).targets.map Target.frame = ts.map Target.frame := by
  induction ts with
  | nil => rfl
  | cons t ts ih =>
    unfold stage
    dsimp only
    split <;> simp [hstep, ih]

/-- What follows a run keeps all frames if it does so by itself. -/
theorem frames_andThen {r : Run} {next : List Target → Run}
    (hnext : ∀ ts, (next ts).targets.map Target.frame = ts.map Target.frame) :
    (r.andThen next).targets.map Target.frame = r.targets.map Target.frame := by
  unfold andThen
  split
  · rfl
  · exact hnext r.targets

/-- Undoing targets keeps all frames. -/
theorem frames_rollback (ts : List Target) :
    (rollback ts).1.map Target.frame = ts.map Target.frame := by
  simp [rollback, Target.frame_undo]

/-- The commits of a batch keep all frames, undone or not. -/
theorem frames_commitAll (ts : List Target) :
    (commitAll ts).targets.map Target.frame = ts.map Target.frame := by
  have hstage := frames_stage Target.frame_commit ts
  unfold commitAll
  dsimp only
  split
  · next position e hstop =>
    rw [← hstage, List.map_append, frames_rollback, ← List.map_append, List.take_append_drop]
  · exact hstage

/-- A batch keeps all frames. -/
theorem frames_all (policy : WritePolicy) (requester : Requester) (ts : List Target) :
    (all policy requester ts).targets.map Target.frame = ts.map Target.frame := by
  unfold all
  rw [frames_andThen frames_commitAll, frames_andThen (frames_stage Target.frame_check),
    frames_stage (Target.frame_prepare policy requester)]

end Run

namespace Agent

/-- Writing back targets that have kept the frames of their objects keeps the frame
at every address. -/
theorem frame?_writeBack {store : Store} {ts : List Target}
    (hkept : ∀ t ∈ ts, store.frame? t.write.oid = some t.body.frame) (oid : Oid) :
    (writeBack store ts).frame? oid = store.frame? oid := by
  induction ts generalizing store with
  | nil => rfl
  | cons t ts ih =>
    obtain ⟨hhead, htail⟩ := List.forall_mem_cons.mp hkept
    have hput : ∀ oid, (store.put ⟨t.write.oid, t.body⟩).frame? oid = store.frame? oid := by
      intro oid
      by_cases heq : oid = t.write.oid
      · subst heq
        have hself := Store.object?_put_self store ⟨t.write.oid, t.body⟩
        rw [hhead, Store.frame?, hself, Option.map_some]
      · rw [Store.frame?, Store.frame?, Store.object?_put_of_ne heq]
    refine (ih fun u hu => ?_).trans (hput oid)
    rw [hput, htail u hu]

/-- A request leaves nothing of an agent changed but its store, and it keeps the
frame at every address, whatever comes of it. -/
theorem exists_store_set (a : Agent) (requester : Requester) (bindings : List VarBind) :
    ∃ store, (a.set requester bindings).agent = { a with store } ∧
      ∀ oid, store.frame? oid = a.store.frame? oid := by
  unfold set
  split
  · exact ⟨a.store, rfl, fun _ => rfl⟩
  · next ts hresolved =>
    obtain ⟨-, -, hpaired⟩ := resolve_eq_ok.mp hresolved
    obtain ⟨-, hfresh, -, -⟩ := targetsOf_ok hpaired
    refine ⟨_, rfl, frame?_writeBack fun u hu => ?_⟩
    have hframe : u.frame ∈ ts.map Target.frame := by
      rw [← Run.frames_all a.policy requester ts]
      exact List.mem_map_of_mem hu
    obtain ⟨t, ht, heq⟩ := List.mem_map.mp hframe
    obtain ⟨hoid, hbody⟩ := Prod.mk.inj heq
    rw [← hoid, ← hbody, Store.frame?, (hfresh t ht).found, Option.map_some]

end Agent

end SnmpSet
