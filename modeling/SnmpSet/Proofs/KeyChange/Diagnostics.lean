import SnmpSet.Batch.Target
import SnmpSet.Proofs.Completeness
import SnmpSet.Proofs.KeyChange.Coding
import SnmpSet.Proofs.PendingWrite

/-!
# What diagnostics show of a key

Where a value may be secret, diagnostics show its shape: the base type, and of an octet
string the length. A key without rules that is masked with a digest is judged, and fails to
be committed, by shapes alone. So two keys of one shape with proposals of one shape leave
the same texts and the same refusals behind, whatever octets they consist of.
-/

namespace SnmpSet

namespace Value

/-- The base type of a value, and the length of an octet string. -/
structure Shape where
  baseType : BaseType
  length : Option Nat
  deriving DecidableEq

/-- The shape of a value. -/
def shape (v : Value) : Shape := ⟨v.baseType, v.octets?.map List.length⟩

variable {v w : Value}

/-- Values of one shape have one base type. -/
theorem baseType_of_shape (hshape : v.shape = w.shape) : v.baseType = w.baseType :=
  congrArg Shape.baseType hshape

/-- A value with the shape of an octet string is one of the same length. -/
theorem exists_octets_of_shape {bytes : List UInt8} (hshape : (octets bytes).shape = w.shape) :
    ∃ bytes', w = .octets bytes' ∧ bytes.length = bytes'.length := by
  cases w with
  | octets bytes' => exact ⟨bytes', rfl, Option.some.inj (congrArg Shape.length hshape)⟩
  | integer _ | timeTicks _ | objectId _ => cases baseType_of_shape hshape

/-- Of values of one shape both are octet strings of one length, or neither is one. -/
theorem octets_of_shape (hshape : v.shape = w.shape) :
    (∃ bytes bytes', v = .octets bytes ∧ w = .octets bytes' ∧ bytes.length = bytes'.length) ∨
      v.octets? = none ∧ w.octets? = none := by
  cases v with
  | octets bytes =>
    obtain ⟨bytes', rfl, hlength⟩ := exists_octets_of_shape hshape
    exact .inl ⟨bytes, bytes', rfl, rfl, hlength⟩
  | integer _ | timeTicks _ | objectId _ =>
    have hlength := congrArg Shape.length hshape
    exact .inr ⟨rfl, (Option.map_eq_none_iff.mp hlength.symm)⟩

/-- A redacted value that is no octet string shows its base type. -/
theorem redactedText_of_not_octets (hnot : v.octets? = none) :
    v.redactedText = String.join ["<", v.baseType.text, ">"] := by
  cases v with
  | octets bytes => cases hnot
  | integer _ | timeTicks _ | objectId _ => rfl

/-- A redacted value shows no more than its shape. -/
theorem redactedText_of_shape (hshape : v.shape = w.shape) : v.redactedText = w.redactedText := by
  rcases octets_of_shape hshape with ⟨bytes, bytes', rfl, rfl, hlength⟩ | ⟨hnot, hnot'⟩
  · rw [redactedText, redactedText, hlength]
  · rw [redactedText_of_not_octets hnot, redactedText_of_not_octets hnot',
      baseType_of_shape hshape]

end Value

/-! ## Judging and committing by shapes -/

/-- Two commits fail for the same reason, or store and report values of the same shapes. -/
inductive CommitsAlike :
    Except WriteFailure Committed → Except WriteFailure Committed → Prop
  | failed (failure : WriteFailure) : CommitsAlike (.error failure) (.error failure)
  | committed {c c' : Committed} (hstored : c.stored.shape = c'.stored.shape)
      (hreported : c.reported.shape = c'.reported.shape) : CommitsAlike (.ok c) (.ok c')

namespace KeyChangeColumn

variable {column : KeyChangeColumn} {stored stored' proposed proposed' : Value}

/-- A column prepares nothing but octet strings. -/
theorem prepare_of_not_octets (hnot : proposed.octets? = none) :
    column.prepare proposed =
      .error (.refused (.malformed "key change is not an octet string")) := by
  cases proposed with
  | octets _ => cases hnot
  | integer _ | timeTicks _ | objectId _ => rfl

/-- A column prepares proposals of one shape alike. -/
theorem prepare_of_shape (hproposed : proposed.shape = proposed'.shape) :
    column.prepare proposed = column.prepare proposed' := by
  rcases Value.octets_of_shape hproposed with
    ⟨bytes, bytes', rfl, rfl, hlength⟩ | ⟨hnot, hnot'⟩
  · rw [prepare, prepare, hlength]
  · rw [prepare_of_not_octets hnot, prepare_of_not_octets hnot']

/-- Where no key is stored, a commit tells the base type of what is. -/
theorem commit_of_stored_not_octets (hnot : stored.octets? = none) (proposed : Value) :
    column.commit stored proposed =
      .error (.refused (.commitFailed s!"stored key is {stored.baseType}")) := by
  cases stored with
  | octets _ => cases hnot
  | integer _ | timeTicks _ | objectId _ => rfl

/-- A key is changed by nothing but octet strings. -/
theorem commit_of_not_octets (hnot : proposed.octets? = none) (oldKey : List UInt8) :
    column.commit (.octets oldKey) proposed =
      .error (.refused (.malformed "key change is not an octet string")) := by
  cases proposed with
  | octets _ => cases hnot
  | integer _ | timeTicks _ | objectId _ => rfl

/-- With a digest the length of a key-change value decides whether its commit fails, and how
long the keys and the reports of commits are. -/
theorem commitsAlike_of_length (hdigest : column.protocol.UsesDigest)
    (oldKey oldKey' : List UInt8) {keyChange keyChange' : List UInt8}
    (hlength : keyChange.length = keyChange'.length) :
    CommitsAlike (column.commit (.octets oldKey) (.octets keyChange))
      (column.commit (.octets oldKey') (.octets keyChange')) := by
  have hsame : column.prepare (.octets keyChange) = column.prepare (.octets keyChange') := by
    rw [prepare, prepare, hlength]
  cases hprepare : column.prepare (.octets keyChange) with
  | error failure =>
    rw [commit_of_unprepared hprepare, commit_of_unprepared (hsame ▸ hprepare)]
    exact .failed _
  | ok _ =>
    have htests := prepare_octets_eq_ok_iff.mp hprepare
    have htests' := prepare_octets_eq_ok_iff.mp (hsame ▸ hprepare)
    rw [commit_of_derived htests (not_misderives hdigest),
      commit_of_derived htests' (not_misderives hdigest)]
    have hderived : (column.derivedKey oldKey keyChange).length =
        (column.derivedKey oldKey' keyChange').length := by
      rw [derivedKey, derivedKey, hdigest.length_applyDelta, hdigest.length_applyDelta,
        List.length_drop, List.length_drop, hlength]
    refine .committed ?_ ?_
    · simp [Value.shape, Value.octets?, Value.baseType, hderived]
    · simp [Value.shape, Value.octets?, Value.baseType, hderived, hlength]

/-- With a digest the shapes of the stored value and of a proposal decide whether its commit
fails and for which reason, and the shapes of what it stores and reports. -/
theorem commitsAlike_of_shape (hdigest : column.protocol.UsesDigest)
    (hstored : stored.shape = stored'.shape) (hproposed : proposed.shape = proposed'.shape) :
    CommitsAlike (column.commit stored proposed) (column.commit stored' proposed') := by
  rcases Value.octets_of_shape hstored with
    ⟨oldKey, oldKey', rfl, rfl, -⟩ | ⟨hnot, hnot'⟩
  · rcases Value.octets_of_shape hproposed with
      ⟨keyChange, keyChange', rfl, rfl, hlength⟩ | ⟨hnot, hnot'⟩
    · exact commitsAlike_of_length hdigest oldKey oldKey' hlength
    · rw [commit_of_not_octets hnot, commit_of_not_octets hnot']
      exact .failed _
  · rw [commit_of_stored_not_octets hnot, commit_of_stored_not_octets hnot',
      Value.baseType_of_shape hstored]
    exact .failed _

end KeyChangeColumn

/-- A kind with a key-change column prepares proposals of one shape alike. -/
theorem Kind.prepare_of_shape {k : Kind} {column : KeyChangeColumn}
    (hcolumn : k.column? = some column) {proposed proposed' : Value}
    (hproposed : proposed.shape = proposed'.shape) (stored stored' : Value)
    (requester : Requester) :
    k.prepare stored proposed requester = k.prepare stored' proposed' requester := by
  have hprepare : column.prepare proposed = column.prepare proposed' :=
    KeyChangeColumn.prepare_of_shape hproposed
  rcases eq_of_column? hcolumn with rfl | rfl <;> rw [prepare, prepare, hprepare]

/-! ## Writes whose values are hidden -/

namespace PendingWrite

/-- What a write shows if its values are hidden. -/
structure Outline where
  oid : Oid
  proposed : Value.Shape
  prior : Value.Shape
  stored : Option Value.Shape
  reported : Option Value.Shape
  phase : Phase
  refusal : Option Refusal
  hidden : Bool
  deriving DecidableEq

/-- The outline of a write. -/
def outline (w : PendingWrite) : Outline where
  oid := w.oid
  proposed := w.proposed.shape
  prior := w.prior.shape
  stored := w.stored.map Value.shape
  reported := w.reported.map Value.shape
  phase := w.phase
  refusal := w.refusal
  hidden := w.hidden

variable {w w' : PendingWrite}

/-- Hidden values of one shape are shown alike. -/
theorem showValue_of_shape (hhidden : w.hidden = true) (hhidden' : w'.hidden = true)
    {v v' : Value} (hshape : v.shape = v'.shape) : w.showValue v = w'.showValue v' := by
  rw [showValue, showValue, hhidden, hhidden', if_pos rfl, if_pos rfl,
    Value.redactedText_of_shape hshape]

/-- Hidden values that may be missing are shown alike if they have one shape. -/
theorem showValue?_of_shape (hhidden : w.hidden = true) (hhidden' : w'.hidden = true)
    {v v' : Option Value} (hshape : v.map Value.shape = v'.map Value.shape) :
    w.showValue? v = w'.showValue? v' := by
  cases v with
  | none =>
    obtain rfl := Option.map_eq_none_iff.mp hshape.symm
    rfl
  | some v =>
    obtain ⟨v', rfl, hvalue⟩ := Option.map_eq_some_iff.mp hshape.symm
    rw [showValue?, showValue?, showValue_of_shape hhidden hhidden' hvalue.symm]

/-- A write whose values are hidden shows no more than its outline. -/
theorem debugText_of_outline (hhidden : w.hidden = true) (houtline : w.outline = w'.outline) :
    w.debugText = w'.debugText := by
  have hhidden' : w'.hidden = true := (congrArg Outline.hidden houtline).symm.trans hhidden
  have hoid : w.oid = w'.oid := congrArg Outline.oid houtline
  have hphase : w.phase = w'.phase := congrArg Outline.phase houtline
  have hrefusal : w.refusal = w'.refusal := congrArg Outline.refusal houtline
  have hproposed := showValue_of_shape hhidden hhidden' (congrArg Outline.proposed houtline)
  have hprior := showValue_of_shape hhidden hhidden' (congrArg Outline.prior houtline)
  have hstored := showValue?_of_shape hhidden hhidden' (congrArg Outline.stored houtline)
  have hreported := showValue?_of_shape hhidden hhidden' (congrArg Outline.reported houtline)
  rw [debugText, debugText, hoid, hphase, hrefusal, hproposed, hprior, hstored, hreported]

/-- Calls that move a write on alike: they differ at most in the octets of what a commit
stores and reports. -/
inductive Call.Alike : Call → Call → Prop
  | moveTo (target : Phase) : Alike (.moveTo target) (.moveTo target)
  | refuse (e : Refusal) : Alike (.refuse e) (.refuse e)
  | commit {stored stored' reported reported' : Value} (hstored : stored.shape = stored'.shape)
      (hreported : reported.shape = reported'.shape) :
      Alike (.commit stored reported) (.commit stored' reported')
  | finish : Alike .finish .finish

/-- A call that moves a write on and then records something does both where the phases allow
it, and nothing elsewhere. -/
theorem after_of_perform {call : Call} {target : Phase} {record : PendingWrite → PendingWrite}
    (hperform : w.perform call = w.attempt ((w.moveTo target).map record)) :
    w.after call = if target ∈ w.phase.next then record { w with phase := target } else w := by
  rw [after, hperform, moveTo_eq]
  by_cases hnext : target ∈ w.phase.next
  · rw [if_pos hnext, if_pos hnext]
    rfl
  · rw [if_neg hnext, if_neg hnext]
    rfl

/-- A write after a call to move on. -/
theorem after_moveTo (w : PendingWrite) (target : Phase) :
    w.after (.moveTo target) = if target ∈ w.phase.next then { w with phase := target } else w := by
  have hperform : w.perform (.moveTo target) = w.attempt ((w.moveTo target).map id) := by
    rw [perform_moveTo]
    cases w.moveTo target <;> rfl
  exact after_of_perform hperform

/-- A write after a call to refuse it. -/
theorem after_refuse (w : PendingWrite) (e : Refusal) :
    w.after (.refuse e) =
      if .failed ∈ w.phase.next then { w with phase := .failed, refusal := some e } else w :=
  after_of_perform (w.perform_refuse e)

/-- A write after a call to commit it. -/
theorem after_commit (w : PendingWrite) (stored reported : Value) :
    w.after (.commit stored reported) =
      if .committed ∈ w.phase.next then
        { w with phase := .committed, stored := some stored, reported := some reported }
      else w :=
  after_of_perform (w.perform_commit stored reported)

/-- A write after a call to end it. -/
theorem after_finish (w : PendingWrite) :
    w.after .finish =
      if w.phase = .cleaned then w else { w with stored := none, phase := .cleaned } := by
  rw [after, perform_finish, PendingWrite.finish]

/-- Alike calls leave writes of one outline with one outline. -/
theorem outline_after {call call' : Call} (halike : call.Alike call')
    (houtline : w.outline = w'.outline) : (w.after call).outline = (w'.after call').outline := by
  have hphase : w.phase = w'.phase := congrArg Outline.phase houtline
  -- whether a call is granted is told by the phase, which is part of the outline
  cases halike with
  | moveTo target =>
    rw [after_moveTo, after_moveTo, hphase]
    split
    · exact congrArg (fun o : Outline => { o with phase := target }) houtline
    · exact houtline
  | refuse e =>
    rw [after_refuse, after_refuse, hphase]
    split
    · exact congrArg (fun o : Outline => { o with phase := .failed, refusal := some e }) houtline
    · exact houtline
  | @commit stored stored' reported reported' hstored hreported =>
    rw [after_commit, after_commit, hphase]
    split
    · change { w.outline with
          phase := .committed, stored := some stored.shape, reported := some reported.shape } =
        { w'.outline with
          phase := .committed, stored := some stored'.shape, reported := some reported'.shape }
      rw [houtline, hstored, hreported]
    · exact houtline
  | finish =>
    rw [after_finish, after_finish, hphase]
    split
    · exact houtline
    · exact congrArg (fun o : Outline => { o with stored := none, phase := .cleaned }) houtline

/-- A call that moves a write on does not show its values. -/
theorem hidden_after {call call' : Call} (halike : call.Alike call') (w : PendingWrite) :
    (w.after call).hidden = w.hidden := by
  cases halike with
  | moveTo target =>
    rw [after_moveTo]
    split <;> rfl
  | refuse e =>
    rw [after_refuse]
    split <;> rfl
  | commit _ _ =>
    rw [after_commit]
    split <;> rfl
  | finish =>
    rw [after_finish]
    split <;> rfl

/-- Writes with hidden values and one outline are shown alike after any alike calls. -/
theorem debugText_afterCalls {calls calls' : List Call}
    (halike : List.Forall₂ Call.Alike calls calls') (hhidden : w.hidden = true)
    (houtline : w.outline = w'.outline) :
    (w.afterCalls calls).debugText = (w'.afterCalls calls').debugText := by
  induction halike generalizing w w' with
  | nil => exact debugText_of_outline hhidden houtline
  | cons hcall _ ih =>
    exact ih ((hidden_after hcall w).trans hhidden) (outline_after hcall houtline)

end PendingWrite

/-! ## What two keys of one shape leave behind -/

/-- Two objects with a proposal for each leave the same texts and refusals behind. -/
structure ObjectBody.SameTraces (b b' : ObjectBody) (proposed proposed' : Value) : Prop where
  /-- The stored values are logged alike. -/
  shownValue_eq : b.shownValue = b'.shownValue
  /-- The objects are shown alike. -/
  debugText_eq : b.debugText = b'.debugText
  /-- The proposals are judged alike at prepare. -/
  prepare_eq : ∀ requester, b.prepare proposed requester = b'.prepare proposed' requester
  /-- The proposals are judged alike at check. -/
  check_eq : b.check proposed = b'.check proposed'
  /-- The commits fail alike, or store and report values of the same shapes. -/
  commitsAlike : ∀ oid, CommitsAlike ((b.commit oid proposed).map Prod.fst)
    ((b'.commit oid proposed').map Prod.fst)
  /-- The writes that a batch starts are shown alike as long as they are moved on alike. -/
  write_debugText_eq : ∀ oid calls calls', List.Forall₂ PendingWrite.Call.Alike calls calls' →
    ((Target.ofBinding ⟨oid, proposed⟩ b).write.afterCalls calls).debugText =
      ((Target.ofBinding ⟨oid, proposed'⟩ b').write.afterCalls calls').debugText

namespace ObjectBody

variable {b : ObjectBody} {column : KeyChangeColumn} {stored' proposed proposed' : Value}

/-- What a commit stores and reports is what the kind makes of the proposal. -/
theorem map_commit (b : ObjectBody) (oid : Oid) (proposed : Value) :
    (b.commit oid proposed).map Prod.fst = b.kind.commit b.value proposed := by
  unfold commit
  cases b.kind.commit b.value proposed <;> rfl

/-- Diagnostics never show key material. A key without rules that is masked with a digest
leaves the same texts and refusals behind for any two stored values and any two proposals
that agree in shape. -/
theorem diagnostics_hide_keys (hcolumn : b.kind.column? = some column)
    (hdigest : column.protocol.UsesDigest) (hrules : b.rules = .empty)
    (hstored : b.value.shape = stored'.shape) (hproposed : proposed.shape = proposed'.shape) :
    SameTraces b { b with value := stored' } proposed proposed' := by
  have hsecret : b.kind.isSecret = true := by rw [Kind.isSecret, hcolumn]; rfl
  have hredacted := Value.redactedText_of_shape hstored
  refine
    { shownValue_eq := ?shown
      debugText_eq := ?debug
      prepare_eq := fun requester => ?prepare
      check_eq := ?check
      commitsAlike := fun oid => ?commit
      write_debugText_eq := fun oid calls calls' halike => ?write }
  case shown => rw [shownValue, shownValue, if_pos hsecret, if_pos hsecret, hredacted]
  case debug => simp only [debugText, hsecret, if_true, hredacted]
  case prepare =>
    have hbase := Value.baseType_of_shape hstored
    have hbase' := Value.baseType_of_shape hproposed
    have hkind := Kind.prepare_of_shape hcolumn hproposed b.value stored' requester
    have hruled (stage : Stage) (v previous : Value) :
        b.rules.judge stage v previous = .direct (.ok ()) := by rw [hrules]; rfl
    simp only [prepare, screen, hbase, hbase', hkind, hruled]
  case check =>
    have hruled (stage : Stage) (v previous : Value) :
        b.rules.judge stage v previous = .direct (.ok ()) := by rw [hrules]; rfl
    simp only [check, hruled, Kind.check_of_column? hcolumn]
  case commit =>
    rw [map_commit, map_commit, Kind.commit_of_column? hcolumn, Kind.commit_of_column? hcolumn]
    exact KeyChangeColumn.commitsAlike_of_shape hdigest hstored hproposed
  case write =>
    refine PendingWrite.debugText_afterCalls halike hsecret ?_
    simp only [Target.ofBinding, PendingWrite.start, PendingWrite.hide, PendingWrite.outline,
      hstored, hproposed]

/-- A user's own key, masked with a digest of two octets. -/
def userKey : ObjectBody :=
  (ManagedObject.ownKeyChange ⟨[1, 3]⟩ KeyProtocol.sumAndCountProtocol ⟨[1, 128, 1, 97]⟩
    [9, 9]).body

/-- The same object with another key. -/
def otherUserKey : ObjectBody := { userKey with value := .octets [200, 1] }

/-- The calls that bring a write through a batch to its commit. -/
def commitCalls (key reported : List UInt8) : List PendingWrite.Call :=
  [.moveTo .prepared, .moveTo .checked, .commit (.octets key) (.octets reported)]

/-- Two keys of two octets and two proposals of four are not told apart, also not after their
commits, where the new keys are part of the writes. -/
theorem userKey_sameTraces :
    userKey.value.shape = otherUserKey.value.shape ∧
    userKey.SameTraces otherUserKey (.octets [7, 21, 4, 4]) (.octets [0, 0, 0, 0]) ∧
    userKey.commit ⟨[1, 3]⟩ (.octets [7, 21, 4, 4]) =
      .ok (⟨.octets [42, 0], .octets [7, 21]⟩, { userKey with value := .octets [42, 0] }, []) ∧
    otherUserKey.commit ⟨[1, 3]⟩ (.octets [0, 0, 0, 0]) =
      .ok (⟨.octets [201, 4], .octets [0, 0]⟩, { userKey with value := .octets [201, 4] }, []) ∧
    ((Target.ofBinding ⟨⟨[1, 3]⟩, .octets [7, 21, 4, 4]⟩ userKey).write.afterCalls
        (commitCalls [42, 0] [7, 21])).debugText =
      ((Target.ofBinding ⟨⟨[1, 3]⟩, .octets [0, 0, 0, 0]⟩ otherUserKey).write.afterCalls
        (commitCalls [201, 4] [0, 0])).debugText := by
  have hdigest : KeyProtocol.sumAndCountProtocol.UsesDigest :=
    ⟨⟨[1]⟩, KeyProtocol.sumAndCount, rfl⟩
  have hstored : userKey.value.shape = (Value.octets [200, 1]).shape := rfl
  have hproposed : (Value.octets [7, 21, 4, 4]).shape = (Value.octets [0, 0, 0, 0]).shape := rfl
  have htraces : userKey.SameTraces otherUserKey (.octets [7, 21, 4, 4])
      (.octets [0, 0, 0, 0]) := diagnostics_hide_keys rfl hdigest rfl hstored hproposed
  have hcalls : List.Forall₂ PendingWrite.Call.Alike (commitCalls [42, 0] [7, 21])
      (commitCalls [201, 4] [0, 0]) :=
    .cons (.moveTo _) (.cons (.moveTo _) (.cons (.commit rfl rfl) .nil))
  exact ⟨rfl, htraces, rfl, rfl, htraces.write_debugText_eq ⟨[1, 3]⟩ _ _ hcalls⟩

end ObjectBody

end SnmpSet
