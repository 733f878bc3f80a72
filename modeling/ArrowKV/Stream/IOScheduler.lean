import Mathlib.Data.List.Forall2
import ArrowKV.Stream.Types

namespace ArrowKV
set_option autoImplicit true

/-- The fields of a write intent the scheduler reads (`core::message` is not in the sources). -/
structure Write where
  ackedSeq : Sequence
  range : IndexRange
  entries : List Entry
  bytes : Nat
  deriving DecidableEq, Repr

inductive MutKind where
  | seal
  | write (detail : Write)
  deriving DecidableEq, Repr

structure Mutate where
  target : String
  writerEpoch : UInt32
  segEpoch : UInt32
  kind : MutKind
  deriving DecidableEq, Repr

structure Learn where
  target : String
  segEpoch : UInt32
  writerEpoch : UInt32
  startIndex : UInt32
  deriving DecidableEq, Repr

structure Learned where
  entries : List Entry
  deriving DecidableEq, Repr

structure WriteRequest where
  segmentEpoch : UInt32
  ackedSeq : UInt64
  firstIndex : UInt32
  entries : List Entry
  deriving DecidableEq, Repr

/-- The messages to the state machine (not in the sources), each with its arguments in the scheduler's order. -/
inductive StreamLogMsg where
  | received (target : String) (segmentEpoch writerEpoch matchedIndex ackedIndex : UInt32)
  | writeTimeout (target : String) (segmentEpoch writerEpoch : UInt32) (range : Option IndexRange) (bytes : Nat)
  | sealed (target : String) (segmentEpoch writerEpoch ackedIndex : UInt32)
  | storeTimeout (target : String) (segEpoch writerEpoch : UInt32)
  | learned (target : String) (segEpoch writerEpoch : UInt32) (learned : Learned)
  | recovered (segmentEpoch writerEpoch : UInt32)
  | conClusterTimeout (segmentEpoch writerEpoch : UInt32)
  deriving DecidableEq, Repr

inductive TransportCall where
  | write (target : String) (streamId : UInt64) (writerEpoch : UInt32) (writeReq : WriteRequest)
  | seal (target : String) (streamId : UInt64) (writerEpoch segmentEpoch : UInt32)
  | read (target : String) (streamId : UInt64) (segEpoch startIndex : UInt32) (requireAcked : Bool)
  | sealSegment (segmentEpoch : UInt32)
  deriving DecidableEq, Repr

def TransportCall.Response : TransportCall → Type
  | .write .. => Except Error (UInt32 × UInt32)
  | .seal .. => Except Error UInt32
  | .read .. => Except Error (List (Except Error (List Entry)))
  | .sealSegment _ => Except Error Unit

/-- A spawned task: its call, and the messages it delivers for each answer. -/
structure Task where
  call : TransportCall
  deliver : call.Response → List StreamLogMsg

/-- Modelled from the call sites (the protobuf types are not in the sources): what a promotion reads. -/
structure SegmentDesc where
  epoch : UInt32
  copySet : List String
  deriving DecidableEq, Repr

inductive CommandType where
  | nop
  | promote
  deriving DecidableEq, Repr

/-- A master command: `CommandType::from_i32` of its code (`none` if unknown) and its role code. -/
structure Command where
  commandType : Option CommandType
  epoch : UInt32
  pendingEpochs : List UInt32
  role : Int
  leader : String
  deriving DecidableEq, Repr

structure Promote where
  role : Int
  epoch : UInt32
  leader : String
  copySet : List String
  brokenSegments : List SegmentDesc
  deriving DecidableEq, Repr

inductive PromoteOutcome where
  | warned
  | panicked
  | promoted (promote : Promote)
  deriving DecidableEq, Repr

namespace IOScheduler

def learnLoop (learn : Learn) : List (Except Error (List Entry)) → List StreamLogMsg
  | [] => [.learned learn.target learn.segEpoch learn.writerEpoch ⟨[]⟩]
  | .ok entries :: streaming =>
    .learned learn.target learn.segEpoch learn.writerEpoch ⟨entries⟩ :: learnLoop learn streaming
  | .error _ :: _ => []

def learn (streamId : UInt64) (learn : Learn) : Task where
  call := .read learn.target streamId learn.segEpoch learn.startIndex false
  deliver
    | .ok streaming => learnLoop learn streaming
    | .error _ => [.storeTimeout learn.target learn.segEpoch learn.writerEpoch]

def flushWrite (streamId : UInt64) (target : String) (writerEpoch segmentEpoch : UInt32) (write : Write) : Task where
  call := .write target streamId writerEpoch ⟨segmentEpoch, write.ackedSeq.toU64, write.range.start, write.entries⟩
  deliver
    | .ok (matchedIndex, ackedIndex) => [.received target segmentEpoch writerEpoch matchedIndex ackedIndex]
    | .error _ => [.writeTimeout target segmentEpoch writerEpoch (some write.range) write.bytes]

def flushSealing (streamId : UInt64) (target : String) (writerEpoch segmentEpoch : UInt32) : Task where
  call := .seal target streamId writerEpoch segmentEpoch
  deliver
    | .ok ackedIndex => [.sealed target segmentEpoch writerEpoch ackedIndex]
    | .error _ => [.storeTimeout target segmentEpoch writerEpoch]

def sealSegment (segmentEpoch writerEpoch : UInt32) : Task where
  call := .sealSegment segmentEpoch
  deliver
    | .ok () => [.recovered segmentEpoch writerEpoch]
    | .error _ => [.conClusterTimeout segmentEpoch writerEpoch]

def handleWrites (streamId : UInt64) (mutateIoNs : List Mutate) : List Task :=
  mutateIoNs.map fun mutate =>
    match mutate.kind with
    | .seal => flushSealing streamId mutate.target mutate.writerEpoch mutate.segEpoch
    | .write detail => flushWrite streamId mutate.target mutate.writerEpoch mutate.segEpoch detail

def handleLearns (streamId : UInt64) (learns : List Learn) : List Task :=
  learns.map (learn streamId)

def presentSegment : Option SegmentDesc → Except Error SegmentDesc
  | some d => .ok d
  | none => .error (.notFound "no such segment")

def getSegments (master : List UInt32 → Except Error (List (Option SegmentDesc))) (pendingEpochs : List UInt32) :
    Except Error (List SegmentDesc) := do
  (← master pendingEpochs).mapM presentSegment

/-- A promotion, in a build that keeps `debug_assert_eq!` exactly when `debugAssertions`. -/
def promote (debugAssertions : Bool) (master : List UInt32 → Except Error (List (Option SegmentDesc)))
    (cmd : Command) : PromoteOutcome :=
  match getSegments master (cmd.pendingEpochs ++ [cmd.epoch]) with
  | .error _ => .warned
  | .ok segments =>
    if debugAssertions && segments.length != cmd.pendingEpochs.length + 1 then .panicked
    else match segments.getLast? with
      | none => .panicked
      | some newSeg => .promoted ⟨cmd.role, cmd.epoch, cmd.leader, newSeg.copySet, segments.dropLast⟩

def executeMasterCommand (debugAssertions : Bool) (master : List UInt32 → Except Error (List (Option SegmentDesc))) :
    List Command → List PromoteOutcome
  | [] => []
  | cmd :: commands =>
    match cmd.commandType with
    | some .nop | none => executeMasterCommand debugAssertions master commands
    | some .promote =>
      match promote debugAssertions master cmd with
      | .panicked => [.panicked]
      | outcome => outcome :: executeMasterCommand debugAssertions master commands

end IOScheduler

def StreamLogMsg.IsTerminal : StreamLogMsg → Bool
  | .learned _ _ _ ⟨entries⟩ => entries.isEmpty
  | _ => true

def DeliversOneTerminal (msgs : List StreamLogMsg) : Prop :=
  ∃ pre t, msgs = pre ++ [t] ∧ t.IsTerminal ∧ ∀ m ∈ pre, m.IsTerminal = false

theorem DeliversOneTerminal.last_isTerminal (h : DeliversOneTerminal msgs) :
    msgs.getLast?.map StreamLogMsg.IsTerminal = some true := by
  obtain ⟨pre, t, rfl, ht, -⟩ := h
  simp [ht]

namespace IOScheduler

/-- A learn stream that ends cleanly delivers one `Learned` per batch, then the empty one that ends it. -/
theorem learnLoop_end_of_stream (l : Learn) (batches : List (List Entry)) (h : ∀ b ∈ batches, b ≠ []) :
    DeliversOneTerminal (learnLoop l (batches.map .ok)) := by
  refine ⟨batches.map fun b => .learned l.target l.segEpoch l.writerEpoch ⟨b⟩,
    .learned l.target l.segEpoch l.writerEpoch ⟨[]⟩, ?_, rfl, ?_⟩
  · induction batches with
    | nil => rfl
    | cons b batches ih => simp [learnLoop, ih fun b hb => h b (.tail _ hb)]
  · simp only [List.mem_map]
    rintro _ ⟨b, hb, rfl⟩
    simpa [StreamLogMsg.IsTerminal] using h b hb

theorem learnLoop_end_of_stream_two_batches :
    (∀ b ∈ [[Entry.hole], [.event [1], .bridge 2]], b ≠ []) ∧
      DeliversOneTerminal (learnLoop ⟨"replica", 1, 1, 0⟩ ([[.hole], [.event [1], .bridge 2]].map .ok)) :=
  have h : ∀ b ∈ [[Entry.hole], [.event [1], .bridge 2]], b ≠ [] := by decide
  ⟨h, learnLoop_end_of_stream _ _ h⟩

theorem learnLoop_mid_stream_error (l : Learn) (batches : List (List Entry)) (e : Error)
    (streaming : List (Except Error (List Entry))) :
    learnLoop l (batches.map .ok ++ .error e :: streaming) =
      batches.map fun b => .learned l.target l.segEpoch l.writerEpoch ⟨b⟩ := by
  induction batches with
  | nil => rfl
  | cons b batches ih => simp [learnLoop, ih]

theorem learn_stream_error_no_terminal :
    (learn 1 ⟨"replica-1", 3, 4, 1⟩).deliver (.ok [.ok [.hole], .error (.io "connection reset")]) =
        [.learned "replica-1" 3 4 ⟨[.hole]⟩] ∧
      ¬ DeliversOneTerminal ((learn 1 ⟨"replica-1", 3, 4, 1⟩).deliver
        (.ok [.ok [.hole], .error (.io "connection reset")])) := by
  have h : (learn 1 ⟨"replica-1", 3, 4, 1⟩).deliver (.ok [.ok [.hole], .error (.io "connection reset")]) =
      [.learned "replica-1" 3 4 ⟨[.hole]⟩] :=
    learnLoop_mid_stream_error ⟨"replica-1", 3, 4, 1⟩ [[.hole]] (.io "connection reset") []
  refine ⟨h, fun hd => ?_⟩
  have hlast := hd.last_isTerminal
  rw [h] at hlast
  exact absurd hlast (by decide)

end IOScheduler

def StreamLogMsg.Carries (target : String) (segEpoch writerEpoch : UInt32) : StreamLogMsg → Prop
  | .received t se we _ _ | .writeTimeout t se we _ _ | .sealed t se we _ | .storeTimeout t se we
  | .learned t se we _ => t = target ∧ se = segEpoch ∧ we = writerEpoch
  | .recovered .. | .conClusterTimeout .. => False

def StreamLogMsg.KeepsWrite (w : Write) : StreamLogMsg → Prop
  | .writeTimeout _ _ _ range bytes => range = some w.range ∧ bytes = w.bytes
  | _ => True

/-- What a write intent asks of its task: its own call, and messages carrying its target and epochs. -/
def Mutate.Issues (streamId : UInt64) (m : Mutate) (t : Task) : Prop :=
  match m.kind with
  | .seal => t.call = .seal m.target streamId m.writerEpoch m.segEpoch ∧
      ∀ r, ∀ msg ∈ t.deliver r, msg.Carries m.target m.segEpoch m.writerEpoch
  | .write w =>
    t.call = .write m.target streamId m.writerEpoch ⟨m.segEpoch, w.ackedSeq.toU64, w.range.start, w.entries⟩ ∧
      ∀ r, ∀ msg ∈ t.deliver r, msg.Carries m.target m.segEpoch m.writerEpoch ∧ msg.KeepsWrite w

def Learn.Issues (streamId : UInt64) (l : Learn) (t : Task) : Prop :=
  t.call = .read l.target streamId l.segEpoch l.startIndex false ∧
    ∀ r, ∀ msg ∈ t.deliver r, msg.Carries l.target l.segEpoch l.writerEpoch

namespace IOScheduler

theorem carries_of_mem_learnLoop (h : msg ∈ learnLoop l streaming) :
    msg.Carries l.target l.segEpoch l.writerEpoch := by
  induction streaming with
  | nil => simp [learnLoop] at h; simp [h, StreamLogMsg.Carries]
  | cons r streaming ih =>
    cases r with
    | error => simp [learnLoop] at h
    | ok entries =>
      rcases List.mem_cons.1 h with rfl | h
      · simp [StreamLogMsg.Carries]
      · exact ih h

/-- One task per intent, in order, each making its own call and naming only its own target and epochs. -/
theorem handle_issues_one_call_per_intent (streamId : UInt64) (mutateIoNs : List Mutate) (learns : List Learn) :
    List.Forall₂ (Mutate.Issues streamId) mutateIoNs (handleWrites streamId mutateIoNs) ∧
    List.Forall₂ (Learn.Issues streamId) learns (handleLearns streamId learns) := by
  simp only [handleWrites, handleLearns, List.forall₂_map_right_iff, List.forall₂_same]
  refine ⟨fun ⟨target, writerEpoch, segEpoch, kind⟩ _ => ?_, fun l _ => ⟨rfl, fun r msg h => ?_⟩⟩
  · cases kind with
    | «seal» =>
      refine ⟨rfl, fun r msg h => ?_⟩
      cases r <;> simp only [flushSealing, List.mem_singleton] at h <;> simp [h, StreamLogMsg.Carries]
    | write w =>
      refine ⟨rfl, fun r msg h => ?_⟩
      cases r <;> simp only [flushWrite, List.mem_singleton] at h <;>
        simp [h, StreamLogMsg.Carries, StreamLogMsg.KeepsWrite]
  · cases r with
    | ok streaming => exact carries_of_mem_learnLoop h
    | error => simp only [learn, List.mem_singleton] at h; simp [h, StreamLogMsg.Carries]

theorem mapM_presentSegment_eq_ok (l : List (Option SegmentDesc)) (segments : List SegmentDesc) :
    l.mapM presentSegment = .ok segments ↔ l = segments.map some := by
  induction l generalizing segments with
  | nil => cases segments <;> simp [-List.mapM, pure, Except.pure]
  | cons d l ih =>
    cases d with
    | none => cases segments <;> simp [-List.mapM, presentSegment, bind, Except.bind]
    | some d =>
      cases segments <;> simp only [List.mapM_cons, presentSegment, bind, Except.bind, pure, Except.pure] <;>
        split <;> simp_all [-List.mapM]

theorem getSegments_eq_ok : getSegments master req = .ok segments ↔ master req = .ok (segments.map some) := by
  unfold getSegments
  cases master req <;> simp [-List.mapM, bind, Except.bind, mapM_presentSegment_eq_ok]

/-- `on_promote` runs exactly on a full answer, checked for the expected length only with debug assertions. -/
theorem promote_eq_promoted_iff :
    promote debugAssertions master cmd = .promoted p ↔
      ∃ segments newSeg, master (cmd.pendingEpochs ++ [cmd.epoch]) = .ok ((segments ++ [newSeg]).map some) ∧
        (debugAssertions = true → segments.length = cmd.pendingEpochs.length) ∧
        p = ⟨cmd.role, cmd.epoch, cmd.leader, newSeg.copySet, segments⟩ := by
  simp only [promote, ← getSegments_eq_ok]
  rcases getSegments master (cmd.pendingEpochs ++ [cmd.epoch]) with e | segs
  · simp
  · rcases List.eq_nil_or_concat segs with rfl | ⟨L, b, rfl⟩
    · simp
    · simp only [← List.concat_eq_append, Except.ok.injEq, List.concat_inj, List.getLast?_concat,
        List.dropLast_concat, List.length_concat, and_assoc, exists_and_left, exists_eq_left']
      cases debugAssertions <;> simp [ite_eq_iff, @eq_comm _ p]

/-- One pending epoch: an empty answer panics; three descriptors panic with debug assertions, else are promoted. -/
theorem promote_unchecked_segment_count :
    (∀ debugAssertions, promote debugAssertions (fun _ => .ok []) ⟨some .promote, 2, [1], 0, "node-1"⟩ = .panicked) ∧
    promote true (fun _ => .ok [some ⟨1, ["a"]⟩, some ⟨2, ["b"]⟩, some ⟨3, ["c"]⟩])
        ⟨some .promote, 2, [1], 0, "node-1"⟩ = .panicked ∧
    promote false (fun _ => .ok [some ⟨1, ["a"]⟩, some ⟨2, ["b"]⟩, some ⟨3, ["c"]⟩])
        ⟨some .promote, 2, [1], 0, "node-1"⟩ = .promoted ⟨0, 2, "node-1", ["c"], [⟨1, ["a"]⟩, ⟨2, ["b"]⟩]⟩ :=
  ⟨fun d => by cases d <;> rfl, rfl, rfl⟩

end IOScheduler

end ArrowKV
