import ArrowKV.Storage.Pipeline

namespace ArrowKV
set_option autoImplicit true

structure StreamCore where
  storage : PartialStream
  writer : PipelinedWriter

instance : Inhabited StreamCore := ⟨⟨.new 0, .new⟩⟩

/-- A stream flow: its stream, and the address of the `Arc<Mutex<StreamCore>>` it shares. -/
structure StreamFlow where
  streamId : UInt64
  core : Nat
  deriving DecidableEq, Repr

structure ReplicaMeta where
  epoch : UInt32
  promisedEpoch : Option UInt32
  setFiles : List UInt64
  deriving DecidableEq, Repr

structure StreamMeta where
  streamId : UInt64
  ackedSeq : UInt64
  initialSeq : UInt64
  replicas : List ReplicaMeta
  deriving DecidableEq, Repr

/-- Modelled from the spec (`version.rs` is not in the sources): the current version's number and the truncations. -/
structure VersionSet where
  current : Nat
  truncations : List StreamMeta

/-- Modelled from the spec: a truncation edit publishes a new current version; the manifest's I/O is not modelled. -/
def VersionSet.truncateStream (vs : VersionSet) (streamMeta : StreamMeta) : VersionSet :=
  ⟨vs.current + 1, vs.truncations ++ [streamMeta]⟩

/-- The log engine's records, the version set, the stream map behind the mutex, and the heap of stream cores. -/
structure StreamDB where
  log : List Record
  versionSet : VersionSet
  streams : AList (fun _ : UInt64 => StreamFlow)
  cores : List StreamCore

/-- Modelled from the call sites (`reader.rs` is not in the sources): a reader's request and the flow it polls. -/
structure SegmentReader where
  segmentEpoch : UInt32
  startIndex : UInt32
  limit : Nat
  requireAcked : Bool
  stream : StreamFlow
  deriving DecidableEq, Repr

namespace StreamDB

/-- The stream core behind a flow's `Arc`. -/
def core (db : StreamDB) (flow : StreamFlow) : StreamCore := db.cores.getD flow.core default

def setCore (db : StreamDB) (flow : StreamFlow) (c : StreamCore) : StreamDB :=
  { db with cores := db.cores.set flow.core c }

end StreamDB

namespace StreamFlow

def new (db : StreamDB) (streamId : UInt64) (storage : PartialStream) : StreamFlow × StreamDB :=
  (⟨streamId, db.cores.length⟩, { db with cores := db.cores ++ [⟨storage, .new⟩] })

def newEmpty (db : StreamDB) (streamId : UInt64) (version : Nat) : StreamFlow × StreamDB :=
  new db streamId (PartialStream.new version)

/-- The `register_reading_waiter` call of `poll_entries`, under the stream's lock. -/
def registerReadingWaiter (self : StreamFlow) (db : StreamDB) (waker : Nat) : StreamDB :=
  let core := db.core self
  db.setCore self { core with writer := core.writer.registerReadingWaiter waker }

end StreamFlow

namespace StreamDB

def recover (versionSet : VersionSet) (log : List Record) (streams : AList (fun _ : UInt64 => PartialStream)) :
    StreamDB :=
  streams.entries.foldl (fun db s =>
    let (flow, db) := StreamFlow.new db s.1 s.2
    { db with streams := db.streams.insert s.1 flow }) ⟨log, versionSet, ∅, []⟩

def mustGetStream (db : StreamDB) (streamId : UInt64) : StreamFlow × StreamDB :=
  let curVersion := db.versionSet.current
  match db.streams.lookup streamId with
  | some flow => (flow, db)
  | none =>
    let (flow, db) := StreamFlow.newEmpty db streamId curVersion
    (flow, { db with streams := db.streams.insert streamId flow })

def mightGetStream (db : StreamDB) (streamId : UInt64) : Except Error StreamFlow :=
  match db.streams.lookup streamId with
  | some s => .ok s
  | none => .error (.notFound ("stream " ++ toString streamId))

def read (db : StreamDB) (streamId : UInt64) (segmentEpoch startIndex : UInt32) (limit : Nat)
    (requireAcked : Bool) : Except Error SegmentReader :=
  (db.mightGetStream streamId).map (SegmentReader.mk segmentEpoch startIndex limit requireAcked)

/-- The same body as `read`. -/
def getSegmentReader (db : StreamDB) (streamId : UInt64) (segmentEpoch startIndex : UInt32) (limit : Nat)
    (requireAcked : Bool) : Except Error SegmentReader :=
  (db.mightGetStream streamId).map (SegmentReader.mk segmentEpoch startIndex limit requireAcked)

def refreshStream (db : StreamDB) (stream : StreamFlow) : StreamDB :=
  let core := db.core stream
  db.setCore stream { core with storage := core.storage.refreshVersions db.versionSet.current }

def advanceGracePeiodOfVersionSet (db : StreamDB) : StreamDB :=
  db.streams.keys.foldl (fun db streamId =>
    match db.mightGetStream streamId with
    | .ok stream => db.refreshStream stream
    | .error _ => db) db

end StreamDB

namespace StreamFlow

/-- Under the stream's lock: hand the request to the partial stream and its result to the writer; return `Ok`. -/
def write (self : StreamFlow) (db : StreamDB) (segmentEpoch writerEpoch : UInt32) (ackedSeq : Sequence)
    (firstIndex : UInt32) (entries : List Entry) : Except Error (UInt32 × UInt32) × StreamDB :=
  let numEntries := UInt32.ofNat entries.length
  let core := db.core self
  let txn := core.storage.write writerEpoch segmentEpoch ackedSeq firstIndex entries
  let continouslyIndex := core.storage.continuousIndex segmentEpoch ⟨firstIndex, firstIndex + numEntries⟩
  let ackedIndex := core.storage.ackedIndex segmentEpoch
  let (_waiter, writer) := core.writer.submit txn
  (.ok (continouslyIndex, ackedIndex), db.setCore self { core with writer })

def «seal» (self : StreamFlow) (db : StreamDB) (segmentEpoch writerEpoch : UInt32) : Except Error UInt32 × StreamDB :=
  let core := db.core self
  let (txn, storage) := core.storage.seal segmentEpoch writerEpoch
  let ackedIndex := storage.ackedIndex segmentEpoch
  let (_w, writer) := core.writer.submit txn
  (.ok ackedIndex, db.setCore self ⟨storage, writer⟩)

def streamMeta (self : StreamFlow) (db : StreamDB) (keepSeq : Sequence) : Except Error StreamMeta × StreamDB :=
  let core := db.core self
  let ackedIndex := core.storage.ackedSeq
  let sealedTable := core.storage.sealedEpoches
  let (_waiter, writer) := core.writer.submit (.ok none)
  (.ok ⟨self.streamId, ackedIndex.toU64, keepSeq.toU64, sealedTable.map fun p => ⟨p.1, some p.2, []⟩⟩,
    db.setCore self { core with writer })

def pollEntries (self : StreamFlow) (db : StreamDB) (waker : Nat) (requiredEpoch startIndex : UInt32)
    (limit : Nat) (requireAcked : Bool) : Except Error (Option (List (UInt32 × Entry))) × StreamDB :=
  let core := db.core self
  match core.storage.scanEntries requiredEpoch startIndex limit requireAcked with
  | .error err => (.error err, db)
  | .ok (some entriesContainer) => (.ok (some entriesContainer), db)
  | .ok none => (.ok none, self.registerReadingWaiter db waker)

def beginFlush (self : StreamFlow) (db : StreamDB) : Option StreamDB :=
  let core := db.core self
  core.writer.beginFlush.map fun writer => db.setCore self { core with writer }

def durableAppend (self : StreamFlow) (db : StreamDB) (ok : Bool) : Option StreamDB :=
  let core := db.core self
  (core.writer.durableAppend self.streamId db.log ok).map fun p =>
    { db.setCore self { core with writer := p.1 } with log := p.2 }

def commit (self : StreamFlow) (db : StreamDB) : Option (StreamDB × List Nat) :=
  let core := db.core self
  (PipelinedWriter.commit core.storage core.writer).map fun r => (db.setCore self ⟨r.1, r.2.1⟩, r.2.2)

end StreamFlow

namespace StreamDB

def write (db : StreamDB) (streamId : UInt64) (segmentEpoch writerEpoch : UInt32) (ackedSeq : Sequence)
    (firstIndex : UInt32) (entries : List Entry) : Except Error (UInt32 × UInt32) × StreamDB :=
  let (flow, db) := db.mustGetStream streamId
  flow.write db segmentEpoch writerEpoch ackedSeq firstIndex entries

def «seal» (db : StreamDB) (streamId : UInt64) (segmentEpoch writerEpoch : UInt32) : Except Error UInt32 × StreamDB :=
  let (flow, db) := db.mustGetStream streamId
  flow.seal db segmentEpoch writerEpoch

def truncate (db : StreamDB) (streamId : UInt64) (keepSeq : Sequence) : Except Error Unit × StreamDB :=
  let (flow, db) := db.mustGetStream streamId
  match flow.streamMeta db keepSeq with
  | (.error err, db) => (.error err, db)
  | (.ok streamMeta, db) =>
    if keepSeq.toU64 > streamMeta.ackedSeq then
      (.error (.invalidArgument ("truncate un-acked entries, acked seq " ++ toString streamMeta.ackedSeq ++
        ", keep seq " ++ toString keepSeq.toU64)), db)
    else
      let db := { db with versionSet := db.versionSet.truncateStream streamMeta }
      (.ok (), db.advanceGracePeiodOfVersionSet)

end StreamDB

namespace StreamDB

variable {db : StreamDB}

/-- Every flow of the stream map points at an allocated stream core. -/
def WellFormed (db : StreamDB) : Prop := ∀ k f, db.streams.lookup k = some f → f.core < db.cores.length

@[simp] theorem setCore_log : (db.setCore f c).log = db.log := rfl
@[simp] theorem setCore_versionSet : (db.setCore f c).versionSet = db.versionSet := rfl
@[simp] theorem setCore_streams : (db.setCore f c).streams = db.streams := rfl
@[simp] theorem length_setCore : (db.setCore f c).cores.length = db.cores.length := List.length_set ..

theorem core_setCore (h : f.core < db.cores.length) (g : StreamFlow) :
    (db.setCore f c).core g = if g.core = f.core then c else db.core g := by
  unfold core setCore
  by_cases hg : g.core = f.core
  · simp [hg, h]
  · simp [List.getElem?_set_ne (Ne.symm hg), hg]

@[simp] theorem core_setCore_self (h : f.core < db.cores.length) : (db.setCore f c).core f = c := by
  simp [core_setCore h]

theorem core_setCore_of_ne (h : g.core ≠ f.core) : (db.setCore f c).core g = db.core g := by
  simp [core, setCore, List.getElem?_set_ne (Ne.symm h)]

theorem setCore_of_length_le (h : db.cores.length ≤ f.core) : db.setCore f c = db := by
  simp [setCore, List.set_eq_of_length_le h]

theorem core_of_length_le (h : db.cores.length ≤ g.core) : db.core g = default := by
  simp [core, List.getElem?_eq_none h]

theorem setCore_core : db.setCore f (db.core f) = db := by
  rcases Nat.lt_or_ge f.core db.cores.length with h | h
  · suffices db.cores.set f.core (db.core f) = db.cores by simp [setCore, this]
    refine List.ext_getElem? fun n => ?_
    by_cases hn : f.core = n
    · subst hn; simp [h, core]
    · simp [List.getElem?_set_ne hn]
  · exact setCore_of_length_le h

theorem core_congr (h : g.core = f.core) : db.core g = db.core f := by simp [core, h]

theorem core_push {db' : StreamDB} (hc : db'.cores = db.cores ++ [c]) (g : StreamFlow) :
    db'.core g = if g.core < db.cores.length then db.core g else if g.core = db.cores.length then c else default := by
  unfold core
  rw [hc]
  split_ifs with h₁ h₂
  · simp [List.getElem?_append_left h₁]
  · simp [h₂]
  · rw [List.getD_eq_getElem?_getD, List.getElem?_eq_none (by simp; omega)]; rfl

theorem mustGetStream_of_lookup (h : db.streams.lookup streamId = some f) : db.mustGetStream streamId = (f, db) := by
  simp [mustGetStream, h]

theorem mustGetStream_of_lookup_none (h : db.streams.lookup streamId = none) :
    db.mustGetStream streamId = (⟨streamId, db.cores.length⟩, { db with
      cores := db.cores ++ [⟨.new db.versionSet.current, .new⟩],
      streams := db.streams.insert streamId ⟨streamId, db.cores.length⟩ }) := by
  simp [mustGetStream, h, StreamFlow.newEmpty, StreamFlow.new]

@[simp] theorem mustGetStream_log : (db.mustGetStream streamId).2.log = db.log := by
  unfold mustGetStream; split <;> rfl

@[simp] theorem mustGetStream_versionSet : (db.mustGetStream streamId).2.versionSet = db.versionSet := by
  unfold mustGetStream; split <;> rfl

theorem mem_mustGetStream : k ∈ (db.mustGetStream streamId).2.streams ↔ k = streamId ∨ k ∈ db.streams := by
  cases h : db.streams.lookup streamId with
  | none => simp [mustGetStream_of_lookup_none h, AList.mem_insert]
  | some f =>
    rw [mustGetStream_of_lookup h]
    have : streamId ∈ db.streams := AList.lookup_isSome.1 (by simp [h])
    constructor
    · exact .inr
    · rintro (rfl | hk) <;> assumption

theorem core_mustGetStream_of_lookup_none (h : db.streams.lookup streamId = none) (g : StreamFlow) :
    (db.mustGetStream streamId).2.core g = if g.core < db.cores.length then db.core g
      else if g.core = db.cores.length then ⟨.new db.versionSet.current, .new⟩ else default :=
  core_push (by simp [mustGetStream_of_lookup_none h]) g

theorem mightGetStream_eq_ok : db.mightGetStream streamId = .ok f ↔ db.streams.lookup streamId = some f := by
  unfold mightGetStream
  split <;> simp_all

theorem lookup_of_mightGetStream_eq_error (h : db.mightGetStream streamId = .error err) :
    db.streams.lookup streamId = none := by
  unfold mightGetStream at h
  split at h <;> simp_all

theorem mightGetStream_eq_notFound : db.mightGetStream streamId = .error (.notFound ("stream " ++ toString streamId)) ↔
    streamId ∉ db.streams := by
  rw [← AList.lookup_eq_none]
  unfold mightGetStream
  split <;> simp_all

theorem read_eq_notFound : db.read streamId segmentEpoch startIndex limit requireAcked =
    .error (.notFound ("stream " ++ toString streamId)) ↔ streamId ∉ db.streams := by
  rw [← mightGetStream_eq_notFound, read]
  cases db.mightGetStream streamId <;> simp [Except.map]

theorem getSegmentReader_eq_notFound : db.getSegmentReader streamId segmentEpoch startIndex limit requireAcked =
    .error (.notFound ("stream " ++ toString streamId)) ↔ streamId ∉ db.streams := read_eq_notFound

theorem read_of_lookup (h : db.streams.lookup streamId = some f) :
    db.read streamId segmentEpoch startIndex limit requireAcked = .ok ⟨segmentEpoch, startIndex, limit, requireAcked, f⟩ := by
  rw [read, mightGetStream_eq_ok.2 h]
  rfl

theorem getSegmentReader_of_lookup (h : db.streams.lookup streamId = some f) :
    db.getSegmentReader streamId segmentEpoch startIndex limit requireAcked =
      .ok ⟨segmentEpoch, startIndex, limit, requireAcked, f⟩ := read_of_lookup h

/-- Each bound flow carries its own id and an allocated core that no other id's flow shares. -/
structure OwnsCores (db : StreamDB) : Prop where
  streamId_eq : ∀ k f, db.streams.lookup k = some f → f.streamId = k
  allocated : db.WellFormed
  disjoint : ∀ k k' f f', db.streams.lookup k = some f → db.streams.lookup k' = some f' → f.core = f'.core → k = k'

theorem lookup_insert_cases {m : AList (fun _ : UInt64 => StreamFlow)} (h : (m.insert k g).lookup k' = some f) :
    k' = k ∧ f = g ∨ k' ≠ k ∧ m.lookup k' = some f := by
  by_cases hk : k' = k
  · subst hk
    exact .inl ⟨rfl, by simpa [eq_comm] using h⟩
  · exact .inr ⟨hk, by simpa [AList.lookup_insert_ne hk] using h⟩

theorem OwnsCores.insert_push (h : db.OwnsCores) (k : UInt64) (c : StreamCore) :
    ({ db with cores := db.cores ++ [c], streams := db.streams.insert k ⟨k, db.cores.length⟩ } : StreamDB).OwnsCores := by
  refine ⟨fun k' f hf => ?_, fun k' f hf => ?_, fun k₁ k₂ f₁ f₂ h₁ h₂ he => ?_⟩
  · rcases lookup_insert_cases hf with ⟨rfl, rfl⟩ | ⟨-, hf⟩
    exacts [rfl, h.streamId_eq k' f hf]
  · rcases lookup_insert_cases hf with ⟨-, rfl⟩ | ⟨-, hf⟩
    exacts [by simp, by simpa using Nat.lt_succ_of_lt (h.allocated k' f hf)]
  · rcases lookup_insert_cases h₁ with ⟨rfl, rfl⟩ | ⟨-, hl₁⟩ <;>
      rcases lookup_insert_cases h₂ with ⟨rfl, rfl⟩ | ⟨-, hl₂⟩
    · rfl
    · exact absurd he (Nat.ne_of_gt (h.allocated _ _ hl₂))
    · exact absurd he (Nat.ne_of_lt (h.allocated _ _ hl₁))
    · exact h.disjoint _ _ _ _ hl₁ hl₂ he

theorem OwnsCores.mustGetStream (h : db.OwnsCores) : (db.mustGetStream streamId).2.OwnsCores := by
  cases hk : db.streams.lookup streamId with
  | some f => rwa [mustGetStream_of_lookup hk]
  | none => rw [mustGetStream_of_lookup_none hk]; exact h.insert_push streamId _

theorem recover_foldl (l : List (Sigma fun _ : UInt64 => PartialStream)) (hdb : db.OwnsCores) :
    let db' := l.foldl (fun db s =>
      let (flow, db) := StreamFlow.new db s.1 s.2
      { db with streams := db.streams.insert s.1 flow }) db
    db'.OwnsCores ∧ ∀ k, k ∈ db'.streams ↔ k ∈ db.streams ∨ k ∈ l.map Sigma.fst := by
  induction l generalizing db with
  | nil => simpa using hdb
  | cons e l ih =>
    refine (ih (hdb.insert_push e.1 ⟨e.2, .new⟩)).imp_right fun h k => (h k).trans ?_
    simp [StreamFlow.new, AList.mem_insert, or_assoc, or_left_comm]

theorem recover_ownsCores {versionSet : VersionSet} {log : List Record}
    {streams : AList (fun _ : UInt64 => PartialStream)} : (recover versionSet log streams).OwnsCores :=
  (recover_foldl streams.entries ⟨by simp, by simp [WellFormed], by simp⟩).1

theorem mem_recover_streams {versionSet : VersionSet} {log : List Record}
    {streams : AList (fun _ : UInt64 => PartialStream)} : k ∈ (recover versionSet log streams).streams ↔ k ∈ streams := by
  unfold recover
  rw [(recover_foldl streams.entries ⟨by simp, by simp [WellFormed], by simp⟩).2 k]
  simp [AList.mem_keys, AList.keys, List.mem_keys]

end StreamDB

namespace StreamFlow

variable {db : StreamDB} {self : StreamFlow}

/-- A write the partial stream rejects as staled still returns `Ok`; only the dropped waiter gets the error. -/
theorem write_staled (hself : self.core < db.cores.length)
    (h : writerEpoch < ((db.core self).storage.segment segmentEpoch).promisedEpoch) :
    let r := self.write db segmentEpoch writerEpoch ackedSeq firstIndex entries
    (∃ i, r.1 = .ok i) ∧ (r.2.core self).storage = (db.core self).storage ∧
      (r.2.core self).writer.pending = (db.core self).writer.pending ∧
      (r.2.core self).writer.completed =
        (db.core self).writer.completed ++ [((db.core self).writer.nextWaiter, .error (.staled "writer epoch is staled"))] := by
  simp [write, StreamDB.core_setCore_self hself, PartialStream.write, h, PipelinedWriter.submit]

end StreamFlow

namespace StreamDB

variable {db : StreamDB}

/-- A write at writer epoch 4 after a seal at writer epoch 5, on a fresh database. -/
theorem write_after_seal_returns_ok :
    (((StreamDB.recover ⟨0, []⟩ [] ∅).seal 1 1 5).2.core ⟨1, 0⟩).storage.write 4 1 ⟨0, 0⟩ 1 [.hole] =
        .error (.staled "writer epoch is staled") ∧
      (((StreamDB.recover ⟨0, []⟩ [] ∅).seal 1 1 5).2.write 1 1 4 ⟨0, 0⟩ 1 [.hole]).1 = .ok (1, 0) :=
  ⟨rfl, rfl⟩

theorem advanceGracePeiodOfVersionSet_eq (db : StreamDB) : ∃ cores, db.advanceGracePeiodOfVersionSet = { db with cores } := by
  unfold advanceGracePeiodOfVersionSet
  generalize db.streams.keys = keys
  induction keys generalizing db with
  | nil => exact ⟨db.cores, rfl⟩
  | cons k keys ih =>
    rw [List.foldl_cons]
    split <;> exact ih _

@[simp] theorem advanceGracePeiodOfVersionSet_versionSet :
    db.advanceGracePeiodOfVersionSet.versionSet = db.versionSet := by
  obtain ⟨cores, h⟩ := advanceGracePeiodOfVersionSet_eq db
  rw [h]

/-- No call appends to the durable log before it returns: only the writer's flush does. -/
theorem calls_keep_log :
    (db.write streamId segmentEpoch writerEpoch ackedSeq firstIndex entries).2.log = db.log ∧
      (db.seal streamId segmentEpoch writerEpoch).2.log = db.log ∧ (db.truncate streamId keepSeq).2.log = db.log := by
  have hadvance : ∀ d : StreamDB, d.advanceGracePeiodOfVersionSet.log = d.log := fun d => by
    obtain ⟨cores, h⟩ := advanceGracePeiodOfVersionSet_eq d
    rw [h]
  refine ⟨by simp [write, StreamFlow.write], by simp [StreamDB.seal, StreamFlow.seal], ?_⟩
  simp only [truncate, StreamFlow.streamMeta]
  split_ifs <;> simp [hadvance]

/-- A write returns `Ok` with the log still empty; its flush then fails, completing only the dropped waiter. -/
theorem write_ok_before_failed_append :
    ((StreamDB.recover ⟨0, []⟩ [] ∅).write 1 1 1 ⟨0, 0⟩ 1 [.event [7]]).1 = .ok (1, 0) ∧
      ((StreamDB.recover ⟨0, []⟩ [] ∅).write 1 1 1 ⟨0, 0⟩ 1 [.event [7]]).2.log = [] ∧
      (((StreamFlow.beginFlush ⟨1, 0⟩ ((StreamDB.recover ⟨0, []⟩ [] ∅).write 1 1 1 ⟨0, 0⟩ 1 [.event [7]]).2).bind
          (StreamFlow.durableAppend ⟨1, 0⟩ · false)).bind (StreamFlow.commit ⟨1, 0⟩)).map
          (fun p => (p.1.log, (p.1.core ⟨1, 0⟩).writer.completed)) =
        some ([], [(0, .error (.io "durable append failed"))]) := ⟨rfl, rfl, rfl⟩

/-- Truncation is accepted exactly when the keep sequence is at most the acked one; a rejection keeps the versions. -/
theorem truncate_accepts_iff_le_acked (db : StreamDB) (streamId : UInt64) (keepSeq : Sequence) :
    (∀ a b : Sequence, a.toU64 > b.toU64 ↔ a.le b = false) ∧
    (keepSeq.le ((db.mustGetStream streamId).2.core (db.mustGetStream streamId).1).storage.ackedSeq →
      (db.truncate streamId keepSeq).1 = .ok () ∧
      ∃ m : StreamMeta, m.initialSeq = keepSeq.toU64 ∧
        m.ackedSeq = ((db.mustGetStream streamId).2.core (db.mustGetStream streamId).1).storage.ackedSeq.toU64 ∧
        (db.truncate streamId keepSeq).2.versionSet = db.versionSet.truncateStream m) ∧
    (keepSeq.le ((db.mustGetStream streamId).2.core (db.mustGetStream streamId).1).storage.ackedSeq = false →
      (∃ msg, (db.truncate streamId keepSeq).1 = .error (.invalidArgument msg)) ∧
      (db.truncate streamId keepSeq).2.versionSet = db.versionSet) := by
  refine ⟨Sequence.toU64_lt_iff, fun hle => ?_, fun hgt => ?_⟩
  · simp only [truncate, StreamFlow.streamMeta]
    rw [if_neg (by rw [gt_iff_lt, Sequence.toU64_lt_iff, hle]; simp)]
    simp only [advanceGracePeiodOfVersionSet_versionSet, setCore_versionSet, mustGetStream_versionSet]
    exact ⟨trivial, _, by rfl, by rfl, rfl⟩
  · have : keepSeq.toU64 > _ := (Sequence.toU64_lt_iff _ _).2 hgt
    simp [truncate, StreamFlow.streamMeta, this]

/-- Two holes at index `u32::MAX`: the range end wraps to 1, and the write still returns `Ok`. -/
theorem write_range_wraps :
    (4294967295 : UInt32) + UInt32.ofNat [Entry.hole, .hole].length = 1 ∧
    ((StreamDB.recover ⟨0, []⟩ [] ∅).write 1 1 1 ⟨0, 0⟩ 4294967295 [.hole, .hole]).1 =
      .ok ((PartialStream.new 0).continuousIndex 1 ⟨4294967295, 1⟩, 0) ∧
    (PartialStream.new 0).continuousIndex 1 ⟨4294967295, 1⟩ = 0 := ⟨rfl, rfl, rfl⟩

end StreamDB

end ArrowKV
