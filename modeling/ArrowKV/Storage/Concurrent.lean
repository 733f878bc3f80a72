import ArrowKV.Storage.StreamDB
import Mathlib.Logic.Function.Basic

namespace ArrowKV
set_option autoImplicit true

namespace StreamDB

/-- What a step may do: keep every binding, bind new ids at the current version, move versions to it. -/
structure Grows (db db' : StreamDB) : Prop where
  current_le : db.versionSet.current ≤ db'.versionSet.current
  length_le : db.cores.length ≤ db'.cores.length
  lookup : ∀ k f, db.streams.lookup k = some f → db'.streams.lookup k = some f
  fresh : ∀ k f, db'.streams.lookup k = some f → db.streams.lookup k = some f ∨
    f.core < db'.cores.length ∧ (db'.core f).storage.version = db'.versionSet.current
  version : ∀ f, (db'.core f).storage.version = (db.core f).storage.version ∨
    (db'.core f).storage.version = db'.versionSet.current

variable {db db' : StreamDB}

theorem Grows.refl (db : StreamDB) : db.Grows db :=
  ⟨le_rfl, le_rfl, fun _ _ => id, fun _ _ => .inl, fun _ => .inl rfl⟩

theorem Grows.withLog (h : db.Grows db') (log : List Record) : db.Grows { db' with log } :=
  ⟨h.1, h.2, h.3, h.4, h.5⟩

theorem Grows.wellFormed (h : db.Grows db') (hwf : db.WellFormed) : db'.WellFormed := by
  intro k f hk
  rcases h.fresh k f hk with hk | ⟨hlt, -⟩
  · exact Nat.lt_of_lt_of_le (hwf k f hk) h.length_le
  · exact hlt

theorem OwnsCores.of_grows (h : db.OwnsCores) (hg : db.Grows db') (hs : db'.streams = db.streams) : db'.OwnsCores :=
  ⟨hs ▸ h.streamId_eq, hg.wellFormed h.allocated, hs ▸ h.disjoint⟩

theorem grows_setCore
    (hv : c.storage.version = (db.core f).storage.version ∨ c.storage.version = db.versionSet.current) :
    db.Grows (db.setCore f c) := by
  refine ⟨le_rfl, by simp, fun _ _ h => by simpa using h, fun _ _ h => .inl (by simpa using h), fun g => ?_⟩
  by_cases hf : f.core < db.cores.length
  · by_cases hg : g.core = f.core
    · simpa [core_setCore hf, hg, core_congr hg] using hv
    · simp [core_setCore_of_ne hg]
  · simp [setCore_of_length_le (Nat.le_of_not_lt hf)]

theorem grows_mustGetStream : db.Grows (db.mustGetStream streamId).2 := by
  cases h : db.streams.lookup streamId with
  | some f => rw [mustGetStream_of_lookup h]; exact .refl db
  | none =>
    have hc := core_mustGetStream_of_lookup_none h
    rw [mustGetStream_of_lookup_none h] at hc ⊢
    refine ⟨le_rfl, by simp, fun k f hk => ?_, fun k f hk => ?_, fun g => ?_⟩
    · have hne : k ≠ streamId := by rintro rfl; simp [h] at hk
      simpa [AList.lookup_insert_ne hne] using hk
    · by_cases hne : k = streamId
      · subst hne
        simp only [AList.lookup_insert, Option.some.injEq] at hk
        subst hk
        simp [hc]
      · exact .inl (by simpa [AList.lookup_insert_ne hne] using hk)
    · rw [hc]
      split_ifs with h₁ h₂
      · exact .inl rfl
      · simp
      · simp [core_of_length_le (Nat.le_of_not_lt h₁)]

end StreamDB

/-- The operations on a flow a caller holds, and the writer's durable append outside the lock. -/
inductive FlowOp where
  | write (flow : StreamFlow) (segmentEpoch writerEpoch : UInt32) (ackedSeq : Sequence) (firstIndex : UInt32)
      (entries : List Entry)
  | seal (flow : StreamFlow) (segmentEpoch writerEpoch : UInt32)
  | streamMeta (flow : StreamFlow) (keepSeq : Sequence)
  | pollEntries (flow : StreamFlow) (waker : Nat) (requiredEpoch startIndex : UInt32) (limit : Nat)
      (requireAcked : Bool)
  | beginFlush (flow : StreamFlow)
  | durableAppend (flow : StreamFlow) (ok : Bool)
  | commit (flow : StreamFlow)

namespace FlowOp

def flow : FlowOp → StreamFlow
  | write flow .. | .seal flow .. | streamMeta flow .. | pollEntries flow .. | beginFlush flow
  | durableAppend flow _ | commit flow => flow

def run (db : StreamDB) : FlowOp → Option StreamDB
  | write flow segmentEpoch writerEpoch ackedSeq firstIndex entries =>
    some (flow.write db segmentEpoch writerEpoch ackedSeq firstIndex entries).2
  | .seal flow segmentEpoch writerEpoch => some (flow.seal db segmentEpoch writerEpoch).2
  | streamMeta flow keepSeq => some (flow.streamMeta db keepSeq).2
  | pollEntries flow waker requiredEpoch startIndex limit requireAcked =>
    some (flow.pollEntries db waker requiredEpoch startIndex limit requireAcked).2
  | beginFlush flow => flow.beginFlush db
  | durableAppend flow ok => flow.durableAppend db ok
  | commit flow => (flow.commit db).map Prod.fst

def KeepsWakers : FlowOp → Prop
  | pollEntries .. | commit _ => False
  | _ => True

variable {db db' : StreamDB} {op : FlowOp}

theorem run_spec (h : op.run db = some db') :
    ∃ c log, c.storage.version = (db.core op.flow).storage.version ∧
      (op.KeepsWakers → c.writer.readerWakers = (db.core op.flow).writer.readerWakers) ∧
      db' = { db.setCore op.flow c with log } := by
  cases op with
  | write => cases h; exact ⟨_, _, by rfl, fun _ => by exact PipelinedWriter.submit_readerWakers _ _, rfl⟩
  | streamMeta | «seal» => cases h; exact ⟨_, _, by rfl, fun _ => by rfl, rfl⟩
  | pollEntries flow waker requiredEpoch startIndex limit requireAcked =>
    simp only [run, StreamFlow.pollEntries, Option.some.injEq] at h
    split at h <;> subst h
    · exact ⟨_, db.log, rfl, fun _ => rfl, by rw [StreamDB.setCore_core]⟩
    · exact ⟨_, db.log, rfl, fun _ => rfl, by rw [StreamDB.setCore_core]⟩
    · exact ⟨_, _, by rfl, False.elim, rfl⟩
  | beginFlush flow =>
    obtain ⟨w, hw, rfl⟩ := Option.map_eq_some'.1 h
    exact ⟨_, _, by rfl, fun _ => by exact PipelinedWriter.beginFlush_readerWakers hw, rfl⟩
  | durableAppend flow ok =>
    obtain ⟨p, hp, rfl⟩ := Option.map_eq_some'.1 h
    exact ⟨_, _, by rfl, fun _ => by exact PipelinedWriter.durableAppend_readerWakers hp, rfl⟩
  | commit flow =>
    obtain ⟨r, hr, rfl⟩ := Option.map_eq_some'.1 h
    obtain ⟨r, hc, rfl⟩ := Option.map_eq_some'.1 hr
    exact ⟨_, db.log, PipelinedWriter.commit_version hc, False.elim, rfl⟩

theorem run_grows (h : op.run db = some db') : db.Grows db' ∧ db'.streams = db.streams := by
  obtain ⟨c, log, hv, -, rfl⟩ := run_spec h
  exact ⟨(StreamDB.grows_setCore (.inl hv)).withLog log, rfl⟩

end FlowOp

/-- Where one `StreamDB::truncate` call stands between the critical sections of its body. -/
inductive TruncatePhase where
  | idle
  | gotStream (keepSeq : Sequence) (flow : StreamFlow)
  | checked (streamMeta : StreamMeta)
  | snapshot (installed : Nat)
  | refreshing (installed : Nat) (keys : List UInt64)
  | refreshOne (installed : Nat) (stream : StreamFlow) (keys : List UInt64)
  | failed (err : Error)
  | done (installed : Nat)

namespace TruncatePhase

/-- The call's next critical section, built from `StreamFlow.streamMeta`, `mightGetStream` and `refreshStream`. -/
def next (db : StreamDB) : TruncatePhase → Option (StreamDB × TruncatePhase)
  | gotStream keepSeq flow =>
    match flow.streamMeta db keepSeq with
    | (.error err, db) => some (db, failed err)
    | (.ok streamMeta, db) =>
      if keepSeq.toU64 > streamMeta.ackedSeq then
        some (db, failed (.invalidArgument ("truncate un-acked entries, acked seq " ++
          toString streamMeta.ackedSeq ++ ", keep seq " ++ toString keepSeq.toU64)))
      else some (db, checked streamMeta)
  | checked streamMeta =>
    let db := { db with versionSet := db.versionSet.truncateStream streamMeta }
    some (db, snapshot db.versionSet.current)
  | snapshot installed => some (db, refreshing installed db.streams.keys)
  | refreshing installed [] => some (db, done installed)
  | refreshing installed (streamId :: keys) =>
    match db.mightGetStream streamId with
    | .ok stream => some (db, refreshOne installed stream keys)
    | .error _ => some (db, refreshing installed keys)
  | refreshOne installed stream keys => some (db.refreshStream stream, refreshing installed keys)
  | idle | failed _ | done _ => none

def result : TruncatePhase → Option (Except Error Unit)
  | failed err => some (.error err)
  | done _ => some (.ok ())
  | _ => none

def runAlone : Nat → StreamDB → TruncatePhase → StreamDB × TruncatePhase
  | 0, db, p => (db, p)
  | fuel + 1, db, p =>
    match p.next db with
    | some (db', p') => runAlone fuel db' p'
    | none => (db, p)

variable {db db' : StreamDB} {p p' : TruncatePhase}

theorem runAlone_done : runAlone fuel db (done installed) = (db, done installed) := by
  cases fuel <;> rfl

theorem runAlone_refreshing (keys : List UInt64) (hfuel : 2 * keys.length + 1 ≤ fuel) :
    runAlone fuel db (refreshing installed keys) =
      (keys.foldl (fun db streamId =>
        match db.mightGetStream streamId with
        | .ok stream => db.refreshStream stream
        | .error _ => db) db, done installed) := by
  induction keys generalizing db fuel with
  | nil =>
    obtain ⟨fuel, rfl⟩ : ∃ n, fuel = n + 1 := ⟨fuel - 1, by omega⟩
    exact runAlone_done
  | cons k keys ih =>
    simp only [List.length_cons] at hfuel
    obtain ⟨fuel, rfl⟩ : ∃ n, fuel = n + 1 + 1 := ⟨fuel - 2, by omega⟩
    rw [List.foldl_cons]
    cases h : db.mightGetStream k with
    | ok stream =>
      simp only [runAlone, next, h]
      refine ih ?_
      omega
    | error err =>
      rw [runAlone.eq_2]
      simp only [next, h]
      refine ih ?_
      omega

/-- Run alone from its must-get, the steps compute exactly `StreamDB.truncate`. -/
theorem runAlone_truncate (db : StreamDB) (streamId : UInt64) (keepSeq : Sequence) :
    let r := runAlone (2 * (db.mustGetStream streamId).2.streams.keys.length + 4) (db.mustGetStream streamId).2
      (gotStream keepSeq (db.mustGetStream streamId).1)
    r.1 = (db.truncate streamId keepSeq).2 ∧ r.2.result = some (db.truncate streamId keepSeq).1 := by
  simp only [StreamDB.truncate]
  generalize db.mustGetStream streamId = r
  obtain ⟨flow, db₁⟩ := r
  rw [show 2 * db₁.streams.keys.length + 4 = 2 * db₁.streams.keys.length + 1 + 1 + 1 + 1 from rfl]
  simp only [StreamFlow.streamMeta]
  split_ifs with hkeep
  · simp [runAlone, next, StreamFlow.streamMeta, hkeep, result]
  · rw [runAlone.eq_2]
    simp only [next, StreamFlow.streamMeta, hkeep, if_false]
    rw [runAlone.eq_2]
    dsimp only [next]
    rw [runAlone.eq_2]
    dsimp only [next]
    rw [runAlone_refreshing _ (by simp)]
    exact ⟨rfl, rfl⟩

theorem next_grows (h : p.next db = some (db', p')) : db.Grows db' ∧ db'.streams = db.streams := by
  cases p with
  | gotStream keepSeq flow =>
    simp only [next, StreamFlow.streamMeta] at h
    split_ifs at h <;> cases h <;> exact ⟨StreamDB.grows_setCore (.inl rfl), rfl⟩
  | checked streamMeta =>
    cases h
    exact ⟨⟨Nat.le_succ _, le_rfl, fun _ _ => id, fun _ _ => .inl, fun _ => .inl rfl⟩, rfl⟩
  | snapshot installed => cases h; exact ⟨.refl db, rfl⟩
  | refreshing installed keys =>
    rcases keys with _ | ⟨k, keys⟩
    · cases h; exact ⟨.refl db, rfl⟩
    · simp only [next] at h
      split at h <;> cases h <;> exact ⟨.refl db, rfl⟩
  | refreshOne installed stream keys =>
    cases h
    exact ⟨StreamDB.grows_setCore (.inr rfl), rfl⟩
  | idle | failed | done => cases h

end TruncatePhase

/-- A database run: the database, and where each truncate thread stands. -/
structure Sys where
  db : StreamDB
  threads : Nat → TruncatePhase

namespace Sys

inductive Event where
  | mustGet (streamId : UInt64)
  | internal
  deriving DecidableEq, Repr

def init (versionSet : VersionSet) (log : List Record) (recovered : AList (fun _ : UInt64 => PartialStream)) : Sys :=
  ⟨StreamDB.recover versionSet log recovered, fun _ => .idle⟩

/-- One critical section; a flow operation may run on any flow at any time, covering every holder. -/
inductive Step : Sys → Event → Sys → Prop
  | mustGet (s : Sys) (streamId : UInt64) :
      Step s (.mustGet streamId) { s with db := (s.db.mustGetStream streamId).2 }
  | flow (s : Sys) {db : StreamDB} (op : FlowOp) (h : op.run s.db = some db) : Step s .internal { s with db }
  | truncateStart (s : Sys) (t : Nat) (streamId : UInt64) (keepSeq : Sequence) (h : s.threads t = .idle) :
      Step s (.mustGet streamId) ⟨(s.db.mustGetStream streamId).2,
        Function.update s.threads t (.gotStream keepSeq (s.db.mustGetStream streamId).1)⟩
  | truncate (s : Sys) (t : Nat) {db : StreamDB} {p : TruncatePhase} (h : (s.threads t).next s.db = some (db, p)) :
      Step s .internal ⟨db, Function.update s.threads t p⟩

inductive Run : Sys → List Event → Sys → Prop
  | refl (s : Sys) : Run s [] s
  | tail : Run s evs u → Step u e v → Run s (evs ++ [e]) v

variable {s s' : Sys}

theorem Step.grows (h : Step s e s') : s.db.Grows s'.db := by
  cases h with
  | mustGet | truncateStart => exact StreamDB.grows_mustGetStream
  | flow op h => exact (FlowOp.run_grows h).1
  | truncate t h => exact (TruncatePhase.next_grows h).1

theorem Step.ownsCores (h : Step s e s') (hi : s.db.OwnsCores) : s'.db.OwnsCores := by
  cases h with
  | mustGet | truncateStart => exact hi.mustGetStream
  | flow op h => exact hi.of_grows (FlowOp.run_grows h).1 (FlowOp.run_grows h).2
  | truncate t h => exact hi.of_grows (TruncatePhase.next_grows h).1 (TruncatePhase.next_grows h).2

theorem Step.mem_streams (h : Step s e s') : k ∈ s'.db.streams ↔ k ∈ s.db.streams ∨ e = .mustGet k := by
  cases h with
  | mustGet | truncateStart => simp [StreamDB.mem_mustGetStream, eq_comm, or_comm]
  | flow op h => simp [(FlowOp.run_grows h).2]
  | truncate t h => simp [(TruncatePhase.next_grows h).2]

theorem Run.lookup (h : Run s evs s') (hk : s.db.streams.lookup k = some f) : s'.db.streams.lookup k = some f := by
  induction h with
  | refl => exact hk
  | tail _ hs ih => exact hs.grows.lookup _ _ ih

theorem Run.mem_streams (h : Run s evs s') : k ∈ s'.db.streams ↔ k ∈ s.db.streams ∨ Event.mustGet k ∈ evs := by
  induction h with
  | refl => simp
  | tail _ hs ih => rw [hs.mem_streams, ih]; simp [or_assoc, eq_comm]

theorem Run.ownsCores (h : Run s evs s') (hi : s.db.OwnsCores) : s'.db.OwnsCores := by
  induction h with
  | refl => exact hi
  | tail _ hs ih => exact hs.ownsCores ih

/-- Along any interleaving from recovery, each id's flow carries that id, and no two ids share a stream core. -/
theorem reachable_ownsCores (h : Run (init versionSet log recovered) evs s) : s.db.OwnsCores :=
  h.ownsCores StreamDB.recover_ownsCores

theorem reachable_ownsCores_two_streams :
    ∃ s, Run (init ⟨0, []⟩ [] ∅) [.mustGet 7, .mustGet 3, .mustGet 7] s ∧ s.db.OwnsCores :=
  have h := (((Run.refl (init ⟨0, []⟩ [] ∅)).tail (.mustGet _ 7)).tail (.mustGet _ 3)).tail (.mustGet _ 7)
  ⟨_, h, reachable_ownsCores h⟩

theorem Run.trans (h : Run s evs s') (h' : Run s' evs' s'') : Run s (evs ++ evs') s'' := by
  induction h' with
  | refl => simpa using h
  | tail _ hs ih => rw [← List.append_assoc]; exact .tail ih hs

theorem Run.runAlone (fuel : Nat) (ht : s.threads t = p) :
    ∃ evs, Run s evs ⟨(TruncatePhase.runAlone fuel s.db p).1,
      Function.update s.threads t (TruncatePhase.runAlone fuel s.db p).2⟩ := by
  induction fuel generalizing s p with
  | zero => subst ht; exact ⟨[], by simpa [TruncatePhase.runAlone] using Run.refl s⟩
  | succ fuel ih =>
    cases hn : p.next s.db with
    | none => subst ht; exact ⟨[], by simpa [TruncatePhase.runAlone, hn] using Run.refl s⟩
    | some r =>
      obtain ⟨evs, h⟩ := ih (s := ⟨r.1, Function.update s.threads t r.2⟩) (Function.update_same ..)
      refine ⟨[.internal] ++ evs, (Run.tail (.refl s) (.truncate s t (ht ▸ hn))).trans ?_⟩
      simpa [TruncatePhase.runAlone, hn] using h

/-- Bindings stay and later must-gets and readers of a bound id get its flow; keys are recovered or must-get ids. -/
structure StreamsOnlyGrow (recovered : AList (fun _ : UInt64 => PartialStream)) (evs : List Event) (s : Sys) :
    Prop where
  kept : ∀ evs' s', Run s evs' s' → ∀ k f, s.db.streams.lookup k = some f → s'.db.streams.lookup k = some f
  shared : ∀ evs' s', Run s evs' s' → ∀ k f, s.db.streams.lookup k = some f → (s'.db.mustGetStream k).1 = f
  read_shared : ∀ evs' s', Run s evs' s' → ∀ k f, s.db.streams.lookup k = some f →
    ∀ segmentEpoch startIndex limit requireAcked,
      s'.db.read k segmentEpoch startIndex limit requireAcked = .ok ⟨segmentEpoch, startIndex, limit, requireAcked, f⟩
  getSegmentReader_shared : ∀ evs' s', Run s evs' s' → ∀ k f, s.db.streams.lookup k = some f →
    ∀ segmentEpoch startIndex limit requireAcked,
      s'.db.getSegmentReader k segmentEpoch startIndex limit requireAcked =
        .ok ⟨segmentEpoch, startIndex, limit, requireAcked, f⟩
  mem_streams : ∀ k, k ∈ s.db.streams ↔ k ∈ recovered ∨ Event.mustGet k ∈ evs
  read_notFound : ∀ k segmentEpoch startIndex limit requireAcked,
    s.db.read k segmentEpoch startIndex limit requireAcked = .error (.notFound ("stream " ++ toString k)) ↔
      ¬ (k ∈ recovered ∨ Event.mustGet k ∈ evs)
  getSegmentReader_notFound : ∀ k segmentEpoch startIndex limit requireAcked,
    s.db.getSegmentReader k segmentEpoch startIndex limit requireAcked =
      .error (.notFound ("stream " ++ toString k)) ↔ ¬ (k ∈ recovered ∨ Event.mustGet k ∈ evs)

theorem run_streams_only_grow (h : Run (init versionSet log recovered) evs s) : s.StreamsOnlyGrow recovered evs := by
  have hmem : ∀ k, k ∈ s.db.streams ↔ k ∈ recovered ∨ Event.mustGet k ∈ evs := fun k => by
    rw [h.mem_streams]
    simp [init, StreamDB.mem_recover_streams]
  exact ⟨fun _ _ h' _ _ => h'.lookup, fun _ _ h' _ _ hk => by rw [StreamDB.mustGetStream_of_lookup (h'.lookup hk)],
    fun _ _ h' _ _ hk _ _ _ _ => StreamDB.read_of_lookup (h'.lookup hk),
    fun _ _ h' _ _ hk _ _ _ _ => StreamDB.getSegmentReader_of_lookup (h'.lookup hk), hmem,
    fun k _ _ _ _ => by rw [StreamDB.read_eq_notFound, hmem], fun k _ _ _ _ => by rw [StreamDB.getSegmentReader_eq_notFound, hmem]⟩

theorem run_streams_only_grow_write :
    Run (init ⟨0, []⟩ [] ∅) [.mustGet 7] ⟨((StreamDB.recover ⟨0, []⟩ [] ∅).mustGetStream 7).2, fun _ => .idle⟩ ∧
      StreamsOnlyGrow ∅ [.mustGet 7] ⟨((StreamDB.recover ⟨0, []⟩ [] ∅).mustGetStream 7).2, fun _ => .idle⟩ :=
  have h : Run (init ⟨0, []⟩ [] ∅) [.mustGet 7] ⟨((StreamDB.recover ⟨0, []⟩ [] ∅).mustGetStream 7).2, fun _ => .idle⟩ :=
    .tail (.refl _) (.mustGet _ 7)
  ⟨h, run_streams_only_grow h⟩

end Sys

end ArrowKV
