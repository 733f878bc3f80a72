import ArrowKV.Storage.Concurrent

namespace ArrowKV
set_option autoImplicit true

namespace StreamFlow

theorem commit_spec {self : StreamFlow} {db db' : StreamDB} (h : self.commit db = some (db', woken)) :
    woken = (db.core self).writer.readerWakers ∧ ∃ c : StreamCore, c.writer.readerWakers = [] ∧ db' = db.setCore self c := by
  obtain ⟨r, hr, he⟩ := Option.map_eq_some'.1 h
  cases he
  exact ⟨(PipelinedWriter.commit_wakes hr).2, _, (PipelinedWriter.commit_wakes hr).1, rfl⟩

end StreamFlow

/-- Where a reader's `poll_entries` stands; `scanned` holds the lock after an empty scan, before it registers. -/
inductive ReaderPhase where
  | idle
  | scanned
  | suspended
  | woken
  | returned (entries : Except Error (Option (List (UInt32 × Entry))))

/-- One stream's readers and writer: the database, the flow, the reader holding the lock, each reader's phase. -/
structure ReadSys where
  db : StreamDB
  flow : StreamFlow
  lock : Option Nat
  readers : Nat → ReaderPhase

inductive ReadEvent where
  | polled (reader : Nat) (entries : Except Error (Option (List (UInt32 × Entry))))
  | committed (woken : List Nat)
  | internal

namespace ReadSys

def init (db : StreamDB) (flow : StreamFlow) : ReadSys := ⟨db, flow, none, fun _ => .idle⟩

/-- The end of `poll_entries` after an empty scan: register the waker, then release the lock. -/
def register (s : ReadSys) (reader : Nat) : ReadSys :=
  { s with db := s.flow.registerReadingWaiter s.db reader, lock := none,
           readers := Function.update s.readers reader .suspended }

/-- The scan and the registration, with nothing between them, are `StreamFlow::poll_entries`. -/
theorem pollEntries_of_scan_empty {s : ReadSys}
    (h : (s.db.core s.flow).storage.scanEntries requiredEpoch startIndex limit requireAcked = .ok none) :
    s.flow.pollEntries s.db reader requiredEpoch startIndex limit requireAcked = (.ok none, (s.register reader).db) := by
  simp [StreamFlow.pollEntries, h, register]

theorem pollEntries_of_scan_found {s : ReadSys}
    (h : (s.db.core s.flow).storage.scanEntries requiredEpoch startIndex limit requireAcked = entries)
    (hne : entries ≠ .ok none) :
    s.flow.pollEntries s.db reader requiredEpoch startIndex limit requireAcked = (entries, s.db) := by
  simp only [StreamFlow.pollEntries, h]
  rcases entries with err | _ | found <;> simp_all

def wake (readers : Nat → ReaderPhase) (woken : List Nat) : Nat → ReaderPhase :=
  fun r => if r ∈ woken then .woken else readers r

/-- One step of a reader or the writer; a poll's scan and registration share the lock, and a commit needs it free. -/
inductive Step : ReadSys → ReadEvent → ReadSys → Prop
  | scanEmpty (s : ReadSys) (reader : Nat) (requiredEpoch startIndex : UInt32) (limit : Nat) (requireAcked : Bool)
      (hl : s.lock = none) (hr : s.readers reader ≠ .scanned)
      (h : (s.db.core s.flow).storage.scanEntries requiredEpoch startIndex limit requireAcked = .ok none) :
      Step s .internal { s with lock := some reader, readers := Function.update s.readers reader .scanned }
  | scanFound (s : ReadSys) {entries : Except Error (Option (List (UInt32 × Entry)))} (reader : Nat) (requiredEpoch startIndex : UInt32) (limit : Nat) (requireAcked : Bool)
      (hl : s.lock = none) (hr : s.readers reader ≠ .scanned)
      (h : (s.db.core s.flow).storage.scanEntries requiredEpoch startIndex limit requireAcked = entries)
      (hne : entries ≠ .ok none) :
      Step s (.polled reader entries) { s with readers := Function.update s.readers reader (.returned entries) }
  | register (s : ReadSys) (reader : Nat) (hl : s.lock = some reader) :
      Step s (.polled reader (.ok none)) (s.register reader)
  | writer (s : ReadSys) {db : StreamDB} (op : FlowOp) (hop : op.flow = s.flow) (hw : op.KeepsWakers)
      (h : op.run s.db = some db) : Step s .internal { s with db }
  | commit (s : ReadSys) {db : StreamDB} {woken : List Nat} (hl : s.lock = none) (h : s.flow.commit s.db = some (db, woken)) :
      Step s (.committed woken) { s with db, readers := wake s.readers woken }

inductive Run : ReadSys → List ReadEvent → ReadSys → Prop
  | refl (s : ReadSys) : Run s [] s
  | tail : Run s evs u → Step u e v → Run s (evs ++ [e]) v

variable {s s' : ReadSys}

structure Inv (s : ReadSys) : Prop where
  allocated : s.flow.core < s.db.cores.length
  lock_iff : ∀ r, s.lock = some r ↔ s.readers r = .scanned
  registered : ∀ r, s.readers r = .suspended → r ∈ (s.db.core s.flow).writer.readerWakers

theorem init_inv {db : StreamDB} {flow : StreamFlow} (h : flow.core < db.cores.length) : (init db flow).Inv :=
  ⟨h, fun r => by simp [init], fun r h => by simp [init] at h⟩

theorem Step.inv (h : Step s e s') (hi : s.Inv) : s'.Inv := by
  cases h with
  | scanEmpty reader requiredEpoch startIndex limit requireAcked hl hr hscan =>
    refine ⟨hi.allocated, fun r => ?_, fun r hr' => ?_⟩
    · by_cases hrr : r = reader
      · subst hrr; simp
      · simp [Function.update_noteq hrr, Ne.symm hrr, ← hi.lock_iff, hl]
    · have hrr : r ≠ reader := by rintro rfl; simp at hr'
      exact hi.registered r (by simpa [Function.update_noteq hrr] using hr')
  | scanFound reader requiredEpoch startIndex limit requireAcked hl hr hscan hne =>
    refine ⟨hi.allocated, fun r => ?_, fun r hr' => ?_⟩
    · by_cases hrr : r = reader
      · subst hrr; simp [hl]
      · simp [Function.update_noteq hrr, ← hi.lock_iff, hl]
    · have hrr : r ≠ reader := by rintro rfl; simp at hr'
      exact hi.registered r (by simpa [Function.update_noteq hrr] using hr')
  | register reader hl =>
    refine ⟨by simpa [ReadSys.register, StreamFlow.registerReadingWaiter] using hi.allocated, fun r => ?_, fun r hr' => ?_⟩
    · by_cases hrr : r = reader
      · subst hrr; simp [ReadSys.register]
      · simp [ReadSys.register, Function.update_noteq hrr, ← hi.lock_iff, hl, Ne.symm hrr]
    · simp only [ReadSys.register, StreamFlow.registerReadingWaiter, StreamDB.core_setCore_self hi.allocated,
        PipelinedWriter.registerReadingWaiter,
        List.mem_append, List.mem_singleton]
      by_cases hrr : r = reader
      · exact .inr hrr
      · exact .inl (hi.registered r (by simpa [ReadSys.register, Function.update_noteq hrr] using hr'))
  | writer op hop hw hrun =>
    obtain ⟨c, log, -, hwk, rfl⟩ := FlowOp.run_spec hrun
    rw [hop] at hwk ⊢
    refine ⟨by simpa using hi.allocated, hi.lock_iff, fun r hr' => ?_⟩
    have hc : ({ s.db.setCore s.flow c with log } : StreamDB).core s.flow = c :=
      StreamDB.core_setCore_self hi.allocated
    rw [hc, hwk hw]
    exact hi.registered r hr'
  | commit hl hc =>
    obtain ⟨rfl, c, -, rfl⟩ := StreamFlow.commit_spec hc
    refine ⟨by simpa using hi.allocated, fun r => ?_, fun r hr' => ?_⟩
    · simp only [wake, hl]
      split_ifs <;> simp [← hi.lock_iff, hl]
    · simp only [wake] at hr'
      split_ifs at hr' with hw
      exact absurd (hi.registered r hr') hw

theorem Run.inv (h : Run s evs s') (hi : s.Inv) : s'.Inv := by
  induction h with
  | refl => exact hi
  | tail _ hs ih => exact hs.inv ih

/-- No wake-up is lost: no commit between a reader's scan and registration, and a commit wakes the suspended. -/
structure NoLostReaderWakeup (s : ReadSys) : Prop where
  no_commit_while_scanned : ∀ r, s.readers r = .scanned → ∀ woken s', ¬ Step s (.committed woken) s'
  registered : ∀ r, s.readers r = .suspended → r ∈ (s.db.core s.flow).writer.readerWakers
  commit_wakes : ∀ r woken s', s.readers r = .suspended → Step s (.committed woken) s' →
    r ∈ woken ∧ s'.readers r = .woken

theorem Inv.noLostReaderWakeup (hi : s.Inv) : s.NoLostReaderWakeup := by
  refine ⟨fun r hr woken s' h => ?_, hi.registered, fun r woken s' hr h => ?_⟩
  · cases h with
    | commit hl => simp [hl] at hr; exact absurd ((hi.lock_iff r).2 hr) (by simp [hl])
  · cases h with
    | commit hl hc =>
      obtain ⟨rfl, -⟩ := StreamFlow.commit_spec hc
      have hmem := hi.registered r hr
      exact ⟨hmem, by simp [wake, hmem]⟩

theorem run_no_lost_reader_wakeup {db : StreamDB} {flow : StreamFlow} (hflow : flow.core < db.cores.length) (h : Run (init db flow) evs s) :
    s.NoLostReaderWakeup :=
  (h.inv (init_inv hflow)).noLostReaderWakeup

theorem run_no_lost_reader_wakeup_poll :
    ((StreamDB.recover ⟨0, []⟩ [] ∅).mustGetStream 1).1.core <
        ((StreamDB.recover ⟨0, []⟩ [] ∅).mustGetStream 1).2.cores.length ∧
      ∃ s, Run (init ((StreamDB.recover ⟨0, []⟩ [] ∅).mustGetStream 1).2 ((StreamDB.recover ⟨0, []⟩ [] ∅).mustGetStream 1).1)
        [.internal, .polled 0 (.ok none)] s ∧ s.NoLostReaderWakeup := by
  have hflow : ((StreamDB.recover ⟨0, []⟩ [] ∅).mustGetStream 1).1.core <
      ((StreamDB.recover ⟨0, []⟩ [] ∅).mustGetStream 1).2.cores.length := by decide
  have h := Run.tail (Run.tail (.refl _) (.scanEmpty (init ((StreamDB.recover ⟨0, []⟩ [] ∅).mustGetStream 1).2
    ((StreamDB.recover ⟨0, []⟩ [] ∅).mustGetStream 1).1) 0 1 1 10 false rfl (by simp [init]) rfl)) (.register _ 0 rfl)
  exact ⟨hflow, _, h, run_no_lost_reader_wakeup hflow h⟩

end ReadSys

end ArrowKV
