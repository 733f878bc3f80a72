import ArrowKV.Storage.Tributary

namespace ArrowKV
set_option autoImplicit true

/-- A record of the log engine: a committed transaction of one stream. -/
structure Record where
  streamId : UInt64
  txn : Txn
  deriving DecidableEq, Repr

/-- Modelled from the spec (`pipeline.rs` is not in the sources): the per-stream write batcher. -/
structure PipelinedWriter where
  pending : List (Nat × Option Txn)
  inFlight : Option (List (Nat × Option Txn))
  appended : Option Bool
  readerWakers : List Nat
  nextWaiter : Nat
  completed : List (Nat × Except Error Unit)

namespace PipelinedWriter

def new : PipelinedWriter := ⟨[], none, none, [], 0, []⟩

def submit (self : PipelinedWriter) (txn : Except Error (Option Txn)) : Nat × PipelinedWriter :=
  let waiter := self.nextWaiter
  let self := { self with nextWaiter := waiter + 1 }
  match txn with
  | .ok txn => (waiter, { self with pending := self.pending ++ [(waiter, txn)] })
  | .error err => (waiter, { self with completed := self.completed ++ [(waiter, .error err)] })

def registerReadingWaiter (self : PipelinedWriter) (waker : Nat) : PipelinedWriter :=
  { self with readerWakers := self.readerWakers ++ [waker] }

def beginFlush (self : PipelinedWriter) : Option PipelinedWriter :=
  match self.inFlight with
  | none => if self.pending.isEmpty then none else some { self with inFlight := some self.pending, pending := [] }
  | some _ => none

def records (streamId : UInt64) (batch : List (Nat × Option Txn)) : List Record :=
  batch.filterMap fun p => p.2.map (⟨streamId, ·⟩)

def durableAppend (self : PipelinedWriter) (streamId : UInt64) (log : List Record) (ok : Bool) :
    Option (PipelinedWriter × List Record) :=
  match self.inFlight, self.appended with
  | some batch, none => some ({ self with appended := some ok }, if ok then log ++ records streamId batch else log)
  | _, _ => none

/-- Apply the batch's updates if its append succeeded, complete its waiters, and wake every registered reader. -/
def commit (storage : PartialStream) (self : PipelinedWriter) : Option (PartialStream × PipelinedWriter × List Nat) :=
  match self.inFlight, self.appended with
  | some batch, some ok =>
    let storage := if ok then batch.foldl (fun ps p => (p.2.map ps.apply).getD ps) storage else storage
    let result : Except Error Unit := if ok then .ok () else .error (.io "durable append failed")
    let completed := self.completed ++ batch.map fun p => (p.1, result)
    some (storage, { self with inFlight := none, appended := none, readerWakers := [], completed }, self.readerWakers)
  | _, _ => none

@[simp] theorem submit_readerWakers (self : PipelinedWriter) (txn : Except Error (Option Txn)) :
    (self.submit txn).2.readerWakers = self.readerWakers := by
  unfold submit; split <;> rfl

variable {self w : PipelinedWriter}

theorem beginFlush_readerWakers (h : self.beginFlush = some w) : w.readerWakers = self.readerWakers := by
  unfold beginFlush at h
  split at h
  · split at h
    · cases h
    · cases h; rfl
  · cases h

theorem durableAppend_readerWakers (h : self.durableAppend streamId log ok = some p) :
    p.1.readerWakers = self.readerWakers := by
  unfold durableAppend at h
  split at h
  · cases h; rfl
  · cases h

theorem commit_wakes (h : commit storage self = some r) : r.2.1.readerWakers = [] ∧ r.2.2 = self.readerWakers := by
  unfold commit at h
  split at h
  · cases h; exact ⟨rfl, rfl⟩
  · cases h

theorem foldl_apply_version (batch : List (Nat × Option Txn)) (storage : PartialStream) :
    (batch.foldl (fun ps p => (p.2.map ps.apply).getD ps) storage).version = storage.version := by
  induction batch generalizing storage with
  | nil => rfl
  | cons p batch ih => rw [List.foldl_cons, ih]; cases p.2 <;> simp

theorem commit_version (h : commit storage self = some r) : r.1.version = storage.version := by
  unfold commit at h
  split at h
  · cases h
    split
    · exact foldl_apply_version _ _
    · rfl
  · cases h

end PipelinedWriter

end ArrowKV
