import Mathlib.Data.List.AList
import ArrowKV.Stream.Types

namespace ArrowKV
set_option autoImplicit true

/-- Modelled from the spec (`tributary.rs` is not in the sources): the updates of one accepted request. -/
inductive Txn where
  | write (segmentEpoch writerEpoch : UInt32) (ackedSeq : Sequence) (firstIndex : UInt32) (entries : List Entry)
  | seal (segmentEpoch writerEpoch : UInt32)
  deriving DecidableEq, Repr

structure SegmentIndex where
  entries : List (UInt32 × Entry)
  ackedIndex : UInt32
  promisedEpoch : UInt32
  sealed : Bool
  deriving DecidableEq, Repr

namespace SegmentIndex

def empty (epoch : UInt32) : SegmentIndex := ⟨[], 0, epoch, false⟩

def has (seg : SegmentIndex) (i : Nat) : Bool := seg.entries.any (·.1.toNat = i)

/-- Insert an entry at an absent slot; an established slot is immutable. -/
def insertSlot (i : UInt32) (e : Entry) : List (UInt32 × Entry) → List (UInt32 × Entry)
  | [] => [(i, e)]
  | (j, f) :: rest =>
    if i < j then (i, e) :: (j, f) :: rest
    else if i = j then (j, f) :: rest
    else (j, f) :: insertSlot i e rest

end SegmentIndex

def continuousFrom (present : Nat → Bool) (i : Nat) : Nat → Nat
  | 0 => i
  | fuel + 1 => if present (i + 1) then continuousFrom present (i + 1) fuel else i

/-- Modelled from the spec: the per-stream index, and the version number its version handle holds. -/
structure PartialStream where
  segments : AList (fun _ : UInt32 => SegmentIndex)
  ackedSeq : Sequence
  version : Nat

namespace PartialStream

def new (version : Nat) : PartialStream := ⟨∅, ⟨0, 0⟩, version⟩

def segment (ps : PartialStream) (epoch : UInt32) : SegmentIndex :=
  (ps.segments.lookup epoch).getD (.empty epoch)

def write (ps : PartialStream) (writerEpoch segmentEpoch : UInt32) (ackedSeq : Sequence) (firstIndex : UInt32)
    (entries : List Entry) : Except Error (Option Txn) :=
  if writerEpoch < (ps.segment segmentEpoch).promisedEpoch then .error (.staled "writer epoch is staled")
  else .ok (some (.write segmentEpoch writerEpoch ackedSeq firstIndex entries))

def «seal» (ps : PartialStream) (segmentEpoch writerEpoch : UInt32) : Except Error (Option Txn) × PartialStream :=
  let seg := ps.segment segmentEpoch
  let seg := { seg with promisedEpoch := max seg.promisedEpoch writerEpoch, sealed := true }
  (.ok (some (.seal segmentEpoch writerEpoch)), { ps with segments := ps.segments.insert segmentEpoch seg })

def continuousIndex (ps : PartialStream) (segmentEpoch : UInt32) (range : IndexRange) : UInt32 :=
  let seg := ps.segment segmentEpoch
  let present := fun i => seg.has i || (range.start.toNat ≤ i && i < range.stop.toNat)
  UInt32.ofNat (continuousFrom present 0 (seg.entries.length + (range.stop.toNat - range.start.toNat)))

def ackedIndex (ps : PartialStream) (segmentEpoch : UInt32) : UInt32 := (ps.segment segmentEpoch).ackedIndex

def sealedEpoches (ps : PartialStream) : List (UInt32 × UInt32) :=
  ps.segments.entries.filterMap fun s => if s.2.sealed then some (s.1, s.2.promisedEpoch) else none

/-- The first `limit` entries from `start` on; `none` when there are none yet, and the caller registers a waker. -/
def scanEntries (ps : PartialStream) (epoch startIndex : UInt32) (limit : Nat) (requireAcked : Bool) :
    Except Error (Option (List (UInt32 × Entry))) :=
  let seg := ps.segment epoch
  let found := (seg.entries.filter fun p => startIndex ≤ p.1 && (!requireAcked || p.1 ≤ seg.ackedIndex)).take limit
  .ok (if found.isEmpty then none else some found)

def refreshVersions (ps : PartialStream) (current : Nat) : PartialStream := { ps with version := current }

def apply (ps : PartialStream) : Txn → PartialStream
  | .write segmentEpoch _ ackedSeq firstIndex entries =>
    let seg := ps.segment segmentEpoch
    let slots := entries.enum.foldl (fun l p => SegmentIndex.insertSlot (firstIndex + UInt32.ofNat p.1) p.2 l) seg.entries
    let seg := { seg with entries := slots }
    let seg := { seg with ackedIndex := UInt32.ofNat (continuousFrom seg.has 0 slots.length) }
    { ps with segments := ps.segments.insert segmentEpoch seg, ackedSeq := ps.ackedSeq.max ackedSeq }
  | .seal .. => ps

@[simp] theorem new_version (version : Nat) : (new version).version = version := rfl

@[simp] theorem refreshVersions_version (ps : PartialStream) (current : Nat) :
    (ps.refreshVersions current).version = current := rfl

@[simp] theorem seal_version (ps : PartialStream) (segmentEpoch writerEpoch : UInt32) :
    (ps.seal segmentEpoch writerEpoch).2.version = ps.version := rfl

@[simp] theorem apply_version (ps : PartialStream) (txn : Txn) : (ps.apply txn).version = ps.version := by
  cases txn <;> rfl

end PartialStream

end ArrowKV
