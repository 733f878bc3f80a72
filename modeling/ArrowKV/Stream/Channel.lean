import Mathlib.Data.List.Forall2
import Mathlib.Data.List.Range
import Mathlib.Data.List.Nodup

namespace ArrowKV
set_option autoImplicit true

/-- The sending half of a `oneshot::channel()`; halves of one channel share its number. -/
structure Sender where
  id : Nat
  deriving DecidableEq, Repr

structure Receiver where
  id : Nat
  deriving DecidableEq, Repr

/-- A request to the log writer; a shutdown is delivered if the record is `none`. -/
structure Request (R : Type) where
  sender : Sender
  record : Option R

structure ChannelCore (R : Type) where
  requests : List (Request R)
  waitting : Bool

/-- Where the consumer is: outside `take`, blocked in `Condvar::wait`, or woken and retaking the mutex. -/
inductive Phase where
  | idle
  | blocked
  | woken
  deriving DecidableEq, Repr

structure Channel (R : Type) where
  core : ChannelCore R
  consumer : Phase
  nextOneshot : Nat

namespace Channel

def new : Channel R := ⟨⟨[], false⟩, .idle, 0⟩

def notifyOne (c : Channel R) : Channel R :=
  match c.consumer with
  | .blocked => { c with consumer := .woken }
  | _ => c

/-- The critical section of `append` and `shutdown`: push, and notify only if `waitting` is set. -/
def push (c : Channel R) (request : Request R) : Channel R :=
  let core := { c.core with requests := c.core.requests ++ [request] }
  if core.waitting then notifyOne { c with core := { core with waitting := false } }
  else { c with core := core }

def append (c : Channel R) (record : R) : Channel R × Receiver :=
  let n := c.nextOneshot
  (push { c with nextOneshot := n + 1 } ⟨⟨n⟩, some record⟩, ⟨n⟩)

def shutdown (c : Channel R) : Channel R :=
  let n := c.nextOneshot
  push { c with nextOneshot := n + 1 } ⟨⟨n⟩, none⟩

/-- One pass through the head of `take`'s loop under the mutex: take everything, or set `waitting` and wait. -/
def takeLoop (c : Channel R) : Option (Channel R × Option (List (Request R))) :=
  if c.consumer = .blocked then none
  else if c.core.requests.isEmpty then
    some ({ c with core := { c.core with waitting := true }, consumer := .blocked }, none)
  else
    some ({ c with core := { c.core with requests := [] }, consumer := .idle }, some c.core.requests)

end Channel

inductive Event (R : Type) where
  | appended (record : R) (receiver : Receiver)
  | shutDown
  | took (requests : List (Request R))
  | waited
  | woke

/-- One atomic step: a producer's critical section, the consumer's pass, or a spurious wake-up. -/
inductive Channel.Step : Channel R → Event R → Channel R → Prop
  | append (c : Channel R) (record : R) : Step c (.appended record (c.append record).2) (c.append record).1
  | shutdown (c : Channel R) : Step c .shutDown c.shutdown
  | take {c c' : Channel R} {requests : List (Request R)} :
      c.takeLoop = some (c', some requests) → Step c (.took requests) c'
  | wait {c c' : Channel R} : c.takeLoop = some (c', none) → Step c .waited c'
  | spurious {c : Channel R} : c.consumer = .blocked → Step c .woke { c with consumer := .woken }

inductive Channel.Run : List (Event R) → Channel R → Prop
  | init : Run [] Channel.new
  | step {events : List (Event R)} {c c' : Channel R} {e : Event R} :
      Run events c → Step c e c' → Run (events ++ [e]) c'

namespace Channel

@[simp] theorem notifyOne_core (c : Channel R) : c.notifyOne.core = c.core := by
  unfold notifyOne; split <;> rfl

@[simp] theorem notifyOne_nextOneshot (c : Channel R) : c.notifyOne.nextOneshot = c.nextOneshot := by
  unfold notifyOne; split <;> rfl

@[simp] theorem push_requests (c : Channel R) (request : Request R) :
    (c.push request).core.requests = c.core.requests ++ [request] := by
  simp only [push]; split <;> simp

@[simp] theorem push_nextOneshot (c : Channel R) (request : Request R) :
    (c.push request).nextOneshot = c.nextOneshot := by
  simp only [push]; split <;> simp

@[simp] theorem append_requests (c : Channel R) (record : R) :
    (c.append record).1.core.requests = c.core.requests ++ [⟨⟨c.nextOneshot⟩, some record⟩] := by
  simp [append]

@[simp] theorem append_nextOneshot (c : Channel R) (record : R) :
    (c.append record).1.nextOneshot = c.nextOneshot + 1 := by
  simp [append]

@[simp] theorem append_receiver (c : Channel R) (record : R) : (c.append record).2 = ⟨c.nextOneshot⟩ := rfl

@[simp] theorem shutdown_requests (c : Channel R) :
    c.shutdown.core.requests = c.core.requests ++ [⟨⟨c.nextOneshot⟩, none⟩] := by
  simp [shutdown]

@[simp] theorem shutdown_nextOneshot (c : Channel R) : c.shutdown.nextOneshot = c.nextOneshot + 1 := by
  simp [shutdown]

def NoLostWakeup (c : Channel R) : Prop :=
  c.consumer = .blocked → c.core.requests = [] ∧ c.core.waitting = true

theorem push_consumer_ne_blocked {c : Channel R} (h : c.NoLostWakeup) (request : Request R) :
    (c.push request).consumer ≠ .blocked := by
  by_cases hb : c.consumer = .blocked
  · simp [push, (h hb).2, notifyOne, hb]
  · simp only [push]
    split
    · unfold notifyOne; split <;> simp_all
    · exact hb

theorem takeLoop_wait {c c' : Channel R} (h : c.takeLoop = some (c', none)) :
    c.core.requests = [] ∧ c' = { c with core := { c.core with waitting := true }, consumer := .blocked } := by
  unfold takeLoop at h
  split at h
  · cases h
  · split at h
    · cases h; simp_all [List.isEmpty_iff]
    · cases h

theorem takeLoop_take {c c' : Channel R} {requests : List (Request R)}
    (h : c.takeLoop = some (c', some requests)) :
    requests = c.core.requests ∧ c' = { c with core := { c.core with requests := [] }, consumer := .idle } := by
  unfold takeLoop at h
  split at h
  · cases h
  · split at h
    · cases h
    · cases h; exact ⟨rfl, rfl⟩

theorem Step.noLostWakeup {c c' : Channel R} {e : Event R} (hs : Step c e c') (h : c.NoLostWakeup) :
    c'.NoLostWakeup := by
  cases hs with
  | append record => exact fun hb => (push_consumer_ne_blocked (c := { c with nextOneshot := c.nextOneshot + 1 }) h _ hb).elim
  | shutdown => exact fun hb => (push_consumer_ne_blocked (c := { c with nextOneshot := c.nextOneshot + 1 }) h _ hb).elim
  | take ht => rw [(takeLoop_take ht).2]; nofun
  | wait hw =>
    obtain ⟨hnil, rfl⟩ := takeLoop_wait hw
    exact fun _ => ⟨hnil, rfl⟩
  | spurious _ => nofun

/-- On every interleaving the consumer never waits while a request is queued, and `waitting` is set when it does. -/
theorem run_no_lost_wakeup {events : List (Event R)} {c : Channel R} (h : Run events c) :
    c.NoLostWakeup := by
  induction h with
  | init => nofun
  | step _ hs ih => exact hs.noLostWakeup ih

theorem run_no_lost_wakeup_wait_append :
    Run [.waited, .appended 5 ⟨0⟩] (Channel.append ⟨⟨[], true⟩, .blocked, 0⟩ 5).1 ∧
      (Channel.append ⟨⟨[], true⟩, .blocked, 0⟩ 5).1.NoLostWakeup :=
  have h : Run [.waited, .appended 5 ⟨0⟩] (Channel.append ⟨⟨[], true⟩, .blocked, 0⟩ 5).1 :=
    .step (.step .init (.wait rfl)) (.append _ 5)
  ⟨h, run_no_lost_wakeup h⟩

end Channel

namespace Event

def IsPush : Event R → Bool
  | .appended .. | .shutDown => true
  | _ => false

def Pushed : Event R → Request R → Prop
  | .appended record receiver, request => request = ⟨⟨receiver.id⟩, some record⟩
  | .shutDown, request => request.record = none
  | _, _ => False

def taken : Event R → List (Request R)
  | .took requests => requests
  | _ => []

end Event

namespace Channel

/-- The requests taken, then those queued, are the pushes in mutex order, the `n`-th on the `n`-th oneshot. -/
structure Delivered (events : List (Event R)) (c : Channel R) : Prop where
  pushed : List.Forall₂ Event.Pushed (events.filter Event.IsPush) (events.flatMap Event.taken ++ c.core.requests)
  senders : (events.flatMap Event.taken ++ c.core.requests).map (·.sender.id) = List.range c.nextOneshot

theorem Step.delivered {events : List (Event R)} {c c' : Channel R} {e : Event R} (hs : Step c e c')
    (h : Delivered events c) : Delivered (events ++ [e]) c' := by
  obtain ⟨hp, hid⟩ := h
  cases hs with
  | append record =>
    have hx : Event.Pushed (.appended record ⟨c.nextOneshot⟩) (⟨⟨c.nextOneshot⟩, some record⟩ : Request R) := rfl
    refine ⟨?_, ?_⟩
    · simpa [Event.IsPush, Event.taken] using List.rel_append hp (.cons hx .nil)
    · simp [Event.taken, ← hid, List.range_succ]
  | shutdown =>
    have hx : Event.Pushed (R := R) .shutDown ⟨⟨c.nextOneshot⟩, none⟩ := rfl
    refine ⟨?_, ?_⟩
    · simpa [Event.IsPush, Event.taken] using List.rel_append hp (.cons hx .nil)
    · simp [Event.taken, ← hid, List.range_succ]
  | take ht =>
    obtain ⟨rfl, rfl⟩ := takeLoop_take ht
    exact ⟨by simpa [Event.IsPush, Event.taken] using hp, by simpa [Event.taken] using hid⟩
  | wait hw =>
    obtain ⟨-, rfl⟩ := takeLoop_wait hw
    exact ⟨by simpa [Event.IsPush, Event.taken] using hp, by simpa [Event.taken] using hid⟩
  | spurious _ => exact ⟨by simpa [Event.IsPush, Event.taken] using hp, by simpa [Event.taken] using hid⟩

/-- Every pushed request is handed out once, in mutex order, each `append`'s record with its own sender. -/
theorem run_delivers_each_request_once {events : List (Event R)} {c : Channel R} (h : Run events c) :
    List.Forall₂ Event.Pushed (events.filter Event.IsPush) (events.flatMap Event.taken ++ c.core.requests) ∧
      ((events.flatMap Event.taken ++ c.core.requests).map (·.sender)).Nodup := by
  have hd : Delivered events c := by
    induction h with
    | init => exact ⟨.nil, rfl⟩
    | step _ hs ih => exact hs.delivered ih
  refine ⟨hd.pushed, List.Nodup.of_map Sender.id ?_⟩
  rw [List.map_map]
  exact hd.senders ▸ List.nodup_range _

theorem run_delivers_each_request_once_shutdown :
    Run [.appended 5 ⟨0⟩, .shutDown, .took [⟨⟨0⟩, some 5⟩, ⟨⟨1⟩, none⟩]] ⟨⟨[], false⟩, .idle, 2⟩ ∧
      List.Forall₂ Event.Pushed
        ([Event.appended 5 ⟨0⟩, .shutDown, .took [⟨⟨0⟩, some 5⟩, ⟨⟨1⟩, none⟩]].filter Event.IsPush)
        ([Event.appended 5 ⟨0⟩, .shutDown, .took [⟨⟨0⟩, some 5⟩, ⟨⟨1⟩, none⟩]].flatMap Event.taken ++ []) ∧
      (([Event.appended 5 ⟨0⟩, .shutDown, .took [⟨⟨0⟩, some 5⟩, ⟨⟨1⟩, none⟩]].flatMap Event.taken ++
        []).map Request.sender).Nodup :=
  have h : Run [.appended 5 ⟨0⟩, .shutDown, .took [⟨⟨0⟩, some 5⟩, ⟨⟨1⟩, none⟩]] ⟨⟨[], false⟩, .idle, 2⟩ :=
    .step (.step (.step .init (.append _ 5)) (.shutdown _)) (.take rfl)
  ⟨h, run_delivers_each_request_once h⟩

end Channel

end ArrowKV
