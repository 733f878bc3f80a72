import Mathlib.Logic.Function.Iterate
import Mathlib.Data.List.Basic

namespace ArrowKV
set_option autoImplicit true

namespace Engine

/-- Modelled from the call sites (`crate::error::Error` is not in the sources). -/
inductive Error where
  | corrupted (msg : String)
  | io (msg : String)
  deriving DecidableEq, Repr

/-- Modelled from the call sites: a file name, valid Unicode or the text `Debug` prints for it. -/
inductive FileName where
  | utf8 (name : String)
  | invalid (debug : String)
  deriving DecidableEq, Repr

/-- Modelled from the call sites (`tokio::fs::ReadDir`): what each `next_entry` call returns, in order. -/
structure ReadDir where
  entries : List (Except Error FileName)

def ReadDir.nextEntry : ReadDir → Except Error (Option FileName) × ReadDir
  | ⟨[]⟩ => (.ok none, ⟨[]⟩)
  | ⟨.error e :: rest⟩ => (.error e, ⟨rest⟩)
  | ⟨.ok fileName :: rest⟩ => (.ok (some fileName), ⟨rest⟩)

structure FileSystemBucketLister where
  dir : ReadDir

namespace FileSystemBucketLister

/-- The loop of `next`: an error, or a name that is not valid Unicode, returns at once and drops `result`. -/
def nextLoop : Nat → List String → ReadDir → Except Error (List String) × ReadDir
  | 0, result, dir => (.ok result, dir)
  | n + 1, result, dir =>
    match dir.nextEntry with
    | (.error e, dir) => (.error e, dir)
    | (.ok none, dir) => (.ok result, dir)
    | (.ok (some (.utf8 fileName)), dir) => nextLoop n (result ++ [fileName]) dir
    | (.ok (some (.invalid s)), dir) => (.error (.corrupted ("invalid name " ++ s)), dir)

def next (l : FileSystemBucketLister) (n : Nat) : Except Error (List String) × FileSystemBucketLister :=
  let (result, dir) := nextLoop n [] l.dir
  (result, ⟨dir⟩)

def valid (names : List String) : List (Except Error FileName) := names.map (.ok ∘ .utf8)

def entryError : Except Error FileName → Option Error
  | .error e => some e
  | .ok (.invalid s) => some (.corrupted ("invalid name " ++ s))
  | .ok (.utf8 _) => none

theorem nextLoop_valid : ∀ (n : Nat) (result names : List String),
    nextLoop n result ⟨valid names⟩ = (.ok (result ++ names.take n), ⟨valid (names.drop n)⟩)
  | 0, _, _ => by simp [nextLoop]
  | _ + 1, _, [] => by simp [nextLoop, valid, ReadDir.nextEntry]
  | n + 1, result, name :: names => by
    simpa [nextLoop, valid, ReadDir.nextEntry] using nextLoop_valid n (result ++ [name]) names

theorem nextLoop_error : ∀ (n : Nat) (result names : List String), names.length < n →
    entryError entry = some e →
    nextLoop n result ⟨valid names ++ entry :: rest⟩ = (.error e, ⟨rest⟩)
  | n + 1, _, [], _, he => by
    match entry, he with
    | .error _, rfl | .ok (.invalid _), rfl => rfl
  | n + 1, result, name :: names, hn, he => by
    simpa [nextLoop, valid, ReadDir.nextEntry] using nextLoop_error n (result ++ [name]) names (by simpa using hn) he

theorem iterate_next_valid (names : List String) (n i : Nat) :
    (fun l : FileSystemBucketLister => (l.next n).2)^[i] ⟨⟨valid names⟩⟩ = ⟨⟨valid (names.drop (i * n))⟩⟩ := by
  induction i with
  | zero => simp
  | succ i ih =>
    rw [Function.iterate_succ_apply', ih]
    simp [next, nextLoop_valid, List.drop_drop, Nat.succ_mul, Nat.add_comm]

/-- On valid names, the `i`-th call of `next n` returns the `i`-th run of `n` names, and an empty batch at the end. -/
theorem next_iterate_valid (names : List String) (n i : Nat) :
    (((fun l : FileSystemBucketLister => (l.next n).2)^[i] ⟨⟨valid names⟩⟩).next n).1 =
      .ok ((names.drop (i * n)).take n) := by
  rw [iterate_next_valid]
  simp [next, nextLoop_valid]

/-- A failing entry makes `next n` return its error past it: the valid names before it in the batch are lost. -/
theorem next_error_drops_batch {l : FileSystemBucketLister} (names : List String)
    (hl : l.dir.entries = valid names ++ entry :: rest) (hn : names.length < n) (he : entryError entry = some e) :
    l.next n = (.error e, ⟨⟨rest⟩⟩) := by
  obtain ⟨⟨entries⟩⟩ := l
  subst hl
  simp only [next, nextLoop_error n [] names hn he]

theorem next_error_drops_batch_invalid :
    ((⟨⟨valid ["a", "b"] ++ .ok (.invalid "\"\\xFF\"") :: valid ["c"]⟩⟩ : FileSystemBucketLister).dir.entries =
        valid ["a", "b"] ++ .ok (.invalid "\"\\xFF\"") :: valid ["c"]) ∧ ["a", "b"].length < 3 ∧
      entryError (.ok (.invalid "\"\\xFF\"")) = some (.corrupted "invalid name \"\\xFF\"") ∧
      (⟨⟨valid ["a", "b"] ++ .ok (.invalid "\"\\xFF\"") :: valid ["c"]⟩⟩ : FileSystemBucketLister).next 3 =
        (.error (.corrupted "invalid name \"\\xFF\""), ⟨⟨valid ["c"]⟩⟩) :=
  have he : entryError (.ok (.invalid "\"\\xFF\"")) = some (.corrupted "invalid name \"\\xFF\"") := rfl
  ⟨rfl, by decide, he, next_error_drops_batch ["a", "b"] rfl (by decide) he⟩

end FileSystemBucketLister

end Engine

end ArrowKV
