import ArrowKV.Storage.Concurrent

namespace ArrowKV
set_option autoImplicit true

namespace StreamDB

variable {db db' : StreamDB}

theorem Grows.version_ge (hg : db.Grows db') (hi : installed ≤ db.versionSet.current)
    (hv : installed ≤ (db.core f).storage.version) : installed ≤ (db'.core f).storage.version := by
  rcases hg.version f with h | h <;> rw [h]
  · exact hv
  · exact hi.trans hg.current_le

theorem Grows.lookup_cases (hg : db.Grows db') (hk : db'.streams.lookup k = some f)
    (hi : installed ≤ db.versionSet.current) :
    db.streams.lookup k = some f ∨ installed ≤ (db'.core f).storage.version := by
  rcases hg.fresh k f hk with h | ⟨-, h⟩
  · exact .inl h
  · exact .inr (h ▸ hi.trans hg.current_le)

end StreamDB

namespace TruncatePhase

/-- Once its edit is installed, each bound stream is ahead in the snapshot, being refreshed, or at its version. -/
def Inv (db : StreamDB) : TruncatePhase → Prop
  | snapshot installed => installed ≤ db.versionSet.current
  | refreshing installed keys => installed ≤ db.versionSet.current ∧
      ∀ k f, db.streams.lookup k = some f → k ∈ keys ∨ installed ≤ (db.core f).storage.version
  | refreshOne installed stream keys => installed ≤ db.versionSet.current ∧ stream.core < db.cores.length ∧
      ∀ k f, db.streams.lookup k = some f →
        k ∈ keys ∨ f.core = stream.core ∨ installed ≤ (db.core f).storage.version
  | done installed => installed ≤ db.versionSet.current ∧
      ∀ k f, db.streams.lookup k = some f → installed ≤ (db.core f).storage.version
  | idle | gotStream .. | checked _ | failed _ => True

variable {db db' : StreamDB} {p p' : TruncatePhase}

theorem Inv.grows (hg : db.Grows db') (hi : p.Inv db) : p.Inv db' := by
  cases p with
  | snapshot installed => exact hi.trans hg.current_le
  | refreshing installed keys =>
    refine ⟨hi.1.trans hg.current_le, fun k f hk => ?_⟩
    rcases hg.lookup_cases hk hi.1 with h | h
    · exact (hi.2 k f h).imp_right (hg.version_ge hi.1)
    · exact .inr h
  | refreshOne installed stream keys =>
    refine ⟨hi.1.trans hg.current_le, Nat.lt_of_lt_of_le hi.2.1 hg.length_le, fun k f hk => ?_⟩
    rcases hg.lookup_cases hk hi.1 with h | h
    · exact (hi.2.2 k f h).imp_right (Or.imp_right (hg.version_ge hi.1))
    · exact .inr (.inr h)
  | done installed =>
    refine ⟨hi.1.trans hg.current_le, fun k f hk => ?_⟩
    rcases hg.lookup_cases hk hi.1 with h | h
    · exact hg.version_ge hi.1 (hi.2 k f h)
    · exact h
  | idle | gotStream | checked | failed => trivial

theorem Inv.next (h : p.next db = some (db', p')) (hwf : db.WellFormed) (hi : p.Inv db) : p'.Inv db' := by
  cases p with
  | gotStream keepSeq flow =>
    simp only [next, StreamFlow.streamMeta] at h
    split_ifs at h <;> cases h <;> trivial
  | checked streamMeta => cases h; exact le_rfl
  | snapshot installed =>
    cases h
    exact ⟨hi, fun k f hk => .inl (AList.mem_keys.1 (AList.lookup_isSome.1 (by simp [hk])))⟩
  | refreshing installed keys =>
    rcases keys with _ | ⟨k, keys⟩
    · cases h
      exact ⟨hi.1, fun k f hk => (hi.2 k f hk).resolve_left (List.not_mem_nil k)⟩
    · simp only [next] at h
      cases hm : db.mightGetStream k with
      | ok stream =>
        rw [hm] at h
        cases h
        have hk := StreamDB.mightGetStream_eq_ok.1 hm
        refine ⟨hi.1, hwf k stream hk, fun k' f hk' => ?_⟩
        rcases hi.2 k' f hk' with hmem | hv
        · rcases List.mem_cons.1 hmem with rfl | hmem
          · exact .inr (.inl (by rw [hk] at hk'; cases hk'; rfl))
          · exact .inl hmem
        · exact .inr (.inr hv)
      | error err =>
        rw [hm] at h
        cases h
        have hk := StreamDB.lookup_of_mightGetStream_eq_error hm
        refine ⟨hi.1, fun k' f hk' => ?_⟩
        rcases hi.2 k' f hk' with hmem | hv
        · rcases List.mem_cons.1 hmem with rfl | hmem
          · simp [hk] at hk'
          · exact .inl hmem
        · exact .inr hv
  | refreshOne installed stream keys =>
    cases h
    refine ⟨hi.1, fun k f hk => ?_⟩
    rcases hi.2.2 k f hk with hmem | hcore | hv
    · exact .inl hmem
    · simp [StreamDB.refreshStream, StreamDB.core_setCore hi.2.1, hcore, hi.1]
    · exact .inr ((StreamDB.grows_setCore (.inr rfl)).version_ge hi.1 hv)
  | idle | failed | done => cases h

end TruncatePhase

namespace Sys

/-- The run invariant: the stream map points into the heap, and each truncate thread's `Inv`. -/
structure Inv (s : Sys) : Prop where
  wellFormed : s.db.WellFormed
  threads : ∀ t, (s.threads t).Inv s.db

variable {s s' : Sys}

theorem Step.inv (h : Step s e s') (hi : s.Inv) : s'.Inv := by
  have hg := h.grows
  refine ⟨hg.wellFormed hi.wellFormed, fun t' => ?_⟩
  cases h with
  | mustGet | flow => exact (hi.threads t').grows hg
  | truncateStart t streamId keepSeq ht =>
    dsimp only
    rw [Function.update_apply]
    split_ifs
    · trivial
    · exact (hi.threads t').grows hg
  | truncate t h =>
    dsimp only
    rw [Function.update_apply]
    split_ifs with heq
    · subst heq; exact (hi.threads t').next h hi.wellFormed
    · exact (hi.threads t').grows hg

theorem Run.inv (h : Run s evs s') (hi : s.Inv) : s'.Inv := by
  induction h with
  | refl => exact hi
  | tail _ hs ih => exact hs.inv ih

theorem init_inv : (init versionSet log recovered).Inv := ⟨StreamDB.recover_ownsCores.allocated, fun _ => trivial⟩

/-- Once a truncate returns `Ok`, every stream in the map holds at least the version its edit installed. -/
theorem truncate_ok_refreshes_every_stream (h : Run (init versionSet log recovered) evs s)
    (ht : s.threads t = .done installed) :
    installed ≤ s.db.versionSet.current ∧
      ∀ k f, s.db.streams.lookup k = some f → installed ≤ (s.db.core f).storage.version := by
  have hi := (h.inv init_inv).threads t
  rwa [ht] at hi

theorem truncate_ok_refreshes_every_stream_alone :
    ∃ evs s, Run (init ⟨0, []⟩ [] ∅) evs s ∧ s.threads 0 = .done 1 ∧
      1 ≤ s.db.versionSet.current ∧
        ∀ k f, s.db.streams.lookup k = some f → 1 ≤ (s.db.core f).storage.version := by
  let r := (init ⟨0, []⟩ [] ∅).db.mustGetStream 1
  let s₁ : Sys := ⟨r.2, Function.update (init ⟨0, []⟩ [] ∅).threads 0 (.gotStream ⟨0, 0⟩ r.1)⟩
  have h₁ : Run (init ⟨0, []⟩ [] ∅) [.mustGet 1] s₁ := .tail (.refl _) (.truncateStart _ 0 1 ⟨0, 0⟩ rfl)
  obtain ⟨evs, h₂⟩ := Run.runAlone (s := s₁) 6 (t := 0) (p := .gotStream ⟨0, 0⟩ r.1) rfl
  have ht : Function.update s₁.threads 0 (TruncatePhase.runAlone 6 s₁.db (.gotStream ⟨0, 0⟩ r.1)).2 0 = .done 1 := by
    rw [Function.update_same]
    rfl
  exact ⟨_, _, h₁.trans h₂, ht, truncate_ok_refreshes_every_stream (t := 0) (h₁.trans h₂) ht⟩

end Sys

end ArrowKV
