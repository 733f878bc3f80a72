import Mathlib.Data.List.AList
import Mathlib.Data.Multiset.Basic

namespace ArrowKV
set_option autoImplicit true

inductive CatalogError where
  | catalogEntryExists (name : String)
  | catalogEntryNotExists (name : String)
  deriving DecidableEq, Repr

/-- The catalog set; `current_entry` is a 64-bit `usize`, so `current_entry += 1` wraps at `usize::MAX`. -/
structure CatalogSet (E : Type) where
  entries : AList (fun _ : UInt64 => E)
  mapping : AList (fun _ : String => UInt64)
  currentEntry : UInt64

namespace CatalogSet

variable {E : Type}

def default : CatalogSet E := ⟨∅, ∅, 0⟩

def createEntry (self : CatalogSet E) (name : String) (entry : E) : Except CatalogError Unit × CatalogSet E :=
  if name ∈ self.mapping then (.error (.catalogEntryExists name), self)
  else
    let currentEntry := self.currentEntry + 1
    (.ok (), ⟨self.entries.insert currentEntry entry, self.mapping.insert name currentEntry, currentEntry⟩)

def getEntry (self : CatalogSet E) (name : String) : Except CatalogError E :=
  match (self.mapping.lookup name).bind self.entries.lookup with
  | some entry => .ok entry
  | none => .error (.catalogEntryNotExists name)

/-- `get_mut_entry`, followed by the caller's `update` through the reference it returns. -/
def getMutEntry (self : CatalogSet E) (name : String) (update : E → E) :
    Except CatalogError Unit × CatalogSet E :=
  match self.mapping.lookup name with
  | some index =>
    match self.entries.lookup index with
    | some entry => (.ok (), { self with entries := self.entries.insert index (update entry) })
    | none => (.error (.catalogEntryNotExists name), self)
  | none => (.error (.catalogEntryNotExists name), self)

def replaceEntry (self : CatalogSet E) (name : String) (newEntry : E) : Except CatalogError Unit × CatalogSet E :=
  match self.mapping.lookup name with
  | some oldEntryIndex =>
    if oldEntryIndex ∈ self.entries then
      (.ok (), { self with entries := self.entries.insert oldEntryIndex newEntry })
    else (.error (.catalogEntryNotExists name), self)
  | none => (.error (.catalogEntryNotExists name), self)

def scanEntries (self : CatalogSet E) (callback : E → Bool) : List E :=
  (self.entries.entries.map Sigma.snd).filter callback

end CatalogSet

inductive CatalogOp (E : Type) where
  | createEntry (name : String) (entry : E)
  | replaceEntry (name : String) (entry : E)
  | getMutEntry (name : String) (update : E → E)

def CatalogOp.created : CatalogOp E → Except CatalogError Unit → Nat
  | .createEntry .., .ok () => 1
  | _, _ => 0

def CatalogSet.apply (s : CatalogSet E) : CatalogOp E → Except CatalogError Unit × CatalogSet E
  | .createEntry name entry => s.createEntry name entry
  | .replaceEntry name entry => s.replaceEntry name entry
  | .getMutEntry name update => s.getMutEntry name update

def CatalogSet.runOps (s : CatalogSet E) : List (CatalogOp E) → List (Except CatalogError Unit) × CatalogSet E
  | [] => ([], s)
  | op :: ops => ((s.apply op).1 :: ((s.apply op).2.runOps ops).1, ((s.apply op).2.runOps ops).2)

def successfulCreations : List (CatalogOp E) → List (Except CatalogError Unit) → Nat
  | op :: ops, r :: rs => op.created r + successfulCreations ops rs
  | _, _ => 0

/-- What a catalog set is for: a finite map from names to entries. -/
abbrev CatalogMap (E : Type) := AList (fun _ : String => E)

namespace CatalogMap

variable {E : Type}

def apply (m : CatalogMap E) : CatalogOp E → Except CatalogError Unit × CatalogMap E
  | .createEntry name entry =>
    if name ∈ m then (.error (.catalogEntryExists name), m) else (.ok (), m.insert name entry)
  | .replaceEntry name entry =>
    if name ∈ m then (.ok (), m.insert name entry) else (.error (.catalogEntryNotExists name), m)
  | .getMutEntry name update =>
    match m.lookup name with
    | some entry => (.ok (), m.insert name (update entry))
    | none => (.error (.catalogEntryNotExists name), m)

def get (m : CatalogMap E) (name : String) : Except CatalogError E :=
  match m.lookup name with
  | some entry => .ok entry
  | none => .error (.catalogEntryNotExists name)

def scan (m : CatalogMap E) (callback : E → Bool) : Multiset E :=
  ((m.entries.map Sigma.snd).filter callback : List E)

def runOps (m : CatalogMap E) : List (CatalogOp E) → List (Except CatalogError Unit) × CatalogMap E
  | [] => ([], m)
  | op :: ops => ((m.apply op).1 :: ((m.apply op).2.runOps ops).1, ((m.apply op).2.runOps ops).2)

end CatalogMap

namespace CatalogSet

variable {E : Type}

/-- The representation invariant, and the abstraction into a finite map. -/
structure Refines (s : CatalogSet E) (m : CatalogMap E) : Prop where
  injective : ∀ n n' i, s.mapping.lookup n = some i → s.mapping.lookup n' = some i → n = n'
  range : ∀ i, i ∈ s.entries ↔ ∃ n, s.mapping.lookup n = some i
  bounded : ∀ i ∈ s.entries, i ≤ s.currentEntry
  view : ∀ n, (s.mapping.lookup n).bind s.entries.lookup = m.lookup n

theorem apply_error {s : CatalogSet E} {op : CatalogOp E} {err : CatalogError}
    (h : (s.apply op).1 = .error err) : (s.apply op).2 = s := by
  cases op with
  | createEntry name entry =>
    simp only [apply, createEntry] at h ⊢
    split at h <;> simp_all
  | replaceEntry name entry =>
    simp only [apply, replaceEntry] at h ⊢
    split <;> (try split) <;> simp_all
  | getMutEntry name update =>
    simp only [apply, getMutEntry] at h ⊢
    split <;> (try split) <;> simp_all

variable {s : CatalogSet E} {m : CatalogMap E}

theorem Refines.mem_entries (h : s.Refines m) (hi : s.mapping.lookup n = some i) : i ∈ s.entries :=
  (h.range i).2 ⟨n, hi⟩

theorem Refines.mem_mapping_iff (h : s.Refines m) : n ∈ s.mapping ↔ n ∈ m := by
  rw [← AList.lookup_isSome, ← AList.lookup_isSome, ← h.view n]
  cases hi : s.mapping.lookup n with
  | none => simp
  | some i =>
    obtain ⟨e, he⟩ := Option.isSome_iff_exists.1 (AList.lookup_isSome.2 (h.mem_entries hi))
    simp [he]

theorem Refines.getEntry (h : s.Refines m) (name : String) : s.getEntry name = m.get name := by
  simp only [CatalogSet.getEntry, CatalogMap.get, h.view name]

theorem Refines.insertNew (h : s.Refines m) (hn : name ∉ s.mapping)
    (hc : s.currentEntry.toNat + 1 < UInt64.size) (entry : E) :
    Refines ⟨s.entries.insert (s.currentEntry + 1) entry, s.mapping.insert name (s.currentEntry + 1),
      s.currentEntry + 1⟩ (m.insert name entry) := by
  have hnext : (s.currentEntry + 1).toNat = s.currentEntry.toNat + 1 := Nat.mod_eq_of_lt hc
  have hold : ∀ {n i}, s.mapping.lookup n = some i → i.toNat ≤ s.currentEntry.toNat :=
    fun hi => h.bounded _ (h.mem_entries hi)
  have hfresh : ∀ {n i}, s.mapping.lookup n = some i → i ≠ s.currentEntry + 1 := by
    rintro n i hi rfl
    have := hold hi
    omega
  have hnone : s.mapping.lookup name = none := AList.lookup_eq_none.2 hn
  have hlook : ∀ {n i}, (s.mapping.insert name (s.currentEntry + 1)).lookup n = some i ↔
      n = name ∧ i = s.currentEntry + 1 ∨ s.mapping.lookup n = some i := by
    intro n i
    by_cases h₁ : n = name
    · subst h₁
      simp [hnone, eq_comm]
    · simp [AList.lookup_insert_ne h₁, h₁]
  refine ⟨?_, ?_, ?_, ?_⟩
  · intro n n' i hi hi'
    rcases hlook.1 hi with ⟨h₁, rfl⟩ | hi <;> rcases hlook.1 hi' with ⟨h₂, hi'⟩ | hi'
    · exact h₁.trans h₂.symm
    · exact absurd rfl (hfresh hi')
    · exact absurd hi' (hfresh hi)
    · exact h.injective n n' i hi hi'
  · intro i
    simp only [AList.mem_insert, h.range, hlook, exists_or, exists_and_right, exists_eq, true_and]
  · intro i hi
    rcases (AList.mem_insert _).1 hi with rfl | hi
    · exact Nat.le_refl _
    · have := h.bounded i hi
      change i.toNat ≤ (s.currentEntry + 1).toNat
      change i.toNat ≤ s.currentEntry.toNat at this
      omega
  · intro n
    by_cases h₁ : n = name
    · subst h₁
      simp only [AList.lookup_insert, Option.some_bind]
    · rw [AList.lookup_insert_ne h₁, AList.lookup_insert_ne h₁, ← h.view n]
      cases hi : s.mapping.lookup n with
      | none => rfl
      | some i => exact AList.lookup_insert_ne (hfresh hi)

theorem Refines.insertExisting (h : s.Refines m) (hi : s.mapping.lookup name = some i) (entry : E) :
    Refines { s with entries := s.entries.insert i entry } (m.insert name entry) := by
  have hmem := h.mem_entries hi
  refine ⟨h.injective, fun j => ?_, fun j hj => ?_, fun n => ?_⟩
  · rw [AList.mem_insert, ← h.range]
    exact ⟨fun hj => hj.elim (· ▸ hmem) id, .inr⟩
  · exact h.bounded j ((AList.mem_insert _).1 hj |>.elim (· ▸ hmem) id)
  · by_cases h₁ : n = name
    · subst h₁
      simp only [hi, Option.some_bind, AList.lookup_insert]
    · rw [AList.lookup_insert_ne h₁, ← h.view n]
      cases hj : s.mapping.lookup n with
      | none => rfl
      | some j => exact AList.lookup_insert_ne fun he => h₁ (h.injective n name i (he ▸ hj) hi)

theorem Refines.lookup_entries (h : s.Refines m) (hi : s.mapping.lookup name = some i) :
    ∃ e, s.entries.lookup i = some e ∧ m.lookup name = some e := by
  obtain ⟨e, he⟩ := Option.isSome_iff_exists.1 (AList.lookup_isSome.2 (h.mem_entries hi))
  exact ⟨e, he, by rw [← h.view, hi, Option.some_bind, he]⟩

/-- One operation from a refining state gives the map's result and again a refining state. -/
theorem Refines.apply (h : s.Refines m) (op : CatalogOp E)
    (hc : s.currentEntry.toNat + op.created (s.apply op).1 < UInt64.size) :
    (s.apply op).1 = (m.apply op).1 ∧ (s.apply op).2.Refines (m.apply op).2 ∧
      (s.apply op).2.currentEntry.toNat = s.currentEntry.toNat + op.created (s.apply op).1 := by
  cases op with
  | createEntry name entry =>
    by_cases hn : name ∈ s.mapping
    · simp only [CatalogSet.apply, createEntry, CatalogMap.apply, if_pos hn, if_pos (h.mem_mapping_iff.1 hn),
        CatalogOp.created]
      exact ⟨by simp, h, by simp⟩
    · simp only [CatalogSet.apply, createEntry, CatalogMap.apply, if_neg hn,
        if_neg (mt h.mem_mapping_iff.2 hn), CatalogOp.created] at hc ⊢
      exact ⟨by simp, h.insertNew hn hc entry, Nat.mod_eq_of_lt hc⟩
  | replaceEntry name entry =>
    cases hi : s.mapping.lookup name with
    | none =>
      have hm : name ∉ m := AList.lookup_eq_none.1 (by rw [← h.view, hi]; rfl)
      simp only [CatalogSet.apply, replaceEntry, hi, CatalogMap.apply, if_neg hm, CatalogOp.created]
      exact ⟨by simp, h, by simp⟩
    | some i =>
      obtain ⟨e, -, hm⟩ := h.lookup_entries hi
      have hmem : name ∈ m := AList.lookup_isSome.1 (by rw [hm]; rfl)
      simp only [CatalogSet.apply, replaceEntry, hi, if_pos (h.mem_entries hi), CatalogMap.apply,
        if_pos hmem, CatalogOp.created]
      exact ⟨by simp, h.insertExisting hi entry, by simp⟩
  | getMutEntry name update =>
    cases hi : s.mapping.lookup name with
    | none =>
      have hm : m.lookup name = none := by rw [← h.view, hi]; rfl
      simp only [CatalogSet.apply, getMutEntry, hi, CatalogMap.apply, hm, CatalogOp.created]
      exact ⟨by simp, h, by simp⟩
    | some i =>
      obtain ⟨e, he, hm⟩ := h.lookup_entries hi
      simp only [CatalogSet.apply, getMutEntry, hi, he, CatalogMap.apply, hm, CatalogOp.created]
      exact ⟨by simp, h.insertExisting hi (update e), by simp⟩

theorem Refines.values_perm (h : s.Refines m) :
    (s.entries.entries.map Sigma.snd).Perm (m.entries.map Sigma.snd) := by
  let byIndex : List (Σ _ : UInt64, E) :=
    s.mapping.entries.filterMap fun p => (s.entries.lookup p.2).map (⟨p.2, ·⟩)
  let byName : List (Σ _ : String, E) :=
    s.mapping.entries.filterMap fun p => (s.entries.lookup p.2).map (⟨p.1, ·⟩)
  have hmap : ∀ {p : Σ _ : String, UInt64}, p ∈ s.mapping.entries → s.mapping.lookup p.1 = some p.2 :=
    fun hp => AList.mem_lookup_iff.2 hp
  have ndIndex : byIndex.NodupKeys := by
    refine List.nodupKeys_iff_pairwise.2 (List.pairwise_filterMap.2 ?_)
    refine s.mapping.nodupKeys.pairwise_ne.imp_of_mem fun hp hq hne b hb b' hb' => ?_
    simp only [Option.mem_def, Option.map_eq_some'] at hb hb'
    obtain ⟨_, -, rfl⟩ := hb
    obtain ⟨_, -, rfl⟩ := hb'
    exact fun he => hne (h.injective _ _ _ (hmap hp) (by rw [hmap hq]; exact congrArg some he.symm))
  have ndName : byName.NodupKeys := by
    refine List.nodupKeys_iff_pairwise.2 (List.pairwise_filterMap.2 ?_)
    refine s.mapping.nodupKeys.pairwise_ne.imp fun hne b hb b' hb' => ?_
    simp only [Option.mem_def, Option.map_eq_some'] at hb hb'
    obtain ⟨_, -, rfl⟩ := hb
    obtain ⟨_, -, rfl⟩ := hb'
    exact hne
  have h₁ : s.entries.entries.Perm byIndex := by
    refine List.lookup_ext s.entries.nodupKeys ndIndex fun i e => ?_
    rw [List.mem_dlookup_iff s.entries.nodupKeys, List.mem_dlookup_iff ndIndex]
    simp only [byIndex, List.mem_filterMap, Option.map_eq_some', Sigma.mk.inj_iff, heq_eq_eq]
    constructor
    · intro he
      obtain ⟨n, hn⟩ := (h.range i).1
        (AList.lookup_isSome.1 (Option.isSome_iff_exists.2 ⟨e, AList.mem_lookup_iff.2 he⟩))
      exact ⟨⟨n, i⟩, AList.mem_lookup_iff.1 hn, e, AList.mem_lookup_iff.2 he, rfl, rfl⟩
    · rintro ⟨p, -, e', he, rfl, rfl⟩
      exact AList.mem_lookup_iff.1 he
  have h₂ : byName.Perm m.entries := by
    refine List.lookup_ext ndName m.nodupKeys fun n e => ?_
    rw [List.mem_dlookup_iff ndName, List.mem_dlookup_iff m.nodupKeys, ← AList.mem_lookup_iff, ← h.view]
    simp only [byName, List.mem_filterMap, Option.map_eq_some', Sigma.mk.inj_iff, heq_eq_eq,
      Option.mem_def, Option.bind_eq_some]
    constructor
    · rintro ⟨p, hp, e', he, rfl, rfl⟩
      exact ⟨p.2, hmap hp, he⟩
    · rintro ⟨i, hi, he⟩
      exact ⟨⟨n, i⟩, AList.mem_lookup_iff.1 hi, e, he, rfl, rfl⟩
  have h₃ : byIndex.map Sigma.snd = byName.map Sigma.snd := by
    simp only [byIndex, byName, List.map_filterMap, Option.map_map]
    rfl
  exact (h₁.map _).trans (h₃ ▸ h₂.map _)

theorem Refines.scanEntries (h : s.Refines m) (callback : E → Bool) :
    (s.scanEntries callback : Multiset E) = m.scan callback :=
  Multiset.coe_eq_coe.2 (h.values_perm.filter _)

theorem Refines.runOps (h : s.Refines m) (ops : List (CatalogOp E))
    (hc : s.currentEntry.toNat + successfulCreations ops (s.runOps ops).1 < UInt64.size) :
    (s.runOps ops).1 = (m.runOps ops).1 ∧ (s.runOps ops).2.Refines (m.runOps ops).2 := by
  induction ops generalizing s m with
  | nil => exact ⟨rfl, h⟩
  | cons op ops ih =>
    simp only [CatalogSet.runOps, successfulCreations] at hc
    obtain ⟨hr, h', hcur⟩ := h.apply op (by omega)
    obtain ⟨hrs, h''⟩ := ih h' (by omega)
    exact ⟨by simp only [CatalogSet.runOps, CatalogMap.runOps, hr, hrs], h''⟩

theorem refines_default : (CatalogSet.default : CatalogSet E).Refines ∅ where
  injective _ _ _ h := by simp [CatalogSet.default] at h
  range _ := ⟨fun h => absurd h (AList.not_mem_empty _), fun ⟨_, h⟩ => by simp [CatalogSet.default] at h⟩
  bounded _ h := absurd h (AList.not_mem_empty _)
  view _ := by simp [CatalogSet.default]

end CatalogSet

/-- Updates from `CatalogSet::default()`, below `usize::MAX` creations, give the map's results and refine its state. -/
theorem catalogSet_refines_map (ops : List (CatalogOp E))
    (hops : successfulCreations ops (CatalogSet.default.runOps ops).1 < UInt64.size - 1) :
    (CatalogSet.default.runOps ops).1 = ((∅ : CatalogMap E).runOps ops).1 ∧
      (CatalogSet.default.runOps ops).2.Refines ((∅ : CatalogMap E).runOps ops).2 ∧
      (∀ name, (CatalogSet.default.runOps ops).2.getEntry name = ((∅ : CatalogMap E).runOps ops).2.get name) ∧
      (∀ callback, ((CatalogSet.default.runOps ops).2.scanEntries callback : Multiset E) =
        ((∅ : CatalogMap E).runOps ops).2.scan callback) ∧
      ∀ op err, ((CatalogSet.default.runOps ops).2.apply op).1 = .error err →
        ((CatalogSet.default.runOps ops).2.apply op).2 = (CatalogSet.default.runOps ops).2 := by
  have h0 : (CatalogSet.default : CatalogSet E).currentEntry.toNat = 0 := rfl
  obtain ⟨hr, h⟩ := CatalogSet.refines_default.runOps ops (by omega)
  exact ⟨hr, h, h.getEntry, h.scanEntries, fun _ _ => CatalogSet.apply_error⟩

theorem catalogSet_refines_map_duplicate :
    successfulCreations [CatalogOp.createEntry "a" (1 : Nat), .createEntry "a" 2, .replaceEntry "b" 3]
        (CatalogSet.default.runOps [CatalogOp.createEntry "a" (1 : Nat), .createEntry "a" 2, .replaceEntry "b" 3]).1 <
      UInt64.size - 1 ∧
    (CatalogSet.default.runOps [CatalogOp.createEntry "a" (1 : Nat), .createEntry "a" 2, .replaceEntry "b" 3]).1 =
      ((∅ : CatalogMap Nat).runOps [.createEntry "a" 1, .createEntry "a" 2, .replaceEntry "b" 3]).1 :=
  have h : successfulCreations [CatalogOp.createEntry "a" (1 : Nat), .createEntry "a" 2, .replaceEntry "b" 3]
      (CatalogSet.default.runOps [CatalogOp.createEntry "a" (1 : Nat), .createEntry "a" 2, .replaceEntry "b" 3]).1 <
      UInt64.size - 1 := by decide
  ⟨h, (catalogSet_refines_map _ h).1⟩

end ArrowKV
