import Mathlib.Data.List.Basic
import Mathlib.Algebra.Order.Ring.Nat

namespace ArrowKV
set_option autoImplicit true

/-- Byte order of the host the codec is compiled for. -/
inductive Endian where
  | little
  | big
  deriving DecidableEq, Repr

/-- The `w` bytes of `n`, least significant first; bits above `8 * w` are dropped. -/
def leBytes : Nat → Nat → List UInt8
  | 0, _ => []
  | w + 1, n => UInt8.ofNat n :: leBytes w (n / 256)

def ofLeBytes : List UInt8 → Nat
  | [] => 0
  | b :: bs => b.toNat + 256 * ofLeBytes bs

@[simp] theorem leBytes_length (w n : Nat) : (leBytes w n).length = w := by
  induction w generalizing n with
  | zero => rfl
  | succ w ih => simp [leBytes, ih]

theorem ofLeBytes_leBytes (w n : Nat) : ofLeBytes (leBytes w n) = n % 256 ^ w := by
  induction w generalizing n with
  | zero => simp [leBytes, ofLeBytes, Nat.mod_one]
  | succ w ih =>
    show n % 256 + 256 * ofLeBytes (leBytes w (n / 256)) = n % 256 ^ (w + 1)
    rw [ih, Nat.pow_succ', Nat.mod_mul]

theorem ofLeBytes_lt (bs : List UInt8) : ofLeBytes bs < 256 ^ bs.length := by
  induction bs with
  | nil => simp [ofLeBytes]
  | cons b bs ih =>
    have hb := b.toNat_lt_size
    simp only [ofLeBytes, List.length_cons, Nat.pow_succ]
    change b.toNat < 256 at hb
    omega

theorem leBytes_ofLeBytes (bs : List UInt8) : leBytes bs.length (ofLeBytes bs) = bs := by
  induction bs with
  | nil => rfl
  | cons b bs ih =>
    have hb : b.toNat < 256 := b.toNat_lt_size
    have hdiv : (b.toNat + 256 * ofLeBytes bs) / 256 = ofLeBytes bs := by omega
    simp only [List.length_cons, leBytes, ofLeBytes, hdiv, ih, List.cons.injEq, and_true]
    exact UInt8.toNat.inj (by change (b.toNat + 256 * ofLeBytes bs) % 256 = b.toNat; omega)

/-- A fixed-width unsigned type as `get_int!` and `put_int!` use it: `size` bytes, values below `256 ^ size`. -/
structure IntType (T : Type) where
  size : Nat
  toNat : T → Nat
  ofNat : Nat → T
  toNat_lt : ∀ v, toNat v < 256 ^ size
  toNat_ofNat : ∀ n, n < 256 ^ size → toNat (ofNat n) = n
  ofNat_toNat : ∀ v, ofNat (toNat v) = v

def IntType.u8 : IntType UInt8 where
  size := 1
  toNat := UInt8.toNat
  ofNat := UInt8.ofNat
  toNat_lt v := v.toNat_lt_size
  toNat_ofNat _ h := UInt8.toNat_ofNat_of_lt h
  ofNat_toNat v := UInt8.toNat.inj (UInt8.toNat_ofNat_of_lt v.toNat_lt_size)

def IntType.u32 : IntType UInt32 where
  size := 4
  toNat := UInt32.toNat
  ofNat := UInt32.ofNat
  toNat_lt v := v.toNat_lt_size
  toNat_ofNat _ h := UInt32.toNat_ofNat_of_lt h
  ofNat_toNat v := UInt32.toNat.inj (UInt32.toNat_ofNat_of_lt v.toNat_lt_size)

def IntType.u64 : IntType UInt64 where
  size := 8
  toNat := UInt64.toNat
  ofNat := UInt64.ofNat
  toNat_lt v := v.toNat_lt_size
  toNat_ofNat _ h := UInt64.toNat_ofNat_of_lt h
  ofNat_toNat v := UInt64.toNat.inj (UInt64.toNat_ofNat_of_lt v.toNat_lt_size)

namespace IntType

variable (t : IntType T)

def swapBytes (v : T) : T := t.ofNat (ofLeBytes (leBytes t.size (t.toNat v)).reverse)

/-- `to_le` (and `from_le`, the same map): the identity on a little-endian host, a byte swap otherwise. -/
def toLe : Endian → T → T
  | .little, v => v
  | .big, v => t.swapBytes v

/-- The bytes of `v` as they lie in memory on a host of the given byte order. -/
def nativeBytes : Endian → T → List UInt8
  | .little, v => leBytes t.size (t.toNat v)
  | .big, v => (leBytes t.size (t.toNat v)).reverse

def ofNativeBytes : Endian → List UInt8 → T
  | .little, bs => t.ofNat (ofLeBytes bs)
  | .big, bs => t.ofNat (ofLeBytes bs.reverse)

theorem leBytes_toNat_ofLeBytes {bs : List UInt8} (h : bs.length = t.size) :
    leBytes t.size (t.toNat (t.ofNat (ofLeBytes bs))) = bs := by
  rw [t.toNat_ofNat _ (h ▸ ofLeBytes_lt bs), ← h, leBytes_ofLeBytes]

theorem leBytes_swapBytes (v : T) :
    leBytes t.size (t.toNat (t.swapBytes v)) = (leBytes t.size (t.toNat v)).reverse :=
  t.leBytes_toNat_ofLeBytes (by simp)

theorem ofLeBytes_leBytes_toNat (v : T) : t.ofNat (ofLeBytes (leBytes t.size (t.toNat v))) = v := by
  rw [ofLeBytes_leBytes, Nat.mod_eq_of_lt (t.toNat_lt v), t.ofNat_toNat]

/-- Whatever the host's byte order, `to_le` then a copy of the native bytes stores the little-endian bytes. -/
theorem nativeBytes_toLe (e : Endian) (v : T) :
    t.nativeBytes e (t.toLe e v) = leBytes t.size (t.toNat v) := by
  cases e with
  | little => rfl
  | big => simp only [toLe, nativeBytes, leBytes_swapBytes, List.reverse_reverse]

theorem toLe_ofNativeBytes (e : Endian) (v : T) :
    t.toLe e (t.ofNativeBytes e (leBytes t.size (t.toNat v))) = v := by
  cases e with
  | little => exact t.ofLeBytes_leBytes_toNat v
  | big =>
    show t.swapBytes (t.swapBytes v) = v
    simp only [swapBytes, t.leBytes_toNat_ofLeBytes (by simp : (leBytes t.size (t.toNat v)).reverse.length = t.size),
      List.reverse_reverse, t.ofLeBytes_leBytes_toNat]

end IntType

/-- `copy_from_nonoverlapping` of `bs` into memory `m` from address `p` on. -/
def storeBytes (m : Nat → UInt8) (p : Nat) : List UInt8 → Nat → UInt8
  | [] => m
  | b :: bs => storeBytes (Function.update m p b) (p + 1) bs

def loadBytes (m : Nat → UInt8) (p : Nat) : Nat → List UInt8
  | 0 => []
  | n + 1 => m p :: loadBytes m (p + 1) n

theorem storeBytes_of_lt (h : a < p) (bs : List UInt8) : storeBytes m p bs a = m a := by
  induction bs generalizing m p with
  | nil => rfl
  | cons b bs ih =>
    rw [storeBytes, ih (by omega), Function.update_noteq (by omega)]

theorem storeBytes_append (as bs : List UInt8) :
    storeBytes m p (as ++ bs) = storeBytes (storeBytes m p as) (p + as.length) bs := by
  induction as generalizing m p with
  | nil => rfl
  | cons a as ih =>
    have h : p + 1 + as.length = p + (as.length + 1) := by omega
    rw [List.cons_append, storeBytes, storeBytes, ih, List.length_cons, h]

theorem loadBytes_storeBytes (bs : List UInt8) : loadBytes (storeBytes m p bs) p bs.length = bs := by
  induction bs generalizing m p with
  | nil => rfl
  | cons b bs ih =>
    rw [List.length_cons, loadBytes, storeBytes, ih, storeBytes_of_lt (Nat.lt_succ_self p),
      Function.update_same]

theorem loadBytes_add (a b : Nat) : loadBytes m p (a + b) = loadBytes m p a ++ loadBytes m (p + a) b := by
  induction a generalizing p with
  | zero => rw [Nat.zero_add]; rfl
  | succ a ih =>
    rw [Nat.succ_add, loadBytes, loadBytes, ih, List.cons_append]
    congr 3
    omega

theorem loadBytes_congr (h : ∀ a, p ≤ a → a < p + n → m a = m' a) : loadBytes m p n = loadBytes m' p n := by
  induction n generalizing p with
  | zero => rfl
  | succ n ih =>
    rw [loadBytes, loadBytes, h p (Nat.le_refl p) (by omega), ih fun a h₁ h₂ => h a (by omega) (by omega)]

@[simp] theorem loadBytes_length (m : Nat → UInt8) (p n : Nat) : (loadBytes m p n).length = n := by
  induction n generalizing p with
  | zero => rfl
  | succ n ih => simp [loadBytes, ih]

/-- The cursor of `BufWriter`, with the memory it writes into. -/
structure BufWriter where
  mem : Nat → UInt8
  ptr : Nat

namespace BufWriter

def skip (w : BufWriter) (n : Nat) : BufWriter := { w with ptr := w.ptr + n }

/-- The body of `put_int!`: `to_le`, copy the value's bytes as they lie in memory, advance. -/
def putInt (t : IntType T) (e : Endian) (w : BufWriter) (v : T) : BufWriter :=
  let v := t.toLe e v
  skip { w with mem := storeBytes w.mem w.ptr (t.nativeBytes e v) } t.size

def putU8 (e : Endian) (w : BufWriter) (v : UInt8) : BufWriter := w.putInt .u8 e v

def putU32 (e : Endian) (w : BufWriter) (v : UInt32) : BufWriter := w.putInt .u32 e v

def putU64 (e : Endian) (w : BufWriter) (v : UInt64) : BufWriter := w.putInt .u64 e v

def putSlice (w : BufWriter) (slice : List UInt8) : BufWriter :=
  skip { w with mem := storeBytes w.mem w.ptr slice } slice.length

/-- The length-prefixed write; `none` where its `assert!` on `u32::MAX` fails. -/
def putLengthPrefixedSlice (e : Endian) (w : BufWriter) (slice : List UInt8) : Option BufWriter :=
  if slice.length ≤ UInt32.size - 1 then
    some ((w.putU32 e (UInt32.ofNat slice.length)).putSlice slice)
  else none

def lengthPrefixedSliceSize (slice : List UInt8) : Nat := 4 + slice.length

end BufWriter

structure BufReader where
  ptr : Nat

namespace BufReader

def skip (r : BufReader) (n : Nat) : BufReader := ⟨r.ptr + n⟩

/-- The body of `get_int!`: copy the bytes at the cursor into a value, advance, `from_le`. -/
def getInt (t : IntType T) (e : Endian) (m : Nat → UInt8) (r : BufReader) : T × BufReader :=
  (t.toLe e (t.ofNativeBytes e (loadBytes m r.ptr t.size)), r.skip t.size)

def getU8 (e : Endian) (m : Nat → UInt8) (r : BufReader) : UInt8 × BufReader := r.getInt .u8 e m

def getU32 (e : Endian) (m : Nat → UInt8) (r : BufReader) : UInt32 × BufReader := r.getInt .u32 e m

def getU64 (e : Endian) (m : Nat → UInt8) (r : BufReader) : UInt64 × BufReader := r.getInt .u64 e m

def getSlice (m : Nat → UInt8) (r : BufReader) (len : Nat) : List UInt8 × BufReader :=
  (loadBytes m r.ptr len, r.skip len)

def getLengthPrefixedSlice (e : Endian) (m : Nat → UInt8) (r : BufReader) : List UInt8 × BufReader :=
  let (len, r) := r.getU32 e m
  r.getSlice m len.toNat

end BufReader

/-- One field written by a `put_*` call of `BufWriter`. -/
inductive Field where
  | u8 (v : UInt8)
  | u32 (v : UInt32)
  | u64 (v : UInt64)
  | slice (s : List UInt8)
  | lengthPrefixedSlice (s : List UInt8)
  deriving DecidableEq, Repr

inductive FieldShape where
  | u8
  | u32
  | u64
  | slice (len : Nat)
  | lengthPrefixedSlice
  deriving DecidableEq, Repr

namespace Field

def shape : Field → FieldShape
  | .u8 _ => .u8
  | .u32 _ => .u32
  | .u64 _ => .u64
  | .slice s => .slice s.length
  | .lengthPrefixedSlice _ => .lengthPrefixedSlice

def size : Field → Nat
  | .u8 _ => 1
  | .u32 _ => 4
  | .u64 _ => 8
  | .slice s => s.length
  | .lengthPrefixedSlice s => BufWriter.lengthPrefixedSliceSize s

def bytes : Field → List UInt8
  | .u8 v => leBytes 1 v.toNat
  | .u32 v => leBytes 4 v.toNat
  | .u64 v => leBytes 8 v.toNat
  | .slice s => s
  | .lengthPrefixedSlice s => leBytes 4 s.length ++ s

/-- The fields the writer accepts: a length-prefixed slice fits its `u32` prefix. -/
def Fits : Field → Prop
  | .lengthPrefixedSlice s => s.length ≤ UInt32.size - 1
  | _ => True

instance : DecidablePred Fits
  | .lengthPrefixedSlice s => inferInstanceAs (Decidable (s.length ≤ UInt32.size - 1))
  | .u8 _ | .u32 _ | .u64 _ | .slice _ => inferInstanceAs (Decidable True)

@[simp] theorem bytes_length (f : Field) : f.bytes.length = f.size := by
  cases f <;> simp [bytes, size, BufWriter.lengthPrefixedSliceSize]

end Field

def BufWriter.put (e : Endian) (w : BufWriter) : Field → Option BufWriter
  | .u8 v => some (w.putU8 e v)
  | .u32 v => some (w.putU32 e v)
  | .u64 v => some (w.putU64 e v)
  | .slice s => some (w.putSlice s)
  | .lengthPrefixedSlice s => w.putLengthPrefixedSlice e s

def BufReader.get (e : Endian) (m : Nat → UInt8) (r : BufReader) : FieldShape → Field × BufReader
  | .u8 => let (v, r) := r.getU8 e m; (.u8 v, r)
  | .u32 => let (v, r) := r.getU32 e m; (.u32 v, r)
  | .u64 => let (v, r) := r.getU64 e m; (.u64 v, r)
  | .slice len => let (s, r) := r.getSlice m len; (.slice s, r)
  | .lengthPrefixedSlice => let (s, r) := r.getLengthPrefixedSlice e m; (.lengthPrefixedSlice s, r)

def BufWriter.putAll (e : Endian) : BufWriter → List Field → Option BufWriter
  | w, [] => some w
  | w, f :: fs => (w.put e f).bind (putAll e · fs)

def BufReader.getAll (e : Endian) (m : Nat → UInt8) : BufReader → List FieldShape → List Field × BufReader
  | r, [] => ([], r)
  | r, s :: ss =>
    let (f, r) := r.get e m s
    let (fs, r) := getAll e m r ss
    (f :: fs, r)

@[simp] theorem IntType.u8_size : IntType.u8.size = 1 := rfl
@[simp] theorem IntType.u32_size : IntType.u32.size = 4 := rfl
@[simp] theorem IntType.u64_size : IntType.u64.size = 8 := rfl
@[simp] theorem IntType.u32_toNat (v : UInt32) : IntType.u32.toNat v = v.toNat := rfl

theorem Field.length_lt_of_fits (hf : (Field.lengthPrefixedSlice s).Fits) : s.length < UInt32.size :=
  Nat.lt_of_le_of_lt hf (by decide)

theorem BufWriter.putInt_eq (t : IntType T) (e : Endian) (w : BufWriter) (v : T) :
    w.putInt t e v = ⟨storeBytes w.mem w.ptr (leBytes t.size (t.toNat v)), w.ptr + t.size⟩ := by
  simp only [putInt, skip, t.nativeBytes_toLe]

theorem BufReader.getInt_eq (t : IntType T) (e : Endian) (r : BufReader)
    (h : loadBytes m r.ptr t.size = leBytes t.size (t.toNat v)) : r.getInt t e m = (v, r.skip t.size) := by
  rw [getInt, h, t.toLe_ofNativeBytes]

/-- The one spec of the writer: a field's little-endian bytes at the cursor, which moves by the field's size. -/
theorem BufWriter.put_eq {f : Field} (hf : f.Fits) (e : Endian) (w : BufWriter) :
    w.put e f = some ⟨storeBytes w.mem w.ptr f.bytes, w.ptr + f.size⟩ := by
  cases f with
  | u8 v => exact congrArg some (w.putInt_eq .u8 e v)
  | u32 v => exact congrArg some (w.putInt_eq .u32 e v)
  | u64 v => exact congrArg some (w.putInt_eq .u64 e v)
  | slice s => rfl
  | lengthPrefixedSlice s =>
    have hlen : (UInt32.ofNat s.length).toNat = s.length :=
      UInt32.toNat_ofNat_of_lt (Field.length_lt_of_fits hf)
    simp only [put, putLengthPrefixedSlice, if_pos (show s.length ≤ UInt32.size - 1 from hf), putU32,
      putInt_eq, putSlice, skip, Field.bytes, Field.size, lengthPrefixedSliceSize, storeBytes_append,
      leBytes_length, Nat.add_assoc, IntType.u32_size, IntType.u32_toNat, hlen]

theorem BufReader.get_eq {f : Field} (hf : f.Fits) (e : Endian) (r : BufReader)
    (h : loadBytes m r.ptr f.size = f.bytes) : r.get e m f.shape = (f, r.skip f.size) := by
  cases f with
  | u8 v => simp only [get, getU8, r.getInt_eq .u8 e h]; rfl
  | u32 v => simp only [get, getU32, r.getInt_eq .u32 e h]; rfl
  | u64 v => simp only [get, getU64, r.getInt_eq .u64 e h]; rfl
  | slice s =>
    change loadBytes m r.ptr s.length = s at h
    simp only [Field.shape, get, getSlice, h]; rfl
  | lengthPrefixedSlice s =>
    have hlen : (UInt32.ofNat s.length).toNat = s.length :=
      UInt32.toNat_ofNat_of_lt (Field.length_lt_of_fits hf)
    simp only [Field.size, Field.bytes, BufWriter.lengthPrefixedSliceSize, loadBytes_add] at h
    obtain ⟨hpre, hs⟩ := List.append_inj h (by simp)
    have hu32 : r.getU32 e m = (UInt32.ofNat s.length, r.skip 4) :=
      r.getInt_eq .u32 e (by simp only [IntType.u32_size, IntType.u32_toNat, hlen, hpre])
    simp only [Field.shape, get, getLengthPrefixedSlice, hu32, getSlice, skip, hlen, hs,
      Field.size, BufWriter.lengthPrefixedSliceSize, Nat.add_assoc]

theorem BufWriter.putAll_eq {fs : List Field} (hf : ∀ f ∈ fs, f.Fits) (e : Endian) (w : BufWriter) :
    w.putAll e fs = some ⟨storeBytes w.mem w.ptr (fs.flatMap Field.bytes), w.ptr + (fs.map Field.size).sum⟩ := by
  induction fs generalizing w with
  | nil => rfl
  | cons f fs ih =>
    simp only [List.forall_mem_cons] at hf
    simp only [putAll, w.put_eq hf.1, Option.some_bind, ih hf.2, List.flatMap_cons, storeBytes_append,
      Field.bytes_length, List.map_cons, List.sum_cons, Nat.add_assoc]

theorem BufReader.getAll_eq {fs : List Field} (hf : ∀ f ∈ fs, f.Fits) (e : Endian) (r : BufReader)
    (h : loadBytes m r.ptr (fs.map Field.size).sum = fs.flatMap Field.bytes) :
    r.getAll e m (fs.map Field.shape) = (fs, r.skip (fs.map Field.size).sum) := by
  induction fs generalizing r with
  | nil => rfl
  | cons f fs ih =>
    simp only [List.forall_mem_cons] at hf
    simp only [List.map_cons, List.sum_cons, loadBytes_add, List.flatMap_cons] at h
    obtain ⟨hhead, htail⟩ := List.append_inj h (by simp)
    simp only [List.map_cons, getAll, r.get_eq hf.1 e hhead, ih hf.2 _ htail, skip, List.sum_cons,
      Nat.add_assoc]

theorem length_flatMap_bytes (fs : List Field) : (fs.flatMap Field.bytes).length = (fs.map Field.size).sum := by
  induction fs with
  | nil => rfl
  | cons f fs ih => simp [ih]

/-- Fields written from `p` read back in order from `p` on any host, depending on no byte outside them. -/
theorem put_get_round_trip (e : Endian) (m : Nat → UInt8) (p : Nat) (fs : List Field)
    (hfits : ∀ f ∈ fs, f.Fits) :
    ∃ w, BufWriter.putAll e ⟨m, p⟩ fs = some w ∧
      w.ptr = p + (fs.map Field.size).sum ∧
      loadBytes w.mem p (fs.map Field.size).sum = fs.flatMap Field.bytes ∧
      ∀ m' : Nat → UInt8, (∀ a, p ≤ a → a < w.ptr → m' a = w.mem a) →
        BufReader.getAll e m' ⟨p⟩ (fs.map Field.shape) = (fs, ⟨w.ptr⟩) := by
  have hload : loadBytes (storeBytes m p (fs.flatMap Field.bytes)) p (fs.map Field.size).sum =
      fs.flatMap Field.bytes := by
    rw [← length_flatMap_bytes, loadBytes_storeBytes]
  refine ⟨_, BufWriter.putAll_eq hfits e ⟨m, p⟩, rfl, hload, fun m' hm => ?_⟩
  exact BufReader.getAll_eq hfits e ⟨p⟩ ((loadBytes_congr hm).trans hload)

theorem put_get_round_trip_frame :
    (∀ f ∈ [Field.u32 7, .lengthPrefixedSlice [1, 2], .u64 9], f.Fits) ∧
      ∃ w, BufWriter.putAll .big ⟨fun _ => 0, 0⟩ [.u32 7, .lengthPrefixedSlice [1, 2], .u64 9] = some w ∧
        w.ptr = 0 + ([Field.u32 7, .lengthPrefixedSlice [1, 2], .u64 9].map Field.size).sum ∧
        loadBytes w.mem 0 ([Field.u32 7, .lengthPrefixedSlice [1, 2], .u64 9].map Field.size).sum =
          [Field.u32 7, .lengthPrefixedSlice [1, 2], .u64 9].flatMap Field.bytes ∧
        ∀ m' : Nat → UInt8, (∀ a, 0 ≤ a → a < w.ptr → m' a = w.mem a) →
          BufReader.getAll .big m' ⟨0⟩ ([Field.u32 7, .lengthPrefixedSlice [1, 2], .u64 9].map Field.shape) =
            ([Field.u32 7, .lengthPrefixedSlice [1, 2], .u64 9], ⟨w.ptr⟩) :=
  have h : ∀ f ∈ [Field.u32 7, .lengthPrefixedSlice [1, 2], .u64 9], f.Fits := by decide
  ⟨h, put_get_round_trip .big _ 0 _ h⟩

end ArrowKV
