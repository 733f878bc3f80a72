import ArrowKV.Query.BoundExpr
import ArrowKV.Query.BindInsert

namespace ArrowKV
set_option autoImplicit true

namespace Planner

/-- Modelled from the call sites (arrow's `ArrayRef` is not in the sources): a column's values, one per row. -/
abbrev Column := List ScalarValue

structure ExecutorError where
  msg : String

/-- An error the caller receives through `?`, or a panic (`todo!`, an index out of bounds, a failed `assert!`). -/
inductive ExecFailure where
  | error (e : ExecutorError)
  | panic (msg : String)

structure CastFunction where
  function : Column → LogicalType → Bool → Except ExecFailure Column

structure ScalarFunction where
  function : List Column → Except ExecFailure Column

structure ComparisonFunction where
  function : Column → Column → Except ExecFailure Column

structure ConjunctionFunction where
  function : Column → Column → Except ExecFailure Column

/-- Modelled from the call sites (`BoundExpression` is not in the sources): the fields the executor reads. -/
inductive BoundExpression where
  | columnRef
  | constant (value : ScalarValue)
  | reference (index : Nat)
  | cast (child : BoundExpression) (function : CastFunction) (returnType : LogicalType) (tryCast : Bool)
  | function (children : List BoundExpression) (function : ScalarFunction)
  | comparison (left right : BoundExpression) (function : ComparisonFunction)
  | conjunction (children : List BoundExpression) (function : ConjunctionFunction)

/-- Modelled from the call sites (arrow's `RecordBatch`): columns of `num_rows` values, as `try_new` checks. -/
structure RecordBatch where
  columns : List Column
  numRows : Nat
  columnLength : ∀ c ∈ columns, c.length = numRows

def RecordBatch.column (input : RecordBatch) (i : Nat) : Except ExecFailure Column :=
  match input.columns[i]? with
  | some c => .ok c
  | none => .error (.panic "index out of bounds")

namespace ExpressionExecutor

mutual
/-- `execute_internal`; a conjunction asserts two children or more, then folds its kernel from the left. -/
def executeInternal (input : RecordBatch) : BoundExpression → Except ExecFailure Column
  | .columnRef => .error (.panic "not yet implemented")
  | .constant value => .ok (List.replicate input.numRows value)
  | .reference index => input.column index
  | .cast child function returnType tryCast => do
    let childResult ← executeInternal input child
    function.function childResult returnType tryCast
  | .function children function => do
    let childrenResult ← executeAll input children
    function.function childrenResult
  | .comparison left right function => do
    let leftResult ← executeInternal input left
    let rightResult ← executeInternal input right
    function.function leftResult rightResult
  | .conjunction (child₀ :: child₁ :: children) function => do
    let conjunctionResult ← executeInternal input child₀
    conjoin input function conjunctionResult (child₁ :: children)
  | .conjunction _ _ => .error (.panic "assertion failed: e.children.len() >= 2")

def executeAll (input : RecordBatch) : List BoundExpression → Except ExecFailure (List Column)
  | [] => .ok []
  | expr :: exprs => do
    let r ← executeInternal input expr
    let rs ← executeAll input exprs
    return r :: rs

def conjoin (input : RecordBatch) (function : ConjunctionFunction) (conjunctionResult : Column) :
    List BoundExpression → Except ExecFailure Column
  | [] => .ok conjunctionResult
  | child :: children => do
    let r ← executeInternal input child
    let conjunctionResult ← function.function conjunctionResult r
    conjoin input function conjunctionResult children
end

def execute (expressions : List BoundExpression) (input : RecordBatch) : Except ExecFailure (List Column) :=
  executeAll input expressions

end ExpressionExecutor

/-! ## Row at a time

The executor evaluates an expression over whole columns. When every kernel an expression holds
works row by row, this is the same as evaluating it on each row of the batch alone. -/

/-- Row `r` of a column, as a column of one value (none past the end). -/
def slice (r : Nat) (c : Column) : Column := (c.drop r).take 1

theorem slice_eq_singleton {col : Column} (h : r < col.length) : slice r col = [col[r]] := by
  simp only [slice, List.drop_eq_getElem_cons h, List.take_succ_cons, List.take_zero]

theorem length_slice {col : Column} (h : r < col.length) : (slice r col).length = 1 := by
  simp [slice_eq_singleton h]

theorem eq_of_slice_eq {a b : Column} (ha : a.length = n) (hb : b.length = n)
    (h : ∀ r < n, slice r a = slice r b) : a = b := by
  refine List.ext_getElem (ha.trans hb.symm) fun r hra hrb => ?_
  have := h r (ha ▸ hra)
  rw [slice_eq_singleton hra, slice_eq_singleton hrb] at this
  exact List.singleton_inj.1 this

theorem eq_iff_slice_eq {c out : Column} (hc : c.length = n) :
    c = out ↔ out.length = n ∧ ∀ r : Fin n, slice r c = slice r out :=
  ⟨by rintro rfl; exact ⟨hc, fun _ => rfl⟩, fun ⟨ho, h⟩ => eq_of_slice_eq hc ho fun r hr => h ⟨r, hr⟩⟩

theorem slice_replicate (h : r < n) : slice r (List.replicate n v) = [v] := by
  rw [slice_eq_singleton (by simpa using h), List.getElem_replicate]

def glue (f : Fin n → Column) : Column := List.ofFn fun r => (f r).headD .null

@[simp] theorem length_glue (f : Fin n → Column) : (glue f).length = n := List.length_ofFn _

theorem slice_glue {f : Fin n → Column} (hf : ∀ r, (f r).length = 1) (r : Fin n) :
    slice r (glue f) = f r := by
  rw [slice_eq_singleton (by simp)]
  simp only [glue, List.getElem_ofFn]
  match f r, hf r with
  | [x], _ => rfl

def RecordBatch.row (input : RecordBatch) (r : Fin input.numRows) : RecordBatch where
  columns := input.columns.map (slice r)
  numRows := 1
  columnLength c hc := by
    obtain ⟨d, hd, rfl⟩ := List.mem_map.1 hc
    exact length_slice (by rw [input.columnLength d hd]; exact r.isLt)

@[simp] theorem RecordBatch.row_numRows (input : RecordBatch) (r : Fin input.numRows) :
    (input.row r).numRows = 1 := rfl

@[simp] theorem RecordBatch.row_columns (input : RecordBatch) (r : Fin input.numRows) :
    (input.row r).columns = input.columns.map (slice r) := rfl

/-- A unary kernel works row by row: its result on a column is glued from its results on each row. -/
def RowWise₁ (k : Column → Except ExecFailure Column) : Prop :=
  ∀ a out, 0 < a.length →
    (k a = .ok out ↔ out.length = a.length ∧ ∀ r < a.length, k (slice r a) = .ok (slice r out))

def RowWise₂ (k : Column → Column → Except ExecFailure Column) : Prop :=
  ∀ a b out, 0 < a.length → a.length = b.length →
    (k a b = .ok out ↔
      out.length = a.length ∧ ∀ r < a.length, k (slice r a) (slice r b) = .ok (slice r out))

def RowWiseN (k : List Column → Except ExecFailure Column) : Prop :=
  ∀ n cols out, 0 < n → (∀ c ∈ cols, c.length = n) →
    (k cols = .ok out ↔ out.length = n ∧ ∀ r < n, k (cols.map (slice r)) = .ok (slice r out))

mutual
def BoundExpression.KernelsRowWise : BoundExpression → Prop
  | .columnRef | .constant _ | .reference _ => True
  | .cast child function returnType tryCast =>
    child.KernelsRowWise ∧ RowWise₁ (function.function · returnType tryCast)
  | .function children function => AllKernelsRowWise children ∧ RowWiseN function.function
  | .comparison left right function =>
    left.KernelsRowWise ∧ right.KernelsRowWise ∧ RowWise₂ function.function
  | .conjunction children function => AllKernelsRowWise children ∧ RowWise₂ function.function

def AllKernelsRowWise : List BoundExpression → Prop
  | [] => True
  | e :: es => e.KernelsRowWise ∧ AllKernelsRowWise es
end

def BatchRowWise (f : RecordBatch → Except ExecFailure Column) : Prop :=
  ∀ input : RecordBatch, 0 < input.numRows → ∀ out,
    f input = .ok out ↔ out.length = input.numRows ∧ ∀ r, f (input.row r) = .ok (slice r out)

def TupleRowWise (m : Nat) (f : RecordBatch → Except ExecFailure (List Column)) : Prop :=
  ∀ input : RecordBatch, 0 < input.numRows → ∀ outs,
    f input = .ok outs ↔ outs.length = m ∧ (∀ o ∈ outs, o.length = input.numRows) ∧
      ∀ r, f (input.row r) = .ok (outs.map (slice r))

section Compose

variable {A B : RecordBatch → Except ExecFailure Column} {input : RecordBatch}

theorem BatchRowWise.exists_of_rows (hA : BatchRowWise A) (hpos : 0 < input.numRows)
    (h : ∀ r, ∃ x, A (input.row r) = .ok x) :
    ∃ out, A input = .ok out ∧ ∀ r, A (input.row r) = .ok (slice r out) := by
  choose g hg using h
  have hlen : ∀ r, (g r).length = 1 := fun r => ((hA _ Nat.one_pos _).1 (hg r)).1
  have hrows : ∀ r, A (input.row r) = .ok (slice r (glue g)) := fun r => by
    rw [slice_glue hlen]; exact hg r
  exact ⟨glue g, (hA input hpos _).2 ⟨length_glue g, hrows⟩, hrows⟩

theorem batchRowWise_error (e : ExecFailure) : BatchRowWise fun _ => .error e :=
  fun _ hpos _ => ⟨nofun, fun ⟨_, h⟩ => nomatch h ⟨0, hpos⟩⟩

theorem BatchRowWise.bind₁ (hA : BatchRowWise A) {k : Column → Except ExecFailure Column}
    (hk : RowWise₁ k) : BatchRowWise fun input => A input >>= k := by
  intro input hpos out
  constructor
  · intro h
    obtain ⟨a, ha, hka⟩ := Binder.except_bind_eq_ok.1 h
    obtain ⟨hlen, hrows⟩ := (hA input hpos a).1 ha
    obtain ⟨hout, hkrows⟩ := (hk a out (hlen ▸ hpos)).1 hka
    refine ⟨hout.trans hlen, fun r => ?_⟩
    dsimp only
    rw [hrows r]
    exact hkrows r (by omega)
  · rintro ⟨hout, hrows⟩
    obtain ⟨a, ha, harows⟩ := hA.exists_of_rows hpos fun r =>
      (Binder.except_bind_eq_ok.1 (hrows r)).imp fun _ => And.left
    have hlen := ((hA input hpos a).1 ha).1
    refine Binder.except_bind_eq_ok.2 ⟨a, ha, (hk a out (hlen ▸ hpos)).2 ⟨by omega, fun r hr => ?_⟩⟩
    simpa [harows] using hrows ⟨r, hlen ▸ hr⟩

theorem batchRowWise_constant (v : ScalarValue) :
    BatchRowWise fun input => .ok (List.replicate input.numRows v) := by
  intro input _ out
  simp only [Except.ok.injEq, RecordBatch.row_numRows]
  rw [eq_iff_slice_eq (List.length_replicate _ _)]
  refine and_congr_right fun _ => forall_congr' fun r => ?_
  rw [slice_replicate r.isLt]
  rfl

theorem batchRowWise_reference (index : Nat) : BatchRowWise fun input => input.column index := by
  intro input hpos out
  simp only [RecordBatch.column, RecordBatch.row_columns, List.getElem?_map]
  cases h : input.columns[index]? with
  | none => exact ⟨nofun, fun ⟨_, h⟩ => nomatch h ⟨0, hpos⟩⟩
  | some c =>
    simp only [Option.map_some', Except.ok.injEq]
    exact eq_iff_slice_eq (input.columnLength c (List.getElem?_mem h))

theorem BatchRowWise.bind₂ (hA : BatchRowWise A) (hB : BatchRowWise B)
    {k : Column → Column → Except ExecFailure Column} (hk : RowWise₂ k) :
    BatchRowWise fun input => A input >>= fun a => B input >>= fun b => k a b := by
  intro input hpos out
  constructor
  · intro h
    obtain ⟨a, ha, b, hb, hkab⟩ := by simpa only [Binder.except_bind_eq_ok] using h
    obtain ⟨hla, hra⟩ := (hA input hpos a).1 ha
    obtain ⟨hlb, hrb⟩ := (hB input hpos b).1 hb
    obtain ⟨hout, hkrows⟩ := (hk a b out (by omega) (by omega)).1 hkab
    refine ⟨by omega, fun r => ?_⟩
    dsimp only
    rw [hra r, hrb r]
    exact hkrows r (by omega)
  · rintro ⟨hout, hrows⟩
    obtain ⟨a, ha, hra⟩ := hA.exists_of_rows hpos fun r =>
      (Binder.except_bind_eq_ok.1 (hrows r)).imp fun _ => And.left
    obtain ⟨b, hb, hrb⟩ := hB.exists_of_rows hpos fun r =>
      let ⟨_, _, h⟩ := Binder.except_bind_eq_ok.1 (hrows r)
      (Binder.except_bind_eq_ok.1 h).imp fun _ => And.left
    have hla := ((hA input hpos a).1 ha).1
    have hlb := ((hB input hpos b).1 hb).1
    refine Binder.except_bind_eq_ok.2 ⟨a, ha, Binder.except_bind_eq_ok.2
      ⟨b, hb, (hk a b out (by omega) (by omega)).2 ⟨by omega, fun r hr => ?_⟩⟩⟩
    simpa [hra, hrb] using hrows ⟨r, by omega⟩

variable {T : RecordBatch → Except ExecFailure (List Column)}

theorem TupleRowWise.exists_of_rows (hT : TupleRowWise m T) (hpos : 0 < input.numRows)
    (h : ∀ r, ∃ xs, T (input.row r) = .ok xs) :
    ∃ outs, T input = .ok outs ∧ ∀ r, T (input.row r) = .ok (outs.map (slice r)) := by
  choose g hg using h
  have hg' := fun r => (hT _ Nat.one_pos _).1 (hg r)
  have hrows : ∀ r, g r = (List.ofFn fun j : Fin m => glue fun r => (g r).getD j []).map (slice r) := by
    intro r
    refine List.ext_getElem (by simp [(hg' r).1]) fun j h₁ h₂ => ?_
    have hj : j < m := (hg' r).1 ▸ h₁
    simp only [List.getElem_map, List.getElem_ofFn]
    rw [slice_glue fun r' => ?_]
    · simp [List.getD_eq_getElem?_getD, h₁]
    · have hj' : j < (g r').length := (hg' r').1 ▸ hj
      simpa [List.getD_eq_getElem?_getD, hj'] using (hg' r').2.1 _ (List.getElem_mem hj')
  refine ⟨_, (hT input hpos _).2 ⟨by simp, by simp [glue], fun r => hrows r ▸ hg r⟩, fun r => hrows r ▸ hg r⟩

theorem tupleRowWise_nil : TupleRowWise 0 fun _ => .ok [] := by
  intro input _ outs
  simp only [Except.ok.injEq]
  constructor
  · rintro rfl
    simp
  · rintro ⟨h, -⟩
    exact (List.length_eq_zero.1 h).symm

theorem TupleRowWise.cons (hT : TupleRowWise m T) (hA : BatchRowWise A) :
    TupleRowWise (m + 1) fun input => A input >>= fun r => T input >>= fun rs => pure (r :: rs) := by
  intro input hpos outs
  simp only [Binder.except_bind_eq_ok, pure, Except.pure, Except.ok.injEq]
  constructor
  · rintro ⟨a, ha, as, has, rfl⟩
    obtain ⟨hla, hra⟩ := (hA input hpos a).1 ha
    obtain ⟨hm, hlas, hras⟩ := (hT input hpos as).1 has
    refine ⟨by simp [hm], ?_, fun r => ⟨_, hra r, _, hras r, rfl⟩⟩
    simpa [hla] using hlas
  · match outs with
    | [] => exact fun ⟨h, _⟩ => nomatch h
    | o :: os =>
      rintro ⟨hlen, hl, hrows⟩
      have hrow : ∀ r, A (input.row r) = .ok (slice r o) ∧ T (input.row r) = .ok (os.map (slice r)) := by
        intro r
        obtain ⟨_, ha, _, has, h⟩ := hrows r
        simp only [List.map_cons, List.cons.injEq] at h
        exact ⟨h.1 ▸ ha, h.2 ▸ has⟩
      refine ⟨o, (hA input hpos o).2 ⟨hl o (.head _), fun r => (hrow r).1⟩, os, ?_, rfl⟩
      exact (hT input hpos os).2 ⟨by simpa using hlen, fun x hx => hl x (.tail _ hx), fun r => (hrow r).2⟩

theorem TupleRowWise.bindN (hT : TupleRowWise m T) {k : List Column → Except ExecFailure Column}
    (hk : RowWiseN k) : BatchRowWise fun input => T input >>= k := by
  intro input hpos out
  simp only [Binder.except_bind_eq_ok]
  constructor
  · rintro ⟨cols, hcols, hkc⟩
    obtain ⟨-, hl, hrows⟩ := (hT input hpos cols).1 hcols
    obtain ⟨hout, hkrows⟩ := (hk _ cols out hpos hl).1 hkc
    exact ⟨hout, fun r => ⟨_, hrows r, hkrows r r.isLt⟩⟩
  · rintro ⟨hout, hrows⟩
    obtain ⟨cols, hcols, hcrows⟩ := hT.exists_of_rows hpos fun r => (hrows r).imp fun _ => And.left
    obtain ⟨-, hl, -⟩ := (hT input hpos cols).1 hcols
    refine ⟨cols, hcols, (hk _ cols out hpos hl).2 ⟨hout, fun r hr => ?_⟩⟩
    obtain ⟨_, h, hk'⟩ := hrows ⟨r, hr⟩
    rw [hcrows, Except.ok.injEq] at h
    rwa [← h] at hk'

theorem slice_zipWith (g : ScalarValue → ScalarValue → ScalarValue) (a b : Column) :
    slice r (List.zipWith g a b) = List.zipWith g (slice r a) (slice r b) := by
  simp only [slice, List.drop_zipWith, List.take_zipWith]

theorem rowWise₂_zipWith (g : ScalarValue → ScalarValue → ScalarValue) :
    RowWise₂ fun a b => .ok (List.zipWith g a b) := by
  intro a b out _ hab
  simp only [Except.ok.injEq, ← slice_zipWith]
  rw [eq_iff_slice_eq (show (List.zipWith g a b).length = a.length by simp [hab])]
  exact and_congr_right fun _ => ⟨fun h r hr => h ⟨r, hr⟩, fun h r => h r r.isLt⟩

end Compose

namespace ExpressionExecutor

mutual
/-- Evaluating an expression whose kernels work row by row is evaluating it on each row alone. -/
theorem executeInternal_rowWise :
    ∀ e : BoundExpression, e.KernelsRowWise → BatchRowWise (executeInternal · e)
  | .columnRef, _ => batchRowWise_error _
  | .constant v, _ => batchRowWise_constant v
  | .reference index, _ => batchRowWise_reference index
  | .cast child _ _ _, ⟨hc, hf⟩ => (executeInternal_rowWise child hc).bind₁ hf
  | .function children _, ⟨hc, hf⟩ => (executeAll_rowWise children hc).bindN hf
  | .comparison left right _, ⟨hl, hr, hf⟩ =>
    (executeInternal_rowWise left hl).bind₂ (executeInternal_rowWise right hr) hf
  | .conjunction (child₀ :: child₁ :: children) _, ⟨⟨hc₀, hcs⟩, hf⟩ =>
    conjoin_rowWise hf (child₁ :: children) hcs (executeInternal_rowWise child₀ hc₀)
  | .conjunction [] _, _ | .conjunction [_] _, _ => batchRowWise_error _

theorem executeAll_rowWise :
    ∀ es, AllKernelsRowWise es → TupleRowWise es.length (executeAll · es)
  | [], _ => tupleRowWise_nil
  | e :: es, ⟨he, hes⟩ => (executeAll_rowWise es hes).cons (executeInternal_rowWise e he)

theorem conjoin_rowWise {function : ConjunctionFunction} (hf : RowWise₂ function.function) :
    ∀ cs, AllKernelsRowWise cs → ∀ {A : RecordBatch → Except ExecFailure Column}, BatchRowWise A →
      BatchRowWise fun input => A input >>= fun acc => conjoin input function acc cs
  | [], _, A, hA => by
    show BatchRowWise fun input => A input >>= pure
    simpa only [bind_pure] using hA
  | c :: cs, ⟨hc, hcs⟩, _, hA => by
    have := conjoin_rowWise hf cs hcs (hA.bind₂ (executeInternal_rowWise c hc) hf)
    simpa only [conjoin, bind_assoc] using this
end

/-- With row-wise kernels, on a batch with rows `execute` returns `outs` exactly when each row alone gives its row. -/
theorem execute_eq_ok_iff_rows {expressions : List BoundExpression} (hk : AllKernelsRowWise expressions)
    {input : RecordBatch} (hpos : 0 < input.numRows) (outs : List Column) :
    execute expressions input = .ok outs ↔ outs.length = expressions.length ∧
      (∀ o ∈ outs, o.length = input.numRows) ∧
      ∀ r, execute expressions (input.row r) = .ok (outs.map (slice r)) :=
  executeAll_rowWise expressions hk input hpos outs

theorem execute_eq_ok_iff_rows_comparison :
    AllKernelsRowWise [.comparison (.reference 0) (.constant (.int32 (some 1)))
        ⟨fun a b => .ok (List.zipWith (fun x y => .boolean (some (decide (x = y)))) a b)⟩] ∧
      0 < (⟨[[.int32 (some 1), .int32 (some 2)]], 2, by decide⟩ : RecordBatch).numRows ∧
      (execute [.comparison (.reference 0) (.constant (.int32 (some 1)))
          ⟨fun a b => .ok (List.zipWith (fun x y => .boolean (some (decide (x = y)))) a b)⟩]
          ⟨[[.int32 (some 1), .int32 (some 2)]], 2, by decide⟩ =
          .ok [[.boolean (some true), .boolean (some false)]] ↔
        [[ScalarValue.boolean (some true), .boolean (some false)]].length = 1 ∧
        (∀ o ∈ [[ScalarValue.boolean (some true), .boolean (some false)]], o.length = 2) ∧
        ∀ r : Fin 2, execute [.comparison (.reference 0) (.constant (.int32 (some 1)))
            ⟨fun a b => .ok (List.zipWith (fun x y => .boolean (some (decide (x = y)))) a b)⟩]
            ((⟨[[.int32 (some 1), .int32 (some 2)]], 2, by decide⟩ : RecordBatch).row r) =
          .ok ([[.boolean (some true), .boolean (some false)]].map (slice r))) :=
  have hk := ⟨⟨trivial, trivial, rowWise₂_zipWith _⟩, trivial⟩
  ⟨hk, by decide, execute_eq_ok_iff_rows hk (by decide) _⟩

end ExpressionExecutor

end Planner

end ArrowKV
