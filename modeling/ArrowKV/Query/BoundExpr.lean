import Mathlib.Data.List.Basic

namespace ArrowKV
set_option autoImplicit true

inductive DataType where
  | null
  | boolean
  | int32
  | int64
  | utf8
  deriving DecidableEq, Repr

instance : ToString DataType where
  toString
    | .null => "Null"
    | .boolean => "Boolean"
    | .int32 => "Int32"
    | .int64 => "Int64"
    | .utf8 => "Utf8"

/-- Modelled from the call sites (`ScalarValue` is not in the sources); typed constants are `none` when NULL. -/
inductive ScalarValue where
  | null
  | boolean (v : Option Bool)
  | int32 (v : Option Int)
  | int64 (v : Option Int)
  | utf8 (v : Option String)
  deriving DecidableEq, Repr

def ScalarValue.dataType : ScalarValue → DataType
  | .null => .null
  | .boolean _ => .boolean
  | .int32 _ => .int32
  | .int64 _ => .int64
  | .utf8 _ => .utf8

def ScalarValue.isNull : ScalarValue → Bool
  | .null | .boolean none | .int32 none | .int64 none | .utf8 none => true
  | _ => false

instance : ToString ScalarValue where
  toString
    | .boolean (some b) => toString b
    | .int32 (some i) | .int64 (some i) => toString i
    | .utf8 (some s) => s
    | _ => "NULL"

/-- Modelled from the call sites (`crate::catalog` is not in the sources): a column's catalog entry. -/
structure ColumnCatalog where
  tableId : String
  columnId : String
  nullable : Bool
  dataType : DataType
  deriving DecidableEq, Repr

inductive BinaryOperator where
  | plus | minus | multiply | divide | modulo
  | gt | lt | gtEq | ltEq | eq | notEq
  | and | or
  deriving DecidableEq, Repr

instance : ToString BinaryOperator where
  toString
    | .plus => "+" | .minus => "-" | .multiply => "*" | .divide => "/" | .modulo => "%"
    | .gt => ">" | .lt => "<" | .gtEq => ">=" | .ltEq => "<=" | .eq => "=" | .notEq => "<>"
    | .and => "AND" | .or => "OR"

inductive AggKind where
  | avg | rowCount | max | min | sum | count
  deriving DecidableEq, Repr

instance : ToString AggKind where
  toString
    | .avg => "avg" | .rowCount => "row_count" | .max => "max" | .min => "min" | .sum => "sum"
    | .count => "count"

inductive BoundExpr where
  | constant (value : ScalarValue)
  | columnRef (columnCatalog : ColumnCatalog)
  | inputRef (index : Nat) (returnType : DataType)
  | binaryOp (op : BinaryOperator) (left right : BoundExpr) (returnType : Option DataType)
  | typeCast (expr : BoundExpr) (castType : DataType)
  | aggFunc (func : AggKind) (exprs : List BoundExpr) (returnType : DataType)
  | alias (expr : BoundExpr) (columnId tableId : String)
  | subquery (selectList : List BoundExpr)
  deriving Repr

namespace BoundExpr

/-- `nullable`, `none` where the code panics; `&&` skips its right operand when the left is false. -/
def nullable : BoundExpr → Option Bool
  | constant _ => some false
  | columnRef c => some c.nullable
  | inputRef .. => none
  | binaryOp _ l r _ =>
    match l.nullable with
    | some true => r.nullable
    | other => other
  | typeCast e _ => e.nullable
  | aggFunc _ [] _ => none
  | aggFunc _ (e :: _) _ => e.nullable
  | «alias» e _ _ => e.nullable
  | subquery [] => none
  | subquery (e :: _) => e.nullable

def returnType : BoundExpr → Option (Option DataType)
  | constant v => some (some v.dataType)
  | inputRef _ t => some (some t)
  | columnRef c => some (some c.dataType)
  | binaryOp _ _ _ t => some t
  | typeCast _ t => some (some t)
  | aggFunc _ _ t => some (some t)
  | «alias» e _ _ => e.returnType
  | subquery [] => none
  | subquery (e :: _) => e.returnType

def outputColumnCatalog : BoundExpr → Option ColumnCatalog
  | e@(constant v) => return ⟨"", toString v, ← e.nullable, v.dataType⟩
  | e@(columnRef c) => return ⟨c.tableId, c.columnId, ← e.nullable, c.dataType⟩
  | inputRef .. => none
  | e@(binaryOp op l r t) => do
    let lc ← l.outputColumnCatalog
    let rc ← r.outputColumnCatalog
    let dataType ← t
    return ⟨"", lc.columnId ++ toString op ++ rc.columnId, ← e.nullable, dataType⟩
  | e@(typeCast x castType) => do
    let c ← x.outputColumnCatalog
    return ⟨c.tableId, toString castType ++ "(" ++ c.columnId ++ ")", ← e.nullable, castType⟩
  | aggFunc _ [] _ => none
  | e@(aggFunc func (x :: _) returnType) => do
    let c ← x.outputColumnCatalog
    return ⟨c.tableId, toString func ++ "(" ++ c.columnId ++ ")", ← e.nullable, returnType⟩
  | e@(«alias» x columnId tableId) => do
    let dataType ← (← x.returnType)
    return ⟨tableId, columnId, ← e.nullable, dataType⟩
  | subquery _ => none

mutual
def getReferencedColumnCatalog : BoundExpr → Option (List ColumnCatalog)
  | constant _ | inputRef .. => some []
  | columnRef c => some [c]
  | binaryOp _ l r _ => return (← l.getReferencedColumnCatalog) ++ (← r.getReferencedColumnCatalog)
  | typeCast e _ | «alias» e _ _ => e.getReferencedColumnCatalog
  | aggFunc _ exprs _ => getReferencedColumnCatalogs exprs
  | subquery _ => none

def getReferencedColumnCatalogs : List BoundExpr → Option (List ColumnCatalog)
  | [] => some []
  | e :: es => return (← e.getReferencedColumnCatalog) ++ (← getReferencedColumnCatalogs es)
end

end BoundExpr

def BinaryOperator.propagatesNull : BinaryOperator → Bool
  | .and | .or => false
  | _ => true

namespace BoundExpr

/-- Constants, column references, NULL-propagating binary operations, casts and aliases. -/
def inFragment : BoundExpr → Bool
  | constant _ | columnRef _ => true
  | binaryOp op l r _ => op.propagatesNull && l.inFragment && r.inFragment
  | typeCast e _ | «alias» e _ _ => e.inFragment
  | _ => false

def leaves : BoundExpr → List BoundExpr
  | binaryOp _ l r _ => l.leaves ++ r.leaves
  | typeCast e _ | «alias» e _ _ => e.leaves
  | e => [e]

def mayBeNull : BoundExpr → Bool
  | constant v => v.isNull
  | columnRef c => c.nullable
  | _ => false

def isNullableColumnRef : BoundExpr → Bool
  | columnRef c => c.nullable
  | _ => false

theorem nullable_eq_all_leaves : (e : BoundExpr) → e.inFragment → e.nullable = some (e.leaves.all isNullableColumnRef)
  | constant _, _ => rfl
  | columnRef c, _ => by simp [nullable, leaves, isNullableColumnRef]
  | binaryOp op l r t, h => by
    simp only [inFragment, Bool.and_eq_true] at h
    rw [nullable, nullable_eq_all_leaves l h.1.2, nullable_eq_all_leaves r h.2, leaves, List.all_append]
    cases l.leaves.all isNullableColumnRef <;> rfl
  | typeCast e _, h => nullable_eq_all_leaves e h
  | «alias» e _ _, h => nullable_eq_all_leaves e h

theorem nullable_of_outputColumnCatalog {e : BoundExpr} {c : ColumnCatalog} (h : e.outputColumnCatalog = some c) :
    e.nullable = some c.nullable := by
  match e, h with
  | inputRef .., h | subquery _, h | aggFunc _ [] _, h => cases h
  | constant _, h | columnRef _, h | binaryOp .., h | typeCast .., h | aggFunc _ (_ :: _) _, h | «alias» .., h =>
    simp only [outputColumnCatalog, Option.bind_eq_bind, Option.bind_eq_some, Option.pure_def, Option.some.injEq] at h
    -- each branch binds its parts, then the expression's own `nullable` as the catalog's flag
    repeat obtain ⟨_, _, h⟩ := h
    assumption

/-- On the fragment, the output column is nullable exactly when every leaf is a nullable column reference. -/
theorem outputColumnCatalog_nullable {e : BoundExpr} {c : ColumnCatalog} (hf : e.inFragment)
    (h : e.outputColumnCatalog = some c) : c.nullable = e.leaves.all isNullableColumnRef :=
  Option.some_injective _ ((nullable_of_outputColumnCatalog h).symm.trans (nullable_eq_all_leaves e hf))

theorem outputColumnCatalog_nullable_sum :
    (binaryOp .plus (columnRef ⟨"t", "a", true, .int32⟩) (columnRef ⟨"t", "b", true, .int32⟩) (some .int32)).inFragment ∧
    (binaryOp .plus (columnRef ⟨"t", "a", true, .int32⟩) (columnRef ⟨"t", "b", true, .int32⟩)
      (some .int32)).outputColumnCatalog = some ⟨"", "a+b", true, .int32⟩ ∧
    (⟨"", "a+b", true, .int32⟩ : ColumnCatalog).nullable =
      (binaryOp .plus (columnRef ⟨"t", "a", true, .int32⟩) (columnRef ⟨"t", "b", true, .int32⟩)
        (some .int32)).leaves.all isNullableColumnRef :=
  have hf : (binaryOp .plus (columnRef ⟨"t", "a", true, .int32⟩) (columnRef ⟨"t", "b", true, .int32⟩)
    (some .int32)).inFragment := rfl
  have h : (binaryOp .plus (columnRef ⟨"t", "a", true, .int32⟩) (columnRef ⟨"t", "b", true, .int32⟩)
    (some .int32)).outputColumnCatalog = some ⟨"", "a+b", true, .int32⟩ := by decide
  ⟨hf, h, outputColumnCatalog_nullable hf h⟩

def columnRefCatalog? : BoundExpr → Option ColumnCatalog
  | columnRef c => some c
  | _ => none

theorem getReferencedColumnCatalog_eq_leaves : (e : BoundExpr) → e.inFragment →
    e.getReferencedColumnCatalog = some (e.leaves.filterMap columnRefCatalog?)
  | constant _, _ | columnRef _, _ => rfl
  | binaryOp op l r t, h => by
    simp only [inFragment, Bool.and_eq_true] at h
    simp [getReferencedColumnCatalog, leaves, getReferencedColumnCatalog_eq_leaves l h.1.2,
      getReferencedColumnCatalog_eq_leaves r h.2]
  | typeCast e _, h | «alias» e _ _, h => getReferencedColumnCatalog_eq_leaves e h

theorem all_isNullableColumnRef : ∀ {ls : List BoundExpr}, (∀ l ∈ ls, (columnRefCatalog? l).isSome) →
    ls.all isNullableColumnRef = (ls.filterMap columnRefCatalog?).all (·.nullable)
  | [], _ => rfl
  | columnRef c :: ls, h => by
    simp [isNullableColumnRef, columnRefCatalog?, all_isNullableColumnRef fun l hl => h l (.tail _ hl)]
  | constant _ :: _, h | inputRef .. :: _, h | binaryOp .. :: _, h | typeCast .. :: _, h
  | aggFunc .. :: _, h | «alias» .. :: _, h | subquery _ :: _, h => nomatch h _ (.head _)

/-- On the fragment, `nullable` holds exactly when every column `get_referenced_column_catalog` returns is nullable. -/
theorem nullable_eq_all_referenced {e : BoundExpr} (hf : e.inFragment)
    (hc : ∀ l ∈ e.leaves, (columnRefCatalog? l).isSome) :
    e.nullable = e.getReferencedColumnCatalog.map (·.all (·.nullable)) := by
  rw [nullable_eq_all_leaves e hf, getReferencedColumnCatalog_eq_leaves e hf, all_isNullableColumnRef hc]
  rfl

theorem nullable_eq_all_referenced_sum :
    (binaryOp .plus (columnRef ⟨"t", "a", true, .int32⟩) (columnRef ⟨"t", "b", false, .int32⟩) (some .int32)).inFragment ∧
    (∀ l ∈ (binaryOp .plus (columnRef ⟨"t", "a", true, .int32⟩) (columnRef ⟨"t", "b", false, .int32⟩)
      (some .int32)).leaves, (columnRefCatalog? l).isSome) ∧
    (binaryOp .plus (columnRef ⟨"t", "a", true, .int32⟩) (columnRef ⟨"t", "b", false, .int32⟩) (some .int32)).nullable =
      (binaryOp .plus (columnRef ⟨"t", "a", true, .int32⟩) (columnRef ⟨"t", "b", false, .int32⟩)
        (some .int32)).getReferencedColumnCatalog.map (·.all (·.nullable)) :=
  have hf : (binaryOp .plus (columnRef ⟨"t", "a", true, .int32⟩) (columnRef ⟨"t", "b", false, .int32⟩)
    (some .int32)).inFragment := rfl
  have hc : ∀ l ∈ (binaryOp .plus (columnRef ⟨"t", "a", true, .int32⟩) (columnRef ⟨"t", "b", false, .int32⟩)
      (some .int32)).leaves, (columnRefCatalog? l).isSome := by
    simp [leaves, columnRefCatalog?]
  ⟨hf, hc, nullable_eq_all_referenced hf hc⟩

/-- Three expressions, each with a leaf that can be NULL, whose output columns are all marked not nullable. -/
theorem nullable_misses_null_leaves :
    (binaryOp .plus (columnRef ⟨"t", "a", true, .int32⟩) (columnRef ⟨"t", "b", false, .int32⟩) (some .int32)).inFragment ∧
    (binaryOp .plus (columnRef ⟨"t", "a", true, .int32⟩) (columnRef ⟨"t", "b", false, .int32⟩)
      (some .int32)).leaves.any mayBeNull ∧
    (binaryOp .plus (columnRef ⟨"t", "a", true, .int32⟩) (columnRef ⟨"t", "b", false, .int32⟩)
      (some .int32)).outputColumnCatalog.map ColumnCatalog.nullable = some false ∧
    (constant .null).inFragment ∧ (constant .null).leaves.any mayBeNull ∧
    (constant .null).outputColumnCatalog.map ColumnCatalog.nullable = some false := by
  decide

end BoundExpr

end ArrowKV
