import Mathlib.Data.List.AList
import ArrowKV.Query.BoundExpr

namespace ArrowKV
set_option autoImplicit true

/-- Modelled from the call sites (`crate::catalog` is not in the sources): a table's columns in order. -/
structure TableCatalog where
  columns : List ColumnCatalog
  deriving DecidableEq, Repr

def TableCatalog.getColumnByName (t : TableCatalog) (name : String) : Option ColumnCatalog :=
  t.columns.find? (·.columnId == name)

inductive BindError where
  | invalidTableName (idents : List String)
  | invalidTable (name : String)
  | invalidColumn (name : String)
  | ambiguousColumn (name : String)
  deriving DecidableEq, Repr

/-- The binder's context; the tables' `HashMap` is its entries in the hasher's iteration order. -/
structure BinderContext where
  tables : AList (fun _ : String => TableCatalog)
  aliases : AList (fun _ : String => BoundExpr)

namespace Binder

def findColumn (columnName : String) : Option ColumnCatalog → List TableCatalog → Except BindError (Option ColumnCatalog)
  | gotColumn, [] => .ok gotColumn
  | gotColumn, tableCatalog :: tables =>
    match tableCatalog.getColumnByName columnName with
    | some columnCatalog =>
      if gotColumn.isSome then .error (.ambiguousColumn columnName)
      else findColumn columnName (some columnCatalog) tables
    | none => findColumn columnName gotColumn tables

def bindColumnRefFromIdentifiers (toLowercase : String → String) (context : BinderContext)
    (idents : List String) : Except BindError BoundExpr := do
  let idents := idents.map toLowercase
  let (tableName, columnName) ← match idents with
    | [column] => pure (none, column)
    | [table, column] => pure (some table, column)
    | [_schema, table, column] => pure (some table, column)
    | _ => throw (.invalidTableName idents)
  match tableName with
  | some table =>
    let some tableCatalog := context.tables.lookup table | throw (.invalidTable table)
    let some columnCatalog := tableCatalog.getColumnByName columnName | throw (.invalidColumn columnName)
    pure (.columnRef columnCatalog)
  | none =>
    let gotColumn ← findColumn columnName none (context.tables.entries.map (·.2))
    if gotColumn.isNone then
      if let some expr := context.aliases.lookup columnName then
        return expr
    let some columnCatalog := gotColumn | throw (.invalidColumn columnName)
    pure (.columnRef columnCatalog)

theorem findColumn_some (n : String) (c : ColumnCatalog) (tables : List TableCatalog) :
    findColumn n (some c) tables =
      if tables.filterMap (·.getColumnByName n) = [] then .ok (some c) else .error (.ambiguousColumn n) := by
  induction tables with
  | nil => rfl
  | cons t tables ih =>
    unfold findColumn
    cases h : t.getColumnByName n <;> simp [h, ih]

theorem findColumn_none (n : String) (tables : List TableCatalog) :
    findColumn n none tables =
      match tables.filterMap (·.getColumnByName n) with
      | [] => .ok none
      | [c] => .ok (some c)
      | _ => .error (.ambiguousColumn n) := by
  induction tables with
  | nil => rfl
  | cons t tables ih =>
    unfold findColumn
    cases h : t.getColumnByName n with
    | none => simpa [h] using ih
    | some c =>
      simp only [Option.isSome_none, Bool.false_eq_true, if_false, findColumn_some, List.filterMap_cons, h]
      cases tables.filterMap (·.getColumnByName n) <;> simp

/-- A one-part name read off the tables: their one column so named, `AmbiguousColumn` for several, else the alias. -/
def expectedColumnRef (context : BinderContext) (n : String) : Except BindError BoundExpr :=
  match (context.tables.entries.map (·.2)).filterMap (·.getColumnByName n) with
  | [] =>
    match context.aliases.lookup n with
    | some expr => .ok expr
    | none => .error (.invalidColumn n)
  | [columnCatalog] => .ok (.columnRef columnCatalog)
  | _ => .error (.ambiguousColumn n)

theorem bindColumnRefFromIdentifiers_single (toLowercase : String → String) (context : BinderContext) (c : String) :
    bindColumnRefFromIdentifiers toLowercase context [c] = expectedColumnRef context (toLowercase c) := by
  simp only [bindColumnRefFromIdentifiers, expectedColumnRef, List.map_cons, List.map_nil, pure_bind, findColumn_none]
  generalize (context.tables.entries.map (·.2)).filterMap (·.getColumnByName (toLowercase c)) = found
  rcases found with _ | ⟨col, _ | ⟨col', rest⟩⟩ <;> cases context.aliases.lookup (toLowercase c) <;> rfl

theorem expectedColumnRef_perm {context context' : BinderContext} (n : String)
    (h : context'.tables.entries.Perm context.tables.entries) (ha : context'.aliases = context.aliases) :
    expectedColumnRef context' n = expectedColumnRef context n := by
  have hp := (h.map (·.2)).filterMap (·.getColumnByName n)
  unfold expectedColumnRef
  rw [ha]
  generalize (context'.tables.entries.map (·.2)).filterMap (·.getColumnByName n) = found' at hp ⊢
  generalize (context.tables.entries.map (·.2)).filterMap (·.getColumnByName n) = found at hp ⊢
  rcases found with _ | ⟨col, _ | ⟨col', rest⟩⟩
  · rw [List.perm_nil.1 hp]
  · rw [List.perm_singleton.1 hp]
  · rcases found' with _ | ⟨d, _ | ⟨d', rest'⟩⟩ <;> first | rfl | simp at hp

/-- A one-part column name binds as `expectedColumnRef` reads it, whatever the iteration order of the tables. -/
theorem bindColumnRef_iteration_order_free (toLowercase : String → String) (context : BinderContext) (c : String) :
    bindColumnRefFromIdentifiers toLowercase context [c] = expectedColumnRef context (toLowercase c) ∧
    ∀ context' : BinderContext, context'.tables.entries.Perm context.tables.entries →
      context'.aliases = context.aliases →
      bindColumnRefFromIdentifiers toLowercase context' [c] = bindColumnRefFromIdentifiers toLowercase context [c] := by
  refine ⟨bindColumnRefFromIdentifiers_single .., fun context' h ha => ?_⟩
  rw [bindColumnRefFromIdentifiers_single, bindColumnRefFromIdentifiers_single, expectedColumnRef_perm _ h ha]

end Binder

end ArrowKV
