import Mathlib.Data.List.AList
import Mathlib.Data.List.FinRange

namespace ArrowKV
set_option autoImplicit true

namespace Planner

inductive LogicalType where
  | boolean
  | integer
  | bigint
  | double
  | varchar
  deriving DecidableEq, Repr

inductive BindError where
  | internal (msg : String)
  | unsupportedStmt (msg : String)
  deriving DecidableEq, Repr

/-- Modelled from the call sites: `usize::MAX`, the `DConstants::INVALID_INDEX` its comment names. -/
def INVALID_INDEX : Nat := 18446744073709551615

structure ColumnDefinition where
  name : String
  ty : LogicalType
  deriving DecidableEq, Repr

/-- Modelled from the call sites (`crate::catalog` is not in the sources): columns in order, names distinct. -/
structure TableCatalogEntry where
  columns : List ColumnDefinition
  nodupNames : (columns.map (·.name)).Nodup

def TableCatalogEntry.nameMapGet (t : TableCatalogEntry) (name : String) : Option (Fin t.columns.length) :=
  (List.finRange t.columns.length).find? fun i => (t.columns.get i).name == name

theorem TableCatalogEntry.eq_of_name_eq (t : TableCatalogEntry) {i j : Fin t.columns.length}
    (h : (t.columns.get i).name = (t.columns.get j).name) : i = j := by
  have := t.nodupNames.get_inj_iff.1 (show (t.columns.map (·.name)).get (i.cast (by simp)) =
    (t.columns.map (·.name)).get (j.cast (by simp)) by simpa using h)
  exact Fin.ext (by simpa using congrArg Fin.val this)

theorem TableCatalogEntry.nameMapGet_eq_some (t : TableCatalogEntry) {name : String} {i : Fin t.columns.length} :
    t.nameMapGet name = some i ↔ (t.columns.get i).name = name := by
  constructor
  · intro h
    simpa using List.find?_some h
  · intro h
    cases hf : t.nameMapGet name with
    | none =>
      simp only [TableCatalogEntry.nameMapGet, List.find?_eq_none] at hf
      exact absurd (by simpa using h) (hf i (List.mem_finRange i))
    | some j =>
      have hj : (t.columns.get j).name = name := by simpa using List.find?_some hf
      rw [t.eq_of_name_eq (hj.trans h.symm)]

structure LogicalInsert where
  columnIndexList : List Nat
  expectedTypes : List LogicalType
  table : TableCatalogEntry

namespace Binder

def checkInsertColumnCountMismatch (expectedColumnsCnt insertColumnsCnt : Nat) : Except BindError Unit :=
  if expectedColumnsCnt != insertColumnsCnt then
    .error (.internal ("insert column count mismatch, expected: " ++ toString expectedColumnsCnt ++
      ", actual: " ++ toString insertColumnsCnt))
  else .ok ()

structure NamedColumns where
  columnName2InsertIdxMap : AList (fun _ : String => Nat)
  expectedTypes : List LogicalType
  namedColumnIndices : List Nat

/-- The loop over the explicit column list; `insert` overwrites, so a repeated name keeps its last position. -/
def bindColumnList (tableName : String) (table : TableCatalogEntry) (acc : NamedColumns) :
    List (Nat × String) → Except BindError NamedColumns
  | [] => .ok acc
  | (idx, col) :: columns =>
    let columnName2InsertIdxMap := acc.columnName2InsertIdxMap.insert col idx
    match table.nameMapGet col with
    | none => .error (.internal ("column " ++ col ++ " not found in table " ++ tableName))
    | some columnIndex =>
      bindColumnList tableName table
        ⟨columnName2InsertIdxMap, acc.expectedTypes ++ [(table.columns.get columnIndex).ty],
          acc.namedColumnIndices ++ [columnIndex.val]⟩ columns

/-- `bind_insert` on a resolved table; the select's binding and the cast of its plan are parameters. -/
def bindInsert (tableName : String) (table : TableCatalogEntry) (columns : List String)
    (bindQuery : Except BindError (List LogicalType))
    (castLogicalOperatorToTypes : List LogicalType → List LogicalType → Except BindError Unit) :
    Except BindError LogicalInsert := do
  let (expectedTypes, namedColumnIndices, columnIndexList) ←
    if columns.isEmpty then
      pure (table.columns.map (·.ty), List.range table.columns.length, List.range table.columns.length)
    else do
      let named ← bindColumnList tableName table ⟨∅, [], []⟩ columns.enum
      pure (named.expectedTypes, named.namedColumnIndices,
        table.columns.map fun col => (named.columnName2InsertIdxMap.lookup col.name).getD INVALID_INDEX)
  let insertedTypes ← bindQuery
  checkInsertColumnCountMismatch namedColumnIndices.length insertedTypes.length
  castLogicalOperatorToTypes insertedTypes expectedTypes
  pure ⟨columnIndexList, expectedTypes, table⟩

theorem except_bind_eq_ok {x : Except ε α} {f : α → Except ε β} :
    x >>= f = .ok b ↔ ∃ a, x = .ok a ∧ f a = .ok b := by
  cases x <;> simp [bind, Except.bind]

theorem bindColumnList_spec {acc r : NamedColumns} {l : List (Nat × String)}
    (h : bindColumnList tableName table acc l = .ok r) :
    ∃ idxs : List (Fin table.columns.length), l.map (fun p => table.nameMapGet p.2) = idxs.map some ∧
      r.columnName2InsertIdxMap = l.foldl (fun m p => m.insert p.2 p.1) acc.columnName2InsertIdxMap ∧
      r.expectedTypes = acc.expectedTypes ++ idxs.map (fun j => (table.columns.get j).ty) ∧
      r.namedColumnIndices = acc.namedColumnIndices ++ idxs.map (·.val) := by
  induction l generalizing acc with
  | nil => cases h; exact ⟨[], rfl, rfl, by simp, by simp⟩
  | cons p l ih =>
    obtain ⟨idx, col⟩ := p
    unfold bindColumnList at h
    cases hm : table.nameMapGet col with
    | none => simp [hm] at h
    | some j =>
      simp only [hm] at h
      obtain ⟨idxs, hmap, hcm, hty, hnc⟩ := ih h
      exact ⟨j :: idxs, by simp [hm, hmap], hcm, by simp [hty], by simp [hnc]⟩

theorem lookup_foldl_insert_of_not_mem {name : String} {cols : List String} (h : name ∉ cols) (k : Nat)
    (m : AList (fun _ : String => Nat)) :
    ((cols.enumFrom k).foldl (fun m p => m.insert p.2 p.1) m).lookup name = m.lookup name := by
  induction cols generalizing k m with
  | nil => rfl
  | cons c cols ih =>
    simp only [List.mem_cons, not_or] at h
    simp only [List.enumFrom_cons, List.foldl_cons, ih h.2, AList.lookup_insert_ne h.1]

theorem lookup_foldl_insert_of_nodup {cols : List String} (hnd : cols.Nodup) (k : Nat)
    (m : AList (fun _ : String => Nat)) (i : Nat) (hi : i < cols.length) :
    ((cols.enumFrom k).foldl (fun m p => m.insert p.2 p.1) m).lookup cols[i] = some (k + i) := by
  induction cols generalizing k m i with
  | nil => cases hi
  | cons c cols ih =>
    rw [List.nodup_cons] at hnd
    cases i with
    | zero =>
      simp only [List.enumFrom_cons, List.foldl_cons, List.getElem_cons_zero,
        lookup_foldl_insert_of_not_mem hnd.1, AList.lookup_insert, Nat.add_zero]
    | succ i =>
      simp only [List.enumFrom_cons, List.foldl_cons, List.getElem_cons_succ]
      rw [ih hnd.2 (k + 1) _ i (by simpa using hi)]
      congr 1
      omega

theorem lookup_foldl_insert_of_mem {name : String} {cols : List String} (h : name ∈ cols) (k : Nat)
    (m : AList (fun _ : String => Nat)) :
    ∃ j, ((cols.enumFrom k).foldl (fun m p => m.insert p.2 p.1) m).lookup name = some (k + j) ∧
      cols[j]? = some name ∧ name ∉ cols.drop (j + 1) := by
  induction cols generalizing k m with
  | nil => cases h
  | cons c cols ih =>
    simp only [List.enumFrom_cons, List.foldl_cons]
    by_cases hc : name ∈ cols
    · obtain ⟨j, hl, hj, hd⟩ := ih hc (k + 1) (m.insert c k)
      exact ⟨j + 1, by rw [hl]; congr 1; omega, by simpa using hj, by simpa using hd⟩
    · have : name = c := by simpa [hc] using h
      subst this
      exact ⟨0, by simp [lookup_foldl_insert_of_not_mem hc], by simp, by simpa using hc⟩

theorem bindInsert_eq_ok {columns : List String} {ins : LogicalInsert} (hne : columns ≠ [])
    (h : bindInsert tableName table columns bindQuery castLogicalOperatorToTypes = .ok ins) :
    ∃ named, bindColumnList tableName table ⟨∅, [], []⟩ columns.enum = .ok named ∧
      ins.columnIndexList =
        table.columns.map (fun col => (named.columnName2InsertIdxMap.lookup col.name).getD INVALID_INDEX) ∧
      ins.expectedTypes = named.expectedTypes := by
  have hempty : columns.isEmpty = false := by simpa using hne
  simp only [bindInsert, hempty, Bool.false_eq_true, if_false, except_bind_eq_ok, pure, Except.pure,
    Except.ok.injEq] at h
  obtain ⟨named, hl, _, rfl, -, -, -, -, -, -, rfl⟩ := h
  exact ⟨named, hl, rfl, rfl⟩

/-- A column list without repeats maps each table column to its list position, an unlisted one to `INVALID_INDEX`. -/
theorem bindInsert_consistent {columns : List String} {ins : LogicalInsert} (hne : columns ≠ [])
    (hnd : columns.Nodup) (h : bindInsert tableName table columns bindQuery castLogicalOperatorToTypes = .ok ins) :
    ins.columnIndexList.length = table.columns.length ∧
    (∀ i (hi : i < columns.length), ∃ j, table.nameMapGet columns[i] = some j ∧
      ins.columnIndexList[j.val]? = some i ∧ ins.expectedTypes[i]? = some (table.columns.get j).ty) ∧
    ∀ j : Fin table.columns.length, (table.columns.get j).name ∉ columns →
      ins.columnIndexList[j.val]? = some INVALID_INDEX := by
  obtain ⟨named, hl, hcil, het⟩ := bindInsert_eq_ok hne h
  obtain ⟨idxs, hmap, hcm, hty, -⟩ := bindColumnList_spec hl
  simp only [hcil, het, hcm, hty, List.nil_append]
  have hlen : idxs.length = columns.length := by simpa using (congrArg List.length hmap).symm
  refine ⟨by simp, fun i hi => ?_, fun j hj => ?_⟩
  · have hj : table.nameMapGet columns[i] = some idxs[i] := by
      simpa [List.getElem?_enum, hi, hlen] using congrArg (·[i]?) hmap
    have hname := (table.nameMapGet_eq_some).1 hj
    refine ⟨idxs[i], hj, ?_, by simp [hlen, hi]⟩
    simp only [List.getElem?_map, List.getElem?_eq_getElem (idxs[i]).isLt, Option.map_some', Option.some.injEq]
    rw [List.enum_eq_enumFrom, ← List.get_eq_getElem, hname, lookup_foldl_insert_of_nodup hnd 0 ∅ i hi]
    simp
  · simp only [List.getElem?_map, List.getElem?_eq_getElem j.isLt, Option.map_some', List.enum_eq_enumFrom]
    rw [← List.get_eq_getElem, lookup_foldl_insert_of_not_mem hj]
    rfl

theorem bindInsert_consistent_two_columns :
    ["c", "a"] ≠ [] ∧ ["c", "a"].Nodup ∧
      bindInsert "t" ⟨[⟨"a", .integer⟩, ⟨"b", .varchar⟩, ⟨"c", .boolean⟩], by decide⟩ ["c", "a"] (.ok [.boolean, .integer]) (fun _ _ => .ok ()) =
        .ok ⟨[1, INVALID_INDEX, 0], [.boolean, .integer], ⟨[⟨"a", .integer⟩, ⟨"b", .varchar⟩, ⟨"c", .boolean⟩], by decide⟩⟩ ∧
      [1, INVALID_INDEX, 0].length = 3 ∧
      (∀ i (hi : i < ["c", "a"].length), ∃ j : Fin 3, (⟨[⟨"a", .integer⟩, ⟨"b", .varchar⟩, ⟨"c", .boolean⟩], by decide⟩ : TableCatalogEntry).nameMapGet
        ["c", "a"][i] = some j ∧ [1, INVALID_INDEX, 0][j.val]? = some i ∧
          [LogicalType.boolean, .integer][i]? = some ((⟨[⟨"a", .integer⟩, ⟨"b", .varchar⟩, ⟨"c", .boolean⟩], by decide⟩ : TableCatalogEntry).columns.get j).ty) ∧
      ∀ j : Fin 3, ((⟨[⟨"a", .integer⟩, ⟨"b", .varchar⟩, ⟨"c", .boolean⟩], by decide⟩ : TableCatalogEntry).columns.get j).name ∉ ["c", "a"] →
        [1, INVALID_INDEX, 0][j.val]? = some INVALID_INDEX :=
  have hne : ["c", "a"] ≠ [] := by decide
  have hnd : ["c", "a"].Nodup := by decide
  have h : bindInsert "t" ⟨[⟨"a", .integer⟩, ⟨"b", .varchar⟩, ⟨"c", .boolean⟩], by decide⟩ ["c", "a"] (.ok [.boolean, .integer]) (fun _ _ => .ok ()) =
      .ok ⟨[1, INVALID_INDEX, 0], [.boolean, .integer], ⟨[⟨"a", .integer⟩, ⟨"b", .varchar⟩, ⟨"c", .boolean⟩], by decide⟩⟩ := rfl
  ⟨hne, hnd, h, bindInsert_consistent hne hnd h⟩

theorem bindInsert_drops_repeated_column {columns : List String} {ins : LogicalInsert}
    (hlen : columns.length ≤ INVALID_INDEX) {i j : Nat} (hij : i < j) (hj : j < columns.length)
    (hrep : columns[i]? = columns[j]?)
    (h : bindInsert tableName table columns bindQuery castLogicalOperatorToTypes = .ok ins) :
    i ∉ ins.columnIndexList := by
  obtain ⟨named, hl, hcil, -⟩ := bindInsert_eq_ok (List.ne_nil_of_length_pos (by omega)) h
  obtain ⟨-, -, hcm, -, -⟩ := bindColumnList_spec hl
  simp only [hcil, hcm, List.mem_map, List.enum_eq_enumFrom, not_exists, not_and]
  intro col _ hcol
  by_cases hmem : col.name ∈ columns
  · obtain ⟨j0, hl0, hj0, hd0⟩ := lookup_foldl_insert_of_mem hmem 0 ∅
    rw [hl0, Option.getD_some, Nat.zero_add] at hcol
    subst hcol
    apply hd0
    have : (columns.drop (j0 + 1))[j - (j0 + 1)]? = some col.name := by
      rw [List.getElem?_drop, Nat.add_sub_cancel' (by omega), ← hrep, hj0]
    exact List.getElem?_mem this
  · rw [lookup_foldl_insert_of_not_mem hmem, AList.lookup_empty, Option.getD_none] at hcol
    omega

/-- The list `(a, a)` on a table `(a, b)` binds, mapping `a` to position 1: the value at position 0 is dropped. -/
theorem bindInsert_accepts_repeated_column :
    ((⟨[⟨"a", .integer⟩, ⟨"b", .integer⟩], by decide⟩ : TableCatalogEntry).nameMapGet "a").map Fin.val = some 0 ∧
    (bindInsert "t" ⟨[⟨"a", .integer⟩, ⟨"b", .integer⟩], by decide⟩ ["a", "a"] (.ok [.integer, .integer])
      (fun _ _ => .ok ())).map (·.columnIndexList) = .ok [1, INVALID_INDEX] := ⟨rfl, rfl⟩

end Binder

end Planner

end ArrowKV
