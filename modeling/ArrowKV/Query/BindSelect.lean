import ArrowKV.Query.BindInsert

namespace ArrowKV
set_option autoImplicit true

namespace PlannerV2

inductive BindError where
  | internal (msg : String)
  | other (msg : String)
  deriving DecidableEq, Repr

/-- Modelled from the call sites (sqlparser's `SelectItem`); the options a wildcard carries are not read. -/
inductive SelectItem (Expr : Type) where
  | unnamedExpr (expr : Expr)
  | exprWithAlias (expr : Expr) («alias» : String)
  | wildcard
  | qualifiedWildcard (objectName : List String)
  deriving DecidableEq, Repr

namespace SelectItem

def isWildcard : SelectItem Expr → Bool
  | wildcard | qualifiedWildcard _ => true
  | _ => false

def expr? : SelectItem Expr → Option Expr
  | unnamedExpr expr | exprWithAlias expr _ => some expr
  | _ => none

def alias? : SelectItem Expr → Option String
  | exprWithAlias _ name => some name
  | _ => none

end SelectItem

structure Select (Expr TableRef : Type) where
  «from» : List TableRef
  projection : List (SelectItem Expr)
  selection : Option Expr

structure BoundSelectNode (Ty BoundTableRef BoundExpression Expr : Type) where
  names : List String
  types : List Ty
  selectList : List BoundExpression
  fromTable : BoundTableRef
  whereClause : Option BoundExpression
  originalSelectItems : Option (List Expr)

/-- Modelled from the call sites: the binder's callees the sources do not hold, over the binder's state `σ`. -/
structure Callees (σ Expr TableRef Ty BoundTableRef BoundExpression : Type) where
  bindTableRef : σ → List TableRef → Except BindError (BoundTableRef × σ)
  generateAllColumnExpressions : σ → Option String → Except BindError (List (SelectItem Expr))
  objectNameToSchemaTable : List String → Except BindError (Option String × String)
  bindExpression : σ → Expr → List String → List Ty →
    Except BindError (BoundExpression × σ × List String × List Ty)
  bindWhereExpression : σ → List Expr → (String → Option Nat) → Expr → Except BindError (BoundExpression × σ)
  setAlias : BoundExpression → String → BoundExpression

def Callees.PushesOneName (c : Callees σ Expr TableRef Ty BoundTableRef BoundExpression) : Prop :=
  ∀ s e names types r, c.bindExpression s e names types = .ok r →
    ∃ n t, r.2.2.1 = names ++ [n] ∧ r.2.2.2 = types ++ [t]

namespace Binder

variable {σ Expr TableRef Ty BoundTableRef BoundExpression : Type}
  (c : Callees σ Expr TableRef Ty BoundTableRef BoundExpression)

/-- The loop of `expand_star_expressions`: each wildcard becomes the columns it names; other items stay. -/
def expandStarExpressionsLoop (s : σ) (newSelectList : List (SelectItem Expr)) :
    List (SelectItem Expr) → Except BindError (List (SelectItem Expr))
  | [] => .ok newSelectList
  | .wildcard :: items => do
    let colExprs ← c.generateAllColumnExpressions s none
    expandStarExpressionsLoop s (newSelectList ++ colExprs) items
  | .qualifiedWildcard objectName :: items => do
    let (_, tableName) ← c.objectNameToSchemaTable objectName
    let colExprs ← c.generateAllColumnExpressions s (some tableName)
    expandStarExpressionsLoop s (newSelectList ++ colExprs) items
  | other :: items => expandStarExpressionsLoop s (newSelectList ++ [other]) items

def expandStarExpressions (s : σ) (selectList : List (SelectItem Expr)) :
    Except BindError (List (SelectItem Expr)) :=
  expandStarExpressionsLoop c s [] selectList

/-- The loop of `bind_select_body` over the expanded list; `HashMap::insert` overwrites an earlier alias. -/
def collectSelectItems (originalSelectItems : List Expr) (aliasMap : String → Option Nat) (idx : Nat) :
    List (SelectItem Expr) → Except BindError (List Expr × (String → Option Nat))
  | [] => .ok (originalSelectItems, aliasMap)
  | .unnamedExpr expr :: items => collectSelectItems (originalSelectItems ++ [expr]) aliasMap (idx + 1) items
  | .exprWithAlias expr name :: items =>
    collectSelectItems (originalSelectItems ++ [expr]) (Function.update aliasMap name (some idx)) (idx + 1) items
  | .wildcard :: _ | .qualifiedWildcard _ :: _ => .error (.internal "wildcard should be expanded before")

def setLast : List String → String → List String
  | [], _ => []
  | names, name => names.dropLast ++ [name]

/-- `bind_select_item`: an alias renames the last result name, whichever item pushed it. -/
def bindSelectItem (s : σ) (resultNames : List String) (resultTypes : List Ty) :
    SelectItem Expr → Except BindError (BoundExpression × σ × List String × List Ty)
  | .unnamedExpr expr => c.bindExpression s expr resultNames resultTypes
  | .exprWithAlias expr name => do
    let (expr, s, resultNames, resultTypes) ← c.bindExpression s expr resultNames resultTypes
    return (c.setAlias expr name, s, setLast resultNames name, resultTypes)
  | .wildcard | .qualifiedWildcard _ => .error (.internal "wildcard should expand before bind select item")

def bindSelectItems (s : σ) (resultNames : List String) (resultTypes : List Ty) :
    List (SelectItem Expr) → Except BindError (List BoundExpression × σ × List String × List Ty)
  | [] => .ok ([], s, resultNames, resultTypes)
  | item :: items => do
    let (expr, s, resultNames, resultTypes) ← bindSelectItem c s resultNames resultTypes item
    let (exprs, s, resultNames, resultTypes) ← bindSelectItems s resultNames resultTypes items
    return (expr :: exprs, s, resultNames, resultTypes)

def bindSelectBody (s : σ) (select : Select Expr TableRef) :
    Except BindError (BoundSelectNode Ty BoundTableRef BoundExpression Expr × σ) := do
  let (fromTable, s) ← c.bindTableRef s select.from
  let newSelectList ← expandStarExpressions c s select.projection
  if newSelectList.isEmpty then
    throw (.internal "empty select list")
  let (originalSelectItems, aliasMap) ← collectSelectItems [] (fun _ => none) 0 newSelectList
  let (whereClause, s) ← match select.selection with
    | some whereExpr => do
      let (e, s) ← c.bindWhereExpression s originalSelectItems aliasMap whereExpr
      pure (some e, s)
    | none => pure (none, s)
  let (selectList, s, resultNames, resultTypes) ← bindSelectItems c s [] [] newSelectList
  return (⟨resultNames, resultTypes, selectList, fromTable, whereClause, some originalSelectItems⟩, s)

/-! ## Star expansion -/

section Expand

variable {s : σ}
  (hgen : ∀ t cols, c.generateAllColumnExpressions s t = .ok cols → ∀ x ∈ cols, x.isWildcard = false)
include hgen

theorem expandStarExpressionsLoop_spec :
    ∀ {acc items out}, expandStarExpressionsLoop c s acc items = .ok out →
      ∃ rest, out = acc ++ rest ∧ (∀ x ∈ rest, x.isWildcard = false) ∧
        (items.filter (!·.isWildcard)).Sublist rest
  | _, [], _, h => ⟨[], by simpa [expandStarExpressionsLoop, eq_comm] using h, by simp, by simp⟩
  | acc, .wildcard :: items, out, h => by
    obtain ⟨cols, hcols, h⟩ := Planner.Binder.except_bind_eq_ok.1 h
    obtain ⟨rest, rfl, hrest, hsub⟩ := expandStarExpressionsLoop_spec h
    exact ⟨cols ++ rest, by simp, fun x hx => (List.mem_append.1 hx).elim (hgen _ _ hcols x) (hrest x),
      hsub.trans (List.sublist_append_right _ _)⟩
  | acc, .qualifiedWildcard objectName :: items, out, h => by
    obtain ⟨⟨_, tableName⟩, -, h⟩ := Planner.Binder.except_bind_eq_ok.1 h
    obtain ⟨cols, hcols, h⟩ := Planner.Binder.except_bind_eq_ok.1 h
    obtain ⟨rest, rfl, hrest, hsub⟩ := expandStarExpressionsLoop_spec h
    exact ⟨cols ++ rest, by simp, fun x hx => (List.mem_append.1 hx).elim (hgen _ _ hcols x) (hrest x),
      hsub.trans (List.sublist_append_right _ _)⟩
  | acc, .unnamedExpr e :: items, out, h => by
    have h : expandStarExpressionsLoop c s (acc ++ [.unnamedExpr e]) items = .ok out := h
    obtain ⟨rest, rfl, hrest, hsub⟩ := expandStarExpressionsLoop_spec h
    exact ⟨.unnamedExpr e :: rest, by simp, List.forall_mem_cons.2 ⟨rfl, hrest⟩, hsub.cons₂ _⟩
  | acc, .exprWithAlias e name :: items, out, h => by
    have h : expandStarExpressionsLoop c s (acc ++ [.exprWithAlias e name]) items = .ok out := h
    obtain ⟨rest, rfl, hrest, hsub⟩ := expandStarExpressionsLoop_spec h
    exact ⟨.exprWithAlias e name :: rest, by simp, List.forall_mem_cons.2 ⟨rfl, hrest⟩, hsub.cons₂ _⟩

/-- Star expansion keeps every item but wildcards, in order, and leaves none when the context generates none. -/
theorem expandStarExpressions_no_wildcard (h : expandStarExpressions c s items = .ok out) :
    (∀ x ∈ out, x.isWildcard = false) ∧ (items.filter (!·.isWildcard)).Sublist out := by
  obtain ⟨rest, rfl, hrest, hsub⟩ := expandStarExpressionsLoop_spec c hgen h
  exact ⟨by simpa using hrest, by simpa using hsub⟩

end Expand

def oneColumnCallees : Callees Unit String String Unit Unit String where
  bindTableRef s _ := .ok ((), s)
  generateAllColumnExpressions _ _ := .ok [.unnamedExpr "a"]
  objectNameToSchemaTable objectName := .ok (none, objectName.getLastD "")
  bindExpression s e names types := .ok (e, s, names ++ [e], types ++ [()])
  bindWhereExpression s _ _ e := .ok (e, s)
  setAlias e _ := e

theorem expandStarExpressions_no_wildcard_star :
    (∀ t cols, oneColumnCallees.generateAllColumnExpressions () t = .ok cols → ∀ x ∈ cols, x.isWildcard = false) ∧
      expandStarExpressions oneColumnCallees () [.unnamedExpr "b", .wildcard, .qualifiedWildcard ["t"]] =
        .ok [.unnamedExpr "b", .unnamedExpr "a", .unnamedExpr "a"] ∧
      (∀ x ∈ [SelectItem.unnamedExpr "b", .unnamedExpr "a", .unnamedExpr "a"], x.isWildcard = false) ∧
      (([SelectItem.unnamedExpr "b", .wildcard, .qualifiedWildcard ["t"]].filter (!·.isWildcard)).Sublist
        [.unnamedExpr "b", .unnamedExpr "a", .unnamedExpr "a"]) :=
  have hgen : ∀ t cols, oneColumnCallees.generateAllColumnExpressions () t = .ok cols →
      ∀ x ∈ cols, x.isWildcard = false := fun _ _ h => by cases h; decide
  have h : expandStarExpressions oneColumnCallees () [.unnamedExpr "b", .wildcard, .qualifiedWildcard ["t"]] =
      .ok [.unnamedExpr "b", .unnamedExpr "a", .unnamedExpr "a"] := rfl
  ⟨hgen, h, expandStarExpressions_no_wildcard oneColumnCallees hgen h⟩

/-! ## The alias map -/

def lastAliasIndex (a : String) : List (SelectItem Expr) → Option Nat
  | [] => none
  | x :: xs => ((lastAliasIndex a xs).map (· + 1)).or (if x.alias? = some a then some 0 else none)

theorem lastAliasIndex_eq_none_iff {xs : List (SelectItem Expr)} :
    lastAliasIndex a xs = none ↔ ∀ y ∈ xs, y.alias? ≠ some a := by
  induction xs with
  | nil => simp [lastAliasIndex]
  | cons x xs ih => simp [lastAliasIndex, Option.or_eq_none, ih, and_comm]

theorem lastAliasIndex_eq_some_iff : ∀ {xs : List (SelectItem Expr)} {i : Nat},
    lastAliasIndex a xs = some i ↔
      xs[i]?.bind SelectItem.alias? = some a ∧ ∀ y ∈ xs.drop (i + 1), y.alias? ≠ some a
  | [], _ => by simp [lastAliasIndex]
  | x :: xs, 0 => by
    cases h : lastAliasIndex a xs <;> simp_all [lastAliasIndex, lastAliasIndex_eq_none_iff.symm, and_comm]
  | x :: xs, k + 1 => by
    cases h : lastAliasIndex a xs <;> simp_all [lastAliasIndex, ← lastAliasIndex_eq_some_iff]

theorem collectSelectItems_eq_ok : ∀ {items : List (SelectItem Expr)}, (∀ x ∈ items, x.isWildcard = false) →
    ∀ o m idx, collectSelectItems o m idx items =
      .ok (o ++ items.filterMap SelectItem.expr?, fun a => ((lastAliasIndex a items).map (idx + ·)).or (m a))
  | [], _, o, m, idx => by simp [collectSelectItems, lastAliasIndex]
  | .unnamedExpr e :: items, h, o, m, idx => by
    rw [collectSelectItems, collectSelectItems_eq_ok (fun x hx => h x (.tail _ hx))]
    simp [lastAliasIndex, SelectItem.alias?, SelectItem.expr?, Option.map_map, Function.comp_def, Nat.add_assoc,
      Nat.add_comm 1]
  | .exprWithAlias e name :: items, h, o, m, idx => by
    rw [collectSelectItems, collectSelectItems_eq_ok (fun x hx => h x (.tail _ hx))]
    simp only [SelectItem.expr?, List.filterMap_cons, List.append_assoc, List.singleton_append, Except.ok.injEq,
      Prod.mk.injEq, true_and]
    funext a
    simp only [lastAliasIndex, SelectItem.alias?, Option.some.injEq]
    by_cases ha : a = name
    · subst ha
      cases lastAliasIndex a items <;> simp [Nat.add_assoc, Nat.add_comm 1]
    · cases lastAliasIndex a items <;> simp [Function.update_noteq ha, Ne.symm ha, Nat.add_assoc, Nat.add_comm 1]
  | .wildcard :: _, h, _, _, _ | .qualifiedWildcard _ :: _, h, _, _, _ => nomatch h _ (.head _)

/-- On an expanded list the loop keeps every expression in order and maps each alias to its last item's index. -/
theorem collectSelectItems_aliasMap {items : List (SelectItem Expr)} (h : ∀ x ∈ items, x.isWildcard = false) :
    ∃ m, collectSelectItems [] (fun _ => none) 0 items = .ok (items.filterMap SelectItem.expr?, m) ∧
      ∀ a i, m a = some i ↔
        items[i]?.bind SelectItem.alias? = some a ∧ ∀ y ∈ items.drop (i + 1), y.alias? ≠ some a := by
  refine ⟨_, collectSelectItems_eq_ok h [] _ 0, fun a i => ?_⟩
  simp only [Nat.zero_add, Option.map_id', Option.or_none, lastAliasIndex_eq_some_iff]

theorem collectSelectItems_aliasMap_repeated :
    (∀ x ∈ [SelectItem.exprWithAlias "a" "x", .unnamedExpr "b", .exprWithAlias "c" "x"], x.isWildcard = false) ∧
      ∃ m, collectSelectItems [] (fun _ => none) 0 [.exprWithAlias "a" "x", .unnamedExpr "b", .exprWithAlias "c" "x"] =
        .ok (["a", "b", "c"], m) ∧ ∀ a i, m a = some i ↔
          [SelectItem.exprWithAlias "a" "x", .unnamedExpr "b", .exprWithAlias "c" "x"][i]?.bind SelectItem.alias? = some a ∧
          ∀ y ∈ [SelectItem.exprWithAlias "a" "x", .unnamedExpr "b", .exprWithAlias "c" "x"].drop (i + 1), y.alias? ≠ some a :=
  have h : ∀ x ∈ [SelectItem.exprWithAlias "a" "x", .unnamedExpr "b", .exprWithAlias "c" "x"], x.isWildcard = false := by
    decide
  ⟨h, collectSelectItems_aliasMap h⟩

/-! ## Result names -/

theorem setLast_concat : setLast (names ++ [n]) name = names ++ [name] := by
  cases names with
  | nil => rfl
  | cons x xs =>
    show (x :: xs ++ [n]).dropLast ++ [name] = _
    rw [List.dropLast_concat]

theorem bindSelectItem_names (hc : c.PushesOneName)
    (h : bindSelectItem c s names types item = .ok (e, s', names', types')) :
    ∃ n t, names' = names ++ [n] ∧ types' = types ++ [t] ∧ ∀ a, item.alias? = some a → n = a := by
  match item, h with
  | .unnamedExpr expr, h =>
    obtain ⟨n, t, hn, ht⟩ := hc _ _ _ _ _ h
    exact ⟨n, t, hn, ht, nofun⟩
  | .exprWithAlias expr name, h =>
    obtain ⟨⟨_, _, names₁, types₁⟩, hb, h⟩ := Planner.Binder.except_bind_eq_ok.1 h
    obtain ⟨n, t, rfl, rfl⟩ := hc _ _ _ _ _ hb
    simp only [pure, Except.pure, Except.ok.injEq, Prod.mk.injEq] at h
    obtain ⟨-, -, rfl, rfl⟩ := h
    exact ⟨name, t, setLast_concat, rfl, fun a ha => by simpa [SelectItem.alias?] using ha⟩

theorem bindSelectItems_names (hc : c.PushesOneName) : ∀ {items : List (SelectItem Expr)} {s names types es s' names' types'},
    bindSelectItems c s names types items = .ok (es, s', names', types') →
      ∃ (ns : List String) (ts : List Ty), names' = names ++ ns ∧ types' = types ++ ts ∧ es.length = items.length ∧
        ns.length = items.length ∧ ts.length = items.length ∧
        ∀ (i : Nat) a, items[i]?.bind SelectItem.alias? = some a → ns[i]? = some a
  | [], _, _, _, _, _, _, _, h => by
    simp only [bindSelectItems, Except.ok.injEq, Prod.mk.injEq] at h
    obtain ⟨rfl, -, rfl, rfl⟩ := h
    exact ⟨[], [], by simp, by simp, rfl, rfl, rfl, by simp⟩
  | item :: items, _, _, _, _, _, _, _, h => by
    obtain ⟨⟨e, s₁, names₁, types₁⟩, h₁, h⟩ := Planner.Binder.except_bind_eq_ok.1 h
    obtain ⟨⟨es, s₂, names₂, types₂⟩, h₂, h⟩ := Planner.Binder.except_bind_eq_ok.1 h
    simp only [pure, Except.pure, Except.ok.injEq, Prod.mk.injEq] at h
    obtain ⟨rfl, rfl, rfl, rfl⟩ := h
    obtain ⟨n, t, rfl, rfl, hn⟩ := bindSelectItem_names c hc h₁
    obtain ⟨ns, ts, rfl, rfl, hes, hns, hts, hal⟩ := bindSelectItems_names hc h₂
    refine ⟨n :: ns, t :: ts, by simp, by simp, by simp [hes], by simp [hns], by simp [hts], ?_⟩
    rintro (_ | i) a ha
    · simpa using hn a (by simpa using ha)
    · simpa using hal i a (by simpa using ha)

/-- With one name per bound expression, each item `bind_select_body` expands after binding its table is named. -/
theorem bindSelectBody_names (hc : c.PushesOneName) (h : bindSelectBody c s select = .ok (node, s')) :
    ∃ s₁ newSelectList, c.bindTableRef s select.from = .ok (node.fromTable, s₁) ∧
      expandStarExpressions c s₁ select.projection = .ok newSelectList ∧ newSelectList ≠ [] ∧
      node.selectList.length = newSelectList.length ∧ node.names.length = newSelectList.length ∧
      node.types.length = newSelectList.length ∧
      ∀ (i : Nat) a, newSelectList[i]?.bind SelectItem.alias? = some a → node.names[i]? = some a := by
  simp only [bindSelectBody, Planner.Binder.except_bind_eq_ok] at h
  obtain ⟨⟨fromTable, s₁⟩, hfrom, newSelectList, hexp, h⟩ := h
  cases hE : newSelectList.isEmpty
  · simp only [hE, Bool.false_eq_true, if_false, pure_bind, Planner.Binder.except_bind_eq_ok] at h
    obtain ⟨_, -, h⟩ := h
    have hitems : ∃ s₂ es s₃, bindSelectItems c s₂ [] [] newSelectList = .ok (es, s₃, node.names, node.types) ∧
        node.selectList = es ∧ node.fromTable = fromTable := by
      split at h <;> simp only [pure_bind, Planner.Binder.except_bind_eq_ok] at h
      -- a WHERE clause binds first; drop its result
      on_goal 1 => obtain ⟨_, -, h⟩ := h
      all_goals
        obtain ⟨⟨es, s₃, names, types⟩, hb, h⟩ := h
        simp only [pure, Except.pure, Except.ok.injEq, Prod.mk.injEq] at h
        obtain ⟨rfl, -⟩ := h
        exact ⟨_, _, _, hb, rfl, rfl⟩
    obtain ⟨s₂, es, s₃, hb, hes, hft⟩ := hitems
    obtain ⟨ns, ts, hns, hts, hesl, hnsl, htsl, hal⟩ := bindSelectItems_names c hc hb
    subst hes
    simp only [List.nil_append] at hns hts
    refine ⟨s₁, newSelectList, hft ▸ hfrom, hexp, by simpa using hE, hesl, hns ▸ hnsl, hts ▸ htsl, hns ▸ hal⟩
  · simp [hE, throw, throwThe, MonadExceptOf.throw, Except.bind, bind] at h

theorem bindSelectBody_names_star :
    ∃ (c : Callees Unit String String Unit Unit String) (node : BoundSelectNode Unit Unit String String),
      c.PushesOneName ∧ bindSelectBody c () ⟨[], [.wildcard, .exprWithAlias "b" "total"], none⟩ = .ok (node, ()) ∧
      ∃ s₁ newSelectList, c.bindTableRef () [] = .ok (node.fromTable, s₁) ∧
        expandStarExpressions c s₁ [.wildcard, .exprWithAlias "b" "total"] = .ok newSelectList ∧
        newSelectList ≠ [] ∧ node.selectList.length = newSelectList.length ∧
        node.names.length = newSelectList.length ∧ node.types.length = newSelectList.length ∧
        ∀ (i : Nat) a, newSelectList[i]?.bind SelectItem.alias? = some a → node.names[i]? = some a :=
  have hc : oneColumnCallees.PushesOneName := fun _ e _ _ _ h => ⟨e, (), by cases h; rfl, by cases h; rfl⟩
  have h : bindSelectBody oneColumnCallees () ⟨[], [.wildcard, .exprWithAlias "b" "total"], none⟩ =
      .ok (⟨["a", "total"], [(), ()], ["a", "b"], (), none, some ["a", "b"]⟩, ()) := rfl
  ⟨_, _, hc, h, bindSelectBody_names _ hc h⟩

end Binder

end PlannerV2

end ArrowKV
