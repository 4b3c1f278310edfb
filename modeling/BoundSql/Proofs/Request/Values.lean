import BoundSql.Dialect.Builtin
import BoundSql.Proofs.Form.Values
import BoundSql.Proofs.Request.Tidy

/-!
# Values of requests

`Request.bindings` says which values a request binds and in which order, from the description alone:
the number of rows of a page that stands in front, the values of the assignments, those of the
predicates, and the values of a page at the end; for inserted rows the rows one after the other.
What is left out of a statement binds nothing. Every statement has exactly these values
(`Request.params_eq`): none is lost, repeated, changed or moved.
-/

namespace BoundSql

open Phrase

/-! ### What a description binds -/

/-- What an operator binds of what a column is compared with. -/
def Operator.bindings (o : Operator) : Operand → List Value
  | .single v =>
    match o with
    | .equal | .notEqual | .greater | .less | .greaterEqual | .lessEqual => [v]
    | .contains => v.text?.toList.map fun s => .text ("%" ++ s ++ "%")
    | .startsWith => v.text?.toList.map fun s => .text (s ++ "%")
    | .endsWith => v.text?.toList.map fun s => .text ("%" ++ s)
    | .isIn | .notIn | .isNull | .between | .notBetween => []
  | .list vs =>
    match o with
    | .isIn | .notIn => vs
    | .between | .notBetween =>
      match vs with
      | [low, high] => [low, high]
      | _ => []
    | _ => []

/-- The values of the predicates in order; one that is left out has none. -/
def Where.bindings (w : Where) : List Value :=
  w.flatMap fun p => if p.isSkipped then [] else p.operator.bindings p.operand

/-- The values of an assignment: the value itself, or the key and the result of every branch. -/
def Assignment.values : Assignment → List Value
  | plain _ _ v => [v]
  | cases _ _ bs => bs.flatMap fun b => [b.key, b.result]

/-- The values of the assignments in order; one that is left out has none. -/
def Assignment.bindings (as : List Assignment) : List Value :=
  as.flatMap fun a => if a.isSkipped then [] else a.values

/-- What a window of rows binds before everything else: the number of rows to keep, if it stands in
front of the selected items. -/
def PageStyle.leading (s : PageStyle) (w : Window) : List Value :=
  match s with
  | top => [.nat w.count]
  | limitOffset | limitComma | offsetFetch | rowNumber => []

/-- What a window of rows binds after everything else, in the order of the placeholders. -/
def PageStyle.trailing (s : PageStyle) (w : Window) : List Value :=
  match s with
  | limitOffset => [.nat w.count, .nat w.offset]
  | limitComma | offsetFetch => [.nat w.offset, .nat w.count]
  | rowNumber => [.nat (saturatingAdd w.offset w.count), .nat w.offset]
  | top => []

/-- The values of a query: its conditions between the two parts of its window, if it has one. -/
def Query.bindings (d : Dialect) (q : Query) : List Value :=
  q.limit.elim [] d.paging.leading ++ q.conditions.bindings ++ q.limit.elim [] d.paging.trailing

/-- The values of a request. -/
def Request.bindings (d : Dialect) : Request → List Value
  | rows q | aggregate q => q.bindings d
  | count q => q.conditions.bindings
  | insert x | batchInsert x => x.rows.flatten
  | update m => Assignment.bindings m.assignments ++ m.conditions.bindings
  | delete m => m.conditions.bindings
  | upsert x => x.values

/-! ### Lists of items -/

/-- A list of compiled items has the values of the items, in order. -/
theorem allValues_of_mapM {ε α : Type} {f : α → Except ε Phrase} {g : α → List Value}
    (hg : ∀ a p, f a = .ok p → values p = g a) {as : List α} {ps : List Phrase}
    (h : as.mapM f = .ok ps) : allValues ps = as.flatMap g := by
  have h := mapM_eq_ok.1 h
  induction h with
  | nil => rfl
  | @cons a p as ps hap _ ih =>
    rw [allValues_cons, List.flatMap_cons, hg a p hap, ih]
    exact mapM_eq_ok.2 ‹_›

/-- What is left out of a list may as well bind nothing in it. -/
theorem flatMap_filter_not {α β : Type} (skip : α → Bool) (f : α → List β) (as : List α) :
    (as.filter fun a => !skip a).flatMap f = as.flatMap fun a => if skip a then [] else f a := by
  induction as with
  | nil => rfl
  | cons a as ih => cases h : skip a <;> simp [h, ih]

/-! ### Conditions -/

namespace Predicate

theorem values_test {p : Predicate} {column t : Phrase} (hc : values column = [])
    (h : p.test column = .ok t) : values t = p.operator.bindings p.operand := by
  cases test_eq_ok.1 h with
  | compare hs hv =>
    rw [hv]
    cases ho : p.operator <;> rw [ho] at hs <;> cases hs <;>
      simp [Test.compare, Operator.bindings, hc]
  | member hw =>
    cases ho : p.operator <;> rw [ho] at hw <;> cases hw <;>
      cases p.operand <;> simp [Test.member, Operator.bindings, hc]
  | like hv hs hp =>
    rw [hv]
    cases ho : p.operator <;> rw [ho] at hp <;> cases hp <;>
      simp [Test.like, Operator.bindings, hc, hs]
  | null ho hv ht =>
    rw [ho, hv]
    simp [Test.null, Operator.bindings, hc]
  | range hw hv =>
    rw [hv]
    cases ho : p.operator <;> rw [ho] at hw <;> cases hw <;>
      simp [Test.range, Operator.bindings, hc]

theorem values_phrase {p : Predicate} {t : Phrase} (h : p.phrase = .ok t) :
    values t = p.operator.bindings p.operand := by
  obtain ⟨n, -, h⟩ := bind_eq_ok.1 h
  obtain ⟨u, hu, h⟩ := bind_eq_ok.1 h
  cases pure_eq_ok.1 h
  simpa using values_test (values_ofName n) hu

end Predicate

@[simp] theorem Where.values_assemble (ps : List Phrase) :
    values (assemble ps) = allValues ps := by
  simp [assemble, base]

theorem Where.values_phrase {w : Where} {c : Phrase} (h : w.phrase = .ok c) :
    values c = w.bindings := by
  rw [Where.phrase_eq] at h
  obtain ⟨ps, hps, rfl⟩ := map_eq_ok.1 h
  calc values (assemble ps)
    _ = allValues ps := values_assemble ps
    _ = w.effective.flatMap fun p => p.operator.bindings p.operand :=
      allValues_of_mapM (fun _ _ => Predicate.values_phrase) hps
    _ = w.bindings := flatMap_filter_not _ _ _

/-! ### Assignments -/

namespace Assignment

theorem values_newValue {column : Phrase} (hc : Phrase.values column = []) (mode : ChangeMode)
    (v : Value) : Phrase.values (newValue column mode v) = [v] := by
  unfold newValue
  split <;> simp [hc]

theorem values_phrase {a : Assignment} {p : Phrase} (h : a.phrase = .ok p) :
    Phrase.values p = a.values := by
  cases a with
  | plain f mode v =>
    obtain ⟨n, -, h⟩ := bind_eq_ok.1 h
    cases pure_eq_ok.1 h
    simp [values_newValue (values_ofName n), values]
  | cases f g bs =>
    obtain ⟨n, -, h⟩ := bind_eq_ok.1 h
    obtain ⟨m, -, h⟩ := bind_eq_ok.1 h
    cases pure_eq_ok.1 h
    have hb : allValues (bs.map (branchPhrase (ofName m))) =
        bs.flatMap fun b => [b.key, b.result] := by
      rw [allValues, List.flatMap_map]
      simp [branchPhrase, values_newValue (values_ofName m)]
    rw [List.flatMap_def]
    simp [hb, values]

theorem values_listPhrase {as : List Assignment} {p : Phrase} (h : listPhrase as = .ok p) :
    Phrase.values p = bindings as := by
  rw [listPhrase_eq] at h
  obtain ⟨ps, hps, rfl⟩ := map_eq_ok.1 h
  calc Phrase.values (commas ps)
    _ = allValues ps := values_commas ps
    _ = (effective as).flatMap values := allValues_of_mapM (fun _ _ => values_phrase) hps
    _ = bindings as := flatMap_filter_not _ _ _

end Assignment

/-! ### Queries -/

theorem values_column {s : String} {p : Phrase} (h : column s = .ok p) : values p = [] := by
  obtain ⟨n, -, rfl⟩ := column_eq_ok.1 h
  exact values_ofName n

/-- Compiled items that bind nothing one by one bind nothing together. -/
theorem allValues_eq_nil_of_mapM {ε α : Type} {f : α → Except ε Phrase}
    (hf : ∀ a p, f a = .ok p → values p = []) {as : List α} {ps : List Phrase}
    (h : as.mapM f = .ok ps) : allValues ps = [] := by
  refine allValues_eq_nil_iff.2 fun p hp => ?_
  obtain ⟨a, -, ha⟩ := exists_of_mem_mapM h hp
  exact hf a p ha

theorem values_selectItem {s : String} {t : Token} (h : selectItem s = .ok t) :
    values [t] = [] := by
  unfold selectItem at h
  split_ifs at h <;> obtain ⟨x, -, rfl⟩ := map_eq_ok.1 h <;> rfl

theorem Aggregate.values_phrase {a : Aggregate} {p : Phrase} (h : a.phrase = .ok p) :
    values p = [] := by
  obtain ⟨f, -, h⟩ := bind_eq_ok.1 h
  obtain ⟨x, hx, h⟩ := bind_eq_ok.1 h
  obtain ⟨n, hn, h⟩ := bind_eq_ok.1 h
  cases pure_eq_ok.1 h
  have hx : values x = [] := by
    unfold argument at hx
    split_ifs at hx
    · cases hx
      rfl
    · exact values_column hx
  have hn : values n = [] := by
    unfold aliasName at hn
    split_ifs at hn
    exact values_column hn
  simp [hx, hn]

/-- Where the values of a page go in a statement that begins with the first word of a query. -/
theorem Dialect.values_apply {d : Dialect} {w : Window} {x : Page} (h : d.page w = .ok x)
    (rest : Phrase) : values (x.apply (lit "SELECT " ++ rest)) =
      d.paging.leading w ++ values rest ++ d.paging.trailing w := by
  unfold page at h
  cases hp : d.paging <;> rw [hp] at h <;> dsimp only at h
  case top =>
    split_ifs at h
    cases h
    rw [Query.apply_leading]
    simp [PageStyle.leading, PageStyle.trailing]
  all_goals
    cases h
    simp [Page.apply, PageStyle.leading, PageStyle.trailing]

namespace Query

variable {d : Dialect} {q : Query} {p : Phrase}

theorem values_source (h : q.source = .ok p) : values p = [] := by
  obtain ⟨t, ht, h⟩ := bind_eq_ok.1 h
  have ht := values_column ht
  cases ha : q.tableAlias with
  | none =>
    rw [ha] at h
    cases pure_eq_ok.1 h
    exact ht
  | some a =>
    rw [ha] at h
    obtain ⟨n, hn, h⟩ := bind_eq_ok.1 h
    cases pure_eq_ok.1 h
    simp [ht, values_column hn]

theorem values_orderItem {o : String × Direction} (h : orderItem o = .ok p) : values p = [] := by
  obtain ⟨c, hc, rfl⟩ := map_eq_ok.1 h
  simp [values_column hc]

theorem values_clause (words : String) {items : List Phrase} (h : allValues items = []) :
    values (clause words items) = [] := by
  unfold clause
  split_ifs <;> simp [h]

theorem values_projection (h : q.projection = .ok p) : values p = [] := by
  obtain ⟨items, hi, h⟩ := bind_eq_ok.1 h
  split_ifs at h
  · cases ha : q.tableAlias with
    | none =>
      rw [ha] at h
      cases pure_eq_ok.1 h
      rfl
    | some a =>
      rw [ha] at h
      obtain ⟨n, hn, h⟩ := bind_eq_ok.1 h
      cases pure_eq_ok.1 h
      simp [values_column hn]
  · cases pure_eq_ok.1 h
    rw [values_commas, allValues_eq_nil_iff]
    refine List.forall_mem_map.2 fun t ht => ?_
    obtain ⟨s, -, hs⟩ := exists_of_mem_mapM hi ht
    exact values_selectItem hs

theorem values_aggregateProjection (h : q.aggregateProjection = .ok p) : values p = [] := by
  obtain ⟨-, h⟩ := ite_eq_ok.1 h
  obtain ⟨gs, hg, h⟩ := bind_eq_ok.1 h
  obtain ⟨as, ha, h⟩ := bind_eq_ok.1 h
  cases pure_eq_ok.1 h
  have hg := allValues_eq_nil_of_mapM (fun _ _ => values_column) hg
  have ha := allValues_eq_nil_of_mapM (fun _ _ => Aggregate.values_phrase) ha
  simp [hg, ha]

theorem values_addPage {page : Option Page} (h : q.page d = .ok page) (ordered : Bool)
    (rest : Phrase) : values (addPage d ordered page (lit "SELECT " ++ rest)) =
      q.limit.elim [] d.paging.leading ++ values rest ++ q.limit.elim [] d.paging.trailing := by
  unfold Query.page at h
  cases hl : q.limit with
  | none =>
    rw [hl] at h
    cases h
    simp [addPage]
  | some w =>
    rw [hl] at h
    obtain ⟨x, hx, rfl⟩ := map_eq_ok.1 h
    cases x with
    | suffix y =>
      unfold addPage
      dsimp only
      split_ifs
      -- The order that the page asks for binds nothing.
      · rw [List.append_assoc, d.values_apply hx, values_append, values_lit, List.append_nil]
        rfl
      · exact d.values_apply hx rest
    | _ => exact d.values_apply hx rest

theorem values_assemble {items : Phrase} (hi : values items = [])
    (h : q.assemble d items = .ok p) : values p = q.bindings d := by
  obtain ⟨source, page, condition, gs, os, hs, hp, hc, hg, ho, rfl⟩ := assemble_eq_ok h
  have hs := values_source hs
  have hc := Where.values_phrase hc
  have hg := values_clause " GROUP BY " (allValues_eq_nil_of_mapM (fun _ _ => values_column) hg)
  have ho := values_clause " ORDER BY "
    (allValues_eq_nil_of_mapM (fun _ _ => values_orderItem) ho)
  rw [values_addPage hp]
  simp [bindings, hi, hs, hc, hg, ho]

theorem values_rowsPhrase (h : q.rowsPhrase d = .ok p) : values p = q.bindings d := by
  obtain ⟨items, hi, h⟩ := bind_eq_ok.1 h
  exact values_assemble (values_projection hi) h

theorem values_aggregatePhrase (h : q.aggregatePhrase d = .ok p) : values p = q.bindings d := by
  obtain ⟨items, hi, h⟩ := bind_eq_ok.1 h
  exact values_assemble (values_aggregateProjection hi) h

theorem values_countPhrase (h : q.countPhrase = .ok p) : values p = q.conditions.bindings := by
  obtain ⟨source, hs, h⟩ := bind_eq_ok.1 h
  obtain ⟨condition, hc, h⟩ := bind_eq_ok.1 h
  obtain ⟨gs, hg, h⟩ := bind_eq_ok.1 h
  have hs := values_source hs
  have hc := Where.values_phrase hc
  have hg := allValues_eq_nil_of_mapM (fun _ _ => values_column) hg
  split_ifs at h <;> cases pure_eq_ok.1 h
  · simp [hs, hc]
  · simp [hs, hc, hg]

end Query

/-! ### Changes to rows -/

namespace Insertion

variable {d : Dialect} {x : Insertion} {p : Phrase}

theorem flatMap_rowPhrases (rs : List (List Value)) :
    (rowPhrases rs).flatMap allValues = rs.flatten := by
  unfold rowPhrases
  rw [List.flatMap_map]
  simp [List.flatMap_def]

theorem values_singlePhrase (h : x.singlePhrase d = .ok p) : values p = x.rows.flatten := by
  obtain ⟨n, -, h⟩ := bind_eq_ok.1 h
  obtain ⟨-, h⟩ := ite_eq_ok.1 h
  obtain ⟨-, -, h⟩ := bind_eq_ok.1 h
  cases pure_eq_ok.1 h
  rw [← flatMap_rowPhrases]
  exact Form.values_insert (values_ofName _) (allValues_ofName _) _ _ (allValues_ofName _)

theorem values_batchPhrase (h : x.batchPhrase d = .ok p) : values p = x.rows.flatten := by
  obtain ⟨n, -, h⟩ := bind_eq_ok.1 h
  obtain ⟨-, h⟩ := ite_eq_ok.1 h
  obtain ⟨-, -, h⟩ := bind_eq_ok.1 h
  cases pure_eq_ok.1 h
  rw [← flatMap_rowPhrases]
  exact Form.values_batchInsert (values_ofName _) (allValues_ofName _) _ _ _ (allValues_ofName _)

end Insertion

namespace Modification

variable {m : Modification} {p : Phrase}

theorem values_tablePhrase (h : m.tablePhrase = .ok p) : values p = [] := by
  obtain ⟨n, -, rfl⟩ := map_eq_ok.1 h
  exact values_ofName n

theorem values_updatePhrase (h : m.updatePhrase = .ok p) :
    values p = Assignment.bindings m.assignments ++ m.conditions.bindings := by
  obtain ⟨table, ht, h⟩ := bind_eq_ok.1 h
  obtain ⟨as, ha, h⟩ := bind_eq_ok.1 h
  obtain ⟨-, h⟩ := ite_eq_ok.1 h
  obtain ⟨condition, hc, h⟩ := bind_eq_ok.1 h
  cases pure_eq_ok.1 h
  have ht := values_tablePhrase ht
  have ha := Assignment.values_listPhrase ha
  have hc := Where.values_phrase hc
  simp [Form.update, ht, ha, hc]

theorem values_deletePhrase (h : m.deletePhrase = .ok p) :
    values p = m.conditions.bindings := by
  obtain ⟨table, ht, h⟩ := bind_eq_ok.1 h
  obtain ⟨condition, hc, h⟩ := bind_eq_ok.1 h
  cases pure_eq_ok.1 h
  have ht := values_tablePhrase ht
  have hc := Where.values_phrase hc
  simp [Form.delete, ht, hc]

end Modification

namespace Upsertion

variable {d : Dialect} {x : Upsertion} {p : Phrase}

/-- A row that has been accepted has a value for every column. -/
theorem length_eq_of_check {u : Unit} (h : x.check = .ok u) :
    x.columns.length = x.values.length := by
  obtain ⟨-, h⟩ := ite_eq_ok.1 h
  obtain ⟨hl, -⟩ := ite_eq_ok.1 h
  exact not_not.1 hl

theorem values_phrase (h : x.phrase d = .ok p) : Phrase.values p = x.values := by
  obtain ⟨u, hx, h⟩ := bind_eq_ok.1 h
  obtain ⟨table, -, h⟩ := bind_eq_ok.1 h
  obtain ⟨columns, hc, h⟩ := bind_eq_ok.1 h
  obtain ⟨keys, -, h⟩ := bind_eq_ok.1 h
  obtain ⟨updates, -, h⟩ := bind_eq_ok.1 h
  dsimp only at h
  split at h
  case h_2 => cases h
  case h_1 q hq =>
    cases pure_eq_ok.1 h
    obtain ⟨form, -, hq⟩ := Option.bind_eq_some_iff.1 hq
    have hl : x.values.length = columns.length :=
      (length_eq_of_check hx).symm.trans (mapM_eq_ok.1 hc).length_eq
    have hv := Form.values_upsert ⟨values_ofName _, allValues_ofName _, allValues_ofName _,
      allValues_ofName _⟩ (by simpa using hl) hq
    simpa using hv

end Upsertion

/-! ### Requests -/

namespace Request

theorem values_phrase {d : Dialect} {r : Request} {p : Phrase} (h : r.phrase d = .ok p) :
    values p = r.bindings d := by
  cases r with
  | rows q => exact Query.values_rowsPhrase h
  | count q => exact Query.values_countPhrase h
  | aggregate q => exact Query.values_aggregatePhrase h
  | insert x => exact Insertion.values_singlePhrase h
  | batchInsert x => exact Insertion.values_batchPhrase h
  | update m => exact Modification.values_updatePhrase h
  | delete m => exact Modification.values_deletePhrase h
  | upsert x => exact Upsertion.values_phrase h

/-- **The values of a statement are those its description binds**, in any dialect, guarded or not:
the number of rows of a page in front, the assignments, the predicates, the rest of the page. -/
theorem params_eq {d : Dialect} {verify : Bool} {r : Request} {st : Statement}
    (h : r.statement d verify = .ok st ∨ r.guarded d verify = .ok st) :
    st.params = r.bindings d := by
  obtain ⟨p, hp, rfl⟩ := exists_rendered h
  exact values_phrase hp

/-- A page in front of the rows, with a list, a pattern, a predicate that is left out, a test for
null, a range, and a single value where a list belongs. -/
theorem params_page :
    let r : Request := .rows
      { table := "users"
        limit := some ⟨0, 10⟩
        conditions := [⟨"id", .isIn, .list [.int 3, .int 1], .and⟩,
          ⟨"name", .startsWith, .single (.text "an"), .and⟩,
          ⟨"note", .equal, .single (.text ""), .or⟩,
          ⟨"left", .isNull, .single (.text "not null"), .and⟩,
          ⟨"age", .between, .list [.int 18, .float ⟨0⟩], .or⟩,
          ⟨"kind", .notIn, .single (.int 7), .and⟩] }
    let st : Statement :=
      ⟨"SELECT TOP (@p1) * FROM [users] WHERE 1=1 AND [id] IN (@p2, @p3) AND [name] LIKE @p4 " ++
        "AND [left] IS NOT NULL OR [age] BETWEEN @p5 AND @p6 AND [kind] NOT IN ()",
        [.nat 10, .int 3, .int 1, .text "an%", .int 18, .float ⟨0⟩]⟩
    r.statement .sqlServerLegacy true = .ok st ∧ st.params = r.bindings .sqlServerLegacy := by
  intro r st
  have hr : r.statement .sqlServerLegacy true = .ok st := by decide +kernel
  exact ⟨hr, params_eq (Or.inl hr)⟩

end Request

end BoundSql
