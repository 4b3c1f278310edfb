import BoundSql.Bindings
import BoundSql.Composer
import BoundSql.Proofs.Phrase.Spelling
import BoundSql.Proofs.Request.Values
import BoundSql.Proofs.Statement.Paging

/-!
# Pages and their totals

The two statements of a page speak of the same rows. The rows are read, and counted, from one table
under one condition and one grouping: what stands between the selected items and the order of the
rows is, but for the numbers of its placeholders, what the total counts over (`Query.SharesBody`).
The page succeeds exactly if the rows do, and the total depends on nothing else in the query
(`Composer.page_shares`).
-/

namespace BoundSql

open Phrase

/-! ### The texts of a query -/

namespace Query

/-- The table, and its alias if it has one. -/
def sourceText (d : Dialect) (q : Query) : String :=
  d.quotes.quote q.table ++ q.tableAlias.elim "" fun a => " " ++ d.quotes.quote a

/-- From the table through WHERE and GROUP BY, with the given text for the condition. -/
def bodyText (d : Dialect) (q : Query) (condition : String) : String :=
  q.sourceText d ++ " WHERE " ++ condition ++
    if q.groupBy.isEmpty then "" else " GROUP BY " ++ d.listText q.groupBy

/-- The number of the rows that a body stands for, or of its groups if it has any. -/
def totalText (d : Dialect) (q : Query) (body : String) : String :=
  if q.groupBy.isEmpty then "SELECT COUNT(*) FROM " ++ body
  else "SELECT COUNT(*) FROM (SELECT " ++ d.listText q.groupBy ++ " FROM " ++ body ++ ") count_"

/-- The selected items, or else everything. -/
def projectionText (d : Dialect) (q : Query) : String :=
  if q.select.isEmpty then q.tableAlias.elim "*" fun a => d.quotes.quote a ++ ".*"
  else d.listText q.select

/-- The order of the rows. -/
def orderText (d : Dialect) (q : Query) : String :=
  if q.orderBy.isEmpty then ""
  else " ORDER BY " ++
    ", ".intercalate (q.orderBy.map fun o => d.quotes.quote o.1 ++ " " ++ o.2.text)

/-- What stands before the selected items. -/
def front (d : Dialect) : Option Page → String
  | none | some (.suffix _) => "SELECT "
  | some (.leading p) => "SELECT " ++ p.render d 1 ++ " "
  | some (.wrap p _) => p.render d 1 ++ "SELECT "

/-- What stands before the table in the statement for the rows. -/
def opening (d : Dialect) (q : Query) : Option Page → String
  | none | some (.suffix _) => "SELECT " ++ q.projectionText d ++ " FROM "
  | some (.leading p) => "SELECT " ++ p.render d 1 ++ " " ++ q.projectionText d ++ " FROM "
  | some (.wrap p _) => p.render d 1 ++ "SELECT " ++ q.projectionText d ++ " FROM "

/-- What follows the groups in the statement for the rows; `i` is the number of the next value. -/
def closing (d : Dialect) (q : Query) (i : Nat) : Option Page → String
  | none | some (.leading _) => q.orderText d
  | some (.suffix p) =>
    q.orderText d ++
      (if q.orderBy.isEmpty && d.pageNeedsOrder then " ORDER BY (SELECT NULL)" else "") ++ " " ++
      p.render d i
  | some (.wrap _ c) => q.orderText d ++ c.render d i

/-- The statements for the rows and for their number say and bind the same from the table through
WHERE and GROUP BY; what a page puts in front moves the numbers of the placeholders up. -/
structure SharesBody (d : Dialect) (q : Query) (rows total : Statement) : Prop where
  total_params : total.params = q.conditions.bindings
  rows_params : rows.params =
    q.limit.elim [] d.paging.leading ++ total.params ++ q.limit.elim [] d.paging.trailing
  sql : ∃ condition page,
    (Bindings.bindWhere ⟨d, []⟩ q.conditions).1 = .ok condition ∧ q.page d = .ok page ∧
      total.sql = q.totalText d (q.bodyText d condition) ∧
      rows.sql = q.opening d page ++
        d.renumber (· + (q.limit.elim [] d.paging.leading).length) (q.bodyText d condition) ++
        q.closing d (total.params.length + 1) page

end Query

/-- A page that does not stand in front binds nothing there. -/
theorem Dialect.leading_eq_nil {d : Dialect} {w : Window} {x : Page} (h : d.page w = .ok x)
    (hx : x.isLeading = false) : d.paging.leading w = [] := by
  unfold page at h
  cases hp : d.paging with
  | top =>
    rw [hp] at h
    dsimp only at h
    split_ifs at h
    cases h
    cases hx
  | _ => rfl

/-! ### What a query says -/

namespace Query

variable {d : Dialect} {q : Query}

theorem spells_source {p : Phrase} (h : q.source = .ok p) : Spells d p (q.sourceText d) := by
  obtain ⟨t, ht, h⟩ := bind_eq_ok.1 h
  have ht : Spells d t _ := spells_column ht
  unfold sourceText
  cases ha : q.tableAlias with
  | none =>
    rw [ha] at h
    cases pure_eq_ok.1 h
    simpa using ht
  | some a =>
    rw [ha] at h
    obtain ⟨n, hn, h⟩ := bind_eq_ok.1 h
    cases pure_eq_ok.1 h
    rw [List.append_assoc]
    exact ht.append ((spells_lit " ").append (spells_column hn))

/-- A selected expression stays as it is, as it would between quotes. -/
theorem spells_selectItem {s : String} {t : Token} (h : selectItem s = .ok t) :
    Spells d [t] (d.quotes.quote s) := by
  unfold selectItem at h
  split_ifs at h with hp
  · obtain ⟨f, hf, rfl⟩ := map_eq_ok.1 h
    obtain rfl := Fragment.check_eq_ok_iff.1 hf
    refine ⟨rfl, fun i => ?_⟩
    simp [renderFrom, Quotes.quoteChars, hp]
  · obtain ⟨n, hn, rfl⟩ := map_eq_ok.1 h
    obtain rfl := Name.check_eq_ok_iff.1 hn
    exact ⟨rfl, fun i => by simp [renderFrom]⟩

theorem spells_projection {p : Phrase} (h : q.projection = .ok p) :
    Spells d p (q.projectionText d) := by
  obtain ⟨items, hi, h⟩ := bind_eq_ok.1 h
  unfold projectionText
  rw [isEmpty_eq_of_forall₂ (mapM_eq_ok.1 hi)]
  split_ifs at h ⊢ with he
  · cases ha : q.tableAlias with
    | none =>
      rw [ha] at h
      cases pure_eq_ok.1 h
      exact spells_lit "*"
    | some a =>
      rw [ha] at h
      obtain ⟨n, hn, h⟩ := bind_eq_ok.1 h
      cases pure_eq_ok.1 h
      exact (spells_column hn).append (spells_lit ".*")
  · cases pure_eq_ok.1 h
    refine spells_commas (List.forall₂_map_right_iff.2 ((mapM_eq_ok.1 hi).imp fun s t hs => ?_))
    exact spells_selectItem hs

/-- A clause for compiled items. -/
theorem spells_clause (words : String) {α : Type} {f : α → Except Error Phrase} {text : α → String}
    (hf : ∀ a p, f a = .ok p → Spells d p (text a)) {as : List α} {ps : List Phrase}
    (h : as.mapM f = .ok ps) :
    Spells d (clause words ps)
      (if as.isEmpty then "" else words ++ ", ".intercalate (as.map text)) := by
  unfold clause
  rw [isEmpty_eq_of_forall₂ (mapM_eq_ok.1 h)]
  split_ifs
  · exact spells_nil
  · exact (spells_lit words).append (spells_commas_of_mapM hf h)

theorem spells_orderItem {o : String × Direction} {p : Phrase} (h : orderItem o = .ok p) :
    Spells d p (d.quotes.quote o.1 ++ " " ++ o.2.text) := by
  obtain ⟨c, hc, rfl⟩ := map_eq_ok.1 h
  exact ((spells_column hc).append (spells_lit " ")).append (spells_lit o.2.text)

/-! ### The body of a query -/

/-- From the table through WHERE and GROUP BY. -/
def body (source condition : Phrase) (gs : List Phrase) : Phrase :=
  source ++ (lit " WHERE " ++ (condition ++ clause " GROUP BY " gs))

/-- What the statement for the number of rows is made of. -/
theorem countPhrase_eq {source condition : Phrase} {gs : List Phrase} (hs : q.source = .ok source)
    (hc : q.conditions.phrase = .ok condition) (hg : q.groups = .ok gs) :
    q.countPhrase = .ok (if gs.isEmpty then lit "SELECT COUNT(*) FROM " ++ body source condition gs
      else lit "SELECT COUNT(*) FROM (SELECT " ++ (commas gs ++ (lit " FROM " ++
        (body source condition gs ++ lit ") count_")))) := by
  unfold countPhrase
  rw [hs, hc, hg]
  cases gs with
  | nil => simp [body, clause, bind, Except.bind, pure, Except.pure]
  | cons g gs => simp [body, clause, bind, Except.bind, pure, Except.pure]

variable {source condition : Phrase} {gs : List Phrase}

theorem neat_body (hs : q.source = .ok source) (hc : q.conditions.phrase = .ok condition)
    (hg : q.groups = .ok gs) : Neat (body source condition gs) := by
  obtain ⟨hgroup, hsafe⟩ := tidy_clause " GROUP BY " (by decide) (by simp +decide [lit])
    (by simp +decide [lit]) (tidy_columns hg)
  have hcond := (Where.tidy_phrase hc).append hgroup (Or.inr hsafe)
  have hwhere := (tidy_lit (by decide)).lit_append (s := " WHERE ") (by simp +decide [lit]) hcond
  exact ((tidy_source hs).append hwhere (Or.inr (by simp +decide [lit]))).neat

theorem values_body (hs : q.source = .ok source) (hg : q.groups = .ok gs) :
    values (body source condition gs) = values condition := by
  have hgroup := values_clause " GROUP BY " (allValues_eq_nil_of_mapM (fun _ _ => values_column) hg)
  simp [body, values_source hs, hgroup]

theorem renderFrom_body (hs : q.source = .ok source) (hg : q.groups = .ok gs) (i : Nat) :
    renderFrom d i (body source condition gs) =
      (q.bodyText d (condition.render d i)).toList := by
  have hsource := spells_source (d := d) hs
  have hgroup := spells_clause (d := d) " GROUP BY " (fun _ _ => spells_column) hg
  simp [body, bodyText, Dialect.listText, renderFrom_append, hsource.1, hsource.2, hgroup.2]

/-- The statement for the number of rows counts over the body. -/
theorem render_countPhrase (hs : q.source = .ok source) (hg : q.groups = .ok gs) :
    render d 1 (if gs.isEmpty then lit "SELECT COUNT(*) FROM " ++ body source condition gs
      else lit "SELECT COUNT(*) FROM (SELECT " ++ (commas gs ++ (lit " FROM " ++
        (body source condition gs ++ lit ") count_")))) =
      q.totalText d (q.bodyText d (condition.render d 1)) := by
  have hbody : ∀ i, renderFrom d i (body source condition gs) = _ := renderFrom_body hs hg
  have hgroups := spells_commas_of_mapM (fun _ _ => spells_column (d := d)) hg
  apply String.toList_inj.1
  unfold totalText
  rw [isEmpty_eq_of_forall₂ (mapM_eq_ok.1 hg)]
  split_ifs
  · simp [renderFrom_append, hbody]
  · simp [renderFrom_append, hbody, hgroups.1, hgroups.2, Dialect.listText]

theorem opening_eq (page : Option Page) :
    q.opening d page = front d page ++ q.projectionText d ++ " FROM " := by
  obtain _ | (_ | _ | _) := page <;> rfl

/-- A statement has the body between its items and the order, numbered on from what the page puts in
front. -/
theorem render_addPage {page : Option Page} {items b order : Phrase} {text : String}
    (hp : q.page d = .ok page) (hi : Spells d items text) (ho : Spells d order (q.orderText d)) :
    render d 1 (addPage d (!q.orderBy.isEmpty) page
        (lit "SELECT " ++ (items ++ (lit " FROM " ++ (b ++ order))))) =
      front d page ++ text ++ " FROM " ++
        render d (1 + (q.limit.elim [] d.paging.leading).length) b ++
        q.closing d ((values b).length + 1) page := by
  apply String.toList_inj.1
  unfold Query.page at hp
  cases hl : q.limit with
  | none =>
    rw [hl] at hp
    cases hp
    simp [addPage, front, closing, renderFrom_append, hi.1, hi.2, ho.2]
  | some w =>
    rw [hl] at hp
    obtain ⟨x, hx, rfl⟩ := map_eq_ok.1 hp
    rcases d.page_cases hx with ⟨y, rfl⟩ | ⟨s, y, rfl⟩ | ⟨htop, rfl⟩
    · rw [Option.elim_some, d.leading_eq_nil hx rfl]
      cases he : (q.orderBy.isEmpty && d.pageNeedsOrder) <;>
        simp [addPage, he, Page.apply, front, closing, renderFrom_append, hi.1, hi.2, ho.1, ho.2,
          Nat.add_comm]
    · rw [Option.elim_some, d.leading_eq_nil hx rfl]
      simp [addPage, Page.apply, front, closing, renderFrom_append, hi.1, hi.2, ho.1, ho.2,
        Nat.add_comm]
    · simp [addPage, front, closing, renderFrom_append, hi.1, hi.2, ho.2, apply_leading, htop,
        PageStyle.leading]

theorem bindWhere_fst {w : Where} (h : w.phrase = .ok condition) (vs : List Value) :
    (Bindings.bindWhere ⟨d, vs⟩ w).1 = .ok (condition.render d (vs.length + 1)) := by
  change w.phrase.map _ = _
  rw [h]
  rfl

/-- The rows can be counted if they can be read. -/
theorem exists_countPhrase {p : Phrase} (h : q.rowsPhrase d = .ok p) :
    ∃ t, q.countPhrase = .ok t := by
  obtain ⟨items, -, h⟩ := bind_eq_ok.1 h
  obtain ⟨_, _, _, _, _, hs, -, hc, hg, -⟩ := assemble_eq_ok h
  exact ⟨_, countPhrase_eq hs hc hg⟩

theorem sharesBody (hd : d.IsBuiltin) {p t : Phrase} (hp : q.rowsPhrase d = .ok p)
    (ht : q.countPhrase = .ok t) :
    q.SharesBody d ⟨p.render d 1, p.values⟩ ⟨t.render d 1, t.values⟩ := by
  have hcount := values_countPhrase ht
  refine ⟨hcount, ?_, ?_⟩
  · rw [hcount, values_rowsPhrase hp]
    rfl
  · obtain ⟨items, hi, hp⟩ := bind_eq_ok.1 hp
    obtain ⟨source, page, condition, gs, os, hs, hpage, hc, hg, ho, hp⟩ := assemble_eq_ok hp
    cases ht.symm.trans (countPhrase_eq hs hc hg)
    refine ⟨condition.render d 1, page, bindWhere_fst hc [], hpage, render_countPhrase hs hg, ?_⟩
    have hbody : (body source condition gs).render d 1 = q.bodyText d (condition.render d 1) :=
      String.toList_inj.1 (by simp [renderFrom_body hs hg])
    have horder : Spells d (clause " ORDER BY " os) (q.orderText d) :=
      spells_clause " ORDER BY " (fun _ _ => spells_orderItem) ho
    have hp : p = addPage d (!q.orderBy.isEmpty) page (lit "SELECT " ++ (items ++ (lit " FROM " ++
        (body source condition gs ++ clause " ORDER BY " os)))) := by
      simpa only [body, List.append_assoc] using hp
    rw [hp, render_addPage hpage (spells_projection hi) horder, opening_eq, ← hbody,
      renumber_render hd.quotes_mem (neat_body hs hc hg), values_body hs hg, hcount,
      Where.values_phrase hc]

end Query

namespace Composer

variable {c : Composer}

/-- A page fails with the rows, or else consists of the phrases of the rows and of their number. -/
theorem page_cases (hd : c.dialect.IsBuiltin) (q : Query) :
    (∃ e, c.build (.rows q) = .error e ∧ c.page q = .error e) ∨
      ∃ p t, q.rowsPhrase c.dialect = .ok p ∧ q.countPhrase = .ok t ∧
        c.build (.rows q) = .ok ⟨p.render c.dialect 1, p.values⟩ ∧
        c.page q = .ok (⟨p.render c.dialect 1, p.values⟩, ⟨t.render c.dialect 1, t.values⟩) := by
  have hrows : c.build (.rows q) = (q.rowsPhrase c.dialect).map _ :=
    Request.statement_eq hd (.rows q) c.verify
  have hcount : c.build (.count q) = q.countPhrase.map _ :=
    Request.statement_eq hd (.count q) c.verify
  unfold page
  rw [hrows, hcount]
  cases hp : q.rowsPhrase c.dialect with
  | error e => exact Or.inl ⟨e, rfl, rfl⟩
  | ok p =>
    obtain ⟨t, ht⟩ := Query.exists_countPhrase hp
    rw [ht]
    exact Or.inr ⟨p, t, rfl, rfl, rfl, rfl⟩

/-- **A page and its total are about the same rows.** Both statements of a page are given exactly if
the rows are, and there is no other error; they share what stands from the table through GROUP BY;
and the total is the same whatever is selected, in whatever order, window and aggregates. -/
theorem page_shares (hd : c.dialect.IsBuiltin) (q : Query) :
    (∀ e, c.page q = .error e ↔ c.build (.rows q) = .error e) ∧
    (∀ rows, c.build (.rows q) = .ok rows ↔ ∃ total, c.page q = .ok (rows, total)) ∧
    ∀ rows total, c.page q = .ok (rows, total) →
      q.SharesBody c.dialect rows total ∧
      ∀ select orderBy limit aggregates rows' total',
        c.page { q with select := select, orderBy := orderBy, limit := limit,
                        aggregates := aggregates } = .ok (rows', total') →
        total' = total := by
  obtain ⟨e, hb, hpage⟩ | ⟨p, t, hp, ht, hb, hpage⟩ := page_cases hd q
  · simp [hb, hpage]
  · refine ⟨by simp [hb, hpage], by simp [hb, hpage], fun rows total h => ?_⟩
    cases hpage.symm.trans h
    refine ⟨Query.sharesBody hd hp ht, fun s o l as rows' total' h' => ?_⟩
    obtain ⟨_, -, h₁⟩ | ⟨_, t', -, ht', -, h₁⟩ := page_cases hd
        { q with select := s, orderBy := o, limit := l, aggregates := as }
    · cases h₁.symm.trans h'
    · cases h₁.symm.trans h'
      -- The statement for the number reads none of what has changed.
      cases ht.symm.trans ht'
      rfl

/-- The first cities in SQL Server before 2012, in a page with a limit and in one without. -/
theorem page_shares_groups :
    let c : Composer := { dialect := .sqlServerLegacy }
    let q : Query :=
      { table := "orders"
        tableAlias := some "o"
        select := ["city", "COUNT(id)"]
        conditions := [⟨"age", .between, .list [.int 18, .int 30], .and⟩,
          ⟨"note", .equal, .single (.text ""), .or⟩]
        groupBy := ["city"]
        orderBy := [("city", .desc)]
        limit := some ⟨0, 5⟩ }
    let rows : Statement :=
      ⟨"SELECT TOP (@p1) [city], COUNT(id) FROM [orders] [o] WHERE 1=1 AND " ++
        "[age] BETWEEN @p2 AND @p3 GROUP BY [city] ORDER BY [city] DESC",
        [.nat 5, .int 18, .int 30]⟩
    let all : Statement :=
      ⟨"SELECT [o].* FROM [orders] [o] WHERE 1=1 AND [age] BETWEEN @p1 AND @p2 GROUP BY [city]",
        [.int 18, .int 30]⟩
    let total : Statement :=
      ⟨"SELECT COUNT(*) FROM (SELECT [city] FROM [orders] [o] WHERE 1=1 AND " ++
        "[age] BETWEEN @p1 AND @p2 GROUP BY [city]) count_", [.int 18, .int 30]⟩
    c.dialect.IsBuiltin ∧ c.page q = .ok (rows, total) ∧ c.build (.rows q) = .ok rows ∧
      q.SharesBody c.dialect rows total ∧
      ∃ t, c.page { q with select := [], orderBy := [], limit := none } = .ok (all, t) ∧
        t = total := by
  intro c q rows all total
  have hpage : c.page q = .ok (rows, total) := by decide +kernel
  have hpage' : c.page { q with select := [], orderBy := [], limit := none } =
      .ok (all, total) := by decide +kernel
  obtain ⟨-, hrows, hshares⟩ := page_shares (c := c) .sqlServerLegacy q
  obtain ⟨hbody, htotal⟩ := hshares rows total hpage
  exact ⟨.sqlServerLegacy, hpage, (hrows rows).2 ⟨total, hpage⟩, hbody,
    ⟨total, hpage', htotal [] [] none [] all total hpage'⟩⟩

end Composer

end BoundSql
