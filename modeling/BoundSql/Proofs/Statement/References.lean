import BoundSql.Proofs.Name.Segments
import BoundSql.Proofs.Statement.Aggregates

/-!
# Columns and aliases of queries

The statement for a query names its table, perhaps with an alias, and a statement for aggregates
applies functions to columns and gives each result an alias (`Query.Says`). All of these are names,
and names may have dots and stars in them, which quoting leaves outside quotes.

Only a count may be applied to the star. The check of this compares the field with the star, so it
misses a field that has the star as one of its segments: an aggregate other than a count is applied
to a column exactly if no segment of its field is the star (`Query.isReference_argument_iff`), and
otherwise to all columns of a table (`Query.not_isReference_argument`).

The alias of an aggregate is refused if it has a dot or a star. The alias of the table is not, so it
is a single identifier exactly if it has no dot and is not the star (`Query.isQuoted_alias_iff`),
and otherwise it is none (`Query.not_isQuoted_alias`).
-/

namespace BoundSql

open Phrase

variable {d : Dialect} {q : Query} {verify : Bool} {st : Statement}

/-! ### Texts of queries -/

/-- What the statement for a query says, in each of the three kinds of requests for it. -/
inductive Query.Says (d : Dialect) (q : Query) : Request → String → Prop
  | rows {page : Option Page} {condition : String} (hp : q.page d = .ok page)
    (hc : (Bindings.bindWhere ⟨d, q.limit.elim [] d.paging.leading⟩ q.conditions).1 =
      .ok condition) :
    Says d q (.rows q) (q.readingText d page condition (q.projectionText d))
  | count {condition : String} (hc : (Bindings.bindWhere ⟨d, []⟩ q.conditions).1 = .ok condition) :
    Says d q (.count q) (q.totalText d (q.bodyText d condition))
  | aggregate {page : Option Page} {condition : String} (hp : q.page d = .ok page)
    (hc : (Bindings.bindWhere ⟨d, q.limit.elim [] d.paging.leading⟩ q.conditions).1 =
      .ok condition) :
    Says d q (.aggregate q) (q.readingText d page condition (q.aggregateText d))

theorem Query.says_statement {r : Request} (hr : r = .rows q ∨ r = .count q ∨ r = .aggregate q)
    (h : r.statement d verify = .ok st) : q.Says d r st.sql := by
  obtain ⟨p, hp, rfl⟩ := Request.exists_rendered (Or.inl h)
  rcases hr with rfl | rfl | rfl
  · obtain ⟨items, hi, ha⟩ := bind_eq_ok.1 hp
    obtain ⟨page, condition, hpage, hc, hsql⟩ := exists_readingText (spells_projection hi) ha
    rw [hsql]
    exact .rows hpage hc
  · obtain ⟨source, hs, ha⟩ := bind_eq_ok.1 hp
    obtain ⟨condition, hc, ha⟩ := bind_eq_ok.1 ha
    obtain ⟨gs, hg, -⟩ := bind_eq_ok.1 ha
    cases hp.symm.trans (countPhrase_eq hs hc hg)
    rw [render_countPhrase hs hg]
    exact .count (bindWhere_fst hc [])
  · obtain ⟨items, hi, ha⟩ := bind_eq_ok.1 hp
    obtain ⟨page, condition, hpage, hc, hsql⟩ :=
      exists_readingText (spells_aggregateProjection hi) ha
    rw [hsql]
    exact .aggregate hpage hc

/-! ### Columns -/

/-- Only a count is applied to the star. -/
theorem Aggregate.field_ne_star {a : Aggregate} {p : Phrase} (h : a.phrase = .ok p)
    (hf : a.functionText ≠ "COUNT") : a.field ≠ "*" := by
  obtain ⟨f, hparse, h⟩ := bind_eq_ok.1 h
  obtain ⟨x, hx, -⟩ := bind_eq_ok.1 h
  intro hstar
  unfold argument at hx
  rw [if_pos hstar] at hx
  split_ifs at hx with hcount
  rw [functionText_of_parse hparse, hcount] at hf
  exact hf rfl

namespace Query

/-- **Which aggregates are applied to a column.** -/
theorem isReference_argument_iff (hd : d.IsBuiltin)
    (h : (Request.aggregate q).statement d verify = .ok st) :
    q.Says d (.aggregate q) st.sql ∧
      ∀ a ∈ q.aggregates, a.functionText ≠ "COUNT" → a.field ≠ "*" ∧
        (d.quotes.IsReference (d.quotes.quote a.field).toList ↔
          ['*'] ∉ a.field.toList.splitOn '.') ∧
        ('*' ∉ d.scanner.outside .plain (d.quotes.quote a.field).toList ↔
          ['*'] ∉ a.field.toList.splitOn '.') := by
  refine ⟨says_statement (by simp) h, fun a ha hf => ?_⟩
  obtain ⟨p, hp, -⟩ := Request.exists_rendered (Or.inl h)
  obtain ⟨items, hi, -⟩ := bind_eq_ok.1 hp
  obtain ⟨x, hx⟩ := exists_phrase_of_mem hi ha
  have hname : isName a.field = true := (allNames_cons.1 (Aggregate.allNames_names hx)).1
  rw [Quotes.toList_quote]
  exact ⟨Aggregate.field_ne_star hx hf,
    Quotes.isReference_quoteChars_iff hd.quotes_mem ⟨a.field, hname⟩,
    not_congr (Quotes.star_mem_outside_iff hd.quotes_mem _ ⟨a.field, hname⟩)⟩

/-- The average of a column in SQL Server, and beside it a count of all that a table has. -/
theorem isReference_argument_average :
    let mean : Aggregate := ⟨"avg", "s.pay", "mean"⟩
    let q : Query :=
      { table := "staff", tableAlias := some "s", aggregates := [⟨"COUNT", "s.*", "n"⟩, mean] }
    let st : Statement :=
      ⟨"SELECT COUNT([s].*) AS [n], AVG([s].[pay]) AS [mean] FROM [staff] [s] WHERE 1=1", []⟩
    let argument := Dialect.sqlServer.quotes.quote mean.field
    Dialect.sqlServer.IsBuiltin ∧ (Request.aggregate q).statement .sqlServer false = .ok st ∧
      mean ∈ q.aggregates ∧ mean.functionText ≠ "COUNT" ∧ argument = "[s].[pay]" ∧
      Dialect.sqlServer.quotes.IsReference argument.toList ∧
      '*' ∉ Dialect.sqlServer.scanner.outside .plain argument.toList := by
  intro mean q st argument
  have hd : Dialect.sqlServer.IsBuiltin := .family .sqlServer
  have hs : (Request.aggregate q).statement .sqlServer false = .ok st := by decide +kernel
  have hm : mean ∈ q.aggregates := by simp [q]
  have hf : mean.functionText ≠ "COUNT" := by decide +kernel
  have hsegs : ['*'] ∉ mean.field.toList.splitOn '.' := by decide +kernel
  obtain ⟨-, hr, ho⟩ := (isReference_argument_iff hd hs).2 mean hm hf
  exact ⟨hd, hs, hm, hf, by decide +kernel, hr.2 hsegs, ho.2 hsegs⟩

/-- A sum over all columns of a table in MySQL: it is accepted, and what it is applied to is no
reference and has its star outside quotes. -/
theorem not_isReference_argument :
    let sum : Aggregate := ⟨"SUM", "t.*", "s"⟩
    let q : Query := { table := "users", aggregates := [sum] }
    let st : Statement := ⟨"SELECT SUM(`t`.*) AS `s` FROM `users` WHERE 1=1", []⟩
    let argument := Dialect.mysql.quotes.quote sum.field
    Dialect.mysql.IsBuiltin ∧ (Request.aggregate q).statement .mysql true = .ok st ∧
      sum ∈ q.aggregates ∧ sum.functionText ≠ "COUNT" ∧ argument = "`t`.*" ∧
      ¬ Dialect.mysql.quotes.IsReference argument.toList ∧
      '*' ∈ Dialect.mysql.scanner.outside .plain argument.toList := by
  intro sum q st argument
  exact ⟨.family .mysql, by decide +kernel, by simp [q], by decide +kernel, by decide +kernel,
    by decide +kernel, by decide +kernel⟩

end Query

/-! ### Aliases -/

namespace Aggregate

/-- The alias of an aggregate that is accepted is a name without dots and stars. -/
theorem notMem_resultAlias {a : Aggregate} {p : Phrase} (h : a.phrase = .ok p) :
    '.' ∉ a.resultAlias.toList ∧ '*' ∉ a.resultAlias.toList := by
  obtain ⟨f, -, h⟩ := bind_eq_ok.1 h
  obtain ⟨x, -, h⟩ := bind_eq_ok.1 h
  obtain ⟨n, hn, -⟩ := bind_eq_ok.1 h
  unfold aliasName at hn
  split_ifs at hn with hany
  constructor
  · intro hdot
    exact hany (List.any_eq_true.2 ⟨'.', hdot, rfl⟩)
  · intro hstar
    exact hany (List.any_eq_true.2 ⟨'*', hstar, rfl⟩)

theorem isQuoted_resultAlias (hd : d.IsBuiltin) {a : Aggregate} {p : Phrase}
    (h : a.phrase = .ok p) : d.quotes.IsQuoted (d.quotes.quote a.resultAlias).toList := by
  have hname : isName a.resultAlias = true :=
    (allNames_cons.1 (allNames_cons.1 (allNames_names h)).2).1
  obtain ⟨hdot, hstar⟩ := notMem_resultAlias h
  have hne : a.resultAlias.toList ≠ ['*'] := fun h => hstar (h ▸ List.mem_singleton.2 rfl)
  rw [Quotes.toList_quote]
  exact (Quotes.isQuoted_quoteChars_iff hd.quotes_mem ⟨a.resultAlias, hname⟩).2 ⟨hdot, hne⟩

end Aggregate

namespace Query

/-- The source of every statement for a query has been accepted. -/
theorem exists_source_of_phrase {r : Request} (hr : r = .rows q ∨ r = .count q ∨ r = .aggregate q)
    {p : Phrase} (h : r.phrase d = .ok p) : ∃ source, q.source = .ok source := by
  have hassemble {items} (h : q.assemble d items = .ok p) : ∃ source, q.source = .ok source := by
    obtain ⟨source, page, condition, gs, os, hs, -⟩ := assemble_eq_ok h
    exact ⟨source, hs⟩
  rcases hr with rfl | rfl | rfl
  · obtain ⟨items, -, ha⟩ := bind_eq_ok.1 h
    exact hassemble ha
  · obtain ⟨source, hs, -⟩ := bind_eq_ok.1 h
    exact ⟨source, hs⟩
  · obtain ⟨items, -, ha⟩ := bind_eq_ok.1 h
    exact hassemble ha

/-- **Which aliases are single identifiers.** -/
theorem isQuoted_alias_iff (hd : d.IsBuiltin) {r : Request}
    (hr : r = .rows q ∨ r = .count q ∨ r = .aggregate q) (h : r.statement d verify = .ok st) :
    q.Says d r st.sql ∧
      (∀ a, q.tableAlias = some a →
        (d.quotes.IsQuoted (d.quotes.quote a).toList ↔ '.' ∉ a.toList ∧ a ≠ "*")) ∧
      (r = .aggregate q → ∀ a ∈ q.aggregates,
        d.quotes.IsQuoted (d.quotes.quote a.resultAlias).toList) := by
  obtain ⟨p, hp, -⟩ := Request.exists_rendered (Or.inl h)
  refine ⟨says_statement hr h, fun a ha => ?_, ?_⟩
  · obtain ⟨source, hs⟩ := exists_source_of_phrase hr hp
    have hname : isName a = true := allNames_source hs a (by simp [ha])
    rw [Quotes.toList_quote, Quotes.isQuoted_quoteChars_iff hd.quotes_mem ⟨a, hname⟩, Ne, Ne,
      ← String.toList_inj]
    rfl
  · rintro rfl a ha
    obtain ⟨items, hi, -⟩ := bind_eq_ok.1 hp
    obtain ⟨x, hx⟩ := exists_phrase_of_mem hi ha
    exact Aggregate.isQuoted_resultAlias hd hx

/-- Aggregates of a table with an alias in Oracle: both aliases are single identifiers. -/
theorem isQuoted_alias_staff :
    let a : Aggregate := ⟨"MAX", "s.pay", "most"⟩
    let q : Query := { table := "hr.staff", tableAlias := some "s", aggregates := [a] }
    let st : Statement :=
      ⟨"SELECT MAX(\"s\".\"pay\") AS \"most\" FROM \"hr\".\"staff\" \"s\" WHERE 1=1", []⟩
    Dialect.oracle.IsBuiltin ∧ (Request.aggregate q).statement .oracle false = .ok st ∧
      q.tableAlias = some "s" ∧ a ∈ q.aggregates ∧
      Dialect.oracle.quotes.IsQuoted (Dialect.oracle.quotes.quote "s").toList ∧
      Dialect.oracle.quotes.IsQuoted (Dialect.oracle.quotes.quote a.resultAlias).toList := by
  intro a q st
  have hd : Dialect.oracle.IsBuiltin := .family .oracle
  have hs : (Request.aggregate q).statement .oracle false = .ok st := by decide +kernel
  have ha : a ∈ q.aggregates := by simp [q]
  obtain ⟨-, htable, hresult⟩ := isQuoted_alias_iff hd (Or.inr (Or.inr rfl)) hs
  exact ⟨hd, hs, rfl, ha, (htable "s" rfl).2 (by decide), hresult rfl a ha⟩

/-- The rows of a table with a dotted alias in MySQL: it is accepted and becomes two identifiers. -/
theorem not_isQuoted_alias :
    let q : Query := { table := "users", tableAlias := some "a.b" }
    let st : Statement := ⟨"SELECT `a`.`b`.* FROM `users` `a`.`b` WHERE 1=1", []⟩
    Dialect.mysql.IsBuiltin ∧ (Request.rows q).statement .mysql true = .ok st ∧
      q.tableAlias = some "a.b" ∧
      ¬ Dialect.mysql.quotes.IsQuoted (Dialect.mysql.quotes.quote "a.b").toList ∧
      Dialect.mysql.quotes.segments (Dialect.mysql.quotes.quote "a.b").toList =
        ["`a`".toList, "`b`".toList] := by
  intro q st
  exact ⟨.family .mysql, by decide +kernel, rfl, by decide +kernel, by decide +kernel⟩

end Query

end BoundSql
