import BoundSql.Proofs.Registry.Key
import BoundSql.Proofs.Request.Names
import BoundSql.Proofs.Statement.Totals

/-!
# What an aggregate query reads

An aggregate query reads the columns it groups by and then its aggregates, and nothing else. The
columns stand in front of the aggregates just as they stand after GROUP BY, and an aggregate is one
of five functions, in capitals, applied to a column and named by an alias (`Query.aggregateText`).

Whatever a query reads, the rest of its statement is the same (`Query.readingText`). So an aggregate
query that is answered differs from the statement for the rows of the query in the items only, and
binds the same values (`Query.aggregates_statement`).
-/

namespace BoundSql

open Phrase

/-! ### Texts -/

namespace Aggregate

/-- The function of an aggregate in capitals, without the blanks around it. -/
def functionText (a : Aggregate) : String :=
  String.ofList ((Text.trim a.function).toList.map Char.toUpper)

/-- An aggregate as a selected item. -/
def text (d : Dialect) (a : Aggregate) : String :=
  a.functionText ++ "(" ++ d.quotes.quote a.field ++ ") AS " ++ d.quotes.quote a.resultAlias

end Aggregate

namespace Query

/-- The columns that a query groups by, if there are any, and then its aggregates. -/
def aggregateText (d : Dialect) (q : Query) : String :=
  (if q.groupBy.isEmpty then "" else d.listText q.groupBy ++ ", ") ++
    ", ".intercalate (q.aggregates.map (Aggregate.text d))

/-- The statement that reads items with the given text. -/
def readingText (d : Dialect) (q : Query) (page : Option Page) (condition items : String) :
    String :=
  front d page ++ items ++ " FROM " ++ q.bodyText d condition ++
    q.closing d (q.conditions.bindings.length + 1) page

end Query

/-! ### Functions -/

/-- A name that is accepted is that of the function, but for blanks around it and letter case. -/
theorem AggregateFunction.name_of_parse {s : String} {f : AggregateFunction}
    (h : AggregateFunction.parse s = .ok f) :
    f.name.toList = (Text.trim s).toList.map Char.toUpper := by
  have hsame : Text.sameLetters f.name (Text.trim s) = true := by
    unfold AggregateFunction.parse parse? at h
    split at h
    next g hg =>
      cases h
      have hs := List.find?_some hg
      exact hs
    next => cases h
  have hlower : f.name.toList.map Char.toLower = (Text.trim s).toList.map Char.toLower := by
    rw [← Text.toList_lower, ← Text.toList_lower, Text.sameLetters_iff.1 hsame]
  -- The names of the functions are in capitals, so their lower case determines them.
  have hupper : f.name.toList.map (Char.toUpper ∘ Char.toLower) = f.name.toList := by
    cases f <;> decide +kernel
  have hfold : Char.toUpper ∘ Char.toLower = Char.toUpper := funext Text.toUpper_toLower
  rw [← hupper, ← List.map_map, hlower, List.map_map, hfold]

namespace Aggregate

variable {d : Dialect} {a : Aggregate}

theorem functionText_of_parse {f : AggregateFunction}
    (h : AggregateFunction.parse a.function = .ok f) : a.functionText = f.name := by
  rw [functionText, ← AggregateFunction.name_of_parse h, String.ofList_toList]

theorem spells_argument {f : AggregateFunction} {field : String} {p : Phrase}
    (h : argument f field = .ok p) : Spells d p (d.quotes.quote field) := by
  unfold argument at h
  split_ifs at h with hstar hcount
  · cases h
    have hquote : d.quotes.quote "*" = "*" := rfl
    rw [hstar, hquote]
    exact spells_lit "*"
  · exact spells_column h

/-- An aggregate that is accepted says its function, its column and its alias. -/
theorem spells_phrase {p : Phrase} (h : a.phrase = .ok p) : Spells d p (a.text d) := by
  obtain ⟨f, hf, h⟩ := bind_eq_ok.1 h
  obtain ⟨x, hx, h⟩ := bind_eq_ok.1 h
  obtain ⟨n, hn, h⟩ := bind_eq_ok.1 h
  cases pure_eq_ok.1 h
  have halias : Spells d n (d.quotes.quote a.resultAlias) := by
    unfold aliasName at hn
    split_ifs at hn
    exact spells_column hn
  rw [text, functionText_of_parse hf]
  exact ((((spells_lit _).append (spells_lit "(")).append (spells_argument hx)).append
    (spells_lit ") AS ")).append halias

theorem exists_functionText_eq {p : Phrase} (h : a.phrase = .ok p) :
    ∃ f : AggregateFunction, a.functionText = f.name := by
  obtain ⟨f, hf, -⟩ := bind_eq_ok.1 h
  exact ⟨f, functionText_of_parse hf⟩

end Aggregate

/-! ### Statements -/

namespace Query

variable {d : Dialect} {q : Query}

/-- Groups and aggregates are one list of items. -/
theorem aggregateText_eq (h : q.aggregates ≠ []) : q.aggregateText d =
    ", ".intercalate (q.groupBy.map d.quotes.quote ++ q.aggregates.map (Aggregate.text d)) := by
  unfold aggregateText
  split_ifs with hg
  · rw [List.isEmpty_iff.1 hg]
    exact String.empty_append
  · have hgs : q.groupBy.map d.quotes.quote ≠ [] := by simpa using hg
    have has : q.aggregates.map (Aggregate.text d) ≠ [] := by simpa using h
    rw [String.intercalate_append_of_ne_nil hgs has, Dialect.listText]

theorem spells_aggregateProjection {items : Phrase} (h : q.aggregateProjection = .ok items) :
    Spells d items (q.aggregateText d) := by
  obtain ⟨hne, h⟩ := ite_eq_ok.1 h
  obtain ⟨gs, hg, h⟩ := bind_eq_ok.1 h
  obtain ⟨as, ha, h⟩ := bind_eq_ok.1 h
  cases pure_eq_ok.1 h
  have hgs : List.Forall₂ (fun t p => Spells d p t) (q.groupBy.map d.quotes.quote) gs :=
    List.forall₂_map_left_iff.2 ((mapM_eq_ok.1 hg).imp fun _ _ => spells_column)
  have has : List.Forall₂ (fun t p => Spells d p t) (q.aggregates.map (Aggregate.text d)) as :=
    List.forall₂_map_left_iff.2 ((mapM_eq_ok.1 ha).imp fun _ _ => Aggregate.spells_phrase)
  have hitems := spells_commas (List.rel_append hgs has)
  rwa [List.map_id', ← aggregateText_eq (by simpa using hne)] at hitems

/-- Every aggregate of a query that is accepted is accepted by itself. -/
theorem exists_phrase_of_mem {items : Phrase} (h : q.aggregateProjection = .ok items)
    {a : Aggregate} (ha : a ∈ q.aggregates) : ∃ p, a.phrase = .ok p := by
  obtain ⟨-, h⟩ := ite_eq_ok.1 h
  obtain ⟨gs, -, h⟩ := bind_eq_ok.1 h
  obtain ⟨as, has, -⟩ := bind_eq_ok.1 h
  have hall : ∀ a ∈ q.aggregates, ∃ p, a.phrase = .ok p := forall_of_mapM has fun _ p hp => ⟨p, hp⟩
  exact hall a ha

/-- Whether a statement can be made does not depend on the items that it reads. -/
theorem exists_assemble {items p : Phrase} (h : q.assemble d items = .ok p) (items' : Phrase) :
    ∃ p', q.assemble d items' = .ok p' := by
  have hagree : Agree (fun _ _ => True) (q.assemble d items) (q.assemble d items') :=
    .bind_same fun _ => .bind_same fun _ => .bind_same fun _ => .bind_same fun _ =>
      .bind_same fun _ => agree_pure trivial
  exact hagree.exists_ok_iff.1 ⟨p, h⟩

/-- A statement is laid out around the text of the items that it reads. -/
theorem render_assemble {items p : Phrase} {text : String} (hi : Spells d items text)
    (h : q.assemble d items = .ok p) {page : Option Page} (hp : q.page d = .ok page)
    {condition : String}
    (hc : (Bindings.bindWhere ⟨d, q.limit.elim [] d.paging.leading⟩ q.conditions).1 =
      .ok condition) :
    p.render d 1 = q.readingText d page condition text := by
  obtain ⟨source, page', c, gs, os, hs, hp', hw, hg, ho, rfl⟩ := assemble_eq_ok h
  cases hp.symm.trans hp'
  cases hc.symm.trans (bindWhere_fst hw _)
  have horder : Spells d (clause " ORDER BY " os) (q.orderText d) :=
    spells_clause " ORDER BY " (fun _ _ => spells_orderItem) ho
  have hbody : ∀ i, (body source c gs).render d i = q.bodyText d (c.render d i) := fun i =>
    String.toList_inj.1 (by simp [renderFrom_body hs hg])
  have hrender := render_addPage (b := body source c gs) hp hi horder
  rw [hbody, values_body hs hg, Where.values_phrase hw, Nat.add_comm 1] at hrender
  rw [readingText, ← hrender]
  simp only [body, List.append_assoc]

theorem exists_readingText {items p : Phrase} {text : String} (hi : Spells d items text)
    (h : q.assemble d items = .ok p) :
    ∃ page condition, q.page d = .ok page ∧
      (Bindings.bindWhere ⟨d, q.limit.elim [] d.paging.leading⟩ q.conditions).1 = .ok condition ∧
      p.render d 1 = q.readingText d page condition text := by
  obtain ⟨source, page, c, gs, os, hs, hpage, hw, hg, ho, -⟩ := assemble_eq_ok h
  have hc := bindWhere_fst (d := d) hw (q.limit.elim [] d.paging.leading)
  exact ⟨page, _, hpage, hc, render_assemble hi h hpage hc⟩

/-- With an accepted source, everything can be read from it. -/
theorem exists_projection {source : Phrase} (h : q.source = .ok source) :
    ∃ items, { q with select := [] }.projection = .ok items := by
  obtain ⟨t, -, h⟩ := bind_eq_ok.1 h
  unfold projection
  cases ha : q.tableAlias with
  | none => exact ⟨lit "*", rfl⟩
  | some a =>
    rw [ha] at h
    obtain ⟨n, hn, -⟩ := bind_eq_ok.1 h
    have hitems : (column a >>= fun c => pure (c ++ lit ".*")) = .ok (n ++ lit ".*") :=
      bind_eq_ok.2 ⟨n, hn, rfl⟩
    exact ⟨_, hitems⟩

/-- **An aggregate query reads its groups and its aggregates**, and differs from the query that
reads everything in nothing else. -/
theorem aggregates_statement (hd : d.IsBuiltin) {verify : Bool} {st : Statement}
    (h : (Request.aggregate q).statement d verify = .ok st) :
    (∀ a ∈ q.aggregates, a.functionText ∈ ["COUNT", "SUM", "AVG", "MIN", "MAX"]) ∧
    ∃ page condition, q.page d = .ok page ∧
      (Bindings.bindWhere ⟨d, q.limit.elim [] d.paging.leading⟩ q.conditions).1 = .ok condition ∧
      st.sql = q.readingText d page condition (q.aggregateText d) ∧
      (Request.rows { q with select := [] }).statement d verify =
        .ok ⟨q.readingText d page condition
          (q.tableAlias.elim "*" fun a => d.quotes.quote a ++ ".*"), st.params⟩ := by
  obtain ⟨p, hp, rfl⟩ := Request.exists_rendered (Or.inl h)
  obtain ⟨items, hi, ha⟩ := bind_eq_ok.1 hp
  obtain ⟨page, condition, hpage, hc, hsql⟩ := exists_readingText (spells_aggregateProjection hi) ha
  obtain ⟨source, _, _, _, _, hs, -⟩ := assemble_eq_ok ha
  obtain ⟨items', hi'⟩ := exists_projection hs
  obtain ⟨p', ha'⟩ := exists_assemble ha items'
  have hp' : (Request.rows { q with select := [] }).phrase d = .ok p' :=
    bind_eq_ok.2 ⟨items', hi', ha'⟩
  refine ⟨fun a ha => ?_, page, condition, hpage, hc, hsql, ?_⟩
  · obtain ⟨x, hx⟩ := exists_phrase_of_mem hi ha
    obtain ⟨f, hf⟩ := Aggregate.exists_functionText_eq hx
    rw [hf]
    cases f <;> simp [AggregateFunction.name]
  · have hrender := render_assemble (spells_projection hi') ha' hpage hc
    have hvalues := values_rowsPhrase hp'
    rw [Request.statement_eq hd, hp', values_aggregatePhrase hp]
    exact congrArg Except.ok (congrArg₂ Statement.mk hrender hvalues)

/-- Groups in Oracle before version 12, with a function between blanks that is applied to the star,
and one in other letters. -/
theorem aggregates_statement_rowNumber :
    let q : Query :=
      { table := "staff"
        tableAlias := some "s"
        select := ["name"]
        conditions := [⟨"old", .equal, .single (.bool true), .and⟩]
        groupBy := ["s.dept"]
        aggregates := [⟨" count\t", "*", "n"⟩, ⟨"Avg", "pay", "mean"⟩]
        limit := some ⟨10, 5⟩ }
    let d : Dialect := .oracleVersion 11
    let st : Statement :=
      ⟨"SELECT * FROM (SELECT row_.*, ROWNUM rownum_ FROM (" ++
        "SELECT \"s\".\"dept\", COUNT(*) AS \"n\", AVG(\"pay\") AS \"mean\" " ++
        "FROM \"staff\" \"s\" WHERE 1=1 AND \"old\" = :1 GROUP BY \"s\".\"dept\"" ++
        ") row_ WHERE ROWNUM <= :2) WHERE rownum_ > :3", [.bool true, .nat 15, .nat 10]⟩
    let rows : Statement :=
      ⟨"SELECT * FROM (SELECT row_.*, ROWNUM rownum_ FROM (" ++
        "SELECT \"s\".* " ++
        "FROM \"staff\" \"s\" WHERE 1=1 AND \"old\" = :1 GROUP BY \"s\".\"dept\"" ++
        ") row_ WHERE ROWNUM <= :2) WHERE rownum_ > :3", st.params⟩
    d.IsBuiltin ∧ (Request.aggregate q).statement d false = .ok st ∧
      (Request.rows { q with select := [] }).statement d false = .ok rows ∧
      q.aggregateText d = d.listText q.groupBy ++ ", COUNT(*) AS \"n\", AVG(\"pay\") AS \"mean\"" ∧
      ∃ page condition, st.sql = q.readingText d page condition (q.aggregateText d) ∧
        rows.sql = q.readingText d page condition "\"s\".*" := by
  intro q d st rows
  have hd : d.IsBuiltin := .oracleVersion 11
  have hst : (Request.aggregate q).statement d false = .ok st := by decide +kernel
  have hrows : (Request.rows { q with select := [] }).statement d false = .ok rows := by
    decide +kernel
  obtain ⟨-, page, condition, -, -, hsql, hall⟩ := aggregates_statement hd hst
  have hall := congrArg Statement.sql (Except.ok.inj (hrows.symm.trans hall))
  exact ⟨hd, hst, hrows, by decide +kernel, page, condition, hsql, hall⟩

end Query

end BoundSql
