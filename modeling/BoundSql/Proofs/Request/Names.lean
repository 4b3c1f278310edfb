import BoundSql.Dialect.Builtin
import BoundSql.Proofs.Engine.Dialects
import BoundSql.Proofs.Name.Language

/-!
# Complete mediation of names

`Request.names` lists the names that a description contributes to a statement of its kind, and
`Request.fragments` the expressions among its selected items. A statement is built only if all of
the names are words of the language of names and all of the expressions pass their check; a single
one that does not makes the request fail, whatever the rest of the description is
(`Request.mediated`).

Every part of a statement vouches for the names it is made from. The proof takes the parts in the
order in which they are built, so that no early exit leaves a name unchecked. The checks are made
whatever the engine is, so no engine gets to write anything that has not been checked
(`Engine.answers_only_checked`).
-/

namespace BoundSql

/-! ### What a description contributes -/

/-- The columns of the predicates that are not left out. -/
def Where.fields (w : Where) : List String := w.effective.map Predicate.field

/-- The columns of an assignment. -/
def Assignment.names : Assignment → List String
  | plain f _ _ => [f]
  | cases f g _ => [f, g]

/-- The names of an aggregate. -/
def Aggregate.names (a : Aggregate) : List String := [a.field, a.resultAlias]

/-- The names in all three statements of a query. -/
def Query.names (q : Query) : List String :=
  q.table :: q.tableAlias.toList ++ q.conditions.fields ++ q.groupBy

/-- The names in the two statements of a query that have an order. -/
def Query.orderedNames (q : Query) : List String := q.names ++ q.orderBy.map Prod.fst

namespace Request

/-- The names that a description contributes to the statement. -/
def names : Request → List String
  | rows q => q.orderedNames ++ q.select.filter fun s => '(' ∉ s.toList
  | count q => q.names
  | aggregate q => q.orderedNames ++ q.aggregates.flatMap Aggregate.names
  | insert x | batchInsert x => x.table :: x.columns ++ x.returning
  | update m =>
    m.table :: (Assignment.effective m.assignments).flatMap Assignment.names ++
      m.conditions.fields
  | delete m => m.table :: m.conditions.fields
  | upsert x => x.table :: x.columns ++ x.conflictKeys ++ x.updateColumns

/-- The expressions that a description contributes to the statement. -/
def fragments : Request → List String
  | rows q => q.select.filter fun s => '(' ∈ s.toList
  | _ => []

end Request

/-! ### Lists of names -/

/-- All of the texts are names. -/
def AllNames (ss : List String) : Prop := ∀ s ∈ ss, isName s = true

@[simp] theorem allNames_nil : AllNames [] := by simp [AllNames]

@[simp] theorem allNames_cons {s : String} {ss : List String} :
    AllNames (s :: ss) ↔ isName s = true ∧ AllNames ss := by
  simp [AllNames]

@[simp] theorem allNames_append {ss ts : List String} :
    AllNames (ss ++ ts) ↔ AllNames ss ∧ AllNames ts := by
  simp [AllNames, or_imp, forall_and]

/-- What holds of all that a check accepts holds of a list whose members have all been checked. -/
theorem forall_of_mapM {ε α β : Type} {f : α → Except ε β} {as : List α} {bs : List β}
    (h : as.mapM f = .ok bs) {P : α → Prop} (hP : ∀ a b, f a = .ok b → P a) : ∀ a ∈ as, P a := by
  intro a ha
  obtain ⟨b, -, hab⟩ := exists_partner (mapM_eq_ok.1 h) ha
  exact hP a b hab

theorem isName_of_check {s : String} {n : Name} (h : Name.check s = .ok n) : isName s = true :=
  Name.check_eq_ok_iff.1 h ▸ n.isName_text

theorem isName_of_column {s : String} {p : Phrase} (h : column s = .ok p) : isName s = true := by
  obtain ⟨n, rfl, -⟩ := column_eq_ok.1 h
  exact n.isName_text

theorem allNames_of_checkAll {ss : List String} {ns : List Name} (h : Name.checkAll ss = .ok ns) :
    AllNames ss :=
  forall_of_mapM h fun _ _ => isName_of_check

/-- Checked names have the texts that were given. -/
theorem Name.map_text_of_checkAll {ss : List String} {ns : List Name}
    (h : Name.checkAll ss = .ok ns) : ns.map Name.text = ss := by
  replace h := mapM_eq_ok.1 h
  induction h with
  | nil => rfl
  | cons hn _ ih => rw [List.map_cons, ih, Name.check_eq_ok_iff.1 hn]

theorem allNames_of_columns {ss : List String} {ps : List Phrase} (h : ss.mapM column = .ok ps) :
    AllNames ss :=
  forall_of_mapM h fun _ _ => isName_of_column

/-! ### Conditions and assignments -/

theorem Where.allNames_fields {w : Where} {c : Phrase} (h : w.phrase = .ok c) :
    AllNames w.fields := by
  rw [Where.phrase_eq] at h
  obtain ⟨ps, hps, -⟩ := map_eq_ok.1 h
  have hf : ∀ p ∈ w.effective, isName p.field = true := by
    refine forall_of_mapM hps fun p t ht => ?_
    obtain ⟨n, hn, -⟩ := bind_eq_ok.1 ht
    exact isName_of_check hn
  simpa [AllNames, fields] using hf

namespace Assignment

theorem text_of_checkName {f s : String} {n : Name} (h : checkName f s = .ok n) : n.text = s := by
  unfold checkName at h
  cases hn : Name.check s with
  | error e =>
    rw [hn] at h
    cases h
  | ok m =>
    rw [hn] at h
    cases h
    exact Name.check_eq_ok_iff.1 hn

theorem isName_of_checkName {f s : String} {n : Name} (h : checkName f s = .ok n) :
    isName s = true := text_of_checkName h ▸ n.isName_text

theorem allNames_names {a : Assignment} {p : Phrase} (h : a.phrase = .ok p) :
    AllNames a.names := by
  cases a with
  | plain f mode v =>
    obtain ⟨n, hn, -⟩ := bind_eq_ok.1 h
    simpa [names] using isName_of_checkName hn
  | cases f g bs =>
    obtain ⟨n, hn, h⟩ := bind_eq_ok.1 h
    obtain ⟨m, hm, -⟩ := bind_eq_ok.1 h
    simpa [names] using ⟨isName_of_checkName hn, isName_of_checkName hm⟩

theorem allNames_effective {as : List Assignment} {p : Phrase} (h : listPhrase as = .ok p) :
    AllNames ((effective as).flatMap names) := by
  rw [listPhrase_eq] at h
  obtain ⟨ps, hps, -⟩ := map_eq_ok.1 h
  intro s hs
  obtain ⟨a, ha, hs⟩ := List.mem_flatMap.1 hs
  exact forall_of_mapM hps (fun a p => allNames_names) a ha s hs

end Assignment

/-! ### Queries -/

theorem Aggregate.allNames_names {a : Aggregate} {p : Phrase} (h : a.phrase = .ok p) :
    AllNames a.names := by
  obtain ⟨f, -, h⟩ := bind_eq_ok.1 h
  obtain ⟨x, hx, h⟩ := bind_eq_ok.1 h
  obtain ⟨n, hn, -⟩ := bind_eq_ok.1 h
  have hfield : isName a.field = true := by
    unfold argument at hx
    split_ifs at hx with hstar
    -- The star that is written without quotes is a name as well.
    · rw [hstar]
      decide
    · exact isName_of_column hx
  have halias : isName a.resultAlias = true := by
    unfold aliasName at hn
    split_ifs at hn
    exact isName_of_column hn
  simpa [names] using ⟨hfield, halias⟩

namespace Query

variable {E : Engine} {q : Query} {x : String × List Value}

theorem allNames_source {p : Phrase} (h : q.source = .ok p) : AllNames (q.table :: q.tableAlias.toList) := by
  obtain ⟨t, ht, h⟩ := bind_eq_ok.1 h
  have ht := isName_of_column ht
  cases ha : q.tableAlias with
  | none => simpa using ht
  | some a =>
    rw [ha] at h
    obtain ⟨n, hn, -⟩ := bind_eq_ok.1 h
    simpa using ⟨ht, isName_of_column hn⟩

theorem allNames_count (h : (Writer.count q).written E [] = .ok x) : AllNames q.names := by
  rw [Writer.written_count] at h
  obtain ⟨source, hs, h⟩ := bind_eq_ok.1 h
  obtain ⟨condition, hc, h⟩ := bind_eq_ok.1 h
  obtain ⟨gs, hg, -⟩ := bind_eq_ok.1 h
  have hs := allNames_source hs
  have hc := Where.allNames_fields hc
  have hg := allNames_of_columns hg
  unfold names
  rw [allNames_append, allNames_append]
  exact ⟨⟨hs, hc⟩, hg⟩

theorem allNames_reading {items : String} (h : (Writer.reading q items).written E [] = .ok x) :
    AllNames q.orderedNames := by
  rw [Writer.written_reading] at h
  obtain ⟨source, hs, h⟩ := bind_eq_ok.1 h
  obtain ⟨front, -, h⟩ := bind_eq_ok.1 h
  obtain ⟨condition, hc, h⟩ := bind_eq_ok.1 h
  obtain ⟨gs, hg, h⟩ := bind_eq_ok.1 h
  obtain ⟨os, ho, -⟩ := bind_eq_ok.1 h
  have hs := allNames_source hs
  have hc := Where.allNames_fields hc
  have hg := allNames_of_columns hg
  have ho : ∀ o ∈ q.orderBy, isName o.1 = true := by
    refine forall_of_mapM ho fun o p hp => ?_
    obtain ⟨c, hc, -⟩ := map_eq_ok.1 hp
    exact isName_of_column hc
  have ho : AllNames (q.orderBy.map Prod.fst) := List.forall_mem_map.2 ho
  unfold orderedNames names
  rw [allNames_append, allNames_append, allNames_append]
  exact ⟨⟨⟨hs, hc⟩, hg⟩, ho⟩

/-- A selected item that has been accepted is a name or, with a parenthesis, a fragment. -/
theorem isName_or_isFragment {s : String} {t : Token} (h : selectItem s = .ok t) :
    ('(' ∉ s.toList → isName s = true) ∧ ('(' ∈ s.toList → isFragment s = true) := by
  unfold selectItem at h
  split_ifs at h with hp
  · obtain ⟨f, hf, -⟩ := map_eq_ok.1 h
    exact ⟨fun hn => absurd hp hn, fun _ => Fragment.check_eq_ok_iff.1 hf ▸ f.isFragment_text⟩
  · obtain ⟨n, hn, -⟩ := map_eq_ok.1 h
    exact ⟨fun _ => isName_of_check hn, fun hf => absurd hf hp⟩

theorem mediated_rows (h : (Writer.rows q).written E [] = .ok x) :
    AllNames (Request.rows q).names ∧ ∀ s ∈ (Request.rows q).fragments, isFragment s = true := by
  rw [Writer.rows, Writer.written_projection_bind] at h
  obtain ⟨items, hi, h⟩ := bind_eq_ok.1 h
  obtain ⟨ts, ht, -⟩ := bind_eq_ok.1 hi
  have hitems := forall_of_mapM ht fun _ _ => isName_or_isFragment
  refine ⟨allNames_append.2 ⟨allNames_reading h, fun s hs => ?_⟩, fun s hs => ?_⟩
  · obtain ⟨hs, hp⟩ := List.mem_filter.1 hs
    exact (hitems s hs).1 (of_decide_eq_true hp)
  · obtain ⟨hs, hp⟩ := List.mem_filter.1 hs
    exact (hitems s hs).2 (of_decide_eq_true hp)

theorem allNames_aggregates (h : (Writer.aggregates q).written E [] = .ok x) :
    AllNames (Request.aggregate q).names := by
  rw [Writer.aggregates, Writer.written_read_bind, Writer.written_check_bind] at h
  obtain ⟨items, hi, h⟩ := bind_eq_ok.1 h
  obtain ⟨-, hi⟩ := ite_eq_ok.1 hi
  obtain ⟨gs, -, hi⟩ := bind_eq_ok.1 hi
  obtain ⟨as, ha, -⟩ := bind_eq_ok.1 hi
  refine allNames_append.2 ⟨allNames_reading h, fun s hs => ?_⟩
  obtain ⟨a, ha', hs⟩ := List.mem_flatMap.1 hs
  exact forall_of_mapM ha (fun a p => Aggregate.allNames_names) a ha' s hs

end Query

/-! ### Changes to rows -/

theorem Insertion.allNames_names {d : Dialect} {x : Insertion} {n : Names}
    (h : x.names d = .ok n) : AllNames (x.table :: x.columns ++ x.returning) := by
  obtain ⟨-, h⟩ := ite_eq_ok.1 h
  obtain ⟨-, h⟩ := ite_eq_ok.1 h
  obtain ⟨table, ht, h⟩ := bind_eq_ok.1 h
  obtain ⟨columns, hc, h⟩ := bind_eq_ok.1 h
  obtain ⟨returning, hr, -⟩ := bind_eq_ok.1 h
  rw [allNames_append, allNames_cons]
  exact ⟨⟨isName_of_check ht, allNames_of_checkAll hc⟩, allNames_of_checkAll hr⟩

section Changes

variable {E : Engine} {x : String × List Value}

theorem Modification.allNames_update {m : Modification}
    (h : (Writer.update m).written E [] = .ok x) : AllNames (Request.update m).names := by
  rw [Writer.written_update] at h
  obtain ⟨table, ht, h⟩ := bind_eq_ok.1 h
  obtain ⟨as, ha, h⟩ := bind_eq_ok.1 h
  obtain ⟨-, h⟩ := ite_eq_ok.1 h
  obtain ⟨condition, hc, -⟩ := bind_eq_ok.1 h
  unfold Request.names
  rw [allNames_append, allNames_cons]
  exact ⟨⟨isName_of_check ht, Assignment.allNames_effective ha⟩, Where.allNames_fields hc⟩

theorem Modification.allNames_delete {m : Modification}
    (h : (Writer.delete m).written E [] = .ok x) : AllNames (Request.delete m).names := by
  rw [Writer.written_delete] at h
  obtain ⟨table, ht, h⟩ := bind_eq_ok.1 h
  obtain ⟨condition, hc, -⟩ := bind_eq_ok.1 h
  exact allNames_cons.2 ⟨isName_of_check ht, Where.allNames_fields hc⟩

theorem Upsertion.allNames_upsert {y : Upsertion} (h : (Writer.upsert y).written E [] = .ok x) :
    AllNames (Request.upsert y).names := by
  rw [Writer.written_upsert] at h
  obtain ⟨-, -, h⟩ := bind_eq_ok.1 h
  obtain ⟨table, ht, h⟩ := bind_eq_ok.1 h
  obtain ⟨columns, hc, h⟩ := bind_eq_ok.1 h
  obtain ⟨keys, hk, h⟩ := bind_eq_ok.1 h
  obtain ⟨updates, hu, -⟩ := bind_eq_ok.1 h
  unfold Request.names
  rw [allNames_append, allNames_append, allNames_cons]
  exact ⟨⟨⟨isName_of_check ht, allNames_of_checkAll hc⟩, allNames_of_checkAll hk⟩,
    allNames_of_checkAll hu⟩

end Changes

/-! ### Requests -/

namespace Engine

variable {E : Engine} {verify : Bool} {r : Request}

/-- What a request that is written contributes to it has passed its checks. -/
theorem mediated_written {x : String × List Value}
    (h : (Writer.request r).written E [] = .ok x) :
    AllNames r.names ∧ ∀ s ∈ r.fragments, isFragment s = true := by
  cases r with
  | rows q => exact Query.mediated_rows h
  | count q => exact ⟨Query.allNames_count h, by simp [Request.fragments]⟩
  | aggregate q => exact ⟨Query.allNames_aggregates h, by simp [Request.fragments]⟩
  | insert y =>
    change (Writer.insert y).written E [] = _ at h
    rw [Writer.written_insert] at h
    obtain ⟨n, hn, -⟩ := bind_eq_ok.1 h
    exact ⟨Insertion.allNames_names hn, by simp [Request.fragments]⟩
  | batchInsert y =>
    change (Writer.batchInsert y).written E [] = _ at h
    rw [Writer.written_batchInsert] at h
    obtain ⟨n, hn, -⟩ := bind_eq_ok.1 h
    exact ⟨Insertion.allNames_names hn, by simp [Request.fragments]⟩
  | update m => exact ⟨Modification.allNames_update h, by simp [Request.fragments]⟩
  | delete m => exact ⟨Modification.allNames_delete h, by simp [Request.fragments]⟩
  | upsert y => exact ⟨Upsertion.allNames_upsert h, by simp [Request.fragments]⟩

/-- A statement, guarded or not, is what has been written. -/
theorem exists_written {st : Statement}
    (h : E.statement verify r = .ok st ∨ E.guarded verify r = .ok st) :
    ∃ x, (Writer.request r).written E [] = .ok x ∧ st = ⟨x.1, x.2⟩ := by
  have hs : E.statement verify r = .ok st := by
    rcases h with h | h
    · exact h
    · obtain ⟨-, -, h⟩ := bind_eq_ok.1 h
      exact h
  rw [statement, Writer.statement_eq] at hs
  obtain ⟨x, hx, hs⟩ := bind_eq_ok.1 hs
  obtain ⟨-, hs⟩ := ite_eq_ok.1 hs
  cases hs
  exact ⟨x, hx, rfl⟩

/-- **No engine writes what has not been checked.** A request is answered only if every name it
contributes is a word of the language of names and every expression it contributes passes the check
of fragments. A single one that does not makes it fail, whatever the engine is. -/
theorem answers_only_checked (E : Engine) (verify : Bool) (r : Request) :
    (∀ st, E.statement verify r = .ok st ∨ E.guarded verify r = .ok st →
      (∀ s ∈ r.names, s.toList ∈ Name.language) ∧ ∀ s ∈ r.fragments, isFragment s = true) ∧
    ∀ s, s ∈ r.names ∧ s.toList ∉ Name.language ∨ s ∈ r.fragments ∧ isFragment s = false →
      (∃ e, E.statement verify r = .error e) ∧ ∃ e, E.guarded verify r = .error e := by
  have hchecked : ∀ st, E.statement verify r = .ok st ∨ E.guarded verify r = .ok st →
      (∀ s ∈ r.names, s.toList ∈ Name.language) ∧ ∀ s ∈ r.fragments, isFragment s = true := by
    intro st h
    obtain ⟨x, hx, -⟩ := exists_written h
    obtain ⟨hn, hf⟩ := mediated_written hx
    exact ⟨fun s hs => isName_iff.1 (hn s hs), hf⟩
  refine ⟨hchecked, fun s hbad => ?_⟩
  have hno : ∀ st, ¬ (E.statement verify r = .ok st ∨ E.guarded verify r = .ok st) := by
    intro st hst
    obtain ⟨hn, hf⟩ := hchecked st hst
    rcases hbad with ⟨hs, hbad⟩ | ⟨hs, hbad⟩
    · exact hbad (hn s hs)
    · rw [hf s hs] at hbad
      cases hbad
  constructor
  · cases hst : E.statement verify r with
    | error e => exact ⟨e, rfl⟩
    | ok st => exact absurd (Or.inl hst) (hno st)
  · cases hst : E.guarded verify r with
    | error e => exact ⟨e, rfl⟩
    | ok st => exact absurd (Or.inr hst) (hno st)

end Engine

namespace Request

/-- **Complete mediation of names.** In any dialect, guarded or not, a request is answered only if
every name it contributes is a word of the language of names and every expression it contributes
passes the check of fragments. A single one that does not makes it fail. -/
theorem mediated (d : Dialect) (verify : Bool) (r : Request) :
    (∀ st, r.statement d verify = .ok st ∨ r.guarded d verify = .ok st →
      (∀ s ∈ r.names, s.toList ∈ Name.language) ∧ ∀ s ∈ r.fragments, isFragment s = true) ∧
    ∀ s, s ∈ r.names ∧ s.toList ∉ Name.language ∨ s ∈ r.fragments ∧ isFragment s = false →
      (∃ e, r.statement d verify = .error e) ∧ ∃ e, r.guarded d verify = .error e := by
  have h := d.engine.answers_only_checked verify r
  rwa [d.statement_engine, d.guarded_engine] at h

/-- A query that is answered, and the same one with a hostile column to order by, which is not. -/
theorem mediated_query :
    let query (column : String) : Request := .rows
      { table := "shop.orders"
        tableAlias := some "o"
        select := ["o.id", "COUNT(DISTINCT item)"]
        conditions := [⟨"no name", .equal, .single .null, .and⟩, ⟨"o.id", .isIn, .list [], .or⟩]
        orderBy := [(column, .asc)] }
    let st : Statement :=
      ⟨"SELECT \"o\".\"id\", COUNT(DISTINCT item) FROM \"shop\".\"orders\" \"o\" " ++
        "WHERE 1=1 OR \"o\".\"id\" IN () ORDER BY \"o\".\"id\" ASC", []⟩
    (query "o.id").statement .oracle true = .ok st ∧
      (∀ s ∈ (query "o.id").names, s.toList ∈ Name.language) ∧
      (query "id; --").names = ["shop.orders", "o", "o.id", "id; --", "o.id"] ∧
      ∃ e, (query "id; --").statement .oracle true = .error e := by
  intro query st
  have hst : (query "o.id").statement .oracle true = .ok st := by decide +kernel
  have hno : "id; --".toList ∉ Name.language := fun h => absurd (isName_iff.2 h) (by decide)
  have hnames : (query "id; --").names = ["shop.orders", "o", "o.id", "id; --", "o.id"] := by
    decide
  refine ⟨hst, ((mediated .oracle true _).1 st (Or.inl hst)).1, hnames, ?_⟩
  exact ((mediated .oracle true (query "id; --")).2 "id; --" (Or.inl ⟨by simp [hnames], hno⟩)).1

end Request

end BoundSql
