import BoundSql.Proofs.Engine.Labels
import BoundSql.Proofs.Statement.Totals

/-!
# The engine of a dialect

A statement is numbered by the places of its values, and written step by step each value gets the
next number. In the engine of a dialect both are the same, for requests of every kind: with a page
in front that is bound first, a page behind that is numbered on from the condition, and rows whose
placeholders are collected one by one (`Dialect.statement_engine`).
-/

namespace BoundSql

open Phrase

/-- An assignment is never written as nothing. -/
theorem Assignment.render_phrase_ne_empty {a : Assignment} {p : Phrase} (h : a.phrase = .ok p)
    (E : Engine) (i : Nat) : E.render i p ≠ "" := by
  cases a with
  | plain f mode v =>
    obtain ⟨n, -, h⟩ := bind_eq_ok.1 h
    cases pure_eq_ok.1 h
    simp [Engine.render_append]
  | cases f g bs =>
    obtain ⟨n, -, h⟩ := bind_eq_ok.1 h
    obtain ⟨m, -, h⟩ := bind_eq_ok.1 h
    cases pure_eq_ok.1 h
    simp [Engine.render_append]

/-- The text of assignments is empty if all are left out, and only then. -/
theorem Assignment.render_listPhrase_eq_empty {as : List Assignment} {p : Phrase}
    (h : listPhrase as = .ok p) (E : Engine) (i : Nat) : E.render i p = "" ↔ effective as = [] := by
  rw [listPhrase_eq] at h
  obtain ⟨ps, hps, rfl⟩ := map_eq_ok.1 h
  have hps := mapM_eq_ok.1 hps
  generalize effective as = items at hps ⊢
  cases hps with
  | nil => simp [commas, join]
  | @cons a p items ps ha _ =>
    have hne : E.render i (commas (p :: ps)) ≠ "" := by
      have hp := render_phrase_ne_empty ha E i
      unfold commas
      rw [Engine.render_join, Engine.renderEach]
      cases E.renderEach (i + p.values.length) ps with
      | nil => simpa using hp
      | cons t ts =>
        rw [String.intercalate_cons_cons]
        simp
    simpa using hne

/-- A text that begins like a query goes on after its first word. -/
theorem PageTexts.afterSelect?_append (s : String) : afterSelect? ("SELECT " ++ s) = some s := by
  simp [afterSelect?]

namespace Writer

variable {d : Dialect}

/-- In the engine of the dialect, the program writes the phrase, or fails as its compilation does.
-/
def Follows (d : Dialect) (m : Writer String) (x : Except Error Phrase) : Prop :=
  m.written d.engine [] = x.map fun p => (p.render d 1, p.values)

theorem Follows.statement_eq {m : Writer String} {x : Except Error Phrase} (h : Follows d m x)
    (verify : Bool) : m.statement d.engine verify = x >>= Statement.ofPhrase d verify := by
  rw [Writer.statement_eq, h]
  cases x <;> rfl

/-- A check that both begin with. -/
theorem bind_eq_map {α β γ : Type} {x : Except Error α} {f : α → Except Error γ}
    {g : α → Except Error β} {h : β → γ} (hfg : ∀ a, x = .ok a → f a = (g a).map h) :
    x >>= f = (x >>= g).map h := by
  cases x with
  | error e => rfl
  | ok a => exact hfg a rfl

/-! ### Queries -/

theorem spell_engine {p : Phrase} (h : p.values = []) (i : Nat) :
    d.engine.spell p = p.render d i := by
  rw [← Dialect.render_engine, Engine.render_of_values_eq_nil _ _ h]

theorem follows_count (q : Query) : Follows d (count q) q.countPhrase := by
  unfold Follows Query.countPhrase
  rw [written_count]
  refine bind_eq_map fun source hs => bind_eq_map fun c _ => bind_eq_map fun gs hg => ?_
  have hsource := Query.values_source hs
  have hgroups : (commas gs).values = [] :=
    (values_commas gs).trans (allValues_eq_nil_of_mapM (fun _ _ => values_column) hg)
  by_cases he : gs.isEmpty = true
  · rw [if_pos he, if_pos he]
    simp [pure, Except.pure, Except.map, ← Dialect.render_engine, Engine.render_append, hsource,
      Engine.render_of_values_eq_nil _ _ hsource, String.append_assoc]
  · rw [if_neg he, if_neg he]
    simp [pure, Except.pure, Except.map, ← Dialect.render_engine, Engine.render_append, hsource,
      hgroups, Engine.render_of_values_eq_nil _ _ hsource,
      Engine.render_of_values_eq_nil _ _ hgroups, String.append_assoc]

theorem frontPage_of_error {q : Query} {e : Error} (h : q.page d = .error e) :
    d.engine.frontPage q.limit = .error e := by
  unfold Query.page at h
  cases hl : q.limit with
  | none =>
    rw [hl] at h
    cases h
  | some w =>
    rw [hl] at h
    change (d.page w).map some = .error e at h
    change ((d.page w).map _).map _ = _
    cases hw : d.page w with
    | error e' =>
      rw [hw] at h
      cases h
      rfl
    | ok x =>
      rw [hw] at h
      cases h

theorem pageTexts_of_ok {w : Window} {x : Page} (h : d.page w = .ok x) (i : Nat) :
    d.engine.pageTexts w i = .ok (x.texts d.quotes.quote d.placeholders.render i) := by
  change (d.page w).map _ = _
  rw [h]
  rfl

/-- The page is asked for twice; one that is to stand in front is numbered from one. -/
theorem frontPage_of_ok {w : Window} {x : Page} (h : d.page w = .ok x) :
    d.engine.frontPage (some w) =
      .ok (if (x.texts d.quotes.quote d.placeholders.render 1).isLeading then
        some (x.texts d.quotes.quote d.placeholders.render 1) else none) := by
  rw [Engine.frontPage, pageTexts_of_ok h]
  rfl

/-- A page at either end of a statement, or around it, is added to the text as to the phrase. -/
theorem written_page {q : Query} {page : Option Page} (hp : q.page d = .ok page) :
    ∃ front, d.engine.frontPage q.limit = .ok front ∧
      ∀ (rest : Phrase) (ordered : Bool),
        let body := lit "SELECT " ++ rest
        let before := front.elim [] PageTexts.values
        let sql := d.engine.render (before.length + 1) body
        (match front with
          | some x => Except.ok (x.apply sql, before ++ body.values)
          | none => (trailingPage sql ordered q.limit).written d.engine (before ++ body.values)) =
          .ok ((Query.addPage d ordered page body).render d 1,
            (Query.addPage d ordered page body).values) := by
  unfold Query.page at hp
  cases hl : q.limit with
  | none =>
    rw [hl] at hp
    cases hp
    refine ⟨none, rfl, fun rest ordered => ?_⟩
    simp [written_trailingPage, Query.addPage]
  | some w =>
    rw [hl] at hp
    obtain ⟨x, hx, rfl⟩ := map_eq_ok.1 hp
    refine ⟨_, frontPage_of_ok hx, fun rest ordered => ?_⟩
    rcases d.page_cases hx with ⟨y, rfl⟩ | ⟨s, y, rfl⟩ | ⟨htop, rfl⟩
    · have horder : (!ordered && d.engine.pageNeedsOrder) = (!ordered && d.pageNeedsOrder) := rfl
      simp only [Page.texts, PageTexts.isLeading, written_trailingPage, pageTexts_of_ok hx, horder]
      cases ho : (!ordered && d.pageNeedsOrder) <;>
        simp [-String.reduceAppend, Query.addPage, ho, Page.apply, PageTexts.apply,
          PageTexts.isSuffix, PageTexts.values, Except.map, write_styles, ← Dialect.render_engine,
          Engine.render_append, String.append_assoc, Nat.add_comm]
    · simp only [Page.texts, PageTexts.isLeading, written_trailingPage, pageTexts_of_ok hx]
      simp [Query.addPage, Page.apply, PageTexts.apply, PageTexts.isSuffix, PageTexts.values,
        Except.map, write_styles, ← Dialect.render_engine, Engine.render_append,
        String.append_assoc, Nat.add_comm]
    · simp only [Query.addPage, Query.apply_leading]
      simp [-String.reduceAppend, Page.texts, PageTexts.isLeading, PageTexts.apply,
        PageTexts.values, write_styles, ← Dialect.render_engine, Engine.render_append,
        PageTexts.afterSelect?_append, String.append_assoc]

/-- The text of a query. -/
theorem follows_reading (q : Query) {items : Phrase} (hi : items.values = []) :
    Follows d (reading q (d.engine.spell items)) (q.assemble d items) := by
  unfold Follows Query.assemble
  rw [written_reading]
  refine bind_eq_map fun source hs => ?_
  cases hp : q.page d with
  | error e =>
    rw [frontPage_of_error hp]
    rfl
  | ok page =>
    obtain ⟨front, hfront, hwritten⟩ := written_page hp
    rw [hfront]
    refine bind_eq_map (x := q.conditions.phrase) fun c _ => bind_eq_map fun gs hg =>
      bind_eq_map fun os ho => ?_
    have hsource := Query.values_source hs
    have hgroup := Query.values_clause " GROUP BY "
      (allValues_eq_nil_of_mapM (fun _ _ => values_column) hg)
    have horder := Query.values_clause " ORDER BY "
      (allValues_eq_nil_of_mapM (fun _ _ => Query.values_orderItem) ho)
    have hspell : ∀ {p : Phrase}, p.values = [] → ∀ i, d.engine.render i p = d.engine.spell p :=
      fun h i => d.engine.render_of_values_eq_nil i h
    have hw := hwritten (items ++ lit " FROM " ++ source ++ lit " WHERE " ++ c ++
      Query.clause " GROUP BY " gs ++ Query.clause " ORDER BY " os) (!os.isEmpty)
    simp only [Engine.render_append, Engine.render_lit, values_append, values_lit, hi, hsource,
      hgroup, horder, hspell hi, hspell hsource, hspell hgroup, hspell horder, List.append_nil,
      List.nil_append, List.length_nil, Nat.add_zero] at hw
    simp only [← String.append_assoc, ← List.append_assoc] at hw
    exact hw

/-- The statement that reads the rows. Each item is quoted as it stands in the description, and that
is what its phrase says. -/
theorem follows_rows (q : Query) : Follows d (rows q) (q.rowsPhrase d) := by
  unfold Follows rows
  rw [written_projection_bind]
  refine bind_eq_map (x := q.projection) fun p hp => ?_
  have hvalues := Query.values_projection hp
  have htext : (if q.select.isEmpty then d.engine.spell p
      else ", ".intercalate (q.select.map d.engine.quote)) = d.engine.spell p := by
    by_cases hs : q.select.isEmpty = true
    · rw [if_pos hs]
    · have hspells := (Query.spells_projection (d := d) hp).2 1
      rw [Query.projectionText, if_neg hs, ← toList_render] at hspells
      rw [if_neg hs, spell_engine hvalues 1, String.toList_inj.1 hspells]
      rfl
  rw [htext]
  exact follows_reading q hvalues

theorem follows_aggregates (q : Query) : Follows d (aggregates q) (q.aggregatePhrase d) := by
  unfold Follows aggregates
  rw [written_read_bind, written_check_bind]
  exact bind_eq_map (x := q.aggregateProjection) fun p hp =>
    follows_reading q (Query.values_aggregateProjection hp)

/-! ### Insertions -/

theorem follows_insert (x : Insertion) : Follows d (insert x) (x.singlePhrase d) := by
  unfold Follows Insertion.singlePhrase
  rw [written_insert]
  refine bind_eq_map fun n _ => ?_
  by_cases h : x.rows.length ≠ 1
  · simp only [if_pos h]
    rfl
  · simp only [if_neg h]
    refine bind_eq_map (x := Insertion.checkWidths x.columns.length 0 x.rows) fun _ _ => ?_
    have hvalues := Form.values_insert (values_ofName n.table) (allValues_ofName n.columns)
      d.returning (Insertion.rowPhrases x.rows) (allValues_ofName n.returning)
    rw [Insertion.flatMap_rowPhrases] at hvalues
    have htext := d.insertText_placeholders n x.rows
    simp only [pure, Except.pure, Except.map, hvalues, ← htext]

theorem follows_batchInsert (x : Insertion) : Follows d (batchInsert x) (x.batchPhrase d) := by
  unfold Follows Insertion.batchPhrase
  rw [written_batchInsert]
  refine bind_eq_map fun n _ => ?_
  by_cases h : x.rows.isEmpty = true
  · simp only [if_pos h]
    rfl
  · simp only [if_neg h]
    refine bind_eq_map (x := Insertion.checkWidths x.columns.length 0 x.rows) fun _ _ => ?_
    have hvalues := Form.values_batchInsert (values_ofName n.table) (allValues_ofName n.columns)
      d.batch d.returning (Insertion.rowPhrases x.rows) (allValues_ofName n.returning)
    rw [Insertion.flatMap_rowPhrases] at hvalues
    have htext := d.batchText_placeholders n x.rows
    simp only [pure, Except.pure, Except.map, hvalues, ← htext]

/-! ### Changes -/

theorem follows_update (m : Modification) : Follows d (update m) m.updatePhrase := by
  unfold Follows Modification.updatePhrase Modification.tablePhrase
  rw [written_update]
  cases Name.check m.table with
  | error e => rfl
  | ok n =>
    refine bind_eq_map (x := Assignment.listPhrase m.assignments) fun p hp => ?_
    have hempty := Assignment.render_listPhrase_eq_empty hp d.engine 1
    by_cases he : Assignment.effective m.assignments = []
    · rw [if_pos (hempty.2 he), if_pos (List.isEmpty_iff.2 he)]
      rfl
    · rw [if_neg (mt hempty.1 he), if_neg (mt List.isEmpty_iff.1 he)]
      refine bind_eq_map (x := m.conditions.phrase) fun c _ => ?_
      have htext : d.engine.updateText (d.engine.quote n.text) (d.engine.render 1 p)
          (d.engine.render (p.values.length + 1) c) =
          (Form.update (ofName n) p c).render d 1 := by
        change (Form.update (lit _) (lit _) (lit _)).render d 1 = _
        simp [← Dialect.render_engine, Form.update, Engine.render_append, Nat.add_comm]
      have hvalues : (Form.update (ofName n) p c).values = p.values ++ c.values := by
        simp [Form.update]
      simp only [pure, Except.pure, Except.map, hvalues, htext]

theorem follows_delete (m : Modification) : Follows d (delete m) m.deletePhrase := by
  unfold Follows Modification.deletePhrase Modification.tablePhrase
  rw [written_delete]
  cases Name.check m.table with
  | error e => rfl
  | ok n =>
    refine bind_eq_map (x := m.conditions.phrase) fun c _ => ?_
    have htext : d.engine.deleteText (d.engine.quote n.text) (d.engine.render 1 c) =
        (Form.delete (ofName n) c).render d 1 := by
      change (Form.delete (lit _) (lit _)).render d 1 = _
      simp [← Dialect.render_engine, Form.delete, Engine.render_append]
    have hvalues : (Form.delete (ofName n) c).values = c.values := by simp [Form.delete]
    simp only [pure, Except.pure, Except.map, hvalues, htext]

theorem follows_upsert (x : Upsertion) : Follows d (upsert x) (x.phrase d) := by
  unfold Follows Upsertion.phrase
  rw [written_upsert]
  refine bind_eq_map fun u hx => bind_eq_map fun table _ => bind_eq_map fun columns hc =>
    bind_eq_map fun keys _ => bind_eq_map fun updates _ => ?_
  have hl : x.values.length = columns.length :=
    (Upsertion.length_eq_of_check hx).symm.trans (mapM_eq_ok.1 hc).length_eq
  have htext := d.upsertText?_placeholders table keys updates hl
  unfold Form.UpsertParts.named at htext
  dsimp only
  rw [htext]
  generalize hform : (d.upsert.bind fun form => Form.upsert? form _) = p
  cases p with
  | none => rfl
  | some p =>
    obtain ⟨form, -, hp⟩ := Option.bind_eq_some_iff.1 hform
    have hvalues := Form.values_upsert ⟨values_ofName _, allValues_ofName _, allValues_ofName _,
      allValues_ofName _⟩ (by simpa using hl) hp
    simp [pure, Except.pure, Except.map, hvalues]

/-! ### Requests -/

theorem follows_request (r : Request) : Follows d (request r) (r.phrase d) := by
  cases r with
  | rows q => exact follows_rows q
  | count q => exact follows_count q
  | aggregate q => exact follows_aggregates q
  | insert x => exact follows_insert x
  | batchInsert x => exact follows_batchInsert x
  | update m => exact follows_update m
  | delete m => exact follows_delete m
  | upsert x => exact follows_upsert x

end Writer

namespace Dialect

variable (d : Dialect) (verify : Bool) (r : Request)

/-- **A statement is written step by step.** In the engine of a dialect a request of any kind gives
the statement whose values are numbered by their places, or the same error. -/
theorem statement_engine : d.engine.statement verify r = r.statement d verify :=
  (Writer.follows_request r).statement_eq verify

theorem guarded_engine : d.engine.guarded verify r = r.guarded d verify := by
  unfold Engine.guarded Request.guarded
  rw [statement_engine]

end Dialect

end BoundSql
