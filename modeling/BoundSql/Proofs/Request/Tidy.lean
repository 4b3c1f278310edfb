import BoundSql.Proofs.Form.Tidy
import BoundSql.Proofs.Predicate.Compiled
import BoundSql.Request

/-!
# Requests give tidy phrases

Predicates, assignments, pages and projections are tidy, and so is the phrase of every request, up
to the semicolon that ends one form of upsert (`Request.tidy_phrase`).
-/

namespace BoundSql

open Phrase

/-! ### Conditions -/

namespace Test

variable {column : Phrase} (hc : Tidy column)

include hc

theorem tidy_compare {symbol : String} (hs : isTidyText symbol = true) (v : Value) :
    Tidy (compare column symbol v) := by
  refine ⟨?_, fun k => ?_⟩
  · simp +decide [compare, lit, ofValue, neat_append, hc.neat, Token.isClean_text hs]
  · simp [compare, lit, ofValue, depth?_append, hc.balanced _, Token.depth?_text hs]
    simp [Token.depth?, parenStep]

theorem tidy_member {keyword : String} (hs : isTidyText keyword = true) (o : Operand) :
    Tidy (member column keyword o) := by
  cases o with
  | single v =>
    refine ⟨?_, fun k => ?_⟩
    · simp +decide [member, lit, neat_append, hc.neat, Token.isClean_text hs]
    · simp [member, lit, depth?_append, hc.balanced _, Token.depth?_text hs]
      simp [Token.depth?, parenStep]
  | list vs =>
    have hv : Tidy (commas (vs.map ofValue)) := by
      refine Tidy.commas fun p hp => ?_
      obtain ⟨v, -, rfl⟩ := List.mem_map.1 hp
      exact tidy_ofValue v
    refine ⟨?_, fun k => ?_⟩
    · simp +decide [member, lit, neat_append, hc.neat, hv.neat, Token.isClean_text hs]
    · simp [member, lit, depth?_append, hc.balanced _, hv.balanced _, Token.depth?_text hs]
      simp [Token.depth?, parenStep]

theorem tidy_like (pattern : String) : Tidy (like column pattern) := by
  refine ⟨?_, fun k => ?_⟩
  · simp +decide [like, lit, ofValue, neat_append, hc.neat]
  · simp [like, lit, ofValue, depth?_append, hc.balanced _, Token.depth?, parenStep]

theorem tidy_null (t : NullTest) : Tidy (null column t) := by
  have ht : isTidyText t.text = true := by cases t <;> decide
  refine ⟨?_, fun k => ?_⟩
  · simp +decide [null, lit, neat_append, hc.neat, Token.isClean_text ht]
  · simp [null, lit, depth?_append, hc.balanced _, Token.depth?_text ht]
    simp [Token.depth?, parenStep]

theorem tidy_range {keyword : String} (hs : isTidyText keyword = true) (low high : Value) :
    Tidy (range column keyword low high) := by
  refine ⟨?_, fun k => ?_⟩
  · simp +decide [range, lit, ofValue, neat_append, hc.neat, Token.isClean_text hs]
  · simp [range, lit, ofValue, depth?_append, hc.balanced _, Token.depth?_text hs]
    simp [Token.depth?, parenStep]

end Test

namespace Predicate

theorem tidy_test {p : Predicate} {column t : Phrase} (hc : Tidy column)
    (h : p.test column = .ok t) : Tidy t := by
  cases test_eq_ok.1 h with
  | compare hs hv =>
    refine Test.tidy_compare hc ?_ _
    cases ho : p.operator <;> rw [ho] at hs <;> cases hs <;> decide
  | member hw =>
    refine Test.tidy_member hc ?_ _
    cases ho : p.operator <;> rw [ho] at hw <;> cases hw <;> decide
  | like hv hs hp => exact Test.tidy_like hc _
  | null ho hv ht => exact Test.tidy_null hc _
  | range hw hv =>
    refine Test.tidy_range hc ?_ _ _
    cases ho : p.operator <;> rw [ho] at hw <;> cases hw <;> decide

theorem tidy_phrase {p : Predicate} {t : Phrase} (h : p.phrase = .ok t) :
    Tidy t ∧ StartsSafe t := by
  obtain ⟨n, -, h⟩ := bind_eq_ok.1 h
  obtain ⟨u, hu, h⟩ := bind_eq_ok.1 h
  cases pure_eq_ok.1 h
  have hu := tidy_test (tidy_ofName n) hu
  have hc : isTidyText p.connective.text = true := by cases p.connective <;> decide
  refine ⟨⟨?_, fun k => ?_⟩, ?_⟩
  · simp +decide [lit, hu.neat, Token.isClean_text hc]
  · simp [lit, hu.balanced _, Token.depth?_text hc]
    simp [Token.depth?, parenStep]
  · simp +decide [lit]

end Predicate

theorem Where.tidy_phrase {w : Where} {c : Phrase} (h : w.phrase = .ok c) : Tidy c := by
  rw [Where.phrase_eq] at h
  obtain ⟨ps, hps, rfl⟩ := map_eq_ok.1 h
  have h : ∀ p ∈ ps, Tidy p ∧ StartsSafe p := by
    intro p hp
    obtain ⟨x, -, hx⟩ := exists_of_mem_mapM hps hp
    exact Predicate.tidy_phrase hx
  obtain ⟨h1, h2⟩ := Tidy.flatten h
  exact (tidy_lit (by decide)).append h1 (Or.inr h2)

/-! ### Assignments -/

namespace Assignment

variable {column : Phrase} (hc : Tidy column)

include hc

theorem tidy_newValue (mode : ChangeMode) (v : Value) : Tidy (newValue column mode v) := by
  unfold newValue
  split
  · exact tidy_ofValue v
  · rename_i sign hs
    have hs : isTidyText sign = true := by cases mode <;> cases hs <;> decide
    refine ⟨?_, fun k => ?_⟩
    · simp +decide [lit, ofValue, neat_append, hc.neat, Token.isClean_text hs]
    · simp [lit, ofValue, depth?_append, hc.balanced _, Token.depth?_text hs]
      simp [Token.depth?, parenStep]

theorem tidy_branchPhrase (b : Branch) :
    Tidy (branchPhrase column b) ∧ StartsSafe (branchPhrase column b) := by
  have h := tidy_newValue hc b.mode b.result
  refine ⟨⟨?_, fun k => ?_⟩, ?_⟩
  · simp +decide [branchPhrase, lit, ofValue, h.neat]
  · simp [branchPhrase, lit, ofValue, h.balanced _, Token.depth?, parenStep]
  · simp +decide [branchPhrase, lit]

omit hc

theorem tidy_phrase {a : Assignment} {t : Phrase} (h : a.phrase = .ok t) : Tidy t := by
  cases a with
  | plain f mode v =>
    obtain ⟨n, -, h⟩ := bind_eq_ok.1 h
    cases pure_eq_ok.1 h
    have hv := tidy_newValue (tidy_ofName n) mode v
    refine ⟨?_, fun k => ?_⟩
    · simp +decide [lit, (tidy_ofName n).neat, neat_append, hv.neat]
    · simp [lit, (tidy_ofName n).balanced _, depth?_append, hv.balanced _, Token.depth?, parenStep]
  | cases f g bs =>
    obtain ⟨n, -, h⟩ := bind_eq_ok.1 h
    obtain ⟨m, -, h⟩ := bind_eq_ok.1 h
    cases pure_eq_ok.1 h
    have hb : ∀ p ∈ bs.map (branchPhrase (ofName m)), Tidy p ∧ StartsSafe p := by
      intro p hp
      obtain ⟨b, -, rfl⟩ := List.mem_map.1 hp
      exact tidy_branchPhrase (tidy_ofName m) b
    obtain ⟨h1, h2⟩ := Tidy.flatten hb
    rw [← List.flatMap_def] at h1 h2
    have hn := tidy_ofName n
    have hm := tidy_ofName m
    -- The words inside the branches are dealt with, and must stay closed below.
    generalize bs.flatMap (branchPhrase (ofName m)) = branches at h1 h2 ⊢
    generalize ofName m = other at hm ⊢
    refine ⟨?_, fun k => ?_⟩
    · simp +decide [lit, neat_append, hn.neat, hm.neat, h1.neat, h2.append]
    · simp [lit, depth?_append, hn.balanced _, hm.balanced _, h1.balanced _, Token.depth?,
        parenStep]

theorem tidy_listPhrase {as : List Assignment} {t : Phrase} (h : listPhrase as = .ok t) :
    Tidy t := by
  rw [listPhrase_eq] at h
  obtain ⟨ps, hps, rfl⟩ := map_eq_ok.1 h
  refine Tidy.commas fun p hp => ?_
  obtain ⟨a, -, ha⟩ := exists_of_mem_mapM hps hp
  exact tidy_phrase ha

end Assignment

/-! ### Queries -/

theorem column_eq_ok {s : String} {p : Phrase} :
    column s = .ok p ↔ ∃ n : Name, n.text = s ∧ p = ofName n := by
  unfold column
  rw [map_eq_ok]
  exact exists_congr fun n => and_congr Name.check_eq_ok_iff eq_comm

theorem tidy_column {s : String} {p : Phrase} (h : column s = .ok p) : Tidy p := by
  obtain ⟨n, -, rfl⟩ := column_eq_ok.1 h
  exact tidy_ofName n

theorem tidy_columns {ss : List String} {ps : List Phrase} (h : ss.mapM column = .ok ps) :
    ∀ p ∈ ps, Tidy p := by
  intro p hp
  obtain ⟨s, -, hs⟩ := exists_of_mem_mapM h hp
  exact tidy_column hs

theorem tidy_selectItem {s : String} {t : Token} (h : selectItem s = .ok t) : Tidy [t] := by
  unfold selectItem at h
  split_ifs at h
  · obtain ⟨f, -, rfl⟩ := map_eq_ok.1 h
    exact tidy_fragment f
  · obtain ⟨n, -, rfl⟩ := map_eq_ok.1 h
    exact tidy_ofName n

theorem Aggregate.tidy_phrase {a : Aggregate} {p : Phrase} (h : a.phrase = .ok p) : Tidy p := by
  obtain ⟨f, -, h⟩ := bind_eq_ok.1 h
  obtain ⟨x, hx, h⟩ := bind_eq_ok.1 h
  obtain ⟨n, hn, h⟩ := bind_eq_ok.1 h
  cases pure_eq_ok.1 h
  have hx : Tidy x := by
    unfold argument at hx
    split_ifs at hx
    · cases hx
      exact tidy_lit (by decide)
    · exact tidy_column hx
  have hn : Tidy n := by
    unfold aliasName at hn
    split_ifs at hn
    exact tidy_column hn
  have hf : isTidyText f.name = true := by cases f <;> decide
  refine ⟨?_, fun k => ?_⟩
  · simp +decide [lit, neat_append, hx.neat, hn.neat, Token.isClean_text hf]
  · simp [lit, depth?_append, hx.balanced _, hn.balanced _, Token.depth?_text hf]
    simp [Token.depth?, parenStep]

namespace Query

variable {q : Query}

theorem tidy_source {p : Phrase} (h : q.source = .ok p) : Tidy p := by
  obtain ⟨t, ht, h⟩ := bind_eq_ok.1 h
  have ht := tidy_column ht
  cases ha : q.tableAlias with
  | none =>
    rw [ha] at h
    cases pure_eq_ok.1 h
    exact ht
  | some a =>
    rw [ha] at h
    obtain ⟨n, hn, h⟩ := bind_eq_ok.1 h
    cases pure_eq_ok.1 h
    have hn := tidy_column hn
    refine ⟨?_, fun k => ?_⟩
    · simp +decide [lit, neat_append, ht.neat, hn.neat]
    · simp [lit, depth?_append, ht.balanced _, hn.balanced _, Token.depth?, parenStep]

theorem tidy_orderItem {o : String × Direction} {p : Phrase} (h : orderItem o = .ok p) :
    Tidy p := by
  obtain ⟨c, hc, rfl⟩ := map_eq_ok.1 h
  have hc := tidy_column hc
  have hd : isTidyText o.2.text = true := by cases o.2 <;> decide
  refine ⟨?_, fun k => ?_⟩
  · simp +decide [lit, neat_append, hc.neat, Token.isClean_text hd]
  · simp [lit, depth?_append, hc.balanced _, Token.depth?_text hd]
    simp [Token.depth?, parenStep]

theorem tidy_clause (words : String) (hw : isTidyText words = true)
    (hs : StartsSafe (lit words)) (he : EndsSafe (lit words)) {items : List Phrase}
    (hi : ∀ p ∈ items, Tidy p) : Tidy (clause words items) ∧ StartsSafe (clause words items) := by
  unfold clause
  split_ifs
  · exact ⟨tidy_nil, startsSafe_nil⟩
  · exact ⟨(tidy_lit hw).lit_append he (Tidy.commas hi), by simpa [lit] using hs⟩

theorem tidy_projection {p : Phrase} (h : q.projection = .ok p) : Tidy p := by
  obtain ⟨items, hi, h⟩ := bind_eq_ok.1 h
  split_ifs at h
  · cases ha : q.tableAlias with
    | none =>
      rw [ha] at h
      cases pure_eq_ok.1 h
      exact tidy_lit (by decide)
    | some a =>
      rw [ha] at h
      obtain ⟨n, hn, h⟩ := bind_eq_ok.1 h
      cases pure_eq_ok.1 h
      exact (tidy_column hn).append (tidy_lit (by decide)) (Or.inr (by simp +decide [lit]))
  · cases pure_eq_ok.1 h
    refine Tidy.commas fun p hp => ?_
    obtain ⟨t, ht, rfl⟩ := List.mem_map.1 hp
    obtain ⟨s, -, hs⟩ := exists_of_mem_mapM hi ht
    exact tidy_selectItem hs

theorem tidy_aggregateProjection {p : Phrase} (h : q.aggregateProjection = .ok p) : Tidy p := by
  obtain ⟨-, h⟩ := ite_eq_ok.1 h
  obtain ⟨gs, hg, h⟩ := bind_eq_ok.1 h
  obtain ⟨as, ha, h⟩ := bind_eq_ok.1 h
  cases pure_eq_ok.1 h
  refine Tidy.commas fun p hp => ?_
  rcases List.mem_append.1 hp with hp | hp
  · exact tidy_columns hg p hp
  · obtain ⟨a, -, ha⟩ := exists_of_mem_mapM ha hp
    exact Aggregate.tidy_phrase ha

/-! ### Pages -/

/-- A page that leads goes between the first word of a query and the rest. -/
theorem apply_leading (p rest : Phrase) :
    (Page.leading p).apply (lit "SELECT " ++ rest) =
      lit "SELECT " ++ p ++ lit " " ++ (lit "" ++ rest) := rfl

theorem tidy_apply {d : Dialect} {w : Window} {x : Page} (h : d.page w = .ok x) {rest : Phrase}
    (hr : Tidy rest) : Tidy (x.apply (lit "SELECT " ++ rest)) := by
  unfold Dialect.page at h
  split at h
  case h_5 =>
    -- The word in front of the page is taken from the statement and leaves empty words behind.
    split_ifs at h
    cases h
    rw [apply_leading]
    refine ⟨?_, fun k => ?_⟩
    · simp +decide [lit, ofValue, hr.neat]
    · simp [lit, ofValue, hr.balanced _, Token.depth?, parenStep]
  all_goals
    cases h
    refine ⟨?_, fun k => ?_⟩
    · simp +decide [Page.apply, lit, ofValue, neat_append, hr.neat]
    · simp [Page.apply, lit, ofValue, depth?_append, hr.balanced _, Token.depth?, parenStep]

theorem tidy_addPage {d : Dialect} {page : Option Page} (h : q.page d = .ok page)
    (ordered : Bool) {rest : Phrase} (hr : Tidy rest) :
    Tidy (addPage d ordered page (lit "SELECT " ++ rest)) := by
  unfold Query.page at h
  cases hl : q.limit with
  | none =>
    rw [hl] at h
    cases h
    exact (tidy_lit (by decide)).lit_append (by simp +decide [lit]) hr
  | some w =>
    rw [hl] at h
    obtain ⟨x, hx, rfl⟩ := map_eq_ok.1 h
    cases x with
    | suffix p =>
      unfold addPage
      split_ifs
      · rw [List.append_assoc]
        refine tidy_apply hx (hr.append (tidy_lit (by decide)) (Or.inr ?_))
        simp +decide [lit]
      · exact tidy_apply hx hr
    | _ => exact tidy_apply hx hr

/-! ### The three statements of a query -/

theorem tidy_assemble {d : Dialect} {items p : Phrase} (hi : Tidy items)
    (h : q.assemble d items = .ok p) : Tidy p := by
  obtain ⟨source, page, condition, gs, os, hs, hp, hc, hg, ho, rfl⟩ := assemble_eq_ok h
  have hs := tidy_source hs
  have hc := Where.tidy_phrase hc
  have ho : ∀ p ∈ os, Tidy p := by
    intro p hp
    obtain ⟨o, -, ho⟩ := exists_of_mem_mapM ho hp
    exact tidy_orderItem ho
  obtain ⟨hg, hg'⟩ := tidy_clause " GROUP BY " (by decide) (by simp +decide [lit])
    (by simp +decide [lit]) (tidy_columns hg)
  obtain ⟨ho, ho'⟩ := tidy_clause " ORDER BY " (by decide) (by simp +decide [lit])
    (by simp +decide [lit]) ho
  have hr : Tidy (items ++ (lit " FROM " ++ (source ++ (lit " WHERE " ++ (condition ++
      (clause " GROUP BY " gs ++ clause " ORDER BY " os)))))) := by
    refine ⟨?_, fun k => ?_⟩
    · simp +decide [lit, neat_append, hi.neat, hs.neat, hc.neat, hg.neat, ho.neat, hg'.append ho',
        ho']
    · simp [lit, depth?_append, hi.balanced _, hs.balanced _, hc.balanced _, hg.balanced _,
        ho.balanced _, Token.depth?, parenStep]
  exact tidy_addPage hp (!q.orderBy.isEmpty) hr

theorem tidy_rowsPhrase {d : Dialect} {p : Phrase} (h : q.rowsPhrase d = .ok p) : Tidy p := by
  obtain ⟨items, hi, h⟩ := bind_eq_ok.1 h
  exact tidy_assemble (tidy_projection hi) h

theorem tidy_aggregatePhrase {d : Dialect} {p : Phrase} (h : q.aggregatePhrase d = .ok p) :
    Tidy p := by
  obtain ⟨items, hi, h⟩ := bind_eq_ok.1 h
  exact tidy_assemble (tidy_aggregateProjection hi) h

theorem tidy_countPhrase {p : Phrase} (h : q.countPhrase = .ok p) : Tidy p := by
  obtain ⟨source, hs, h⟩ := bind_eq_ok.1 h
  obtain ⟨condition, hc, h⟩ := bind_eq_ok.1 h
  obtain ⟨gs, hg, h⟩ := bind_eq_ok.1 h
  have hs := tidy_source hs
  have hc := Where.tidy_phrase hc
  have hg := Tidy.commas (tidy_columns hg)
  split_ifs at h <;> cases pure_eq_ok.1 h <;> refine ⟨?_, fun k => ?_⟩
  · simp +decide [lit, neat_append, hs.neat, hc.neat]
  · simp [lit, depth?_append, hs.balanced _, hc.balanced _, Token.depth?, parenStep]
  · simp +decide [lit, neat_append, hs.neat, hc.neat, hg.neat]
  · simp [lit, depth?_append, hs.balanced _, hc.balanced _, hg.balanced _, Token.depth?, parenStep]

end Query

/-! ### Changes to rows -/

theorem tidy_names {ns : List Name} : ∀ p ∈ ns.map ofName, Tidy p := by
  intro p hp
  obtain ⟨n, -, rfl⟩ := List.mem_map.1 hp
  exact tidy_ofName n

theorem tidy_values {vs : List Value} : ∀ p ∈ vs.map ofValue, Tidy p := by
  intro p hp
  obtain ⟨v, -, rfl⟩ := List.mem_map.1 hp
  exact tidy_ofValue v

namespace Insertion

variable {d : Dialect} {x : Insertion} {p : Phrase}

theorem tidy_rowPhrases {rs : List (List Value)} : ∀ r ∈ rowPhrases rs, ∀ v ∈ r, Tidy v := by
  intro r hr
  obtain ⟨vs, -, rfl⟩ := List.mem_map.1 hr
  exact tidy_values

theorem tidy_singlePhrase (h : x.singlePhrase d = .ok p) : Tidy p := by
  obtain ⟨n, -, h⟩ := bind_eq_ok.1 h
  obtain ⟨-, h⟩ := ite_eq_ok.1 h
  obtain ⟨-, -, h⟩ := bind_eq_ok.1 h
  cases pure_eq_ok.1 h
  exact Form.tidy_insert _ (tidy_ofName _) tidy_names tidy_rowPhrases tidy_names

theorem tidy_batchPhrase (h : x.batchPhrase d = .ok p) : Tidy p := by
  obtain ⟨n, -, h⟩ := bind_eq_ok.1 h
  obtain ⟨-, h⟩ := ite_eq_ok.1 h
  obtain ⟨-, -, h⟩ := bind_eq_ok.1 h
  cases pure_eq_ok.1 h
  exact Form.tidy_batchInsert _ _ (tidy_ofName _) tidy_names tidy_rowPhrases tidy_names

end Insertion

namespace Modification

variable {m : Modification} {p : Phrase}

theorem tidy_tablePhrase (h : m.tablePhrase = .ok p) : Tidy p := by
  obtain ⟨n, -, rfl⟩ := map_eq_ok.1 h
  exact tidy_ofName n

theorem tidy_updatePhrase (h : m.updatePhrase = .ok p) : Tidy p := by
  obtain ⟨table, ht, h⟩ := bind_eq_ok.1 h
  obtain ⟨as, ha, h⟩ := bind_eq_ok.1 h
  obtain ⟨-, h⟩ := ite_eq_ok.1 h
  obtain ⟨condition, hc, h⟩ := bind_eq_ok.1 h
  cases pure_eq_ok.1 h
  exact Form.tidy_update (tidy_tablePhrase ht) (Assignment.tidy_listPhrase ha)
    (Where.tidy_phrase hc)

theorem tidy_deletePhrase (h : m.deletePhrase = .ok p) : Tidy p := by
  obtain ⟨table, ht, h⟩ := bind_eq_ok.1 h
  obtain ⟨condition, hc, h⟩ := bind_eq_ok.1 h
  cases pure_eq_ok.1 h
  exact Form.tidy_delete (tidy_tablePhrase ht) (Where.tidy_phrase hc)

end Modification

theorem Upsertion.tidy_phrase {d : Dialect} {x : Upsertion} {p : Phrase}
    (h : x.phrase d = .ok p) :
    ∃ form, d.upsert = some form ∧ ∃ body, Tidy body ∧ p = body ++ Form.terminator form := by
  obtain ⟨-, -, h⟩ := bind_eq_ok.1 h
  obtain ⟨table, -, h⟩ := bind_eq_ok.1 h
  obtain ⟨columns, -, h⟩ := bind_eq_ok.1 h
  obtain ⟨keys, -, h⟩ := bind_eq_ok.1 h
  obtain ⟨updates, -, h⟩ := bind_eq_ok.1 h
  dsimp only at h
  split at h
  case h_2 => cases h
  case h_1 q hq =>
    cases pure_eq_ok.1 h
    obtain ⟨form, hf, hq⟩ := Option.bind_eq_some_iff.1 hq
    refine ⟨form, hf, Form.tidy_upsert form ?_ hq⟩
    exact ⟨tidy_ofName _, tidy_names, tidy_values, tidy_names, tidy_names⟩

/-! ### Requests -/

namespace Request

/-- What ends the statement of a request after everything else: a semicolon for the upserts of
one form, and otherwise nothing. -/
def terminator (d : Dialect) : Request → Phrase
  | upsert _ => d.upsert.elim [] Form.terminator
  | _ => []

/-- **Every request gives a tidy phrase**, up to the semicolon that may end it. -/
theorem tidy_phrase {d : Dialect} {r : Request} {p : Phrase} (h : r.phrase d = .ok p) :
    ∃ body : Phrase, Tidy body ∧ p = body ++ r.terminator d := by
  cases r with
  | rows q => exact ⟨p, Query.tidy_rowsPhrase h, (List.append_nil p).symm⟩
  | count q => exact ⟨p, Query.tidy_countPhrase h, (List.append_nil p).symm⟩
  | aggregate q => exact ⟨p, Query.tidy_aggregatePhrase h, (List.append_nil p).symm⟩
  | insert x => exact ⟨p, Insertion.tidy_singlePhrase h, (List.append_nil p).symm⟩
  | batchInsert x => exact ⟨p, Insertion.tidy_batchPhrase h, (List.append_nil p).symm⟩
  | update m => exact ⟨p, Modification.tidy_updatePhrase h, (List.append_nil p).symm⟩
  | delete m => exact ⟨p, Modification.tidy_deletePhrase h, (List.append_nil p).symm⟩
  | upsert x =>
    obtain ⟨form, hf, body, hb, rfl⟩ := Upsertion.tidy_phrase h
    exact ⟨body, hb, by simp [terminator, hf]⟩

end Request

end BoundSql
