import BoundSql.Proofs.Phrase.Outline
import BoundSql.Proofs.Statement.Placeholders

/-!
# The layout of a query

A query without a window is laid out if its top level is as it should be: the words FROM, WHERE,
GROUP and ORDER are those of its clauses and no others, the table comes after FROM, and between
SELECT and FROM there are as many items as were asked for. A name among the items cannot change
that. An expression among them does if it has such a word or a comma at its own top level, and
otherwise it does not (`Query.isLaidOut_iff`). The check of expressions does not look for these, so
an expression may read from another table (`Query.not_isLaidOut_from`).
-/

namespace BoundSql

open Phrase

/-! ### Layouts -/

/-- Whether a part is the word FROM. -/
def Part.isFrom (p : Part) : Bool := p.clause? == some "from"

/-- The words that begin the clauses of a query, in order. -/
def Query.clauses (q : Query) : List String :=
  ["from", "where"] ++ (if q.groupBy.isEmpty then [] else ["group"]) ++
    if q.orderBy.isEmpty then [] else ["order"]

/-- A statement with the clauses of a query, its table and as many items as it selects. -/
structure Query.IsLaidOut (d : Dialect) (q : Query) (sql : String) : Prop where
  clauses : Part.clauses (d.outline sql) = q.clauses
  source : ∃ rest, ((d.outline sql).dropWhile fun p => !p.isFrom).tail.flatMap Part.text =
    ' ' :: (d.quotes.quoteChars q.table.toList ++ ' ' :: rest)
  items : ∃ between, ((d.outline sql).takeWhile fun p => !p.isFrom) =
    .word "SELECT".toList :: between ∧
      (between.splitOnP (· == .comma)).length = max 1 q.select.length

/-- An expression that, read by itself, begins no clause and no further item. -/
def Dialect.IsContained (d : Dialect) (s : String) : Prop :=
  Part.clauses (d.outline s) = [] ∧ .comma ∉ d.outline s

instance (d : Dialect) (s : String) : Decidable (d.IsContained s) :=
  inferInstanceAs (Decidable (_ ∧ _))

variable {d : Dialect}

/-! ### Quiet parts of a query -/

/-- The texts in a condition and in lists of columns. -/
@[simp] theorem isQuietText_vocabulary : isQuietText " " = true ∧ isQuietText "1=1" = true ∧
    isQuietText "AND" = true ∧ isQuietText " AND " = true ∧ isQuietText "OR" = true ∧
    isQuietText "=" = true ∧ isQuietText "<>" = true ∧ isQuietText ">" = true ∧
    isQuietText "<" = true ∧ isQuietText ">=" = true ∧ isQuietText "<=" = true ∧
    isQuietText " LIKE " = true ∧ isQuietText "IN" = true ∧ isQuietText "NOT IN" = true ∧
    isQuietText " (" = true ∧ isQuietText ")" = true ∧ isQuietText " ()" = true ∧
    isQuietText " IS " = true ∧ isQuietText "NULL" = true ∧ isQuietText "NOT NULL" = true ∧
    isQuietText "BETWEEN" = true ∧ isQuietText "NOT BETWEEN" = true ∧ isQuietText "ASC" = true ∧
    isQuietText "DESC" = true := by
  decide +kernel

theorem Predicate.quiet_test {p : Predicate} {n : Name} {t : Phrase}
    (h : p.test (ofName n) = .ok t) : Quiet t := by
  cases test_eq_ok.1 h with
  | compare hs hv =>
    cases ho : p.operator <;> rw [ho] at hs <;> cases hs <;> simp [Test.compare]
  | member hw =>
    have hvs : ∀ vs : List Value, Quiet (commas (vs.map ofValue)) := fun vs =>
      .commas (List.forall_mem_map.2 fun v _ => quiet_ofValue v)
    cases ho : p.operator <;> rw [ho] at hw <;> cases hw <;>
      cases p.operand <;> simp [Test.member, hvs]
  | like hv hs hp => simp [Test.like]
  | @null s x ho hv ht => cases x <;> simp [Test.null, NullTest.text]
  | range hw hv =>
    cases ho : p.operator <;> rw [ho] at hw <;> cases hw <;> simp [Test.range]

theorem Predicate.quiet_phrase {p : Predicate} {t : Phrase} (h : p.phrase = .ok t) : Quiet t := by
  obtain ⟨n, -, h⟩ := bind_eq_ok.1 h
  obtain ⟨u, hu, h⟩ := bind_eq_ok.1 h
  cases pure_eq_ok.1 h
  have hc : isQuietText p.connective.text = true := by cases p.connective <;> simp [Connective.text]
  simp [hc, quiet_test hu]

theorem Where.quiet_phrase {w : Where} {c : Phrase} (h : w.phrase = .ok c) : Quiet c := by
  rw [Where.phrase_eq] at h
  obtain ⟨ps, hps, rfl⟩ := map_eq_ok.1 h
  have hq : Quiet ps.flatten := .flatten fun p hp => by
    obtain ⟨x, -, hx⟩ := exists_of_mem_mapM hps hp
    exact Predicate.quiet_phrase hx
  simp [assemble, base, hq]

theorem quiet_column {s : String} {p : Phrase} (h : column s = .ok p) : Quiet p := by
  obtain ⟨n, -, rfl⟩ := map_eq_ok.1 h
  exact quiet_ofName n

namespace Query

variable {q : Query}

theorem quiet_source {p : Phrase} (h : q.source = .ok p) : Quiet p := by
  obtain ⟨t, ht, h⟩ := bind_eq_ok.1 h
  cases ha : q.tableAlias with
  | none =>
    rw [ha] at h
    cases pure_eq_ok.1 h
    exact quiet_column ht
  | some a =>
    rw [ha] at h
    obtain ⟨u, hu, h⟩ := bind_eq_ok.1 h
    cases pure_eq_ok.1 h
    simp [quiet_column ht, quiet_column hu]

theorem quiet_groups {gs : List Phrase} (h : q.groups = .ok gs) : Quiet (commas gs) := by
  refine .commas fun p hp => ?_
  obtain ⟨s, -, hs⟩ := exists_of_mem_mapM h hp
  exact quiet_column hs

theorem quiet_orders {os : List Phrase} (h : q.orderBy.mapM orderItem = .ok os) :
    Quiet (commas os) := by
  refine .commas fun p hp => ?_
  obtain ⟨o, -, ho⟩ := exists_of_mem_mapM h hp
  obtain ⟨c, hc, rfl⟩ := map_eq_ok.1 ho
  have hd : isQuietText o.2.text = true := by cases o.2 <;> simp [Direction.text]
  simp [hd, quiet_column hc]

end Query

/-! ### Items -/

/-- Splitting at commas gives one list more than there are commas. -/
theorem Part.length_splitOnP (ps : List Part) :
    (ps.splitOnP (· == .comma)).length = ps.count .comma + 1 := by
  induction ps with
  | nil => rfl
  | cons p ps ih =>
    rw [List.splitOnP_cons_eq_if_modifyHead, List.count_cons]
    split_ifs <;> simp [ih]

/-- What holds of all members of a list holds of their partners. -/
theorem forall_iff_of_forall₂ {α β : Type} {R : α → β → Prop} {P : α → Prop} {Q : β → Prop}
    {as : List α} {bs : List β} (h : List.Forall₂ R as bs) (hPQ : ∀ a b, R a b → (P a ↔ Q b)) :
    (∀ a ∈ as, P a) ↔ ∀ b ∈ bs, Q b := by
  induction h with
  | nil => simp
  | cons hab _ ih => rw [List.forall_mem_cons, List.forall_mem_cons, hPQ _ _ hab, ih]

/-- A selected item is an expression that is seen as it is when read by itself, or a name. -/
theorem outline_selectItem (hq : d.quotes ∈ Quotes.usual) {s : String} {t : Token}
    (h : selectItem s = .ok t) (i : Nat) :
    (Part.clauses (Piece.outline 0 (t.pieces d i)) = [] ↔
      ('(' ∈ s.toList → Part.clauses (d.outline s) = [])) ∧
    (.comma ∉ Piece.outline 0 (t.pieces d i) ↔ ('(' ∈ s.toList → .comma ∉ d.outline s)) ∧
    t.values = [] ∧ t.depth? 0 = some 0 := by
  unfold selectItem at h
  split_ifs at h with hp
  · obtain ⟨f, hf, rfl⟩ := map_eq_ok.1 h
    have ho : d.outline s = Piece.outline 0 ((Token.fragment f).pieces d i) := by
      rw [Dialect.outline, ← Fragment.check_eq_ok_iff.1 hf, Scanner.pieces_plain fun c hc =>
        Scanner.isPlain_of_notMem_forbiddenChars hq (f.notMem_forbiddenChars hc)]
      rfl
    rw [ho]
    exact ⟨by simp [hp], by simp [hp], rfl, rfl⟩
  · obtain ⟨n, -, rfl⟩ := map_eq_ok.1 h
    rw [(Token.outline_name hq i 0 n).1]
    refine ⟨by simp [hp, Part.clauses_eq_nil], by simp [hp], rfl, rfl⟩

/-- Items are seen one after the other, with commas between them. -/
theorem outline_commas (hq : d.quotes ∈ Quotes.usual) {ts : List Token}
    (h : ∀ t ∈ ts, t.values = [] ∧ t.depth? 0 = some 0) (i : Nat) :
    (commas (ts.map fun t => [t])).outline d i 0 =
      List.intercalate [.comma, .other (.sign ' ')]
        (ts.map fun t => Piece.outline 0 (t.pieces d i)) := by
  have hone : ∀ (t : Token) i, Phrase.outline d i 0 [t] = Piece.outline 0 (t.pieces d i) :=
    fun t i => List.append_nil _
  have hsep : Piece.outline 0 (", ".toList.map .sign) = [.comma, .other (.sign ' ')] := by
    decide +kernel
  unfold commas join
  induction ts with
  | nil => rfl
  | cons t ts ih =>
    cases ts with
    | nil => simp [hone]
    | cons u ts =>
      obtain ⟨hv, hd⟩ := h t (by simp)
      have hd : depth? 0 [t] = some 0 := by simp [hd]
      have hl : depth? 0 ([t] ++ lit ", ") = some 0 := by
        rw [depth?_append, hd]
        rfl
      have hv : values ([t] ++ lit ", ") = [] := by simp [values_cons, hv]
      rw [List.map_cons, List.map_cons, List.intercalate_cons_cons, outline_append hq hl,
        outline_append hq hd, outline_lit, hsep, hone, hv, List.length_nil, Nat.add_zero]
      rw [← List.map_cons (f := fun t => [t]), ih fun v hv => h v (List.mem_cons_of_mem t hv)]
      rw [List.map_cons, List.map_cons, List.map_cons, List.intercalate_cons_cons]

/-- What the commas between lists of parts add. -/
theorem Part.clauses_intercalate (os : List (List Part)) :
    clauses (List.intercalate [.comma, .other (.sign ' ')] os) = [] ↔
      ∀ o ∈ os, clauses o = [] := by
  induction os with
  | nil => simp
  | cons o os ih =>
    cases os with
    | nil => simp
    | cons o' os =>
      rw [List.intercalate_cons_cons, clauses_append, clauses_append, List.append_eq_nil_iff,
        List.append_eq_nil_iff, ih]
      simp [clauses, clause?]

theorem Part.count_intercalate (o : List Part) (os : List (List Part)) :
    (List.intercalate [.comma, .other (.sign ' ')] (o :: os)).count .comma =
      os.length + (o :: os).flatten.count .comma := by
  induction os generalizing o with
  | nil => simp
  | cons o' os ih =>
    have hsep : [Part.comma, .other (.sign ' ')].count .comma = 1 := rfl
    rw [List.intercalate_cons_cons, List.count_append, List.count_append, ih o', hsep]
    simp only [List.flatten_cons, List.count_append, List.length_cons]
    omega

/-- Everything begins no clause and is one item. -/
theorem outline_everything (hq : d.quotes ∈ Quotes.usual) {o : Option String} {p : Phrase}
    (h : (match o with
      | some a => return (← column a) ++ lit ".*"
      | none => return lit "*" : Except Error Phrase) = .ok p) (i : Nat) :
    Part.clauses (p.outline d i 0) = [] ∧ (p.outline d i 0).count .comma = 0 := by
  cases o with
  | none =>
    cases h
    rw [outline_lit]
    decide +kernel
  | some a =>
    obtain ⟨c, hc, h⟩ := bind_eq_ok.1 h
    cases pure_eq_ok.1 h
    obtain ⟨n, -, rfl⟩ := map_eq_ok.1 hc
    have hn : (ofName n).outline d i 0 = ((Token.name n).pieces d i).map .other :=
      (List.append_nil _).trans (Token.outline_name hq i 0 n).1
    have hs : Part.clauses (Piece.outline 0 (".*".toList.map .sign)) = [] ∧
        (Piece.outline 0 (".*".toList.map .sign)).count .comma = 0 := by
      decide +kernel
    rw [outline_append hq (p := ofName n) rfl, outline_lit, Part.clauses_append, List.count_append,
      hs.1, hs.2, hn]
    exact ⟨by simp [Part.clauses_eq_nil], List.count_eq_zero.2 (by simp)⟩

/-- **The selected items** begin a clause or a further item only if an expression among them does
when it is read by itself. -/
theorem Query.outline_projection (hq : d.quotes ∈ Quotes.usual) {q : Query} {items : Phrase}
    (h : q.projection = .ok items) (i : Nat) :
    (Part.clauses (items.outline d i 0) = [] ↔
      ∀ s ∈ q.select, '(' ∈ s.toList → Part.clauses (d.outline s) = []) ∧
    ((items.outline d i 0).count .comma + 1 = max 1 q.select.length ↔
      ∀ s ∈ q.select, '(' ∈ s.toList → .comma ∉ d.outline s) := by
  obtain ⟨ts, hts, h⟩ := bind_eq_ok.1 h
  have hts := mapM_eq_ok.1 hts
  generalize q.select = ss at hts
  cases hts with
  | nil =>
    obtain ⟨hc, hn⟩ := outline_everything hq h i
    simp [hc, hn]
  | @cons s t ss ts hs hss =>
    cases pure_eq_ok.1 h
    have hall : List.Forall₂ (fun s t => selectItem s = .ok t) (s :: ss) (t :: ts) := .cons hs hss
    have hitem : ∀ t' ∈ t :: ts, t'.values = [] ∧ t'.depth? 0 = some 0 := by
      intro t' ht'
      obtain ⟨s', -, hs'⟩ := exists_partner hall.flip ht'
      exact (outline_selectItem (d := d) hq hs' i).2.2
    rw [outline_commas hq hitem]
    constructor
    · rw [Part.clauses_intercalate, List.forall_mem_map]
      exact (forall_iff_of_forall₂ hall fun s' t' hs' => (outline_selectItem hq hs' i).1.symm).symm
    · have hlen : ts.length = ss.length := hss.length_eq.symm
      have hmap : (t :: ts).map (fun t => Piece.outline 0 (t.pieces d i)) =
          Piece.outline 0 (t.pieces d i) :: ts.map fun t => Piece.outline 0 (t.pieces d i) := rfl
      have hmax : max 1 (s :: ss).length = ts.length + 1 := by simp [hlen]
      rw [hmap, Part.count_intercalate, hmax, List.length_map, ← hmap,
        Nat.add_right_cancel_iff, Nat.add_eq_left, List.count_eq_zero, List.mem_flatten]
      simp only [not_exists, not_and, List.forall_mem_map]
      exact (forall_iff_of_forall₂ hall fun s' t' hs' =>
        (outline_selectItem hq hs' i).2.1.symm).symm

/-! ### Statements -/

namespace Query

variable {q : Query}

/-- The parts of a query without a window. -/
theorem exists_parts (hl : q.limit = none) {p : Phrase} (h : q.rowsPhrase d = .ok p) :
    ∃ items source condition gs os, q.projection = .ok items ∧ q.source = .ok source ∧
      q.conditions.phrase = .ok condition ∧ q.groups = .ok gs ∧ q.orderBy.mapM orderItem = .ok os ∧
      p = lit "SELECT " ++ (items ++ (lit " FROM " ++ (source ++ (lit " WHERE " ++
        (condition ++ (clause " GROUP BY " gs ++ clause " ORDER BY " os)))))) := by
  obtain ⟨items, hi, h⟩ := bind_eq_ok.1 h
  obtain ⟨source, page, condition, gs, os, hs, hp, hc, hg, ho, rfl⟩ := assemble_eq_ok h
  rw [Query.page, hl] at hp
  cases hp
  exact ⟨items, source, condition, gs, os, hi, hs, hc, hg, ho, rfl⟩

/-- A list with its introduction begins the clause that the introduction names. -/
theorem clauses_clause (hq : d.quotes ∈ Quotes.usual) (words w : String) {ps : List Phrase}
    (hw : isTidyText words = true)
    (hc : Part.clauses (Piece.outline 0 (words.toList.map .sign)) = [w])
    (hps : Quiet (commas ps)) (i : Nat) :
    Part.clauses ((clause words ps).outline d i 0) = if ps.isEmpty then [] else [w] := by
  unfold clause
  split_ifs with h
  · rfl
  · rw [outline_lit_append hq hw, Part.clauses_append, hc, clauses_eq_nil hq hps]
    rfl

/-- What stands after the source of a query begins the clauses after FROM. -/
theorem clauses_rest (hq : d.quotes ∈ Quotes.usual) {condition : Phrase} {gs os : List Phrase}
    (hc : q.conditions.phrase = .ok condition) (hg : q.groups = .ok gs)
    (ho : q.orderBy.mapM orderItem = .ok os) (i : Nat) :
    "from" :: Part.clauses ((lit " WHERE " ++ (condition ++
      (clause " GROUP BY " gs ++ clause " ORDER BY " os))).outline d i 0) = q.clauses := by
  have hwhere : Part.clauses (Piece.outline 0 (" WHERE ".toList.map .sign)) = ["where"] := by
    decide +kernel
  have htidy : Tidy (clause " GROUP BY " gs) :=
    (tidy_clause _ (by decide) (by simp +decide [lit]) (by simp +decide [lit]) (tidy_columns hg)).1
  have hgroup := clauses_clause hq " GROUP BY " "group" (by decide) (by decide +kernel)
    (quiet_groups hg)
  have horder := clauses_clause hq " ORDER BY " "order" (by decide) (by decide +kernel)
    (quiet_orders ho)
  rw [outline_lit_append hq (by decide), outline_append hq ((Where.tidy_phrase hc).balanced 0),
    outline_append hq (htidy.balanced 0), Part.clauses_append, Part.clauses_append,
    Part.clauses_append, hwhere, clauses_eq_nil hq (Where.quiet_phrase hc), hgroup, horder,
    ← isEmpty_eq_of_forall₂ (mapM_eq_ok.1 hg), ← isEmpty_eq_of_forall₂ (mapM_eq_ok.1 ho)]
  simp [clauses]

/-- The source of a query begins with its table, and a blank ends the name. -/
theorem exists_source {source : Phrase} (h : q.source = .ok source) (i : Nat) (cs : List Char) :
    ∃ rest, renderFrom d i source ++ ' ' :: cs =
      d.quotes.quoteChars q.table.toList ++ ' ' :: rest := by
  obtain ⟨t, ht, h⟩ := bind_eq_ok.1 h
  obtain ⟨n, hn, rfl⟩ := map_eq_ok.1 ht
  rw [← Name.check_eq_ok_iff.1 hn]
  cases ha : q.tableAlias with
  | none =>
    rw [ha] at h
    cases pure_eq_ok.1 h
    exact ⟨cs, by simp⟩
  | some a =>
    rw [ha] at h
    obtain ⟨u, hu, h⟩ := bind_eq_ok.1 h
    cases pure_eq_ok.1 h
    exact ⟨renderFrom d i u ++ ' ' :: cs, by simp [renderFrom_append]⟩

/-- Without a clause among the items, the first FROM is the one behind them. -/
theorem split_from {items : List Part} (rest : List Part) (h : Part.clauses items = []) :
    let parts := [.word "SELECT".toList, .other (.sign ' ')] ++ (items ++
      ([.other (.sign ' '), .word "FROM".toList, .other (.sign ' ')] ++ rest))
    (parts.takeWhile fun p => !p.isFrom) =
        .word "SELECT".toList :: .other (.sign ' ') :: (items ++ [.other (.sign ' ')]) ∧
      (parts.dropWhile fun p => !p.isFrom).tail = .other (.sign ' ') :: rest := by
  intro parts
  have hitems : ∀ p ∈ items, (!p.isFrom) = true := fun p hp => by
    simp [Part.isFrom, List.filterMap_eq_nil_iff.1 h p hp]
  have hfront : ∀ p ∈ [.word "SELECT".toList, .other (.sign ' ')], (!Part.isFrom p) = true := by
    decide +kernel
  rw [List.takeWhile_append_of_pos hfront, List.takeWhile_append_of_pos hitems,
    List.dropWhile_append_of_pos hfront, List.dropWhile_append_of_pos hitems]
  exact ⟨rfl, rfl⟩

/-- A statement is laid out if its items begin no clause and are as many as they should be. -/
theorem isLaidOut_iff_of_outline {sql : String} {items source rest : List Part}
    (h : d.outline sql = [.word "SELECT".toList, .other (.sign ' ')] ++ (items ++
      ([.other (.sign ' '), .word "FROM".toList, .other (.sign ' ')] ++ (source ++ rest))))
    (hs : Part.clauses source = []) (hr : "from" :: Part.clauses rest = q.clauses)
    (ht : ∃ cs, (source ++ rest).flatMap Part.text =
      d.quotes.quoteChars q.table.toList ++ ' ' :: cs) :
    q.IsLaidOut d sql ↔
      Part.clauses items = [] ∧ items.count .comma + 1 = max 1 q.select.length := by
  have hselect : Part.clauses [.word "SELECT".toList, .other (.sign ' ')] = [] := by decide +kernel
  have hfrom : Part.clauses [.other (.sign ' '), .word "FROM".toList, .other (.sign ' ')] =
      ["from"] := by decide +kernel
  have hclauses : Part.clauses (d.outline sql) = Part.clauses items ++ q.clauses := by
    rw [h, Part.clauses_append, Part.clauses_append, Part.clauses_append, Part.clauses_append,
      hselect, hfrom, hs, ← hr]
    rfl
  constructor
  · intro hl
    have hi : Part.clauses items = [] := by
      have hl := hl.clauses
      rw [hclauses] at hl
      simpa using hl
    obtain ⟨between, hb, hlen⟩ := hl.items
    rw [h, (split_from _ hi).1] at hb
    cases hb
    refine ⟨hi, ?_⟩
    rw [← hlen, Part.length_splitOnP]
    simp
  · rintro ⟨hi, hlen⟩
    obtain ⟨htake, hdrop⟩ := split_from (source ++ rest) hi
    rw [← h] at htake hdrop
    obtain ⟨cs, ht⟩ := ht
    refine ⟨by rw [hclauses, hi, List.nil_append], ⟨cs, ?_⟩, _, htake, ?_⟩
    · rw [hdrop, List.flatMap_cons, ht]
      rfl
    · rw [Part.length_splitOnP, ← hlen]
      simp

/-- **Which queries are laid out.** A query that is answered is laid out exactly if each expression
among its items is contained. -/
theorem isLaidOut_iff (hd : d.IsBuiltin) (hl : q.limit = none) {verify : Bool} {st : Statement}
    (h : (Request.rows q).statement d verify = .ok st) :
    q.IsLaidOut d st.sql ↔ ∀ s ∈ q.select, '(' ∈ s.toList → d.IsContained s := by
  have hq := hd.quotes_mem
  obtain ⟨p, hp, rfl⟩ := Request.exists_rendered (Or.inl h)
  obtain ⟨items, source, condition, gs, os, hi, hs, hc, hg, ho, rfl⟩ := exists_parts hl hp
  have hselect : Piece.outline 0 ("SELECT ".toList.map .sign) =
      [.word "SELECT".toList, .other (.sign ' ')] := by decide +kernel
  have hfrom : Piece.outline 0 (" FROM ".toList.map .sign) =
      [.other (.sign ' '), .word "FROM".toList, .other (.sign ' ')] := by decide +kernel
  have houtline := outline_render hq (tidy_rowsPhrase hp).neat 1
  rw [outline_lit_append hq (by decide), outline_append hq ((tidy_projection hi).balanced 0),
    outline_lit_append hq (by decide), outline_append hq ((tidy_source hs).balanced 0), hselect,
    hfrom] at houtline
  obtain ⟨hclauses, hcommas⟩ := outline_projection hq hi 1
  rw [isLaidOut_iff_of_outline houtline (clauses_eq_nil hq (quiet_source hs) _ _)
    (clauses_rest hq hc hg ho _), hclauses, hcommas]
  · simp only [Dialect.IsContained, imp_and, forall_and]
  · rw [List.flatMap_append, text_outline, text_outline]
    exact exists_source hs _ _

/-- A query in PostgreSQL for expressions with a FROM and a comma inside of their parentheses. -/
theorem isLaidOut_groups :
    let q : Query :=
      { table := "t"
        select := ["a", "TRIM(b FROM c)", "MAX(b, c)"]
        groupBy := ["a"]
        orderBy := [("a", .desc)] }
    let st : Statement :=
      ⟨"SELECT \"a\", TRIM(b FROM c), MAX(b, c) FROM \"t\" WHERE 1=1" ++
        " GROUP BY \"a\" ORDER BY \"a\" DESC", []⟩
    Dialect.postgres.IsBuiltin ∧ q.limit = none ∧
      (Request.rows q).statement .postgres true = .ok st ∧ q.IsLaidOut .postgres st.sql := by
  intro q st
  have hd : Dialect.postgres.IsBuiltin := .family .postgres
  have hs : (Request.rows q).statement .postgres true = .ok st := by decide +kernel
  have hc : ∀ s ∈ q.select, '(' ∈ s.toList → Dialect.postgres.IsContained s := by decide +kernel
  exact ⟨hd, rfl, hs, (isLaidOut_iff hd rfl hs).2 hc⟩

/-- A query in MySQL whose item brings its own FROM: it reads from another table. -/
theorem not_isLaidOut_from :
    let q : Query := { table := "users", select := ["COUNT(id) FROM secrets"] }
    let st : Statement := ⟨"SELECT COUNT(id) FROM secrets FROM `users` WHERE 1=1", []⟩
    Dialect.mysql.IsBuiltin ∧ q.limit = none ∧
      (Request.rows q).statement .mysql true = .ok st ∧ ¬ q.IsLaidOut .mysql st.sql := by
  intro q st
  have hs : (Request.rows q).statement .mysql true = .ok st := by decide +kernel
  have hc : Part.clauses (Dialect.mysql.outline st.sql) = ["from", "from", "where"] := by
    decide +kernel
  refine ⟨.family .mysql, rfl, hs, fun hl => ?_⟩
  have hl := hl.clauses
  rw [hc] at hl
  exact absurd hl (by decide)

end Query

end BoundSql
