import BoundSql.Proofs.Phrase.Pieces
import BoundSql.Proofs.Request.Tidy
import BoundSql.Proofs.Statement.Placeholders

/-!
# Windows of rows

Asking for a window of rows changes nothing else in the statement of a query. The query is answered
with the window if and only if it is answered without it, apart from the one dialect that cannot
skip rows; and the statement with the window is the one without it, with the order that the page
needs and the page at its end, with the two parts of the page around it, or with the page behind its
first word and every placeholder numbered one higher (`Query.paged`).
-/

namespace BoundSql

open Phrase

/-! ### Renumbering -/

/-- A placeholder with the number it bears changed. A bare question mark bears none. -/
def PlaceholderStyle.renumber (s : PlaceholderStyle) (f : Nat → Nat) (token : String) :
    List Char :=
  if s = .question then token.toList
  else token.toList.filter (fun c => !c.isDigit) ++
    digits (f (Nat.ofDigitChars 10 (token.toList.filter Char.isDigit) 0))

namespace Dialect

/-- The text of a piece, with the number changed if it is a placeholder. -/
def renumberPiece (d : Dialect) (f : Nat → Nat) : Piece → List Char
  | .place t => d.placeholders.renumber f t
  | x => x.text

/-- A text with the numbers of its placeholders changed. -/
def renumber (d : Dialect) (f : Nat → Nat) (text : String) : String :=
  String.ofList ((d.scanner.pieces .plain text.toList).flatMap (d.renumberPiece f))

end Dialect

theorem PlaceholderStyle.renumber_render (s : PlaceholderStyle) (f : Nat → Nat) (i : Nat) :
    s.renumber f (s.render i) = s.chars (f i) := by
  have hd : ∀ c ∈ digits i, c.isDigit = true := fun c hc =>
    Nat.isDigit_of_mem_toDigits (by decide) (by decide) hc
  have h1 : (digits i).filter Char.isDigit = digits i := List.filter_eq_self.2 hd
  have h2 : (digits i).filter (fun c => !c.isDigit) = [] :=
    List.filter_eq_nil_iff.2 fun c hc => by simp [hd c hc]
  have h3 : Nat.ofDigitChars 10 (digits i) 0 = i :=
    Nat.ofDigitChars_toDigits (by decide) (by decide)
  unfold renumber
  rw [toList_render]
  cases s with
  | question => rfl
  | dollar | colon => simp [sigil, label, chars, h1, h2, h3]
  | atSign => simp [sigil, label, chars, h1, h2, h3]

variable {d : Dialect}

theorem Token.renumber_pieces (hq : d.quotes ∈ Quotes.usual) (k i : Nat) (t : Token) :
    (t.pieces d i).flatMap (d.renumberPiece (· + k)) = t.chars d (i + k) := by
  cases t with
  | text s => simp [pieces, chars, Dialect.renumberPiece, Piece.text, List.flatMap_map]
  | fragment f => simp [pieces, chars, Dialect.renumberPiece, Piece.text, List.flatMap_map]
  | value v =>
    rw [pieces, List.flatMap_cons, Dialect.renumberPiece, PlaceholderStyle.renumber_render]
    exact List.append_nil _
  | name n =>
    -- A name holds no placeholder, so nothing in it changes.
    have hno : ((Token.name n).pieces d i).filterMap Piece.place? = [] :=
      List.length_eq_zero_iff.1 ((Token.name n).length_places_pieces hq i)
    have hsame : ∀ x ∈ (Token.name n).pieces d i, d.renumberPiece (· + k) x = x.text := by
      intro x hx
      have hx := List.filterMap_eq_nil_iff.1 hno x hx
      cases x with
      | place t => cases hx
      | _ => rfl
    rw [List.flatMap_congr hsame]
    exact Scanner.text_pieces _ _

theorem Phrase.renumber_pieces (hq : d.quotes ∈ Quotes.usual) (k i : Nat) (p : Phrase) :
    (p.pieces d i).flatMap (d.renumberPiece (· + k)) = renderFrom d (i + k) p := by
  induction p generalizing i with
  | nil => rfl
  | cons t p ih =>
    rw [pieces, List.flatMap_append, t.renumber_pieces hq, ih, renderFrom_cons, Nat.add_right_comm]

/-- **Renumbering a text** is numbering its phrase from a later number on. -/
theorem Phrase.renumber_render (hq : d.quotes ∈ Quotes.usual) {p : Phrase} (hn : Neat p)
    (k i : Nat) : d.renumber (· + k) (p.render d i) = p.render d (i + k) := by
  rw [Dialect.renumber, pieces_render hq hn, renumber_pieces hq, render]

/-! ### Pages -/

/-- The query without its window of rows. -/
def Query.unlimited (q : Query) : Query := { q with limit := none }

/-- What a page adds to the statement `base` of a query without its window to make `st`. -/
def Page.Adds (d : Dialect) (q : Query) (w : Window) (base st : Statement) : Page → Prop
  | suffix p =>
    st.sql = base.sql ++
        (if q.orderBy.isEmpty && d.pageNeedsOrder then " ORDER BY (SELECT NULL)" else "") ++ " " ++
        p.render d (base.params.length + 1) ∧
      st.params = base.params ++ p.values
  | wrap p c =>
    st.sql = p.render d 1 ++ base.sql ++ c.render d (base.params.length + 1) ∧
      st.params = base.params ++ c.values
  | leading _ =>
    (∃ rest, base.sql = "SELECT " ++ rest ∧
        st.sql = "SELECT TOP (@p1) " ++ d.renumber (· + 1) rest) ∧
      st.params = .nat w.count :: base.params

/-- Only SQL Server before 2012 cannot skip rows. -/
theorem Dialect.IsBuiltin.paging_eq_top_iff (hd : d.IsBuiltin) :
    d.paging = .top ↔ d = .sqlServerLegacy := by
  cases hd with
  | family f => cases f <;> decide
  | sqlServerLegacy => decide
  | oracleVersion v =>
    constructor
    · intro h
      change (if 12 ≤ v then PageStyle.offsetFetch else .rowNumber) = .top at h
      split_ifs at h
    · intro h
      have hn : "oracle" = "sqlserver" := congrArg Dialect.name h
      exact absurd hn (by decide)

/-- A dialect has a page for every window, unless it cannot skip the rows before it. -/
theorem Dialect.exists_page_iff (w : Window) :
    (∃ x, d.page w = .ok x) ↔ (d.paging = .top → w.offset = 0) := by
  unfold page
  cases hp : d.paging with
  | top =>
    by_cases h : w.offset = 0
    · simp [h]
    · simp [h]
  | _ => simp

/-- A page is one at the end, one around the statement whose first part binds nothing, or a number
of rows in front. -/
theorem Dialect.page_cases {w : Window} {x : Page} (h : d.page w = .ok x) :
    (∃ p, x = .suffix p) ∨ (∃ s c, x = .wrap (lit s) c) ∨
      (d.paging = .top ∧ x = .leading (lit "TOP (" ++ ofValue (.nat w.count) ++ lit ")")) := by
  unfold page at h
  cases hp : d.paging <;> rw [hp] at h <;> dsimp only at h
  case top =>
    split_ifs at h
    cases h
    exact Or.inr (Or.inr ⟨rfl, rfl⟩)
  case rowNumber =>
    cases h
    exact Or.inr (Or.inl ⟨_, _, rfl⟩)
  all_goals
    cases h
    exact Or.inl ⟨_, rfl⟩

/-- What a page adds to the text and to the values of a statement that begins like a query. -/
theorem Page.adds_addPage (hd : d.IsBuiltin) {q : Query} {w : Window} {x : Page}
    (hx : d.page w = .ok x) {body rest : Phrase} (hb : body = lit "SELECT " ++ rest)
    (hn : Neat rest) {p : Phrase} (hp : p = Query.addPage d (!q.orderBy.isEmpty) (some x) body) :
    x.Adds d q w ⟨body.render d 1, body.values⟩ ⟨p.render d 1, p.values⟩ := by
  rcases d.page_cases hx with ⟨y, rfl⟩ | ⟨s, y, rfl⟩ | ⟨htop, rfl⟩
  · cases ho : (q.orderBy.isEmpty && d.pageNeedsOrder) with
    | true =>
      have hp : p = body ++ lit " ORDER BY (SELECT NULL)" ++ lit " " ++ y := by
        simpa [Query.addPage, Bool.not_not, ho, apply] using hp
      constructor
      · apply String.toList_inj.1
        simp [hp, ho, renderFrom_append, Nat.add_comm]
      · simp [hp]
    | false =>
      have hp : p = body ++ lit " " ++ y := by
        simpa [Query.addPage, Bool.not_not, ho, apply] using hp
      constructor
      · apply String.toList_inj.1
        simp [hp, ho, renderFrom_append, Nat.add_comm]
      · simp [hp]
  · have hp : p = lit s ++ body ++ y := hp
    constructor
    · apply String.toList_inj.1
      simp [hp, renderFrom_append, Nat.add_comm]
    · simp [hp]
  · obtain rfl := hd.paging_eq_top_iff.1 htop
    have hp : p = lit "SELECT " ++ (lit "TOP (" ++ ofValue (.nat w.count) ++ lit ")") ++ lit " " ++
        (lit "" ++ rest) := by
      rw [hp, hb]
      exact Query.apply_leading _ rest
    refine ⟨⟨rest.render .sqlServerLegacy 1, ?_, ?_⟩, ?_⟩
    · apply String.toList_inj.1
      simp [hb, renderFrom_append]
    · have hchars : Dialect.sqlServerLegacy.placeholders.chars 1 = ['@', 'p', '1'] := by decide
      rw [renumber_render hd.quotes_mem hn]
      apply String.toList_inj.1
      simp [hp, renderFrom_append, hchars]
    · simp [hp, hb]

namespace Query

variable {q : Query} {w : Window}

/-- With a page, a statement is the one without it and the page added. -/
theorem agree_assemble_unlimited {x : Page} (hl : q.limit = some w) (hx : d.page w = .ok x)
    (items : Phrase) :
    Agree (fun p body => p = addPage d (!q.orderBy.isEmpty) (some x) body)
      (q.assemble d items) (q.unlimited.assemble d items) := by
  have hp : q.page d = .ok (some x) := by simp [Query.page, hl, hx, Except.map]
  have hp' : q.unlimited.page d = .ok none := rfl
  unfold assemble
  rw [hp, hp']
  refine .bind_same fun source => ?_
  change Agree _ (q.conditions.phrase >>= _) (q.conditions.phrase >>= _)
  refine .bind_same fun condition => .bind_same fun gs => .bind_known fun os ho => agree_pure ?_
  -- There is an order among the phrases exactly if there is one in the description.
  have he : q.orderBy.isEmpty = os.isEmpty := isEmpty_eq_of_forall₂ (mapM_eq_ok.1 ho)
  rw [he]
  rfl

theorem exists_page_of_assemble {items p : Phrase} (hl : q.limit = some w)
    (h : q.assemble d items = .ok p) : ∃ x, d.page w = .ok x := by
  obtain ⟨source, -, h⟩ := bind_eq_ok.1 h
  obtain ⟨page, hp, -⟩ := bind_eq_ok.1 h
  unfold Query.page at hp
  rw [hl] at hp
  obtain ⟨x, hx, -⟩ := map_eq_ok.1 hp
  exact ⟨x, hx⟩

/-- A statement without a page begins with the word that begins every query. -/
theorem exists_rest_of_assemble {items body : Phrase} (hi : Tidy items)
    (h : q.unlimited.assemble d items = .ok body) :
    ∃ rest, body = lit "SELECT " ++ rest ∧ Neat rest := by
  have hneat := (tidy_assemble hi h).neat
  obtain ⟨source, page, condition, gs, os, -, hp, -, -, -, rfl⟩ := assemble_eq_ok h
  cases hp
  exact ⟨_, rfl, (neat_append.1 hneat).2.1⟩

/-! ### The two statements with windows -/

variable {kind : Query → Request} (hk : kind = .rows ∨ kind = .aggregate)

include hk

/-- Both statements read items that do not depend on the window. -/
theorem exists_items (d : Dialect) (q : Query) : ∃ items : Except Error Phrase,
    (∀ p, items = .ok p → Tidy p) ∧ (kind q).phrase d = (items >>= q.assemble d) ∧
      (kind q.unlimited).phrase d = (items >>= q.unlimited.assemble d) := by
  rcases hk with rfl | rfl
  · exact ⟨q.projection, fun _ => tidy_projection, rfl, rfl⟩
  · exact ⟨q.aggregateProjection, fun _ => tidy_aggregateProjection, rfl, rfl⟩

theorem agree_phrase_unlimited {x : Page} (hl : q.limit = some w) (hx : d.page w = .ok x) :
    Agree (fun p body => p = addPage d (!q.orderBy.isEmpty) (some x) body)
      ((kind q).phrase d) ((kind q.unlimited).phrase d) := by
  obtain ⟨items, -, hq, hu⟩ := exists_items hk d q
  rw [hq, hu]
  exact .bind_same fun i => agree_assemble_unlimited hl hx i

theorem exists_page_of_phrase {p : Phrase} (hl : q.limit = some w)
    (h : (kind q).phrase d = .ok p) : ∃ x, d.page w = .ok x := by
  obtain ⟨items, -, hq, -⟩ := exists_items hk d q
  rw [hq] at h
  obtain ⟨i, -, h⟩ := bind_eq_ok.1 h
  exact exists_page_of_assemble hl h

theorem exists_rest_of_phrase {body : Phrase} (h : (kind q.unlimited).phrase d = .ok body) :
    ∃ rest, body = lit "SELECT " ++ rest ∧ Neat rest := by
  obtain ⟨items, hi, -, hu⟩ := exists_items hk d q
  rw [hu] at h
  obtain ⟨i, hitems, h⟩ := bind_eq_ok.1 h
  exact exists_rest_of_assemble (hi i hitems) h

theorem exists_phrase_iff (hl : q.limit = some w) : (∃ p, (kind q).phrase d = .ok p) ↔
    (∃ body, (kind q.unlimited).phrase d = .ok body) ∧ ∃ x, d.page w = .ok x := by
  constructor
  · rintro ⟨p, hp⟩
    obtain ⟨x, hx⟩ := exists_page_of_phrase hk hl hp
    exact ⟨(agree_phrase_unlimited hk hl hx).exists_ok_iff.1 ⟨p, hp⟩, x, hx⟩
  · rintro ⟨hb, x, hx⟩
    exact (agree_phrase_unlimited hk hl hx).exists_ok_iff.2 hb

/-- **A window of rows changes nothing else.** A query is answered with its window if and only if it
is answered without it, except that SQL Server before 2012 cannot skip rows; and the one statement
is the other with the page added. -/
theorem paged (hd : d.IsBuiltin) (hl : q.limit = some w) (verify : Bool) :
    ((∃ st, (kind q).statement d verify = .ok st) ↔
      (∃ base, (kind q.unlimited).statement d verify = .ok base) ∧
        (d = .sqlServerLegacy → w.offset = 0)) ∧
    ∀ base st, (kind q.unlimited).statement d verify = .ok base →
      (kind q).statement d verify = .ok st →
      ∃ x, d.page w = .ok x ∧ x.Adds d q w base st := by
  constructor
  · rw [Request.exists_statement_iff hd, Request.exists_statement_iff hd, ← hd.paging_eq_top_iff,
      ← d.exists_page_iff w]
    exact exists_phrase_iff hk hl
  · intro base st hbase hst
    obtain ⟨body, hb, rfl⟩ := Request.exists_rendered (Or.inl hbase)
    obtain ⟨p, hp, rfl⟩ := Request.exists_rendered (Or.inl hst)
    obtain ⟨x, hx⟩ := exists_page_of_phrase hk hl hp
    obtain ⟨rest, hrest, hn⟩ := exists_rest_of_phrase hk hb
    have ha := agree_phrase_unlimited hk hl hx
    rw [hp, hb] at ha
    exact ⟨x, hx, Page.adds_addPage hd hx hrest hn ha⟩

omit hk

/-- The first rows in SQL Server before 2012. -/
theorem paged_top :
    let q : Query :=
      { table := "users"
        conditions := [⟨"age", .between, .list [.int 18, .int 30], .and⟩]
        limit := some ⟨0, 5⟩ }
    let base : Statement :=
      ⟨"SELECT * FROM [users] WHERE 1=1 AND [age] BETWEEN @p1 AND @p2", [.int 18, .int 30]⟩
    let st : Statement :=
      ⟨"SELECT TOP (@p1) * FROM [users] WHERE 1=1 AND [age] BETWEEN @p2 AND @p3",
        [.nat 5, .int 18, .int 30]⟩
    Dialect.sqlServerLegacy.IsBuiltin ∧ q.limit = some ⟨0, 5⟩ ∧
      (Request.rows q.unlimited).statement .sqlServerLegacy true = .ok base ∧
      (Request.rows q).statement .sqlServerLegacy true = .ok st ∧
      ∃ x, Dialect.sqlServerLegacy.page ⟨0, 5⟩ = .ok x ∧
        x.Adds .sqlServerLegacy q ⟨0, 5⟩ base st := by
  intro q base st
  have hd : Dialect.sqlServerLegacy.IsBuiltin := .sqlServerLegacy
  have hl : q.limit = some ⟨0, 5⟩ := rfl
  have hb : (Request.rows q.unlimited).statement .sqlServerLegacy true = .ok base := by
    decide +kernel
  have hs : (Request.rows q).statement .sqlServerLegacy true = .ok st := by decide +kernel
  exact ⟨hd, hl, hb, hs, (paged (Or.inl rfl) hd hl true).2 base st hb hs⟩

end Query

end BoundSql
