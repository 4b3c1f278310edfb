import BoundSql.Proofs.Bindings.Writer
import BoundSql.Proofs.Phrase.Lexemes
import BoundSql.Proofs.Statement.Placeholders
import BoundSql.Proofs.Where.Reading

/-!
# Decoding a condition

From the text of a condition and the bound values alone one can tell its predicates: how each is
joined, the name of its column, the words of its operator and its values
(`Bindings.decode_bindWhere`). The text is flat, and AND stands both before a predicate and inside a
range. What tells the two apart is the next lexeme, which is a word, namely a name, in the first
case and a value in the second.
-/

namespace BoundSql

open Phrase Lexeme

namespace Condition

/-! ### The decoder -/

/-- What a condition says of one predicate. -/
structure Clause where
  connective : Connective
  field : String
  operator : String
  values : List Value
  deriving DecidableEq

/-- The words at the beginning. -/
def leadingWords : List Lexeme → List String
  | .word cs :: ls => String.ofList cs :: leadingWords ls
  | _ => []

/-- The value of a lexeme, if it is one. -/
def value? : Lexeme → Option Value
  | .value v => some v
  | _ => none

/-- The clause with the given connective, column and rest. -/
def Clause.make (c : Connective) (field : List Char) (rest : List Lexeme) : Clause :=
  ⟨c, String.ofList field, " ".intercalate (leadingWords rest), rest.filterMap value?⟩

/-- A lexeme that belongs to what stands before the next clause. -/
def push (l : Lexeme) (x : List Lexeme × List Clause) : List Lexeme × List Clause :=
  (l :: x.1, x.2)

/-- What stands before the first clause, and the clauses. A clause begins with a connective and
another word. -/
def clauses : List Lexeme → List Lexeme × List Clause
  | [] => ([], [])
  | .word w :: .word field :: ls =>
    match connective? (String.ofList w) with
    | some c => ([], .make c field (clauses ls).1 :: (clauses ls).2)
    | none => push (.word w) (clauses (.word field :: ls))
  | l :: ls => push l (clauses ls)

/-- The clauses of a condition, which follow a comparison that always holds. -/
def decode (ls : List Lexeme) : Option (List Clause) :=
  match clauses ls with
  | ([.word w], cs) => if String.ofList w = "1=1" then some cs else none
  | _ => none

/-! ### What belongs to a clause -/

/-- Lexemes that leave the clauses after them as they are. -/
def IsInner (ls : List Lexeme) : Prop :=
  ∀ rest, clauses (ls ++ rest) = (ls ++ (clauses rest).1, (clauses rest).2)

theorem clauses_word {w : List Char} (h : connective? (String.ofList w) = none)
    (ls : List Lexeme) : clauses (.word w :: ls) = push (.word w) (clauses ls) := by
  cases ls with
  | nil => rfl
  | cons l ls =>
    cases l with
    | word f => rw [clauses, h]
    | _ => rfl

theorem clauses_connective {w field : List Char} {c : Connective}
    (h : connective? (String.ofList w) = some c) (ls : List Lexeme) :
    clauses (.word w :: .word field :: ls) =
      ([], .make c field (clauses ls).1 :: (clauses ls).2) := by
  rw [clauses, h]

theorem isInner_nil : IsInner [] := fun _ => rfl

theorem IsInner.cons {l : Lexeme} {ls : List Lexeme}
    (hl : ∀ rest, clauses (l :: rest) = push l (clauses rest)) (h : IsInner ls) :
    IsInner (l :: ls) := by
  intro rest
  rw [List.cons_append, hl, h rest]
  rfl

theorem IsInner.word {w : List Char} {ls : List Lexeme}
    (hw : connective? (String.ofList w) = none) (h : IsInner ls) : IsInner (.word w :: ls) :=
  h.cons (clauses_word hw)

theorem IsInner.mark {c : Char} {ls : List Lexeme} (h : IsInner ls) : IsInner (.mark c :: ls) :=
  h.cons fun _ => rfl

theorem IsInner.value {v : Value} {ls : List Lexeme} (h : IsInner ls) : IsInner (.value v :: ls) :=
  h.cons fun _ => rfl

/-- The AND of a range is inner, because a value follows it. -/
theorem IsInner.word_value {w : List Char} {v : Value} {ls : List Lexeme} (h : IsInner ls) :
    IsInner (.word w :: .value v :: ls) := by
  intro rest
  have hv := h.value (v := v) rest
  rw [List.cons_append, List.cons_append] at hv
  rw [List.cons_append, List.cons_append, clauses, hv]
  · rfl
  · simp

end Condition

/-! ### Predicates -/

/-- The operator of a predicate as it is written. -/
def Predicate.operatorText (p : Predicate) : String :=
  match p.operator with
  | .equal => "="
  | .notEqual => "<>"
  | .greater => ">"
  | .less => "<"
  | .greaterEqual => ">="
  | .lessEqual => "<="
  | .isIn => "IN"
  | .notIn => "NOT IN"
  | .contains | .startsWith | .endsWith => "LIKE"
  | .between => "BETWEEN"
  | .notBetween => "NOT BETWEEN"
  | .isNull =>
    match p.nullTest with
    | .ok t => "IS " ++ t.text
    | .error _ => ""

/-- What a condition says of a predicate. -/
def Predicate.clause (p : Predicate) : Condition.Clause :=
  ⟨p.connective, p.field, p.operatorText, p.operator.bindings p.operand⟩

namespace Condition

/-- Nothing, or something that a word does not go on into. -/
def Stops (ls : List Lexeme) : Prop := ls = [] ∨ ∃ ls', ls = blank :: ls'

/-- The values of a list and its closing parenthesis. -/
def members : List Value → List Lexeme
  | [] => [.mark ')']
  | [v] => [.value v, .mark ')']
  | v :: vs => .value v :: .mark ',' :: members vs

theorem isInner_members (vs : List Value) : IsInner (members vs) := by
  induction vs with
  | nil => exact isInner_nil.mark
  | cons v vs ih =>
    cases vs with
    | nil => exact isInner_nil.mark.value
    | cons w ws => exact ih.mark.value

theorem filterMap_members (vs : List Value) : (members vs).filterMap value? = vs := by
  induction vs with
  | nil => rfl
  | cons v vs ih =>
    cases vs with
    | nil => rfl
    | cons w ws => exact congrArg (v :: ·) ih

theorem solid_members (vs : List Value) (ls : List Lexeme) :
    solid ((commas (vs.map ofValue)).lex (.mark ')' :: ls)) = members vs ++ solid ls := by
  induction vs with
  | nil => rfl
  | cons v vs ih =>
    cases vs with
    | nil => rfl
    | cons w ws =>
      have hc : commas ((v :: w :: ws).map ofValue) =
          ofValue v ++ (lit ", " ++ commas ((w :: ws).map ofValue)) := by
        simp [commas, join, List.intercalate_cons_cons]
      rw [hc, lex_append, lex_append]
      exact congrArg (fun ls => .value v :: .mark ',' :: ls) ih

/-- A membership test, given the lexemes of its words. -/
theorem solid_member {keyword : String} {ws : List Lexeme}
    (hk : ∀ ls, solid (spellText keyword (blank :: ls)) = ws ++ solid ls) (n : Name) (o : Operand)
    (ls : List Lexeme) :
    solid ((Test.member (ofName n) keyword o).lex ls) =
      .word n.text.toList ::
        ((ws ++ .mark '(' :: members (Operator.isIn.bindings o)) ++ solid ls) := by
  -- The keyword is read up to the blank before the parenthesis, whatever stands in the list.
  have hw : ∀ ls, solid (spell n.text.toList (blank :: spellText keyword (blank :: ls))) =
      .word n.text.toList :: (ws ++ solid ls) := fun ls => congrArg _ (hk ls)
  cases o with
  | single v =>
    refine (hw (.mark '(' :: .mark ')' :: ls)).trans ?_
    simp [Operator.bindings, members]
  | list vs =>
    simp only [Test.member, lex_append]
    refine (hw (.mark '(' :: (commas (vs.map ofValue)).lex (.mark ')' :: ls))).trans ?_
    rw [solid_mark, solid_members]
    simp [Operator.bindings]

/-- A test of a column is the name of the column, and then the words of the operator and the
values. -/
theorem exists_body {p : Predicate} {n : Name} {t : Phrase} (h : p.test (ofName n) = .ok t) :
    ∃ body, IsInner body ∧ " ".intercalate (leadingWords body) = p.operatorText ∧
      body.filterMap value? = p.operator.bindings p.operand ∧
      ∀ ls, Stops ls → solid (t.lex ls) = .word n.text.toList :: (body ++ solid ls) := by
  cases Predicate.test_eq_ok.1 h with
  | @compare symbol v hs hv =>
    refine ⟨[.word symbol.toList, .value v], isInner_nil.word_value, ?_⟩
    rw [hv]
    cases ho : p.operator <;> rw [ho] at hs <;> cases hs <;>
      exact ⟨by simp [Predicate.operatorText, ho, leadingWords], rfl, fun _ _ => rfl⟩
  | @member word hw =>
    have hm := isInner_members (Operator.isIn.bindings p.operand)
    have hv := filterMap_members (Operator.isIn.bindings p.operand)
    cases ho : p.operator <;> rw [ho] at hw <;> cases hw
    · refine ⟨[.word "IN".toList] ++ .mark '(' :: members (Operator.isIn.bindings p.operand),
        (hm.mark).word (by decide), ?_, ?_, fun ls _ => solid_member (fun _ => rfl) n _ ls⟩
      · simp [Predicate.operatorText, ho, leadingWords]
      · exact hv
    · refine ⟨[.word "NOT".toList, .word "IN".toList] ++
        .mark '(' :: members (Operator.isIn.bindings p.operand),
        ((hm.mark).word (by decide)).word (by decide), ?_, ?_,
        fun ls _ => solid_member (fun _ => rfl) n _ ls⟩
      · simp [Predicate.operatorText, ho, leadingWords]
      · exact hv
  | @like v s pattern hv hs hp =>
    have ht : p.operatorText = "LIKE" ∧ p.operator.bindings p.operand = [.text pattern] := by
      rw [hv]
      cases ho : p.operator <;> rw [ho] at hp <;> cases hp <;>
        simp [Predicate.operatorText, Operator.bindings, ho, hs]
    rw [ht.1, ht.2]
    exact ⟨[.word "LIKE".toList, .value (.text pattern)], isInner_nil.word_value,
      by simp [leadingWords], rfl, fun _ _ => rfl⟩
  | @null s x ho hv hs =>
    have ht : p.operatorText = "IS " ++ x.text ∧ p.operator.bindings p.operand = [] := by
      rw [Predicate.operatorText, ho, Predicate.nullTest_eq_ok.2 ⟨s, hv, hs⟩, hv]
      exact ⟨rfl, rfl⟩
    rw [ht.1, ht.2]
    -- The last word of the test is read to its end because nothing in `ls` goes on with it.
    have hnull : IsInner [.word "NULL".toList] := isInner_nil.word (by decide)
    cases x with
    | null =>
      refine ⟨_, hnull.word (w := "IS".toList) (by decide), by simp [leadingWords, NullTest.text],
        rfl, fun ls hls => ?_⟩
      obtain rfl | ⟨ls, rfl⟩ := hls <;> rfl
    | notNull =>
      refine ⟨_, (hnull.word (w := "NOT".toList) (by decide)).word (w := "IS".toList) (by decide),
        by simp [leadingWords, NullTest.text], rfl, fun ls hls => ?_⟩
      obtain rfl | ⟨ls, rfl⟩ := hls <;> rfl
  | @range word low high hw hv =>
    have hb : IsInner [.value low, .word "AND".toList, .value high] := isInner_nil.word_value.value
    rw [hv]
    cases ho : p.operator <;> rw [ho] at hw <;> cases hw
    · exact ⟨_, hb.word (w := "BETWEEN".toList) (by decide),
        by simp [Predicate.operatorText, ho, leadingWords], rfl, fun _ _ => rfl⟩
    · exact ⟨_, (hb.word (w := "BETWEEN".toList) (by decide)).word (w := "NOT".toList) (by decide),
        by simp [Predicate.operatorText, ho, leadingWords], rfl, fun _ _ => rfl⟩

/-- A predicate is read as its clause. What follows it must begin with a clause, or be nothing. -/
theorem clauses_predicate {p : Predicate} {t : Phrase} (h : p.phrase = .ok t) {ls : List Lexeme}
    (hls : Stops ls) {cs : List Clause} (hcs : clauses (solid ls) = ([], cs)) :
    clauses (solid (t.lex ls)) = ([], p.clause :: cs) ∧ Stops (t.lex ls) := by
  obtain ⟨n, hn, h⟩ := bind_eq_ok.1 h
  obtain ⟨u, hu, h⟩ := bind_eq_ok.1 h
  cases pure_eq_ok.1 h
  obtain ⟨body, hb, ho, hv, hbody⟩ := exists_body hu
  have hc : connective? (String.ofList p.connective.text.toList) = some p.connective := by
    cases p.connective <;> rfl
  have hlex : solid ((lit " " ++ lit p.connective.text ++ lit " " ++ u).lex ls) =
      .word p.connective.text.toList :: solid (u.lex ls) := by
    cases p.connective <;> rfl
  have hclause : Clause.make p.connective n.text.toList body = p.clause := by
    rw [Clause.make, ho, hv, String.ofList_toList, Name.check_eq_ok_iff.1 hn]
    rfl
  constructor
  · rw [hlex, hbody ls hls, clauses_connective hc, hb, hcs, List.append_nil, hclause]
  · exact Or.inr ⟨_, rfl⟩

/-- Predicates one after the other are read as their clauses. -/
theorem clauses_predicates {w : Where} {ps : List Phrase}
    (h : List.Forall₂ (fun p t => Predicate.phrase p = .ok t) w ps) :
    clauses (solid (lex ps.flatten [])) = ([], w.map Predicate.clause) ∧
      Stops (lex ps.flatten []) := by
  induction h with
  | nil => exact ⟨rfl, Or.inl rfl⟩
  | @cons p t w ps hp _ ih =>
    rw [List.flatten_cons, lex_append]
    exact clauses_predicate hp ih.2 ih.1

/-- **A condition is decoded into the clauses of its predicates.** -/
theorem decode_phrase {w : Where} {clause : Phrase} (h : w.phrase = .ok clause) :
    decode clause.lexemes = some (w.effective.map Predicate.clause) := by
  rw [Where.phrase_eq] at h
  obtain ⟨ps, hps, rfl⟩ := map_eq_ok.1 h
  obtain ⟨hc, hs⟩ := clauses_predicates (mapM_eq_ok.1 hps)
  have hbase : solid ((lit "1=1").lex (lex ps.flatten [])) =
      .word "1=1".toList :: solid (lex ps.flatten []) := by
    obtain hs | ⟨ls, hs⟩ := hs <;> rw [hs] <;> rfl
  have hw : connective? (String.ofList "1=1".toList) = none := by decide
  rw [lexemes, Where.assemble, Where.base, lex_append, hbase, decode, clauses_word hw, hc]
  rfl

end Condition

/-! ### Conditions of statements -/

/-- The predicates that the text of a condition and the bound values tell, if the first placeholder
of the text has the number `i`. -/
def Dialect.decode (d : Dialect) (i : Nat) (text : String) (values : List Value) :
    Option (List Condition.Clause) :=
  Condition.decode (d.lexemes (given 1 values) i text)

namespace Bindings

variable {b : Bindings}

/-- What binding compiled items gives: their phrase rendered, and its values after those before. -/
theorem bindProgress_eq_ok {x : Progress} {assemble : List Phrase → Phrase}
    (ha : ∀ ps, Phrase.values (assemble ps) = allValues ps) {text : String} {b' : Bindings}
    (h : b.bindProgress x assemble = (.ok text, b')) :
    ∃ p, x.result assemble = .ok p ∧ text = p.render b.dialect b.next ∧
      b'.values = b.values ++ p.values := by
  obtain ⟨e, -, he⟩ | ⟨p, hp, hb⟩ := b.bindProgress_cases x ha
  · rw [h] at he
    cases he
  · rw [h] at hb
    cases hb
    exact ⟨p, hp, rfl, rfl⟩

/-- What binding a condition gives. -/
theorem bindWhere_eq_ok {w : Where} {text : String} {b' : Bindings}
    (h : b.bindWhere w = (.ok text, b')) :
    ∃ clause, w.phrase = .ok clause ∧ text = clause.render b.dialect b.next ∧
      b'.values = b.values ++ clause.values :=
  bindProgress_eq_ok Where.values_assemble h

/-- **A condition can be decoded.** Its text and the bound values tell all its predicates that are
not left out, so conditions with the same text and the same values do not differ in those. -/
theorem decode_bindWhere (hd : b.dialect.IsBuiltin) :
    (∀ w text b', b.bindWhere w = (.ok text, b') →
      b.dialect.decode b.next text b'.values = some (w.effective.map Predicate.clause)) ∧
    ∀ v w text b₁ b₂, b.bindWhere v = (.ok text, b₁) → b.bindWhere w = (.ok text, b₂) →
      b₁.values = b₂.values →
      v.effective.map Predicate.clause = w.effective.map Predicate.clause := by
  have hdecode : ∀ w text b', b.bindWhere w = (.ok text, b') →
      b.dialect.decode b.next text b'.values = some (w.effective.map Predicate.clause) := by
    intro w text b' h
    obtain ⟨clause, hc, rfl, hv⟩ := bindWhere_eq_ok h
    have hl := lexemes_render_given hd.quotes_mem (Where.tidy_phrase hc).neat b.values []
      (Nat.add_comm b.values.length 1)
    rw [List.append_nil] at hl
    rw [Dialect.decode, hv]
    exact (congrArg _ hl).trans (Condition.decode_phrase hc)
  refine ⟨hdecode, fun v w text b₁ b₂ h₁ h₂ hv => ?_⟩
  have h := hdecode v text b₁ h₁
  rw [hv, hdecode w text b₂ h₂] at h
  exact (Option.some.inj h).symm

/-- A range and a list in PostgreSQL on columns named like the words around them, with and without
a predicate that is left out. -/
theorem decode_bindWhere_range :
    let b : Bindings := { dialect := .postgres, values := [.int 7] }
    let v : Where :=
      [⟨"and", .between, .list [.int 1, .int 2], .or⟩,
        ⟨"t.in", .isIn, .list [.int 3, .int 4], .and⟩]
    let w : Where := ⟨"id", .equal, .single .null, .or⟩ :: v
    let text := "1=1 OR \"and\" BETWEEN $2 AND $3 AND \"t\".\"in\" IN ($4, $5)"
    let b' := b.extend [.int 1, .int 2, .int 3, .int 4]
    b.dialect.IsBuiltin ∧ b.bindWhere v = (.ok text, b') ∧ b.bindWhere w = (.ok text, b') ∧
      b.dialect.decode b.next text b'.values =
        some [⟨.or, "and", "BETWEEN", [.int 1, .int 2]⟩, ⟨.and, "t.in", "IN", [.int 3, .int 4]⟩] ∧
      v.effective.map Predicate.clause = w.effective.map Predicate.clause := by
  intro b v w text b'
  have hd : b.dialect.IsBuiltin := .family .postgres
  have hv : b.bindWhere v = (.ok text, b') := by decide +kernel
  have hw : b.bindWhere w = (.ok text, b') := by decide +kernel
  refine ⟨hd, hv, hw, ?_, (decode_bindWhere hd).2 v w text b' b' hv hw rfl⟩
  rw [(decode_bindWhere hd).1 w text b' hw]
  rfl

end Bindings

end BoundSql
