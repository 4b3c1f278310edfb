import BoundSql.Proofs.Phrase.Readers
import BoundSql.Proofs.Request.Names
import BoundSql.Proofs.Where.Decoding

/-!
# Decoding assignments

From the text of a list of assignments and the bound values alone one can tell the assignments that
have not been left out: the column, the mode and the value of a plain one, and both columns and all
branches of a case distinction (`Bindings.decode_bindAssignments`). The text is read in a grammar
(`Reader.assignment`), in which the lexeme after the equals sign tells what an assignment is: a
value is assigned, a name is followed by its sign, and a parenthesis opens a case distinction.
-/

namespace BoundSql

open Phrase Lexeme

/-! ### The grammar -/

namespace Reader

/-- `+` or `-` -/
def change : Reader ChangeMode :=
  (do words "+"; return .increase) <|> (do words "-"; return .decrease)

/-- `value`, or the given column with a value added or subtracted -/
def newValue (column : String) : Reader (ChangeMode × Value) :=
  (do let v ← bound; return (.assign, v)) <|>
    (do let c ← name
        let mode ← change
        let v ← bound
        if c = column then return (mode, v) else failure)

/-- `value THEN newValue` -/
def branch (column : String) : Reader Branch := do
  let key ← bound
  words "THEN"
  let (mode, result) ← newValue column
  return { mode, key, result }

/-- `(CASE column WHEN branch WHEN branch … END)` -/
def choice : Reader (String × List Branch) := do
  words "(CASE"
  let column ← name
  words "WHEN"
  let bs ← separated "WHEN" (branch column)
  words "END)"
  return (column, bs)

/-- `column = newValue` or `column = choice` -/
def assignment : Reader Assignment := do
  let f ← name
  words "="
  (do let (mode, v) ← newValue f; return .plain f mode v) <|>
    (do let (g, bs) ← choice; return .cases f g bs)

/-- `assignment, …`, or nothing -/
def assignments : Reader (List Assignment) := separated "," assignment <|> return []

/-! ### Readings -/

variable {ls : List Lexeme}

/-- A sign between two blanks. -/
theorem takes_change {mode : ChangeMode} {s : String} (h : mode.sign? = some s) (q : Phrase)
    (ls : List Lexeme) : change.Takes (lit " " ++ lit s ++ lit " ") mode (q.lex ls) := by
  cases mode <;> cases h <;> rfl

theorem takes_newValue (n : Name) (mode : ChangeMode) (v : Value) (ls : List Lexeme) :
    (newValue n.text).Takes (Assignment.newValue (ofName n) mode v) (mode, v) ls := by
  unfold Assignment.newValue
  cases hs : mode.sign? with
  | none =>
    cases mode <;> cases hs
    rfl
  | some s =>
    have hphrase : ofName n ++ lit " " ++ lit s ++ lit " " ++ ofValue v =
        ofName n ++ (lit " " ++ lit s ++ lit " " ++ ofValue v) := by simp
    -- A name is no value, so the first alternative does not read it.
    have hname : solid ((ofName n ++ (lit " " ++ lit s ++ lit " " ++ ofValue v)).lex ls) =
        .word n.text.toList :: solid ((lit " " ++ lit s ++ lit " " ++ ofValue v).lex ls) := rfl
    have hvalue : (bound >>= fun w => if n.text = n.text then pure (mode, w) else failure).Takes
        (ofValue v) (mode, v) ls := (takes_bound v ls).finish (if_pos rfl)
    dsimp only
    rw [hphrase]
    refine .orElse_right (by rw [hname]; rfl) ((takes_name n ?_).bind ?_)
    · trivial
    exact (takes_change hs (ofValue v) ls).bind hvalue

/-- What a branch is after its first word. -/
def branchBody (column : Phrase) (b : Branch) : Phrase :=
  ofValue b.key ++ (lit " THEN " ++ Assignment.newValue column b.mode b.result)

theorem takes_branch (n : Name) (b : Branch) (ls : List Lexeme) :
    (branch n.text).Takes (branchBody (ofName n) b) b ls := by
  refine (takes_bound b.key _).bind (.after_words (fun _ => rfl) ?_)
  exact (takes_newValue n b.mode b.result ls).finish rfl

/-- Branches one after the other are branches with their first word between them. -/
theorem flatMap_branchPhrase (column : Phrase) {bs : List Branch} (hne : bs ≠ []) :
    bs.flatMap (Assignment.branchPhrase column) =
      lit " WHEN " ++ join " WHEN " (bs.map (branchBody column)) := by
  induction bs with
  | nil => exact absurd rfl hne
  | cons b bs ih =>
    have hb : Assignment.branchPhrase column b = lit " WHEN " ++ branchBody column b := by
      simp [Assignment.branchPhrase, branchBody]
    cases bs with
    | nil => rw [List.flatMap_singleton, hb, List.map_singleton, join_singleton]
    | cons c cs =>
      rw [List.flatMap_cons, ih (by simp), hb, List.map_cons, List.map_cons, List.map_cons,
        join_cons_cons, List.append_assoc]

theorem separates_when : Separates " WHEN " "WHEN" :=
  ⟨fun _ => trivial, fun _ => rfl, by decide⟩

theorem takes_choice (n : Name) {bs : List Branch} (hne : bs ≠ []) (ls : List Lexeme) :
    choice.Takes (lit "(CASE " ++ (ofName n ++
      (bs.flatMap (Assignment.branchPhrase (ofName n)) ++ lit " END)"))) (n.text, bs) ls := by
  rw [flatMap_branchPhrase _ hne, List.append_assoc]
  refine .after_words (fun _ => rfl) ((takes_name n ?_).bind ?_)
  · trivial
  refine .after_words (fun _ => rfl) ?_
  have hbs : (separated "WHEN" (branch n.text)).Takes
      (join " WHEN " (bs.map (branchBody (ofName n)))) (bs.map id) ((lit " END)").lex ls) :=
    takes_separated separates_when ⟨trivial, rfl⟩ (fun b ls _ => takes_branch n b ls) hne
  rw [List.map_id] at hbs
  exact hbs.bind ((takes_words (fun _ => rfl) ls).finish rfl)

/-- An assignment that is not left out is read as it is. -/
theorem takes_assignment {a : Assignment} {p : Phrase} (h : a.phrase = .ok p)
    (hs : a.isSkipped = false) (ls : List Lexeme) : assignment.Takes p a ls := by
  cases a with
  | plain f mode v =>
    obtain ⟨n, hn, h⟩ := bind_eq_ok.1 h
    cases pure_eq_ok.1 h
    obtain rfl := Assignment.text_of_checkName hn
    rw [List.append_assoc]
    refine (takes_name n ?_).bind (.after_words (fun _ => rfl) (.orElse_left ?_))
    · trivial
    exact (takes_newValue n mode v ls).finish rfl
  | cases f g bs =>
    obtain ⟨n, hn, h⟩ := bind_eq_ok.1 h
    obtain ⟨m, hm, h⟩ := bind_eq_ok.1 h
    cases pure_eq_ok.1 h
    obtain rfl := Assignment.text_of_checkName hn
    obtain rfl := Assignment.text_of_checkName hm
    have hne : bs ≠ [] := by
      rintro rfl
      cases hs
    -- The equals sign and the parenthesis stand in one text but are two steps of the reader.
    have hphrase : ∀ q, (lit " = (CASE " ++ q).lex ls = (lit " = " ++ (lit "(CASE " ++ q)).lex ls :=
      fun q => rfl
    simp only [List.append_assoc]
    rw [Takes, lex_append, hphrase, ← lex_append]
    refine (takes_name n ?_).bind (.after_words (fun _ => rfl) ?_)
    · trivial
    exact .orElse_right rfl ((takes_choice m hne ls).finish rfl)

/-- The assignments of a statement are read as those that are not left out. -/
theorem takes_assignments {as : List Assignment} {p : Phrase}
    (h : Assignment.listPhrase as = .ok p) :
    assignments.Takes p (Assignment.effective as) [] := by
  rw [Assignment.listPhrase_eq] at h
  obtain ⟨ps, hps, rfl⟩ := map_eq_ok.1 h
  have hps := mapM_eq_ok.1 hps
  have hs : ∀ a ∈ Assignment.effective as, a.isSkipped = false := by
    intro a ha
    simpa using (List.mem_filter.1 ha).2
  cases heff : Assignment.effective as with
  | nil =>
    rw [heff] at hps
    cases hps
    rfl
  | cons a rest =>
    rw [← heff]
    have hne : ps ≠ [] := by
      rintro rfl
      rw [heff] at hps
      cases hps
    have hitems := ((List.forall₂_and_left _ _).2 ⟨hs, hps⟩).flip
    refine .orElse_left (takes_separated_of_forall₂ separates_comma ⟨trivial, rfl⟩ ?_ hne)
    exact hitems.imp fun p a ha ls _ => takes_assignment ha.2 ha.1 ls

end Reader

/-! ### Assignments of statements -/

/-- The assignments that a text and the bound values tell, if the first placeholder of the text has
the number `i`. -/
def Dialect.decodeAssignments (d : Dialect) (i : Nat) (text : String) (values : List Value) :
    Option (List Assignment) :=
  Reader.assignments.whole (d.lexemes (given 1 values) i text)

namespace Bindings

variable {b b' : Bindings} {as : List Assignment} {text : String}

/-- What binding assignments gives. -/
theorem bindAssignments_eq_ok (h : b.bindAssignments as = (.ok text, b')) :
    ∃ p, Assignment.listPhrase as = .ok p ∧ text = p.render b.dialect b.next ∧
      b'.values = b.values ++ p.values :=
  bindProgress_eq_ok Phrase.values_commas h

/-- **Assignments can be decoded** from their text and the bound values. -/
theorem decode_bindAssignments (hd : b.dialect.IsBuiltin)
    (h : b.bindAssignments as = (.ok text, b')) :
    b.dialect.decodeAssignments b.next text b'.values = some (Assignment.effective as) := by
  obtain ⟨p, hp, rfl, hv⟩ := bindAssignments_eq_ok h
  have hl : b.dialect.lexemes (given 1 (b.values ++ (p.values ++ []))) b.next
      (p.render b.dialect b.next) = p.lexemes :=
    lexemes_render_given hd.quotes_mem (Assignment.tidy_listPhrase hp).neat b.values []
      (Nat.add_comm b.values.length 1)
  have hread : Reader.assignments p.lexemes = some (Assignment.effective as, []) :=
    Reader.takes_assignments hp
  rw [List.append_nil] at hl
  rw [Dialect.decodeAssignments, hv, hl, Reader.whole, hread]

end Bindings

end BoundSql
