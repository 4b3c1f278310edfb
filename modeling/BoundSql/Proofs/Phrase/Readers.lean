import BoundSql.Form
import BoundSql.Proofs.Phrase.Lexemes
import Mathlib.Data.List.Forall2

/-!
# Readers of lexemes

A reader takes lexemes off the front of a text and says what they mean. Readers are put together as
a grammar is: one after the other, one or else another, and items with something between them.

`Reader.Takes` says what a reader makes of a phrase, given what follows the phrase. It is proved
along the phrase: `Takes.bind` for one phrase after another, `takes_separated` for a list.
-/

namespace BoundSql

open Phrase Lexeme

/-- Takes lexemes off the front of a text and says what they mean, or fails. -/
abbrev Reader := StateT (List Lexeme) Option

namespace Reader

variable {α β : Type}

/-! ### Readers -/

/-- One lexeme with the given meaning. -/
def one (meaning : Lexeme → Option α) : Reader α := fun ls =>
  match ls with
  | [] => none
  | l :: ls => (meaning l).map fun a => (a, ls)

/-- The lexemes of a fixed text. -/
def words (s : String) : Reader Unit := fun ls =>
  ((solid (spellText s [])).isPrefixOf? ls).map fun ls => ((), ls)

/-- A word that is a name. -/
def name : Reader String := one fun
  | .word cs => some (String.ofList cs)
  | _ => none

/-- A name after that of a row and a dot. -/
def columnOf (row : String) : Reader String := one fun
  | .word cs => ((row ++ ".").toList.isPrefixOf? cs).map String.ofList
  | _ => none

/-- A placeholder to which a value is given. -/
def bound : Reader Value := one fun
  | .value v => some v
  | _ => none

/-- Something in parentheses. -/
def inParens (r : Reader α) : Reader α := do
  words "("
  let a ← r
  words ")"
  return a

/-- Items with the given text between them, at most as many as the number says. -/
def upTo (sep : String) (r : Reader α) : Nat → Reader (List α)
  | 0 => failure
  | n + 1 => do
    let a ← r
    (do words sep; let as ← upTo sep r n; return a :: as) <|> return [a]

/-- Items with the given text between them. There is a lexeme between any two, so that their number
is limited by that of the lexemes. -/
def separated (sep : String) (r : Reader α) : Reader (List α) := fun ls =>
  upTo sep r (ls.length + 1) ls

/-- What all lexemes of a text mean together. -/
def whole (r : Reader α) (ls : List Lexeme) : Option α :=
  match r ls with
  | some (a, []) => some a
  | _ => none

/-! ### What a reader makes of a phrase -/

/-- The reader takes the lexemes of the phrase off, and makes `a` of them, if `ls` follow it. -/
def Takes (r : Reader α) (p : Phrase) (a : α) (ls : List Lexeme) : Prop :=
  r (solid (p.lex ls)) = some (a, solid ls)

variable {r : Reader α} {f : α → Reader β} {p q : Phrase} {a : α} {b : β} {ls : List Lexeme}

theorem bind_of {ms ns : List Lexeme} (h : r ms = some (a, ns)) : (r >>= f) ms = f a ns := by
  change (r ms).bind _ = _
  rw [h]
  rfl

theorem bind_of_none {ms : List Lexeme} (h : r ms = none) : (r >>= f) ms = none := by
  change (r ms).bind _ = _
  rw [h]
  rfl

theorem orElse_of {r' : Reader α} {ms ns : List Lexeme} (h : r ms = some (a, ns)) :
    (r <|> r') ms = some (a, ns) := by
  change (r ms).orElse _ = _
  rw [h]
  rfl

theorem orElse_of_none {r' : Reader α} {ms : List Lexeme} (h : r ms = none) :
    (r <|> r') ms = r' ms := by
  change (r ms).orElse _ = _
  rw [h]
  rfl

theorem Takes.orElse_left {r' : Reader α} (h : r.Takes p a ls) : (r <|> r').Takes p a ls :=
  orElse_of h

theorem Takes.orElse_right {r' : Reader α} (h : r (solid (p.lex ls)) = none)
    (h' : r'.Takes p a ls) : (r <|> r').Takes p a ls :=
  (orElse_of_none h).trans h'

/-- One phrase after another, read by one reader after another. -/
theorem Takes.bind (hp : r.Takes p a (q.lex ls)) (hq : (f a).Takes q b ls) :
    (r >>= f).Takes (p ++ q) b ls := by
  rw [Takes, lex_append, bind_of hp]
  exact hq

/-- The last phrase, after which nothing is read. -/
theorem Takes.finish (h : r.Takes p a ls) (hf : f a = pure b) : (r >>= f).Takes p b ls := by
  rw [Takes, bind_of h, hf]
  rfl

/-! ### Single parts -/

/-- Nothing, or something that a word before it does not go on into. -/
def Apart : List Lexeme → Prop
  | .word _ :: _ => False
  | _ => True

theorem spell_of_apart {cs : List Char} (h : Apart ls) : spell cs ls = .word cs :: ls := by
  cases ls with
  | nil => rfl
  | cons l ls =>
    cases l with
    | word => exact h.elim
    | _ => rfl

/-- The first text is read as the second, whatever follows it. -/
def ReadAs (t s : String) : Prop :=
  ∀ ls, solid ((lit t).lex ls) = solid (spellText s []) ++ solid ls

theorem takes_words {s t : String} (h : ReadAs t s) (ls : List Lexeme) :
    (words s).Takes (lit t) () ls := by
  have hp := List.isPrefixOf?_eq_some_iff_append_eq.2 (h ls).symm
  rw [Takes, words, hp]
  rfl

/-- A text of the language in front of a phrase. -/
theorem Takes.after_words {s t : String} {f : Unit → Reader β} (h : ReadAs t s)
    (hq : (f ()).Takes q b ls) : (words s >>= f).Takes (lit t ++ q) b ls :=
  (takes_words h _).bind hq

theorem takes_name (n : Name) (h : Apart ls) : name.Takes (ofName n) n.text ls := by
  have hl : solid ((ofName n).lex ls) = .word n.text.toList :: solid ls :=
    congrArg solid (spell_of_apart h)
  rw [Takes, hl, name, one, Option.map_some, String.ofList_toList]

/-- A text without blanks and marks goes on into the word after it. -/
theorem spellText_spell {s : String} (h : ∀ c ∈ s.toList, (Piece.sign c).IsLetter)
    (cs : List Char) (ls : List Lexeme) :
    spellText s (spell cs ls) = spell (s.toList ++ cs) ls := by
  unfold spellText
  generalize s.toList = text at h ⊢
  induction text with
  | nil => rfl
  | cons c text ih =>
    obtain ⟨hblank, hmark⟩ := h c (by simp)
    have ih := ih fun d hd => h d (List.mem_cons_of_mem c hd)
    rw [List.foldr_cons, ih, sign, if_neg hblank, hmark]
    exact spell_spell [c] _ ls

theorem takes_columnOf {row t : String} (ht : t.toList = row.toList ++ ['.'])
    (hl : t.toList.all fun c => (Piece.sign c).IsLetter) (n : Name) (h : Apart ls) :
    (columnOf row).Takes (lit t ++ ofName n) n.text ls := by
  have hs : (lit t ++ ofName n).lex ls = .word (t.toList ++ n.text.toList) :: ls := by
    rw [lex_append]
    exact (spellText_spell (by simpa using hl) _ ls).trans (spell_of_apart h)
  have hr : (row ++ ".").toList = t.toList := by rw [ht, String.toList_append]; rfl
  have hp : (row ++ ".").toList.isPrefixOf? (t.toList ++ n.text.toList) = some n.text.toList := by
    rw [hr]
    exact List.isPrefixOf?_eq_some_iff_append_eq.2 rfl
  have hsolid : solid ((lit t ++ ofName n).lex ls) =
      .word (t.toList ++ n.text.toList) :: solid ls := congrArg solid hs
  simp only [Takes, hsolid, columnOf, one, hp, Option.map_some, String.ofList_toList]

theorem takes_bound (v : Value) (ls : List Lexeme) : bound.Takes (ofValue v) v ls := rfl

theorem takes_inParens (h : r.Takes p a (.mark ')' :: ls)) :
    (inParens r).Takes (Form.parens p) a ls := by
  have hc : (words ")").Takes (lit ")") () ls := takes_words (fun _ => rfl) ls
  rw [Form.parens, List.append_assoc]
  refine .after_words (fun _ => rfl) ?_
  exact h.bind (hc.finish rfl)

/-! ### Lists -/

theorem length_solid_spell_le (cs : List Char) (ls : List Lexeme) :
    (solid ls).length ≤ (solid (spell cs ls)).length := by
  cases ls with
  | nil => exact Nat.zero_le _
  | cons l ls => cases l <;> simp [spell, solid]

theorem length_solid_sign_le (c : Char) (ls : List Lexeme) :
    (solid ls).length ≤ (solid (sign c ls)).length := by
  unfold sign
  split_ifs
  · exact Nat.le_refl _
  · exact Nat.le_succ _
  · exact length_solid_spell_le [c] ls

theorem length_solid_spellText_le (s : String) (ls : List Lexeme) :
    (solid ls).length ≤ (solid (spellText s ls)).length := by
  unfold spellText
  induction s.toList with
  | nil => exact Nat.le_refl _
  | cons c cs ih => exact ih.trans (length_solid_sign_le c _)

/-- No lexeme gets lost in front of others. -/
theorem length_solid_lex_le (p : Phrase) (ls : List Lexeme) :
    (solid ls).length ≤ (solid (p.lex ls)).length := by
  induction p with
  | nil => exact Nat.le_refl _
  | cons t p ih =>
    refine ih.trans ?_
    cases t with
    | text s => exact length_solid_spellText_le s _
    | name n => exact length_solid_spell_le _ _
    | fragment f => exact length_solid_spellText_le _ _
    | value v => exact Nat.le_succ _

/-- A text that may stand between items: no word before it goes on into it, and it is read on its
own. -/
structure Separates (t sep : String) : Prop where
  apart : ∀ ls, Apart ((lit t).lex ls)
  readAs : ReadAs t sep
  ne_nil : solid (spellText sep []) ≠ []

theorem separates_comma : Separates ", " "," := ⟨fun _ => trivial, fun _ => rfl, by decide⟩

theorem separates_and : Separates " AND " "AND" := ⟨fun _ => trivial, fun _ => rfl, by decide⟩

theorem join_singleton (t : String) (p : Phrase) : join t [p] = p := by
  simp [join]

theorem join_cons_cons (t : String) (p q : Phrase) (ps : List Phrase) :
    join t (p :: q :: ps) = p ++ (lit t ++ join t (q :: ps)) := by
  simp [join, List.intercalate]

/-- There are no more items than lexemes, since each item but the last has one behind it. -/
theorem length_le_solid_join {t sep : String} (ht : Separates t sep) {ps : List Phrase}
    (hne : ps ≠ []) (ls : List Lexeme) :
    ps.length ≤ (solid ((join t ps).lex ls)).length + 1 := by
  induction ps with
  | nil => exact absurd rfl hne
  | cons p ps ih =>
    cases ps with
    | nil => exact Nat.le_add_left _ _
    | cons q ps =>
      have hsep : (solid ((join t (q :: ps)).lex ls)).length + 1 ≤
          (solid ((lit t ++ join t (q :: ps)).lex ls)).length := by
        have hpos := List.length_pos_iff.2 ht.ne_nil
        rw [lex_append, ht.readAs, List.length_append]
        omega
      rw [join_cons_cons, lex_append]
      have hp := length_solid_lex_le p ((lit t ++ join t (q :: ps)).lex ls)
      have hq := ih (by simp)
      rw [List.length_cons]
      omega

/-- What follows a list: the last item does not go on into it, and it is no separator. -/
structure Ends (sep : String) (ls : List Lexeme) : Prop where
  apart : Apart ls
  words : words sep (solid ls) = none

/-- A text of the language that ends a list ends it with whatever follows the text. -/
theorem Ends.append {t sep : String} (h : ∀ ls, Ends sep ((lit t).lex ls)) (q : Phrase)
    (ls : List Lexeme) : Ends sep ((lit t ++ q).lex ls) := by
  rw [lex_append]
  exact h _

/-- A list of a single item. -/
theorem takes_upTo_one {sep : String} (hls : words sep (solid ls) = none) (h : r.Takes p a ls)
    (n : Nat) : (upTo sep r (n + 1)).Takes p [a] ls := by
  rw [upTo]
  exact (bind_of h).trans (orElse_of_none (bind_of_none hls))

variable {t sep : String} {ps : List Phrase} {as : List α}

/-- Items are read as such if they are no more than the limit. -/
theorem takes_upTo (ht : Separates t sep) (hls : Ends sep ls)
    (h : List.Forall₂ (fun p a => ∀ ls, Apart ls → r.Takes p a ls) ps as) (hne : ps ≠ []) {n : Nat}
    (hn : ps.length ≤ n) : (upTo sep r n).Takes (join t ps) as ls := by
  induction h generalizing n with
  | nil => exact absurd rfl hne
  | @cons p a ps as hp hps ih =>
    cases n with
    | zero => cases hn
    | succ n =>
      cases hps with
      | nil =>
        rw [join_singleton]
        exact takes_upTo_one hls.words (hp ls hls.apart) n
      | cons hq hps =>
        rw [join_cons_cons, upTo]
        refine (hp _ ?_).bind ?_
        · rw [lex_append]
          exact ht.apart _
        have hrest := ih (by simp) (Nat.le_of_succ_le_succ hn)
        -- A separator follows, so the reader does not stop after this item.
        refine Takes.orElse_left (.after_words ht.readAs ?_)
        exact hrest.finish rfl

/-- Items are read as such, with what follows them. -/
theorem takes_separated_of_forall₂ (ht : Separates t sep) (hls : Ends sep ls)
    (h : List.Forall₂ (fun p a => ∀ ls, Apart ls → r.Takes p a ls) ps as) (hne : ps ≠ []) :
    (separated sep r).Takes (join t ps) as ls :=
  takes_upTo ht hls h hne (length_le_solid_join ht hne ls)

/-- The same for items that all have a phrase and a meaning. -/
theorem takes_separated {γ : Type} {phrase : γ → Phrase} {meaning : γ → α} {xs : List γ}
    (ht : Separates t sep) (hls : Ends sep ls)
    (h : ∀ x ls, Apart ls → r.Takes (phrase x) (meaning x) ls) (hne : xs ≠ []) :
    (separated sep r).Takes (join t (xs.map phrase)) (xs.map meaning) ls := by
  have hitems : List.Forall₂ (fun p a => ∀ ls, Apart ls → r.Takes p a ls) (xs.map phrase)
      (xs.map meaning) :=
    List.forall₂_map_left_iff.2 (List.forall₂_map_right_iff.2 (List.forall₂_same.2 fun x _ => h x))
  exact takes_separated_of_forall₂ ht hls hitems (by simpa using hne)

theorem takes_separated_one (hls : words sep (solid ls) = none) (h : r.Takes p a ls) :
    (separated sep r).Takes p [a] ls :=
  takes_upTo_one hls h _

end Reader

end BoundSql
