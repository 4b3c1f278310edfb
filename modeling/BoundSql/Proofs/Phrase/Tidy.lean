import BoundSql.Phrase
import BoundSql.Proofs.Fragment.Text
import BoundSql.Proofs.Placeholder.Reading
import Mathlib.Tactic.SplitIfs
import Mathlib.Tactic.Tauto

/-!
# Tidy phrases

A phrase is tidy if its words are free of everything a fragment may not hold, if there is a break
on one side of every joint of two parts, and if its own parentheses are balanced. Then no name, no
fragment and no placeholder can run into its neighbour, whatever the dialect makes of it.

Tidiness is a matter of the parts and of the joints between them: `neat_append` and
`Balanced.append` reduce a phrase to its parts, `Tidy.join` and `Tidy.flatten` a list of phrases to
its members.
-/

namespace BoundSql

/-- Words and signs that hold nothing a fragment may not hold. -/
def isCleanText (s : String) : Bool :=
  s.toList.all (fun c => !forbiddenChars.contains c) &&
    forbiddenPairs.all fun x => !hasPair x s.toList

theorem notMem_of_isCleanText {s : String} (h : isCleanText s = true) {c : Char}
    (hc : c ∈ s.toList) : c ∉ forbiddenChars := by
  simp only [isCleanText, Bool.and_eq_true, List.all_eq_true] at h
  simpa using h.1 c hc

theorem hasPair_of_isCleanText {s : String} (h : isCleanText s = true) {x : Char × Char}
    (hx : x ∈ forbiddenPairs) : hasPair x s.toList = false := by
  simp only [isCleanText, Bool.and_eq_true, List.all_eq_true] at h
  simpa using h.2 x hx

/-- Clean words in which every parenthesis has its partner. -/
def isTidyText (s : String) : Bool := isCleanText s && isBalanced s.toList

namespace Token

/-- Whether the words of a token are clean; its names and fragments are checked already. -/
def isClean : Token → Bool
  | .text s => isCleanText s
  | _ => true

/-- Words that begin with a break. -/
def startsSafe : Token → Bool
  | .text s => s.toList.head?.any isBreak
  | _ => false

/-- Words that end with a break, or that are no words at all. -/
def endsSafe : Token → Bool
  | .text s => s.toList.getLast?.all isBreak
  | _ => false

/-- The open parentheses after the token. Only words open or close any. -/
def depth? (k : Nat) : Token → Option Nat
  | .text s => s.toList.foldlM parenStep k
  | _ => some k

@[simp] theorem isClean_name (n : Name) : (name n).isClean = true := rfl

@[simp] theorem isClean_fragment (f : Fragment) : (fragment f).isClean = true := rfl

@[simp] theorem isClean_value (v : Value) : (value v).isClean = true := rfl

theorem isClean_text {s : String} (h : isTidyText s = true) : (Token.text s).isClean = true := by
  simp only [isTidyText, Bool.and_eq_true] at h
  exact h.1

theorem depth?_text {s : String} (h : isTidyText s = true) (k : Nat) :
    (Token.text s).depth? k = some k := by
  simp only [isTidyText, Bool.and_eq_true] at h
  exact foldlM_parenStep_of_isBalanced h.2 k

end Token

namespace Phrase

/-! ### Joints -/

/-- Nothing, or words that begin with a break. -/
def StartsSafe (p : Phrase) : Prop := ∀ t ∈ p.head?, t.startsSafe = true

/-- Nothing, or words that end with a break. -/
def EndsSafe (p : Phrase) : Prop := ∀ t ∈ p.getLast?, t.endsSafe = true

/-- Clean words, and a break at every joint. -/
def Neat : Phrase → Prop
  | [] => True
  | t :: p => t.isClean = true ∧ (t.endsSafe = true ∨ StartsSafe p) ∧ Neat p

@[simp] theorem startsSafe_nil : StartsSafe [] := by simp [StartsSafe]

@[simp] theorem startsSafe_cons (t : Token) (p : Phrase) :
    StartsSafe (t :: p) ↔ t.startsSafe = true := by
  simp [StartsSafe]

theorem StartsSafe.append {p q : Phrase} (hp : StartsSafe p) (hq : StartsSafe q) :
    StartsSafe (p ++ q) := by
  cases p with
  | nil => exact hq
  | cons t p => simpa using hp

@[simp] theorem endsSafe_nil : EndsSafe [] := by simp [EndsSafe]

@[simp] theorem endsSafe_singleton (t : Token) : EndsSafe [t] ↔ t.endsSafe = true := by
  simp [EndsSafe]

@[simp] theorem endsSafe_cons_cons (t u : Token) (p : Phrase) :
    EndsSafe (t :: u :: p) ↔ EndsSafe (u :: p) := by
  simp [EndsSafe]

@[simp] theorem neat_nil : Neat [] := trivial

@[simp] theorem neat_cons (t : Token) (p : Phrase) :
    Neat (t :: p) ↔ t.isClean = true ∧ (t.endsSafe = true ∨ StartsSafe p) ∧ Neat p := Iff.rfl

theorem neat_append {p q : Phrase} :
    Neat (p ++ q) ↔ Neat p ∧ Neat q ∧ (EndsSafe p ∨ StartsSafe q) := by
  induction p with
  | nil => simp
  | cons t p ih =>
    cases p with
    | nil =>
      simp only [List.cons_append, List.nil_append, neat_cons, endsSafe_singleton,
        startsSafe_nil, neat_nil, or_true, and_true]
      tauto
    | cons u p =>
      -- The only new joint is that of the last token of `p` with the first of `q`.
      rw [List.cons_append, neat_cons, ih, neat_cons t, endsSafe_cons_cons]
      simp only [List.cons_append, startsSafe_cons]
      tauto

/-! ### Parentheses -/

/-- The open parentheses after the words of a phrase. -/
def depth? (k : Nat) (p : Phrase) : Option Nat := p.foldlM Token.depth? k

/-- Every parenthesis among the words of the phrase has its partner. -/
def Balanced (p : Phrase) : Prop := ∀ k, depth? k p = some k

@[simp] theorem depth?_nil (k : Nat) : depth? k [] = some k := rfl

@[simp] theorem depth?_cons (k : Nat) (t : Token) (p : Phrase) :
    depth? k (t :: p) = (t.depth? k).bind fun k => depth? k p := rfl

theorem depth?_append (k : Nat) (p q : Phrase) :
    depth? k (p ++ q) = (depth? k p).bind fun k => depth? k q := by
  simp [depth?, List.foldlM_append]

theorem Balanced.append {p q : Phrase} (hp : Balanced p) (hq : Balanced q) :
    Balanced (p ++ q) := by
  intro k
  rw [depth?_append, hp k, Option.bind_some, hq k]

/-! ### Tidiness -/

/-- Neat and balanced. -/
structure Tidy (p : Phrase) : Prop where
  neat : Neat p
  balanced : Balanced p

theorem tidy_nil : Tidy [] := ⟨trivial, fun _ => rfl⟩

theorem tidy_lit {s : String} (h : isTidyText s = true) : Tidy (lit s) where
  neat := by simp [lit, Token.isClean_text h]
  balanced k := by simp [lit, Token.depth?_text h]

theorem tidy_ofName (n : Name) : Tidy (ofName n) := ⟨by simp [ofName], fun _ => rfl⟩

theorem tidy_ofValue (v : Value) : Tidy (ofValue v) :=
  ⟨by simp [ofValue], fun _ => rfl⟩

theorem tidy_fragment (f : Fragment) : Tidy [.fragment f] := ⟨by simp, fun _ => rfl⟩

theorem Tidy.append {p q : Phrase} (hp : Tidy p) (hq : Tidy q) (h : EndsSafe p ∨ StartsSafe q) :
    Tidy (p ++ q) :=
  ⟨neat_append.2 ⟨hp.neat, hq.neat, h⟩, hp.balanced.append hq.balanced⟩

/-- Words that end with a break may stand before any phrase. -/
theorem Tidy.lit_append {s : String} {p : Phrase} (hs : Tidy (lit s)) (he : EndsSafe (lit s))
    (hp : Tidy p) : Tidy (lit s ++ p) := hs.append hp (Or.inl he)

/-- A separator that is safe on both sides keeps any phrases apart. -/
theorem Tidy.join {sep : String} (hs : Tidy (lit sep)) (h1 : StartsSafe (lit sep))
    (h2 : EndsSafe (lit sep)) {ps : List Phrase} (hps : ∀ p ∈ ps, Tidy p) :
    Tidy (Phrase.join sep ps) := by
  unfold Phrase.join
  induction ps with
  | nil => exact tidy_nil
  | cons p ps ih =>
    have hp := hps p (by simp)
    have ih := ih fun q hq => hps q (by simp [hq])
    cases ps with
    | nil => simpa using hp
    | cons q ps =>
      rw [List.intercalate_cons_cons]
      exact (hp.append hs (Or.inr h1)).append ih (Or.inl (by simpa [lit, EndsSafe] using h2))

theorem Tidy.commas {ps : List Phrase} (hps : ∀ p ∈ ps, Tidy p) : Tidy (Phrase.commas ps) :=
  .join (tidy_lit (by decide)) (by simp +decide [lit]) (by simp +decide [lit]) hps

/-- Phrases that begin with a break may follow one another. -/
theorem Tidy.flatten {ps : List Phrase} (hps : ∀ p ∈ ps, Tidy p ∧ StartsSafe p) :
    Tidy ps.flatten ∧ StartsSafe ps.flatten := by
  induction ps with
  | nil => exact ⟨tidy_nil, startsSafe_nil⟩
  | cons p ps ih =>
    obtain ⟨hp, hs⟩ := hps p (by simp)
    obtain ⟨ht, hst⟩ := ih fun q hq => hps q (by simp [hq])
    rw [List.flatten_cons]
    exact ⟨hp.append ht (Or.inr hst), hs.append hst⟩

end Phrase

end BoundSql
