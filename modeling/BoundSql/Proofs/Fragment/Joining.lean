import BoundSql.Proofs.Fragment.Text
import BoundSql.Proofs.Name.Quoting
import BoundSql.Proofs.Statement.Totals

/-!
# Fragments put together

Fragments with commas between them, as they stand among the selected items, are a fragment again
(`Fragment.check_intercalate`). The comma is a spacer, so nothing that is forbidden comes about at a
joint, whatever the fragments begin and end with.
-/

namespace BoundSql

open Text Phrase

/-- Harmless texts with commas between them are harmless. -/
theorem Harmless.intercalate {css : List (List Char)} (h : ∀ cs ∈ css, Harmless cs) :
    Harmless (List.intercalate ", ".toList css) := by
  have hnil : Harmless [] := ⟨by simp, fun x _ => rfl, rfl, by simp⟩
  have hblank : IsSpacer ' ' := isSpacer_of_isBlank (by decide)
  induction css with
  | nil => exact hnil
  | cons cs css ih =>
    cases css with
    | nil => simpa using h cs (by simp)
    | cons ds css =>
      have hrest := ih fun es hes => h es (List.mem_cons_of_mem cs hes)
      have hspace : Harmless (' ' :: List.intercalate ", ".toList (ds :: css)) :=
        hnil.append_cons hblank hrest
      rw [List.intercalate_cons_cons, List.append_assoc]
      exact (h cs (by simp)).append_cons isSpacer_comma hspace

/-- Fragments with commas between them are a fragment, if there are any. -/
theorem isFragment_intercalate {ss : List String} (hne : ss ≠ [])
    (h : ∀ s ∈ ss, isFragment s = true) : isFragment (", ".intercalate ss) = true := by
  obtain ⟨s, rest, rfl⟩ := List.exists_cons_of_ne_nil hne
  obtain ⟨c, hc, hcb⟩ := (isFragment_iff.1 (h s (by simp))).1
  rw [isFragment_iff, String.toList_intercalate]
  refine ⟨⟨c, ?_, hcb⟩, Harmless.intercalate fun cs hcs => ?_⟩
  · cases rest with
    | nil => simpa using hc
    | cons t rest => simp [List.intercalate_cons_cons, hc]
  · obtain ⟨t, ht, rfl⟩ := List.mem_map.1 hcs
    exact (isFragment_iff.1 (h t ht)).2

theorem Fragment.exists_check_iff {s : String} :
    (∃ f, Fragment.check s = .ok f) ↔ isFragment s = true := by
  constructor
  · rintro ⟨f, hf⟩
    rw [← Fragment.check_eq_ok_iff.1 hf]
    exact f.isFragment_text
  · exact fun h => ⟨⟨s, h⟩, Fragment.check_eq_ok_iff.2 rfl⟩

theorem exists_selectItem {s : String} (hp : '(' ∈ s.toList)
    (h : ∃ f, Fragment.check s = .ok f) : ∃ t, selectItem s = .ok t := by
  obtain ⟨f, hf⟩ := h
  exact ⟨.fragment f, by rw [selectItem, if_pos hp, hf]; rfl⟩

/-- Expressions among the selected items are not quoted, and stand with commas between them. -/
theorem Query.exists_projection_expressions {d : Dialect} {q : Query} (hne : q.select ≠ [])
    (hp : ∀ s ∈ q.select, '(' ∈ s.toList) (h : ∀ s ∈ q.select, ∃ f, Fragment.check s = .ok f) :
    ∃ p, q.projection = .ok p ∧ Spells d p (", ".intercalate q.select) := by
  obtain ⟨items, hi⟩ := exists_mapM_eq_ok fun s hs => exists_selectItem (hp s hs) (h s hs)
  have hempty : items.isEmpty = false := by
    rw [← isEmpty_eq_of_forall₂ (mapM_eq_ok.1 hi)]
    simpa using hne
  have hproj : q.projection = .ok (commas (items.map fun t => [t])) := by
    unfold projection
    rw [hi]
    simp only [bind, Except.bind, hempty, Bool.false_eq_true, if_false]
    rfl
  have hquote : q.select.map d.quotes.quote = q.select := by
    refine (List.map_congr_left fun s hs => String.toList_inj.1 ?_).trans (List.map_id _)
    rw [Quotes.toList_quote, d.quotes.quoteChars_of_mem (hp s hs), id]
  have hspells := spells_projection (d := d) hproj
  rw [projectionText, if_neg (by simpa using hne), Dialect.listText, hquote] at hspells
  exact ⟨_, hproj, hspells⟩

/-- **Fragments with commas between them are a fragment again**, whatever they begin and end with.
Where all are expressions, this is the text in which they are projected. -/
theorem Fragment.check_intercalate {ss : List String} (hne : ss ≠ [])
    (h : ∀ s ∈ ss, ∃ f, Fragment.check s = .ok f) :
    (∃ f : Fragment, f.text = ", ".intercalate ss ∧
      Fragment.check (", ".intercalate ss) = .ok f) ∧
    ∀ (d : Dialect) (q : Query), q.select = ss → (∀ s ∈ ss, '(' ∈ s.toList) →
      ∃ p, q.projection = .ok p ∧ Spells d p (", ".intercalate ss) := by
  refine ⟨?_, ?_⟩
  · have hjoined := isFragment_intercalate hne fun s hs => exists_check_iff.1 (h s hs)
    exact ⟨⟨_, hjoined⟩, rfl, check_eq_ok_iff.2 rfl⟩
  · rintro d q rfl hp
    exact q.exists_projection_expressions hne hp h

/-- Neighbours that would open a comment without the comma, a word that would be forbidden without
its last letter, and blanks at the ends. -/
theorem Fragment.check_intercalate_three :
    let ss := ["COUNT(id) -", "-f(unions) /\u3000", "\n* (exec_)"]
    let q : Query := { table := "users", select := ss }
    let joined := "COUNT(id) -, -f(unions) /\u3000, \n* (exec_)"
    ss ≠ [] ∧ (∀ s ∈ ss, ∃ f, Fragment.check s = .ok f) ∧ (∀ s ∈ ss, '(' ∈ s.toList) ∧
      ", ".intercalate ss = joined ∧
      (∃ f : Fragment, f.text = joined ∧ Fragment.check joined = .ok f) ∧
      ∃ p, q.projection = .ok p ∧ Spells .mysql p joined := by
  intro ss q joined
  have hne : ss ≠ [] := by simp [ss]
  have hall : ss.all (fun s => isFragment s && s.toList.contains '(') = true := by decide +kernel
  have hmem : ∀ s ∈ ss, isFragment s = true ∧ '(' ∈ s.toList := fun s hs => by
    simpa using List.all_eq_true.1 hall s hs
  have h : ∀ s ∈ ss, ∃ f, Fragment.check s = .ok f := fun s hs => exists_check_iff.2 (hmem s hs).1
  have hp : ∀ s ∈ ss, '(' ∈ s.toList := fun s hs => (hmem s hs).2
  have hjoined : ", ".intercalate ss = joined := rfl
  obtain ⟨hf, hq⟩ := Fragment.check_intercalate hne h
  rw [hjoined] at hf hq
  exact ⟨hne, h, hp, hjoined, hf, hq .mysql q rfl hp⟩

end BoundSql
