import BoundSql.Proofs.Name.Reading

/-!
# Names and placeholders

Quoting a name and looking for placeholders go by the same rules: a closing quote inside a name is
written twice, and the scanner takes two of them for one that does not close. So it finds nothing in
a quoted name, and behind it what follows is read as if it stood alone
(`Scanner.count_quote_and_append`).
-/

namespace BoundSql

namespace Scanner

variable {s : Scanner}

/-- The scanner passes over a quoted name. -/
theorem placeholders_quote (hq : s.quotes ∈ Quotes.usual) {name : String} (h : '(' ∉ name.toList) :
    s.placeholders (s.quotes.quote name) = [] ∧
      (s.after .plain (s.quotes.quote name).toList).isOutside = true := by
  obtain ⟨bs, p, hr, hp, -⟩ := reads_quoteChars hq h
  rw [placeholders_eq_found, Quotes.toList_quote, hr.found, hr.after, hp.pending]
  exact ⟨rfl, hp.isOutside⟩

/-- **Names and the scanner have one convention for quotes.** Whatever characters a name has, its
quoted form has no placeholder and leaves no quote open; and outside quotes the count starts afresh
at a blank, a comma, a parenthesis, a dot or a semicolon. -/
theorem count_quote_and_append (hq : s.quotes ∈ Quotes.usual) :
    (∀ name : String, '(' ∉ name.toList → s.count (s.quotes.quote name) = 0 ∧
      (s.after .plain (s.quotes.quote name).toList).isOutside = true) ∧
    ∀ a b : String, (s.after .plain a.toList).isOutside = true →
      (∃ c ∈ b.toList.head?, isBreak c = true) → s.count (a ++ b) = s.count a + s.count b := by
  refine ⟨fun name h => ?_, fun a b ha hb => ?_⟩
  · obtain ⟨hnone, ho⟩ := placeholders_quote hq h
    exact ⟨congrArg List.length hnone, ho⟩
  · unfold count
    rw [placeholders_append hq ha hb, List.length_append]

/-- A name with quotes of all kinds and with placeholders in it, and two conditions between which a
placeholder would go on without the comma. -/
theorem count_quote_and_append_brackets :
    let s : Scanner := ⟨.colon, ⟨'[', ']'⟩⟩
    let name := "a]b.[c.d].':1.\":x"
    let a := "[b:2] = :1"
    let b := ",2 = :name::int"
    s.quotes ∈ Quotes.usual ∧ '(' ∉ name.toList ∧ (s.after .plain a.toList).isOutside = true ∧
      (∃ c ∈ b.toList.head?, isBreak c = true) ∧
      s.quotes.quote name = "[a]]b].[c.d].[':1].[\":x]" ∧
      s.count "[a]]b].[c.d].[':1].[\":x]" = 0 ∧
      s.count "[b:2] = :1,2 = :name::int" = s.count a + s.count b ∧ s.count a = 1 ∧
      s.count b = 1 := by
  intro s name a b
  have hq : s.quotes ∈ Quotes.usual := by simp [Quotes.usual, s]
  have hn : '(' ∉ name.toList := by decide +kernel
  have ha : (s.after .plain a.toList).isOutside = true := by decide +kernel
  have hb : ∃ c ∈ b.toList.head?, isBreak c = true := ⟨',', by decide +kernel, by decide⟩
  have hquote : s.quotes.quote name = "[a]]b].[c.d].[':1].[\":x]" := by decide +kernel
  obtain ⟨hnames, happend⟩ := count_quote_and_append hq
  have h0 := (hnames name hn).1
  rw [hquote] at h0
  exact ⟨hq, hn, ha, hb, hquote, h0, happend a b ha hb, by decide +kernel, by decide +kernel⟩

end Scanner

end BoundSql
