import BoundSql.Proofs.Engine.Writing

/-!
# Statements in an engine

What the programs of `Writer` come to, in whatever engine they are run. Each is a chain of the
checks of its request, in their order, at the end of which stand the text that the engine makes of
the parts and the values in the order in which they were added.
-/

namespace BoundSql

open Phrase

theorem Progress.values_of_result {x : Progress} {assemble : List Phrase → Phrase} {p : Phrase}
    (ha : ∀ ps, Phrase.values (assemble ps) = allValues ps) (h : x.result assemble = .ok p) :
    x.values = p.values := by
  obtain ⟨done, _ | e⟩ := x
  · cases h
    exact (ha done).symm
  · cases h

/-- The placeholders of the values of rows, the first with the number `i`. -/
def Engine.placeholderRows (E : Engine) : Nat → List (List Value) → List (List String)
  | _, [] => []
  | i, r :: rs => E.placeholdersFrom i r.length :: E.placeholderRows (i + r.length) rs

namespace Writer

variable {α β : Type} {E : Engine} {vs : List Value}

/-! ### What has been written -/

/-- What a program has given and bound in the end, or its error. -/
def written (m : Writer α) (E : Engine) (vs : List Value) : Except Error (α × List Value) :=
  (m.perform E vs).1.map fun a => (a, (m.perform E vs).2)

theorem written_pure (a : α) : (pure a : Writer α).written E vs = .ok (a, vs) := by
  rw [written, perform_pure, Except.map]

theorem written_bind (m : Writer α) (f : α → Writer β) :
    (m >>= f).written E vs = m.written E vs >>= fun x => (f x.1).written E x.2 := by
  unfold written
  rw [perform_bind]
  cases m.perform E vs with
  | mk x ws => cases x <;> rfl

theorem written_check (x : Except Error α) : (check x).written E vs = x.map fun a => (a, vs) := rfl

theorem written_check_bind (x : Except Error α) (f : α → Writer β) :
    (check x >>= f).written E vs = x >>= fun a => (f a).written E vs := by
  cases x <;> rfl

theorem written_read_bind (f : Engine → Writer α) :
    (read >>= f).written E vs = (f E).written E vs := by rw [written_bind]; rfl

theorem written_get_bind (f : List Value → Writer α) :
    (get >>= f).written E vs = (f vs).written E vs := by rw [written_bind]; rfl

theorem written_extend_bind (ws : List Value) (f : Unit → Writer α) :
    (extend ws >>= f).written E vs = (f ()).written E (vs ++ ws) := by rw [written_bind]; rfl

theorem written_column_bind (n : Name) (f : String → Writer α) :
    (column n >>= f).written E vs = (f (E.quote n.text)).written E vs := by rw [written_bind]; rfl

theorem written_addAll_bind (ws : List Value) (f : List String → Writer α) :
    (addAll ws >>= f).written E vs =
      (f (E.placeholdersFrom (vs.length + 1) ws.length)).written E (vs ++ ws) := by
  rw [written_bind, written, perform_addAll]
  rfl

theorem written_condition_bind (w : Where) (f : String → Writer α) :
    (condition w >>= f).written E vs =
      w.phrase >>= fun c => (f (E.render (vs.length + 1) c)).written E (vs ++ c.values) := by
  rw [written_bind, written, perform_condition]
  cases hc : w.phrase with
  | error e => rfl
  | ok c => rw [Progress.values_of_result Where.values_assemble hc]; rfl

theorem written_assignments_bind (as : List Assignment) (f : String → Writer α) :
    (assignments as >>= f).written E vs = Assignment.listPhrase as >>= fun p =>
      (f (E.render (vs.length + 1) p)).written E (vs ++ p.values) := by
  rw [written_bind, written, perform_assignments]
  cases hp : Assignment.listPhrase as with
  | error e => rfl
  | ok p => rw [Progress.values_of_result values_commas hp]; rfl

theorem statement_eq (m : Writer String) (verify : Bool) :
    m.statement E verify =
      m.written E [] >>= fun x => Statement.close E.toDialect verify x.1 x.2 := by
  unfold statement written
  cases m.perform E [] with
  | mk x ws => cases x <;> rfl

/-! ### Queries -/

/-- The selected items. The engine writes each of them as it stands in the description. -/
theorem written_projection_bind (q : Query) (f : String → Writer α) :
    (projection q >>= f).written E vs = q.projection >>= fun p =>
      (f (if q.select.isEmpty then E.spell p
        else ", ".intercalate (q.select.map E.quote))).written E vs := by
  have hquote : ∀ ss : List String, (ss.mapM fun s => (selectItem s).map fun _ => E.quote s) =
      (ss.mapM selectItem).map fun _ => ss.map E.quote := by
    intro ss
    induction ss with
    | nil => rfl
    | cons s ss ih =>
      rw [List.mapM_cons, List.mapM_cons, ih]
      cases selectItem s with
      | error e => rfl
      | ok t => cases ss.mapM selectItem <;> rfl
  rw [projection, written_bind, written_read_bind]
  by_cases hs : q.select.isEmpty = true
  · simp only [if_pos hs, written_check_bind, written_pure]
    cases q.projection <;> rfl
  · simp only [if_neg hs, written_check_bind, written_pure, hquote, Query.projection]
    cases hi : q.select.mapM selectItem with
    | error e => rfl
    | ok items =>
      have hitems : ¬ items.isEmpty = true := by
        rwa [← isEmpty_eq_of_forall₂ (mapM_eq_ok.1 hi)]
      change _ = (if _ then _ else _) >>= _
      rw [if_neg hitems]
      rfl

theorem written_trailingPage (sql : String) (ordered : Bool) (limit : Option Window) :
    (trailingPage sql ordered limit).written E vs =
      match limit with
      | none => .ok (sql, vs)
      | some w => (E.pageTexts w (vs.length + 1)).map fun x =>
        (x.apply (if !ordered && E.pageNeedsOrder && x.isSuffix then sql ++ " ORDER BY (SELECT NULL)"
          else sql), vs ++ x.values) := by
  cases limit with
  | none => exact written_pure sql
  | some w =>
    simp only [trailingPage, written_read_bind, written_get_bind, written_check_bind,
      written_extend_bind, written_pure]
    cases E.pageTexts w (vs.length + 1) <;> rfl

/-- The statement that reads the given items. -/
theorem written_reading (q : Query) (items : String) :
    (reading q items).written E [] = (do
      let source ← q.source
      let front ← E.frontPage q.limit
      let before := front.elim [] PageTexts.values
      let c ← q.conditions.phrase
      let gs ← q.groups
      let os ← q.orderBy.mapM Query.orderItem
      let sql := "SELECT " ++ items ++ " FROM " ++ E.spell source ++ " WHERE " ++
        E.render (before.length + 1) c ++ E.spell (Query.clause " GROUP BY " gs) ++
        E.spell (Query.clause " ORDER BY " os)
      match front with
      | some x => .ok (x.apply sql, before ++ c.values)
      | none => (trailingPage sql (!os.isEmpty) q.limit).written E (before ++ c.values)) := by
  simp only [reading, written_read_bind, written_check_bind, written_extend_bind,
    written_condition_bind, List.nil_append]
  refine bind_congr fun source => bind_congr fun front => bind_congr fun c =>
    bind_congr fun gs => bind_congr fun os => ?_
  cases front with
  | none => rfl
  | some x => exact written_pure _

/-- The statement that counts. -/
theorem written_count (q : Query) :
    (count q).written E [] = (do
      let source ← q.source
      let c ← q.conditions.phrase
      let gs ← q.groups
      let group := E.spell (commas gs)
      if gs.isEmpty then
        .ok ("SELECT COUNT(*) FROM " ++ E.spell source ++ " WHERE " ++ E.render 1 c, c.values)
      else
        .ok ("SELECT COUNT(*) FROM (SELECT " ++ group ++ " FROM " ++ E.spell source ++ " WHERE " ++
          E.render 1 c ++ " GROUP BY " ++ group ++ ") count_", c.values)) := by
  simp only [count, written_read_bind, written_check_bind, written_condition_bind, List.length_nil,
    List.nil_append, Nat.zero_add]
  refine bind_congr fun source => bind_congr fun c => bind_congr fun gs => ?_
  by_cases hg : gs.isEmpty = true
  · rw [if_pos hg, if_pos hg, written_pure]
  · rw [if_neg hg, if_neg hg, written_pure]

/-! ### Insertions -/

/-- The placeholders of rows, each of which has a value for every column. -/
theorem written_placeholders (columns i : Nat) (rows : List (List Value)) :
    (placeholders columns i rows).written E vs =
      (Insertion.checkWidths columns i rows).map fun _ =>
        (E.placeholderRows (vs.length + 1) rows, vs ++ rows.flatten) := by
  induction rows generalizing i vs with
  | nil =>
    rw [placeholders, written_pure, List.flatten_nil, List.append_nil]
    rfl
  | cons r rows ih =>
    simp only [placeholders, written_check_bind, written_addAll_bind, Insertion.checkWidths]
    by_cases hr : columns = r.length
    · rw [if_pos hr, if_pos hr, written_bind, ih, List.length_append, Nat.add_right_comm]
      cases Insertion.checkWidths columns (i + 1) rows with
      | error e => rfl
      | ok u =>
        change (pure _ : Writer _).written _ _ = _
        rw [written_pure, List.append_assoc]
        rfl
    · rw [if_neg hr, if_neg hr]
      rfl

theorem written_placeholders_bind (columns i : Nat) (rows : List (List Value))
    (f : List (List String) → Writer α) :
    (placeholders columns i rows >>= f).written E vs =
      Insertion.checkWidths columns i rows >>= fun _ =>
        (f (E.placeholderRows (vs.length + 1) rows)).written E (vs ++ rows.flatten) := by
  rw [written_bind, written_placeholders]
  cases Insertion.checkWidths columns i rows <;> rfl

theorem written_insert (x : Insertion) :
    (insert x).written E [] = (do
      let n ← x.names E.toDialect
      if x.rows.length ≠ 1 then .error (.badQuery (.notOneRow x.rows.length))
      Insertion.checkWidths x.columns.length 0 x.rows
      .ok (E.insertText (insertTexts E n (E.placeholderRows 1 x.rows)), x.rows.flatten)) := by
  simp only [insert, written_read_bind, written_check_bind, written_placeholders_bind, written_pure,
    List.nil_append, List.length_nil, Nat.zero_add]
  refine bind_congr fun n => ?_
  by_cases h : x.rows.length = 1
  · rw [if_pos h, if_neg (not_not.2 h)]
    rfl
  · rw [if_neg h, if_pos h]

theorem written_batchInsert (x : Insertion) :
    (batchInsert x).written E [] = (do
      let n ← x.names E.toDialect
      if x.rows.isEmpty then .error (.badQuery .noRow)
      Insertion.checkWidths x.columns.length 0 x.rows
      .ok (E.batchText (insertTexts E n (E.placeholderRows 1 x.rows)), x.rows.flatten)) := by
  simp only [batchInsert, written_read_bind, written_check_bind, written_placeholders_bind,
    written_pure, List.nil_append, List.length_nil, Nat.zero_add]
  refine bind_congr fun n => ?_
  by_cases h : x.rows.isEmpty = true
  · rw [if_pos h, if_pos h]
  · rw [if_neg h, if_neg h]
    rfl

/-! ### Changes -/

theorem written_update (m : Modification) :
    (update m).written E [] = (do
      let n ← Name.check m.table
      let p ← Assignment.listPhrase m.assignments
      if E.render 1 p = "" then .error (.badQuery .noAssignment)
      else
        let c ← m.conditions.phrase
        .ok (E.updateText (E.quote n.text) (E.render 1 p) (E.render (p.values.length + 1) c),
          p.values ++ c.values)) := by
  simp only [update, updateWith, written_read_bind, written_check_bind, written_column_bind,
    written_assignments_bind, List.length_nil, List.nil_append, Nat.zero_add]
  refine bind_congr fun n => bind_congr fun p => ?_
  split_ifs
  · rfl
  · simp only [written_condition_bind, written_pure, Nat.add_comm]

theorem written_delete (m : Modification) :
    (delete m).written E [] = (do
      let n ← Name.check m.table
      let c ← m.conditions.phrase
      .ok (E.deleteText (E.quote n.text) (E.render 1 c), c.values)) := by
  simp only [delete, written_read_bind, written_check_bind, written_condition_bind, written_pure,
    List.length_nil, List.nil_append, Nat.zero_add]

theorem written_upsert (x : Upsertion) :
    (upsert x).written E [] = (do
      x.check
      let table ← Name.check x.table
      let columns ← Name.checkAll x.columns
      let keys ← Name.checkAll x.conflictKeys
      let updates ← Name.checkAll x.updateColumns
      let quoted := fun ns : List Name => ns.map fun n => E.quote n.text
      match E.upsertText? ⟨E.quote table.text, quoted columns,
        E.placeholdersFrom 1 x.values.length, quoted keys, quoted updates⟩ with
      | some s => .ok (s, x.values)
      | none => .error (.unsupported E.name .upsert)) := by
  simp only [upsert, written_read_bind, written_check_bind, written_addAll_bind, List.length_nil,
    List.nil_append, Nat.zero_add]
  refine bind_congr fun _ => bind_congr fun table => bind_congr fun columns =>
    bind_congr fun keys => bind_congr fun updates => ?_
  generalize E.upsertText? _ = s
  cases s <;> rfl

end Writer

end BoundSql
