import BoundSql.Dialect.Builtin
import BoundSql.Proofs.Engine.Agreement
import BoundSql.Proofs.Engine.Dialects

/-!
# Independence of the values

Two requests are alike if they differ in nothing but their values, and if what a statement may
depend on in a value is the same in both: whether it is blank, whether it has a text form, which
null test it spells, whether it is the empty text, and whether an offset is zero. Requests that are
alike give the same text or fail with the same error, in every dialect and in every engine
(`Request.independent`).

An engine never sees a value, but for the two numbers of a window. Where a statement has a window,
the engine has to bind them as the contract of a page says (`Engine.BindsWindows`); one that writes
them into its text is told apart by `Request.not_independent_of_written_count`.

The proof goes through the programs: those of requests that are alike agree step by step.
-/

namespace BoundSql

/-! ### Descriptions that are alike -/

/-- The null test that a value spells. -/
def Value.nullTest? : Value → Option NullTest
  | .text s => NullTest.parse? s
  | _ => none

/-- Whether an operator tests for a pattern. -/
def Operator.isPattern : Operator → Bool
  | contains | startsWith | endsWith => true
  | _ => false

/-- Operands of one shape that an operator does not tell apart. -/
def Operand.Alike (o : Operator) : Operand → Operand → Prop
  | single v, single w =>
    v.isBlank = w.isBlank ∧ (o.isPattern = true → v.text?.isSome = w.text?.isSome) ∧
      (o = .isNull → v.nullTest? = w.nullTest?)
  | list vs, list ws => vs.length = ws.length
  | _, _ => False

/-- Predicates that differ in their operands only, which are alike. -/
structure Predicate.Alike (p q : Predicate) : Prop where
  field : p.field = q.field
  operator : p.operator = q.operator
  connective : p.connective = q.connective
  operand : p.operand.Alike p.operator q.operand

/-- Assignments that differ in their values only and are both left out or neither of them. -/
inductive Assignment.Alike : Assignment → Assignment → Prop
  | plain (f : String) (mode : ChangeMode) {v w : Value} (h : v.isEmptyText = w.isEmptyText) :
    Alike (.plain f mode v) (.plain f mode w)
  | cases (f g : String) {bs cs : List Branch}
    (h : List.Forall₂ (fun b c => b.mode = c.mode) bs cs) : Alike (.cases f g bs) (.cases f g cs)

/-- Queries that differ only in the values of their conditions and in their windows. -/
structure Query.Alike (q r : Query) : Prop where
  table : q.table = r.table
  tableAlias : q.tableAlias = r.tableAlias
  select : q.select = r.select
  conditions : List.Forall₂ Predicate.Alike q.conditions r.conditions
  orderBy : q.orderBy = r.orderBy
  limit : Option.Rel (fun w x => w.offset = 0 ↔ x.offset = 0) q.limit r.limit
  groupBy : q.groupBy = r.groupBy
  aggregates : q.aggregates = r.aggregates

/-- Insertions that differ only in the values of their rows. -/
structure Insertion.Alike (x y : Insertion) : Prop where
  table : x.table = y.table
  columns : x.columns = y.columns
  rows : List.Forall₂ (fun r s => r.length = s.length) x.rows y.rows
  returning : x.returning = y.returning

/-- Modifications that differ only in the values of their assignments and conditions. -/
structure Modification.Alike (m n : Modification) : Prop where
  table : m.table = n.table
  assignments : List.Forall₂ Assignment.Alike m.assignments n.assignments
  conditions : List.Forall₂ Predicate.Alike m.conditions n.conditions

/-- Upsertions that differ only in their values. -/
structure Upsertion.Alike (x y : Upsertion) : Prop where
  table : x.table = y.table
  columns : x.columns = y.columns
  values : x.values.length = y.values.length
  conflictKeys : x.conflictKeys = y.conflictKeys
  updates : x.updates = y.updates

/-- Requests of one kind whose descriptions are alike. -/
inductive Request.Alike : Request → Request → Prop
  | rows {q r : Query} (h : q.Alike r) : Alike (.rows q) (.rows r)
  | count {q r : Query} (h : q.Alike r) : Alike (.count q) (.count r)
  | aggregate {q r : Query} (h : q.Alike r) : Alike (.aggregate q) (.aggregate r)
  | insert {x y : Insertion} (h : x.Alike y) : Alike (.insert x) (.insert y)
  | batchInsert {x y : Insertion} (h : x.Alike y) : Alike (.batchInsert x) (.batchInsert y)
  | update {m n : Modification} (h : m.Alike n) : Alike (.update m) (.update n)
  | delete {m n : Modification} (h : m.Alike n) : Alike (.delete m) (.delete n)
  | upsert {x y : Upsertion} (h : x.Alike y) : Alike (.upsert x) (.upsert y)

/-! ### Conditions -/

theorem Predicate.nullTest_single (f : String) (o : Operator) (v : Value) (c : Connective) :
    Predicate.nullTest ⟨f, o, .single v, c⟩ =
      v.nullTest?.elim (.error (.badPredicate f .notNullTest)) .ok := by
  cases v with
  | text s =>
    rw [Value.nullTest?]
    cases h : NullTest.parse? s <;> simp [nullTest, value, bind, Except.bind, h]
  | _ => rfl

theorem Predicate.ends_of_length_ne {f : String} {o : Operator} {c : Connective} {vs : List Value}
    (h : vs.length ≠ 2) :
    Predicate.ends ⟨f, o, .list vs, c⟩ = .error (.badPredicate f .notPair) := by
  unfold ends
  split
  · rename_i heq
    cases heq
    exact absurd rfl h
  · rfl

namespace Predicate.Alike

variable {p q : Predicate} (h : p.Alike q)

include h

theorem isSkipped : p.isSkipped = q.isSkipped := by
  obtain ⟨f, o, a, c⟩ := p
  obtain ⟨f', o', b, c'⟩ := q
  have ha := h.operand
  cases a <;> cases b <;> first | exact ha.elim | exact ha.1 | rfl

theorem agree_value : Agree (fun v w => p.operand = .single v ∧ q.operand = .single w)
    p.value q.value := by
  obtain ⟨f, o, a, c⟩ := p
  obtain ⟨f', o', b, c'⟩ := q
  have ha := h.operand
  have hf := h.field
  cases a <;> cases b <;> simp_all [value, Operand.Alike]

theorem agree_patternText (ho : p.operator.isPattern = true) :
    Agree (fun _ _ => True) p.patternText q.patternText := by
  refine h.agree_value.bind ?_
  rintro v w ⟨hv, hw⟩
  have ha := h.operand
  rw [hv, hw] at ha
  have ht := ha.2.1 ho
  rw [← h.field]
  cases hv' : v.text? <;> cases hw' : w.text? <;> simp_all

theorem agree_nullTest (ho : p.operator = .isNull) : Agree Eq p.nullTest q.nullTest := by
  obtain ⟨f, o, a, c⟩ := p
  obtain ⟨f', o', b, c'⟩ := q
  obtain rfl : f = f' := h.field
  have ha := h.operand
  cases a <;> cases b <;> first | exact ha.elim | skip
  · rw [nullTest_single, nullTest_single, ha.2.2 ho]
    exact .refl _
  · rfl

theorem agree_ends : Agree (fun _ _ => True) p.ends q.ends := by
  obtain ⟨f, o, a, c⟩ := p
  obtain ⟨f', o', b, c'⟩ := q
  obtain rfl : f = f' := h.field
  have ha := h.operand
  cases a <;> cases b <;> first | exact ha.elim | skip
  · rfl
  · rename_i vs ws
    have ha : vs.length = ws.length := ha
    by_cases hv : vs.length = 2
    · obtain ⟨a, b, rfl⟩ := List.length_eq_two.1 hv
      obtain ⟨a', b', rfl⟩ := List.length_eq_two.1 (ha.symm.trans hv)
      trivial
    · rw [ends_of_length_ne hv, ends_of_length_ne (ha ▸ hv)]
      rfl

end Predicate.Alike

theorem Assignment.Alike.isSkipped {a b : Assignment} (h : Alike a b) :
    a.isSkipped = b.isSkipped := by
  cases h with
  | plain f mode hv => exact hv
  | cases f g hbs => cases hbs <;> rfl

theorem Where.isRestricted_eq {v w : Where} (h : List.Forall₂ Predicate.Alike v w) :
    v.isRestricted = w.isRestricted := by
  have he : List.Forall₂ Predicate.Alike v.effective w.effective :=
    List.rel_filter (fun p q hpq => by simp [hpq.isSkipped]) h
  unfold isRestricted
  generalize v.effective = vs at he ⊢
  generalize w.effective = ws at he ⊢
  cases he with
  | nil => rfl
  | cons hpq _ => exact congrArg (· == Connective.and) hpq.connective

/-! ### Conditions and assignments step by step -/

namespace Writer

variable {E : Engine}

theorem agrees_compare (column symbol : String) (v w : Value) :
    Agrees E Eq (compare column symbol v) (compare column symbol w) := by
  unfold compare
  exact (agrees_add v w).bind_eq fun s => agrees_pure rfl

theorem agrees_member (column word : String) {o : Operator} {a b : Operand} (h : a.Alike o b) :
    Agrees E Eq (member column word a) (member column word b) := by
  cases a with
  | single v =>
    cases b with
    | single w =>
      simp only [member]
      exact agrees_pure rfl
    | list ws => exact h.elim
  | list vs =>
    cases b with
    | single w => exact h.elim
    | list ws =>
      have hl : vs.length = ws.length := h
      cases vs <;> cases ws <;> simp only [member]
      · exact agrees_pure rfl
      · cases hl
      · cases hl
      · exact (agrees_addAll hl).bind_eq fun ss => agrees_pure rfl

theorem agrees_like (column s t : String) : Agrees E Eq (like column s) (like column t) := by
  unfold like
  exact (agrees_add _ _).bind_eq fun u => agrees_pure rfl

theorem agrees_range (column word : String) (v w v' w' : Value) :
    Agrees E Eq (range column word v w) (range column word v' w') := by
  unfold range
  exact (agrees_add v v').bind_eq fun s => (agrees_add w w').bind_eq fun t => agrees_pure rfl

/-- The tests of a column by predicates that are alike agree. -/
theorem agrees_test (column : String) {p q : Predicate} (h : p.Alike q) :
    Agrees E Eq (test column p) (test column q) := by
  unfold test
  rw [← h.operator]
  cases ho : p.operator with
  | isIn | notIn => exact agrees_member _ _ h.operand
  | contains | startsWith | endsWith =>
    have hs := h.agree_patternText (by rw [ho]; rfl)
    exact (agrees_check hs).bind fun s t _ => agrees_like column _ _
  | isNull =>
    exact (agrees_check (h.agree_nullTest ho)).bind_eq fun t => agrees_pure rfl
  | between | notBetween =>
    exact (agrees_check h.agree_ends).bind fun e e' _ => agrees_range column _ _ _ _ _
  | _ => exact (agrees_check h.agree_value).bind fun v w _ => agrees_compare column _ v w

theorem agrees_predicate {p q : Predicate} (h : p.Alike q) :
    Agrees E Eq (predicate p) (predicate q) := by
  unfold predicate
  rw [← h.field, ← h.connective]
  refine (agrees_check_same _).bind_eq fun n => (agrees_column n).bind_eq fun c => ?_
  exact (agrees_test c h).bind_eq fun s => agrees_pure rfl

theorem agrees_condition {v w : Where} (h : List.Forall₂ Predicate.Alike v w) :
    Agrees E Eq (condition v) (condition w) := by
  have hitems : Agrees E Eq (items Predicate.isSkipped predicate v)
      (items Predicate.isSkipped predicate w) :=
    agrees_items (T := Predicate.Alike) (fun _ _ hpq => hpq.isSkipped)
      (fun _ _ hpq => agrees_predicate hpq) h
  unfold condition
  exact hitems.bind_eq fun ss => agrees_pure rfl

theorem agrees_branches (column : String) {bs cs : List Branch}
    (h : List.Forall₂ (fun b c => b.mode = c.mode) bs cs) :
    Agrees E Eq (branches column bs) (branches column cs) := by
  induction h with
  | nil => exact agrees_pure rfl
  | @cons b c bs cs hm _ ih =>
    unfold branches
    refine (agrees_add b.key c.key).bind_eq fun s => ?_
    refine (agrees_add b.result c.result).bind_eq fun t => ?_
    rw [hm]
    exact ih.bind_eq fun rest => agrees_pure rfl

theorem agrees_assignment {a b : Assignment} (h : a.Alike b) :
    Agrees E Eq (assignment a) (assignment b) := by
  cases h with
  | @plain f mode v w _ =>
    unfold assignment
    refine (agrees_check_same _).bind_eq fun n => (agrees_column n).bind_eq fun c => ?_
    exact (agrees_add v w).bind_eq fun s => agrees_pure rfl
  | cases f g hbs =>
    unfold assignment
    refine (agrees_check_same _).bind_eq fun n => (agrees_check_same _).bind_eq fun m => ?_
    refine (agrees_column n).bind_eq fun c => (agrees_column m).bind_eq fun o => ?_
    exact (agrees_branches o hbs).bind_eq fun s => agrees_pure rfl

theorem agrees_assignments {as bs : List Assignment} (h : List.Forall₂ Assignment.Alike as bs) :
    Agrees E Eq (assignments as) (assignments bs) := by
  have hitems : Agrees E Eq (items Assignment.isSkipped assignment as)
      (items Assignment.isSkipped assignment bs) :=
    agrees_items (T := Assignment.Alike) (fun _ _ hab => hab.isSkipped)
      (fun _ _ hab => agrees_assignment hab) h
  unfold assignments
  exact hitems.bind_eq fun ss => agrees_pure rfl

end Writer

/-! ### Windows -/

/-- Pages with the same text and as many values. -/
inductive PageTexts.Similar : PageTexts → PageTexts → Prop
  | suffix (s : String) {vs ws : List Value} (h : vs.length = ws.length) :
    Similar (.suffix s vs) (.suffix s ws)
  | leading (s : String) {vs ws : List Value} (h : vs.length = ws.length) :
    Similar (.leading s vs) (.leading s ws)
  | wrap (s t : String) {vs ws : List Value} (h : vs.length = ws.length) :
    Similar (.wrap s t vs) (.wrap s t ws)

/-- The contract of a page: the numbers of a window are bound and not written. Windows of which both
skip rows or neither does have pages with the same text and as many values, or fail with the same
error. -/
def Engine.BindsWindows (E : Engine) : Prop :=
  ∀ (w x : Window) (i : Nat), (w.offset = 0 ↔ x.offset = 0) →
    Agree PageTexts.Similar (E.pageTexts w i) (E.pageTexts x i)

/-- An engine that has the pages of its style binds windows, however it writes placeholders and
names. -/
theorem Engine.bindsWindows_of_style {E : Engine}
    (h : E.pageTexts = fun w i => (E.toDialect.page w).map (Page.texts E.quote E.placeholder i)) :
    E.BindsWindows := by
  intro w x i hwx
  rw [h]
  dsimp only
  unfold Dialect.page
  cases E.paging with
  | limitOffset | limitComma | offsetFetch => exact PageTexts.Similar.suffix _ rfl
  | rowNumber => exact PageTexts.Similar.wrap _ _ rfl
  | top =>
    by_cases hw : w.offset = 0
    · simp only [hw, hwx.1 hw, if_true]
      exact PageTexts.Similar.leading _ rfl
    · simp only [hw, mt hwx.2 hw, if_false]
      exact rfl

theorem Dialect.bindsWindows_engine (d : Dialect) : d.engine.BindsWindows :=
  Engine.bindsWindows_of_style rfl

namespace PageTexts.Similar

variable {x y : PageTexts} (h : x.Similar y)

include h

theorem length_values : x.values.length = y.values.length := by
  cases h <;> assumption

theorem isLeading_eq : x.isLeading = y.isLeading := by
  cases h <;> rfl

theorem isSuffix_eq : x.isSuffix = y.isSuffix := by
  cases h <;> rfl

theorem apply_eq (body : String) : x.apply body = y.apply body := by
  cases h <;> rfl

end PageTexts.Similar

/-! ### Queries -/

namespace Query.Alike

variable {q r : Query} (h : q.Alike r)

include h

theorem source_eq : q.source = r.source := by
  unfold source
  rw [h.table, h.tableAlias]

theorem groups_eq : q.groups = r.groups := by
  unfold groups
  rw [h.groupBy]

theorem projection_eq : q.projection = r.projection := by
  unfold projection
  rw [h.select, h.tableAlias]

theorem aggregateProjection_eq : q.aggregateProjection = r.aggregateProjection := by
  unfold aggregateProjection
  rw [h.aggregates, h.groups_eq]

/-- The pages in front are similar. -/
theorem agree_frontPage {E : Engine} (hE : q.limit.isSome = true → E.BindsWindows) :
    Agree (Option.Rel PageTexts.Similar) (E.frontPage q.limit) (E.frontPage r.limit) := by
  have hl := h.limit
  generalize q.limit = w at hE hl ⊢
  generalize r.limit = x at hl ⊢
  cases hl with
  | none => exact .none
  | @some w x hwx =>
    refine (hE rfl w x 1 hwx).map fun y z hyz => ?_
    rw [← hyz.isLeading_eq]
    split_ifs
    · exact .some hyz
    · exact .none

end Query.Alike

namespace Writer

variable {E : Engine}

section Queries

variable {q r : Query} (h : q.Alike r)

include h

theorem agrees_projection : Agrees E Eq (projection q) (projection r) := by
  unfold projection
  refine agrees_read_bind ?_
  rw [← h.select, ← h.projection_eq]
  split_ifs
  · exact (agrees_check_same _).bind_eq fun p => agrees_pure rfl
  · exact (agrees_check_same _).bind_eq fun ss => agrees_pure rfl

theorem agrees_trailingPage (hE : q.limit.isSome = true → E.BindsWindows) (sql : String)
    (ordered : Bool) :
    Agrees E Eq (trailingPage sql ordered q.limit) (trailingPage sql ordered r.limit) := by
  have hl := h.limit
  generalize q.limit = w at hE hl ⊢
  generalize r.limit = x at hl ⊢
  cases hl with
  | none => exact agrees_pure rfl
  | @some w x hwx =>
    simp only [trailingPage]
    refine agrees_read_bind (agrees_get_bind fun vs ws hlen => ?_)
    rw [hlen]
    refine (agrees_check (hE rfl w x _ hwx)).bind fun y z hyz => ?_
    refine (agrees_extend hyz.length_values).bind_eq fun _ => agrees_pure ?_
    rw [hyz.isSuffix_eq, hyz.apply_eq]

theorem agrees_reading (hE : q.limit.isSome = true → E.BindsWindows) (items : String) :
    Agrees E Eq (reading q items) (reading r items) := by
  unfold reading
  refine agrees_read_bind ?_
  rw [h.source_eq, h.groups_eq, h.orderBy]
  refine (agrees_check_same _).bind_eq fun source => ?_
  refine (agrees_check (h.agree_frontPage hE)).bind fun front front' hfront => ?_
  have hvalues : (front.elim [] PageTexts.values).length =
      (front'.elim [] PageTexts.values).length := by
    cases hfront with
    | none => rfl
    | some hx => exact hx.length_values
  refine (agrees_extend hvalues).bind_eq fun _ => ?_
  refine (agrees_condition h.conditions).bind_eq fun clause => ?_
  refine (agrees_check_same _).bind_eq fun gs => (agrees_check_same _).bind_eq fun os => ?_
  cases hfront with
  | none => exact agrees_trailingPage h hE _ _
  | some hx => exact agrees_pure (hx.apply_eq _)

theorem agrees_rows (hE : q.limit.isSome = true → E.BindsWindows) :
    Agrees E Eq (rows q) (rows r) := by
  unfold rows
  exact (agrees_projection h).bind_eq fun items => agrees_reading h hE items

theorem agrees_aggregates (hE : q.limit.isSome = true → E.BindsWindows) :
    Agrees E Eq (aggregates q) (aggregates r) := by
  unfold aggregates
  refine agrees_read_bind ?_
  rw [h.aggregateProjection_eq]
  exact (agrees_check_same _).bind_eq fun items => agrees_reading h hE _

theorem agrees_count : Agrees E Eq (count q) (count r) := by
  unfold count
  refine agrees_read_bind ?_
  rw [h.source_eq, h.groups_eq]
  refine (agrees_check_same _).bind_eq fun source => ?_
  refine (agrees_condition h.conditions).bind_eq fun clause => ?_
  refine (agrees_check_same _).bind_eq fun gs => ?_
  dsimp only
  split_ifs <;> exact agrees_pure rfl

end Queries

/-! ### Insertions and changes -/

theorem checkWidths_eq {rs ss : List (List Value)}
    (h : List.Forall₂ (fun r s => r.length = s.length) rs ss) (columns i : Nat) :
    Insertion.checkWidths columns i rs = Insertion.checkWidths columns i ss := by
  induction h generalizing i with
  | nil => rfl
  | cons hrs _ ih =>
    unfold Insertion.checkWidths
    rw [hrs, ih]

theorem agrees_placeholders (columns i : Nat) {rs ss : List (List Value)}
    (h : List.Forall₂ (fun r s => r.length = s.length) rs ss) :
    Agrees E Eq (placeholders columns i rs) (placeholders columns i ss) := by
  induction h generalizing i with
  | nil => exact agrees_pure rfl
  | @cons r s rs ss hrs _ ih =>
    unfold placeholders
    rw [checkWidths_eq (.cons hrs .nil)]
    refine (agrees_check_same _).bind_eq fun _ => (agrees_addAll hrs).bind_eq fun ps => ?_
    exact (ih (i + 1)).bind_eq fun rest => agrees_pure rfl

section Insertions

variable {x y : Insertion} (h : x.Alike y)

include h

theorem names_eq (d : Dialect) : x.names d = y.names d := by
  unfold Insertion.names
  rw [h.table, h.columns, h.returning]

theorem agrees_insert : Agrees E Eq (insert x) (insert y) := by
  unfold insert
  refine agrees_read_bind ?_
  rw [names_eq h, h.columns, h.rows.length_eq]
  refine (agrees_check_same _).bind_eq fun n => (agrees_check_same _).bind_eq fun _ => ?_
  exact (agrees_placeholders _ _ h.rows).bind_eq fun rows => agrees_pure rfl

theorem agrees_batchInsert : Agrees E Eq (batchInsert x) (batchInsert y) := by
  unfold batchInsert
  refine agrees_read_bind ?_
  rw [names_eq h, h.columns, isEmpty_eq_of_forall₂ h.rows]
  refine (agrees_check_same _).bind_eq fun n => (agrees_check_same _).bind_eq fun _ => ?_
  exact (agrees_placeholders _ _ h.rows).bind_eq fun rows => agrees_pure rfl

end Insertions

section Modifications

variable {m n : Modification} (h : m.Alike n)

include h

theorem agrees_update : Agrees E Eq (update m) (update n) := by
  unfold update
  rw [h.table]
  refine (agrees_check_same _).bind_eq fun n => (agrees_column n).bind_eq fun table => ?_
  refine (agrees_assignments h.assignments).bind_eq fun set => ?_
  unfold updateWith
  refine agrees_read_bind ?_
  split_ifs
  · exact agrees_check (.refl _)
  · exact (agrees_condition h.conditions).bind_eq fun clause => agrees_pure rfl

theorem agrees_delete : Agrees E Eq (delete m) (delete n) := by
  unfold delete
  refine agrees_read_bind ?_
  rw [h.table]
  refine (agrees_check_same _).bind_eq fun n => ?_
  exact (agrees_condition h.conditions).bind_eq fun clause => agrees_pure rfl

end Modifications

theorem agrees_upsert {x y : Upsertion} (h : x.Alike y) : Agrees E Eq (upsert x) (upsert y) := by
  have hc : x.check = y.check := by
    unfold Upsertion.check
    rw [h.columns, h.values, h.conflictKeys]
  have hu : x.updateColumns = y.updateColumns := by
    unfold Upsertion.updateColumns
    rw [h.columns, h.updates, h.conflictKeys]
  unfold upsert
  refine agrees_read_bind ?_
  rw [hc, hu, h.table, h.columns, h.conflictKeys]
  refine (agrees_check_same _).bind_eq fun _ => (agrees_check_same _).bind_eq fun table => ?_
  refine (agrees_check_same _).bind_eq fun columns => (agrees_check_same _).bind_eq fun keys => ?_
  refine (agrees_check_same _).bind_eq fun updates => (agrees_addAll h.values).bind_eq fun ss => ?_
  dsimp only
  generalize E.upsertText? _ = s
  cases s with
  | none => exact agrees_check (.refl _)
  | some s => exact agrees_pure rfl

end Writer

/-! ### Requests -/

namespace Request

variable {r s : Request}

/-- Whether the statement of a request has a window. -/
def isPaged : Request → Bool
  | rows q | aggregate q => q.limit.isSome
  | _ => false

theorem Alike.agrees (h : Alike r s) {E : Engine} (hE : r.isPaged = true → E.BindsWindows) :
    Writer.Agrees E Eq (Writer.request r) (Writer.request s) := by
  cases h with
  | rows h => exact Writer.agrees_rows h hE
  | count h => exact Writer.agrees_count h
  | aggregate h => exact Writer.agrees_aggregates h hE
  | insert h => exact Writer.agrees_insert h
  | batchInsert h => exact Writer.agrees_batchInsert h
  | update h => exact Writer.agrees_update h
  | delete h => exact Writer.agrees_delete h
  | upsert h => exact Writer.agrees_upsert h

theorem Alike.guard_eq (h : Alike r s) : r.guard = s.guard := by
  cases h with
  | update h =>
    change Modification.guard _ _ = Modification.guard _ _
    unfold Modification.guard
    rw [Where.isRestricted_eq h.conditions]
  | delete h =>
    change Modification.guard _ _ = Modification.guard _ _
    unfold Modification.guard
    rw [Where.isRestricted_eq h.conditions]
  | _ => rfl

/-- **Values never influence the text.** Requests that are alike give the same text or fail with the
same error, guarded or not and whether or not placeholders are counted: in every engine that binds
windows, in every engine at all if there is no window in the request, and in every dialect. -/
theorem independent (h : r.Alike s) (verify : Bool) :
    (∀ E : Engine, (r.isPaged = true → E.BindsWindows) →
      (E.statement verify r).map Statement.sql = (E.statement verify s).map Statement.sql ∧
      (E.guarded verify r).map Statement.sql = (E.guarded verify s).map Statement.sql) ∧
    ∀ d : Dialect,
      (r.statement d verify).map Statement.sql = (s.statement d verify).map Statement.sql ∧
      (r.guarded d verify).map Statement.sql = (s.guarded d verify).map Statement.sql := by
  have hengine : ∀ E : Engine, (r.isPaged = true → E.BindsWindows) →
      (E.statement verify r).map Statement.sql = (E.statement verify s).map Statement.sql ∧
      (E.guarded verify r).map Statement.sql = (E.guarded verify s).map Statement.sql := by
    intro E hE
    have hs := (h.agrees hE).statement verify
    refine ⟨hs.map_eq fun _ _ => id, ?_⟩
    unfold Engine.guarded
    rw [h.guard_eq]
    have hg : Agree (fun a b => a.sql = b.sql) (s.guard >>= fun _ => E.statement verify r)
        (s.guard >>= fun _ => E.statement verify s) := .bind_same fun _ => hs
    exact hg.map_eq fun _ _ => id
  refine ⟨hengine, fun d => ?_⟩
  have hd := hengine d.engine fun _ => d.bindsWindows_engine
  rwa [d.statement_engine, d.statement_engine, d.guarded_engine, d.guarded_engine] at hd

/-- An engine with placeholders, quotes and pages of its own, and two queries for different rows of
it, the second one hostile. In MySQL their texts are the same as well. -/
theorem independent_windows :
    let E : Engine :=
      { name := "own"
        placeholders := .colon
        paging := .limitOffset
        placeholder := fun i => ":v" ++ i.repr
        quote := fun s => "<" ++ s ++ ">"
        pageTexts := fun w i =>
          if w.offset = 0 then .ok (.leading ("FIRST :v" ++ i.repr) [.nat w.count])
          else .ok (.wrap "(" (") ROWS :v" ++ i.repr ++ " TO :v" ++ (i + 1).repr)
            [.nat w.offset, .nat (w.offset + w.count)]) }
    let query (name : Value) (w : Window) : Request := .rows
      { table := "users"
        conditions := [⟨"name", .contains, .single name, .and⟩]
        limit := some w }
    let r := query (.text "a") ⟨20, 10⟩
    let s := query (.text "'; -- :v9") ⟨7, 0⟩
    let sql := "(SELECT * FROM <users> WHERE 1=1 AND <name> LIKE :v1) ROWS :v2 TO :v3"
    r.Alike s ∧ E.BindsWindows ∧ (E.statement true r).map Statement.sql = .ok sql ∧
      (E.statement true r).map Statement.sql = (E.statement true s).map Statement.sql ∧
      (r.guarded .mysql true).map Statement.sql = (s.guarded .mysql true).map Statement.sql := by
  intro E query r s sql
  have h : r.Alike s := by
    refine .rows ⟨rfl, rfl, rfl, .cons ⟨rfl, rfl, rfl, ?_⟩ .nil, rfl, .some ?_, rfl, rfl⟩
    · exact ⟨by decide, fun _ => rfl, fun h => (by cases h)⟩
    · decide
  have hE : E.BindsWindows := by
    intro w x i hwx
    change Agree _ (if w.offset = 0 then _ else _) (if x.offset = 0 then _ else _)
    by_cases hw : w.offset = 0
    · rw [if_pos hw, if_pos (hwx.1 hw)]
      exact .leading _ rfl
    · rw [if_neg hw, if_neg (mt hwx.2 hw)]
      exact .wrap _ _ rfl
  obtain ⟨hengine, hdialect⟩ := independent h true
  exact ⟨h, hE, by decide +kernel, (hengine E fun _ => hE).1, (hdialect .mysql).2⟩

/-- An engine that writes the number of rows into its text does not bind windows, and its text tells
two queries apart that differ in nothing but that number. -/
theorem not_independent_of_written_count :
    let E : Engine :=
      { name := "literal"
        placeholders := .question
        paging := .limitOffset
        pageTexts := fun w _ => .ok (.suffix ("LIMIT " ++ w.count.toNat.repr) []) }
    let query (w : Window) : Request := .rows { table := "users", limit := some w }
    (query ⟨0, 1⟩).Alike (query ⟨0, 2⟩) ∧ ¬ E.BindsWindows ∧
      (E.statement true (query ⟨0, 1⟩)).map Statement.sql =
        .ok "SELECT * FROM \"users\" WHERE 1=1 LIMIT 1" ∧
      (E.statement true (query ⟨0, 2⟩)).map Statement.sql =
        .ok "SELECT * FROM \"users\" WHERE 1=1 LIMIT 2" := by
  intro E query
  refine ⟨.rows ⟨rfl, rfl, rfl, .nil, rfl, .some Iff.rfl, rfl, rfl⟩, fun hE => ?_,
    by decide +kernel, by decide +kernel⟩
  have hsimilar : (PageTexts.suffix "LIMIT 1" []).Similar (.suffix "LIMIT 2" []) :=
    hE ⟨0, 1⟩ ⟨0, 2⟩ 1 Iff.rfl
  exact absurd (hsimilar.apply_eq "") (by decide)

end Request

end BoundSql
