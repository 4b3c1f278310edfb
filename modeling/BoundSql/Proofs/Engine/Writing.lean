import BoundSql.Proofs.Outcome
import BoundSql.Proofs.Request.Values
import BoundSql.Writer

/-!
# Writing in an engine

What the steps of a `Writer` do, in whatever engine they are taken. Each predicate and each
assignment is all or nothing (`Writer.Atomic`): what can fail in it comes before what it adds. So a
condition and a list of assignments bind their items one after the other until one fails, and their
texts are those of the phrases (`Writer.perform_condition`, `Writer.perform_assignments`).
-/

namespace BoundSql

open Phrase

/-! ### Texts in an engine -/

namespace Engine

variable (E : Engine) (i : Nat)

@[simp] theorem render_nil : E.render i [] = "" := rfl

@[simp] theorem render_lit (s : String) : E.render i (lit s) = s := String.append_empty

@[simp] theorem render_ofName (n : Name) : E.render i (ofName n) = E.quote n.text :=
  String.append_empty

@[simp] theorem render_ofValue (v : Value) : E.render i (ofValue v) = E.placeholder i :=
  String.append_empty

/-- The second part of a phrase is numbered on from the values of the first. -/
theorem render_append (p q : Phrase) :
    E.render i (p ++ q) = E.render i p ++ E.render (i + p.values.length) q := by
  unfold render
  induction p generalizing i with
  | nil => simp [write]
  | cons t p ih =>
    cases t with
    | value v =>
      simp only [List.cons_append, write, values, List.length_cons, ih, String.append_assoc]
      rw [Nat.add_right_comm, Nat.add_assoc]
    | _ => simp [write, values, ih, String.append_assoc]

/-- A phrase that binds nothing has the same text wherever it stands. -/
theorem render_of_values_eq_nil {p : Phrase} (h : p.values = []) : E.render i p = E.spell p := by
  unfold spell render
  induction p with
  | nil => rfl
  | cons t p ih => cases t <;> simp_all [write, values]

/-- The texts of phrases one after the other; the first value has the number `i`. -/
def renderEach : Nat → List Phrase → List String
  | _, [] => []
  | i, p :: ps => E.render i p :: renderEach (i + p.values.length) ps

theorem render_flatten (ps : List Phrase) :
    E.render i ps.flatten = String.join (E.renderEach i ps) := by
  induction ps generalizing i with
  | nil => rfl
  | cons p ps ih => rw [List.flatten_cons, render_append, ih, renderEach, String.join_cons]

theorem render_join (separator : String) (ps : List Phrase) :
    E.render i (join separator ps) = separator.intercalate (E.renderEach i ps) := by
  induction ps generalizing i with
  | nil => rfl
  | cons p ps ih =>
    cases ps with
    | nil => simp [join, renderEach]
    | cons q ps =>
      have hjoin : join separator (p :: q :: ps) =
          p ++ (lit separator ++ join separator (q :: ps)) := by
        simp [join, List.intercalate_cons_cons]
      rw [hjoin, render_append, render_append, ih, render_lit, values_lit, List.length_nil,
        Nat.add_zero]
      simp only [renderEach, String.intercalate_cons_cons, String.append_assoc]

/-- The placeholders of `n` values, the first with the number `i`. -/
def placeholdersFrom (n : Nat) : List String := (List.range' i n).map E.placeholder

theorem renderEach_ofValue (vs : List Value) :
    E.renderEach i (vs.map ofValue) = E.placeholdersFrom i vs.length := by
  induction vs generalizing i with
  | nil => rfl
  | cons v vs ih =>
    rw [List.map_cons, renderEach, render_ofValue, values_ofValue, List.length_singleton, ih,
      List.length_cons, placeholdersFrom, placeholdersFrom, List.range'_succ, List.map_cons]

/-- Values with commas between them are written as their placeholders. -/
theorem render_values (vs : List Value) : E.render i (commas (vs.map ofValue)) =
    ", ".intercalate (E.placeholdersFrom i vs.length) := by
  rw [commas, render_join, renderEach_ofValue]

end Engine

@[simp] theorem Dialect.quote_engine (d : Dialect) : d.engine.quote = d.quotes.quote := rfl

@[simp] theorem Dialect.placeholder_engine (d : Dialect) :
    d.engine.placeholder = d.placeholders.render := rfl

/-- What is written in the styles of a dialect is what the dialect renders. -/
theorem Phrase.write_styles (d : Dialect) (i : Nat) (p : Phrase) :
    p.write d.quotes.quote d.placeholders.render i = p.render d i := by
  apply String.toList_inj.1
  rw [toList_render]
  induction p generalizing i with
  | nil => rfl
  | cons t p ih => cases t <;> simp [write, renderFrom, ih, PlaceholderStyle.chars]

@[simp] theorem Dialect.render_engine (d : Dialect) (i : Nat) (p : Phrase) :
    d.engine.render i p = p.render d i := p.write_styles d i

namespace Writer

variable {α β : Type} {E : Engine} {vs : List Value}

/-! ### Steps -/

@[simp] theorem perform_pure (a : α) : (pure a : Writer α).perform E vs = (.ok a, vs) := rfl

theorem perform_bind (m : Writer α) (f : α → Writer β) :
    (m >>= f).perform E vs = match m.perform E vs with
      | (.ok a, ws) => (f a).perform E ws
      | (.error e, ws) => (.error e, ws) := by
  unfold perform
  change (ExceptT.bind (m E) fun a => f a E).run.run vs = _
  simp only [ExceptT.bind, ExceptT.run, ExceptT.mk, StateT.run, bind, StateT.bind,
    ExceptT.bindCont]
  cases m E vs with
  | mk x ws => cases x <;> rfl

theorem perform_bind_ok {m : Writer α} {f : α → Writer β} {a : α} {ws : List Value}
    (h : m.perform E vs = (.ok a, ws)) : (m >>= f).perform E vs = (f a).perform E ws := by
  rw [perform_bind, h]

@[simp] theorem perform_extend (ws : List Value) :
    (extend ws).perform E vs = (.ok (), vs ++ ws) := rfl

@[simp] theorem perform_add (v : Value) :
    (add v).perform E vs = (.ok (E.placeholder (vs.length + 1)), vs ++ [v]) := rfl

@[simp] theorem perform_column (n : Name) : (column n).perform E vs = (.ok (E.quote n.text), vs) :=
  rfl

/-- Values that are added have the placeholders from the next number on. -/
@[simp] theorem perform_addAll (ws : List Value) :
    (addAll ws).perform E vs = (.ok (E.placeholdersFrom (vs.length + 1) ws.length), vs ++ ws) := by
  unfold addAll
  induction ws generalizing vs with
  | nil => simp [Engine.placeholdersFrom]
  | cons w ws ih =>
    rw [List.mapM_cons, perform_bind_ok (perform_add w), perform_bind_ok ih, perform_pure,
      List.length_append, List.append_assoc]
    simp [Engine.placeholdersFrom, List.range'_succ]

/-! ### All or nothing -/

/-- In the engine, the step gives the text of a phrase and binds its values, or it fails and binds
nothing. -/
def Atomic (E : Engine) (m : Writer String) (x : Except Error Phrase) : Prop :=
  ∀ vs, m.perform E vs = match x with
    | .ok p => (.ok (E.render (vs.length + 1) p), vs ++ p.values)
    | .error e => (.error e, vs)

/-- A check before an atomic step leaves it atomic, since the check binds nothing. -/
theorem Atomic.check_bind {x : Except Error α} {f : α → Writer String} {g : α → Except Error Phrase}
    (h : ∀ a, Atomic E (f a) (g a)) : Atomic E (check x >>= f) (x >>= g) := by
  intro vs
  cases x with
  | error e => rfl
  | ok a => exact h a vs

theorem Atomic.check_map {x : Except Error α} {f : α → Writer String} {g : α → Phrase}
    (h : ∀ a, Atomic E (f a) (.ok (g a))) : Atomic E (check x >>= f) (x.map g) := by
  have hmap : x.map g = x >>= fun a => .ok (g a) := by cases x <;> rfl
  rw [hmap]
  exact .check_bind h

theorem Atomic.column {n : Name} {f : String → Writer String} {x : Except Error Phrase}
    (h : Atomic E (f (E.quote n.text)) x) : Atomic E (column n >>= f) x := fun vs =>
  (perform_bind_ok (perform_column n)).trans (h vs)

/-! ### Conditions -/

variable (n : Name)

theorem atomic_compare (symbol : String) (v : Value) :
    Atomic E (compare (E.quote n.text) symbol v) (.ok (Test.compare (ofName n) symbol v)) := by
  intro vs
  rw [compare, perform_bind_ok (perform_add v), perform_pure]
  simp [Test.compare, Engine.render_append, String.append_assoc]

theorem atomic_member (word : String) (o : Operand) :
    Atomic E (member (E.quote n.text) word o) (.ok (Test.member (ofName n) word o)) := by
  intro vs
  match o with
  | .single v => simp [member, Test.member, Engine.render_append, String.append_assoc]
  | .list [] =>
    -- Nothing stands between the parentheses, so they are the text of one word.
    simp [member, Test.member, Engine.render_append, commas, join, String.append_assoc]
  | .list (v :: ws) =>
    rw [member, perform_bind_ok (perform_addAll _), perform_pure]
    simp only [Test.member, Engine.render_append, Engine.render_values]
    simp [String.append_assoc]

theorem atomic_like (pattern : String) :
    Atomic E (like (E.quote n.text) pattern) (.ok (Test.like (ofName n) pattern)) := by
  intro vs
  rw [like, perform_bind_ok (perform_add _), perform_pure]
  simp [Test.like, Engine.render_append, String.append_assoc]

theorem atomic_null (t : NullTest) :
    Atomic E (pure (E.quote n.text ++ " IS " ++ t.text)) (.ok (Test.null (ofName n) t)) := by
  intro vs
  simp [Test.null, Engine.render_append, String.append_assoc]

theorem atomic_range (word : String) (low high : Value) :
    Atomic E (range (E.quote n.text) word low high)
      (.ok (Test.range (ofName n) word low high)) := by
  intro vs
  rw [range, perform_bind_ok (perform_add _), perform_bind_ok (perform_add _), perform_pure]
  simp [Test.range, Engine.render_append, String.append_assoc]

/-- The test of a predicate is all or nothing. -/
theorem atomic_test (p : Predicate) : Atomic E (test (E.quote n.text) p) (p.test (ofName n)) := by
  unfold test Predicate.test
  cases p.operator with
  | equal | notEqual | greater | less | greaterEqual | lessEqual =>
    exact .check_map fun v => atomic_compare n _ v
  | isIn | notIn => exact atomic_member n _ _
  | contains | startsWith | endsWith => exact .check_map fun t => atomic_like n _
  | isNull => exact .check_map fun t => atomic_null n t
  | between | notBetween => exact .check_map fun e => atomic_range n _ e.1 e.2

/-- A step before whose text words are put. -/
theorem Atomic.before {m : Writer String} {x : Except Error Phrase} (h : Atomic E m x)
    {p : Phrase} (hp : p.values = []) :
    Atomic E (m >>= fun t => pure (E.spell p ++ t)) (x >>= fun q => pure (p ++ q)) := by
  intro vs
  cases x with
  | error e => rw [perform_bind, h vs]; rfl
  | ok q =>
    rw [perform_bind_ok (h vs), perform_pure]
    simp [bind, Except.bind, pure, Except.pure, Engine.render_append, hp,
      E.render_of_values_eq_nil _ hp]

/-- A predicate is all or nothing. -/
theorem atomic_predicate (p : Predicate) : Atomic E (predicate p) p.phrase := by
  refine .check_bind fun n => .column ?_
  have hwords : E.spell (lit " " ++ lit p.connective.text ++ lit " ") =
      " " ++ p.connective.text ++ " " := by
    simp [Engine.spell, Engine.render_append, String.append_assoc]
  have h := (atomic_test (E := E) n p).before
    (p := lit " " ++ lit p.connective.text ++ lit " ") (by simp)
  rwa [hwords] at h

/-! ### Assignments -/

theorem render_newValue (mode : ChangeMode) (v : Value) (i : Nat) :
    E.render i (Assignment.newValue (ofName n) mode v) =
      newValue (E.quote n.text) mode (E.placeholder i) := by
  unfold newValue Assignment.newValue
  cases mode.sign? with
  | none => simp
  | some sign => simp [Engine.render_append, String.append_assoc]

theorem atomic_branches (bs : List Branch) :
    Atomic E (branches (E.quote n.text) bs)
      (.ok (bs.flatMap (Assignment.branchPhrase (ofName n)))) := by
  induction bs with
  | nil => exact fun vs => by simp [branches]
  | cons b bs ih =>
    intro vs
    have hnew := Assignment.values_newValue (values_ofName n) b.mode b.result
    rw [branches, perform_bind_ok (perform_add _), perform_bind_ok (perform_add _),
      perform_bind_ok (ih _), perform_pure, List.flatMap_cons]
    simp [Assignment.branchPhrase, Engine.render_append, render_newValue, hnew, String.append_assoc]

/-- An assignment is all or nothing. -/
theorem atomic_assignment (a : Assignment) : Atomic E (assignment a) a.phrase := by
  cases a with
  | plain f mode v =>
    refine .check_bind fun n => .column fun vs => ?_
    have hnew := Assignment.values_newValue (values_ofName n) mode v
    rw [perform_bind_ok (perform_add v), perform_pure]
    simp [pure, Except.pure, Engine.render_append, render_newValue, hnew, String.append_assoc]
  | cases f g bs =>
    refine .check_bind fun n => .check_bind fun o => .column (.column fun vs => ?_)
    rw [perform_bind_ok (atomic_branches o bs vs), perform_pure]
    simp [pure, Except.pure, Engine.render_append, String.append_assoc]

end Writer

/-! ### Lists of items -/

namespace Progress

/-- The texts of the compiled items, the first value with the number `i`, unless one has failed. -/
def texts (E : Engine) (i : Nat) (x : Progress) : Except Error (List String) :=
  match x.fault with
  | some e => .error e
  | none => .ok (E.renderEach i x.done)

theorem texts_cons (E : Engine) (i : Nat) (p : Phrase) (x : Progress) :
    texts E i ⟨p :: x.done, x.fault⟩ =
      (x.texts E (i + p.values.length)).map (E.render i p :: ·) := by
  unfold texts
  cases x.fault <;> rfl

end Progress

namespace Writer

variable {α : Type} {E : Engine} {skip : α → Bool} {item : α → Writer String}
  {f : α → Except Error Phrase}

/-- Items that are all or nothing are bound one by one until one fails, and those that are left out
bind nothing. -/
theorem perform_items (h : ∀ a, Atomic E (item a) (f a)) (as : List α) (vs : List Value)
    {x : Progress} (hx : Progress.run f (as.filter fun a => !skip a) = x) :
    (items skip item as).perform E vs = (x.texts E (vs.length + 1), vs ++ x.values) := by
  induction as generalizing vs x with
  | nil =>
    subst hx
    simp [items, Progress.texts, Engine.renderEach, Progress.values]
  | cons a as ih =>
    unfold items
    by_cases hs : skip a = true
    · rw [List.filter_cons_of_neg (by simpa using hs)] at hx
      rw [if_pos hs, ih vs hx]
    · rw [List.filter_cons_of_pos (by simpa using hs)] at hx
      rw [if_neg hs, perform_bind, h a vs]
      cases ha : f a with
      | error e =>
        rw [Progress.run_cons_error f ha] at hx
        subst hx
        simp [Progress.texts, Progress.values]
      | ok p =>
        rw [Progress.run_cons_ok f ha] at hx
        subst hx
        -- The rest is numbered on from the values of this item.
        have hrest := ih (vs ++ p.values) rfl
        rw [List.length_append, Nat.add_right_comm, List.append_assoc] at hrest
        dsimp only
        rw [perform_bind, hrest, Progress.texts_cons]
        cases (Progress.run f (as.filter fun a => !skip a)).texts E
          (vs.length + 1 + p.values.length) <;> rfl

/-- The texts of all items put together, as their phrases are. -/
theorem perform_assembled (h : ∀ a, Atomic E (item a) (f a)) (join : List String → String)
    {assemble : List Phrase → Phrase}
    (hj : ∀ i ps, join (E.renderEach i ps) = E.render i (assemble ps)) (as : List α)
    (vs : List Value) {x : Progress} (hx : Progress.run f (as.filter fun a => !skip a) = x) :
    (items skip item as >>= fun ss => pure (join ss)).perform E vs =
      ((x.result assemble).map (E.render (vs.length + 1)), vs ++ x.values) := by
  rw [perform_bind, perform_items h as vs hx]
  obtain ⟨done, fault⟩ := x
  cases fault with
  | some e => rfl
  | none => exact Prod.ext (congrArg Except.ok (hj _ done)) rfl

/-- **A condition is bound step by step.** -/
theorem perform_condition (E : Engine) (vs : List Value) (w : Where) :
    (condition w).perform E vs =
      (w.phrase.map (E.render (vs.length + 1)), vs ++ w.progress.values) := by
  refine perform_assembled atomic_predicate (fun ss => "1=1" ++ String.join ss) ?_ w vs rfl
  intro i ps
  simp [Where.assemble, Where.base, Engine.render_append, Engine.render_flatten]

/-- **A list of assignments is bound step by step.** -/
theorem perform_assignments (E : Engine) (vs : List Value) (as : List Assignment) :
    (assignments as).perform E vs =
      ((Assignment.listPhrase as).map (E.render (vs.length + 1)),
        vs ++ (Assignment.progress as).values) := by
  refine perform_assembled atomic_assignment (fun ss => ", ".intercalate ss) ?_ as vs rfl
  intro i ps
  simp [commas, Engine.render_join]

end Writer

end BoundSql
