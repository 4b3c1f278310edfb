import BoundSql.Proofs.Bindings.Writer
import BoundSql.Proofs.Engine.Statements

/-!
# Sessions

A caller who writes a statement by hand makes several calls on the same bindings, in any order: it
adds values, binds values that it has numbered by itself, and compiles conditions and assignments,
which may fail half-way. `Bindings.run` is such a session, and `Engine.run` one in which an engine
writes the texts.

What one call can do is said once (`Engine.call_spec`): it binds some values behind those that are
bound, and tells its caller placeholders for some of them. So every place in the list of values is
told at most once in a session, and what is told of it remains true (`Engine.run_spec`,
`Bindings.told_once`).
-/

namespace BoundSql

open Phrase

namespace Bindings

/-! ### Calls -/

/-- What a caller does with bindings. -/
inductive Call
  /-- Adds a value. -/
  | add (v : Value)
  /-- Adds several values. -/
  | addAll (vs : List Value)
  /-- Binds values whose placeholders have been written already. -/
  | extend (vs : List Value)
  /-- Compiles a condition. -/
  | condition (w : Where)
  /-- Compiles assignments. -/
  | assignments (as : List Assignment)
  deriving DecidableEq

/-- What a caller is told. -/
inductive Reply
  | placeholder (s : String)
  | placeholders (ss : List String)
  | nothing
  | text (x : Except Error String)
  deriving DecidableEq

/-- What a call tells its caller, and the bindings after it. -/
def call (b : Bindings) : Call → Reply × Bindings
  | .add v => (b.add v).map .placeholder id
  | .addAll vs => (b.addAll vs).map .placeholders id
  | .extend vs => (.nothing, b.extend vs)
  | .condition w => (b.bindWhere w).map .text id
  | .assignments as => (b.bindAssignments as).map .text id

/-- The calls of a session with what each of them tells, and the bindings after the last one. -/
def run (b : Bindings) : List Call → List (Call × Reply) × Bindings
  | [] => ([], b)
  | c :: cs => ((c, (b.call c).1) :: ((b.call c).2.run cs).1, ((b.call c).2.run cs).2)

/-! ### Places -/

/-- The values stand at the given places of a list. -/
def StandAt (values : List Value) (places : List Nat) (vs : List Value) : Prop :=
  List.Forall₂ (fun i v => values[i]? = some v) places vs

theorem StandAt.mono {values more : List Value} (h : values <+: more) {places : List Nat}
    {vs : List Value} (hs : StandAt values places vs) : StandAt more places vs := by
  refine hs.imp fun i v hv => ?_
  obtain ⟨ws, rfl⟩ := h
  rw [List.getElem?_append_left (List.getElem?_eq_some_iff.1 hv).1, hv]

/-- Values that are appended stand behind those that were there before. -/
theorem standAt_append (us vs : List Value) :
    StandAt (us ++ vs) (List.range' us.length vs.length) vs := by
  induction vs generalizing us with
  | nil => exact .nil
  | cons v vs ih =>
    have hrest := ih (us ++ [v])
    rw [List.append_assoc, List.length_append, List.length_singleton] at hrest
    rw [List.length_cons, List.range'_succ]
    exact .cons (by simp) hrest

/-- The phrase that a call compiles, or its error, if it compiles anything. -/
def Call.phrase? : Call → Option (Except Error Phrase)
  | condition w => some w.phrase
  | assignments as => some (Assignment.listPhrase as)
  | add _ | addAll _ | extend _ => none

/-- What a call tells, if the given values are bound in the end: the placeholders with the numbers
of the places where its values stand. The places are counted from zero and their numbers from one.
A text that is compiled has its placeholders in it. -/
inductive Tells (E : Engine) (values : List Value) : Call → Reply → List Nat → Prop
  | add {v : Value} {i : Nat} (h : values[i]? = some v) :
    Tells E values (.add v) (.placeholder (E.placeholder (i + 1))) [i]
  | addAll {vs : List Value} {places : List Nat} (h : StandAt values places vs) :
    Tells E values (.addAll vs)
      (.placeholders (places.map fun i => E.placeholder (i + 1))) places
  | extend {vs : List Value} : Tells E values (.extend vs) .nothing []
  | text {c : Call} {p : Phrase} {i : Nat} (hp : c.phrase? = some (.ok p))
    (h : StandAt values (List.range' i p.values.length) p.values) :
    Tells E values c (.text (.ok (E.render (i + 1) p))) (List.range' i p.values.length)
  | error {c : Call} {e : Error} (hp : c.phrase? = some (.error e)) :
    Tells E values c (.text (.error e)) []

theorem Tells.mono {E : Engine} {values more : List Value} (h : values <+: more) {c : Call}
    {r : Reply} {places : List Nat} (ht : Tells E values c r places) : Tells E more c r places := by
  cases ht with
  | @add v i hv =>
    have hs : StandAt values [i] [v] := .cons hv .nil
    exact .add (List.forall₂_cons.1 (hs.mono h)).1
  | addAll hs => exact .addAll (hs.mono h)
  | extend => exact .extend
  | text hp hs => exact .text hp (hs.mono h)
  | error hp => exact .error hp

/-- A call as a step of a program. -/
def Call.step : Call → Writer Reply
  | add v => do return .placeholder (← Writer.add v)
  | addAll vs => do return .placeholders (← Writer.addAll vs)
  | extend vs => do
    Writer.extend vs
    return .nothing
  | condition w => do return .text (.ok (← Writer.condition w))
  | assignments as => do return .text (.ok (← Writer.assignments as))

end Bindings

/-! ### Sessions in an engine -/

namespace Engine

open Bindings

variable (E : Engine)

/-- What a call tells if an engine writes the texts, and the values that are bound after it. -/
def call (vs : List Value) (c : Call) : Reply × List Value :=
  match c.step.perform E vs with
  | (.ok r, ws) => (r, ws)
  | (.error e, ws) => (.text (.error e), ws)

/-- The calls of a session with what each of them tells, and the values that are bound after the
last one. -/
def run (vs : List Value) : List Call → List (Call × Reply) × List Value
  | [] => ([], vs)
  | c :: cs => ((c, (E.call vs c).1) :: (run (E.call vs c).2 cs).1, (run (E.call vs c).2 cs).2)

theorem run_append (vs : List Value) (cs ds : List Call) : E.run vs (cs ++ ds) =
    ((E.run vs cs).1 ++ (E.run (E.run vs cs).2 ds).1, (E.run (E.run vs cs).2 ds).2) := by
  induction cs generalizing vs with
  | nil => rfl
  | cons c cs ih => simp [run, ih]

theorem map_fst_run (vs : List Value) (cs : List Call) : (E.run vs cs).1.map Prod.fst = cs := by
  induction cs generalizing vs with
  | nil => rfl
  | cons c cs ih => rw [run, List.map_cons, ih]

/-- Placeholders have the numbers of the places that their values take. -/
theorem placeholdersFrom_succ (i n : Nat) :
    E.placeholdersFrom (i + 1) n = (List.range' i n).map fun k => E.placeholder (k + 1) := by
  rw [placeholdersFrom, Nat.add_comm, ← List.map_add_range', List.map_map]
  exact List.map_congr_left fun k _ => congrArg E.placeholder (Nat.add_comm 1 k)

/-- What is compiled is told with the numbers of the values that it binds, or not at all. -/
theorem call_spec_of_compiled {vs us : List Value} {c : Call} {m : Writer String}
    {x : Except Error Phrase} (hstep : c.step = m >>= fun s => pure (.text (.ok s)))
    (hc : c.phrase? = some x) (hm : m.perform E vs = (x.map (E.render (vs.length + 1)), vs ++ us))
    (hus : ∀ p, x = .ok p → us = p.values) :
    ∃ added places, (E.call vs c).2 = vs ++ added ∧
      places.Sublist (List.range' vs.length added.length) ∧
      Tells E (vs ++ added) c (E.call vs c).1 places := by
  rw [call, hstep, Writer.perform_bind, hm]
  cases x with
  | error e => exact ⟨us, [], rfl, List.nil_sublist _, .error hc⟩
  | ok p =>
    obtain rfl := hus p rfl
    exact ⟨p.values, _, rfl, .refl _, .text hc (standAt_append vs p.values)⟩

/-- **What a call can do**: it binds values behind those that are bound, and tells its caller the
placeholders for some of them, in order. -/
theorem call_spec (vs : List Value) (c : Call) : ∃ added places, (E.call vs c).2 = vs ++ added ∧
    places.Sublist (List.range' vs.length added.length) ∧
    Tells E (vs ++ added) c (E.call vs c).1 places := by
  cases c with
  | add v => exact ⟨[v], [vs.length], rfl, .refl _, .add (by simp)⟩
  | addAll ws =>
    rw [call, Call.step, Writer.perform_bind_ok (Writer.perform_addAll ws),
      E.placeholdersFrom_succ]
    exact ⟨ws, _, rfl, .refl _, .addAll (standAt_append vs ws)⟩
  | extend ws => exact ⟨ws, [], rfl, List.nil_sublist _, .extend⟩
  | condition w =>
    exact E.call_spec_of_compiled rfl rfl (Writer.perform_condition E vs w)
      fun p => Progress.values_of_result Where.values_assemble
  | assignments as =>
    exact E.call_spec_of_compiled rfl rfl (Writer.perform_assignments E vs as)
      fun p => Progress.values_of_result values_commas

/-- **A session in any engine** binds values behind those that are bound, and every place is told at
most once. -/
theorem run_spec (vs : List Value) (cs : List Call) : ∃ added places,
    (E.run vs cs).2 = vs ++ added ∧
    (List.flatten places).Sublist (List.range' vs.length added.length) ∧
    List.Forall₂ (fun x is => Tells E (vs ++ added) x.1 x.2 is) (E.run vs cs).1 places := by
  induction cs generalizing vs with
  | nil => exact ⟨[], [], (List.append_nil vs).symm, .refl _, .nil⟩
  | cons c cs ih =>
    obtain ⟨us, is, hcall, his, ht⟩ := E.call_spec vs c
    obtain ⟨ws, places, hrun, hplaces, hts⟩ := ih (E.call vs c).2
    rw [hcall] at hrun hplaces hts
    rw [List.length_append] at hplaces
    rw [List.append_assoc] at hts
    refine ⟨us ++ ws, is :: places, ?_, ?_, ?_⟩
    · rw [run, hcall, hrun, List.append_assoc]
    · rw [List.flatten_cons, List.length_append, ← List.range'_append_1]
      exact his.append hplaces
    · rw [run, hcall]
      refine .cons (ht.mono ?_) hts
      rw [← List.append_assoc]
      exact List.prefix_append _ _

/-- What has been bound stays where it is. -/
theorem values_prefix_run (vs : List Value) (cs ds : List Call) :
    (E.run vs cs).2 <+: (E.run vs (cs ++ ds)).2 := by
  obtain ⟨ws, -, h, -⟩ := E.run_spec (E.run vs cs).2 ds
  rw [run_append, h]
  exact List.prefix_append _ _

end Engine

/-! ### Sessions on bindings -/

namespace Bindings

/-- A call on bindings is the call in the engine of their dialect. -/
theorem call_eq (b : Bindings) (c : Call) : b.call c =
    ((b.dialect.engine.call b.values c).1,
      { b with values := (b.dialect.engine.call b.values c).2 }) := by
  cases c with
  | add v =>
    rw [call, b.add_eq]
    rfl
  | addAll vs =>
    rw [call, b.addAll_eq, Engine.call, Call.step, Writer.perform_bind_ok (Writer.perform_addAll vs),
      Engine.placeholdersFrom, List.range'_eq_map_range, List.map_map]
    rfl
  | extend vs => rfl
  | condition w =>
    rw [call, ← Writer.outcome_condition, Engine.call, Call.step, Writer.perform_bind, Writer.outcome]
    cases (Writer.condition w).perform b.dialect.engine b.values with
    | mk x ws => cases x <;> rfl
  | assignments as =>
    rw [call, ← Writer.outcome_assignments, Engine.call, Call.step, Writer.perform_bind,
      Writer.outcome]
    cases (Writer.assignments as).perform b.dialect.engine b.values with
    | mk x ws => cases x <;> rfl

theorem run_eq (b : Bindings) (cs : List Call) : b.run cs =
    ((b.dialect.engine.run b.values cs).1,
      { b with values := (b.dialect.engine.run b.values cs).2 }) := by
  induction cs generalizing b with
  | nil => rfl
  | cons c cs ih => rw [run, b.call_eq, ih, Engine.run]

/-- The finished statement has the values that are bound. It fails only if it is verified and has
another number of placeholders. -/
theorem finish_iff (b : Bindings) (sql : String) (verify : Bool) :
    (b.finish sql verify = .ok ⟨sql, b.values⟩ ↔
      ¬ (verify = true ∧ b.dialect.scanner.count sql ≠ b.values.length)) ∧
    ((∃ e, b.finish sql verify = .error e) ↔
      verify = true ∧ b.dialect.scanner.count sql ≠ b.values.length) := by
  unfold finish Statement.close
  split_ifs with h
  · exact ⟨iff_of_false (by simp) (not_not.2 h), iff_of_true ⟨_, rfl⟩ h⟩
  · exact ⟨iff_of_true rfl h, iff_of_false (by simp) h⟩

/-- **Every number is told at most once, and remains the number of its value.** Whatever the calls
of a session are, whether they fail or not: the next number is one more than there are values, the
values only grow behind those that are bound, and the placeholders that the calls tell have the
numbers of the places where their values stand in the end. Then the finished statement has exactly
these values, and is refused only if it is verified and has another number of placeholders. -/
theorem told_once (d : Dialect) (given : List Value) (calls : List Call) :
    let start : Bindings := ⟨d, given⟩
    let session := start.run calls
    session.1.map Prod.fst = calls ∧
    (∀ k, (start.run (calls.take k)).2.next = (start.run (calls.take k)).2.values.length + 1 ∧
      (start.run (calls.take k)).2.values <+: session.2.values) ∧
    (∃ added places, session.2.values = given ++ added ∧
      (List.flatten places).Sublist (List.range' given.length added.length) ∧
      List.Forall₂ (fun x is => Tells d session.2.values x.1 x.2 is) session.1 places) ∧
    ∀ sql verify,
      (session.2.finish sql verify = .ok ⟨sql, session.2.values⟩ ↔
        ¬ (verify = true ∧ d.scanner.count sql ≠ session.2.values.length)) ∧
      ((∃ e, session.2.finish sql verify = .error e) ↔
        verify = true ∧ d.scanner.count sql ≠ session.2.values.length) := by
  intro start session
  have hrun : ∀ cs, start.run cs =
      ((d.engine.run given cs).1, ⟨d, (d.engine.run given cs).2⟩) := start.run_eq
  have hsession : session = ((d.engine.run given calls).1, ⟨d, (d.engine.run given calls).2⟩) :=
    hrun calls
  obtain ⟨added, places, hvalues, hplaces, htells⟩ := d.engine.run_spec given calls
  rw [hsession]
  refine ⟨d.engine.map_fst_run given calls, fun k => ⟨rfl, ?_⟩,
    ⟨added, places, hvalues, hplaces, ?_⟩, fun sql verify => finish_iff _ sql verify⟩
  · have hprefix := d.engine.values_prefix_run given (calls.take k) (calls.drop k)
    rw [List.take_append_drop] at hprefix
    rwa [hrun]
  · rw [hvalues]
    exact htells

/-- The second predicate has no name, so the condition fails when the first one has been bound. The
value of that keeps its number, and so does the value that comes without a placeholder. -/
example :
    let b : Bindings := ⟨.postgres, [.int 10]⟩
    let session := b.run [.add (.text "x"),
      .condition [⟨"id", .equal, .single (.int 1), .and⟩, ⟨"", .less, .single (.int 2), .and⟩],
      .extend [.int 5], .addAll [.null, .bool true]]
    session.1.map Prod.snd = [.placeholder "$2", .text (.error (.badName "")), .nothing,
      .placeholders ["$5", "$6"]] ∧
    session.2.values = [.int 10, .text "x", .int 1, .int 5, .null, .bool true] := by
  decide +kernel

end Bindings

end BoundSql
