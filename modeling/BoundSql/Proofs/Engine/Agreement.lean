import BoundSql.Proofs.Engine.Statements

/-!
# Programs that agree

Two programs agree in an engine if, from as many values on, they give related results with as many
values bound, or fail with the same error. They agree if they do step by step (`Writer.Agrees.bind`,
`Writer.agrees_items`). What is added does not matter to the placeholder that is given for it, only
how much is.
-/

namespace BoundSql

namespace Writer

variable {α β γ δ : Type} {E : Engine} {R : α → β → Prop} {S : γ → δ → Prop}

/-- The same error, or related results and as many values. -/
def Agrees (E : Engine) (R : α → β → Prop) (m : Writer α) (n : Writer β) : Prop :=
  ∀ vs ws : List Value, vs.length = ws.length →
    Agree (fun x y => R x.1 y.1 ∧ x.2.length = y.2.length) (m.written E vs) (n.written E ws)

theorem agrees_pure {a : α} {b : β} (h : R a b) : Agrees E R (pure a) (pure b) := by
  intro vs ws hl
  rw [written_pure, written_pure]
  exact ⟨h, hl⟩

theorem Agrees.bind {m : Writer α} {n : Writer β} {f : α → Writer γ} {g : β → Writer δ}
    (h : Agrees E R m n) (hf : ∀ a b, R a b → Agrees E S (f a) (g b)) :
    Agrees E S (m >>= f) (n >>= g) := by
  intro vs ws hl
  rw [written_bind, written_bind]
  exact (h vs ws hl).bind fun x y hxy => hf x.1 y.1 hxy.1 x.2 y.2 hxy.2

/-- Programs that go on alike with one and the same result. -/
theorem Agrees.bind_eq {m n : Writer α} {f : α → Writer γ} {g : α → Writer δ}
    (h : Agrees E Eq m n) (hf : ∀ a, Agrees E S (f a) (g a)) : Agrees E S (m >>= f) (n >>= g) :=
  h.bind fun a _ hab => hab ▸ hf a

theorem agrees_check {x : Except Error α} {y : Except Error β} (h : Agree R x y) :
    Agrees E R (check x) (check y) := by
  intro vs ws hl
  rw [written_check, written_check]
  exact h.map fun a b hab => ⟨hab, hl⟩

theorem agrees_check_same (x : Except Error α) : Agrees E Eq (check x) (check x) :=
  agrees_check (.refl x)

theorem agrees_read_bind {f : Engine → Writer γ} {g : Engine → Writer δ}
    (h : Agrees E S (f E) (g E)) : Agrees E S (read >>= f) (read >>= g) := by
  intro vs ws hl
  rw [written_read_bind, written_read_bind]
  exact h vs ws hl

theorem agrees_get_bind {f : List Value → Writer γ} {g : List Value → Writer δ}
    (h : ∀ vs ws : List Value, vs.length = ws.length → Agrees E S (f vs) (g ws)) :
    Agrees E S (get >>= f) (get >>= g) := by
  intro vs ws hl
  rw [written_get_bind, written_get_bind]
  exact h vs ws hl vs ws hl

theorem agrees_extend {us ts : List Value} (h : us.length = ts.length) :
    Agrees E Eq (extend us) (extend ts) := by
  intro vs ws hl
  exact ⟨rfl, by rw [perform_extend, perform_extend, List.length_append, List.length_append, hl, h]⟩

theorem agrees_add (v w : Value) : Agrees E Eq (add v) (add w) := by
  intro vs ws hl
  refine ⟨?_, ?_⟩
  · change E.placeholder (vs.length + 1) = E.placeholder (ws.length + 1)
    rw [hl]
  · rw [perform_add, perform_add, List.length_append, List.length_append, hl]
    rfl

theorem agrees_addAll {us ts : List Value} (h : us.length = ts.length) :
    Agrees E Eq (addAll us) (addAll ts) := by
  intro vs ws hl
  unfold written
  rw [perform_addAll, perform_addAll, hl, h]
  exact ⟨rfl, by rw [List.length_append, List.length_append, hl, h]⟩

theorem agrees_column (n : Name) : Agrees E Eq (column n) (column n) :=
  agrees_read_bind (agrees_pure rfl)

/-- Lists of items that agree one by one, and of which the same are left out. -/
theorem agrees_items {T : α → α → Prop} {skip : α → Bool} {item : α → Writer String}
    (hskip : ∀ a b, T a b → skip a = skip b)
    (hitem : ∀ a b, T a b → Agrees E Eq (item a) (item b)) {as bs : List α}
    (h : List.Forall₂ T as bs) : Agrees E Eq (items skip item as) (items skip item bs) := by
  induction h with
  | nil => exact agrees_pure rfl
  | @cons a b as bs hab _ ih =>
    unfold items
    rw [hskip a b hab]
    split_ifs
    · exact ih
    · exact (hitem a b hab).bind_eq fun s => ih.bind_eq fun ss => agrees_pure rfl

/-- Statements of programs that agree have the same text. -/
theorem Agrees.statement {m n : Writer String} (h : Agrees E Eq m n) (verify : Bool) :
    Agree (fun a b => a.sql = b.sql) (m.statement E verify) (n.statement E verify) := by
  rw [statement_eq, statement_eq]
  refine (h [] [] rfl).bind fun x y hxy => ?_
  unfold Statement.close
  rw [hxy.1, hxy.2]
  exact Agree.refuse rfl

end Writer

end BoundSql
