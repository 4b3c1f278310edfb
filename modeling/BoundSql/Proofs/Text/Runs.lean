import BoundSql.Text.Runs
import Mathlib.Data.List.Basic
import Mathlib.Data.List.TakeWhile

/-!
# Maximal runs, described by where they stand

`runs` cuts a text into its maximal runs of one class of characters from left to right. Here a
maximal run is described by its place alone: a stretch of characters of the class with no such
character before it and none after it (`IsRun`). The runs that are cut are the runs there are
(`mem_runs_iff`).
-/

namespace BoundSql.Text

variable {p : Char → Bool}

/-- A maximal run of characters that satisfy `p`: some of them in a row, neither preceded nor
followed by another one. -/
def IsRun (p : Char → Bool) (cs w : List Char) : Prop :=
  w ≠ [] ∧ (∀ c ∈ w, p c = true) ∧ ∃ l r, cs = l ++ w ++ r ∧
    l.getLast?.any p = false ∧ r.head?.any p = false

/-! ### How a text is put together -/

/-- A text is put together, from its end, of characters outside of the class and of runs that
stop where they do. -/
theorem runs_induction {motive : List Char → Prop} (nil : motive [])
    (skip : ∀ c cs, p c = false → motive cs → motive (c :: cs))
    (run : ∀ w r, w ≠ [] → (∀ c ∈ w, p c = true) → r.head?.any p = false → motive r →
      motive (w ++ r)) (cs : List Char) : motive cs := by
  induction hn : cs.length using Nat.strong_induction_on generalizing cs with
  | h n ih =>
    cases cs with
    | nil => exact nil
    | cons c cs =>
      cases hc : p c with
      | false => exact skip c cs hc (ih _ (by simp [← hn]) cs rfl)
      | true =>
        have htake : (c :: cs).takeWhile p = c :: cs.takeWhile p := by simp [hc]
        have hdrop : (c :: cs).dropWhile p = cs.dropWhile p := by simp [hc]
        rw [← List.takeWhile_append_dropWhile (p := p) (l := c :: cs), hdrop]
        refine run _ _ (by simp [htake]) (fun d hd => List.mem_takeWhile_imp hd) ?_ (ih _ ?_ _ rfl)
        · cases h : cs.dropWhile p with
          | nil => rfl
          | cons d ds => simpa [h] using List.head?_dropWhile_not p cs
        · have := List.length_dropWhile_le p cs
          simp only [List.length_cons] at hn
          omega

/-- A run that ends where it does is cut off as one. -/
theorem runs_append_of_run {w r : List Char} (hw : w ≠ []) (hp : ∀ c ∈ w, p c = true)
    (hr : r.head?.any p = false) : runs p (w ++ r) = w :: runs p r := by
  induction w with
  | nil => exact absurd rfl hw
  | cons c w ih =>
    have hc := hp c (by simp)
    cases w with
    | nil =>
      cases r with
      | nil => simp [runs, hc]
      | cons d r =>
        have hd : p d = false := by simpa using hr
        rw [List.singleton_append]
        cases h : runs p (d :: r) with
        | nil => rw [runs.eq_3 p c _ (by simp [h]), if_pos hc, h]
        | cons x xs => rw [runs.eq_2 p c d r x xs h, if_pos hc, hd, if_neg Bool.false_ne_true]
    | cons d w =>
      have hd := hp d (by simp)
      have ih := ih (by simp) fun e he => hp e (List.mem_cons_of_mem c he)
      rw [List.cons_append] at ih
      rw [List.cons_append, List.cons_append, runs.eq_2 p c d _ _ _ ih, if_pos hc, if_pos hd]

/-- A character outside of the class separates the runs before it from those after it. -/
theorem runs_append_cons {c : Char} (hc : p c = false) (cs ds : List Char) :
    runs p (cs ++ c :: ds) = runs p cs ++ runs p ds := by
  induction cs using runs_induction (p := p) with
  | nil => exact runs_cons_of_not hc ds
  | skip d cs hd ih => rw [List.cons_append, runs_cons_of_not hd, runs_cons_of_not hd, ih]
  | run w r hw hp hr ih =>
    have hhead : (r ++ c :: ds).head?.any p = false := by cases r <;> simp_all
    rw [List.append_assoc, runs_append_of_run hw hp hhead, runs_append_of_run hw hp hr, ih,
      List.cons_append]

/-- Characters outside of the class add no run before a text, and none after it. -/
theorem runs_pad {l r : List Char} (hl : ∀ c ∈ l, p c = false) (hr : ∀ c ∈ r, p c = false)
    (cs : List Char) : runs p (l ++ cs ++ r) = runs p cs := by
  have hleft : ∀ ds, runs p (l ++ ds) = runs p ds := by
    intro ds
    induction l with
    | nil => rfl
    | cons c l ih =>
      rw [List.cons_append, runs_cons_of_not (hl c (by simp))]
      exact ih fun d hd => hl d (List.mem_cons_of_mem c hd)
  rw [List.append_assoc, hleft]
  induction r generalizing cs with
  | nil => rw [List.append_nil]
  | cons c r ih =>
    have hrest := ih (fun d hd => hr d (List.mem_cons_of_mem c hd)) []
    rw [List.nil_append] at hrest
    rw [runs_append_cons (hr c (by simp)), hrest, runs_nil, List.append_nil]

/-! ### The place of a run -/

/-- A run is still one behind a text that does not touch it. -/
theorem IsRun.append_left {u cs w : List Char} (h : IsRun p cs w)
    (hu : u.getLast?.any p = false ∨ cs.head?.any p = false) : IsRun p (u ++ cs) w := by
  obtain ⟨hw, hp, l, r, rfl, hl, hr⟩ := h
  refine ⟨hw, hp, u ++ l, r, by simp, ?_, hr⟩
  cases l with
  | cons c l => rwa [List.getLast?_append_cons]
  | nil =>
    obtain ⟨c, w, rfl⟩ := List.exists_cons_of_ne_nil hw
    have hc : p c = true := hp c (by simp)
    simpa [hc] using hu

theorem isRun_of_mem_runs {cs w : List Char} (h : w ∈ runs p cs) : IsRun p cs w := by
  induction cs using runs_induction (p := p) with
  | nil => cases h
  | skip c cs hc ih =>
    rw [runs_cons_of_not hc] at h
    exact (ih h).append_left (u := [c]) (.inl (by simp [hc]))
  | run u r hu hp hr ih =>
    rw [runs_append_of_run hu hp hr] at h
    rcases List.mem_cons.1 h with rfl | h
    · exact ⟨hu, hp, [], r, rfl, rfl, hr⟩
    · exact (ih h).append_left (.inr hr)

theorem IsRun.mem_runs {cs w : List Char} (h : IsRun p cs w) : w ∈ runs p cs := by
  obtain ⟨hw, hp, l, r, rfl, hl, hr⟩ := h
  rw [List.append_assoc]
  induction l using runs_induction (p := p) with
  | nil =>
    rw [List.nil_append, runs_append_of_run hw hp hr]
    exact List.mem_cons_self
  | skip c l hc ih =>
    rw [List.cons_append, runs_cons_of_not hc]
    cases l with
    | nil => exact ih rfl
    | cons d l => exact ih hl
  | run u l hu hpu hhead ih =>
    cases l with
    | nil =>
      -- the text before `w` would end within the class
      have hlast := hpu _ (List.getLast_mem hu)
      simp [List.getLast?_eq_some_getLast hu, hlast] at hl
    | cons d l =>
      rw [List.append_assoc, runs_append_of_run hu hpu (by simpa using hhead)]
      rw [List.getLast?_append_cons] at hl
      exact List.mem_cons_of_mem u (ih hl)

/-- The runs cut from a text are the maximal runs in it. -/
theorem mem_runs_iff {cs w : List Char} : w ∈ runs p cs ↔ IsRun p cs w :=
  ⟨isRun_of_mem_runs, IsRun.mem_runs⟩

end BoundSql.Text
