import Mathlib.Data.List.Forall2
import Mathlib.Data.List.Perm.Basic
import Mathlib.Tactic.Common
/-!
# Computations that may fail

A sequence succeeds when each of its steps does. With a state, what was done up to a failure stands.
-/

namespace GroundedQA

variable {ε α β : Type}

theorem ok_bind (a : α) (f : α → Except ε β) : (Except.ok a >>= f) = f a := rfl

theorem bind_eq_ok {x : Except ε α} {f : α → Except ε β} {b : β} :
    (x >>= f) = .ok b ↔ ∃ a, x = .ok a ∧ f a = .ok b := by
  cases x with
  | ok a => simp [bind, Except.bind]
  | error e => simp [bind, Except.bind]

theorem mapError_eq_ok {ε' : Type} {f : ε → ε'} {x : Except ε α} {a : α} : x.mapError f = .ok a ↔ x = .ok a := by
  cases x <;> simp [Except.mapError]

theorem mapError_eq_error {ε' : Type} {f : ε → ε'} {x : Except ε α} {e : ε'} :
    x.mapError f = .error e ↔ ∃ cause, x = .error cause ∧ e = f cause := by
  cases x <;> simp [Except.mapError, eq_comm]

theorem forM_eq_ok {check : α → Except ε Unit} {xs : List α} :
    xs.forM check = .ok () ↔ ∀ x ∈ xs, check x = .ok () := by
  induction xs with
  | nil => simp [pure, Except.pure]
  | cons x xs ih =>
    simp only [List.forM, bind_eq_ok, ih, List.forall_mem_cons]
    constructor
    · rintro ⟨⟨⟩, hx, hxs⟩
      exact ⟨hx, hxs⟩
    · rintro ⟨hx, hxs⟩
      exact ⟨(), hx, hxs⟩

/-- Of the checks of a list, the first that fails is what the whole fails with. -/
theorem forM_eq_error {check : α → Except ε Unit} {xs : List α} {e : ε} :
    xs.forM check = .error e ↔
      ∃ before x after, xs = before ++ x :: after ∧ (∀ y ∈ before, check y = .ok ()) ∧ check x = .error e := by
  induction xs with
  | nil => simp [pure, Except.pure]
  | cons y xs ih =>
    show (check y >>= fun _ => xs.forM check) = .error e ↔ _
    cases hy : check y with
    | error e' =>
      constructor
      · intro h
        cases h
        exact ⟨[], y, xs, rfl, by simp, hy⟩
      · rintro ⟨_ | ⟨z, before⟩, x, after, hxs, hbefore, hx⟩
        · obtain rfl : y = x := (List.cons.inj hxs).1
          rw [← hx, hy]
          rfl
        · obtain rfl : y = z := (List.cons.inj hxs).1
          rw [hbefore y List.mem_cons_self] at hy
          cases hy
    | ok u =>
      rw [ok_bind, ih]
      constructor
      · rintro ⟨before, x, after, rfl, hbefore, hx⟩
        exact ⟨y :: before, x, after, rfl, List.forall_mem_cons.2 ⟨hy, hbefore⟩, hx⟩
      · rintro ⟨_ | ⟨z, before⟩, x, after, hxs, hbefore, hx⟩
        · obtain rfl : y = x := (List.cons.inj hxs).1
          rw [hx] at hy
          cases hy
        · obtain ⟨rfl, rfl⟩ := List.cons.inj hxs
          exact ⟨before, x, after, rfl, (List.forall_mem_cons.1 hbefore).2, hx⟩

theorem run_bind {σ : Type} (x : ExceptT ε (StateM σ) α) (f : α → ExceptT ε (StateM σ) β) (s : σ) :
    (x >>= f).run.run s =
      match x.run.run s with
      | (.error e, s) => (.error e, s)
      | (.ok a, s) => (f a).run.run s := by
  show (match x.run.run s with | (r, s) => (ExceptT.bindCont f r).run s) = _
  cases x.run.run s with
  | mk result s' => cases result <;> rfl

theorem run_discard {σ : Type} (x : ExceptT ε (StateM σ) α) (s : σ) :
    (discard x).run.run s = ((x.run.run s).1.map fun _ => (), (x.run.run s).2) := by
  have hdiscard : discard x = x >>= fun _ => pure () := rfl
  rw [hdiscard, run_bind]
  cases x.run.run s with
  | mk result s' => cases result <;> rfl

theorem mapM_map_left {γ : Type} {m : Type → Type} [Monad m] [LawfulMonad m] (f : α → m β) (g : β → γ) (xs : List α) :
    (xs.mapM fun x => g <$> f x) = List.map g <$> xs.mapM f := by
  induction xs with
  | nil => simp
  | cons x xs ih => simp [List.mapM_cons, ih]

/-! ## Item by item -/

theorem mapM_eq_some {f : α → Option β} {xs : List α} {ys : List β} :
    xs.mapM f = some ys ↔ List.Forall₂ (fun x y => f x = some y) xs ys := by
  induction xs generalizing ys with
  | nil => cases ys <;> simp
  | cons x xs ih =>
    rw [List.mapM_cons, Option.bind_eq_bind, Option.bind_eq_some_iff]
    constructor
    · rintro ⟨y, hy, h⟩
      obtain ⟨ys, hys, h⟩ := Option.bind_eq_some_iff.1 h
      cases h
      exact .cons hy (ih.1 hys)
    · rintro (_ | ⟨hy, hys⟩)
      exact ⟨_, hy, Option.bind_eq_some_iff.2 ⟨_, ih.2 hys, rfl⟩⟩

/-- What is made of each item of a list carries over to a list of related items. -/
theorem mapM_of_forall₂ {α' β' : Type} {R : α → α' → Prop} {S : β → β' → Prop} {f : α → Option β}
    {g : α' → Option β'} (hf : ∀ x x' y, R x x' → f x = some y → ∃ y', g x' = some y' ∧ S y y')
    {xs : List α} {xs' : List α'} {ys : List β} (h : List.Forall₂ R xs xs') (hys : xs.mapM f = some ys) :
    ∃ ys', xs'.mapM g = some ys' ∧ List.Forall₂ S ys ys' := by
  rw [mapM_eq_some] at hys
  induction h generalizing ys with
  | nil =>
    cases hys
    exact ⟨[], rfl, .nil⟩
  | cons hx _ ih =>
    obtain _ | ⟨hy, hys⟩ := hys
    obtain ⟨y', hy', hS⟩ := hf _ _ _ hx hy
    obtain ⟨ys', hys', hSs⟩ := ih hys
    exact ⟨y' :: ys', mapM_eq_some.2 (.cons hy' (mapM_eq_some.1 hys')), .cons hS hSs⟩

theorem mapM_eq_of_forall₂ {α' : Type} {R : α → α' → Prop} {f : α → Option β} {g : α' → Option β}
    (hf : ∀ x x' y, R x x' → f x = some y → g x' = some y) {xs : List α} {xs' : List α'} {ys : List β}
    (h : List.Forall₂ R xs xs') (hys : xs.mapM f = some ys) : xs'.mapM g = some ys := by
  obtain ⟨ys', hys', hsame⟩ := mapM_of_forall₂ (S := Eq) (fun x x' y hx hy => ⟨y, hf x x' y hx hy, rfl⟩) h hys
  rw [List.forall₂_eq_eq_eq] at hsame
  rw [hsame]
  exact hys'

theorem mapM_perm {f : α → Option β} {xs xs' : List α} {ys : List β} (h : xs.Perm xs') (hys : xs.mapM f = some ys) :
    ∃ ys', xs'.mapM f = some ys' ∧ ys.Perm ys' := by
  obtain ⟨ys', hys', hperm⟩ := List.perm_comp_forall₂ h.symm (mapM_eq_some.1 hys)
  exact ⟨ys', mapM_eq_some.2 hys', hperm.symm⟩

theorem exists_of_mem_forall₂ {R : α → β → Prop} {xs : List α} {ys : List β} (h : List.Forall₂ R xs ys) {y : β}
    (hy : y ∈ ys) : ∃ x ∈ xs, R x y := by
  induction h with
  | nil => cases hy
  | @cons a b xs ys hR _ ih =>
    rcases List.mem_cons.1 hy with rfl | hy
    · exact ⟨a, by simp, hR⟩
    · obtain ⟨x, hx, hxy⟩ := ih hy
      exact ⟨x, List.mem_cons_of_mem _ hx, hxy⟩

/-! ## Steps in turn -/

section InTurn

variable {σ : Type} {step : α → ExceptT ε (StateM σ) β} {s between s' : σ} {x : α} {xs before : List α} {ys : List β}
  {e : ε}

/-- Taken one after the other from the state `s` on, each step succeeds, and the last one leaves the state `s'`. -/
inductive InTurn (step : α → ExceptT ε (StateM σ) β) : σ → List α → List β → σ → Prop
  | nil (s : σ) : InTurn step s [] [] s
  | cons {s between s' : σ} {x : α} {y : β} {xs : List α} {ys : List β} :
      (step x).run.run s = (.ok y, between) → InTurn step between xs ys s' → InTurn step s (x :: xs) (y :: ys) s'

/-- Each step succeeds, or there is a first one that does not. -/
theorem inTurn_or_failure (step : α → ExceptT ε (StateM σ) β) (s : σ) (xs : List α) :
    (∃ ys s', InTurn step s xs ys s') ∨
    ∃ before x after ys between e s', xs = before ++ x :: after ∧ InTurn step s before ys between ∧
      (step x).run.run between = (.error e, s') := by
  induction xs generalizing s with
  | nil => exact .inl ⟨[], s, .nil s⟩
  | cons x xs ih =>
    cases hx : (step x).run.run s with
    | mk result s₁ =>
      cases result with
      | error e => exact .inr ⟨[], x, xs, [], s, e, s₁, rfl, .nil s, hx⟩
      | ok y =>
        rcases ih s₁ with ⟨ys, s', hall⟩ | ⟨before, last, after, ys, between, e, s', rfl, hbefore, hlast⟩
        · exact .inl ⟨_, s', .cons hx hall⟩
        · exact .inr ⟨x :: before, last, after, _, between, e, s', rfl, .cons hx hbefore, hlast⟩

/-- After steps that succeed come those that are left. -/
theorem mapM_append_run (h : InTurn step s before ys between) (after : List α) :
    ((before ++ after).mapM step).run.run s =
      match (after.mapM step).run.run between with
      | (.error e, s') => (.error e, s')
      | (.ok rest, s') => (.ok (ys ++ rest), s') := by
  -- The induction is on the steps taken, since the state that one leaves decides what comes next.
  induction h with
  | nil s =>
    rw [List.nil_append]
    cases (after.mapM step).run.run s with
    | mk result s' => cases result <;> rfl
  | @cons s between s' x y xs ys hx _ ih =>
    rw [List.cons_append, List.mapM_cons, run_bind, hx]
    dsimp only
    rw [run_bind, ih]
    cases (after.mapM step).run.run s' with
    | mk result s' => cases result <;> rfl

theorem mapM_run_of_inTurn (h : InTurn step s xs ys s') : (xs.mapM step).run.run s = (.ok ys, s') := by
  have hrun := mapM_append_run h []
  rw [List.append_nil, List.mapM_nil] at hrun
  rw [hrun]
  exact congrArg (fun ys => (Except.ok ys, s')) (List.append_nil ys)

theorem mapM_run_of_failure (h : InTurn step s before ys between) (hx : (step x).run.run between = (.error e, s'))
    (after : List α) : ((before ++ x :: after).mapM step).run.run s = (.error e, s') := by
  rw [mapM_append_run h, List.mapM_cons, run_bind, hx]

end InTurn

/-! ## Lists with places -/

section Places

variable {f : α × ℕ → Except ε β}

/-- A list is taken step by step when what a step gives does not depend on the place. -/
theorem mapM_zipIdx_eq_ok {R : α → β → Prop} (hf : ∀ x n y, f (x, n) = .ok y ↔ R x y) {xs : List α} {ys : List β}
    (n : ℕ) : (xs.zipIdx n).mapM f = .ok ys ↔ List.Forall₂ R xs ys := by
  induction xs generalizing n ys with
  | nil => cases ys <;> simp [pure, Except.pure]
  | cons x xs ih =>
    rw [List.zipIdx_cons, List.mapM_cons, bind_eq_ok]
    constructor
    · rintro ⟨y, hy, h⟩
      obtain ⟨ys, hys, h⟩ := bind_eq_ok.1 h
      cases h
      exact .cons ((hf x n y).1 hy) ((ih (n + 1)).1 hys)
    · rintro (_ | ⟨hy, hys⟩)
      exact ⟨_, (hf x n _).2 hy, bind_eq_ok.2 ⟨_, (ih (n + 1)).2 hys, rfl⟩⟩

/-- A failure comes from the step at some place. -/
theorem of_mapM_zipIdx_eq_error {xs : List α} {n : ℕ} {e : ε} (h : (xs.zipIdx n).mapM f = .error e) :
    ∃ i x, xs[i]? = some x ∧ f (x, n + i) = .error e := by
  induction xs generalizing n with
  | nil => cases h
  | cons x xs ih =>
    rw [List.zipIdx_cons, List.mapM_cons] at h
    cases hx : f (x, n) with
    | error e' =>
      rw [hx] at h
      cases h
      exact ⟨0, x, rfl, hx⟩
    | ok y =>
      rw [hx, ok_bind] at h
      cases hxs : (xs.zipIdx (n + 1)).mapM f with
      | error e' =>
        rw [hxs] at h
        cases h
        obtain ⟨i, x', hi, hx'⟩ := ih hxs
        refine ⟨i + 1, x', by simpa using hi, ?_⟩
        rw [← hx']
        congr 2
        omega
      | ok ys =>
        rw [hxs] at h
        cases h

/-- A step that fails ends the whole, unless an earlier one has. -/
theorem mapM_zipIdx_stops {xs : List α} {n i : ℕ} {x : α} {e : ε} (hx : xs[i]? = some x) (he : f (x, n + i) = .error e) :
    ∃ j y e', (j < i ∨ j = i ∧ e' = e) ∧ xs[j]? = some y ∧ f (y, n + j) = .error e' ∧
      (xs.zipIdx n).mapM f = .error e' := by
  induction xs generalizing n i with
  | nil => simp at hx
  | cons y xs ih =>
    rw [List.zipIdx_cons, List.mapM_cons]
    cases hy : f (y, n) with
    | error e' =>
      refine ⟨0, y, e', ?_, rfl, hy, rfl⟩
      cases i with
      | zero =>
        obtain rfl : y = x := by simpa using hx
        rw [Nat.add_zero, hy] at he
        exact .inr ⟨rfl, by simpa using he⟩
      | succ i => exact .inl (Nat.succ_pos i)
    | ok b =>
      cases i with
      | zero =>
        obtain rfl : y = x := by simpa using hx
        rw [Nat.add_zero, hy] at he
        cases he
      | succ i =>
        have hplace : ∀ k, n + (k + 1) = n + 1 + k := by omega
        rw [hplace] at he
        obtain ⟨j, z, e', hj, hz, he', hmap⟩ := ih (by simpa using hx) he
        refine ⟨j + 1, z, e', hj.imp Nat.succ_lt_succ fun h => ⟨by rw [h.1], h.2⟩, by simpa using hz, by rwa [hplace], ?_⟩
        rw [ok_bind, hmap]
        rfl

end Places

end GroundedQA
