/-
  C loops in `Except`: `while (guard) { body }` with a `return` inside the body and the code
  after the loop. `whileLoop` runs at most a given number of iterations, so it evaluates on
  any state; `Exits` is the same loop without a bound. A run that ends within the bound is a run
  of the unbounded loop (`exits_of_whileLoop`), and there is only one (`Exits.unique`).

  Three rules prove a loop:
  * `whileLoop_total`: an invariant and a measure in `Nat` (a bound above the measure is enough).
  * `exits_of_wf`: an invariant and any well-founded order.
  * `whileLoop_count`: a loop whose states are known in advance, iteration by iteration.
-/
import Mathlib.Logic.Relation

namespace Loop

variable {ε σ ρ : Type}

/-- `while (guard s) { body }`, then `after`. The body goes on with a new state (`inl`) or
    returns out of the loop (`inr`). Past the bound the loop is `stuck`. -/
def whileLoop (stuck : ε) (guard : σ → Bool) (body : σ → Except ε (σ ⊕ ρ))
    (after : σ → Except ε ρ) : Nat → σ → Except ε ρ
  | 0, _ => .error stuck
  | n + 1, s =>
    if guard s then
      match body s with
      | .error e => .error e
      | .ok (.inl s') => whileLoop stuck guard body after n s'
      | .ok (.inr r) => .ok r
    else after s

/-- The states at which the body is entered, in order. -/
def visits (guard : σ → Bool) (body : σ → Except ε (σ ⊕ ρ)) : Nat → σ → List σ
  | 0, _ => []
  | n + 1, s =>
    if guard s then
      s :: match body s with
        | .ok (.inl s') => visits guard body n s'
        | _ => []
    else []

/-- The loop without a bound: it runs from `s` and ends with the value `r`. -/
inductive Exits (guard : σ → Bool) (body : σ → Except ε (σ ⊕ ρ)) (after : σ → Except ε ρ) :
    σ → ρ → Prop where
  | done {s r} : guard s = false → after s = .ok r → Exits guard body after s r
  | ret {s r} : guard s = true → body s = .ok (.inr r) → Exits guard body after s r
  | next {s s' r} : guard s = true → body s = .ok (.inl s') → Exits guard body after s' r →
      Exits guard body after s r

/-- One iteration that goes on. -/
def Iterates (guard : σ → Bool) (body : σ → Except ε (σ ⊕ ρ)) (s t : σ) : Prop :=
  guard s = true ∧ body s = .ok (.inl t)

section Rules

variable {stuck : ε} {guard : σ → Bool} {body : σ → Except ε (σ ⊕ ρ)}
  {after : σ → Except ε ρ}

theorem whileLoop_done {s : σ} (h : guard s = false) (n : Nat) :
    whileLoop stuck guard body after (n + 1) s = after s := by
  simp [whileLoop, h]

theorem whileLoop_next {s s' : σ} (h : guard s = true) (hb : body s = .ok (.inl s')) (n : Nat) :
    whileLoop stuck guard body after (n + 1) s = whileLoop stuck guard body after n s' := by
  simp [whileLoop, h, hb]

theorem whileLoop_ret {s : σ} {r : ρ} (h : guard s = true) (hb : body s = .ok (.inr r)) (n : Nat) :
    whileLoop stuck guard body after (n + 1) s = .ok r := by
  simp [whileLoop, h, hb]

theorem whileLoop_error {s : σ} {e : ε} (h : guard s = true) (hb : body s = .error e) (n : Nat) :
    whileLoop stuck guard body after (n + 1) s = .error e := by
  simp [whileLoop, h, hb]

/-- A run that ends within the bound is a run of the unbounded loop. -/
theorem exits_of_whileLoop : ∀ (n : Nat) (s : σ) (r : ρ),
    whileLoop stuck guard body after n s = .ok r → Exits guard body after s r
  | 0, _, _, h => by simp [whileLoop] at h
  | n + 1, s, r, h => by
    cases hg : guard s with
    | false =>
      rw [whileLoop_done hg] at h
      exact .done hg h
    | true =>
      simp only [whileLoop, hg, if_true] at h
      split at h
      · cases h
      · next s' hb => exact .next hg hb (exits_of_whileLoop n s' r h)
      · next r' hb =>
        cases h
        exact .ret hg hb

theorem Exits.unique {s : σ} {r r' : ρ} (h : Exits guard body after s r)
    (h' : Exits guard body after s r') : r = r' := by
  induction h with
  | done hg ha =>
    cases h' with
    | done _ ha' => exact Except.ok.inj (ha.symm.trans ha')
    | ret hg' _ | next hg' _ _ => rw [hg] at hg'; cases hg'
  | ret hg hb =>
    cases h' with
    | done hg' _ => rw [hg] at hg'; cases hg'
    | ret _ hb' =>
      rw [hb] at hb'
      cases hb'
      rfl
    | next _ hb' _ => rw [hb] at hb'; cases hb'
  | next hg hb _ ih =>
    cases h' with
    | done hg' _ => rw [hg] at hg'; cases hg'
    | ret _ hb' => rw [hb] at hb'; cases hb'
    | next _ hb' h' =>
      rw [hb] at hb'
      cases hb'
      exact ih h'

/-- What iterations lead to, the loop exits with. -/
theorem Exits.of_iterates {s t : σ} {r : ρ}
    (h : Relation.ReflTransGen (Iterates guard body) s t) (ht : Exits guard body after t r) :
    Exits guard body after s r := by
  induction h using Relation.ReflTransGen.head_induction_on with
  | refl => exact ht
  | head hst _ ih => exact .next hst.1 hst.2 ih

/-- Total correctness: while the invariant `I` holds, an iteration either keeps it and goes
    down in `μ`, or returns a value in `Q`; leaving the loop gives a value in `Q`. -/
theorem whileLoop_total (I : σ → Prop) (μ : σ → Nat) (Q : ρ → Prop)
    (hstep : ∀ s, I s → guard s = true →
      (∃ s', body s = .ok (.inl s') ∧ I s' ∧ μ s' < μ s) ∨ ∃ r, body s = .ok (.inr r) ∧ Q r)
    (hexit : ∀ s, I s → guard s = false → ∃ r, after s = .ok r ∧ Q r) :
    ∀ (n : Nat) (s : σ), I s → μ s < n →
      ∃ r, whileLoop stuck guard body after n s = .ok r ∧ Q r
  | 0, _, _, h => absurd h (Nat.not_lt_zero _)
  | n + 1, s, hI, hn => by
    cases hg : guard s with
    | false =>
      rw [whileLoop_done hg]
      exact hexit s hI hg
    | true =>
      rcases hstep s hI hg with ⟨s', hb, hI', hlt⟩ | ⟨r, hb, hQ⟩
      · rw [whileLoop_next hg hb]
        exact whileLoop_total I μ Q hstep hexit n s' hI' (by omega)
      · exact ⟨r, whileLoop_ret hg hb n, hQ⟩

/-- Termination by any well-founded order that every iteration goes down. -/
theorem exits_of_wf {R : σ → σ → Prop} (wf : WellFounded R) (I : σ → Prop)
    (hstep : ∀ s, I s → guard s = true →
      (∃ s', body s = .ok (.inl s') ∧ I s' ∧ R s' s) ∨ ∃ r, body s = .ok (.inr r))
    (hexit : ∀ s, I s → guard s = false → ∃ r, after s = .ok r) (s : σ) (hI : I s) :
    ∃ r, Exits guard body after s r := by
  induction s using wf.induction with
  | _ s ih =>
    cases hg : guard s with
    | false =>
      obtain ⟨r, hr⟩ := hexit s hI hg
      exact ⟨r, .done hg hr⟩
    | true =>
      rcases hstep s hI hg with ⟨s', hb, hI', hR⟩ | ⟨r, hb⟩
      · obtain ⟨r, hr⟩ := ih s' hR hI'
        exact ⟨r, .next hg hb hr⟩
      · exact ⟨r, .ret hg hb⟩

/-- A loop whose first `k` iterations go through `f 0, …, f k` and that leaves at `f k`. -/
theorem whileLoop_count (f : Nat → σ) (k : Nat) (hg : ∀ i < k, guard (f i) = true)
    (hb : ∀ i < k, body (f i) = .ok (.inl (f (i + 1)))) (hk : guard (f k) = false) :
    ∀ n, k < n → whileLoop stuck guard body after n (f 0) = after (f k) := by
  induction k generalizing f with
  | zero =>
    intro n hn
    obtain ⟨n, rfl⟩ : ∃ m, n = m + 1 := ⟨n - 1, by omega⟩
    exact whileLoop_done hk n
  | succ k ih =>
    intro n hn
    obtain ⟨n, rfl⟩ : ∃ m, n = m + 1 := ⟨n - 1, by omega⟩
    rw [whileLoop_next (hg 0 (by omega)) (hb 0 (by omega))]
    exact ih (fun i => f (i + 1)) (fun i hi => hg (i + 1) (by omega))
      (fun i hi => hb (i + 1) (by omega)) hk n (by omega)

/-- The visits of such a loop are `f 0, …, f (k - 1)`. -/
theorem visits_count (f : Nat → σ) (k : Nat) (hg : ∀ i < k, guard (f i) = true)
    (hb : ∀ i < k, body (f i) = .ok (.inl (f (i + 1)))) (hk : guard (f k) = false) :
    ∀ n, k < n → visits guard body n (f 0) = (List.range k).map f := by
  induction k generalizing f with
  | zero =>
    intro n hn
    obtain ⟨n, rfl⟩ : ∃ m, n = m + 1 := ⟨n - 1, by omega⟩
    simp [visits, hk]
  | succ k ih =>
    intro n hn
    obtain ⟨n, rfl⟩ : ∃ m, n = m + 1 := ⟨n - 1, by omega⟩
    have h := ih (fun i => f (i + 1)) (fun i hi => hg (i + 1) (by omega))
      (fun i hi => hb (i + 1) (by omega)) hk n (by omega)
    simp only [visits, hg 0 (by omega), if_true, hb 0 (by omega)]
    rw [List.range_succ_eq_map, List.map_cons, List.map_map]
    exact congrArg _ h

end Rules

end Loop
