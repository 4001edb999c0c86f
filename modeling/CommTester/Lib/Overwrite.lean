/-
  What a fold of overwrites leaves: `lastWrite`, the last value written.

  `write e` is what the event `e` writes, if it writes at all. A view of the state that every
  step overwrites so holds the last value written, or else what it held before
  (`view_foldl`).
-/
import Mathlib.Data.List.Basic

namespace Overwrite

variable {ε σ α : Type}

/-- The last value that the events write. -/
def lastWrite (write : ε → Option α) (l : List ε) : Option α := (l.filterMap write).getLast?

theorem lastWrite_cons (write : ε → Option α) (e : ε) (l : List ε) :
    lastWrite write (e :: l) = (lastWrite write l).or (write e) := by
  rw [lastWrite, lastWrite, List.filterMap_cons]
  cases write e with
  | none => simp
  | some a => rw [List.getLast?_cons]; cases (l.filterMap write).getLast? <;> rfl

theorem lastWrite_map {β : Type} (write : ε → Option α) (f : α → β) (l : List ε) :
    lastWrite (fun e => (write e).map f) l = (lastWrite write l).map f := by
  induction l with
  | nil => rfl
  | cons e l ih => rw [lastWrite_cons, lastWrite_cons, ih, Option.map_or]

/-- All that write, write the same. -/
theorem lastWrite_const (P : ε → Prop) [DecidablePred P] (a : α) (l : List ε) :
    lastWrite (fun e => if P e then some a else none) l =
      if ∃ e ∈ l, P e then some a else none := by
  induction l with
  | nil => rfl
  | cons e l ih =>
    rw [lastWrite_cons, ih]
    by_cases hl : ∃ e ∈ l, P e
    · rw [if_pos hl, if_pos (hl.imp fun _ h => ⟨List.mem_cons_of_mem _ h.1, h.2⟩)]
      rfl
    · by_cases he : P e <;> simp [hl, he]

theorem view_foldl {step : σ → ε → σ} {view : σ → α} {write : ε → Option α}
    (h : ∀ s e, view (step s e) = (write e).getD (view s)) (l : List ε) (s : σ) :
    view (l.foldl step s) = (lastWrite write l).getD (view s) := by
  induction l generalizing s with
  | nil => rfl
  | cons e l ih =>
    rw [List.foldl_cons, ih, h, lastWrite_cons]
    cases lastWrite write l <;> rfl

end Overwrite
