/-
  Circular indices below a capacity `n`, and the lists they cut out of a memory
  `f : Nat → α`. `slot n i k` is the index `k` places after `i`, `dist n i j` the number of
  places from `i` forward to `j`, and `segment n f i k` the `k` cells from `i` on, read by
  stepping with `next n`. One slot stays free in a ring of this kind: `i = j` is the empty
  window, so a window holds at most `n - 1` cells (`dist_lt`).
-/
import Mathlib.Logic.Function.Basic
import Mathlib.Data.List.Basic

namespace Circ

variable {α : Type}

/-- The index after `i`. -/
def next (n i : Nat) : Nat := if i + 1 < n then i + 1 else 0

/-- The index `k` places after `i`. -/
def slot (n i k : Nat) : Nat := if i + k < n then i + k else i + k - n

/-- The number of places from `i` forward to `j`. -/
def dist (n i j : Nat) : Nat := if i ≤ j then j - i else n + j - i

/-- The `k` cells from index `i` on. -/
def segment (n : Nat) (f : Nat → α) : Nat → Nat → List α
  | _, 0 => []
  | i, k + 1 => f i :: segment n f (next n i) k

/-- The cells from `i` up to, and without, `j`. -/
def window (n : Nat) (f : Nat → α) (i j : Nat) : List α := segment n f i (dist n i j)

/-! ## Indices -/

theorem next_lt {n i : Nat} (hi : i < n) : next n i < n := by
  unfold next
  split <;> omega

theorem slot_lt {n i k : Nat} (hi : i < n) (hk : k ≤ n) : slot n i k < n := by
  unfold slot
  split <;> omega

@[simp] theorem slot_zero {n i : Nat} (hi : i < n) : slot n i 0 = i := by
  simp [slot, hi]

theorem next_slot {n i k : Nat} (hi : i < n) (hk : k < n) :
    next n (slot n i k) = slot n i (k + 1) := by
  unfold next slot
  split <;> split <;> split <;> omega

theorem slot_next {n i k : Nat} (hi : i < n) (hk : k < n) :
    slot n (next n i) k = slot n i (k + 1) := by
  unfold next slot
  split <;> split <;> split <;> omega

theorem slot_one {n i : Nat} (hi : i < n) : slot n i 1 = next n i := by
  rw [← next_slot hi (by omega), slot_zero hi]

theorem slot_slot {n i a b : Nat} (hi : i < n) (h : a + b ≤ n) :
    slot n (slot n i a) b = slot n i (a + b) := by
  unfold slot
  split <;> split <;> split <;> omega

theorem slot_inj {n i a b : Nat} (ha : a < n) (hb : b < n)
    (h : slot n i a = slot n i b) : a = b := by
  unfold slot at h
  split at h <;> split at h <;> omega

theorem dist_lt {n i j : Nat} (hi : i < n) (hj : j < n) : dist n i j < n := by
  unfold dist
  split <;> omega

@[simp] theorem dist_self (n i : Nat) : dist n i i = 0 := by
  simp [dist]

theorem dist_eq_zero_iff {n i j : Nat} (hi : i < n) : dist n i j = 0 ↔ i = j := by
  unfold dist
  split <;> omega

theorem slot_dist {n i j : Nat} (hi : i < n) (hj : j < n) : slot n i (dist n i j) = j := by
  unfold slot dist
  split <;> split <;> omega

theorem dist_slot {n i k : Nat} (hi : i < n) (hk : k < n) : dist n i (slot n i k) = k := by
  unfold slot dist
  split <;> split <;> omega

/-- An index on the path from `i` to `j` splits the path. -/
theorem dist_slot_left {n i j k : Nat} (hi : i < n) (hj : j < n) (hk : k ≤ dist n i j) :
    dist n (slot n i k) j = dist n i j - k := by
  unfold slot dist at *
  split <;> split <;> split <;> split at hk <;> omega

theorem dist_next_right {n i j : Nat} (hi : i < n) (hj : j < n) (h : dist n i j + 1 < n) :
    dist n i (next n j) = dist n i j + 1 := by
  conv_lhs => rw [← slot_dist hi hj]
  rw [next_slot hi (by omega), dist_slot hi h]

/-! ## Segments -/

@[simp] theorem length_segment (n : Nat) (f : Nat → α) (i k : Nat) :
    (segment n f i k).length = k := by
  induction k generalizing i with
  | zero => rfl
  | succ k ih => simp [segment, ih]

theorem segment_add {n : Nat} (f : Nat → α) {i a b : Nat} (hi : i < n) (h : a + b ≤ n) :
    segment n f i (a + b) = segment n f i a ++ segment n f (slot n i a) b := by
  induction a generalizing i with
  | zero => simp [segment, hi]
  | succ a ih =>
    rw [Nat.add_right_comm, segment, ih (next_lt hi) (by omega), segment,
      slot_next hi (by omega), List.cons_append]

theorem getElem?_segment {n : Nat} (f : Nat → α) {i k m : Nat} (hi : i < n) (hm : m < k)
    (hk : k ≤ n) : (segment n f i k)[m]? = some (f (slot n i m)) := by
  induction k generalizing i m with
  | zero => omega
  | succ k ih =>
    cases m with
    | zero => simp [segment, hi]
    | succ m =>
      rw [segment, List.getElem?_cons_succ, ih (next_lt hi) (by omega) (by omega),
        slot_next hi (by omega)]

/-- The cells of a segment are the memory at its slots. -/
theorem segment_eq_map {n : Nat} (f : Nat → α) {i k : Nat} (hi : i < n) (hk : k ≤ n) :
    segment n f i k = (List.range k).map fun m => f (slot n i m) := by
  apply List.ext_getElem?
  intro m
  by_cases hm : m < k
  · rw [getElem?_segment f hi hm hk]
    simp [hm]
  · rw [List.getElem?_eq_none (by simp; omega), List.getElem?_eq_none (by simp; omega)]

theorem drop_segment {n : Nat} (f : Nat → α) {i k m : Nat} (hi : i < n) (hm : m ≤ k)
    (hk : k ≤ n) : (segment n f i k).drop m = segment n f (slot n i m) (k - m) := by
  obtain ⟨b, rfl⟩ := Nat.exists_eq_add_of_le hm
  rw [segment_add f hi hk, List.drop_left' (length_segment n f i m), Nat.add_sub_cancel_left]

/-- Writing the cell after a segment appends to it and leaves the segment alone. -/
theorem segment_update {n : Nat} (f : Nat → α) {i k : Nat} (b : α) (hi : i < n) (hk : k < n) :
    segment n (Function.update f (slot n i k) b) i (k + 1) = segment n f i k ++ [b] := by
  rw [segment_add _ hi (by omega)]
  have hold : segment n (Function.update f (slot n i k) b) i k = segment n f i k := by
    rw [segment_eq_map _ hi (by omega), segment_eq_map _ hi (by omega)]
    refine List.map_congr_left fun m hm => ?_
    have hm' := List.mem_range.mp hm
    refine Function.update_of_ne (fun h => ?_) _ _
    have := slot_inj (by omega) hk h
    omega
  rw [hold]
  simp [segment]

/-! ## Windows -/

@[simp] theorem length_window (n : Nat) (f : Nat → α) (i j : Nat) :
    (window n f i j).length = dist n i j := by
  simp [window]

theorem window_self (n : Nat) (f : Nat → α) (i : Nat) : window n f i i = [] := by
  simp [window, segment]

theorem getElem?_window {n : Nat} (f : Nat → α) {i j m : Nat} (hi : i < n) (hj : j < n)
    (hm : m < dist n i j) : (window n f i j)[m]? = some (f (slot n i m)) :=
  getElem?_segment f hi hm (Nat.le_of_lt (dist_lt hi hj))

theorem drop_window {n : Nat} (f : Nat → α) {i j m : Nat} (hi : i < n) (hj : j < n)
    (hm : m ≤ dist n i j) : window n f (slot n i m) j = (window n f i j).drop m := by
  unfold window
  rw [drop_segment f hi hm (Nat.le_of_lt (dist_lt hi hj)), dist_slot_left hi hj hm]

theorem tail_window {n : Nat} (f : Nat → α) {i j : Nat} (hi : i < n) (hj : j < n) (h : i ≠ j) :
    window n f (next n i) j = (window n f i j).tail := by
  have h1 : 1 ≤ dist n i j := Nat.pos_of_ne_zero fun h0 => h ((dist_eq_zero_iff hi).1 h0)
  rw [← slot_one hi, drop_window f hi hj h1, List.drop_one]

theorem window_push {n : Nat} (f : Nat → α) {i j : Nat} (b : α) (hi : i < n) (hj : j < n)
    (h : dist n i j + 1 < n) :
    window n (Function.update f j b) i (next n j) = window n f i j ++ [b] := by
  have hd := dist_lt hi hj
  unfold window
  rw [dist_next_right hi hj h]
  conv_lhs => rw [← slot_dist hi hj]
  rw [dist_slot hi hd]
  exact segment_update f b hi hd

end Circ
