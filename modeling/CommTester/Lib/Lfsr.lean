/-
  Cyclic redundancy checks bit by bit, over GF(2).

  `shiftBit g x b` is one step of the shift register of a CRC with polynomial `g` (without its
  leading term): the most significant bit leaves, the message bit joins the feedback, no
  reflection. `feed` folds a list of bits.

  The register is linear in itself and the message (`feed_xor`), so an error pattern goes
  unnoticed exactly when its own remainder is zero. Three kinds of patterns have a remainder
  that is not: an odd number of errors when `x + 1` divides the polynomial
  (`feed_ne_zero_of_odd`), two errors closer than the order of `x` (`feed_ne_zero_of_two`), a
  burst no longer than the register (`feed_ne_zero_of_burst`).
-/
import Mathlib.Algebra.Ring.Parity
import Mathlib.Data.List.GetD

namespace Lfsr

variable {w : Nat}

/-- The bits of a word, most significant first. -/
def bitsOf (x : BitVec w) : List Bool := (List.range w).map x.getMsbD

/-- One step of the register. -/
def shiftBit (g x : BitVec w) (b : Bool) : BitVec w :=
  (x <<< 1) ^^^ (if x.msb ^^ b then g else 0#w)

/-- The register after a list of bits. -/
def feed (g x : BitVec w) (bits : List Bool) : BitVec w := bits.foldl (shiftBit g) x

theorem feed_cons (g x : BitVec w) (b : Bool) (bits : List Bool) :
    feed g x (b :: bits) = feed g (shiftBit g x b) bits := rfl

theorem feed_append (g x : BitVec w) (s t : List Bool) :
    feed g x (s ++ t) = feed g (feed g x s) t := List.foldl_append

theorem getMsbD_shiftBit (g x : BitVec w) (b : Bool) (i : Nat) :
    (shiftBit g x b).getMsbD i = (x.getMsbD (1 + i) ^^ ((x.msb ^^ b) && g.getMsbD i)) := by
  rw [shiftBit, BitVec.getMsbD_xor, BitVec.getMsbD_shiftLeft, Nat.add_comm]
  cases x.msb ^^ b with
  | false => rw [if_neg (by decide), BitVec.getMsbD_zero, Bool.false_and]
  | true => rw [if_pos rfl, Bool.true_and]

/-! ## Linearity -/

theorem xor_xor_xor_comm (a b c d : BitVec w) :
    (a ^^^ b) ^^^ (c ^^^ d) = (a ^^^ c) ^^^ (b ^^^ d) := by
  rw [BitVec.xor_assoc, ← BitVec.xor_assoc b, BitVec.xor_comm b, BitVec.xor_assoc c,
    ← BitVec.xor_assoc a]

/-- A linear map added to its argument is linear. -/
theorem linear_add {f : BitVec w → BitVec w} (hf : ∀ x y, f (x ^^^ y) = f x ^^^ f y)
    (x y : BitVec w) : (x ^^^ y) ^^^ f (x ^^^ y) = (x ^^^ f x) ^^^ (y ^^^ f y) := by
  rw [hf, xor_xor_xor_comm]

theorem shiftBit_xor (g x y : BitVec w) (b c : Bool) :
    shiftBit g (x ^^^ y) (b ^^ c) = shiftBit g x b ^^^ shiftBit g y c := by
  apply BitVec.eq_of_getMsbD_eq
  intro i hi
  simp only [BitVec.getMsbD_xor, getMsbD_shiftBit, BitVec.msb_xor]
  cases x.msb <;> cases y.msb <;> cases b <;> cases c <;> cases g.getMsbD i <;> simp

/-- The register is linear in its content and the message. -/
theorem feed_xor (g x y : BitVec w) {s t : List Bool} (h : s.length = t.length) :
    feed g (x ^^^ y) (List.zipWith (· ^^ ·) s t) = feed g x s ^^^ feed g y t := by
  induction s generalizing x y t with
  | nil =>
    rw [List.length_nil, eq_comm, List.length_eq_zero_iff] at h
    rw [h]
    rfl
  | cons b s ih =>
    cases t with
    | nil => simp at h
    | cons c t =>
      rw [List.zipWith_cons_cons, feed_cons, feed_cons, feed_cons, shiftBit_xor]
      exact ih _ _ (by simpa using h)

theorem bitsOf_xor (x y : BitVec w) :
    bitsOf (x ^^^ y) = List.zipWith (· ^^ ·) (bitsOf x) (bitsOf y) := by
  simp only [bitsOf]
  induction List.range w with
  | nil => rfl
  | cons i l ih => rw [List.map_cons, List.map_cons, List.map_cons, List.zipWith_cons_cons, ih,
      BitVec.getMsbD_xor]

theorem bitsOf_append {v : Nat} (x : BitVec v) (y : BitVec w) :
    bitsOf (x ++ y) = bitsOf x ++ bitsOf y := by
  rw [bitsOf, List.range_add, List.map_append, List.map_map, bitsOf, bitsOf]
  congr 1
  · refine List.map_congr_left fun i hi => ?_
    simp [List.mem_range.1 hi]
  · refine List.map_congr_left fun i _ => ?_
    simp

theorem zipWith_replicate_false (bits : List Bool) :
    List.zipWith (· ^^ ·) (List.replicate bits.length false) bits = bits := by
  induction bits with
  | nil => rfl
  | cons b bits ih =>
    rw [List.length_cons, List.replicate_succ, List.zipWith_cons_cons, ih, Bool.false_xor]

/-- The register and the message apart. -/
theorem feed_split (g x : BitVec w) (bits : List Bool) :
    feed g x bits = feed g x (List.replicate bits.length false) ^^^ feed g 0#w bits := by
  have h := feed_xor g x 0#w (List.length_replicate (n := bits.length) (a := false))
  rwa [BitVec.xor_zero, zipWith_replicate_false] at h

theorem shiftBit_zero (g : BitVec w) : shiftBit g 0#w false = 0#w := by
  simp [shiftBit]

theorem shiftBit_zero_true (g : BitVec w) : shiftBit g 0#w true = g := by
  simp [shiftBit]

theorem feed_replicate_zero (g : BitVec w) (n : Nat) :
    feed g 0#w (List.replicate n false) = 0#w := by
  induction n with
  | zero => rfl
  | succ n ih => rw [List.replicate_succ, feed_cons, shiftBit_zero, ih]

/-- A last message bit is added to the feedback. -/
theorem shiftBit_true (g x : BitVec w) : shiftBit g x true = shiftBit g x false ^^^ g := by
  have h := shiftBit_xor g x 0#w false true
  rwa [BitVec.xor_zero, Bool.false_xor, shiftBit_zero_true] at h

/-- Two maps linear over exclusive or that agree on the single bits are equal. -/
theorem linear_ext {v : Nat} {f g : BitVec w → BitVec v}
    (hf : ∀ x y, f (x ^^^ y) = f x ^^^ f y) (hg : ∀ x y, g (x ^^^ y) = g x ^^^ g y)
    (h : ∀ i < w, f (BitVec.twoPow w i) = g (BitVec.twoPow w i)) (x : BitVec w) :
    f x = g x := by
  have h0 : ∀ F : BitVec w → BitVec v, (∀ x y, F (x ^^^ y) = F x ^^^ F y) → F 0#w = 0#v := by
    intro F hF
    have := hF 0#w 0#w
    rwa [BitVec.xor_zero, BitVec.xor_self] at this
  -- By induction on the number of low bits that may be set.
  have key : ∀ k ≤ w, ∀ x : BitVec w, (∀ i, k ≤ i → x.getLsbD i = false) → f x = g x := by
    intro k
    induction k with
    | zero =>
      intro _ x hx
      have hx0 : x = 0#w := BitVec.eq_of_getLsbD_eq fun i _ => by simpa using hx i (Nat.zero_le i)
      rw [hx0, h0 f hf, h0 g hg]
    | succ k ih =>
      intro hk x hx
      cases hb : x.getLsbD k with
      | false =>
        refine ih (by omega) x fun i hi => ?_
        rcases Nat.lt_or_eq_of_le hi with hlt | heq
        · exact hx i hlt
        · rw [← heq, hb]
      | true =>
        have hsplit : x = (x ^^^ BitVec.twoPow w k) ^^^ BitVec.twoPow w k := by
          rw [BitVec.xor_assoc, BitVec.xor_self, BitVec.xor_zero]
        have hlow := ih (by omega) (x ^^^ BitVec.twoPow w k) fun i hi => by
          rw [BitVec.getLsbD_xor, BitVec.getLsbD_twoPow]
          rcases Nat.lt_or_eq_of_le hi with hlt | heq
          · rw [hx i hlt]
            simp [Nat.ne_of_lt hlt]
          · rw [← heq, hb]
            simp
            omega
        rw [hsplit, hf, hg, hlow, h k (by omega)]
  exact key w (Nat.le_refl w) x fun i hi => BitVec.getLsbD_of_ge x i hi

/-! ## A remainder of zero -/

/-- No more bits than the register holds: the remainder is zero when they are the register. -/
theorem feed_eq_zero_iff {g : BitVec w} (hg : g.getLsbD 0 = true) (x : BitVec w)
    {bits : List Bool} (hb : bits.length ≤ w) :
    feed g x bits = 0#w ↔ ∀ i < w, x.getMsbD i = bits.getD i false := by
  induction bits generalizing x with
  | nil =>
    constructor
    · intro h i _
      rw [show x = 0#w from h]
      simp
    · intro h
      exact BitVec.eq_of_getMsbD_eq fun i hi => by
        rw [BitVec.getMsbD_zero]
        exact h i hi
  | cons b bits ih =>
    rw [List.length_cons] at hb
    have hlast : g.getMsbD (w - 1) = true := by
      rw [BitVec.getMsbD_eq_getLsbD, Nat.sub_self, hg]
      simp
      omega
    have hout : x.getMsbD (1 + (w - 1)) = false := BitVec.getMsbD_of_ge _ _ (by omega)
    have hnone : bits.getD (w - 1) false = false := by
      rw [List.getD_eq_default _ _ (by omega)]
    rw [feed_cons, ih _ (by omega)]
    constructor
    · intro h
      have hfb := h (w - 1) (by omega)
      rw [getMsbD_shiftBit, hlast, hout, hnone, Bool.false_xor,
        Bool.and_true] at hfb
      intro i hi
      cases i with
      | zero =>
        rw [List.getD_cons_zero, ← BitVec.msb_eq_getMsbD_zero]
        simpa using hfb
      | succ i =>
        have hi' := h i (by omega)
        rw [getMsbD_shiftBit, hfb, Bool.false_and, Bool.xor_false,
          Nat.add_comm] at hi'
        rw [List.getD_cons_succ, hi']
    · intro h i hi
      have hfb : (x.msb ^^ b) = false := by
        have h0 := h 0 (by omega)
        rw [List.getD_cons_zero, ← BitVec.msb_eq_getMsbD_zero] at h0
        rw [h0, Bool.xor_self]
      rw [getMsbD_shiftBit, hfb, Bool.false_and, Bool.xor_false]
      rcases Nat.lt_or_ge (1 + i) w with hlt | hge
      · rw [h (1 + i) hlt, Nat.add_comm, List.getD_cons_succ]
      · rw [show i = w - 1 by omega, hout, hnone]

theorem getD_bitsOf (x : BitVec w) {i : Nat} (hi : i < w) :
    (bitsOf x).getD i false = x.getMsbD i := by
  simp [bitsOf, List.getD, hi]

@[simp] theorem length_bitsOf (x : BitVec w) : (bitsOf x).length = w := by
  simp [bitsOf]

/-- A remainder sent after the message brings the register to zero, and nothing else does. -/
theorem feed_bitsOf_eq_zero_iff {g : BitVec w} (hg : g.getLsbD 0 = true) (x e : BitVec w) :
    feed g x (bitsOf e) = 0#w ↔ x = e := by
  rw [feed_eq_zero_iff hg x (Nat.le_of_eq (length_bitsOf e))]
  constructor
  · intro h
    exact BitVec.eq_of_getMsbD_eq fun i hi => by rw [h i hi, getD_bitsOf e hi]
  · intro h i hi
    rw [h, getD_bitsOf e hi]

/-- Zeros after the message leave a remainder that is not zero so. -/
theorem eq_zero_of_feed_replicate {g : BitVec w} (hg : g.getLsbD 0 = true) {x : BitVec w}
    (n : Nat) (h : feed g x (List.replicate n false) = 0#w) : x = 0#w := by
  induction n generalizing x with
  | zero => exact h
  | succ n ih =>
    rw [List.replicate_succ, feed_cons] at h
    have hstep := ih h
    rcases Nat.eq_zero_or_pos w with rfl | hw
    · exact Subsingleton.elim _ _
    · have hzero := (feed_eq_zero_iff hg x (show [false].length ≤ w from hw)).1 hstep
      exact BitVec.eq_of_getMsbD_eq fun i hi => by
        rw [hzero i hi]
        cases i <;> simp

/-! ## Bursts -/

theorem feed_ne_zero_of_burst {g : BitVec w} (hg : g.getLsbD 0 = true) {burst : List Bool}
    (hlen : burst.length ≤ w) (hne : true ∈ burst) (a c : Nat) :
    feed g 0#w (List.replicate a false ++ (burst ++ List.replicate c false)) ≠ 0#w := by
  intro h
  rw [feed_append, feed_replicate_zero, feed_append] at h
  have hzero := (feed_eq_zero_iff hg 0#w hlen).1 (eq_zero_of_feed_replicate hg c h)
  obtain ⟨i, hi, hget⟩ := List.getElem_of_mem hne
  have hbit := hzero i (by omega)
  rw [List.getD_eq_getElem _ _ hi, hget] at hbit
  simp at hbit

/-- A stretch of `n` bits that holds every error. -/
theorem exists_burst {bits : List Bool} {a n : Nat}
    (h : ∀ i, bits[i]? = some true → a ≤ i ∧ i < a + n) (hne : true ∈ bits) :
    ∃ burst b c, bits = List.replicate b false ++ (burst ++ List.replicate c false) ∧
      burst.length ≤ n ∧ true ∈ burst := by
  have hfront : bits.take a = List.replicate (bits.take a).length false := by
    refine List.eq_replicate_of_mem fun x hx => ?_
    obtain ⟨i, hi, hget⟩ := List.getElem_of_mem hx
    rw [List.length_take] at hi
    rw [List.getElem_take] at hget
    cases x with
    | false => rfl
    | true =>
      have := h i (by rw [List.getElem?_eq_getElem (by omega), hget])
      omega
  have hback : (bits.drop a).drop n = List.replicate ((bits.drop a).drop n).length false := by
    refine List.eq_replicate_of_mem fun x hx => ?_
    obtain ⟨i, hi, hget⟩ := List.getElem_of_mem hx
    rw [List.length_drop, List.length_drop] at hi
    rw [List.getElem_drop, List.getElem_drop] at hget
    cases x with
    | false => rfl
    | true =>
      have := h (a + (n + i)) (by rw [List.getElem?_eq_getElem (by omega), hget])
      omega
  have hsplit : bits = bits.take a ++ ((bits.drop a).take n ++ (bits.drop a).drop n) := by
    rw [List.take_append_drop, List.take_append_drop]
  refine ⟨(bits.drop a).take n, (bits.take a).length, ((bits.drop a).drop n).length, ?_, ?_, ?_⟩
  · rw [← hfront, ← hback]
    exact hsplit
  · rw [List.length_take]
    omega
  · rw [hsplit, hfront, hback] at hne
    rcases List.mem_append.1 hne with hm | hm
    · exact absurd (List.eq_of_mem_replicate hm) (by decide)
    · rcases List.mem_append.1 hm with hm | hm
      · exact hm
      · exact absurd (List.eq_of_mem_replicate hm) (by decide)

/-! ## Odd numbers of errors -/

/-- Whether an odd number of bits is set. -/
def parity (bits : List Bool) : Bool := bits.foldr xor false

theorem parity_cons (b : Bool) (bits : List Bool) : parity (b :: bits) = (b ^^ parity bits) := rfl

theorem parity_append (s t : List Bool) : parity (s ++ t) = (parity s ^^ parity t) := by
  induction s with
  | nil => simp [parity]
  | cons b s ih => rw [List.cons_append, parity_cons, parity_cons, ih, Bool.xor_assoc]

theorem parity_eq_true_iff (bits : List Bool) : parity bits = true ↔ Odd (bits.count true) := by
  induction bits with
  | nil => simp [parity]
  | cons b bits ih =>
    rw [parity_cons]
    cases b with
    | false => rw [Bool.false_xor, ih, List.count_cons_of_ne (by decide)]
    | true =>
      rw [List.count_cons_self, Nat.odd_add_one, ← ih]
      simp

theorem parity_zipWith {s t : List Bool} (h : s.length = t.length) :
    parity (List.zipWith (· ^^ ·) s t) = (parity s ^^ parity t) := by
  induction s generalizing t with
  | nil =>
    rw [List.length_nil, eq_comm, List.length_eq_zero_iff] at h
    rw [h]
    rfl
  | cons b s ih =>
    cases t with
    | nil => simp at h
    | cons c t =>
      rw [List.zipWith_cons_cons, parity_cons, parity_cons, parity_cons, ih (by simpa using h)]
      cases b <;> cases c <;> simp

theorem parity_bitsOf_xor (x y : BitVec w) :
    parity (bitsOf (x ^^^ y)) = (parity (bitsOf x) ^^ parity (bitsOf y)) := by
  rw [bitsOf_xor, parity_zipWith (by rw [length_bitsOf, length_bitsOf])]

theorem parity_bitsOf_shiftLeft (x : BitVec w) :
    parity (bitsOf (x <<< 1)) = (parity (bitsOf x) ^^ x.msb) := by
  cases w with
  | zero =>
    rw [show x = 0#0 from Subsingleton.elim _ _]
    rfl
  | succ n =>
    have hin : bitsOf x = x.msb :: (List.range n).map fun i => x.getMsbD (1 + i) := by
      rw [bitsOf, List.range_succ_eq_map, List.map_cons, List.map_map,
        BitVec.msb_eq_getMsbD_zero]
      simp [Function.comp_def, Nat.add_comm]
    have hout : bitsOf (x <<< 1) = ((List.range n).map fun i => x.getMsbD (1 + i)) ++ [false] := by
      rw [bitsOf, List.range_succ, List.map_append, List.map_singleton]
      simp [Nat.add_comm]
    rw [hin, hout, parity_append, parity_cons]
    cases x.msb <;> simp [parity]

/-- When `x + 1` divides the polynomial, the register keeps the parity of what it was fed. -/
theorem parity_feed {g : BitVec w} (hg : parity (bitsOf g) = true) (x : BitVec w)
    (bits : List Bool) :
    parity (bitsOf (feed g x bits)) = (parity (bitsOf x) ^^ parity bits) := by
  induction bits generalizing x with
  | nil => simp [feed, parity]
  | cons b bits ih =>
    have hzero : parity (bitsOf 0#w) = false := by
      have h := parity_bitsOf_xor 0#w 0#w
      rwa [BitVec.xor_self, Bool.xor_self] at h
    have hstep : parity (bitsOf (shiftBit g x b)) = (parity (bitsOf x) ^^ b) := by
      rw [shiftBit, parity_bitsOf_xor, parity_bitsOf_shiftLeft]
      cases x.msb <;> cases b <;> simp [hg, hzero]
    rw [feed_cons, ih, hstep, parity_cons, Bool.xor_assoc]

theorem feed_ne_zero_of_odd {g : BitVec w} (hg : parity (bitsOf g) = true) {bits : List Bool}
    (hodd : Odd (bits.count true)) : feed g 0#w bits ≠ 0#w := by
  intro h
  have hpar := parity_feed hg 0#w bits
  rw [h, (parity_eq_true_iff bits).2 hodd] at hpar
  simp at hpar

/-! ## Two errors -/

/-- The powers of `x` from `x · y` on miss `g` for `n` steps. -/
def missesFor (g : BitVec w) : Nat → BitVec w → Bool
  | 0, _ => true
  | n + 1, y => shiftBit g y false != g && missesFor g n (shiftBit g y false)

theorem feed_ne_of_misses {g : BitVec w} {n : Nat} {y : BitVec w}
    (h : missesFor g n y = true) {k : Nat} (hk : k < n) :
    feed g y (List.replicate (k + 1) false) ≠ g := by
  induction n generalizing y k with
  | zero => omega
  | succ n ih =>
    simp only [missesFor, Bool.and_eq_true, bne_iff_ne] at h
    rw [List.replicate_succ, feed_cons]
    cases k with
    | zero => exact h.1
    | succ k => exact ih h.2 (by omega)

theorem eq_replicate_of_count_zero {bits : List Bool} (h : bits.count true = 0) :
    bits = List.replicate bits.length false := by
  refine List.eq_replicate_of_mem fun b hb => ?_
  cases b with
  | false => rfl
  | true => exact absurd hb (List.count_eq_zero.1 h)

theorem exists_first_error {bits : List Bool} (h : 0 < bits.count true) :
    ∃ a rest, bits = List.replicate a false ++ true :: rest := by
  induction bits with
  | nil => simp at h
  | cons b bits ih =>
    cases b with
    | true => exact ⟨0, bits, rfl⟩
    | false =>
      rw [List.count_cons_of_ne (by decide)] at h
      obtain ⟨a, rest, hrest⟩ := ih h
      exact ⟨a + 1, rest, by rw [hrest]; rfl⟩

/-- Two errors at most `n` bits apart, when the powers of `x` miss `g` for that long. -/
theorem feed_ne_zero_of_two {g : BitVec w} (hg : g.getLsbD 0 = true) {n : Nat}
    (hmiss : missesFor g n g = true) {bits : List Bool} (hlen : bits.length ≤ n)
    (htwo : bits.count true = 2) : feed g 0#w bits ≠ 0#w := by
  obtain ⟨a, rest, rfl⟩ := exists_first_error (by omega : 0 < bits.count true)
  have hone : rest.count true = 1 := by
    rw [List.count_append, List.count_cons_self, List.count_replicate] at htwo
    simpa using htwo
  obtain ⟨d, tail, rfl⟩ := exists_first_error (by omega : 0 < rest.count true)
  have hnone : tail.count true = 0 := by
    rw [List.count_append, List.count_cons_self, List.count_replicate] at hone
    simpa using hone
  have hd : d < n := by
    simp only [List.length_append, List.length_cons, List.length_replicate] at hlen
    omega
  intro h
  rw [eq_replicate_of_count_zero hnone, feed_append, feed_replicate_zero, feed_cons,
    shiftBit_zero_true, feed_append, feed_cons] at h
  have hzero := eq_zero_of_feed_replicate hg _ h
  rw [shiftBit_true, BitVec.xor_eq_zero_iff] at hzero
  refine feed_ne_of_misses hmiss hd ?_
  rw [List.replicate_succ', feed_append]
  exact hzero

end Lfsr
