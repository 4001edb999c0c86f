/-
  Leftmost scanning of a stream for frames, and the scanner that does it one element at a time.

  A `Recogniser` looks at the front of a list and says that no frame starts there, that it
  cannot tell yet, or that a frame of `k` elements does. Its verdicts are final: more input
  does not change one that is not `undecided`.

  * `scan` is the batch form: drop one element on a rejection, take a frame on an acceptance,
    stop at an undecided front. `places` is the same scan with the offset of each frame.
  * `settle` stops at the first frame.
  * `run` feeds a list element by element into a window, settles the window after each element
    and empties it on a reset (`none`).

  `run_law`: the frames emitted since the last reset, followed by the scan of the window, are
  the scan of the elements since that reset. `run_recovers`: when verdicts come within `B`
  elements, a frame at offset `o` is out once `o + B` elements are in.
-/
import Mathlib.Data.List.Induction
import Mathlib.Data.List.ReduceOption

namespace Scan

variable {α : Type}

inductive Verdict where
  /-- No frame starts at the front. -/
  | reject
  /-- The list is too short to tell. -/
  | undecided
  /-- The first `k` elements are a frame. -/
  | accept (k : Nat)
  deriving DecidableEq, Repr

/-- A test for a frame at the front of a list whose verdicts are final. -/
structure Recogniser (α : Type) where
  verdict : List α → Verdict
  nil : verdict [] = .undecided
  accept_le : ∀ {s k}, verdict s = .accept k → 0 < k ∧ k ≤ s.length
  stable : ∀ {s}, verdict s ≠ .undecided → ∀ t, verdict (s ++ t) = verdict s

/-- Every front of at least `B` elements gets a verdict. -/
def Recogniser.DecidesWithin (R : Recogniser α) (B : Nat) : Prop :=
  ∀ s, R.verdict s = .undecided → s.length < B

/-! ## The batch scan -/

/-- The frames of the leftmost scan with their offsets. `skip` elements still belong to the
    frame just taken; `off` is the offset of the front. -/
def places (v : List α → Verdict) : Nat → Nat → List α → List (Nat × List α)
  | _, _, [] => []
  | skip + 1, off, _ :: s => places v skip (off + 1) s
  | 0, off, a :: s =>
    match v (a :: s) with
    | .undecided => []
    | .reject => places v 0 (off + 1) s
    | .accept k => (off, (a :: s).take k) :: places v (k - 1) (off + 1) s

/-- The frames of the leftmost scan. -/
def scan (v : List α → Verdict) (s : List α) : List (List α) :=
  (places v 0 0 s).map Prod.snd

theorem places_nil (v : List α → Verdict) (skip off : Nat) : places v skip off [] = [] := by
  cases skip <;> rfl

theorem places_skip (v : List α → Verdict) (skip off : Nat) (s : List α) :
    places v skip off s = places v 0 (off + skip) (s.drop skip) := by
  induction s generalizing skip off with
  | nil => rw [List.drop_nil, places_nil, places_nil]
  | cons a s ih =>
    cases skip with
    | zero => rfl
    | succ skip => rw [places, ih, List.drop_succ_cons, Nat.add_assoc, Nat.add_comm 1]

theorem places_shift (v : List α → Verdict) (d skip off : Nat) (s : List α) :
    places v skip (off + d) s = (places v skip off s).map fun p => (p.1 + d, p.2) := by
  induction s generalizing skip off with
  | nil => rw [places_nil, places_nil, List.map_nil]
  | cons a s ih =>
    have h : off + d + 1 = off + 1 + d := by omega
    cases skip with
    | succ skip => rw [places, places, h, ih]
    | zero =>
      simp only [places]
      split
      · rfl
      · rw [h, ih]
      · rw [h, ih, List.map_cons]

/-- The scan does not depend on the offset it starts to count from. -/
theorem map_snd_places (v : List α → Verdict) (off : Nat) (s : List α) :
    (places v 0 off s).map Prod.snd = scan v s := by
  have h := places_shift v off 0 0 s
  rw [Nat.zero_add] at h
  rw [h, scan, List.map_map]
  rfl

theorem le_of_mem_places (v : List α → Verdict) {skip off : Nat} {s : List α}
    {p : Nat × List α} (h : p ∈ places v skip off s) : off ≤ p.1 := by
  induction s generalizing skip off with
  | nil => simp [places_nil] at h
  | cons a s ih =>
    cases skip with
    | succ skip => exact Nat.le_of_succ_le (ih h)
    | zero =>
      simp only [places] at h
      split at h
      · simp at h
      · exact Nat.le_of_succ_le (ih h)
      · rcases List.mem_cons.mp h with rfl | h
        · exact Nat.le_refl _
        · exact Nat.le_of_succ_le (ih h)

/-- A frame is placed where one is accepted. -/
theorem accept_of_mem_places {v : List α → Verdict} {skip off : Nat} {s : List α}
    {p : Nat × List α} (h : p ∈ places v skip off s) :
    ∃ k, v (s.drop (p.1 - off)) = .accept k := by
  induction s generalizing skip off with
  | nil => simp [places_nil] at h
  | cons a s ih =>
    have hlater : ∀ skip', p ∈ places v skip' (off + 1) s →
        ∃ k, v ((a :: s).drop (p.1 - off)) = .accept k := by
      intro skip' hp
      have hle := le_of_mem_places v hp
      obtain ⟨k, hk⟩ := ih hp
      have hdrop : (a :: s).drop (p.1 - off) = s.drop (p.1 - (off + 1)) := by
        rw [show p.1 - off = p.1 - (off + 1) + 1 by omega, List.drop_succ_cons]
      exact ⟨k, by rw [hdrop, hk]⟩
    cases skip with
    | succ skip => exact hlater skip h
    | zero =>
      simp only [places] at h
      split at h
      · simp at h
      · exact hlater 0 h
      · next k hv =>
        rcases List.mem_cons.mp h with rfl | h
        · exact ⟨k, by simpa using hv⟩
        · exact hlater (k - 1) h

theorem scan_undecided {v : List α → Verdict} {s : List α} (h : v s = .undecided) :
    scan v s = [] := by
  cases s with
  | nil => rfl
  | cons a s => simp [scan, places, h]

theorem scan_reject {v : List α → Verdict} {a : α} {s : List α} (h : v (a :: s) = .reject) :
    scan v (a :: s) = scan v s := by
  rw [← map_snd_places v 1 s]
  simp [scan, places, h]

theorem scan_accept {v : List α → Verdict} {s : List α} {k : Nat} (hs : 0 < k ∧ k ≤ s.length)
    (h : v s = .accept k) : scan v s = s.take k :: scan v (s.drop k) := by
  cases s with
  | nil => simp at hs; omega
  | cons a s =>
    obtain ⟨k, rfl⟩ : ∃ j, k = j + 1 := ⟨k - 1, by omega⟩
    have hp : places v 0 0 (a :: s) = (0, (a :: s).take (k + 1)) :: places v k 1 s := by
      simp [places, h]
    rw [scan, hp, places_skip, List.map_cons, map_snd_places, List.drop_succ_cons]

/-! ## Up to the first frame -/

/-- What the scan meets first: how many elements it skips, the frame it then finds, if any,
    and what is left. -/
structure Settled (α : Type) where
  skipped : Nat
  frame : Option (List α)
  rest : List α

variable (R : Recogniser α)

def settle : List α → Settled α
  | [] => ⟨0, none, []⟩
  | a :: s =>
    match R.verdict (a :: s) with
    | .undecided => ⟨0, none, a :: s⟩
    | .reject => { settle s with skipped := (settle s).skipped + 1 }
    | .accept k => ⟨0, some ((a :: s).take k), (a :: s).drop k⟩

/-- The elements used up: the skipped ones and the frame. -/
def Settled.used (q : Settled α) : Nat := q.skipped + (q.frame.getD []).length

variable {R}

theorem settle_undecided {s : List α} (h : R.verdict s = .undecided) :
    settle R s = ⟨0, none, s⟩ := by
  cases s with
  | nil => rfl
  | cons a s => simp [settle, h]

theorem settle_reject {a : α} {s : List α} (h : R.verdict (a :: s) = .reject) :
    settle R (a :: s) = { settle R s with skipped := (settle R s).skipped + 1 } := by
  simp [settle, h]

theorem settle_accept {s : List α} {k : Nat} (h : R.verdict s = .accept k) :
    settle R s = ⟨0, some (s.take k), s.drop k⟩ := by
  cases s with
  | nil => rw [R.nil] at h; cases h
  | cons a s => simp [settle, h]

theorem rest_settle (s : List α) : (settle R s).rest = s.drop (settle R s).used := by
  induction s with
  | nil => rfl
  | cons a s ih =>
    cases h : R.verdict (a :: s) with
    | undecided => simp [settle_undecided h, Settled.used]
    | reject =>
      rw [settle_reject h]
      simp only [Settled.used] at ih ⊢
      rw [ih, Nat.add_right_comm, List.drop_succ_cons]
    | accept k =>
      have hk := (R.accept_le h).2
      simp only [settle_accept h, Settled.used, Option.getD_some, List.length_take, Nat.zero_add]
      rw [Nat.min_eq_left hk]

theorem used_settle_le (s : List α) : (settle R s).used ≤ s.length := by
  induction s with
  | nil => exact Nat.le_refl _
  | cons a s ih =>
    cases h : R.verdict (a :: s) with
    | undecided => simp [settle_undecided h, Settled.used]
    | reject =>
      rw [settle_reject h]
      simp only [Settled.used, List.length_cons] at ih ⊢
      omega
    | accept k =>
      simp only [settle_accept h, Settled.used, Option.getD_some, List.length_take]
      omega

theorem length_rest_settle (s : List α) :
    (settle R s).used + (settle R s).rest.length = s.length := by
  have := used_settle_le (R := R) s
  rw [rest_settle, List.length_drop]
  omega

/-- Where the scan stops without a frame, the front of what is left is undecided. -/
theorem verdict_rest_settle {s : List α} (h : (settle R s).frame = none) :
    R.verdict (settle R s).rest = .undecided := by
  induction s with
  | nil => exact R.nil
  | cons a s ih =>
    cases hv : R.verdict (a :: s) with
    | undecided => rw [settle_undecided hv]; exact hv
    | reject =>
      rw [settle_reject hv] at h ⊢
      exact ih h
    | accept k => rw [settle_accept hv] at h; cases h

/-- A frame found is one the recogniser accepts, with nothing after it. -/
theorem frame_settle {s f : List α} (h : (settle R s).frame = some f) :
    ∃ t k, R.verdict t = .accept k ∧ f = t.take k := by
  induction s with
  | nil => cases h
  | cons a s ih =>
    cases hv : R.verdict (a :: s) with
    | undecided => rw [settle_undecided hv] at h; cases h
    | reject =>
      rw [settle_reject hv] at h
      exact ih h
    | accept k =>
      rw [settle_accept hv] at h
      exact ⟨a :: s, k, hv, (Option.some.inj h).symm⟩

theorem frame_settle_pos {s f : List α} (h : (settle R s).frame = some f) : 0 < f.length := by
  obtain ⟨t, k, hv, rfl⟩ := frame_settle h
  have := R.accept_le hv
  rw [List.length_take]
  omega

/-- The frames a settled list has emitted, placed from offset `off` on. -/
def Settled.emitted (off : Nat) (q : Settled α) : List (Nat × List α) :=
  q.frame.toList.map fun f => (off + q.skipped, f)

theorem map_snd_emitted (off : Nat) (q : Settled α) :
    (q.emitted off).map Prod.snd = q.frame.toList := by
  rw [Settled.emitted, List.map_map]
  exact List.map_id _

/-- More input changes nothing up to the first frame, and goes on from what is left. -/
theorem places_settle_append (off : Nat) (s t : List α) :
    places R.verdict 0 off (s ++ t) = (settle R s).emitted off ++
      places R.verdict 0 (off + (settle R s).used) ((settle R s).rest ++ t) := by
  induction s generalizing off with
  | nil => rfl
  | cons a s ih =>
    cases h : R.verdict (a :: s) with
    | undecided => simp [settle_undecided h, Settled.emitted, Settled.used]
    | reject =>
      have hst := R.stable (s := a :: s) (by simp [h]) t
      rw [h, List.cons_append] at hst
      have hp : places R.verdict 0 off (a :: s ++ t) = places R.verdict 0 (off + 1) (s ++ t) := by
        simp [places, hst]
      rw [hp, ih, settle_reject h]
      simp only [Settled.emitted, Settled.used, Nat.add_assoc, Nat.add_comm 1]
    | accept k =>
      have hst := R.stable (s := a :: s) (by simp [h]) t
      rw [h, List.cons_append] at hst
      obtain ⟨hk0, hk⟩ := R.accept_le h
      have hp : places R.verdict 0 off (a :: s ++ t) =
          (off, (a :: s ++ t).take k) :: places R.verdict (k - 1) (off + 1) (s ++ t) := by
        simp [places, hst]
      rw [hp, places_skip, settle_accept h]
      obtain ⟨k, rfl⟩ : ∃ j, k = j + 1 := ⟨k - 1, by omega⟩
      have hks : k ≤ s.length := by simpa using hk
      simp only [Settled.emitted, Settled.used, Option.toList_some, List.map_cons, List.map_nil,
        Option.getD_some, List.length_take, Nat.min_eq_left hk, Nat.add_zero, Nat.zero_add,
        List.singleton_append, Nat.add_sub_cancel, List.drop_succ_cons]
      rw [List.take_append_of_le_length hk, List.drop_append_of_le_length hks, Nat.add_assoc,
        Nat.add_comm 1]

/-! ## One element at a time -/

variable (R)

/-- Feed a list into the window `w`: an element is appended and the window settled, `none`
    empties the window. The result lists, input by input, the frame emitted, if any. -/
def run : List α → List (Option α) → List (Option (List α)) × List α
  | w, [] => ([], w)
  | _, none :: r => (none :: (run [] r).1, (run [] r).2)
  | w, some a :: r =>
    let q := settle R (w ++ [a])
    (q.frame :: (run q.rest r).1, (run q.rest r).2)

/-- The elements since the last reset. -/
def since (r : List (Option α)) : List α :=
  r.foldl (fun g x => x.elim [] fun a => g ++ [a]) []

/-- What was emitted since the last reset. -/
def emittedSince (r : List (Option α)) (outs : List (Option (List α))) : List (List α) :=
  (outs.drop (r.length - (since r).length)).reduceOption

variable {R}

theorem run_append (w : List α) (r r' : List (Option α)) :
    run R w (r ++ r') = ((run R w r).1 ++ (run R (run R w r).2 r').1,
      (run R (run R w r).2 r').2) := by
  induction r generalizing w with
  | nil => rfl
  | cons x r ih => cases x <;> simp [run, ih]

theorem length_run (w : List α) (r : List (Option α)) : (run R w r).1.length = r.length := by
  induction r generalizing w with
  | nil => rfl
  | cons x r ih => cases x <;> simp [run, ih]

/-- What is emitted was accepted. -/
theorem accept_of_mem_run {w f : List α} {r : List (Option α)} (h : some f ∈ (run R w r).1) :
    ∃ t k, R.verdict t = .accept k ∧ f = t.take k := by
  induction r generalizing w with
  | nil => cases h
  | cons x r ih =>
    cases x with
    | none =>
      rcases List.mem_cons.1 h with h | h
      · cases h
      · exact ih h
    | some a =>
      rcases List.mem_cons.1 h with h | h
      · exact frame_settle h.symm
      · exact ih h

@[simp] theorem since_snoc_none (r : List (Option α)) : since (r ++ [none]) = [] := by
  simp [since]

@[simp] theorem since_snoc_some (r : List (Option α)) (a : α) :
    since (r ++ [some a]) = since r ++ [a] := by
  simp [since]

theorem length_since_le (r : List (Option α)) : (since r).length ≤ r.length := by
  induction r using List.reverseRecOn with
  | nil => exact Nat.le_refl _
  | append_singleton r x ih =>
    cases x with
    | none => simp
    | some a => simpa using ih

theorem emittedSince_snoc_none {r : List (Option α)} {outs : List (Option (List α))}
    (h : outs.length = r.length) (x : Option (List α)) :
    emittedSince (r ++ [none]) (outs ++ [x]) = [] := by
  rw [emittedSince, since_snoc_none, List.drop_eq_nil_of_le (by simp [h])]
  rfl

theorem emittedSince_snoc_some {r : List (Option α)} {outs : List (Option (List α))}
    (h : outs.length = r.length) (a : α) (x : Option (List α)) :
    emittedSince (r ++ [some a]) (outs ++ [x]) = emittedSince r outs ++ x.toList := by
  have hs := length_since_le r
  rw [emittedSince, emittedSince, since_snoc_some, List.length_append, List.length_append,
    List.length_singleton, List.length_singleton, Nat.add_sub_add_right,
    List.drop_append_of_le_length (by omega), List.reduceOption_append]
  cases x <;> rfl

/-- The simulation between the scanner and the batch scan: `used` elements of the stream `g`
    are gone from the window `w`, and the frames in them are `done`, whatever follows. -/
def Simulates (R : Recogniser α) (g w : List α) (done : List (Nat × List α)) : Prop :=
  ∃ used, used + w.length = g.length ∧
    ∀ t, places R.verdict 0 0 (g ++ t) = done ++ places R.verdict 0 used (w ++ t)

theorem simulates_nil : Simulates R [] [] [] := ⟨0, rfl, fun _ => rfl⟩

theorem simulates_push {g w : List α} {done : List (Nat × List α)} (h : Simulates R g w done)
    (a : α) : ∃ more, more.map Prod.snd = (settle R (w ++ [a])).frame.toList ∧
      Simulates R (g ++ [a]) (settle R (w ++ [a])).rest (done ++ more) := by
  obtain ⟨used, hlen, hp⟩ := h
  have hrest := length_rest_settle (R := R) (w ++ [a])
  rw [List.length_append, List.length_singleton] at hrest
  refine ⟨(settle R (w ++ [a])).emitted used, ?_, used + (settle R (w ++ [a])).used, ?_, ?_⟩
  · exact map_snd_emitted _ _
  · rw [List.length_append, List.length_singleton]
    omega
  · intro t
    rw [List.append_assoc, hp, ← List.append_assoc w, places_settle_append, ← List.append_assoc]

/-- The scanner simulates the batch scan of the elements since the last reset. -/
theorem run_simulates (r : List (Option α)) :
    ∃ done, done.map Prod.snd = emittedSince r (run R [] r).1 ∧
      Simulates R (since r) (run R [] r).2 done := by
  induction r using List.reverseRecOn with
  | nil => exact ⟨[], rfl, simulates_nil⟩
  | append_singleton r x ih =>
    obtain ⟨done, hdone, hsim⟩ := ih
    have hl := length_run (R := R) [] r
    rw [run_append]
    cases x with
    | none =>
      refine ⟨[], (emittedSince_snoc_none hl none).symm, ?_⟩
      simpa [run] using simulates_nil
    | some a =>
      obtain ⟨more, hmore, hsim'⟩ := simulates_push hsim a
      refine ⟨done ++ more, ?_, by simpa [run] using hsim'⟩
      rw [List.map_append, hdone, hmore]
      exact (emittedSince_snoc_some hl a _).symm

/-- **The framing law.** What is out since the last reset, followed by the scan of the window,
    is the scan of everything that came in since. -/
theorem run_law (r : List (Option α)) :
    emittedSince r (run R [] r).1 ++ scan R.verdict (run R [] r).2 =
      scan R.verdict (since r) := by
  obtain ⟨done, hdone, used, _, hp⟩ := run_simulates (R := R) r
  have h := hp []
  rw [List.append_nil, List.append_nil] at h
  rw [← hdone, scan.eq_1 _ (since r), h, List.map_append, map_snd_places]

/-! ## Frames held back -/

theorem emittedSince_run_snoc (r : List (Option α)) (a : α) :
    emittedSince (r ++ [some a]) (run R [] (r ++ [some a])).1 =
      emittedSince r (run R [] r).1 ++ (settle R ((run R [] r).2 ++ [a])).frame.toList := by
  rw [run_append]
  exact emittedSince_snoc_some (length_run [] r) a _

theorem window_run_snoc (r : List (Option α)) (a : α) :
    (run R [] (r ++ [some a])).2 = (settle R ((run R [] r).2 ++ [a])).rest := by
  rw [run_append]
  rfl

/-- An element whose arrival completes no second frame leaves none in the window. -/
theorem scan_window_snoc {r : List (Option α)} (a : α)
    (hw : scan R.verdict (run R [] r).2 = [])
    (h : (scan R.verdict (since r ++ [a])).length ≤ (scan R.verdict (since r)).length + 1) :
    scan R.verdict (run R [] (r ++ [some a])).2 = [] := by
  have hlaw := run_law (R := R) r
  have hlaw' := run_law (R := R) (r ++ [some a])
  rw [hw, List.append_nil] at hlaw
  rw [since_snoc_some, emittedSince_run_snoc, hlaw] at hlaw'
  cases hf : (settle R ((run R [] r).2 ++ [a])).frame with
  | none =>
    rw [window_run_snoc]
    exact scan_undecided (verdict_rest_settle hf)
  | some f =>
    have hlen := congrArg List.length hlaw'
    rw [hf, List.length_append, List.length_append, Option.toList_some,
      List.length_singleton] at hlen
    exact List.eq_nil_of_length_eq_zero (by omega)

/-- The scanner never holds a frame back exactly when no element completes two at once. -/
theorem run_drained_iff (r : List (Option α)) :
    (∀ q, q <+: r → scan R.verdict (run R [] q).2 = []) ↔
      ∀ q a, q ++ [some a] <+: r →
        (scan R.verdict (since q ++ [a])).length ≤ (scan R.verdict (since q)).length + 1 := by
  constructor
  · intro h q a hq
    have hlaw := run_law (R := R) q
    have hlaw' := run_law (R := R) (q ++ [some a])
    rw [h q ((List.prefix_append q _).trans hq), List.append_nil] at hlaw
    rw [h _ hq, List.append_nil, since_snoc_some, emittedSince_run_snoc, hlaw] at hlaw'
    rw [← hlaw', List.length_append]
    have hone := Option.length_toList_le (o := (settle R ((run R [] q).2 ++ [a])).frame)
    omega
  · intro h q
    induction q using List.reverseRecOn with
    | nil => intro _; rfl
    | append_singleton q x ih =>
      intro hq
      have hw := ih ((List.prefix_append q _).trans hq)
      cases x with
      | none =>
        rw [run_append]
        rfl
      | some a => exact scan_window_snoc a hw (h q a hq)

/-- A front in which no frame starts is dropped, or the scan stops in it. -/
theorem places_append_of_not_accept {v : List α → Verdict} {w t : List α}
    (h : ∀ i < w.length, ∀ k, v ((w ++ t).drop i) ≠ .accept k) (off : Nat) :
    places v 0 off (w ++ t) = places v 0 (off + w.length) t ∨
      places v 0 off (w ++ t) = [] ∧ ∃ i < w.length, v ((w ++ t).drop i) = .undecided := by
  induction w generalizing off with
  | nil => exact .inl rfl
  | cons a w ih =>
    rw [List.cons_append] at h ⊢
    cases hv : v (a :: (w ++ t)) with
    | undecided => exact .inr ⟨by simp [places, hv], 0, Nat.succ_pos _, hv⟩
    | accept k => exact absurd hv (h 0 (Nat.succ_pos _) k)
    | reject =>
      have hp : places v 0 off (a :: (w ++ t)) = places v 0 (off + 1) (w ++ t) := by
        simp [places, hv]
      have hlen : off + (a :: w).length = off + 1 + w.length := by
        rw [List.length_cons]
        omega
      rw [hp, hlen]
      have hrec := ih (fun i hi k => h (i + 1) (Nat.succ_lt_succ hi) k) (off + 1)
      rcases hrec with he | ⟨he, i, hi, hu⟩
      · exact .inl he
      · exact .inr ⟨he, i + 1, Nat.succ_lt_succ hi, hu⟩

/-- The first frame of a list that starts with one. -/
theorem head?_places {v : List α → Verdict} {s : List α} {k : Nat} (hs : 0 < k ∧ k ≤ s.length)
    (h : v s = .accept k) (off : Nat) : (places v 0 off s).head? = some (off, s.take k) := by
  obtain ⟨a, s, rfl⟩ := List.exists_cons_of_length_pos (by omega : 0 < s.length)
  simp [places, h]

/-! ## Occupancy and recovery -/

/-- A settled list is short: what is left is undecided, or a frame has gone. -/
theorem length_rest_settle_lt {B : Nat} (hR : R.DecidesWithin B) {s : List α}
    (hs : s.length ≤ B) : (settle R s).rest.length < B := by
  cases h : (settle R s).frame with
  | none => exact hR _ (verdict_rest_settle h)
  | some f =>
    have hf := frame_settle_pos h
    have hl := length_rest_settle (R := R) s
    simp only [Settled.used, h, Option.getD_some] at hl
    omega

/-- The window never holds `B` elements. -/
theorem length_run_lt {B : Nat} (hR : R.DecidesWithin B) (hB : 0 < B) {w : List α}
    (hw : w.length < B) (r : List (Option α)) : (run R w r).2.length < B := by
  induction r generalizing w with
  | nil => exact hw
  | cons x r ih =>
    cases x with
    | none => exact ih hB
    | some a =>
      refine ih (length_rest_settle_lt hR ?_)
      rw [List.length_append, List.length_singleton]
      exact hw

theorem since_map_some (s : List α) : since (s.map some) = s := by
  induction s using List.reverseRecOn with
  | nil => rfl
  | append_singleton s a ih => rw [List.map_append, List.map_singleton, since_snoc_some, ih]

theorem emittedSince_map_some (s : List α) (outs : List (Option (List α))) :
    emittedSince (s.map some) outs = outs.reduceOption := by
  rw [emittedSince, since_map_some, List.length_map, Nat.sub_self, List.drop_zero]

/-- The frames emitted on a list are the first frames of its scan. -/
theorem run_prefix (s : List α) :
    (run R [] (s.map some)).1.reduceOption <+: scan R.verdict s := by
  have h := run_law (R := R) (s.map some)
  rw [emittedSince_map_some, since_map_some] at h
  exact ⟨_, h⟩

/-- **Bounded recovery.** The `i`-th frame of the scan of `s`, at offset `o`, is the `i`-th
    frame emitted, and it is out once `o + B` elements are in. -/
theorem run_recovers {B : Nat} (hR : R.DecidesWithin B) (hB : 0 < B) {s f : List α} {i o n : Nat}
    (hi : (places R.verdict 0 0 s)[i]? = some (o, f)) (ho : o + B ≤ n) (hn : n ≤ s.length) :
    (run R [] ((s.take n).map some)).1.reduceOption[i]? = some f := by
  obtain ⟨done, hdone, used, hlen, hp⟩ := run_simulates (R := R) ((s.take n).map some)
  have hw := length_run_lt hR hB (w := []) hB ((s.take n).map some)
  rw [emittedSince_map_some] at hdone
  rw [since_map_some] at hlen hp
  rw [List.length_take, Nat.min_eq_left hn] at hlen
  have h := hp (s.drop n)
  rw [List.take_append_drop] at h
  rw [h] at hi
  -- Offsets past `done` start at `used`, which is beyond `o` since the window is short.
  have hlt : i < done.length := by
    by_contra hge
    rw [List.getElem?_append_right (by omega)] at hi
    have := le_of_mem_places _ (List.mem_of_getElem? hi)
    simp only at this
    omega
  rw [List.getElem?_append_left hlt] at hi
  rw [← hdone, List.getElem?_map, hi]
  rfl

/-! ## Clean traffic -/

/-- Every front of a frame but the frame itself is undecided. -/
theorem verdict_take {f : List α} (hf : R.verdict f = .accept f.length) {k : Nat}
    (hk : k < f.length) : R.verdict (f.take k) = .undecided := by
  by_contra hne
  have hst := R.stable hne (f.drop k)
  rw [List.take_append_drop, hf] at hst
  have hle := (R.accept_le hst.symm).2
  rw [List.length_take] at hle
  omega

/-- Elements no frame starts with leave the window empty. -/
theorem run_noise {s : List α} (h : ∀ a ∈ s, R.verdict [a] = .reject) :
    run R [] (s.map some) = (List.replicate s.length none, []) := by
  induction s with
  | nil => rfl
  | cons a s ih =>
    have hset : settle R [a] = ⟨1, none, []⟩ := settle_reject (h a List.mem_cons_self)
    have hrec := ih fun b hb => h b (List.mem_cons_of_mem a hb)
    rw [List.map_cons, run, List.nil_append, hset, hrec]
    rfl

theorem run_take {f : List α} (hf : R.verdict f = .accept f.length) {k : Nat}
    (hk : k < f.length) :
    run R [] ((f.take k).map some) = (List.replicate k none, f.take k) := by
  induction k with
  | zero => rfl
  | succ k ih =>
    rw [List.take_succ_eq_append_getElem (by omega), List.map_append, run_append,
      ih (by omega), List.map_singleton, run, ← List.take_succ_eq_append_getElem (by omega),
      settle_undecided (verdict_take hf hk), List.replicate_succ']
    rfl

/-- A frame is emitted on its last element. -/
theorem run_frame {f : List α} (hf : R.verdict f = .accept f.length) :
    run R [] (f.map some) = (List.replicate (f.length - 1) none ++ [some f], []) := by
  have hpos := (R.accept_le hf).1
  have hlast : f = f.take (f.length - 1) ++ [f.get ⟨f.length - 1, by omega⟩] := by
    have h := List.take_succ_eq_append_getElem (l := f) (i := f.length - 1) (by omega)
    rw [Nat.sub_add_cancel hpos, List.take_length] at h
    exact h
  have hset : settle R f = ⟨0, some f, []⟩ := by
    rw [settle_accept hf, List.take_length, List.drop_length]
  have hmap : f.map some = (f.take (f.length - 1)).map some ++
      [some (f.get ⟨f.length - 1, by omega⟩)] := by
    rw [← List.map_singleton, ← List.map_append, ← hlast]
  rw [hmap, run_append, run_take hf (by omega), run, ← hlast, hset]
  rfl

/-- Noise and frames in turn: each frame comes out on its last element, nothing else does. -/
theorem run_clean (traffic : List (List α × List α))
    (h : ∀ p ∈ traffic, (∀ a ∈ p.1, R.verdict [a] = .reject) ∧
      R.verdict p.2 = .accept p.2.length) :
    run R [] ((traffic.flatMap fun p => p.1 ++ p.2).map some) =
      (traffic.flatMap fun p => List.replicate p.1.length none ++
        (List.replicate (p.2.length - 1) none ++ [some p.2]), []) := by
  induction traffic with
  | nil => rfl
  | cons p traffic ih =>
    obtain ⟨hnoise, hframe⟩ := h p List.mem_cons_self
    have hrec := ih fun q hq => h q (List.mem_cons_of_mem p hq)
    rw [List.flatMap_cons, List.flatMap_cons, List.map_append, List.map_append, run_append,
      run_append, run_noise hnoise, run_frame hframe, hrec]

end Scan
