/-
  The ring of the parser object as a list of bytes.

  `InRing` is the index invariant: the three indices are below 255 and `handled_idx` lies on
  the path from `first_idx` to `last_idx`. Under it `window p` is the list of unconsumed bytes,
  `handled p` says how many of them the state machine has gone over, and the index updates of
  the code move these: to a later slot (`InRing.at_slot`), past the first byte
  (`InRing.at_next_first`), past a byte appended at `last_idx` (`appendByte_spec`).
-/
import CommTester.Lib.Circ
import CommTester.Link.Frame

namespace CommTester

open Loop (whileLoop)

/-- Bytes in the ring. -/
def held (p : ReCaUartParserObj) : Nat :=
  Circ.dist bufferSize p.firstIdx.toNat p.lastIdx.toNat

/-- Bytes of the ring the state machine has gone over. -/
def handled (p : ReCaUartParserObj) : Nat :=
  Circ.dist bufferSize p.firstIdx.toNat p.handledIdx.toNat

/-- The unconsumed bytes, from `first_idx` up to `last_idx`. -/
def window (p : ReCaUartParserObj) : List UInt8 :=
  Circ.window bufferSize p.message.cell p.firstIdx.toNat p.lastIdx.toNat

/-- The ring index `k` places after `first_idx`. -/
def slotIdx (p : ReCaUartParserObj) (k : Nat) : UInt32 :=
  UInt32.ofNat (Circ.slot bufferSize p.firstIdx.toNat k)

structure InRing (p : ReCaUartParserObj) : Prop where
  first_lt : p.firstIdx.toNat < bufferSize
  handled_lt : p.handledIdx.toNat < bufferSize
  last_lt : p.lastIdx.toNat < bufferSize
  handled_le : handled p ≤ held p

/-! ## Index arithmetic -/

theorem nextIdx_toNat (i : UInt32) :
    (reCaUartParserBufferNextIdx i).toNat = Circ.next bufferSize i.toNat := by
  have h1 : (bufferSize.toUInt32 - 1).toNat = 254 := rfl
  unfold reCaUartParserBufferNextIdx Circ.next
  by_cases h : i.toNat < 254
  · rw [if_pos (by rw [UInt32.lt_iff_toNat_lt, h1]; exact h), if_pos (by unfold bufferSize; omega),
      UInt32.toNat_add]
    show (i.toNat + 1) % 2 ^ 32 = i.toNat + 1
    omega
  · rw [if_neg (by rw [UInt32.lt_iff_toNat_lt, h1]; exact h), if_neg (by unfold bufferSize; omega)]
    rfl

theorem nextIdx_lt {i : UInt32} (h : i.toNat < bufferSize) :
    (reCaUartParserBufferNextIdx i).toNat < bufferSize := by
  rw [nextIdx_toNat]
  exact Circ.next_lt h

theorem toNat_ofNat_of_lt {k : Nat} (h : k < bufferSize) : (UInt32.ofNat k).toNat = k := by
  unfold bufferSize at h
  exact UInt32.toNat_ofNat_of_lt' (by unfold UInt32.size; omega)

theorem slotIdx_toNat {p : ReCaUartParserObj} (hp : p.firstIdx.toNat < bufferSize) {k : Nat}
    (hk : k ≤ bufferSize) : (slotIdx p k).toNat = Circ.slot bufferSize p.firstIdx.toNat k :=
  toNat_ofNat_of_lt (Circ.slot_lt hp hk)

theorem nextIdx_slotIdx {p : ReCaUartParserObj} (hp : p.firstIdx.toNat < bufferSize) {k : Nat}
    (hk : k < bufferSize) : reCaUartParserBufferNextIdx (slotIdx p k) = slotIdx p (k + 1) := by
  apply UInt32.toNat_inj.1
  rw [nextIdx_toNat, slotIdx_toNat hp (by omega), slotIdx_toNat hp (by omega),
    Circ.next_slot hp hk]

theorem slotIdx_zero {p : ReCaUartParserObj} (hp : p.firstIdx.toNat < bufferSize) :
    slotIdx p 0 = p.firstIdx := by
  apply UInt32.toNat_inj.1
  rw [slotIdx_toNat hp (by omega), Circ.slot_zero hp]

theorem slotIdx_one {p : ReCaUartParserObj} (hp : p.firstIdx.toNat < bufferSize) :
    slotIdx p 1 = reCaUartParserBufferNextIdx p.firstIdx := by
  rw [← nextIdx_slotIdx hp (by unfold bufferSize; omega), slotIdx_zero hp]

section Ring

variable {p : ReCaUartParserObj}

@[simp] theorem length_window (p : ReCaUartParserObj) : (window p).length = held p :=
  Circ.length_window ..

theorem InRing.held_lt (h : InRing p) : held p < bufferSize := Circ.dist_lt h.first_lt h.last_lt

theorem InRing.handled_lt_size (h : InRing p) : handled p < bufferSize :=
  Nat.lt_of_le_of_lt h.handled_le h.held_lt

/-- `handled_idx` is the slot after the handled bytes. -/
theorem InRing.handledIdx_eq (h : InRing p) : p.handledIdx = slotIdx p (handled p) := by
  apply UInt32.toNat_inj.1
  rw [slotIdx_toNat h.first_lt (Nat.le_of_lt h.handled_lt_size)]
  exact (Circ.slot_dist h.first_lt h.handled_lt).symm

theorem InRing.lastIdx_eq (h : InRing p) : p.lastIdx = slotIdx p (held p) := by
  apply UInt32.toNat_inj.1
  rw [slotIdx_toNat h.first_lt (Nat.le_of_lt h.held_lt)]
  exact (Circ.slot_dist h.first_lt h.last_lt).symm

theorem slotIdx_inj (hp : p.firstIdx.toNat < bufferSize) {j k : Nat} (hj : j < bufferSize)
    (hk : k < bufferSize) : slotIdx p j = slotIdx p k ↔ j = k := by
  constructor
  · intro h
    have h' := congrArg UInt32.toNat h
    rw [slotIdx_toNat hp (Nat.le_of_lt hj), slotIdx_toNat hp (Nat.le_of_lt hk)] at h'
    exact Circ.slot_inj (by omega) (by omega) h'
  · intro h
    rw [h]

/-- The guard of the rescan loop asks for an unhandled byte. -/
theorem InRing.rescanGuard_iff (h : InRing p) : rescanGuard p = true ↔ handled p < held p := by
  have hle := h.handled_le
  rw [rescanGuard, bne_iff_ne, ne_eq, h.handledIdx_eq, h.lastIdx_eq,
    slotIdx_inj h.first_lt h.handled_lt_size h.held_lt]
  omega

theorem cell_slot (h : InRing p) {k : Nat} (hk : k < held p) :
    p.message.cell (Circ.slot bufferSize p.firstIdx.toNat k) = byteAt (window p) k := by
  rw [byteAt, window, Circ.getElem?_window _ h.first_lt h.last_lt hk]
  rfl

/-- Reading the ring `k` places after `first_idx`. -/
theorem load_slotIdx (h : InRing p) {k : Nat} (hk : k < held p) :
    p.message.load (slotIdx p k) = .ok (byteAt (window p) k) := by
  have hs := slotIdx_toNat h.first_lt (k := k) (Nat.le_of_lt (Nat.lt_trans hk h.held_lt))
  rw [ReCaUartMessage.load_ok, hs, cell_slot h hk]
  rw [hs]
  exact Circ.slot_lt h.first_lt (Nat.le_of_lt (Nat.lt_trans hk h.held_lt))

theorem load_handledIdx (h : InRing p) (hg : handled p < held p) :
    p.message.load p.handledIdx = .ok (byteAt (window p) (handled p)) := by
  rw [h.handledIdx_eq]
  exact load_slotIdx h hg

end Ring

/-! ## Moving the indices -/

section Moves

variable {p q : ReCaUartParserObj}

/-- The ring of an object: what `window` and `held` depend on. -/
def SameRing (p q : ReCaUartParserObj) : Prop :=
  q.message = p.message ∧ q.firstIdx = p.firstIdx ∧ q.lastIdx = p.lastIdx

theorem SameRing.window_eq (h : SameRing p q) : window q = window p := by
  obtain ⟨hm, hf, hl⟩ := h
  rw [window, window, hm, hf, hl]

theorem SameRing.held_eq (h : SameRing p q) : held q = held p := by
  rw [← length_window, ← length_window, h.window_eq]

theorem SameRing.slotIdx_eq (h : SameRing p q) (k : Nat) : slotIdx q k = slotIdx p k := by
  rw [slotIdx, slotIdx, h.2.1]

/-- Setting `handled_idx` to a slot of the window. -/
theorem InRing.at_slot (h : InRing p) (hq : SameRing p q) {k : Nat} (hk : k ≤ held p)
    (hi : q.handledIdx = slotIdx p k) : InRing q ∧ handled q = k := by
  have hlt := Nat.lt_of_le_of_lt hk h.held_lt
  have hs : q.handledIdx.toNat = Circ.slot bufferSize p.firstIdx.toNat k := by
    rw [hi, slotIdx_toNat h.first_lt (Nat.le_of_lt hlt)]
  have hh : handled q = k := by
    rw [handled, hs, hq.2.1, Circ.dist_slot h.first_lt hlt]
  refine ⟨⟨?_, ?_, ?_, ?_⟩, hh⟩
  · rw [hq.2.1]; exact h.first_lt
  · rw [hs]; exact Circ.slot_lt h.first_lt (Nat.le_of_lt hlt)
  · rw [hq.2.2]; exact h.last_lt
  · rw [hh, hq.held_eq]; exact hk

theorem InRing.nextIdx_handledIdx (h : InRing p) :
    reCaUartParserBufferNextIdx p.handledIdx = slotIdx p (handled p + 1) := by
  rw [h.handledIdx_eq, nextIdx_slotIdx h.first_lt h.handled_lt_size]

/-- Dropping the first byte: the window loses its head, and nothing is handled any more. -/
theorem InRing.at_next_first (h : InRing p) (h0 : 0 < held p) (hm : q.message = p.message)
    (hl : q.lastIdx = p.lastIdx) (hf : q.firstIdx = reCaUartParserBufferNextIdx p.firstIdx)
    (hi : q.handledIdx = q.firstIdx) :
    InRing q ∧ handled q = 0 ∧ window q = (window p).tail ∧ held q + 1 = held p := by
  have hne : p.firstIdx.toNat ≠ p.lastIdx.toNat := fun he => by
    rw [held, he, Circ.dist_self] at h0
    exact absurd h0 (Nat.lt_irrefl 0)
  have hfn : q.firstIdx.toNat = Circ.next bufferSize p.firstIdx.toNat := by
    rw [hf, nextIdx_toNat]
  have hw : window q = (window p).tail := by
    rw [window, window, hm, hl, hfn, Circ.tail_window _ h.first_lt h.last_lt hne]
  have hh : handled q = 0 := by rw [handled, hi, Circ.dist_self]
  have hheld : held q + 1 = held p := by
    have := congrArg List.length hw
    rw [length_window, List.length_tail, length_window] at this
    omega
  have hflt : q.firstIdx.toNat < bufferSize := by
    rw [hfn]; exact Circ.next_lt h.first_lt
  exact ⟨⟨hflt, by rw [hi]; exact hflt, by rw [hl]; exact h.last_lt, by omega⟩, hh, hw, hheld⟩

/-- A byte written at `last_idx` of a ring that is not full extends the window by it. -/
theorem appendByte_spec (h : InRing p) (hroom : held p + 1 < bufferSize) (b : UInt8) :
    ∃ q, appendByte p b = .ok q ∧ InRing q ∧ window q = window p ++ [b] ∧
      held q = held p + 1 ∧ handled q = handled p ∧
      q = { p with message := q.message, lastIdx := q.lastIdx } := by
  obtain ⟨m, hst, hcell⟩ := p.message.store_ok b h.last_lt
  refine ⟨{ p with message := m, lastIdx := reCaUartParserBufferNextIdx p.lastIdx }, ?_, ?_⟩
  · simp [appendByte, hst, pure, Except.pure]
  have hheld : Circ.dist bufferSize p.firstIdx.toNat (reCaUartParserBufferNextIdx p.lastIdx).toNat
      = held p + 1 := by
    rw [nextIdx_toNat, Circ.dist_next_right h.first_lt h.last_lt hroom]
    rfl
  refine ⟨⟨h.first_lt, h.handled_lt, nextIdx_lt h.last_lt, ?_⟩, ?_, hheld, rfl, rfl⟩
  · have := h.handled_le
    simp only [held, handled] at this ⊢ hheld
    omega
  · simp only [window, hcell, nextIdx_toNat]
    exact Circ.window_push _ b h.first_lt h.last_lt hroom

end Moves

end CommTester
