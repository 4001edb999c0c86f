/-
  Data model of `src/lib/parser.h`: the parser object with its ring buffer, its state machine
  and its machine integers at the source's widths.

  STX, ETX and the CRC start value are macros of `ruuvi_endpoint_ca_uart.h`, a header of the
  endpoints submodule that is not part of the repository; they are the fields of `Endpoint` and
  every result holds for any values of them. `testEndpoint` has the values of the repository's
  own test frame.

  C code that would leave defined behaviour stops with a `Fault`: a failed `assert`, an access
  outside an array, a loop that does not end.
-/
import Mathlib.Logic.Function.Basic

namespace CommTester

inductive Fault where
  | assertFailed
  | outOfBounds
  | diverged
  deriving DecidableEq, Repr

@[simp] theorem ok_bind {ε α β : Type} (a : α) (f : α → Except ε β) :
    (Except.ok a >>= f) = f a := rfl

@[simp] theorem error_bind {ε α β : Type} (e : ε) (f : α → Except ε β) :
    (Except.error e >>= f) = .error e := rfl

/-- A computation that succeeds does so step by step. -/
theorem exists_of_bind_eq_ok {ε α β : Type} {x : Except ε α} {f : α → Except ε β} {b : β}
    (h : x >>= f = .ok b) : ∃ a, x = .ok a ∧ f a = .ok b := by
  cases x with
  | error e => rw [error_bind] at h; cases h
  | ok a => exact ⟨a, rfl, h⟩

/-- A pair is known to come out once its first part is. -/
theorem exists_of_fst_eq {ε α β : Type} {x : Except ε (α × β)} {a : α}
    (h : x.toOption.map Prod.fst = some a) : ∃ b, x = .ok (a, b) := by
  cases x with
  | error e => cases h
  | ok r =>
    obtain ⟨a', b⟩ := r
    cases Option.some.inj h
    exact ⟨b, rfl⟩

/-- `RE_CA_UART_STX`, `RE_CA_UART_ETX` and `RE_CA_CRC_DEFAULT`. -/
structure Endpoint where
  stx : UInt8
  etx : UInt8
  crcDefault : UInt16
  deriving DecidableEq, Repr

/-- The framing bytes and the CRC start value that fit the frame in `test_parser.cpp`. -/
def testEndpoint : Endpoint := ⟨0xCA, 0x0A, 0xFFFF⟩

/-- `RE_CA_UART_PARSER_BUFFER_SIZE`. -/
abbrev bufferSize : Nat := 255

/-- `RE_CA_UART_PARSER_RI_COMM_MESSAGE_MAX_LENGTH`. -/
abbrev messageMaxLength : Nat := bufferSize - (3 + 2 + 1 + 1)

/-- `re_ca_uart_parser_state_e`. -/
inductive ParserState where
  | waitStx
  | waitLen
  | waitCmd
  | waitData
  | waitCrc1
  | waitCrc2
  | waitEtx
  | finished
  deriving DecidableEq, Repr

/-- `re_ca_uart_message_t`. -/
structure ReCaUartMessage where
  buffer : Vector UInt8 bufferSize
  deriving DecidableEq, Repr

/-- The message buffer cleared by `memset`. -/
def ReCaUartMessage.zero : ReCaUartMessage := ⟨Vector.replicate bufferSize 0⟩

/-- The byte in cell `i`; `load` is the access of the C code, with its bounds. -/
def ReCaUartMessage.cell (m : ReCaUartMessage) (i : Nat) : UInt8 := m.buffer[i]?.getD 0

/-- Reading `buffer[i]`. -/
def ReCaUartMessage.load (m : ReCaUartMessage) (i : UInt32) : Except Fault UInt8 :=
  if i.toNat < bufferSize then .ok (m.cell i.toNat) else .error .outOfBounds

/-- Writing `buffer[i]`. -/
def ReCaUartMessage.store (m : ReCaUartMessage) (i : UInt32) (b : UInt8) :
    Except Fault ReCaUartMessage :=
  if i.toNat < bufferSize then .ok ⟨m.buffer.setIfInBounds i.toNat b⟩ else .error .outOfBounds

/-- The first `len` bytes of a message buffer. -/
def ReCaUartMessage.bytes (m : ReCaUartMessage) (len : UInt32) : List UInt8 :=
  m.buffer.toList.take len.toNat

/-- `re_ca_uart_parser_obj_t`. -/
structure ReCaUartParserObj where
  reCaUartState : ParserState
  message : ReCaUartMessage
  firstIdx : UInt32
  lastIdx : UInt32
  handledIdx : UInt32
  dataLen : UInt8
  accumLen : UInt8
  calcCrc : UInt16
  crc : UInt16
  deriving DecidableEq, Repr

/-! ## The message buffer as a memory -/

theorem ReCaUartMessage.load_ok (m : ReCaUartMessage) {i : UInt32} (h : i.toNat < bufferSize) :
    m.load i = .ok (m.cell i.toNat) := if_pos h

theorem ReCaUartMessage.store_ok (m : ReCaUartMessage) {i : UInt32} (b : UInt8)
    (h : i.toNat < bufferSize) :
    ∃ m', m.store i b = .ok m' ∧ m'.cell = Function.update m.cell i.toNat b := by
  refine ⟨⟨m.buffer.setIfInBounds i.toNat b⟩, if_pos h, ?_⟩
  funext j
  by_cases hj : j = i.toNat
  · subst hj
    simp [cell, h]
  · simp [cell, hj, Ne.symm hj]

theorem ReCaUartMessage.toList_eq (m : ReCaUartMessage) :
    m.buffer.toList = (List.range bufferSize).map m.cell := by
  apply List.ext_getElem
  · simp
  · intro i h1 h2
    simp only [List.length_map, List.length_range] at h2
    simp [cell, h2]

end CommTester
