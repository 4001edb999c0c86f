/-
  The receive side of `src/drv/terminal.c`: `wait_message_from_uart`, the loop of `th_ctrl`
  that calls it for ever, and the parser objects these calls can reach.

  A `read` gives one byte or something else (`none`: a timeout, an error or the end of the
  input), and the driver treats everything else alike. `receive` is `th_ctrl` read by read;
  `thCtrl_eq_receive` ties it to the two nested loops of the source.
-/
import Mathlib.Data.List.ReduceOption
import CommTester.Parser.Machine

namespace CommTester

/-- The result of `read(fd, &byte, 1)`: the byte if it returned 1. -/
abbrev ReadResult := Option UInt8

/-- One pass of `while (1)` in `wait_message_from_uart`, with the length it returns, if any. -/
def waitStep (ep : Endpoint) (p : ReCaUartParserObj) (pMessage : ReCaUartMessage) :
    ReadResult → Except Fault (Option UInt32 × ReCaUartParserObj × ReCaUartMessage)
  | none => .ok (none, parserHandleTimeout p, pMessage)
  | some byte => do
    let (found, p) ← parserHandleByte ep p byte
    if found then
      let (len, pMessage, p) ← parserGetMessage p pMessage
      return (some len, p, pMessage)
    else
      return (none, p, pMessage)

/-- `wait_message_from_uart` on the reads to come: the length it returns and the reads it
    leaves, or `none` when it still waits after the last of them. -/
def waitMessageFromUart (ep : Endpoint) (p : ReCaUartParserObj) (pMessage : ReCaUartMessage) :
    List ReadResult →
      Except Fault (Option UInt32 × ReCaUartParserObj × ReCaUartMessage × List ReadResult)
  | [] => .ok (none, p, pMessage, [])
  | r :: reads => do
    let (len, p, pMessage) ← waitStep ep p pMessage r
    match len with
    | some len => return (some len, p, pMessage, reads)
    | none => waitMessageFromUart ep p pMessage reads

/-- What `parser_get_message` hands over: its return value and that many bytes. -/
structure Received where
  len : UInt32
  bytes : List UInt8
  deriving DecidableEq, Repr

/-- The first `n` rounds of `while (1)` in `th_ctrl`: the messages they pass to `parse`. -/
def thCtrl (ep : Endpoint) : Nat → ReCaUartParserObj → ReCaUartMessage → List ReadResult →
    Except Fault (List Received × ReCaUartParserObj × ReCaUartMessage)
  | 0, p, message, _ => .ok ([], p, message)
  | n + 1, p, message, reads => do
    let (len, p, message, reads) ← waitMessageFromUart ep p message reads
    match len with
    | none => return ([], p, message)
    | some len =>
      let (msgs, p', message') ← thCtrl ep n p message reads
      return (⟨len, message.bytes len⟩ :: msgs, p', message')

/-- The same loop read by read: for each read the message returned on it, if any. -/
def receive (ep : Endpoint) : ReCaUartParserObj → ReCaUartMessage → List ReadResult →
    Except Fault (List (Option Received) × ReCaUartParserObj × ReCaUartMessage)
  | p, message, [] => .ok ([], p, message)
  | p, message, r :: reads => do
    let (len, p, message) ← waitStep ep p message r
    let (outs, p', message') ← receive ep p message reads
    return (len.map (fun len => ⟨len, message.bytes len⟩) :: outs, p', message')

/-- The objects reachable by the driver's calls. `pending` tells that `parser_handle_byte` has
    just returned true, and then `parser_get_message` is the next call. -/
inductive Reachable (ep : Endpoint) : (pending : Bool) → ReCaUartParserObj → Prop where
  | init (p : ReCaUartParserObj) : Reachable ep false (parserInit p)
  | handleByte {p byte found p'} : Reachable ep false p →
      parserHandleByte ep p byte = .ok (found, p') → Reachable ep found p'
  | getMessage {p pMessage len pMessage' p'} : Reachable ep true p →
      parserGetMessage p pMessage = .ok (len, pMessage', p') → Reachable ep false p'
  | handleTimeout {p} : Reachable ep false p → Reachable ep false (parserHandleTimeout p)

/-- The objects at the head of the loop in `parser_handle_accumulated_data`, in every call that
    `parser_handle_byte` makes from a reachable object. -/
inductive AtLoopHead (ep : Endpoint) : ReCaUartParserObj → Prop where
  | enter {p byte p'} : Reachable ep false p → appendByte p byte = .ok p' → AtLoopHead ep p'
  | again {p p'} : AtLoopHead ep p → rescanGuard p = true →
      parserHandleNext ep p = .ok (false, p') → AtLoopHead ep p'

/-! ## Runs and reachable objects -/

theorem waitStep_reachable {ep : Endpoint} {p q : ReCaUartParserObj} {m m' : ReCaUartMessage}
    {r : ReadResult} {len : Option UInt32} (h : Reachable ep false p)
    (hstep : waitStep ep p m r = .ok (len, q, m')) : Reachable ep false q := by
  cases r with
  | none =>
    cases hstep
    exact .handleTimeout h
  | some byte =>
    obtain ⟨⟨found, p'⟩, hbyte, hrest⟩ := exists_of_bind_eq_ok hstep
    cases found with
    | false =>
      cases hrest
      exact .handleByte h hbyte
    | true =>
      obtain ⟨⟨len', m₁, p''⟩, hget, hret⟩ := exists_of_bind_eq_ok hrest
      cases hret
      exact .getMessage (.handleByte h hbyte) hget

/-- The driver's runs stay among the reachable objects. -/
theorem receive_reachable {ep : Endpoint} {p q : ReCaUartParserObj} {m m' : ReCaUartMessage}
    {reads : List ReadResult} {outs : List (Option Received)} (h : Reachable ep false p)
    (hrun : receive ep p m reads = .ok (outs, q, m')) : Reachable ep false q := by
  induction reads generalizing p m outs with
  | nil =>
    cases hrun
    exact h
  | cons r reads ih =>
    obtain ⟨⟨len, p', m₁⟩, hstep, hrest⟩ := exists_of_bind_eq_ok hrun
    obtain ⟨⟨outs', q', m₂⟩, hrec, hret⟩ := exists_of_bind_eq_ok hrest
    cases hret
    exact ih (waitStep_reachable h hstep) hrec

/-! ## The nested loops -/

theorem thCtrl_cons (ep : Endpoint) (n : Nat) (p : ReCaUartParserObj) (m : ReCaUartMessage)
    (r : ReadResult) (reads : List ReadResult) :
    thCtrl ep (n + 1) p m (r :: reads) = (do
      let (len, p₁, m₁) ← waitStep ep p m r
      match len with
      | some len => do
        let (msgs, p₂, m₂) ← thCtrl ep n p₁ m₁ reads
        return (⟨len, m₁.bytes len⟩ :: msgs, p₂, m₂)
      | none => thCtrl ep (n + 1) p₁ m₁ reads) := by
  simp only [thCtrl, waitMessageFromUart, bind_assoc]
  refine bind_congr fun x => ?_
  obtain ⟨len, p₁, m₁⟩ := x
  cases len <;> rfl

/-- The nested loops of the driver pass on the messages of `receive`, in order. -/
theorem thCtrl_eq_receive (ep : Endpoint) (n : Nat) (p : ReCaUartParserObj)
    (m : ReCaUartMessage) (reads : List ReadResult) (h : reads.length < n) :
    thCtrl ep n p m reads = (do
      let (outs, p', m') ← receive ep p m reads
      return (outs.reduceOption, p', m')) := by
  induction reads generalizing n p m with
  | nil =>
    obtain ⟨n, rfl⟩ : ∃ k, n = k + 1 := ⟨n - 1, by omega⟩
    rfl
  | cons r reads ih =>
    obtain ⟨n, rfl⟩ : ∃ k, n = k + 1 := ⟨n - 1, by omega⟩
    have hn : reads.length < n := by simpa using h
    rw [thCtrl_cons, receive, bind_assoc]
    refine bind_congr fun x => ?_
    obtain ⟨len, p₁, m₁⟩ := x
    cases len with
    | none =>
      simp only [ih (n + 1) p₁ m₁ (by omega), bind_assoc, pure_bind]
      rfl
    | some len =>
      simp only [ih n p₁ m₁ hn, bind_assoc, pure_bind]
      rfl

end CommTester
