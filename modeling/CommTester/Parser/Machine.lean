/-
  The functions of `src/lib/parser.c` from `parser_init` to `parser_handle_timeout`, statement
  by statement. `int` promotions are 32-bit words and each C assignment truncates to the width
  of its target, as the source has them.

  The three loops run under `loopLimit` iterations, a bound of the model and not of the code;
  past it they stop with `Fault.diverged`. `print_dbgmsg` calls and the flag `g_flag_ready`,
  which only switches them on, are left out.
-/
import CommTester.Lib.Loop
import CommTester.Parser.Types

namespace CommTester

open Loop (whileLoop)

/-- Iterations after which a loop of the model gives up. -/
def loopLimit : Nat := 1048576

/-- The object in the memory that `terminal_open` clears. -/
def ReCaUartParserObj.zero : ReCaUartParserObj := ⟨.waitStx, .zero, 0, 0, 0, 0, 0, 0, 0⟩

def parserInit (p : ReCaUartParserObj) : ReCaUartParserObj :=
  { p with
    reCaUartState := .waitStx
    firstIdx := 0
    lastIdx := 0
    handledIdx := 0
    dataLen := 0
    accumLen := 0
    message := .zero }

def reCaUartParserBufferNextIdx (idx : UInt32) : UInt32 :=
  if idx < bufferSize.toUInt32 - 1 then idx + 1 else 0

/-! ## parser_calc_crc -/

/-- The body of the CRC loop: one byte into the CRC. -/
def crcUpdate (crc : UInt16) (byte : UInt8) : UInt16 :=
  let crc := ((crc >>> 8).toUInt8.toUInt32 ||| (crc.toUInt32 <<< 8)).toUInt16
  let crc := crc ^^^ byte.toUInt16
  let crc := (crc.toUInt32 ^^^ ((crc &&& 0x00FF).toUInt8.toUInt32 >>> 4)).toUInt16
  let crc := (crc.toUInt32 ^^^ ((crc.toUInt32 <<< 8) <<< 4)).toUInt16
  (crc.toUInt32 ^^^ (((crc.toUInt32 &&& 0x00FF) <<< 4) <<< 1)).toUInt16

/-- The loop variables of `parser_calc_crc`. -/
structure CrcLoop where
  idx : UInt32
  crc : UInt16

def crcLoopGuard (p : ReCaUartParserObj) (l : CrcLoop) : Bool := l.idx != p.handledIdx

def crcLoopBody (p : ReCaUartParserObj) (l : CrcLoop) : Except Fault (CrcLoop ⊕ UInt16) := do
  let byte ← p.message.load l.idx
  return .inl ⟨reCaUartParserBufferNextIdx l.idx, crcUpdate l.crc byte⟩

def crcLoopStart (ep : Endpoint) (p : ReCaUartParserObj) : CrcLoop :=
  ⟨reCaUartParserBufferNextIdx p.firstIdx, ep.crcDefault⟩

def parserCalcCrc (ep : Endpoint) (p : ReCaUartParserObj) : Except Fault UInt16 :=
  whileLoop .diverged (crcLoopGuard p) (crcLoopBody p) (fun l => .ok l.crc) loopLimit
    (crcLoopStart ep p)

/-! ## parser_handle_next -/

/-- `buf_len` in `WAIT_DATA`. -/
def bufLen (p : ReCaUartParserObj) : UInt32 :=
  if p.lastIdx ≥ p.handledIdx then p.lastIdx - p.handledIdx
  else bufferSize.toUInt32 + p.lastIdx - p.handledIdx

/-- `remained_len` in `WAIT_DATA`. -/
def remainedLen (p : ReCaUartParserObj) : UInt32 := p.dataLen.toUInt32 - p.accumLen.toUInt32

/-- `num_bytes_to_handle` in `WAIT_DATA`. -/
def numBytesToHandle (p : ReCaUartParserObj) : UInt32 :=
  if bufLen p < remainedLen p then bufLen p else remainedLen p

/-- `accum_len += num; handled_idx += num;` and the wrap of `handled_idx`. -/
def accumulate (p : ReCaUartParserObj) : ReCaUartParserObj :=
  let num := numBytesToHandle p
  let handledIdx := p.handledIdx + num
  { p with
    accumLen := (p.accumLen.toUInt32 + num).toUInt8
    handledIdx := if handledIdx ≥ bufferSize.toUInt32
      then handledIdx - bufferSize.toUInt32 else handledIdx }

/-- Drop the first byte and look for STX again: the exit of a failed candidate. -/
def restart (p : ReCaUartParserObj) : ReCaUartParserObj :=
  { p with
    reCaUartState := .waitStx
    firstIdx := reCaUartParserBufferNextIdx p.firstIdx
    handledIdx := reCaUartParserBufferNextIdx p.firstIdx }

/-- Step over the byte at `handled_idx` into the state `st`. -/
def advance (p : ReCaUartParserObj) (st : ParserState) : ReCaUartParserObj :=
  { p with reCaUartState := st, handledIdx := reCaUartParserBufferNextIdx p.handledIdx }

def parserHandleNext (ep : Endpoint) (p : ReCaUartParserObj) :
    Except Fault (Bool × ReCaUartParserObj) := do
  let byte ← p.message.load p.handledIdx
  match p.reCaUartState with
  | .waitStx =>
    if ep.stx = byte then
      return (false, advance { p with dataLen := 0, accumLen := 0 } .waitLen)
    else
      -- This exit leaves `re_ca_uart_state` alone: it is WAIT_STX already.
      return (false, { p with
        firstIdx := reCaUartParserBufferNextIdx p.firstIdx
        handledIdx := reCaUartParserBufferNextIdx p.firstIdx })
  | .waitLen =>
    if byte.toNat ≤ messageMaxLength then
      return (false, advance { p with dataLen := byte } .waitCmd)
    else
      return (false, restart p)
  | .waitCmd => return (false, advance p .waitData)
  | .waitData =>
    let p := accumulate p
    if p.accumLen = p.dataLen then
      let p := { p with reCaUartState := .waitCrc1 }
      let calcCrc ← parserCalcCrc ep p
      return (false, { p with calcCrc })
    else
      return (false, p)
  | .waitCrc1 => return (false, advance { p with crc := byte.toUInt16 } .waitCrc2)
  | .waitCrc2 =>
    let p := { p with crc := p.crc ||| (byte.toUInt16 <<< 8) }
    if p.calcCrc ≠ p.crc then
      return (false, restart p)
    else
      return (false, advance p .waitEtx)
  | .waitEtx =>
    if ep.etx = byte then
      return (true, advance p .finished)
    else
      return (false, restart p)
  | .finished => throw .assertFailed

/-! ## The calls of the driver -/

/-- `while (handled_idx != last_idx)` in `parser_handle_accumulated_data`. -/
def rescanGuard (p : ReCaUartParserObj) : Bool := p.handledIdx != p.lastIdx

def rescanBody (ep : Endpoint) (p : ReCaUartParserObj) :
    Except Fault (ReCaUartParserObj ⊕ (Bool × ReCaUartParserObj)) := do
  let (finished, p') ← parserHandleNext ep p
  if finished then
    return .inr (true, p')
  else
    return .inl p'

def rescanAfter (p : ReCaUartParserObj) : Except Fault (Bool × ReCaUartParserObj) :=
  .ok (false, p)

def parserHandleAccumulatedData (ep : Endpoint) (p : ReCaUartParserObj) :
    Except Fault (Bool × ReCaUartParserObj) :=
  whileLoop .diverged rescanGuard (rescanBody ep) rescanAfter loopLimit p

/-- The first two statements of `parser_handle_byte`: the byte goes into the ring. -/
def appendByte (p : ReCaUartParserObj) (byte : UInt8) : Except Fault ReCaUartParserObj := do
  let message ← p.message.store p.lastIdx byte
  return { p with message, lastIdx := reCaUartParserBufferNextIdx p.lastIdx }

def parserHandleByte (ep : Endpoint) (p : ReCaUartParserObj) (byte : UInt8) :
    Except Fault (Bool × ReCaUartParserObj) := do
  let p ← appendByte p byte
  parserHandleAccumulatedData ep p

/-- The loop variables of `parser_get_message`, with the buffer it fills. -/
structure CopyLoop where
  idx : UInt32
  len : UInt32
  pMessage : ReCaUartMessage

def copyLoopGuard (p : ReCaUartParserObj) (l : CopyLoop) : Bool := l.idx != p.handledIdx

def copyLoopBody (p : ReCaUartParserObj) (l : CopyLoop) :
    Except Fault (CopyLoop ⊕ CopyLoop) := do
  let byte ← p.message.load l.idx
  let pMessage ← l.pMessage.store l.len byte
  return .inl ⟨reCaUartParserBufferNextIdx l.idx, l.len + 1, pMessage⟩

/-- The length returned, the caller's buffer and the object afterwards. -/
def parserGetMessage (p : ReCaUartParserObj) (pMessage : ReCaUartMessage) :
    Except Fault (UInt32 × ReCaUartMessage × ReCaUartParserObj) := do
  if p.reCaUartState ≠ .finished then
    throw .assertFailed
  let l ← whileLoop .diverged (copyLoopGuard p) (copyLoopBody p) .ok loopLimit
    ⟨p.firstIdx, 0, pMessage⟩
  return (l.len, l.pMessage, { p with reCaUartState := .waitStx, firstIdx := p.handledIdx })

def parserHandleTimeout (p : ReCaUartParserObj) : ReCaUartParserObj :=
  { p with
    reCaUartState := .waitStx
    firstIdx := 0
    lastIdx := 0
    handledIdx := 0
    dataLen := 0
    accumLen := 0 }

end CommTester
