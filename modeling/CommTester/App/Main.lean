/-
  `main` in `src/app/comm_tester.c`, after the argument loop: the connection, the device, and the
  commands that are sent through it.

  `res` is assigned by every sender, whatever it was before. In receive mode `api_process` does
  not return, so such a run ends in `MainResult.receiving`.
-/
import CommTester.App.Senders

namespace CommTester

def maxParamsNumSize : UInt32 := 255

def cmdArray : List ReCaUartCmd :=
  [.setFltrId, .setFltrTags, .setCodedPhy, .setScan2mbPhy, .setScan1mbPhy, .setCh37, .setCh38,
    .setCh39]

/-- `cmd_array[ii]`. -/
def cmdArrayAt (ii : Nat) : Except ArgFault ReCaUartCmd :=
  match cmdArray[ii]? with
  | none => .error .outOfArray
  | some cmd => .ok cmd

/-- `in_array[n]->payload`. -/
def payloadAt (inp : CommTesterInput) (n : UInt32) : Except ArgFault UInt32 := do
  return (inp.get (← inArrayAt n)).payload

section Transmit

variable {Iter : Type} (w : World Iter)

/-- `res = (int)...` -/
def assignRes (r : Int8 × Session) : Int32 × Session := (r.1.toInt32, r.2)

/-- The branch for a value for each parameter. -/
def sendAllParams (inp : CommTesterInput) (st : Session) : Except ArgFault (Int32 × Session) := do
  let fltrId ← payloadAt inp defaultFltrIdNum
  let fltrTags ← payloadAt inp defaultFltrTagsNum
  let useCodedPhy ← payloadAt inp defaultUseCodedPhyNum
  let use2mPhy ← payloadAt inp defaultUse2mPhyNum
  let use1mPhy ← payloadAt inp defaultUse1mPhyNum
  let ch37 ← payloadAt inp defaultCh37Num
  let ch38 ← payloadAt inp defaultCh38Num
  let ch39 ← payloadAt inp defaultCh39Num
  return assignRes (apiSendAll w .setAll fltrId.toUInt16 fltrTags.toUInt8 useCodedPhy.toUInt8
    use2mPhy.toUInt8 use1mPhy.toUInt8 ch37.toUInt8 ch38.toUInt8 ch39.toUInt8
    inp.maxAdvLen.payload.toUInt8 st)

/-- One pass of the loop over `in_array`. -/
def sendParam (inp : CommTesterInput) (acc : Int32 × Session) (ii : Nat) :
    Except ArgFault (Int32 × Session) := do
  let pIn := inp.get (← inArrayAt (.ofNat ii))
  if pIn.isSet ≠ 0 then
    let cmd ← cmdArrayAt ii
    if cmd = .setFltrId then return assignRes (apiSendFltrId w cmd pIn.payload.toUInt16 acc.2)
    else return assignRes (apiSendBoolPayload w cmd pIn.payload.toUInt8 acc.2)
  else return acc

def sendParams (inp : CommTesterInput) (st : Session) : Except ArgFault (Int32 × Session) :=
  (List.range inArray.length).foldlM (sendParam w inp) (0, st)

/-- `if (in.all_state >= MAX_PARAMS_NUM_SIZE) ... else ...` -/
def sendInputs (inp : CommTesterInput) (st : Session) : Except ArgFault (Int32 × Session) :=
  if maxParamsNumSize ≤ inp.allState then sendAllParams w inp st else sendParams w inp st

/-- What is done with the open device, up to `terminal_close`. -/
def transmit (s : Settings) : Except ArgFault (Int32 × Session) := do
  let (res, st) ← sendInputs w s.inp .start
  let (res, st) :=
    if s.getDeviceId ≠ 0 then assignRes (apiSendGetDeviceId w .getDeviceId st) else (res, st)
  if 0 ≤ s.ledCtrl then return assignRes (apiSendLedCtrl w s.ledCtrl.toUInt32.toUInt16 st)
  else return (res, st)

inductive MainResult where
  | returned (res : Int32) (session : Session)
  /-- The device is open for receiving; with `mode`, in the background. -/
  | receiving (mode ignoreReport : UInt8)
  deriving DecidableEq, Repr

def main (argv : Argv) : Except ArgFault MainResult := do
  match ← argLoop argv with
  | none => return .returned (-1) .start
  | some s =>
    if dbusConnect w s.dbusCreate = 0 then
      if s.rx ≠ 0 then
        if terminalOpen w s.deviceCom = 0 then return .receiving s.mode s.ignoreReport
        else return .returned (-1) .start
      else
        if terminalOpen w s.deviceCom = 0 then
          let (res, st) ← transmit w s
          return .returned res st
        else return .returned (-1) .start
    else return .returned 0 .start

end Transmit

end CommTester
