/-
  What a run in transmit mode does outside: the bytes it writes and what it prints.

  Each command that is encoded is written once, as long as its encoding says, in the order of the
  commands; one that is refused is not, and a short `write` changes nothing of it. For each
  command that was written there is the error of `send_msg` if its write was short, and then the
  signal that its check finds, if any; nothing else is printed (`main_writes`).
-/
import Mathlib.Data.List.Induction
import CommTester.App.Commands

namespace CommTester

/-- The bytes that are handed to `write`. -/
def Encoded.sent (data : Encoded) : List UInt8 := data.buf.take data.dataLength.toNat

section Transmission

variable {Iter : Type} (w : World Iter)

/-- What is handed to `write` for command `n`: one message, or none if it is refused. -/
def sentBytes (n : Nat) (p : ReCaUartPayload) : List (List UInt8) :=
  ((w.encode n p).map Encoded.sent).toList

/-- The writes before command `n`. -/
def writesBefore (ps : List ReCaUartPayload) (n : Nat) : Nat :=
  ((ps.take n).mapIdx (sentBytes w)).flatten.length

/-- What is printed for command `n` if it is encoded; its write is number `k`. -/
def commandLog (k n : Nat) (p : ReCaUartPayload) : List SessionEvent :=
  (w.encode n p).elim [] fun data =>
    writeLog w k data.buf data.dataLength ++
      (dbusCheckNewMessages w.lib (w.junk n) (w.polls n)).2.map .check

theorem sendOne_written (acc : Int32 × Session) (p : ReCaUartPayload) :
    (sendOne w acc p).2.written =
      acc.2.written ++ sentBytes w acc.2.handed.length p := by
  rw [sendOne, assignRes, encodeAndSend, sentBytes]
  cases w.encode acc.2.handed.length p with
  | none => exact (List.append_nil _).symm
  | some data =>
    simp only [terminalSendMsg_session]
    rfl

theorem sendOne_log (acc : Int32 × Session) (p : ReCaUartPayload) :
    (sendOne w acc p).2.log =
      acc.2.log ++ commandLog w acc.2.written.length acc.2.handed.length p := by
  rw [sendOne, assignRes, encodeAndSend, commandLog]
  cases w.encode acc.2.handed.length p with
  | none => exact (List.append_nil _).symm
  | some data =>
    simp only [terminalSendMsg_session]
    exact List.append_assoc _ _ _

/-- A command more does not change what was written before the others. -/
theorem writesBefore_append (ps : List ReCaUartPayload) (p : ReCaUartPayload) {n : Nat}
    (hn : n ≤ ps.length) : writesBefore w (ps ++ [p]) n = writesBefore w ps n := by
  unfold writesBefore
  rw [List.take_append_of_le_length hn]

/-- What the senders have done after the commands, one for one. -/
theorem sendAll_start (ps : List ReCaUartPayload) :
    (sendAll w ps (0, .start)).2 = ⟨ps, (ps.mapIdx (sentBytes w)).flatten,
      (ps.mapIdx fun n p => commandLog w (writesBefore w ps n) n p).flatten⟩ := by
  induction ps using List.reverseRecOn with
  | nil => rfl
  | append_singleton ps p ih =>
    have hwritten := sendOne_written w (sendAll w ps (0, .start)) p
    have hlog := sendOne_log w (sendAll w ps (0, .start)) p
    have hhanded := sendOne_handed w (sendAll w ps (0, .start)) p
    rw [ih] at hwritten hlog hhanded
    have hbefore : (ps.mapIdx fun n q => commandLog w (writesBefore w (ps ++ [p]) n) n q) =
        ps.mapIdx fun n q => commandLog w (writesBefore w ps n) n q := by
      refine List.mapIdx_eq_mapIdx_iff.2 fun n hn => ?_
      rw [writesBefore_append w ps p (Nat.le_of_lt hn)]
    have hnumber : writesBefore w (ps ++ [p]) ps.length =
        (ps.mapIdx (sentBytes w)).flatten.length := by
      rw [writesBefore_append w ps p (Nat.le_refl _), writesBefore, List.take_length]
    rw [sendAll_append, List.mapIdx_concat, List.mapIdx_concat, List.flatten_concat,
      List.flatten_concat, hbefore, hnumber]
    show (sendOne w (sendAll w ps (0, .start)) p).2 = _
    exact Session.ext hhanded hwritten hlog

theorem main_writes {argv : Argv} (h : Sends w argv.args) :
    ∃ res st, main w argv = .ok (.returned res st) ∧
      st.written = ((commandsOf argv.args).mapIdx (sentBytes w)).flatten ∧
      st.log = ((commandsOf argv.args).mapIdx fun n p =>
        commandLog w (writesBefore w (commandsOf argv.args) n) n p).flatten := by
  have hmain := main_transmit w h.transmits
  rw [if_pos h.connected, if_pos h.opened] at hmain
  have hsession := sendAll_start w (commandsOf argv.args)
  exact ⟨_, _, hmain, congrArg Session.written hsession, congrArg Session.log hsession⟩

end Transmission

/-- The device takes one byte of the first message; the second one is acknowledged. -/
def shortFirst : World (List DbusArg) :=
  { worldWith true encodeTwo (fun k data => if k = 0 then 1 else data.length) with
    polls := fun n =>
      if n = 1 then [⟨some (ackMessage [.struct [.uint32 32, .uint32 24, .byte 0]]), 1⟩] else [] }

theorem main_writes_short :
    ∃ res st, main shortFirst tagsAndId = .ok (.returned res st) ∧
      st.written = [[0xca, 0x0a], [0xca, 0x0a]] ∧
      st.log = [.writeSizeIncorrect, .check (.formatedOutputAck ⟨32, 24, 0, 0, 0⟩)] := by
  have hsends : Sends shortFirst tagsAndId.args :=
    ⟨⟨by decide +kernel, by decide +kernel, by decide +kernel⟩, by decide +kernel,
      by decide +kernel⟩
  obtain ⟨res, st, hmain, hwritten, hlog⟩ := main_writes shortFirst hsends
  refine ⟨res, st, hmain, hwritten.trans ?_, hlog.trans ?_⟩
  · decide +kernel
  · decide +kernel

end CommTester
