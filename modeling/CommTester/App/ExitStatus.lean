/-
  The exit status of `main` in transmit mode.

  Three of the layers drop a failure: `main` returns 0 when `dbus_connect` fails, every sender
  overwrites the result of the one before, and no sender looks at the result of
  `terminal_send_msg`. What is left of the failures is a device that does not open and a last
  command that is not encoded (`exit_status_iff`).
-/
import CommTester.App.Commands

namespace CommTester

section Status

variable {Iter : Type} (w : World Iter)

/-- The `k`-th command is encoded, and `write` takes all of it. When every encoding succeeds,
    the `k`-th write is the one of the `k`-th command. -/
def SentInFull (k : Nat) (p : ReCaUartPayload) : Prop :=
  ∃ data, w.encode k p = some data ∧
    w.write k (data.buf.take data.dataLength.toNat) = data.dataLength.toNat

/-- No step fails. -/
structure Succeeded (args : List CString) : Prop where
  connected : dbusConnect w false = 0
  opened : terminalOpen w (deviceOf args) = 0
  sent : ∀ k p, (commandsOf args)[k]? = some p → SentInFull w k p

/-- `main` returns, 0 only after a success and a negative value after any failure. -/
def TellsTruth (argv : Argv) : Prop :=
  ∃ res st, main w argv = .ok (.returned res st) ∧
    (res = 0 → Succeeded w argv.args) ∧ (¬ Succeeded w argv.args → res < 0)

/-- The failures that get through to the result. -/
def Reported (args : List CString) : Prop :=
  dbusConnect w false = 0 ∧
    (terminalOpen w (deviceOf args) ≠ 0 ∨ LastRefused w (commandsOf args))

variable {w}

theorem tellsTruth_iff_of_returned {argv : Argv} {res : Int32} {st : Session}
    (h : main w argv = .ok (.returned res st)) :
    TellsTruth w argv ↔
      (res = 0 → Succeeded w argv.args) ∧ (¬ Succeeded w argv.args → res < 0) := by
  refine ⟨?_, fun ht => ⟨res, st, h, ht⟩⟩
  rintro ⟨res', st', h', ht⟩
  rw [h] at h'
  cases h'
  exact ht

/-- A negative result after a failure is as it should be. -/
theorem tellsTruth_of_failure {argv : Argv} {st : Session}
    (h : main w argv = .ok (.returned (-1) st)) : TellsTruth w argv :=
  (tellsTruth_iff_of_returned h).2 ⟨fun h0 => absurd h0 (by decide), fun _ => by decide⟩

/-- A result of 0 is right after a success only. -/
theorem tellsTruth_zero_iff {argv : Argv} {st : Session}
    (h : main w argv = .ok (.returned 0 st)) : TellsTruth w argv ↔ Succeeded w argv.args := by
  rw [tellsTruth_iff_of_returned h]
  refine ⟨fun ht => ht.1 rfl, fun hs => ⟨fun _ => hs, fun hn => absurd hs hn⟩⟩

variable (w)

theorem exit_status_iff (argv : Argv) (hhelp : ¬ Occurs .help argv.args)
    (hrx : ¬ Occurs .receive argv.args) :
    TellsTruth w argv ↔
      ¬ EndsUnguarded argv.args ∧ (Succeeded w argv.args ∨ Reported w argv.args) := by
  by_cases hends : EndsUnguarded argv.args
  · refine iff_of_false ?_ fun h => h.1 hends
    rintro ⟨res, st, h, _⟩
    rw [main_null w hhelp hends] at h
    cases h
  rw [and_iff_right hends]
  have hmain := main_transmit w (Transmits.mk hhelp hrx hends)
  by_cases hbus : dbusConnect w false = 0
  · rw [if_pos hbus] at hmain
    by_cases hopen : terminalOpen w (deviceOf argv.args) = 0
    · rw [if_pos hopen] at hmain
      obtain ⟨hrefused, haccepted⟩ := sendAll_res w (commandsOf argv.args)
      by_cases hlast : LastRefused w (commandsOf argv.args)
      · simp only [hrefused hlast] at hmain
        exact iff_of_true (tellsTruth_of_failure hmain) (.inr ⟨hbus, .inr hlast⟩)
      · simp only [haccepted hlast] at hmain
        have hreported : ¬ Reported w argv.args := by
          rintro ⟨_, hfail | hfail⟩
          · exact hfail hopen
          · exact hlast hfail
        rw [tellsTruth_zero_iff hmain, or_iff_left hreported]
    · rw [if_neg hopen] at hmain
      exact iff_of_true (tellsTruth_of_failure hmain) (.inr ⟨hbus, .inl hopen⟩)
  · rw [if_neg hbus] at hmain
    have hsucc : ¬ Succeeded w argv.args := fun h => hbus h.connected
    have hreported : ¬ Reported w argv.args := fun h => hbus h.1
    rw [tellsTruth_zero_iff hmain, or_iff_left hreported]

end Status

/-! ## Failures without a trace -/

/-- The first command is refused. -/
def encodeButFirst (k : Nat) (p : ReCaUartPayload) : Option Encoded :=
  if k = 0 then none else encodeTwo k p

/-- The result is 0 without a bus, with a first command that is not encoded, and with a device
    that takes no bytes. -/
theorem failures_return_zero :
    ((∃ st, main (worldWith false encodeTwo writeAll) tagsAndId = .ok (.returned 0 st)) ∧
      ¬ TellsTruth (worldWith false encodeTwo writeAll) tagsAndId) ∧
    ((∃ st, main (worldWith true encodeButFirst writeAll) tagsAndId = .ok (.returned 0 st)) ∧
      ¬ TellsTruth (worldWith true encodeButFirst writeAll) tagsAndId) ∧
    ((∃ st, main (worldWith true encodeTwo fun _ _ => -1) tagsAndId = .ok (.returned 0 st)) ∧
      ¬ TellsTruth (worldWith true encodeTwo fun _ _ => -1) tagsAndId) := by
  have hfirst : (commandsOf tagsAndId.args)[0]? = some ⟨.setFltrTags, .boolParam .enable⟩ := by
    decide +kernel
  have hbus : main (worldWith false encodeTwo writeAll) tagsAndId =
      .ok (.returned 0 .start) := by decide +kernel
  have hencode : main (worldWith true encodeButFirst writeAll) tagsAndId = .ok (.returned 0
      ⟨[⟨.setFltrTags, .boolParam .enable⟩, deviceIdPayload], [[0xca, 0x0a]], []⟩) := by
    decide +kernel
  have hwrite : main (worldWith true encodeTwo fun _ _ => -1) tagsAndId = .ok (.returned 0
      ⟨[⟨.setFltrTags, .boolParam .enable⟩, deviceIdPayload],
        [[0xca, 0x0a], [0xca, 0x0a]], [.writeSizeIncorrect, .writeSizeIncorrect]⟩) := by
    decide +kernel
  refine ⟨⟨⟨_, hbus⟩, ?_⟩, ⟨⟨_, hencode⟩, ?_⟩, ⟨_, hwrite⟩, ?_⟩
  · rw [tellsTruth_zero_iff hbus]
    intro hs
    exact absurd hs.connected (by decide)
  · rw [tellsTruth_zero_iff hencode]
    intro hs
    obtain ⟨data, henc, _⟩ := hs.sent 0 _ hfirst
    cases henc
  · rw [tellsTruth_zero_iff hwrite]
    intro hs
    obtain ⟨data, henc, hsent⟩ := hs.sent 0 _ hfirst
    cases henc
    cases hsent

/-- The last command is refused. -/
theorem exit_status_refused :
    TellsTruth (worldWith true (fun k p => if k = 1 then none else encodeTwo k p) writeAll)
      tagsAndId :=
  (exit_status_iff _ tagsAndId (by decide +kernel) (by decide +kernel)).2
    ⟨by decide +kernel, .inr ⟨by decide +kernel, .inr ⟨deviceIdPayload, by decide +kernel,
      by decide +kernel⟩⟩⟩

end CommTester
