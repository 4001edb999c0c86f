/-
  The text on stderr: `src/lib/formated_output.c`, the line of `api_get_all_callback`, and the
  errors of `dbus_send_ack`, `dbus_send_device_id` and `send_msg`, with debug output off. An
  acknowledgement prints nothing then.

  The text of `th_ctrl` tells what was printed, field by field and error by error
  (`output_unambiguous`). The machine is little endian, so the bytes of an id come out low byte
  first. What `main` prints before there is a `th_ctrl` is left out.
-/
import Mathlib.Algebra.Group.Nat.Defs
import CommTester.Lib.Codec
import CommTester.App.Senders
import CommTester.Receiver.Callbacks

namespace CommTester

open Codec

/-! ## Numbers -/

/-- `%02x`. -/
def hex (v : UInt8) : List Char := [Nat.digitChar (v.toNat / 16), Nat.digitChar (v.toNat % 16)]

/-- `%d`. -/
def decimal (i : Int) : List Char :=
  if i < 0 then '-' :: Nat.toDigits 10 i.natAbs else Nat.toDigits 10 i.natAbs

/-- `%02x:%02x:...`. -/
def colons : List UInt8 → List Char
  | [] => []
  | [b] => hex b
  | b :: bs => hex b ++ ':' :: colons bs

/-- `*((uint8_t *)&v + k)`, for each `k`. -/
def bytesOf (v : UInt64) : List UInt8 :=
  (List.range 8).map fun k => (v >>> (8 * UInt64.ofNat k)).toUInt8

theorem digitChar_inj {i j : Nat} (hi : i < 16) (hj : j < 16)
    (h : Nat.digitChar i = Nat.digitChar j) : i = j := by
  have hall : ∀ i j : Fin 16, Nat.digitChar i = Nat.digitChar j → i = j := by decide
  exact congrArg Fin.val (hall ⟨i, hi⟩ ⟨j, hj⟩ h)

theorem digitChar_ne {i : Nat} (hi : i < 16) : Nat.digitChar i ≠ '\n' := by
  have hall : ∀ i : Fin 16, Nat.digitChar i ≠ '\n' := by decide
  exact hall ⟨i, hi⟩

theorem hex_injective : Function.Injective hex := by
  intro v u h
  have hv := v.toNat_lt
  have hu := u.toNat_lt
  obtain ⟨hhigh, hlow⟩ := List.cons.inj h
  have hdiv := digitChar_inj (by omega) (by omega) hhigh
  have hmod := digitChar_inj (by omega) (by omega) (List.cons.inj hlow).1
  exact UInt8.toNat_inj.1 (by omega)

theorem length_hex (v : UInt8) : (hex v).length = 2 := rfl

theorem prefixFree_hex : PrefixFree hex := prefixFree_of_length length_hex hex_injective

theorem toDigits_inj {m n : Nat} (h : Nat.toDigits 10 m = Nat.toDigits 10 n) : m = n := by
  rw [← Nat.ofDigitChars_ten_toDigits (n := m), h, Nat.ofDigitChars_ten_toDigits]

theorem minus_ne_toDigits (l : List Char) (n : Nat) : '-' :: l ≠ Nat.toDigits 10 n := by
  intro h
  have hdigit : '-'.isDigit = true := Nat.isDigit_of_mem_toDigits (b := 10) (n := n)
    (by omega) (by omega) (h ▸ List.mem_cons_self)
  cases hdigit

theorem decimal_injective : Function.Injective decimal := by
  intro i j h
  unfold decimal at h
  split at h
  · split at h
    · have := toDigits_inj (List.cons.inj h).2
      omega
    · exact absurd h (minus_ne_toDigits _ _)
  · split at h
    · exact absurd h.symm (minus_ne_toDigits _ _)
    · have := toDigits_inj h
      omega

theorem prefixFree_decimal : PrefixFree fun i => decimal i ++ [' '] := by
  refine prefixFree_stop (fun c => c.isDigit || c == '-') (fun i c hc => ?_) decimal_injective rfl
  have hdigits : c ∈ Nat.toDigits 10 i.natAbs → c.isDigit = true := fun h =>
    Nat.isDigit_of_mem_toDigits (by omega) (by omega) h
  unfold decimal at hc
  split at hc
  · rcases List.mem_cons.1 hc with rfl | hc
    · rfl
    · simp [hdigits hc]
  · simp [hdigits hc]

theorem length_colons (b : UInt8) (bs : List UInt8) :
    (colons (b :: bs)).length = 3 * bs.length + 2 := by
  induction bs generalizing b with
  | nil => rfl
  | cons b' bs ih =>
    rw [colons, List.length_append, List.length_cons, ih, List.length_cons]
    · show 2 + _ = _
      omega
    · nofun

theorem colons_inj {bs cs : List UInt8} (hlen : bs.length = cs.length)
    (h : colons bs = colons cs) : bs = cs := by
  induction bs generalizing cs with
  | nil => exact (List.length_eq_zero_iff.1 hlen.symm).symm
  | cons b bs ih =>
    cases cs with
    | nil => cases hlen
    | cons c cs =>
      have hlen' : bs.length = cs.length := Nat.succ.inj hlen
      cases bs with
      | nil =>
        obtain rfl := List.length_eq_zero_iff.1 hlen'.symm
        rw [hex_injective h]
      | cons b' bs =>
        cases cs with
        | nil => cases hlen'
        | cons c' cs =>
          obtain ⟨rfl, hrest⟩ := prefixFree_hex _ _ _ _ h
          rw [ih hlen' (List.cons.inj hrest).2]

theorem toNat_byte (v : UInt64) {k : Nat} (hk : k < 8) :
    (v >>> (8 * UInt64.ofNat k)).toUInt8.toNat = v.toNat / 256 ^ k % 256 := by
  have hshift : (8 * UInt64.ofNat k).toNat = 8 * k := by
    rw [UInt64.toNat_mul, UInt64.toNat_ofNat_of_lt' (by unfold UInt64.size; omega)]
    show 8 * k % 2 ^ 64 = 8 * k
    omega
  have hwidth : 8 * k % 64 = 8 * k := Nat.mod_eq_of_lt (by omega)
  rw [UInt64.toNat_toUInt8, UInt64.toNat_shiftRight, hshift, hwidth, Nat.shiftRight_eq_div_pow,
    Nat.pow_mul]

/-- A number is known from its bytes. -/
theorem eq_of_bytes {n a b : Nat} (ha : a < 256 ^ n) (hb : b < 256 ^ n)
    (h : ∀ k < n, a / 256 ^ k % 256 = b / 256 ^ k % 256) : a = b := by
  induction n generalizing a b with
  | zero => omega
  | succ n ih =>
    have hlow := h 0 (Nat.succ_pos n)
    rw [Nat.pow_zero, Nat.div_one, Nat.div_one] at hlow
    rw [Nat.pow_succ] at ha hb
    have hhigh : a / 256 = b / 256 := by
      refine ih (by omega) (by omega) ?_
      intro k hk
      have hnext := h (k + 1) (Nat.succ_lt_succ hk)
      rwa [Nat.pow_succ', ← Nat.div_div_eq_div_mul, ← Nat.div_div_eq_div_mul] at hnext
    omega

theorem bytesOf_injective : Function.Injective bytesOf := by
  intro v u h
  refine UInt64.toNat_inj.1 (eq_of_bytes (n := 8) v.toNat_lt u.toNat_lt ?_)
  intro k hk
  rw [← toNat_byte v hk, ← toNat_byte u hk, List.map_inj_left.1 h k (List.mem_range.2 hk)]

/-! ## The texts -/

/-- `"%02x "` for each byte. -/
def spaced (bytes : List UInt8) : List Char := bytes.flatMap fun b => hex b ++ [' ']

def formatedOutputReport (mac : Vector UInt8 6) (adv : List UInt8) (rssiDb : Int) : List Char :=
  "-----REPORT-----\n".toList ++
    ("MAC: ".toList ++ (colons mac.toList ++ ['\n']) ++
      ("ADV: ".toList ++ (spaced adv ++ ['\n']) ++
        ("RSSI: ".toList ++ (decimal rssiDb ++ [' '] ++ "db\n".toList))))

def formatedOutputDeviceId (id addr : UInt64) : List Char :=
  "-----DEVICE_ID-----\n".toList ++
    ("ID: ".toList ++ (colons (bytesOf id) ++ ['\n']) ++
      ("ADDR: ".toList ++ (colons (bytesOf addr) ++ ['\n'])))

/-- `print_errmsgnoarg(str)` in the function `func`. -/
def printErrmsgnoarg (str func : String) : List Char :=
  str.toList ++ " in ".toList ++ (func.toList ++ ": ".toList)

/-- What the senders report of a failed call. -/
def FailedCall.str : FailedCall → String
  | .newSignal => "Message Null\n"
  | .openContainer => "Error open iteration container"
  | .appendBasic => "Out Of Memory!"
  | .closeContainer => "Error close iteration container"
  | .connectionSend => "Out Of Memory!\n"

/-- `__func__` in the senders. -/
def Signal.func : Signal → String
  | .ack => "dbus_send_ack"
  | .deviceId => "dbus_send_device_id"

/-- What is printed for an event. -/
inductive Record where
  | report (mac : Vector UInt8 6) (adv : List UInt8) (rssiDb : Int)
  | deviceId (id addr : UInt64)
  | getAll
  | failed (func : Signal) (call : FailedCall)
  deriving DecidableEq

def Record.text : Record → List Char
  | .report mac adv rssiDb => formatedOutputReport mac adv rssiDb
  | .deviceId id addr => formatedOutputDeviceId id addr
  | .getAll => "-----GET_ALL-----\n".toList
  | .failed func call => printErrmsgnoarg call.str func.func

def ReceiverEvent.records : ReceiverEvent → List Record
  | .broadcast b => b.errors.map (.failed b.func)
  | .formatedOutputAck _ => []
  | .formatedOutputReport p => [.report p.mac p.adv p.rssiDb]
  | .formatedOutputDeviceId p => [.deviceId p.deviceId p.deviceAddr]
  | .getAll => [.getAll]

def ReceiverEvent.text (e : ReceiverEvent) : List Char := e.records.flatMap Record.text

def DbusEvent.text : DbusEvent → List Char
  | .unsetIter => []
  | .formatedOutputAck _ => []
  | .formatedOutputDeviceId p => CommTester.formatedOutputDeviceId p.deviceId p.deviceAddr

def SessionEvent.text : SessionEvent → List Char
  | .writeSizeIncorrect => printErrmsgnoarg "Write size incorrect\n" "send_msg"
  | .check e => e.text

/-! ## Reading back -/

theorem prefixFree_mac : PrefixFree fun mac : Vector UInt8 6 => colons mac.toList := by
  refine prefixFree_of_length (n := 17) (fun mac => ?_) fun mac mac' h => ?_
  · obtain ⟨b, bs, hmac⟩ := List.exists_cons_of_length_eq_add_one mac.length_toList
    have hlen := mac.length_toList
    rw [hmac] at hlen ⊢
    rw [length_colons, Nat.succ.inj hlen]
  · exact Vector.toList_inj.1
      (colons_inj (mac.length_toList.trans mac'.length_toList.symm) h)

theorem length_bytesOf (v : UInt64) : (bytesOf v).length = 8 := rfl

theorem prefixFree_word : PrefixFree fun v : UInt64 => colons (bytesOf v) := by
  refine prefixFree_of_length (n := 23) (fun v => length_colons _ _) fun v u h => ?_
  exact bytesOf_injective (colons_inj ((length_bytesOf v).trans (length_bytesOf u).symm) h)

theorem prefixFree_spaced : PrefixFree fun adv : List UInt8 => spaced adv ++ ['\n'] := by
  refine (prefixFree_hex.trail [' ']).list fun b => ⟨_, _, rfl, digitChar_ne ?_⟩
  have hb := b.toNat_lt
  omega

theorem prefixFree_report :
    PrefixFree fun r : Vector UInt8 6 × List UInt8 × Int =>
      formatedOutputReport r.1 r.2.1 r.2.2 := by
  have hmac := (prefixFree_mac.trail ['\n']).lead "MAC: ".toList
  have hadv := prefixFree_spaced.lead "ADV: ".toList
  have hrssi := (prefixFree_decimal.trail "db\n".toList).lead "RSSI: ".toList
  exact (hmac.append (hadv.append hrssi)).lead "-----REPORT-----\n".toList

theorem prefixFree_deviceId :
    PrefixFree fun r : UInt64 × UInt64 => formatedOutputDeviceId r.1 r.2 := by
  have hid := (prefixFree_word.trail ['\n']).lead "ID: ".toList
  have haddr := (prefixFree_word.trail ['\n']).lead "ADDR: ".toList
  exact (hid.append haddr).lead "-----DEVICE_ID-----\n".toList

theorem prefixFree_failed :
    PrefixFree fun r : FailedCall × Signal => printErrmsgnoarg r.1.str r.2.func := by
  have hcall : PrefixFree fun call : FailedCall => call.str.toList ++ " in ".toList := by
    refine prefixFree_of_prefix fun a b h => ?_
    cases a <;> cases b <;> first | rfl | exact absurd h (by decide)
  have hfunc : PrefixFree fun func : Signal => func.func.toList ++ ": ".toList := by
    refine prefixFree_of_prefix fun a b h => ?_
    cases a <;> cases b <;> first | rfl | exact absurd h (by decide)
  exact hcall.append hfunc

/-- The sixth letter, which is the first one after the dashes. -/
def Record.initial : Record → Char
  | .report _ _ _ => 'R'
  | .deviceId _ _ => 'D'
  | .getAll => 'G'
  | .failed _ .newSignal => 'g'
  | .failed _ .openContainer => ' '
  | .failed _ .appendBasic => 'f'
  | .failed _ .closeContainer => ' '
  | .failed _ .connectionSend => 'f'

theorem Record.text_initial (r : Record) : r.text[5]? = some r.initial := by
  cases r with
  | failed func call => cases call <;> rfl
  | report | deviceId | getAll => rfl

theorem prefixFree_record : PrefixFree Record.text := by
  intro a b s t h
  have hkind : a.initial = b.initial := by
    by_contra hne
    exact append_ne a.text_initial b.text_initial hne s t h
  cases a with
  | report mac adv rssiDb =>
    cases b with
    | report mac' adv' rssiDb' =>
      obtain ⟨hr, hst⟩ := prefixFree_report (mac, adv, rssiDb) (mac', adv', rssiDb') s t h
      cases hr
      exact ⟨rfl, hst⟩
    | deviceId | getAll => cases hkind
    | failed func call => cases call <;> cases hkind
  | deviceId id addr =>
    cases b with
    | deviceId id' addr' =>
      obtain ⟨hr, hst⟩ := prefixFree_deviceId (id, addr) (id', addr') s t h
      cases hr
      exact ⟨rfl, hst⟩
    | report | getAll => cases hkind
    | failed func call => cases call <;> cases hkind
  | getAll =>
    cases b with
    | getAll => exact ⟨rfl, List.append_cancel_left h⟩
    | report | deviceId => cases hkind
    | failed func call => cases call <;> cases hkind
  | failed func call =>
    cases b with
    | failed func' call' =>
      obtain ⟨hr, hst⟩ := prefixFree_failed (call, func) (call', func') s t h
      cases hr
      exact ⟨rfl, hst⟩
    | report | deviceId | getAll => cases call <;> cases hkind

theorem Record.text_ne_nil (r : Record) : r.text ≠ [] := by
  intro hnil
  have h := r.text_initial
  rw [hnil] at h
  cases h

theorem output_unambiguous (log log' : List ReceiverEvent) :
    log.flatMap ReceiverEvent.text = log'.flatMap ReceiverEvent.text ↔
      log.flatMap ReceiverEvent.records = log'.flatMap ReceiverEvent.records := by
  have h : ∀ log : List ReceiverEvent, log.flatMap ReceiverEvent.text =
      (log.flatMap ReceiverEvent.records).flatMap Record.text := fun log =>
    (List.flatMap_assoc ..).symm
  rw [h log, h log']
  exact (flatMap_injective prefixFree_record Record.text_ne_nil).eq_iff

end CommTester
