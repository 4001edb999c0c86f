/-
  NUL-terminated strings and the number `atoi` reads from one.

  `read` gives the characters up to the terminator and nothing past it. `atoi` is
  `(int)strtol(s, NULL, 10)` with a 64-bit `long`: blanks, a sign, digits; a number that a
  `long` does not hold is clamped, and the cast keeps the low 32 bits. On the numbers that an
  `int` holds it is `value`, the number as it is written (`toInt_atoi`).
-/
import Mathlib.Algebra.Group.Int.Defs
import Mathlib.Algebra.Group.Nat.Defs
import Mathlib.Data.List.Basic

/-- A string and its terminator; no character before it is NUL. -/
structure CString where
  chars : List Char
  no_nul : '\x00' ∉ chars
  deriving DecidableEq

namespace CString

/-- The characters before the first NUL. -/
def ofChars (l : List Char) : CString where
  chars := l.takeWhile (· ≠ '\x00')
  no_nul h := by simpa using List.all_eq_true.1 List.all_takeWhile _ h

/-- The character at `i`; the terminator is the last one there is. -/
def read (s : CString) (i : Nat) : Option Char := (s.chars ++ ['\x00'])[i]?

/-- `isspace` in the C locale. -/
def isSpace (c : Char) : Bool := c ∈ [' ', '\t', '\n', '\x0b', '\x0c', '\r']

/-- The number that the digits in front spell. -/
def digits (l : List Char) : Nat :=
  (l.takeWhile Char.isDigit).foldl (fun n c => 10 * n + (c.toNat - '0'.toNat)) 0

/-- The number in front of the string. -/
def value (s : CString) : Int :=
  match s.chars.dropWhile isSpace with
  | '-' :: l => -(digits l)
  | '+' :: l => digits l
  | l => digits l

/-- `strtol(s, NULL, 10)`. -/
def strtol (s : CString) : Int := max (-2 ^ 63) (min s.value (2 ^ 63 - 1))

def atoi (s : CString) : Int32 := Int32.ofInt s.strtol

theorem exists_read_zero (s : CString) : ∃ c, s.read 0 = some c := by
  refine ⟨_, List.getElem?_eq_getElem ?_⟩
  simp

/-- After a character other than the terminator there is one more. -/
theorem exists_read_succ {s : CString} {i : Nat} {c : Char} (h : s.read i = some c)
    (hc : c ≠ '\x00') : ∃ d, s.read (i + 1) = some d := by
  obtain ⟨hi, he⟩ := List.getElem?_eq_some_iff.1 h
  rw [List.length_append, List.length_singleton] at hi
  rcases Nat.lt_or_ge i s.chars.length with hlt | hge
  · exact ⟨_, List.getElem?_eq_getElem (by simpa using hlt)⟩
  · obtain rfl : i = s.chars.length := by omega
    exact absurd (by simpa using he.symm) hc

/-- What `atoi` is for: the numbers that fit. -/
theorem toInt_atoi {s : CString} (hlo : -2 ^ 31 ≤ s.value) (hhi : s.value < 2 ^ 31) :
    s.atoi.toInt = s.value := by
  have hs : s.strtol = s.value := by
    rw [strtol]
    omega
  rw [atoi, hs]
  exact Int32.toInt_ofInt_of_le hlo hhi

end CString
