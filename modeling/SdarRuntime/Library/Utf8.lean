import Mathlib.Data.Char
import Mathlib.Data.List.Basic

/-!
UTF-8 as programs in JavaScript read and write it. Reading takes any bytes: what is no
character becomes the replacement character. What is written is read back.
-/

namespace Utf8

def encodeChar (char : Char) : List UInt8 :=
  let code := char.toNat
  if code < 0x80 then [.ofNat code]
  else if code < 0x800 then [.ofNat (0xC0 + code / 64), .ofNat (0x80 + code % 64)]
  else if code < 0x10000 then
    [.ofNat (0xE0 + code / 4096), .ofNat (0x80 + code / 64 % 64), .ofNat (0x80 + code % 64)]
  else
    [.ofNat (0xF0 + code / 262144), .ofNat (0x80 + code / 4096 % 64),
      .ofNat (0x80 + code / 64 % 64), .ofNat (0x80 + code % 64)]

def encode (text : List Char) : List UInt8 := text.flatMap encodeChar

/-- A character that has begun: how many bytes are missing, where the next one must lie, and
what the bytes so far stand for. -/
structure Pending where
  missing : Nat
  low : Nat
  high : Nat
  code : Nat

def replacement : Char := Char.ofNat 0xFFFD

def begin? (byte : Nat) : Option Pending :=
  if 0xC2 ≤ byte ∧ byte ≤ 0xDF then
    some { missing := 1, low := 0x80, high := 0xBF, code := byte - 0xC0 }
  else if 0xE0 ≤ byte ∧ byte ≤ 0xEF then
    some {
      missing := 2
      low := if byte = 0xE0 then 0xA0 else 0x80
      high := if byte = 0xED then 0x9F else 0xBF
      code := byte - 0xE0 }
  else if 0xF0 ≤ byte ∧ byte ≤ 0xF4 then
    some {
      missing := 3
      low := if byte = 0xF0 then 0x90 else 0x80
      high := if byte = 0xF4 then 0x8F else 0xBF
      code := byte - 0xF0 }
  else none

def Pending.extend (pending : Pending) (byte : Nat) : Pending where
  missing := pending.missing - 1
  low := 0x80
  high := 0xBF
  code := pending.code * 64 + (byte - 0x80)

/-- Read on, with a character under way. A byte that does not continue it ends it as a
replacement and is read as a first byte. -/
def decodeFrom : Option Pending → List UInt8 → List Char
  | none, [] => []
  | some _, [] => [replacement]
  | pending, byte :: rest =>
    let value := byte.toNat
    let continues := pending.filter fun pending => pending.low ≤ value ∧ value ≤ pending.high
    match continues with
    | some pending =>
      if pending.missing = 1 then
        Char.ofNat (pending.extend value).code :: decodeFrom none rest
      else decodeFrom (some (pending.extend value)) rest
    | none =>
      (pending.map fun _ => replacement).toList ++
        if value < 0x80 then Char.ofNat value :: decodeFrom none rest
        else
          match begin? value with
          | some begun => decodeFrom (some begun) rest
          | none => replacement :: decodeFrom none rest

def decode (bytes : List UInt8) : List Char := decodeFrom none bytes

variable {pending : Pending} {byte : UInt8} {rest : List UInt8}

theorem decodeFrom_extend (low : pending.low ≤ byte.toNat) (high : byte.toNat ≤ pending.high)
    (more : pending.missing ≠ 1) :
    decodeFrom (some pending) (byte :: rest) =
      decodeFrom (some (pending.extend byte.toNat)) rest := by
  simp [decodeFrom, Option.filter, low, high, more]

theorem decodeFrom_last (low : pending.low ≤ byte.toNat) (high : byte.toNat ≤ pending.high)
    (last : pending.missing = 1) :
    decodeFrom (some pending) (byte :: rest) =
      Char.ofNat (pending.extend byte.toNat).code :: decodeFrom none rest := by
  simp [decodeFrom, Option.filter, low, high, last]

theorem decodeFrom_single (small : byte.toNat < 0x80) :
    decodeFrom none (byte :: rest) = Char.ofNat byte.toNat :: decodeFrom none rest := by
  simp [decodeFrom, small]

theorem decodeFrom_begin (begun : Pending) (large : 0x80 ≤ byte.toNat)
    (begins : begin? byte.toNat = some begun) :
    decodeFrom none (byte :: rest) = decodeFrom (some begun) rest := by
  simp [decodeFrom, begins, Nat.not_lt.mpr large]

private theorem toNat_byte (number : Nat) (bound : number < 256) :
    (UInt8.ofNat number).toNat = number := by
  rw [UInt8.toNat_ofNat']
  exact Nat.mod_eq_of_lt bound

private theorem code_bounds (char : Char) :
    char.toNat < 0xD800 ∨ (0xDFFF < char.toNat ∧ char.toNat < 0x110000) :=
  char.valid

theorem decodeFrom_encodeChar (char : Char) (rest : List UInt8) :
    decodeFrom none (encodeChar char ++ rest) = char :: decodeFrom none rest := by
  have valid := code_bounds char
  have same : Char.ofNat char.toNat = char := Char.ofNat_toNat char
  generalize isCode : char.toNat = code at valid same
  unfold encodeChar
  rw [isCode]
  by_cases one : code < 0x80
  · rw [if_pos one, List.singleton_append, decodeFrom_single]
    · rw [toNat_byte code (by omega), same]
    · rw [toNat_byte code (by omega)]
      exact one
  rw [if_neg one]
  by_cases two : code < 0x800
  · have first := toNat_byte (0xC0 + code / 64) (by omega)
    have second := toNat_byte (0x80 + code % 64) (by omega)
    rw [if_pos two, List.cons_append, List.singleton_append]
    rw [decodeFrom_begin { missing := 1, low := 0x80, high := 0xBF, code := code / 64 }]
    · rw [decodeFrom_last (by rw [second]; simp) (by rw [second]; simp; omega) rfl, second]
      have whole : code / 64 * 64 + (0x80 + code % 64 - 0x80) = code := by omega
      simp only [Pending.extend, whole, same]
    · rw [first]
      omega
    · rw [first, begin?, if_pos (by omega)]
      simp
  rw [if_neg two]
  by_cases three : code < 0x10000
  · have first := toNat_byte (0xE0 + code / 4096) (by omega)
    have second := toNat_byte (0x80 + code / 64 % 64) (by omega)
    have third := toNat_byte (0x80 + code % 64) (by omega)
    rw [if_pos three, List.cons_append, List.cons_append, List.singleton_append]
    rw [decodeFrom_begin {
      missing := 2
      low := if 0xE0 + code / 4096 = 0xE0 then 0xA0 else 0x80
      high := if 0xE0 + code / 4096 = 0xED then 0x9F else 0xBF
      code := code / 4096 }]
    · rw [decodeFrom_extend, decodeFrom_last, second, third]
      · have whole : (code / 4096 * 64 + (0x80 + code / 64 % 64 - 0x80)) * 64 +
            (0x80 + code % 64 - 0x80) = code := by
          omega
        simp only [Pending.extend, whole, same]
      · rw [third]
        dsimp only [Pending.extend]
        omega
      · rw [third]
        dsimp only [Pending.extend]
        omega
      · rfl
      · rw [second]
        dsimp only
        split
        · omega
        · omega
      · rw [second]
        dsimp only
        split
        · omega
        · omega
      · simp
    · rw [first]
      omega
    · rw [first, begin?, if_neg (by omega), if_pos (by omega)]
      simp
  · have first := toNat_byte (0xF0 + code / 262144) (by omega)
    have second := toNat_byte (0x80 + code / 4096 % 64) (by omega)
    have third := toNat_byte (0x80 + code / 64 % 64) (by omega)
    have fourth := toNat_byte (0x80 + code % 64) (by omega)
    rw [if_neg three, List.cons_append, List.cons_append, List.cons_append,
      List.singleton_append]
    rw [decodeFrom_begin {
      missing := 3
      low := if 0xF0 + code / 262144 = 0xF0 then 0x90 else 0x80
      high := if 0xF0 + code / 262144 = 0xF4 then 0x8F else 0xBF
      code := code / 262144 }]
    · rw [decodeFrom_extend, decodeFrom_extend, decodeFrom_last, second, third, fourth]
      · have whole : ((code / 262144 * 64 + (0x80 + code / 4096 % 64 - 0x80)) * 64 +
            (0x80 + code / 64 % 64 - 0x80)) * 64 + (0x80 + code % 64 - 0x80) = code := by
          omega
        simp only [Pending.extend, whole, same]
      · rw [fourth]
        dsimp only [Pending.extend]
        omega
      · rw [fourth]
        dsimp only [Pending.extend]
        omega
      · rfl
      · rw [third]
        dsimp only [Pending.extend]
        omega
      · rw [third]
        dsimp only [Pending.extend]
        omega
      · simp [Pending.extend]
      · rw [second]
        dsimp only
        split
        · omega
        · omega
      · rw [second]
        dsimp only
        split
        · omega
        · omega
      · simp
    · rw [first]
      omega
    · rw [first, begin?, if_neg (by omega), if_neg (by omega), if_pos (by omega)]
      simp

theorem decode_encode (text : List Char) : decode (encode text) = text := by
  unfold decode encode
  induction text with
  | nil => rfl
  | cons char rest ih => rw [List.flatMap_cons, decodeFrom_encodeChar, ih]

end Utf8
