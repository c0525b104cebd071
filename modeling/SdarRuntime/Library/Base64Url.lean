import Mathlib.Data.List.Nodup

/-!
Base64 with the alphabet for URLs and without padding. Decoding passes over characters outside
the alphabet and takes those of the plain alphabet as well.
-/

namespace Base64Url

/-- The six-bit groups of bytes, in order; the last group is filled with zeros. -/
def sextets : List UInt8 → List Nat
  | [] => []
  | [first] => [first.toNat / 4, first.toNat % 4 * 16]
  | [first, second] =>
    [first.toNat / 4, first.toNat % 4 * 16 + second.toNat / 16, second.toNat % 16 * 4]
  | first :: second :: third :: rest =>
    first.toNat / 4 :: (first.toNat % 4 * 16 + second.toNat / 16) ::
      (second.toNat % 16 * 4 + third.toNat / 64) :: third.toNat % 64 :: sextets rest

/-- The bytes of six-bit groups; bits that fill no byte are dropped. -/
def octets : List Nat → List UInt8
  | [] => []
  | [_] => []
  | [first, second] => [UInt8.ofNat (first * 4 + second / 16)]
  | [first, second, third] =>
    [UInt8.ofNat (first * 4 + second / 16), UInt8.ofNat (second % 16 * 16 + third / 4)]
  | first :: second :: third :: fourth :: rest =>
    UInt8.ofNat (first * 4 + second / 16) :: UInt8.ofNat (second % 16 * 16 + third / 4) ::
      UInt8.ofNat (third % 4 * 64 + fourth) :: octets rest

def alphabet : List Char :=
  "ABCDEFGHIJKLMNOPQRSTUVWXYZabcdefghijklmnopqrstuvwxyz0123456789-_".toList

def digit (sextet : Nat) : Char := alphabet.getD sextet 'A'

def value? (char : Char) : Option Nat :=
  if char = '+' then some 62
  else if char = '/' then some 63
  else alphabet.findIdx? (· = char)

def encode (bytes : List UInt8) : String :=
  String.ofList ((sextets bytes).map digit)

def decode (text : String) : List UInt8 :=
  octets (text.toList.filterMap value?)

theorem sextets_lt (bytes : List UInt8) : ∀ sextet, sextet ∈ sextets bytes → sextet < 64 := by
  induction bytes using sextets.induct with
  | case1 => simp [sextets]
  | case2 first =>
    have bound := first.toNat_lt
    intro sextet member
    simp only [sextets, List.mem_cons, List.not_mem_nil, or_false] at member
    omega
  | case3 first second =>
    have bound := first.toNat_lt
    have bound' := second.toNat_lt
    intro sextet member
    simp only [sextets, List.mem_cons, List.not_mem_nil, or_false] at member
    omega
  | case4 first second third rest ih =>
    have bound := first.toNat_lt
    have bound' := second.toNat_lt
    have bound'' := third.toNat_lt
    intro sextet member
    simp only [sextets, List.mem_cons] at member
    rcases member with isFirst | isSecond | isThird | isFourth | later
    · omega
    · omega
    · omega
    · omega
    · exact ih sextet later

theorem length_sextets (bytes : List UInt8) :
    (sextets bytes).length = (4 * bytes.length + 2) / 3 := by
  induction bytes using sextets.induct with
  | case1 => rfl
  | case2 first => simp [sextets]
  | case3 first second => simp [sextets]
  | case4 first second third rest ih =>
    simp only [sextets, List.length_cons, ih]
    omega

theorem length_encode (bytes : List UInt8) :
    (encode bytes).toList.length = (4 * bytes.length + 2) / 3 := by
  rw [encode, String.toList_ofList, List.length_map, length_sextets]

def letters : List Char := [
    'A', 'B', 'C', 'D', 'E', 'F', 'G', 'H', 'I', 'J', 'K', 'L', 'M', 'N', 'O', 'P', 'Q', 'R', 'S',
    'T', 'U', 'V', 'W', 'X', 'Y', 'Z', 'a', 'b', 'c', 'd', 'e', 'f', 'g', 'h', 'i', 'j', 'k', 'l',
    'm', 'n', 'o', 'p', 'q', 'r', 's', 't', 'u', 'v', 'w', 'x', 'y', 'z', '0', '1', '2', '3', '4',
    '5', '6', '7', '8', '9', '-', '_']

theorem alphabet_eq : alphabet = letters :=
  String.toList_ofList

theorem length_alphabet : alphabet.length = 64 := by
  rw [alphabet_eq]
  rfl

theorem nodup_alphabet : alphabet.Nodup := by
  apply List.Nodup.of_map Char.toNat
  rw [alphabet_eq]
  decide

/-- Decoding without the strings, which are slow to evaluate. -/
theorem decode_ofList (characters : List Char) :
    decode (String.ofList characters) = octets (characters.filterMap fun char =>
      if char = '+' then some 62
      else if char = '/' then some 63
      else letters.findIdx? (· = char)) := by
  rw [decode, String.toList_ofList, ← alphabet_eq]
  rfl

theorem digit_eq {sextet : Nat} (bound : sextet < 64) :
    ∃ inBounds : sextet < alphabet.length, digit sextet = alphabet[sextet] := by
  have inBounds : sextet < alphabet.length := by
    rw [length_alphabet]
    exact bound
  refine ⟨inBounds, ?_⟩
  rw [digit, List.getD_eq_getElem?_getD, List.getElem?_eq_getElem inBounds, Option.getD_some]

/-- What `encode` writes is written in the alphabet. -/
theorem mem_encode {bytes : List UInt8} {char : Char} (written : char ∈ (encode bytes).toList) :
    char ∈ alphabet := by
  rw [encode, String.toList_ofList, List.mem_map] at written
  obtain ⟨sextet, member, isChar⟩ := written
  obtain ⟨inBounds, isDigit⟩ := digit_eq (sextets_lt bytes sextet member)
  rw [← isChar, isDigit]
  exact List.getElem_mem inBounds

private theorem byte_eq {byte : UInt8} {number : Nat} (same : number = byte.toNat) :
    UInt8.ofNat number = byte := by
  rw [same]
  exact UInt8.ofNat_toNat

theorem octets_sextets (bytes : List UInt8) : octets (sextets bytes) = bytes := by
  induction bytes using sextets.induct with
  | case1 => rfl
  | case2 first =>
    simp only [sextets, octets, List.cons.injEq, and_true]
    exact byte_eq (by omega)
  | case3 first second =>
    have bound := second.toNat_lt
    simp only [sextets, octets, List.cons.injEq, and_true]
    constructor
    · exact byte_eq (by omega)
    · exact byte_eq (by omega)
  | case4 first second third rest ih =>
    have bound := second.toNat_lt
    have bound' := third.toNat_lt
    simp only [sextets, octets, ih, List.cons.injEq, and_true]
    refine ⟨?_, ?_, ?_⟩
    · exact byte_eq (by omega)
    · exact byte_eq (by omega)
    · exact byte_eq (by omega)

theorem value?_digit {sextet : Nat} (bound : sextet < 64) : value? (digit sextet) = some sextet := by
  obtain ⟨inBounds, isDigit⟩ := digit_eq bound
  have notPlain : '+' ∉ alphabet ∧ '/' ∉ alphabet := by
    rw [alphabet_eq]
    decide
  have member := List.getElem_mem inBounds
  have notPlus : alphabet[sextet] ≠ '+' := by
    intro same
    exact notPlain.1 (same ▸ member)
  have notSlash : alphabet[sextet] ≠ '/' := by
    intro same
    exact notPlain.2 (same ▸ member)
  rw [isDigit, value?, if_neg notPlus, if_neg notSlash, List.findIdx?_eq_some_iff_getElem]
  refine ⟨inBounds, decide_eq_true rfl, ?_⟩
  intro earlier before same
  have indices := nodup_alphabet.getElem_inj_iff.mp (of_decide_eq_true same)
  omega

theorem decode_encode (bytes : List UInt8) : decode (encode bytes) = bytes := by
  have values : ((sextets bytes).map digit).filterMap value? = sextets bytes := by
    have all := sextets_lt bytes
    generalize sextets bytes = digits at all
    induction digits with
    | nil => rfl
    | cons head tail ih =>
      have bound := all head List.mem_cons_self
      rw [List.map_cons, List.filterMap_cons_some (value?_digit bound),
        ih fun sextet member => all sextet (List.mem_cons_of_mem head member)]
  rw [decode, encode, String.toList_ofList, values, octets_sextets]

theorem encode_eq_empty {bytes : List UInt8} (empty : encode bytes = "") : bytes = [] := by
  have decoded := decode_encode bytes
  rw [empty] at decoded
  exact decoded.symm

end Base64Url
