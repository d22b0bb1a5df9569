import Mathlib.Algebra.Group.Nat.Defs
import Mathlib.Algebra.GroupWithZero.Nat
import Mathlib.Data.Fin.Basic
import Mathlib.Data.List.Basic
import Mathlib.Data.Nat.Basic
import Mathlib.Tactic.Common

/-!
The byte strings handed to a hash function: UTF-8 text and fixed-width
little-endian numbers, and the lowercase hexadecimal text of a byte string.
-/

namespace Datasynth.Lib.ByteEncoding

abbrev Byte := Fin 256

instance neZero_byteCount : NeZero 256 := ⟨by decide⟩

def utf8Bytes (s : String) : List Byte :=
  (s.toList.flatMap String.utf8EncodeChar).map UInt8.toFin

def leBytes : ℕ → ℕ → List Byte
  | 0, _ => []
  | width + 1, n => Fin.ofNat 256 n :: leBytes width (n / 256)

def hexDigit (n : ℕ) : Char := "0123456789abcdef".toList.getD n '0'

def hexEncode (bytes : List Byte) : List Char :=
  bytes.flatMap fun b => [hexDigit (b.val / 16), hexDigit (b.val % 16)]

/-- The value of a hexadecimal digit of either case. -/
def hexValue? (c : Char) : Option ℕ :=
  if '0' ≤ c ∧ c ≤ '9' then some (c.toNat - '0'.toNat)
  else if 'a' ≤ c ∧ c ≤ 'f' then some (c.toNat - 'a'.toNat + 10)
  else if 'A' ≤ c ∧ c ≤ 'F' then some (c.toNat - 'A'.toNat + 10)
  else none

def hexDecode : List Char → Option (List Byte)
  | [] => some []
  | [_] => none
  | c :: c' :: rest =>
      (hexValue? c).bind fun high =>
        (hexValue? c').bind fun low =>
          (hexDecode rest).map fun bytes => Fin.ofNat 256 (16 * high + low) :: bytes

theorem hexValue?_hexDigit : ∀ n < 16, hexValue? (hexDigit n) = some n := by decide

theorem hexDecode_hexEncode (bytes : List Byte) : hexDecode (hexEncode bytes) = some bytes := by
  induction bytes with
  | nil => rfl
  | cons b bytes ih =>
      have hb := b.isLt
      have hbyte : Fin.ofNat 256 (16 * (b.val / 16) + b.val % 16) = b := by
        rw [Nat.div_add_mod]
        exact Fin.ofNat_val_eq_self b
      rw [hexEncode, List.flatMap_cons, ← hexEncode, List.cons_append, List.cons_append,
        List.nil_append, hexDecode, hexValue?_hexDigit _ (by omega),
        hexValue?_hexDigit _ (by omega), ih]
      exact congrArg (fun b' => some (b' :: bytes)) hbyte

theorem utf8Bytes_append (s t : String) : utf8Bytes (s ++ t) = utf8Bytes s ++ utf8Bytes t := by
  rw [utf8Bytes, String.toList_append, List.flatMap_append, List.map_append]
  rfl

theorem utf8Bytes_injective : Function.Injective utf8Bytes := by
  intro s t h
  have hbytes : s.toList.flatMap String.utf8EncodeChar = t.toList.flatMap String.utf8EncodeChar :=
    List.map_injective_iff.mpr (fun _ _ hb => UInt8.toFin_inj.mp hb) h
  have hencode : s.toList.utf8Encode = t.toList.utf8Encode :=
    congrArg List.toByteArray hbytes
  rw [String.utf8Encode_toList, String.utf8Encode_toList] at hencode
  exact String.toByteArray_inj.mp hencode

theorem leBytes_length (width n : ℕ) : (leBytes width n).length = width := by
  induction width generalizing n with
  | zero => rfl
  | succ width ih => rw [leBytes, List.length_cons, ih]

theorem leBytes_injOn (width : ℕ) {m n : ℕ} (hm : m < 256 ^ width) (hn : n < 256 ^ width)
    (h : leBytes width m = leBytes width n) : m = n := by
  induction width generalizing m n with
  | zero =>
      rw [Nat.pow_zero] at hm hn
      omega
  | succ width ih =>
      obtain ⟨hlow, hrest⟩ := List.cons.inj h
      have hmod : m % 256 = n % 256 := congrArg Fin.val hlow
      have hdiv : m / 256 = n / 256 := by
        apply ih _ _ hrest
        · exact Nat.div_lt_of_lt_mul (by rw [Nat.pow_succ] at hm; omega)
        · exact Nat.div_lt_of_lt_mul (by rw [Nat.pow_succ] at hn; omega)
      omega

end Datasynth.Lib.ByteEncoding

/-!
The characters of texts that are given literally, piece by piece: the characters of a literal are
read off by `String.toList_ofList`, without a decoding of its bytes.
-/

namespace Datasynth.Lib.LiteralTexts

theorem toList_append_eq {s t : String} {chars chars' : List Char} (hs : s.toList = chars)
    (ht : t.toList = chars') : (s ++ t).toList = chars ++ chars' := by
  rw [String.toList_append, hs, ht]

theorem map_toList_cons {s : String} {chars : List Char} {texts : List String}
    {rest : List (List Char)} (hs : s.toList = chars) (hrest : texts.map String.toList = rest) :
    (s :: texts).map String.toList = chars :: rest := by
  rw [List.map_cons, hs, hrest]

/-- What holds of the characters of one literal. -/
theorem all_toList {p : Char → Bool} {s : String} {chars : List Char} (hs : s.toList = chars)
    (h : chars.all p = true) : ∀ c ∈ s.toList, p c = true :=
  List.all_eq_true.mp (hs ▸ h)

/-- What holds of the characters of each of several literals. -/
theorem forall_mem_toList (p : List Char → Bool) {texts : List String} {chars : List (List Char)}
    (htexts : texts.map String.toList = chars) (h : chars.all p = true) :
    ∀ text ∈ texts, p text.toList = true := by
  intro text htext
  exact List.all_eq_true.mp h _ (htexts ▸ List.mem_map_of_mem htext)

end Datasynth.Lib.LiteralTexts
