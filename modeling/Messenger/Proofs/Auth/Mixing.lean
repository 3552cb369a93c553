import Mathlib.Algebra.Ring.Parity
import Mathlib.Data.Nat.Digits.Defs
import Messenger.Auth.CryptHash
import Messenger.Proofs.Text.Utf8

/-!
The salted scheme as it is published, over lists of bytes and in closed form. The pieces of sixteen
bytes and the walk over the length's bits come to a repeated digest and to the binary digits, so
the text is the scheme's, and no byte is asked for that is not there.
-/

namespace Messenger.Auth.CryptHash

open Text (Bytes packed utf8 packed_append packed_nil size_packed)
open Digest (md5)

/-- The bytes of a digest over and over, as many as the count says. -/
def repeated (digest : Vector UInt8 16) (count : Nat) : Bytes :=
  (List.range count).map fun index => digest[index % 16]

/-- A byte for each binary digit of the number, the lowest first; a zero asks for the first byte of
the password. -/
def digitBytes? (password : Bytes) (number : Nat) : Option Bytes :=
  (Nat.digits 2 number).mapM fun digit => if digit = 1 then some 0 else password[0]?

def firstInput (password salt digits : Bytes) : Bytes :=
  password ++ utf8 "$1$" ++ salt ++
    repeated (md5 (packed (password ++ salt ++ password))) password.length ++ digits

def roundInput (password salt digest : Bytes) (round : Nat) : Bytes :=
  (if Odd round then password else digest) ++ (if 3 ∣ round then [] else salt) ++
    (if 7 ∣ round then [] else password) ++ (if Odd round then digest else password)

/-- The digest after so many rounds. -/
def digestAfter (password salt digits : Bytes) : Nat → Vector UInt8 16
  | 0 => md5 (packed (firstInput password salt digits))
  | round + 1 =>
      md5 (packed (roundInput password salt (digestAfter password salt digits round).toList round))

/-- What is repeated begins with one piece of the loop. -/
theorem repeated_eq (digest : Vector UInt8 16) (count : Nat) :
    repeated digest count =
      digest.toList.take (min count 16) ++ repeated digest (count - min count 16) := by
  apply List.ext_getElem
  · simp only [repeated, List.length_map, List.length_range, List.length_append, List.length_take,
      Vector.length_toList]
    omega
  · intro index hleft hright
    simp only [repeated, List.length_map, List.length_range] at hleft
    by_cases hindex : index < min count 16
    · rw [List.getElem_append_left (by simpa using hindex)]
      have hmod : index % 16 = index := by omega
      simp [repeated, hmod]
    · have hmod : (index - min count 16) % 16 = index % 16 := by omega
      rw [List.getElem_append_right (by simp; omega)]
      simp [repeated, hmod]

theorem stretch_eq (digest : Vector UInt8 16) (message : ByteArray) (remaining : Nat) :
    stretch digest message remaining = message ++ packed (repeated digest remaining) := by
  fun_induction stretch digest message remaining with
  | case1 message =>
      rw [repeated, List.range_zero, List.map_nil, packed_nil, ByteArray.append_empty]
  | case2 message remaining hpos size induction =>
      rw [induction, ByteArray.append_assoc, ← packed_append, ← repeated_eq]

/-- Whenever a digit is left the password has a first byte, since its length is no less than the
number the digit is of. -/
theorem markDigits_eq (password : Bytes) (message : ByteArray) (number : Nat)
    (hnumber : number ≤ (packed password).size) :
    ∃ digits, digitBytes? password number = some digits ∧
      markDigits (packed password) message number hnumber = message ++ packed digits := by
  fun_induction markDigits (packed password) message number hnumber with
  | case1 message =>
      exact ⟨[], by simp [digitBytes?], by rw [packed_nil, ByteArray.append_empty]⟩
  | case2 message number hnumber hpos byte induction =>
      obtain ⟨digits, hdigits, hmark⟩ := induction
      have hpassword : 0 < password.length := by
        rw [size_packed] at hnumber
        omega
      have hbyte : (if number % 2 = 1 then some 0 else password[0]?) = some byte := by
        by_cases hone : number % 2 = 1
        · simp [byte, hone]
        · simp [byte, hone, packed, ByteArray.getElem_eq_getElem_data, hpassword]
      refine ⟨byte :: digits, ?_, ?_⟩
      · rw [digitBytes?, Nat.digits_def' (by decide) (Nat.pos_of_ne_zero hpos), List.mapM_cons,
          hbyte, ← digitBytes?, hdigits]
        rfl
      · rw [hmark, Text.push_eq_append, ByteArray.append_assoc, ← packed_append]
        rfl

theorem packed_toList (digest : Vector UInt8 16) : packed digest.toList = ⟨digest.toArray⟩ := by
  simp [packed, Vector.toList]

theorem roundBytes_eq (password salt : Bytes) (digest : Vector UInt8 16) (round : Nat) :
    roundBytes (packed password) (packed salt) digest round =
      packed (roundInput password salt digest.toList round) := by
  have hodd : Odd round ↔ round % 2 = 1 := Nat.odd_iff
  have hthree : 3 ∣ round ↔ round % 3 = 0 := Nat.dvd_iff_mod_eq_zero
  have hseven : 7 ∣ round ↔ round % 7 = 0 := Nat.dvd_iff_mod_eq_zero
  simp only [roundBytes, roundInput, packed_append, hodd, hthree, hseven, apply_ite packed,
    packed_toList]
  rfl

theorem foldl_rounds (password salt digits : Bytes) (count : Nat) :
    (List.range count).foldl
        (fun digest round => md5 (roundBytes (packed password) (packed salt) digest round))
        (md5 (packed (firstInput password salt digits))) =
      digestAfter password salt digits count := by
  induction count with
  | zero => rfl
  | succ count induction =>
      rw [List.range_succ, List.foldl_append, induction, List.foldl_cons, List.foldl_nil,
        roundBytes_eq, digestAfter]

/-- The first eight bytes of a salt before its first dollar sign. -/
def saltStart (salt : String) : Bytes :=
  ((utf8 salt).takeWhile (· != 0x24)).take 8

theorem saltStart_eq (salt : String) :
    saltStart salt = ((saltChars salt).flatMap String.utf8EncodeChar).take 8 := by
  have hbefore := Text.takeWhile_utf8EncodeChar '$' (by decide) salt.toList
  rw [saltStart, Text.utf8_eq_flatMap, saltChars, ← hbefore]
  rfl

theorem saltBytes_eq (salt : String) : saltBytes salt = packed (saltStart salt) := by
  have hbytes := Text.utf8_eq_flatMap (String.ofList (saltChars salt))
  rw [String.toList_ofList] at hbytes
  rw [saltStart_eq, ← hbytes, saltBytes, utf8]
  generalize (String.ofList (saltChars salt)).toUTF8 = bytes
  apply ByteArray.ext
  simp [packed, ← Array.toList_inj, List.extract]

theorem shows_cutChars (size : Nat) (characters : List Char) :
    Text.Shows ((characters.flatMap String.utf8EncodeChar).take size) (cutChars size characters) := by
  fun_induction cutChars size characters with
  | case1 size =>
      rw [List.flatMap_nil, List.take_nil]
      exact Text.Shows.nil
  | case2 character rest => exact Text.Shows.nil
  | case3 size character rest hfits induction =>
      rw [List.flatMap_cons, List.take_append, List.take_of_length_le (by simpa using hfits),
        String.length_utf8EncodeChar]
      exact induction.cons character
  | case4 size character rest hcut =>
      have hlength := String.length_utf8EncodeChar character
      rw [List.flatMap_cons, List.take_append_of_le_length (by omega)]
      refine Text.Shows.cut (List.take_append_drop (size + 1) _) ?_ ?_
      · rw [ne_eq, List.take_eq_nil_iff, not_or]
        exact ⟨Nat.succ_ne_zero size, Text.utf8EncodeChar_ne_nil character⟩
      · rw [ne_eq, List.drop_eq_nil_iff]
        omega

theorem shows_saltStart_iff (salt : String) (shown : List Char) :
    Text.Shows (saltStart salt) shown ↔ shown = saltText salt := by
  have hshows : Text.Shows (saltStart salt) (saltText salt) := by
    rw [saltStart_eq]
    exact shows_cutChars 8 (saltChars salt)
  constructor
  · exact fun h => h.unique hshows
  · rintro rfl
    exact hshows

theorem firstMessage_eq (password salt : Bytes) :
    ∃ digits, digitBytes? password password.length = some digits ∧
      firstMessage (packed password) (packed salt) = packed (firstInput password salt digits) := by
  let other := md5 (packed password ++ packed salt ++ packed password)
  let opening := packed password ++ mark.toUTF8 ++ packed salt
  obtain ⟨digits, hdigits, hmark⟩ := markDigits_eq password
    (stretch other opening password.length) password.length (size_packed password).ge
  refine ⟨digits, hdigits, ?_⟩
  have hother : other = md5 (packed (password ++ salt ++ password)) := by
    rw [packed_append, packed_append]
  have hopening : opening = packed (password ++ utf8 "$1$" ++ salt) := by
    rw [packed_append, packed_append]
    rfl
  calc firstMessage (packed password) (packed salt)
      = stretch other opening password.length ++ packed digits := hmark
    _ = packed (firstInput password salt digits) := by
        rw [stretch_eq, hopening, hother, ← packed_append, ← packed_append]
        rfl

theorem length_symbols (count value : Nat) : (symbols count value).length = count := by
  induction count generalizing value with
  | zero => rfl
  | succ count induction => exact congrArg (· + 1) (induction (value / 64))

theorem length_digestSymbols (digest : Vector UInt8 16) : (digestSymbols digest).length = 22 := by
  simp [digestSymbols, triples, length_symbols]

/-- The text is that of the published scheme for every password, the empty one too, and every
salt: the first digest, a thousand rounds, the salt as it shows and twenty-two symbols. -/
theorem text_eq_published (password : Bytes) (salt : String) :
    ∃ digits shown,
      digitBytes? password password.length = some digits ∧
      (∀ other, Text.Shows (saltStart salt) other ↔ other = shown) ∧
      text (packed password) salt =
        "$1$" ++ String.ofList shown ++ "$" ++
          String.ofList (digestSymbols (digestAfter password (saltStart salt) digits 1000)) ∧
      (digestSymbols (digestAfter password (saltStart salt) digits 1000)).length = 22 := by
  obtain ⟨digits, hdigits, hfirst⟩ := firstMessage_eq password (saltStart salt)
  have hfinal : finalDigest (packed password) (saltBytes salt) =
      digestAfter password (saltStart salt) digits 1000 := by
    rw [finalDigest, saltBytes_eq, hfirst, foldl_rounds]
  refine ⟨digits, saltText salt, hdigits, shows_saltStart_iff salt, ?_, length_digestSymbols _⟩
  rw [text, hfinal, mark]
  apply String.toList_inj.mp
  simp

end Messenger.Auth.CryptHash
