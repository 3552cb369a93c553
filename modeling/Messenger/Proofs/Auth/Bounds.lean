import Messenger.Auth.Challenge
import Messenger.Proofs.Auth.Mixing

/-!
Answers computed by partial operations: a place may be missing, a piece may be longer than what it
is cut from, a remainder may be by zero. None of that happens, whatever the challenge, the username
and the password, and what comes out is the answer. Only an empty challenge has none.
-/

namespace Messenger.Auth

open Text (Bytes packed utf8)
open Digest (md5 sha256)

/-! Partial operations. A look-up is one already. -/

def remainder? (value modulus : Nat) : Option Nat :=
  if modulus = 0 then none else some (value % modulus)

def front? {α : Type} (count : Nat) (values : List α) : Option (List α) :=
  if count ≤ values.length then some (values.take count) else none

/-- Puts the part in the first places of the block, which have to be as many. -/
def overwrite? {α : Type} (count : Nat) (block part : List α) : Option (List α) :=
  if count ≤ block.length ∧ part.length = count then some (part ++ block.drop count) else none

theorem front?_of_le {α : Type} {count : Nat} {values : List α} (h : count ≤ values.length) :
    front? count values = some (values.take count) :=
  if_pos h

/-- Look-ups that all succeed give the list of what they find. -/
theorem mapM_eq_some_map {α β : Type} {find? : α → Option β} {places : List α} (found : α → β)
    (h : ∀ place ∈ places, find? place = some (found place)) :
    places.mapM find? = some (places.map found) := by
  induction places with
  | nil => rfl
  | cons place places induction =>
      rw [List.mapM_cons, h place List.mem_cons_self,
        induction fun other hmem => h other (List.mem_cons_of_mem place hmem)]
      rfl

namespace Layout

def part (key username : String) (challenge : Bytes) : Part → Bytes
  | .key => utf8 key
  | .user => utf8 username
  | .seed => challenge

def byteAt? (challenge : Bytes) (place : Nat) : Option UInt8 := do
  let wrapped ← remainder? place challenge.length
  challenge[wrapped]?

/-- The answer under a rule that says what stands at a place of the challenge. -/
def answerBy? (byteAt? : Nat → Option UInt8) (key username : String) (challenge : Bytes) :
    Option String := do
  let selector ← byteAt? 15
  let layout ← all[selector.toNat % 8 % 5]?
  let pointer ← byteAt? layout.pointer
  let checksum ← byteAt? (pointer.toNat % 16)
  let parts := layout.order.flatMap (part key username challenge)
  return Radix64.text (md5 (packed (checksum :: parts))).toList

def answer? (key username : String) (challenge : Bytes) : Option String :=
  answerBy? (byteAt? challenge) key username challenge

/-- As it is specified for challenges that have every place asked for. -/
def unwrapped? (key username : String) (challenge : Bytes) : Option String :=
  answerBy? (challenge[·]?) key username challenge

theorem byteAt?_eq {challenge : Bytes} (h : challenge ≠ []) (place : Nat) :
    byteAt? challenge place = some (UInt8.ofNat (byteAt challenge place)) := by
  have hlength : challenge.length ≠ 0 := fun hzero => h (List.eq_nil_of_length_eq_zero hzero)
  have hplace : place % challenge.length < challenge.length :=
    Nat.mod_lt place (Nat.pos_of_ne_zero hlength)
  rw [byteAt?, remainder?, if_neg hlength, Option.bind_eq_bind, Option.bind_some, byteAt,
    List.getD_eq_getElem?_getD, List.getElem?_eq_getElem hplace, Option.getD_some,
    UInt8.ofNat_toNat]

theorem byteAt_lt (challenge : Bytes) (place : Nat) : byteAt challenge place < 256 :=
  UInt8.toNat_lt _

/-- Below sixteen no place wraps around in a challenge of sixteen bytes or more. -/
theorem byteAt?_of_lt {challenge : Bytes} (h : 16 ≤ challenge.length) {place : Nat}
    (hplace : place < 16) : challenge[place]? = byteAt? challenge place := by
  have hpos : challenge.length ≠ 0 := by omega
  rw [byteAt?, remainder?, if_neg hpos, Nat.mod_eq_of_lt (Nat.lt_of_lt_of_le hplace h)]
  rfl

theorem pointer_lt {place : Nat} {layout : Layout} (h : all[place]? = some layout) :
    layout.pointer < 16 := by
  have hpointers : ∀ index : Fin 5, all[index].pointer < 16 := by decide
  obtain ⟨hlt, rfl⟩ := Vector.getElem?_eq_some_iff.mp h
  exact hpointers ⟨place, hlt⟩

theorem answer?_eq (key username : String) {challenge : Bytes} (h : challenge ≠ []) :
    answer? key username challenge = some (answer key username challenge) := by
  have hbyte (place : Nat) :
      (UInt8.ofNat (byteAt challenge place)).toNat = byteAt challenge place :=
    UInt8.toNat_ofNat_of_lt' (byteAt_lt challenge place)
  have hlayout : all[byteAt challenge 15 % 8 % 5]? = some (chosen challenge) :=
    Vector.getElem?_eq_getElem (Nat.mod_lt _ (by decide))
  simp only [answer?, answerBy?, byteAt?_eq h, hbyte, hlayout, Option.bind_eq_bind,
    Option.bind_some]
  rfl

theorem unwrapped?_eq (key username : String) {challenge : Bytes} (h : 16 ≤ challenge.length) :
    unwrapped? key username challenge = answer? key username challenge := by
  have hmod (value : Nat) : value % 16 < 16 := Nat.mod_lt value (by decide)
  rw [unwrapped?, answer?, answerBy?, answerBy?, byteAt?_of_lt h (by decide : 15 < 16)]
  refine Option.bind_congr fun selector _ => ?_
  refine Option.bind_congr fun layout hlayout => ?_
  simp only [byteAt?_of_lt h (pointer_lt hlayout), byteAt?_of_lt h (hmod _)]

end Layout

namespace KeyedDigest

def imprint? (username : String) (challenge : Bytes) : Option Bytes :=
  front? 4 (md5 (packed (challenge ++ utf8 username))).toList

def blockKey? (key : Bytes) : Option Bytes := do
  let size := min key.length blockSize
  let start ← front? size key
  overwrite? size (List.replicate blockSize 0) start

def digest? (key imprint challenge : Bytes) : Option (Vector UInt8 32) := do
  let block ← blockKey? key
  let inner := sha256 (packed (block.map (· ^^^ 0x36) ++ imprint ++ challenge))
  return sha256 (packed (block.map (· ^^^ 0x5c) ++ inner.toList))

def group? (high low : UInt8) : Option (List Char) := do
  let value := high.toNat * 256 + low.toNat
  let head ← headAlphabet[value / 2048 % 32]?
  let upper ← tailAlphabet[value / 64 % 32]?
  let lower ← tailAlphabet[value / 2 % 32]?
  let delimiter ← delimiters[value % 2]?
  return [head, '=', upper, lower, delimiter]

def render? (digest : Vector UInt8 32) : Option (List Char) := do
  let shown ← front? 20 digest.toList
  let groups ← (List.finRange 10).mapM fun index => do
    let high ← shown[2 * index.val]?
    let low ← shown[2 * index.val + 1]?
    group? high low
  return groups.flatten

def answer? (key username : String) (challenge : Bytes) : Option String := do
  let imprint ← imprint? username challenge
  let digest ← digest? (utf8 key) imprint challenge
  let symbols ← render? digest
  return String.ofList symbols

theorem imprint?_eq (username : String) (challenge : Bytes) :
    imprint? username challenge = some (imprint username challenge) :=
  front?_of_le (by simp)

theorem blockKey?_eq (key : Bytes) : blockKey? key = some (blockKey key) := by
  have htake : key.take (min key.length blockSize) = key.take blockSize := by
    rw [Nat.min_comm]
    exact List.take_eq_take_min.symm
  have hfits : min key.length blockSize ≤ (List.replicate blockSize (0 : UInt8)).length ∧
      (key.take blockSize).length = min key.length blockSize := by
    simp [Nat.min_comm]
  have hrest : blockSize - min key.length blockSize = blockSize - key.length := by omega
  rw [blockKey?, front?_of_le (Nat.min_le_left _ _), Option.bind_eq_bind, Option.bind_some, htake,
    overwrite?, if_pos hfits, List.drop_replicate, hrest, blockKey]

theorem digest?_eq (key imprint challenge : Bytes) :
    digest? key imprint challenge = some (digest key imprint challenge) := by
  rw [digest?, blockKey?_eq]
  rfl

theorem group?_eq (high low : UInt8) : group? high low = some (group high low) := by
  have hfive (value : Nat) : value % 32 < 32 := Nat.mod_lt value (by decide)
  have hone (value : Nat) : value % 2 < 2 := Nat.mod_lt value (by decide)
  simp only [group?, Vector.getElem?_eq_getElem (hfive _), Vector.getElem?_eq_getElem (hone _),
    Option.bind_eq_bind, Option.bind_some]
  rfl

theorem render?_eq (digest : Vector UInt8 32) : render? digest = some (render digest) := by
  have hplace {place : Nat} (h : place < 20) :
      (digest.toList.take 20)[place]? = some digest[place] := by
    rw [List.getElem?_take_of_lt h]
    simp
  have hgroups : ∀ index ∈ List.finRange 10,
      (do
        let high ← (digest.toList.take 20)[2 * index.val]?
        let low ← (digest.toList.take 20)[2 * index.val + 1]?
        group? high low) = some (group (pair digest index).1 (pair digest index).2) := by
    intro index _
    rw [hplace (by omega), hplace (by omega)]
    exact group?_eq _ _
  rw [render?, front?_of_le (by simp), Option.bind_eq_bind, Option.bind_some,
    mapM_eq_some_map _ hgroups, Option.bind_eq_bind, Option.bind_some, render, List.flatMap]
  rfl

theorem answer?_eq (key username : String) (challenge : Bytes) :
    answer? key username challenge = some (answer key username challenge) := by
  simp only [answer?, imprint?_eq, digest?_eq, render?_eq, Option.bind_eq_bind, Option.bind_some]
  rfl

end KeyedDigest

namespace CryptHash

def saltStart? (salt : String) : Option Bytes :=
  let before := (utf8 salt).takeWhile (· != 0x24)
  front? (min before.length 8) before

/-- The digest over and over, in pieces of sixteen bytes or what remains. -/
def pieces? (digest : Vector UInt8 16) (remaining : Nat) : Option Bytes :=
  if remaining = 0 then
    some []
  else do
    let size := min remaining 16
    let piece ← front? size digest.toList
    let rest ← pieces? digest (remaining - size)
    return piece ++ rest
termination_by remaining

def symbols? : Nat → Nat → Option (List Char)
  | 0, _ => some []
  | count + 1, value => do
      let symbol ← alphabet[value % 64]?
      let rest ← symbols? count (value / 64)
      return symbol :: rest

def digestSymbols? (digest : Vector UInt8 16) : Option (List Char) := do
  let groups ← triples.mapM fun (high, middle, low) => do
    let high ← digest[high]?
    let middle ← digest[middle]?
    let low ← digest[low]?
    symbols? 4 ((high.toNat * 256 + middle.toNat) * 256 + low.toNat)
  let last ← digest[11]?
  let rest ← symbols? 2 last.toNat
  return groups.flatten ++ rest

def text? (password : Bytes) (salt : String) : Option String := do
  let start ← saltStart? salt
  let pieces ← pieces? (md5 (packed (password ++ start ++ password))) password.length
  let digits ← digitBytes? password password.length
  let first := md5 (packed (password ++ utf8 mark ++ start ++ pieces ++ digits))
  let symbols ← digestSymbols? ((List.range 1000).foldl
    (fun digest round => md5 (roundBytes (packed password) (packed start) digest round)) first)
  return mark ++ String.ofList (saltText salt ++ '$' :: symbols)

theorem saltStart?_eq (salt : String) : saltStart? salt = some (saltStart salt) := by
  rw [saltStart?, front?_of_le (Nat.min_le_left _ _), Nat.min_comm, ← List.take_eq_take_min,
    saltStart]

theorem pieces?_eq (digest : Vector UInt8 16) (remaining : Nat) :
    pieces? digest remaining = some (repeated digest remaining) := by
  fun_induction pieces? digest remaining with
  | case1 => rfl
  | case2 remaining hpos size induction =>
      have hsize : size ≤ digest.toList.length := by
        rw [Vector.length_toList]
        exact Nat.min_le_right _ _
      rw [front?_of_le hsize, induction, repeated_eq digest remaining]
      rfl

theorem symbols?_eq (count value : Nat) : symbols? count value = some (symbols count value) := by
  induction count generalizing value with
  | zero => rfl
  | succ count induction =>
      have hplace : value % 64 < 64 := Nat.mod_lt value (by decide)
      rw [symbols?, Vector.getElem?_eq_getElem hplace, induction]
      rfl

theorem digestSymbols?_eq (digest : Vector UInt8 16) :
    digestSymbols? digest = some (digestSymbols digest) := by
  have hplace {place : Nat} (h : place < 16) :
      digest[place]? = some (digest.toArray.getD place 0) := by
    rw [Vector.getElem?_eq_getElem h]
    simp [Array.getD, h]
  have hplaces : ∀ triple ∈ triples, triple.1 < 16 ∧ triple.2.1 < 16 ∧ triple.2.2 < 16 := by
    decide
  rw [digestSymbols?, mapM_eq_some_map fun (high, middle, low) =>
    symbols 4 (((digest.toArray.getD high 0).toNat * 256 +
      (digest.toArray.getD middle 0).toNat) * 256 + (digest.toArray.getD low 0).toNat)]
  · rw [hplace (by decide)]
    simp only [symbols?_eq, Option.bind_eq_bind, Option.bind_some]
    rfl
  · rintro ⟨high, middle, low⟩ hmem
    obtain ⟨hhigh, hmiddle, hlow⟩ := hplaces _ hmem
    simp only [hplace hhigh, hplace hmiddle, hplace hlow, symbols?_eq, Option.bind_eq_bind,
      Option.bind_some]

theorem text?_eq (password : Bytes) (salt : String) :
    text? password salt = some (text (packed password) salt) := by
  obtain ⟨digits, hdigits, hfirst⟩ := firstMessage_eq password (saltStart salt)
  simp only [text?, saltStart?_eq, pieces?_eq, hdigits, digestSymbols?_eq, Option.bind_eq_bind,
    Option.bind_some, text, finalDigest, saltBytes_eq, hfirst]
  rfl

end CryptHash

def PasswordHashes.ofPassword? (password : String) : Option PasswordHashes := do
  let crypted ← CryptHash.text? (utf8 password) salt
  return {
    password := Radix64.text (md5 password.toUTF8).toList
    crypt := Radix64.text (md5 crypted.toUTF8).toList }

theorem PasswordHashes.ofPassword?_eq (password : String) :
    ofPassword? password = some (ofPassword password) := by
  rw [ofPassword?, CryptHash.text?_eq]
  rfl

def Version.answer? : Version → String → String → Bytes → Option String
  | .v1 => Layout.answer?
  | .v2 => KeyedDigest.answer?

def respond? (version : Version) (username password challenge : String) :
    Option (Except ChallengeError Response) :=
  if challenge = "" then
    some (.error .empty)
  else do
    let hashes ← PasswordHashes.ofPassword? password
    let plain ← version.answer? hashes.password username (utf8 challenge)
    let crypt ← version.answer? hashes.crypt username (utf8 challenge)
    return .ok ⟨plain, crypt⟩

theorem utf8_ne_nil {text : String} (h : text ≠ "") : utf8 text ≠ [] :=
  fun hnil => h (Text.utf8_injective hnil)

theorem respond?_eq (version : Version) (username password challenge : String) :
    respond? version username password challenge =
      some (respond version username password challenge) := by
  unfold respond? respond
  by_cases hempty : challenge = ""
  · rw [if_pos hempty, if_pos hempty]
  · have hseed := utf8_ne_nil hempty
    rw [if_neg hempty, if_neg hempty, PasswordHashes.ofPassword?_eq]
    cases version with
    | v1 =>
        simp only [Version.answer?, Layout.answer?_eq _ _ hseed, Option.bind_eq_bind,
          Option.bind_some]
        rfl
    | v2 =>
        simp only [Version.answer?, KeyedDigest.answer?_eq, Option.bind_eq_bind, Option.bind_some]
        rfl

theorem respond_eq_error_iff {version : Version} {username password challenge : String} :
    respond version username password challenge = .error .empty ↔ challenge = "" := by
  by_cases hempty : challenge = ""
  · simp [respond, hempty]
  · simp [respond, hempty]

theorem exists_respond_eq_ok_iff {version : Version} {username password challenge : String} :
    (∃ response, respond version username password challenge = .ok response) ↔
      challenge ≠ "" := by
  constructor
  · rintro ⟨response, hresponse⟩ rfl
    cases hresponse
  · exact fun hchallenge => ⟨_, if_neg hchallenge⟩

/-- Nothing on the way to an answer is missing, only an empty challenge has none, and from sixteen
bytes on the first answer is the specified one, with no place wrapped. -/
theorem respond_defined (version : Version) (username password challenge : String) :
    respond? version username password challenge =
        some (respond version username password challenge) ∧
      (respond version username password challenge = .error .empty ↔ challenge = "") ∧
      ((∃ response, respond version username password challenge = .ok response) ↔
        challenge ≠ "") ∧
      (16 ≤ (utf8 challenge).length → ∃ plain crypt,
        Layout.unwrapped? (PasswordHashes.ofPassword password).password username (utf8 challenge) =
            some plain ∧
          Layout.unwrapped? (PasswordHashes.ofPassword password).crypt username (utf8 challenge) =
            some crypt ∧
          respond .v1 username password challenge = .ok ⟨plain, crypt⟩) := by
  refine ⟨respond?_eq version username password challenge, respond_eq_error_iff,
    exists_respond_eq_ok_iff, fun hlength => ?_⟩
  have hseed : utf8 challenge ≠ [] := List.ne_nil_of_length_pos (by omega)
  have hchallenge : challenge ≠ "" := by
    rintro rfl
    exact hseed rfl
  refine ⟨_, _, ?_, ?_, if_neg hchallenge⟩
  · rw [Layout.unwrapped?_eq _ _ hlength, Layout.answer?_eq _ _ hseed]
  · rw [Layout.unwrapped?_eq _ _ hlength, Layout.answer?_eq _ _ hseed]

theorem respond_defined_sixteen :
    16 ≤ (utf8 "0123456789abcde2").length ∧ ∃ plain crypt,
      Layout.unwrapped? (PasswordHashes.ofPassword "").password "ann" (utf8 "0123456789abcde2") =
          some plain ∧
        Layout.unwrapped? (PasswordHashes.ofPassword "").crypt "ann" (utf8 "0123456789abcde2") =
          some crypt ∧
        respond .v1 "ann" "" "0123456789abcde2" = .ok ⟨plain, crypt⟩ :=
  ⟨by decide, (respond_defined .v1 "ann" "" "0123456789abcde2").2.2.2 (by decide)⟩

end Messenger.Auth
