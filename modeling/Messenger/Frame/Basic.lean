import Messenger.Frame.Word
import Messenger.Packet.Basic

/-!
The frame of a packet on the wire: a header of twenty bytes, then the body, in which every key and
every value ends in the separator. `C0` is no byte of any text in UTF-8, so no value holds it.
-/

namespace Messenger

open Text (Bytes)

inductive FrameError where
  | badMagic (found : Bytes)
  | insufficientData (needed available : Nat)
  | bodyLengthMismatch (declared available : Nat)
  | unterminatedField (offset : Nat)
  | invalidUtf8 (offset : Nat)
  | emptyKey (offset : Nat)
  | bodyTooLarge (size : Nat)
deriving DecidableEq, Repr, Inhabited

namespace Frame

def magic : Bytes := [0x59, 0x4D, 0x53, 0x47]

def headerSize : Nat := 20

def maxBodySize : Nat := 65535

def separator : Bytes := [0xC0, 0x80]

structure Header where
  magic : Bytes
  version : UInt16
  vendor : UInt16
  bodyLength : UInt16
  service : UInt16
  status : UInt32
  sessionId : UInt32
deriving DecidableEq, Repr

namespace Header

def read? : Bytes → Option (Header × Bytes)
  | m₀ :: m₁ :: m₂ :: m₃ :: v₀ :: v₁ :: w₀ :: w₁ :: l₀ :: l₁ :: c₀ :: c₁ ::
      s₀ :: s₁ :: s₂ :: s₃ :: i₀ :: i₁ :: i₂ :: i₃ :: rest =>
      some ({
        magic := [m₀, m₁, m₂, m₃]
        version := word16 v₀ v₁
        vendor := word16 w₀ w₁
        bodyLength := word16 l₀ l₁
        service := word16 c₀ c₁
        status := word32 s₀ s₁ s₂ s₃
        sessionId := word32 i₀ i₁ i₂ i₃ }, rest)
  | _ => none

def bytes (header : Header) : Bytes :=
  header.magic ++ bytes16 header.version ++ bytes16 header.vendor ++ bytes16 header.bodyLength ++
    bytes16 header.service ++ bytes32 header.status ++ bytes32 header.sessionId

end Header

def fieldBytes (field : String × String) : Bytes :=
  Text.utf8 field.1 ++ separator ++ (Text.utf8 field.2 ++ separator)

/-- A field without a key cannot be written; the error says where it would have stood. -/
def encodeBody (body : Body) : Except FrameError Bytes :=
  let keyed := body.fields.takeWhile fun field => field.1 != ""
  let bytes := keyed.flatMap fieldBytes
  if keyed.length < body.fields.length then
    .error (.emptyKey bytes.length)
  else
    .ok bytes

def encode (packet : Packet) : Except FrameError Bytes :=
  match encodeBody packet.body with
  | .error error => .error error
  | .ok body =>
      if maxBodySize < body.length then
        .error (.bodyTooLarge body.length)
      else
        .ok (Header.bytes {
          magic
          version := packet.version
          vendor := 0
          bodyLength := UInt16.ofNat body.length
          service := packet.service.code
          status := packet.status
          sessionId := packet.sessionId } ++ body)

def separatorFrom? (position : Nat) : Bytes → Option Nat
  | first :: second :: rest =>
      if first = 0xC0 ∧ second = 0x80 then some position
      else separatorFrom? (position + 1) (second :: rest)
  | _ => none

def cutField? (bytes : Bytes) : Option (Bytes × Bytes) :=
  (separatorFrom? 0 bytes).map fun position => (bytes.take position, bytes.drop (position + 2))

theorem separatorFrom?_lt {position found : Nat} {bytes : Bytes}
    (h : separatorFrom? position bytes = some found) : found + 2 ≤ position + bytes.length := by
  induction bytes generalizing position with
  | nil => cases h
  | cons first rest induction =>
      cases rest with
      | nil => cases h
      | cons second rest =>
          unfold separatorFrom? at h
          split at h
          · cases h
            simp only [List.length_cons]
            omega
          · have hlt := induction h
            simp only [List.length_cons] at hlt ⊢
            omega

theorem cutField?_length {bytes field rest : Bytes} (h : cutField? bytes = some (field, rest)) :
    field.length + 2 + rest.length = bytes.length := by
  unfold cutField? at h
  obtain ⟨position, hposition, heq⟩ := Option.map_eq_some_iff.mp h
  cases heq
  have hlt := separatorFrom?_lt hposition
  simp only [List.length_take, List.length_drop]
  omega

def readField (offset : Nat) (bytes : Bytes) : Except FrameError (String × Bytes) :=
  match cutField? bytes with
  | none => .error (.unterminatedField offset)
  | some (field, rest) =>
      match Text.ofUtf8? field with
      | none => .error (.invalidUtf8 offset)
      | some text => .ok (text, rest)

theorem readField_length {offset : Nat} {bytes rest : Bytes} {text : String}
    (h : readField offset bytes = .ok (text, rest)) : rest.length < bytes.length := by
  unfold readField at h
  split at h
  · cases h
  · rename_i field tail hcut
    split at h
    · cases h
    · cases h
      have hlength := cutField?_length hcut
      omega

def decodeFields (offset : Nat) (bytes : Bytes) : Except FrameError (List (String × String)) :=
  if bytes = [] then .ok [] else
    match _hkey : readField offset bytes with
    | .error error => .error error
    | .ok (key, afterKey) =>
        if key = "" then .error (.emptyKey offset) else
          let valueOffset := offset + (Text.utf8 key).length + 2
          match _hvalue : readField valueOffset afterKey with
          | .error error => .error error
          | .ok (value, rest) =>
              match decodeFields (valueOffset + (Text.utf8 value).length + 2) rest with
              | .error error => .error error
              | .ok fields => .ok ((key, value) :: fields)
termination_by bytes.length
decreasing_by
  have hfirst := readField_length _hkey
  have hsecond := readField_length _hvalue
  omega

def decodeBody (bytes : Bytes) : Except FrameError Body :=
  (decodeFields 0 bytes).map Body.mk

/-- The declared length of the body, whatever stands where the magic belongs. -/
def declaredBodyLength (bytes : Bytes) : Except FrameError Nat :=
  match Header.read? bytes with
  | none => .error (.insufficientData headerSize bytes.length)
  | some (header, _) => .ok header.bodyLength.toNat

def bodyLength (bytes : Bytes) : Except FrameError Nat :=
  match Header.read? bytes with
  | none => .error (.insufficientData headerSize bytes.length)
  | some (header, _) =>
      if header.magic = magic then .ok header.bodyLength.toNat
      else .error (.badMagic header.magic)

/-- The packet at the front of the bytes, with the number of bytes it takes; what follows it is
not looked at. -/
def decode (bytes : Bytes) : Except FrameError (Packet × Nat) :=
  match Header.read? bytes with
  | none => .error (.insufficientData headerSize bytes.length)
  | some (header, rest) =>
      if header.magic ≠ magic then .error (.badMagic header.magic) else
        let declared := header.bodyLength.toNat
        let body := rest.take declared
        if body.length < declared then .error (.bodyLengthMismatch declared rest.length) else
          match decodeBody body with
          | .error error => .error error
          | .ok body =>
              .ok ({
                version := header.version
                service := .ofCode header.service
                status := header.status
                sessionId := header.sessionId
                body }, headerSize + declared)

end Frame

namespace FrameError

def message : FrameError → String
  | badMagic found =>
      let shown := ", ".intercalate (found.map fun byte => Text.upperHex 2 byte.toNat)
      s!"bad magic: expected \"YMSG\", got [{shown}]"
  | insufficientData needed available =>
      s!"insufficient data: need at least {needed} bytes, got {available}"
  | bodyLengthMismatch declared available =>
      s!"body length mismatch: header says {declared}, available is {available}"
  | unterminatedField offset => s!"unterminated field at body offset {offset}"
  | invalidUtf8 offset => s!"field at body offset {offset} is not valid UTF-8"
  | emptyKey offset => s!"empty key at body offset {offset}"
  | bodyTooLarge size => s!"body of {size} bytes exceeds the {Frame.maxBodySize}-byte limit"

end FrameError

end Messenger
