import Messenger.Frame.Basic

/-!
Frames in a stream of bytes. A frame is cut off by its declared length before it is decoded, so a
malformed one is passed over and the next is found at its place.
-/

namespace Messenger

open Text (Bytes)

inductive ReadError where
  | closed
  | fault (text : String)
  | malformed (error : FrameError)
deriving DecidableEq, Repr, Inhabited

namespace ReadError

def message : ReadError → String
  | closed => "connection closed by server"
  | fault text => s!"connection I/O error: {text}"
  | malformed error => s!"malformed packet: {error.message}"

end ReadError

inductive StreamEnd where
  | closed
  /-- The stream breaks off early, which readers take for its end. -/
  | truncated
  | fault (text : String)
deriving DecidableEq, Repr, Inhabited

namespace StreamEnd

def error : StreamEnd → ReadError
  | closed => .closed
  | truncated => .closed
  | fault text => .fault text

end StreamEnd

namespace Frame

def split? (bytes : Bytes) : Option (Bytes × Bytes) :=
  match Header.read? bytes with
  | none => none
  | some (header, rest) =>
      let size := headerSize + header.bodyLength.toNat
      if (rest.take header.bodyLength.toNat).length < header.bodyLength.toNat then none
      else some (bytes.take size, bytes.drop size)

theorem split?_length {bytes frame rest : Bytes} (h : split? bytes = some (frame, rest)) :
    rest.length < bytes.length := by
  unfold split? at h
  split at h
  · cases h
  · rename_i header tail hread
    simp only at h
    split at h
    · cases h
    · cases h
      have hpos : 0 < bytes.length := by
        cases bytes with
        | nil => cases hread
        | cons => simp
      simp only [List.length_drop, headerSize]
      omega

def decodeWhole (frame : Bytes) : Except FrameError Packet :=
  (decode frame).map Prod.fst

def readPacket? (bytes : Bytes) : Option (Except FrameError Packet × Bytes) :=
  (split? bytes).map fun (frame, rest) => (decodeWhole frame, rest)

def splitAll (bytes : Bytes) : List Bytes × Bytes :=
  match _h : split? bytes with
  | none => ([], bytes)
  | some (frame, rest) =>
      let (frames, tail) := splitAll rest
      (frame :: frames, tail)
termination_by bytes.length
decreasing_by exact split?_length _h

/-- What repeated reading of a stream yields, up to and with the error that ends it. -/
def readAll (bytes : Bytes) (finish : StreamEnd) : List (Except ReadError Packet) :=
  ((splitAll bytes).1.map fun frame => (decodeWhole frame).mapError .malformed) ++
    [.error finish.error]

structure Run where
  packets : List Packet := []
  consumed : Nat := 0
  stoppedBy : Option FrameError := none
deriving Repr

theorem decode_consumed_pos {bytes : Bytes} {packet : Packet} {consumed : Nat}
    (h : decode bytes = .ok (packet, consumed)) : 0 < consumed ∧ bytes ≠ [] := by
  unfold decode at h
  split at h
  · cases h
  · rename_i header rest hread
    simp only at h
    refine ⟨?_, ?_⟩
    · split at h
      · cases h
      · split at h
        · cases h
        · split at h
          · cases h
          · cases h
            simp only [headerSize]
            omega
    · intro hnil
      subst hnil
      cases hread

def decodeRun (bytes : Bytes) : Run :=
  if bytes = [] then {} else
    match _h : decode bytes with
    | .error error => { stoppedBy := some error }
    | .ok (packet, consumed) =>
        let run := decodeRun (bytes.drop consumed)
        { run with packets := packet :: run.packets, consumed := consumed + run.consumed }
termination_by bytes.length
decreasing_by
  obtain ⟨hpos, hne⟩ := decode_consumed_pos _h
  have hlength := List.length_pos_iff.mpr hne
  simp only [List.length_drop]
  omega

end Frame

end Messenger
