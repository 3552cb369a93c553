import Messenger.Outbound.Link
import Messenger.Proofs.Frame.RoundTrip
import Messenger.Proofs.Frame.Stream

/-!
What becomes of a packet that is written: whether it has a frame does not depend on the session id
it is stamped with, whoever reads the frame gets the packet with that id, and nothing else of its
connection changes.
-/

namespace Messenger

open Text (Bytes)

namespace Packet

/-- A packet as it is read at the other end. -/
def received (packet : Packet) (sessionId : UInt32) : Packet :=
  { packet with sessionId, service := .ofCode packet.service.code }

/-- What the sender of a packet learns when the connection takes all that is written. -/
def sendResult (packet : Packet) : Except SendError Unit :=
  match Frame.encode packet with
  | .error error => .error (.encode error)
  | .ok _ => .ok ()

theorem sendResult_stamp (packet : Packet) (sessionId : UInt32) :
    { packet with sessionId }.sendResult = packet.sendResult := by
  unfold sendResult Frame.encode
  cases Frame.encodeBody packet.body with
  | error error => rfl
  | ok body => by_cases hsize : Frame.maxBodySize < body.length <;> simp [hsize]

end Packet

namespace Frame

theorem frame_of_encode {packet : Packet} {bytes : Bytes} (h : encode packet = .ok bytes) :
    IsWhole bytes ∧
      decodeWhole bytes = .ok { packet with service := .ofCode packet.service.code } := by
  obtain ⟨body, hbody, hsize, rfl⟩ := encode_eq_ok_iff.mp h
  have hmagic : (headerOf packet body.length).magic = magic := rfl
  have hlength : body.length = (headerOf packet body.length).bodyLength.toNat := by
    simp only [headerOf, UInt16.toNat_ofNat', maxBodySize] at hsize ⊢
    omega
  have hread := Header.read?_bytes hmagic body
  obtain ⟨hdeclares, hwhole⟩ := Header.read?_declares hread
  refine ⟨⟨_, hdeclares, by rw [hwhole, ← hlength]⟩, ?_⟩
  have hdecode : decode ((headerOf packet body.length).bytes ++ body) =
      .ok ({ packet with service := .ofCode packet.service.code }, headerSize + body.length) :=
    decode_eq_ok_iff.mpr ⟨headerOf packet body.length, body, [], hmagic, hlength,
      by rw [List.append_nil], decodeBody_eq_ok_iff.mpr hbody, rfl, rfl⟩
  rw [decodeWhole, hdecode]
  rfl

theorem reads_whole {frames : List Bytes} (hwhole : ∀ frame ∈ frames, IsWhole frame)
    (finish : StreamEnd) (more : Bytes) :
    reads finish frames.length (frames.flatten ++ more) =
      frames.map fun frame => (decodeWhole frame).mapError .malformed := by
  induction frames with
  | nil => rfl
  | cons frame frames induction =>
      obtain ⟨hframe, hrest⟩ := List.forall_mem_cons.mp hwhole
      rw [List.flatten_cons, List.append_assoc, List.length_cons, reads,
        readPacket_of_whole hframe finish, List.map_cons, induction hrest]

/-- Whoever reads what has been written of a packet reads the packet, if it has a frame at all. -/
theorem read_stamped (packet : Packet) (sessionId : UInt32) :
    (∀ frame ∈ (encode { packet with sessionId }).toOption.toList, IsWhole frame) ∧
      ((encode { packet with sessionId }).toOption.toList.map fun frame =>
        (decodeWhole frame).mapError ReadError.malformed) =
          ((packet.sendResult.map fun () => packet.received sessionId).toOption.toList).map
            .ok := by
  rw [← packet.sendResult_stamp sessionId]
  unfold Packet.sendResult
  cases hencode : encode { packet with sessionId } with
  | error error => exact ⟨nofun, rfl⟩
  | ok bytes =>
      obtain ⟨hwhole, hdecode⟩ := frame_of_encode hencode
      simp [Except.toOption, Except.map, Except.mapError, hwhole, hdecode, Packet.received]

end Frame

namespace Connection

variable {ρ : Type}

theorem write_of_takes {connection : Connection ρ} (htakes : connection.writeError? = none)
    (sessionId : UInt32) (packet : Packet) :
    connection.write sessionId packet =
      (packet.sendResult, { connection with
        written := connection.written ++
          (Frame.encode { packet with sessionId }).toOption.toList }) := by
  rw [← packet.sendResult_stamp sessionId]
  unfold write Packet.sendResult
  cases hencode : Frame.encode { packet with sessionId } with
  | error error => simp [Except.toOption]
  | ok bytes => simp [htakes, Except.toOption]

/-- The frame that comes out of a connection for a packet, or why none does. -/
def transmit (connection : Connection ρ) (sessionId : UInt32) (packet : Packet) :
    Except SendError Bytes :=
  match Frame.encode { packet with sessionId } with
  | .error error => .error (.encode error)
  | .ok bytes =>
      match connection.writeError? with
      | some text => .error (.write text)
      | none => .ok bytes

theorem write_eq (connection : Connection ρ) (sessionId : UInt32) (packet : Packet) :
    connection.write sessionId packet =
      ((connection.transmit sessionId packet).map fun _ => (), { connection with
        written := connection.written ++
          (connection.transmit sessionId packet).toOption.toList }) := by
  unfold write transmit
  cases Frame.encode { packet with sessionId } with
  | error error => simp [Except.map, Except.toOption]
  | ok bytes => cases connection.writeError? <;> simp [Except.map, Except.toOption]

end Connection

/-- A writer takes the packet that is next in line at its connection. -/
theorem Link.writeNext?_cases {ρ : Type} {link next : Link ρ} {index : Nat} {written : Written ρ}
    (hwrite : link.writeNext? index = some (written, next)) :
    ∃ connection rest, link.connections[index]? = some connection ∧
      connection.queue = written.outgoing :: rest ∧
      ({ connection with queue := rest }.write link.sessionId written.outgoing.packet).1 =
        written.result ∧
      next = link.modify index fun _ =>
        ({ connection with queue := rest }.write link.sessionId written.outgoing.packet).2 := by
  unfold writeNext? at hwrite
  cases hconnection : link.connections[index]? with
  | none => simp [hconnection] at hwrite
  | some connection =>
      cases hqueue : connection.queue with
      | nil => simp [hconnection, hqueue] at hwrite
      | cons outgoing rest =>
          simp only [hconnection, hqueue, Option.some.injEq, Prod.mk.injEq] at hwrite
          obtain ⟨rfl, rfl⟩ := hwrite
          exact ⟨connection, rest, rfl, hqueue, rfl, rfl⟩

end Messenger
