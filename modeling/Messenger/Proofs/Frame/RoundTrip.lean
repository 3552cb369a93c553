import Messenger.Proofs.Frame.Body

/-!
Packets and their frames. A frame decodes to the packet it was written from, whatever follows it,
and any bytes that decode are the frame of their packet, up to the vendor.
-/

namespace Messenger

namespace Service

theorem mem_named (service : Service) : service ∈ named ∨ ∃ code, service = unknown code := by
  cases service with
  | unknown code => exact .inr ⟨code, rfl⟩
  | _ => exact .inl (by decide)

theorem ofCode_code_of_mem_named : ∀ service ∈ named, ofCode service.code = service := by
  decide

/-- Only an unknown service whose code has a name is read back as another. -/
theorem ofCode_code {service : Service}
    (h : ∀ code, service = unknown code → ∀ other ∈ named, other.code ≠ code) :
    ofCode service.code = service := by
  rcases mem_named service with hnamed | ⟨code, rfl⟩
  · exact ofCode_code_of_mem_named service hnamed
  · have hnone : named.find? (fun other => other.code == code) = none :=
      List.find?_eq_none.mpr fun other hother => by simpa using h code rfl other hother
    rw [code_unknown, ofCode, hnone]
    rfl

end Service

namespace Frame

open Text (Bytes)

theorem word16_bytes (word : UInt16) :
    word16 (UInt8.ofNat (word.toNat / 256)) (UInt8.ofNat word.toNat) = word := by
  apply UInt16.toNat_inj.mp
  have hlt := word.toNat_lt
  simp only [word16, UInt8.toNat_ofNat', UInt16.toNat_ofNat']
  omega

theorem bytes16_word16 (high low : UInt8) : bytes16 (word16 high low) = [high, low] := by
  have hhigh := high.toNat_lt
  have hlow := low.toNat_lt
  simp only [bytes16, word16, UInt16.toNat_ofNat', List.cons.injEq, and_true]
  refine ⟨UInt8.toNat_inj.mp ?_, UInt8.toNat_inj.mp ?_⟩
  · simp only [UInt8.toNat_ofNat']
    omega
  · simp only [UInt8.toNat_ofNat']
    omega

theorem word32_bytes (word : UInt32) :
    word32 (UInt8.ofNat (word.toNat / 16777216)) (UInt8.ofNat (word.toNat / 65536))
      (UInt8.ofNat (word.toNat / 256)) (UInt8.ofNat word.toNat) = word := by
  apply UInt32.toNat_inj.mp
  have hlt := word.toNat_lt
  simp only [word32, UInt8.toNat_ofNat', UInt32.toNat_ofNat']
  omega

theorem bytes32_word32 (first second third fourth : UInt8) :
    bytes32 (word32 first second third fourth) = [first, second, third, fourth] := by
  have hfirst := first.toNat_lt
  have hsecond := second.toNat_lt
  have hthird := third.toNat_lt
  have hfourth := fourth.toNat_lt
  simp only [bytes32, word32, UInt32.toNat_ofNat', List.cons.injEq, and_true]
  refine ⟨UInt8.toNat_inj.mp ?_, UInt8.toNat_inj.mp ?_, UInt8.toNat_inj.mp ?_,
    UInt8.toNat_inj.mp ?_⟩
  all_goals
    simp only [UInt8.toNat_ofNat']
    omega

theorem Header.read?_bytes {header : Header} (hmagic : header.magic = Frame.magic)
    (rest : Bytes) : Header.read? (header.bytes ++ rest) = some (header, rest) := by
  obtain ⟨magic, version, vendor, bodyLength, service, status, sessionId⟩ := header
  cases hmagic
  simp only [Header.bytes, bytes16, bytes32, List.cons_append, List.nil_append, Header.read?,
    word16_bytes, word32_bytes]

theorem Header.read?_sound {header : Header} {bytes rest : Bytes}
    (h : Header.read? bytes = some (header, rest)) : bytes = header.bytes ++ rest := by
  unfold Header.read? at h
  split at h
  · cases h
    simp only [Header.bytes, bytes16_word16, bytes32_word32, List.cons_append, List.nil_append]
  · cases h

theorem Header.length_bytes {header : Header} (hmagic : header.magic = Frame.magic) :
    header.bytes.length = headerSize := by
  simp [Header.bytes, hmagic, Frame.magic, bytes16, bytes32, headerSize]

def headerOf (packet : Packet) (size : Nat) : Header where
  magic
  version := packet.version
  vendor := 0
  bodyLength := UInt16.ofNat size
  service := packet.service.code
  status := packet.status
  sessionId := packet.sessionId

def Header.packet (header : Header) (body : Body) : Packet where
  version := header.version
  service := .ofCode header.service
  status := header.status
  sessionId := header.sessionId
  body

theorem encode_eq_ok_iff {packet : Packet} {bytes : Bytes} :
    encode packet = .ok bytes ↔
      ∃ body, encodeBody packet.body = .ok body ∧ body.length ≤ maxBodySize ∧
        bytes = (headerOf packet body.length).bytes ++ body := by
  unfold encode
  constructor
  · intro h
    split at h
    · cases h
    · rename_i body hbody
      split at h
      · cases h
      · rename_i hsize
        cases h
        exact ⟨body, hbody, Nat.le_of_not_lt hsize, rfl⟩
  · rintro ⟨body, hbody, hsize, rfl⟩
    rw [hbody]
    simp only [if_neg (Nat.not_lt.mpr hsize)]
    rfl

theorem decode_eq_ok_iff {bytes : Bytes} {packet : Packet} {consumed : Nat} :
    decode bytes = .ok (packet, consumed) ↔
      ∃ (header : Header) (body rest : Bytes), header.magic = magic ∧
        body.length = header.bodyLength.toNat ∧ bytes = header.bytes ++ (body ++ rest) ∧
        decodeBody body = .ok packet.body ∧ packet = header.packet packet.body ∧
        consumed = headerSize + body.length := by
  constructor
  · intro h
    unfold decode at h
    split at h
    · cases h
    · rename_i header following hread
      have hbytes := Header.read?_sound hread
      simp only [] at h
      split at h
      · cases h
      · rename_i hmagic
        split at h
        · cases h
        · rename_i hlength
          split at h
          · cases h
          · rename_i body hbody
            cases h
            have hsize : (following.take header.bodyLength.toNat).length =
                header.bodyLength.toNat := by
              have hle := List.length_take_le header.bodyLength.toNat following
              omega
            refine ⟨header, following.take header.bodyLength.toNat,
              following.drop header.bodyLength.toNat, Decidable.not_not.mp hmagic, hsize, ?_,
              hbody, rfl, by rw [hsize]⟩
            rw [List.take_append_drop]
            exact hbytes
  · rintro ⟨header, body, rest, hmagic, hlength, rfl, hbody, hpacket, rfl⟩
    have htake : (body ++ rest).take header.bodyLength.toNat = body :=
      List.take_left' hlength
    unfold decode
    rw [Header.read?_bytes hmagic]
    simp only [hmagic, ne_eq, not_true_eq_false, if_false, htake, hlength, Nat.lt_irrefl, hbody]
    rw [hpacket]
    rfl

/-- Whatever follows a frame, it decodes to the packet it was written from; a service that is
unknown by its name alone comes back under the name that its code has. -/
theorem decode_encode_append {packet : Packet} {bytes : Bytes} (h : encode packet = .ok bytes)
    (tail : Bytes) :
    decode (bytes ++ tail) =
        .ok ({ packet with service := .ofCode packet.service.code }, bytes.length) ∧
      ((∀ code, packet.service = .unknown code →
          ∀ service ∈ Service.named, service.code ≠ code) →
        decode (bytes ++ tail) = .ok (packet, bytes.length)) := by
  obtain ⟨body, hbody, hsize, rfl⟩ := encode_eq_ok_iff.mp h
  have hmagic : (headerOf packet body.length).magic = magic := rfl
  have hlength : body.length = (headerOf packet body.length).bodyLength.toNat := by
    simp only [headerOf, UInt16.toNat_ofNat', maxBodySize] at hsize ⊢
    omega
  have hdecode : decode ((headerOf packet body.length).bytes ++ body ++ tail) =
      .ok ({ packet with service := .ofCode packet.service.code },
        ((headerOf packet body.length).bytes ++ body).length) :=
    decode_eq_ok_iff.mpr ⟨headerOf packet body.length, body, tail, hmagic, hlength,
      List.append_assoc .., decodeBody_eq_ok_iff.mpr hbody, rfl,
      by rw [List.length_append, Header.length_bytes hmagic]⟩
  refine ⟨hdecode, fun hservice => ?_⟩
  rw [hdecode, Service.ofCode_code hservice]

/-- The code `57` has a name, the code `05` has none. -/
theorem decode_encode_unknown :
    (∃ bytes, encode { service := .unknown 0x57, body := ⟨[("14", "né"), ("14", "")]⟩ } =
        .ok bytes ∧
      decode (bytes ++ [0xC0, 0x80]) =
        .ok ({ service := .auth, body := ⟨[("14", "né"), ("14", "")]⟩ }, bytes.length)) ∧
    ∃ bytes, encode { service := .unknown 5, body := ⟨[("14", "né"), ("14", "")]⟩ } =
        .ok bytes ∧
      decode (bytes ++ [0xC0, 0x80]) =
        .ok ({ service := .unknown 5, body := ⟨[("14", "né"), ("14", "")]⟩ }, bytes.length) := by
  constructor
  · obtain ⟨bytes, hencode⟩ : ∃ bytes, encode
        { service := .unknown 0x57, body := ⟨[("14", "né"), ("14", "")]⟩ } = .ok bytes := ⟨_, rfl⟩
    exact ⟨bytes, hencode, (decode_encode_append hencode _).1⟩
  · obtain ⟨bytes, hencode⟩ : ∃ bytes, encode
        { service := .unknown 5, body := ⟨[("14", "né"), ("14", "")]⟩ } = .ok bytes := ⟨_, rfl⟩
    refine ⟨bytes, hencode, (decode_encode_append hencode _).2 ?_⟩
    intro code hcode
    cases hcode
    decide

theorem Header.bytes_clear_vendor {header : Header} (hmagic : header.magic = Frame.magic)
    (body : Bytes) :
    ((header.bytes ++ body).set 6 0).set 7 0 = { header with vendor := 0 }.bytes ++ body := by
  obtain ⟨magic, version, vendor, bodyLength, service, status, sessionId⟩ := header
  cases hmagic
  simp [Header.bytes, bytes16]

theorem encode_of_decode {bytes : Bytes} {packet : Packet} {consumed : Nat}
    (h : decode bytes = .ok (packet, consumed)) :
    encode packet = .ok (((bytes.take consumed).set 6 0).set 7 0) := by
  obtain ⟨header, body, rest, hmagic, hlength, rfl, hbody, hpacket, rfl⟩ := decode_eq_ok_iff.mp h
  have htake : (header.bytes ++ (body ++ rest)).take (headerSize + body.length) =
      header.bytes ++ body := by
    rw [← List.append_assoc]
    exact List.take_left' (by rw [List.length_append, Header.length_bytes hmagic])
  have hheader : headerOf packet body.length = { header with vendor := 0 } := by
    rw [hpacket, headerOf, Header.packet, hlength, ← hmagic]
    simp
  have hsize : body.length ≤ maxBodySize := by
    have hlt := header.bodyLength.toNat_lt
    simp only [maxBodySize]
    omega
  rw [htake, Header.bytes_clear_vendor hmagic]
  exact encode_eq_ok_iff.mpr ⟨body, decodeBody_eq_ok_iff.mp hbody, hsize, by rw [hheader]⟩

/-- The ninth and the tenth byte tell the length of the body. -/
theorem Header.declared_bytes {header : Header} (hmagic : header.magic = Frame.magic)
    (body : Bytes) :
    ∃ high low, (header.bytes ++ body)[8]? = some high ∧ (header.bytes ++ body)[9]? = some low ∧
      high.toNat * 256 + low.toNat = header.bodyLength.toNat := by
  refine ⟨UInt8.ofNat (header.bodyLength.toNat / 256), UInt8.ofNat header.bodyLength.toNat,
    ?_, ?_, ?_⟩
  · simp [Header.bytes, hmagic, Frame.magic, bytes16]
  · simp [Header.bytes, hmagic, Frame.magic, bytes16]
  · have hlt := header.bodyLength.toNat_lt
    simp only [UInt8.toNat_ofNat']
    omega

theorem declared_of_decode {bytes : Bytes} {packet : Packet} {consumed : Nat}
    (h : decode bytes = .ok (packet, consumed)) :
    consumed ≤ bytes.length ∧ ∃ high low, bytes[8]? = some high ∧ bytes[9]? = some low ∧
      consumed = headerSize + (high.toNat * 256 + low.toNat) := by
  obtain ⟨header, body, rest, hmagic, hlength, rfl, -, -, rfl⟩ := decode_eq_ok_iff.mp h
  obtain ⟨high, low, hhigh, hlow, hdeclared⟩ := Header.declared_bytes hmagic (body ++ rest)
  refine ⟨?_, high, low, hhigh, hlow, by rw [hdeclared, hlength]⟩
  simp only [List.length_append, Header.length_bytes hmagic]
  omega

/-- Bytes that decode have the length their header declares, and are what their packet encodes to
but for the vendor, so that the packet determines all their other bytes. -/
theorem decode_canonical {bytes : Bytes} {packet : Packet} {consumed : Nat}
    (h : decode bytes = .ok (packet, consumed)) :
    (∃ high low, bytes[8]? = some high ∧ bytes[9]? = some low ∧
        consumed = 20 + (high.toNat * 256 + low.toNat)) ∧
      consumed ≤ bytes.length ∧
      encode packet = .ok (((bytes.take consumed).set 6 0).set 7 0) ∧
      ∀ (other : Bytes) (taken : Nat), decode other = .ok (packet, taken) →
        taken = consumed ∧ ∀ index, index ≠ 6 → index ≠ 7 →
          (other.take taken)[index]? = (bytes.take consumed)[index]? := by
  obtain ⟨hle, hdeclared⟩ := declared_of_decode h
  refine ⟨hdeclared, hle, encode_of_decode h, ?_⟩
  intro other taken hother
  have hsame : ((other.take taken).set 6 0).set 7 0 = ((bytes.take consumed).set 6 0).set 7 0 :=
    Except.ok.inj ((encode_of_decode hother).symm.trans (encode_of_decode h))
  have htaken := (declared_of_decode hother).1
  constructor
  · have hlengths := congrArg List.length hsame
    simp only [List.length_set, List.length_take] at hlengths
    omega
  · intro index hsix hseven
    have hbyte := congrArg (·[index]?) hsame
    simpa [List.getElem?_set_ne, hsix.symm, hseven.symm] using hbyte

/-- A frame with a vendor, and a byte behind it. -/
theorem decode_canonical_vendor :
    ∃ bytes : Bytes, bytes[6]? = some 0x12 ∧
      decode bytes = .ok ({ service := .message, body := ⟨[("7", "a")]⟩ }, 26) ∧
      encode { service := .message, body := ⟨[("7", "a")]⟩ } =
        .ok (((bytes.take 26).set 6 0).set 7 0) := by
  have hdecode : decode [0x59, 0x4D, 0x53, 0x47, 0, 12, 0x12, 0x34, 0, 6, 0, 6, 0, 0, 0, 0,
      0, 0, 0, 0, 0x37, 0xC0, 0x80, 0x61, 0xC0, 0x80, 0xFF] =
      .ok ({ service := .message, body := ⟨[("7", "a")]⟩ }, 26) := by cbv
  exact ⟨_, rfl, hdecode, (decode_canonical hdecode).2.2.1⟩

end Frame

end Messenger
