import Messenger.Proofs.Frame.RoundTrip
import Messenger.Proofs.Frame.Stream

/-!
Where reading stops. A body that is not a run of complete fields comes apart, in one way only, into
the fields it begins with, perhaps the key of one more, and a rest; the fault is one of that rest,
and the offset is where it starts. A frame is tried for its length, its magic, the length of its
body and the body, in that order, and nothing behind its declared end counts.
-/

namespace Messenger

namespace Frame

open Text (Bytes)

structure FirstCut (bytes front rest : Bytes) : Prop where
  bytes_eq : bytes = front ++ (separator ++ rest)
  first : ∀ before after, bytes = before ++ (separator ++ after) → front.length ≤ before.length

theorem separatorFrom?_le (position : Nat) (before after : Bytes) :
    ∃ found, separatorFrom? position (before ++ (separator ++ after)) = some found ∧
      found ≤ position + before.length := by
  induction before generalizing position with
  | nil => exact ⟨position, rfl, Nat.le_refl _⟩
  | cons first before induction =>
      obtain ⟨second, more, hmore⟩ :
          ∃ second more, before ++ (separator ++ after) = second :: more :=
        List.exists_cons_of_ne_nil (by simp [separator])
      obtain ⟨found, hfound, hle⟩ := induction (position + 1)
      rw [hmore] at hfound
      rw [List.cons_append, hmore, separatorFrom?, List.length_cons]
      split
      · exact ⟨position, rfl, Nat.le_add_right ..⟩
      · exact ⟨found, hfound, by omega⟩

theorem infix_iff {bytes : Bytes} :
    separator <:+: bytes ↔ ∃ front rest, bytes = front ++ (separator ++ rest) := by
  constructor
  · rintro ⟨front, rest, rfl⟩
    exact ⟨front, rest, List.append_assoc ..⟩
  · rintro ⟨front, rest, rfl⟩
    exact ⟨front, rest, List.append_assoc ..⟩

theorem cutField?_eq_none_iff {bytes : Bytes} :
    cutField? bytes = none ↔ ¬ separator <:+: bytes := by
  rw [infix_iff]
  constructor
  · rintro hnone ⟨front, rest, rfl⟩
    obtain ⟨found, hfound, -⟩ := separatorFrom?_le 0 front rest
    rw [cutField?, hfound] at hnone
    cases hnone
  · intro hnot
    cases hcut : cutField? bytes with
    | none => rfl
    | some cut =>
        obtain ⟨front, rest⟩ := cut
        exact absurd ⟨front, rest, cutField?_sound hcut⟩ hnot

theorem FirstCut.unique {bytes front rest before after : Bytes} (h : FirstCut bytes front rest)
    (hother : FirstCut bytes before after) : before = front ∧ after = rest := by
  have hlength : before.length = front.length :=
    Nat.le_antisymm (hother.first front rest h.bytes_eq) (h.first before after hother.bytes_eq)
  obtain ⟨hfront, hrest⟩ :=
    List.append_inj (hother.bytes_eq.symm.trans h.bytes_eq) hlength
  exact ⟨hfront, List.append_cancel_left hrest⟩

/-- A key or value is cut off at the first separator. -/
theorem cutField?_eq_some_iff {bytes front rest : Bytes} :
    cutField? bytes = some (front, rest) ↔ FirstCut bytes front rest := by
  have hfirst : ∀ {front rest : Bytes}, cutField? bytes = some (front, rest) →
      FirstCut bytes front rest := by
    intro front rest hcut
    refine ⟨cutField?_sound hcut, ?_⟩
    rintro before after rfl
    obtain ⟨found, hfound, hle⟩ := separatorFrom?_le 0 before after
    rw [cutField?, hfound] at hcut
    cases hcut
    rw [List.length_take]
    omega
  refine ⟨hfirst, fun h => ?_⟩
  cases hcut : cutField? bytes with
  | none => exact absurd (infix_iff.mpr ⟨front, rest, h.bytes_eq⟩) (cutField?_eq_none_iff.mp hcut)
  | some cut =>
      obtain ⟨before, after⟩ := cut
      obtain ⟨rfl, rfl⟩ := h.unique (hfirst hcut)
      rfl

/-- The fault that is reported at an offset for the bytes from there on, where a key may have been
read before them. An empty key is one that is wanted. -/
structure Faulty (offset : Nat) (key? : Option String) (rest : Bytes) (error : FrameError) :
    Prop where
  unterminated : error = .unterminatedField offset ↔ ¬ separator <:+: rest
  notText : error = .invalidUtf8 offset ↔
    ∃ front after, FirstCut rest front after ∧ ∀ text, Text.utf8 text ≠ front
  noKey : error = .emptyKey offset ↔ ∃ text after, FirstCut rest (Text.utf8 text) after
  wanted : error = .emptyKey offset → key? = none ∧ separator <+: rest

theorem Faulty.of_no_separator (offset : Nat) (key? : Option String) {rest : Bytes}
    (h : ¬ separator <:+: rest) : Faulty offset key? rest (.unterminatedField offset) := by
  have hno : ∀ front after, ¬ FirstCut rest front after :=
    fun front after hcut => h (infix_iff.mpr ⟨front, after, hcut.bytes_eq⟩)
  refine ⟨by simp [h], ?_, ?_, nofun⟩
  · refine ⟨nofun, ?_⟩
    rintro ⟨front, after, hcut, -⟩
    exact absurd hcut (hno front after)
  · refine ⟨nofun, ?_⟩
    rintro ⟨text, after, hcut⟩
    exact absurd hcut (hno _ after)

theorem Faulty.of_no_text (offset : Nat) (key? : Option String) {rest front after : Bytes}
    (hcut : FirstCut rest front after) (h : ∀ text, Text.utf8 text ≠ front) :
    Faulty offset key? rest (.invalidUtf8 offset) := by
  refine ⟨⟨nofun, ?_⟩, ⟨fun _ => ⟨front, after, hcut, h⟩, fun _ => rfl⟩, ⟨nofun, ?_⟩, nofun⟩
  · intro hnot
    exact absurd (infix_iff.mpr ⟨front, after, hcut.bytes_eq⟩) hnot
  · rintro ⟨text, other, hother⟩
    exact absurd (hcut.unique hother).1 (h text)

theorem firstCut_empty (after : Bytes) : FirstCut (separator ++ after) (Text.utf8 "") after :=
  cutField?_eq_some_iff.mp rfl

theorem Faulty.of_empty_key (offset : Nat) (after : Bytes) :
    Faulty offset none (separator ++ after) (.emptyKey offset) := by
  have hcut := firstCut_empty after
  refine ⟨⟨nofun, ?_⟩, ⟨nofun, ?_⟩, ⟨fun _ => ⟨"", after, hcut⟩, fun _ => rfl⟩,
    fun _ => ⟨rfl, List.prefix_append ..⟩⟩
  · exact fun hnot => absurd (List.prefix_append ..).isInfix hnot
  · rintro ⟨front, other, hother, htext⟩
    exact absurd (hcut.unique hother).1.symm (htext "")

theorem Faulty.of_readField {offset : Nat} {rest : Bytes} {error : FrameError}
    (h : readField offset rest = .error error) (key? : Option String) :
    Faulty offset key? rest error := by
  unfold readField at h
  split at h
  · rename_i hcut
    cases h
    exact .of_no_separator offset key? (cutField?_eq_none_iff.mp hcut)
  · rename_i front after hcut
    split at h
    · rename_i htext
      cases h
      refine .of_no_text offset key? (cutField?_eq_some_iff.mp hcut) ?_
      rintro text rfl
      rw [Text.ofUtf8?_utf8] at htext
      cases htext
    · cases h

def ended (text : String) : Bytes :=
  Text.utf8 text ++ separator

theorem ended_append_inj {first second : String} {rest after : Bytes}
    (h : ended first ++ rest = ended second ++ after) : first = second ∧ rest = after := by
  simp only [ended, List.append_assoc] at h
  have hread := readField_append 0 first rest
  rw [h, readField_append] at hread
  cases hread
  exact ⟨rfl, rfl⟩

/-- As many complete fields as the body begins with, the key of one more if it comes next, and the
rest, at which reading stops. -/
structure ReadsTo (body : Bytes) (fields : List (String × String)) (key? : Option String)
    (rest : Bytes) : Prop where
  body_eq : body = fields.flatMap fieldBytes ++ (key?.toList.flatMap ended ++ rest)
  keyed : ∀ field ∈ fields, field.1 ≠ ""
  key_ne : ∀ key ∈ key?, key ≠ ""
  longest : ∀ others : List (String × String), (∀ field ∈ others, field.1 ≠ "") →
    others.flatMap fieldBytes <+: body → others <+: fields
  no_key : key? = none → ∀ key, key ≠ "" → ¬ ended key <+: rest

theorem ReadsTo.unique {body rest tail : Bytes} {fields others : List (String × String)}
    {key? other? : Option String} (h : ReadsTo body fields key? rest)
    (hother : ReadsTo body others other? tail) :
    others = fields ∧ other? = key? ∧ tail = rest := by
  have hothers : others <+: fields := h.longest others hother.keyed ⟨_, hother.body_eq.symm⟩
  have hfields : fields <+: others := hother.longest fields h.keyed ⟨_, h.body_eq.symm⟩
  obtain rfl : others = fields := hothers.eq_of_length_le hfields.length_le
  have hrest := List.append_cancel_left (hother.body_eq.symm.trans h.body_eq)
  cases key? with
  | none =>
      cases other? with
      | none => exact ⟨rfl, rfl, hrest⟩
      | some other =>
          refine absurd ?_ (h.no_key rfl other (hother.key_ne other rfl))
          exact ⟨tail, by simpa using hrest⟩
  | some key =>
      cases other? with
      | none =>
          refine absurd ?_ (hother.no_key rfl key (h.key_ne key rfl))
          exact ⟨rest, by simpa using hrest.symm⟩
      | some other =>
          obtain ⟨rfl, rfl⟩ := ended_append_inj (by simpa using hrest)
          exact ⟨rfl, rfl, rfl⟩

/-- A complete field in front is one more field that is read. -/
theorem ReadsTo.cons {body rest : Bytes} {fields : List (String × String)} {key? : Option String}
    (h : ReadsTo body fields key? rest) {field : String × String} (hkey : field.1 ≠ "") :
    ReadsTo (fieldBytes field ++ body) (field :: fields) key? rest where
  body_eq := by rw [h.body_eq, List.flatMap_cons, List.append_assoc]
  keyed := List.forall_mem_cons.mpr ⟨hkey, h.keyed⟩
  key_ne := h.key_ne
  no_key := h.no_key
  longest others hothers hstart := by
    cases others with
    | nil => exact List.nil_prefix
    | cons other others =>
        obtain ⟨tail, htail⟩ := hstart
        have hsame : ended other.1 ++ (ended other.2 ++ (others.flatMap fieldBytes ++ tail)) =
            ended field.1 ++ (ended field.2 ++ body) := by
          simpa [fieldBytes, ended] using htail
        obtain ⟨hfirst, hsecond⟩ := ended_append_inj hsame
        obtain ⟨hvalue, hbody⟩ := ended_append_inj hsecond
        obtain rfl : other = field := Prod.ext hfirst hvalue
        refine List.cons_prefix_cons.mpr ⟨rfl, h.longest others ?_ ⟨tail, hbody⟩⟩
        exact fun field hfield => hothers field (List.mem_cons_of_mem _ hfield)

/-- Where no complete field comes next, none is read. -/
theorem longest_of_none {body : Bytes}
    (hnone : ∀ field : String × String, field.1 ≠ "" → ¬ fieldBytes field <+: body)
    (others : List (String × String)) (hothers : ∀ field ∈ others, field.1 ≠ "")
    (hstart : others.flatMap fieldBytes <+: body) : others <+: [] := by
  cases others with
  | nil => exact List.prefix_rfl
  | cons other others =>
      refine absurd ?_ (hnone other (hothers other List.mem_cons_self))
      exact (List.prefix_append ..).trans hstart

theorem exists_readsTo (body : Bytes) :
    ∃ fields key? rest, ReadsTo body fields key? rest := by
  induction hlength : body.length using Nat.strongRecOn generalizing body with
  | ind length induction =>
      by_cases hfield : ∃ field : String × String, field.1 ≠ "" ∧ fieldBytes field <+: body
      · obtain ⟨field, hkey, following, rfl⟩ := hfield
        have hshorter : following.length < length := by
          rw [← hlength, List.length_append]
          simp only [fieldBytes, separator, List.length_append, List.length_cons]
          omega
        obtain ⟨fields, key?, rest, hreads⟩ := induction _ hshorter following rfl
        exact ⟨field :: fields, key?, rest, hreads.cons hkey⟩
      · have hnone : ∀ field : String × String, field.1 ≠ "" → ¬ fieldBytes field <+: body :=
          fun field hkey hstart => hfield ⟨field, hkey, hstart⟩
        by_cases hkey : ∃ key, key ≠ "" ∧ ended key <+: body
        · obtain ⟨key, hne, rest, rfl⟩ := hkey
          refine ⟨[], some key, rest, by simp, by simp, ?_, longest_of_none hnone, by simp⟩
          exact fun other hother => Option.mem_some_iff.mp hother ▸ hne
        · refine ⟨[], none, body, by simp, by simp, by simp, longest_of_none hnone, ?_⟩
          exact fun _ key hne hstart => hkey ⟨key, hne, hstart⟩

theorem decodeFields_of_no_key (offset : Nat) {rest : Bytes} (hne : rest ≠ [])
    (hkey : ∀ key, key ≠ "" → ¬ ended key <+: rest) :
    ∃ error, decodeFields offset rest = .error error ∧ Faulty offset none rest error := by
  rw [decodeFields_eq offset hne]
  cases hread : readField offset rest with
  | error error => exact ⟨error, rfl, .of_readField hread none⟩
  | ok found =>
      obtain ⟨key, after⟩ := found
      obtain rfl := readField_sound hread
      have hempty : key = "" := by
        by_contra hne
        refine hkey key hne ⟨after, ?_⟩
        rw [ended, List.append_assoc]
      subst hempty
      exact ⟨.emptyKey offset, rfl, .of_empty_key offset after⟩

theorem decodeFields_of_key (offset : Nat) {key : String} (hkey : key ≠ "") {rest : Bytes}
    (hvalue : ∀ value, ¬ ended value <+: rest) :
    ∃ error, decodeFields offset (ended key ++ rest) = .error error ∧
      Faulty (offset + (ended key).length) (some key) rest error := by
  have hread : readField offset (ended key ++ rest) = .ok (key, rest) := by
    rw [ended, List.append_assoc]
    exact readField_append offset key rest
  have hne : ended key ++ rest ≠ [] := by simp [ended, separator]
  have hoffset : offset + (ended key).length = offset + (Text.utf8 key).length + 2 := by
    simp [ended, separator, Nat.add_assoc]
  rw [decodeFields_eq offset hne, hread, hoffset]
  simp only [Except.bind, if_neg hkey]
  cases hafter : readField (offset + (Text.utf8 key).length + 2) rest with
  | error error => exact ⟨error, rfl, .of_readField hafter (some key)⟩
  | ok found =>
      obtain ⟨value, after⟩ := found
      obtain rfl := readField_sound hafter
      refine absurd ⟨after, ?_⟩ (hvalue value)
      rw [ended, List.append_assoc]

/-- Reading ends with the body, or stops with the fault of the rest. -/
theorem ReadsTo.outcome {body rest : Bytes} {fields : List (String × String)}
    {key? : Option String} (h : ReadsTo body fields key? rest) :
    key? = none ∧ rest = [] ∧ decodeBody body = .ok ⟨fields⟩ ∨
      ¬ (key? = none ∧ rest = []) ∧ ∃ error, decodeBody body = .error error ∧
        Faulty (body.length - rest.length) key? rest error := by
  have hbody : decodeFields 0 body = (decodeFields (fields.flatMap fieldBytes).length
      (key?.toList.flatMap ended ++ rest)).map (fields ++ ·) := by
    rw [h.body_eq, decodeFields_append 0 h.keyed, Nat.zero_add]
  have hlength : body.length - rest.length =
      (fields.flatMap fieldBytes).length + (key?.toList.flatMap ended).length := by
    rw [h.body_eq]
    simp only [List.length_append]
    omega
  cases key? with
  | none =>
      simp only [Option.toList_none, List.flatMap_nil, List.nil_append, List.length_nil,
        Nat.add_zero] at hbody hlength
      rw [decodeBody, hbody, hlength]
      by_cases hrest : rest = []
      · refine .inl ⟨rfl, hrest, ?_⟩
        rw [hrest, decodeFields, if_pos rfl]
        exact congrArg (fun all => Except.ok (Body.mk all)) (List.append_nil fields)
      · obtain ⟨error, hdecode, hfaulty⟩ := decodeFields_of_no_key
          (fields.flatMap fieldBytes).length hrest (h.no_key rfl)
        refine .inr ⟨fun hend => hrest hend.2, error, ?_, hfaulty⟩
        rw [hdecode]
        rfl
  | some key =>
      have hvalue : ∀ value, ¬ ended value <+: rest := by
        rintro value ⟨after, rfl⟩
        have hkeyed : ∀ field ∈ fields ++ [(key, value)], field.1 ≠ "" :=
          List.forall_mem_append.mpr
            ⟨h.keyed, List.forall_mem_singleton.mpr (h.key_ne key rfl)⟩
        have hstart : (fields ++ [(key, value)]).flatMap fieldBytes <+: body := by
          refine ⟨after, ?_⟩
          rw [h.body_eq]
          simp [fieldBytes, ended]
        have hle := (h.longest _ hkeyed hstart).length_le
        rw [List.length_append, List.length_singleton] at hle
        omega
      obtain ⟨error, hdecode, hfaulty⟩ := decodeFields_of_key
        (fields.flatMap fieldBytes).length (h.key_ne key rfl) hvalue
      simp only [Option.toList_some, List.flatMap_singleton] at hbody hlength
      rw [decodeBody, hbody, hlength]
      refine .inr ⟨fun hend => Option.some_ne_none key hend.1, error, ?_, hfaulty⟩
      rw [hdecode]
      rfl

theorem Header.read?_content {bytes rest : Bytes} {header : Header}
    (h : Header.read? bytes = some (header, rest)) :
    header.magic = bytes.take 4 ∧ rest = bytes.drop headerSize := by
  unfold Header.read? at h
  split at h
  · cases h
    exact ⟨rfl, rfl⟩
  · cases h

theorem Header.read?_append {bytes rest : Bytes} {header : Header}
    (h : Header.read? bytes = some (header, rest)) (tail : Bytes) :
    Header.read? (bytes ++ tail) = some (header, rest ++ tail) := by
  unfold Header.read? at h
  split at h
  · cases h
    rfl
  · cases h

/-- What bytes are found to be. Each fault counts only where those before it are absent. -/
inductive Outcome (bytes : Bytes) : Except FrameError (Packet × Nat) → Prop
  | short (hshort : bytes.length < headerSize) :
      Outcome bytes (.error (.insufficientData headerSize bytes.length))
  | notMagic (hheader : headerSize ≤ bytes.length) (hmagic : bytes.take 4 ≠ magic) :
      Outcome bytes (.error (.badMagic (bytes.take 4)))
  | brokenOff {size : Nat} (hheader : headerSize ≤ bytes.length) (hmagic : bytes.take 4 = magic)
      (hdeclares : Declares bytes size) (hshort : bytes.length < headerSize + size) :
      Outcome bytes (.error (.bodyLengthMismatch size (bytes.length - headerSize)))
  | malformed {size : Nat} {error : FrameError} (hmagic : bytes.take 4 = magic)
      (hdeclares : Declares bytes size) (hwhole : headerSize + size ≤ bytes.length)
      (hbody : decodeBody ((bytes.drop headerSize).take size) = .error error) :
      Outcome bytes (.error error)
  | packet {size : Nat} {packet : Packet} (hmagic : bytes.take 4 = magic)
      (hdeclares : Declares bytes size) (hwhole : headerSize + size ≤ bytes.length)
      (hbody : decodeBody ((bytes.drop headerSize).take size) = .ok packet.body) :
      Outcome bytes (.ok (packet, headerSize + size))

theorem decode_outcome (bytes : Bytes) : Outcome bytes (decode bytes) := by
  unfold decode
  cases hread : Header.read? bytes with
  | none =>
      refine .short (Nat.lt_of_not_le fun hlong => ?_)
      have hsome := Header.read?_isSome hlong
      rw [hread] at hsome
      cases hsome
  | some entry =>
      obtain ⟨header, rest⟩ := entry
      obtain ⟨hdeclares, hlength⟩ := Header.read?_declares hread
      obtain ⟨hmagic, rfl⟩ := Header.read?_content hread
      have hheader : headerSize ≤ bytes.length := by omega
      simp only [hmagic, List.length_take]
      split
      · rename_i hfound
        exact .notMagic hheader hfound
      · rename_i hfound
        have hfound : bytes.take 4 = magic := not_not.mp hfound
        split
        · rw [List.length_drop]
          exact .brokenOff hheader hfound hdeclares (by omega)
        · have hwhole : headerSize + header.bodyLength.toNat ≤ bytes.length := by omega
          split
          · rename_i hbody
            exact .malformed hfound hdeclares hwhole hbody
          · rename_i hbody
            exact .packet hfound hdeclares hwhole hbody

/-- What stands behind the declared end is not looked at. -/
theorem decode_append_of_whole {frame : Bytes} (hwhole : IsWhole frame) (tail : Bytes) :
    decode (frame ++ tail) = decode frame := by
  obtain ⟨size, hdeclares, hlength⟩ := hwhole
  have hheader : headerSize ≤ frame.length := by omega
  obtain ⟨⟨header, rest⟩, hread⟩ := Option.isSome_iff_exists.mp (Header.read?_isSome hheader)
  obtain ⟨hdeclared, hsizes⟩ := Header.read?_declares hread
  have hsize : header.bodyLength.toNat = rest.length := by
    rw [hdeclared.unique hdeclares]
    omega
  unfold decode
  simp only [hread, Header.read?_append hread tail, hsize, List.take_left, List.take_length,
    Nat.lt_irrefl, if_false]

/-- A body reads if and only if it is a run of complete fields. Any body comes apart, in one way,
into the fields it begins with, perhaps the key of one more, and a rest, and unless the whole of it
is read the fault is the one of that rest, at the offset where the rest starts. A frame is tried for
its own faults before its body is read, and not beyond the end that it declares. -/
theorem decode_faults (body bytes : Bytes) :
    (∀ fields : List (String × String), decodeBody body = .ok ⟨fields⟩ ↔
      body = fields.flatMap (fun (key, value) =>
        Text.utf8 key ++ separator ++ (Text.utf8 value ++ separator)) ∧
        ∀ field ∈ fields, field.1 ≠ "") ∧
    (∃ fields key? rest, ReadsTo body fields key? rest ∧
      (∀ others other? tail, ReadsTo body others other? tail →
        others = fields ∧ other? = key? ∧ tail = rest) ∧
      (key? = none ∧ rest = [] ∧ decodeBody body = .ok ⟨fields⟩ ∨
        ¬ (key? = none ∧ rest = []) ∧ ∃ error, decodeBody body = .error error ∧
          Faulty (body.length - rest.length) key? rest error)) ∧
    Outcome bytes (decode bytes) ∧
    ∀ size tail, Declares bytes size → headerSize + size ≤ bytes.length →
      decode (bytes.take (headerSize + size) ++ tail) = decode bytes := by
  obtain ⟨fields, key?, rest, hreads⟩ := exists_readsTo body
  refine ⟨?_, ⟨fields, key?, rest, hreads, ?_, hreads.outcome⟩, decode_outcome bytes, ?_⟩
  · intro fields
    rw [decodeBody_eq_ok_iff, encodeBody_eq_ok_iff]
    rfl
  · exact fun others other? tail hother => hreads.unique hother
  · intro size tail hdeclares hsize
    have hwhole : IsWhole (bytes.take (headerSize + size)) :=
      ⟨size, hdeclares.take (by omega), List.length_take_of_le hsize⟩
    rw [decode_append_of_whole hwhole]
    conv => rhs; rw [← List.take_append_drop (headerSize + size) bytes]
    rw [decode_append_of_whole hwhole]

/-- A key, an empty value, and a key whose value is not text. -/
example :
    decodeBody [0x37, 0xC0, 0x80, 0xC0, 0x80, 0x38, 0xC0, 0x80, 0xFF, 0xC0, 0x80] =
      .error (.invalidUtf8 8) := by
  cbv

end Frame

end Messenger
