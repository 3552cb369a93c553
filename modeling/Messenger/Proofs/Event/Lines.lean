import Messenger.Event.Line
import Messenger.Proofs.Text.Json

/-!
Reports as lines of JSON. Each is one line and well formed, no object in it has a name twice, and
it reads back: the tag tells which data follow, and every datum has a form of its own at its place.
-/

namespace Messenger

open Text (Json)

namespace Text.Json

def text? : Json → Option String
  | .str text => some text
  | _ => none

def maybe? : Json → Option (Option String)
  | .null => some none
  | .str text => some (some text)
  | _ => none

def flag? : Json → Option Bool
  | .bool flag => some flag
  | _ => none

def word? : Json → Option UInt32
  | .num number => some (UInt32.ofNat number)
  | _ => none

def texts? : Json → Option (List String)
  | .arr items => items.mapM text?
  | _ => none

theorem maybe?_ofOption (text : Option String) : maybe? (ofOption .str text) = some text := by
  cases text <;> rfl

theorem word?_toNat (number : UInt32) : word? (.num number.toNat) = some number := by
  rw [word?, UInt32.ofNat_toNat]

/-- Items that each read back read back together. -/
theorem mapM_map_eq_some {α : Type} (write : α → Json) (read? : Json → Option α)
    (h : ∀ item, read? (write item) = some item) (items : List α) :
    (items.map write).mapM read? = some items := by
  have hread : read? ∘ write = pure := funext h
  rw [List.mapM_map, hread]
  exact List.mapM_pure.trans (by simp)

theorem texts?_map (texts : List String) : texts? (.arr (texts.map .str)) = some texts :=
  mapM_map_eq_some .str text? (fun _ => rfl) texts

end Text.Json

def Service.ofJson? : Json → Option Service
  | .str name => Service.ofName? name
  | .obj [(_, .num code)] => some (.unknown (UInt16.ofNat code))
  | _ => none

def Body.field? : Json → Option (String × String)
  | .arr [.str key, .str value] => some (key, value)
  | _ => none

def Body.ofJson? : Json → Option Body
  | .obj [(_, .arr fields)] => Body.mk <$> fields.mapM field?
  | _ => none

def Packet.ofJson? : Json → Option Packet
  | .obj [(_, .num version), (_, service), (_, .num status), (_, .num sessionId), (_, body)] => do
      return {
        version := UInt16.ofNat version
        service := ← Service.ofJson? service
        status := UInt32.ofNat status
        sessionId := UInt32.ofNat sessionId
        body := ← Body.ofJson? body }
  | _ => none

@[simp] theorem Service.ofJson?_json (service : Service) :
    Service.ofJson? service.json = some service := by
  cases service with
  | unknown code => simp [json, ofJson?]
  | _ => rfl

@[simp] theorem Body.ofJson?_json (body : Body) : Body.ofJson? body.json = some body := by
  have hfields := Text.Json.mapM_map_eq_some (fun field => .arr [.str field.1, .str field.2]) field?
    (fun _ => rfl) body.fields
  rw [json, ofJson?, hfields]
  rfl

@[simp] theorem Packet.ofJson?_json (packet : Packet) :
    Packet.ofJson? packet.json = some packet := by
  simp [json, ofJson?]

namespace Event

open Text.Json

/-- The event of a tag with its data in order. -/
def ofTag? (tag : String) (data : List Json) : Option Event :=
  match tag, data with
  | "logged_on", [username] => loggedOn <$> text? username
  | "connection_closed", [reason] => connectionClosed <$> text? reason
  | "list_received", [list] => listReceived <$> Packet.ofJson? list
  | "message", [sender, recipient, text, offline] =>
      message <$> text? sender <*> text? recipient <*> text? text <*> flag? offline
  | "status_update", [user, status, note, online] =>
      statusUpdate <$> text? user <*> word? status <*> maybe? note <*> flag? online
  | "typing", [sender, recipient, active] =>
      typing <$> text? sender <*> text? recipient <*> flag? active
  | "new_mail", [count] => newMail <$> word? count
  | "friend_added", [friend, group] => friendAdded <$> text? friend <*> maybe? group
  | "friend_removed", [friend, group] => friendRemoved <$> text? friend <*> maybe? group
  | "group_renamed", [oldName, newName] => groupRenamed <$> text? oldName <*> text? newName
  | "contact_request", [sender, note] => contactRequest <$> text? sender <*> maybe? note
  | "file_transfer", [sender, url, filename, note] =>
      fileTransfer <$> text? sender <*> maybe? url <*> maybe? filename <*> maybe? note
  | "conference_invite", [room, inviter, members, note] =>
      conferenceInvite <$> text? room <*> text? inviter <*> texts? members <*> maybe? note
  | "conference_logon", [room, user] => conferenceLogon <$> text? room <*> text? user
  | "conference_logoff", [room, user] => conferenceLogoff <$> text? room <*> text? user
  | "conference_decline", [room, user, note] =>
      conferenceDecline <$> text? room <*> text? user <*> maybe? note
  | "conference_message", [room, sender, text] =>
      conferenceMessage <$> text? room <*> text? sender <*> text? text
  | "error", [service, text] => error <$> Service.ofJson? service <*> text? text
  | "exception", [text] => exception <$> text? text
  | _, _ => none

def ofJson? : Json → Option Event
  | .obj ((_, .str tag) :: fields) => ofTag? tag (fields.map Prod.snd)
  | _ => none

@[simp] theorem ofJson?_json (event : Event) : ofJson? event.json = some event := by
  cases event with
  | listReceived list =>
      change listReceived <$> Packet.ofJson? list.json = _
      rw [Packet.ofJson?_json]
      rfl
  | statusUpdate user status note online =>
      change statusUpdate user <$> word? (.num status.toNat) <*> maybe? (.ofOption .str note) <*>
        flag? (.bool online) = _
      rw [word?_toNat, maybe?_ofOption]
      rfl
  | newMail count =>
      change newMail <$> word? (.num count.toNat) = _
      rw [word?_toNat]
      rfl
  | friendAdded friend group => cases group <;> rfl
  | friendRemoved friend group => cases group <;> rfl
  | contactRequest sender note => cases note <;> rfl
  | fileTransfer sender url filename note => cases url <;> cases filename <;> cases note <;> rfl
  | conferenceInvite room inviter members note =>
      change conferenceInvite room inviter <$> texts? (.arr (members.map .str)) <*>
        maybe? (.ofOption .str note) = _
      rw [texts?_map, maybe?_ofOption]
      rfl
  | conferenceDecline room user note => cases note <;> rfl
  | error service text =>
      change error <$> Service.ofJson? service.json <*> text? (.str text) = _
      rw [Service.ofJson?_json]
      rfl
  | _ => rfl

end Event

namespace Report

def ofJson? : Json → Option Report
  | .obj [(_, .null), (_, event)] => Report.mk none <$> Event.ofJson? event
  | .obj [(_, service), (_, event)] =>
      (fun service event => ⟨some service, event⟩) <$> Service.ofJson? service <*>
        Event.ofJson? event
  | _ => none

theorem ofJson?_json (report : Report) : ofJson? report.json = some report := by
  obtain ⟨service, event⟩ := report
  cases service with
  | none =>
      change Report.mk none <$> Event.ofJson? event.json = _
      rw [Event.ofJson?_json]
      rfl
  | some service =>
      have hread : ofJson? (json ⟨some service, event⟩) =
          (fun service event => ⟨some service, event⟩) <$> Service.ofJson? service.json <*>
            Event.ofJson? event.json := by
        cases service <;> rfl
      rw [hread, Service.ofJson?_json, Event.ofJson?_json]
      rfl

theorem json_inj {report other : Report} (h : report.json = other.json) : report = other := by
  have hread := ofJson?_json other
  rw [← h, ofJson?_json] at hread
  exact Option.some.inj hread

end Report

namespace Text.Json

/-- No object in the value has a name twice. -/
inductive NamesDistinct : Json → Prop
  | null : NamesDistinct .null
  | bool (flag : Bool) : NamesDistinct (.bool flag)
  | num (number : Nat) : NamesDistinct (.num number)
  | str (text : String) : NamesDistinct (.str text)
  | arr {items : List Json} (h : ∀ item ∈ items, NamesDistinct item) : NamesDistinct (.arr items)
  | obj {fields : List (String × Json)} (hnames : (fields.map Prod.fst).Nodup)
      (h : ∀ field ∈ fields, NamesDistinct field.2) : NamesDistinct (.obj fields)

theorem NamesDistinct.ofOption {α : Type} {write : α → Json}
    (h : ∀ value, NamesDistinct (write value)) (value : Option α) :
    NamesDistinct (ofOption write value) := by
  cases value with
  | none => exact .null
  | some value => exact h value

theorem NamesDistinct.map {α : Type} {write : α → Json} (h : ∀ value, NamesDistinct (write value))
    (values : List α) : NamesDistinct (.arr (values.map write)) := by
  refine .arr fun item hmem => ?_
  obtain ⟨value, -, rfl⟩ := List.mem_map.mp hmem
  exact h value

end Text.Json

open Text.Json (NamesDistinct)

theorem Service.namesDistinct_json (service : Service) : NamesDistinct service.json := by
  cases service with
  | unknown code => exact .obj (by simp) (by simpa using .num code.toNat)
  | _ => exact .str _

theorem Packet.namesDistinct_json (packet : Packet) : NamesDistinct packet.json := by
  have hbody : NamesDistinct packet.body.json :=
    .obj (by simp) (by
      simpa using .map (fun field => .arr (by simpa using ⟨.str field.1, .str field.2⟩)) _)
  refine .obj (by simp) ?_
  simpa using ⟨.num _, packet.service.namesDistinct_json, .num _, .num _, hbody⟩

theorem Datum.namesDistinct_json (datum : Datum) : NamesDistinct datum.json := by
  cases datum with
  | text value => exact .str value
  | maybe value => exact .ofOption .str value
  | texts values => exact .map .str values
  | flag value => exact .bool value
  | number value => exact .num value.toNat
  | service value => exact value.namesDistinct_json
  | packet value => exact value.namesDistinct_json

theorem Event.namesDistinct_json (event : Event) : NamesDistinct event.json := by
  have hnames : ("event" :: event.data.map Prod.fst).Nodup := by
    cases event <;> simp only [data, List.map_cons, List.map_nil] <;> decide
  refine .obj ?_ ?_
  · simpa [dataJson, Function.comp_def] using hnames
  · intro field hmem
    rcases List.mem_cons.mp hmem with rfl | hmem
    · exact .str event.tag
    · obtain ⟨datum, -, rfl⟩ := List.mem_map.mp hmem
      exact datum.2.namesDistinct_json

namespace Report

theorem namesDistinct_json (report : Report) : NamesDistinct report.json := by
  refine .obj (by simp) ?_
  simpa using ⟨.ofOption Service.namesDistinct_json report.service,
    report.event.namesDistinct_json⟩

/-- A report is one line of JSON, which no other report has. -/
theorem line_determines_report (report : Report) :
    (∀ c ∈ report.line.toList, 0x20 ≤ c.toNat) ∧
      Json.IsValue report.line.toList ∧
      NamesDistinct report.json ∧
      ∀ other : Report, other.line = report.line ↔ other = report := by
  have hchars (report : Report) : report.line.toList = report.json.chars := String.toList_ofList
  refine ⟨?_, ?_, report.namesDistinct_json, fun other => ⟨fun h => ?_, fun h => by rw [h]⟩⟩
  · rw [hchars]
    exact Json.chars_visible report.json
  · rw [hchars]
    exact Json.isValue_chars report.json
  · have htext := congrArg String.toList h
    rw [hchars, hchars] at htext
    exact json_inj (Json.chars_inj htext)

end Report

end Messenger
