import Messenger.Event.Basic
import Messenger.Text.Json

/-!
Reports as lines of JSON.
-/

namespace Messenger

open Text (Json)

def Service.json : Service → Json
  | .unknown code => .obj [("Unknown", .num code.toNat)]
  | service => .str service.name

def Body.json (body : Body) : Json :=
  .obj [("fields", .arr (body.fields.map fun field => .arr [.str field.1, .str field.2]))]

def Packet.json (packet : Packet) : Json :=
  .obj [("version", .num packet.version.toNat), ("service", packet.service.json),
    ("status", .num packet.status.toNat), ("session_id", .num packet.sessionId.toNat),
    ("body", packet.body.json)]

def Datum.json : Datum → Json
  | .text value => .str value
  | .maybe value => .ofOption .str value
  | .texts values => .arr (values.map .str)
  | .flag value => .bool value
  | .number value => .num value.toNat
  | .service value => value.json
  | .packet value => value.json

namespace Event

def dataJson (event : Event) : List (String × Json) :=
  event.data.map fun datum => (datum.1, datum.2.json)

def json (event : Event) : Json :=
  .obj (("event", .str event.tag) :: event.dataJson)

end Event

namespace Report

def json (report : Report) : Json :=
  .obj [("service", .ofOption Service.json report.service), ("event", report.event.json)]

def line (report : Report) : String :=
  report.json.render

end Report

end Messenger
