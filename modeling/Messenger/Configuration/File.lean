import Messenger.Configuration.Basic
import Messenger.Text.Utf8
import Messenger.Toml.Document
import Messenger.Toml.Outline

/-!
Configurations as files. What a file does not set keeps its default, and what it sets beyond that
is ignored. A section is a table of fields or the list of their values in order; a date in its
place is a table whose only entry belongs to no setting.
-/

namespace Messenger.Configuration

open Messenger.Toml

/-- The fields of a section, whose names a list leaves out. A date sets none of them. -/
def fields? (names : List String) : Node → Option Entries
  | .table _ entries => some entries
  | .moment => some []
  | .list items => some (names.zip items)
  | .tables newest older =>
      some (names.zip ((newest :: older).reverse.map (.table .header)))
  | _ => none

def field? (entries : Entries) (name : String) (read? : Node → Option α) (default : α) :
    Option α :=
  match entries.lookup name with
  | none => some default
  | some node => read? node

def text? : Node → Option String
  | .scalar (.text value) => some value
  | _ => none

def boolean? : Node → Option Bool
  | .scalar (.boolean value) => some value
  | _ => none

def natural? (bound : Nat) : Node → Option Nat
  | .scalar (.integer value) =>
      if 0 ≤ value ∧ value.toNat < bound then some value.toNat else none
  | _ => none

def port? (node : Node) : Option UInt16 :=
  (natural? UInt16.size node).map UInt16.ofNat

def status? (node : Node) : Option UInt32 :=
  (natural? UInt32.size node).map UInt32.ofNat

def seconds? (node : Node) : Option UInt64 :=
  (natural? UInt64.size node).map UInt64.ofNat

def isEmptyNode : Node → Bool
  | .list [] => true
  | .table _ [] => true
  | _ => false

/-- A name, or a table that has the name as its only key, with nothing in it. -/
def display? : Node → Option Display
  | .scalar (.text name) => Display.ofName? name
  | .table _ [(name, node)] => if isEmptyNode node then Display.ofName? name else none
  | _ => none

def server? (node : Node) : Option Server := do
  let entries ← fields? ["host", "port", "connect_timeout_secs"] node
  return {
    host := ← field? entries "host" text? ({} : Server).host
    port := ← field? entries "port" port? ({} : Server).port
    connectTimeoutSecs :=
      ← field? entries "connect_timeout_secs" seconds? ({} : Server).connectTimeoutSecs }

def login? (node : Node) : Option Login := do
  let entries ← fields? ["login_timeout_secs", "keepalive_interval_secs", "ping_interval_secs",
    "initial_status", "client_version"] node
  return {
    timeoutSecs := ← field? entries "login_timeout_secs" seconds? ({} : Login).timeoutSecs
    keepAliveIntervalSecs :=
      ← field? entries "keepalive_interval_secs" seconds? ({} : Login).keepAliveIntervalSecs
    pingIntervalSecs :=
      ← field? entries "ping_interval_secs" seconds? ({} : Login).pingIntervalSecs
    initialStatus := ← field? entries "initial_status" status? ({} : Login).initialStatus
    clientVersion := ← field? entries "client_version" text? ({} : Login).clientVersion }

def conference? (node : Node) : Option Bool := do
  let entries ← fields? ["buffer_declines"] node
  field? entries "buffer_declines" boolean? ({} : Configuration).bufferDeclines

def ofEntries? (entries : Entries) : Option Configuration := do
  return {
    server := ← field? entries "server" server? {}
    login := ← field? entries "session" login? {}
    bufferDeclines := ← field? entries "conference" conference? false
    logLevel := ← field? entries "log_level" text? ({} : Configuration).logLevel
    display := ← field? entries "output" display? .text }

def parse (text : String) : Except ConfigurationError Configuration :=
  match (Toml.parse? text).bind ofEntries? with
  | none => .error .malformed
  | some configuration =>
      match configuration.fault? with
      | some setting => .error (.invalid setting)
      | none => .ok configuration

inductive File where
  | missing
  | unreadable
  | content (bytes : Text.Bytes)
deriving DecidableEq, Repr, Inhabited

def load : File → Except ConfigurationError Configuration
  | .missing => .ok {}
  | .unreadable => .error .unreadable
  | .content bytes =>
      match Text.ofUtf8? bytes with
      | none => .error .unreadable
      | some text => parse text

def Server.fields (server : Server) : List (String × Scalar) :=
  [("host", .text server.host), ("port", .integer server.port.toNat),
   ("connect_timeout_secs", .integer server.connectTimeoutSecs.toNat)]

def Login.fields (login : Login) : List (String × Scalar) :=
  [("login_timeout_secs", .integer login.timeoutSecs.toNat),
   ("keepalive_interval_secs", .integer login.keepAliveIntervalSecs.toNat),
   ("ping_interval_secs", .integer login.pingIntervalSecs.toNat),
   ("initial_status", .integer login.initialStatus.toNat),
   ("client_version", .text login.clientVersion)]

def outline (configuration : Configuration) : Outline where
  fields := [("log_level", .text configuration.logLevel),
    ("output", .text configuration.display.name)]
  sections := [("server", configuration.server.fields), ("session", configuration.login.fields),
    ("conference", [("buffer_declines", .boolean configuration.bufferDeclines)])]

def render (configuration : Configuration) : Except ConfigurationError String :=
  match configuration.outline.render? with
  | none => .error .unwritable
  | some text => .ok text

/-- The file that holds a configuration, whether it is usable or not. -/
def save (configuration : Configuration) : Except ConfigurationError File :=
  configuration.render.map fun text => .content (Text.utf8 text)

theorem natural?_cast {bound value : Nat} (hbound : value < bound) :
    natural? bound (.scalar (.integer value)) = some value := by
  simp [natural?, hbound]

theorem port?_toNat (port : UInt16) :
    port? (.scalar (.integer port.toNat)) = some port := by
  rw [port?, natural?_cast port.toNat_lt]
  simp

theorem status?_toNat (status : UInt32) :
    status? (.scalar (.integer status.toNat)) = some status := by
  rw [status?, natural?_cast status.toNat_lt]
  simp

theorem seconds?_toNat (seconds : UInt64) :
    seconds? (.scalar (.integer seconds.toNat)) = some seconds := by
  rw [seconds?, natural?_cast seconds.toNat_lt]
  simp

theorem server?_fields (server : Server) :
    server? (.table .header (nodes server.fields)) = some server := by
  have host : field? (nodes server.fields) "host" text? ({} : Server).host =
      some server.host := rfl
  have port : field? (nodes server.fields) "port" port? ({} : Server).port =
      some server.port := port?_toNat server.port
  have timeout : field? (nodes server.fields) "connect_timeout_secs" seconds?
      ({} : Server).connectTimeoutSecs = some server.connectTimeoutSecs :=
    seconds?_toNat server.connectTimeoutSecs
  simp only [server?, fields?, Option.bind_eq_bind, Option.bind_some, host, port, timeout]
  rfl

theorem login?_fields (login : Login) :
    login? (.table .header (nodes login.fields)) = some login := by
  have timeout : field? (nodes login.fields) "login_timeout_secs" seconds?
      ({} : Login).timeoutSecs = some login.timeoutSecs := seconds?_toNat login.timeoutSecs
  have keepAlive : field? (nodes login.fields) "keepalive_interval_secs" seconds?
      ({} : Login).keepAliveIntervalSecs = some login.keepAliveIntervalSecs :=
    seconds?_toNat login.keepAliveIntervalSecs
  have ping : field? (nodes login.fields) "ping_interval_secs" seconds?
      ({} : Login).pingIntervalSecs = some login.pingIntervalSecs :=
    seconds?_toNat login.pingIntervalSecs
  have status : field? (nodes login.fields) "initial_status" status?
      ({} : Login).initialStatus = some login.initialStatus := status?_toNat login.initialStatus
  have version : field? (nodes login.fields) "client_version" text?
      ({} : Login).clientVersion = some login.clientVersion := rfl
  simp only [login?, fields?, Option.bind_eq_bind, Option.bind_some, timeout, keepAlive, ping,
    status, version]
  rfl

theorem ofEntries?_outline (configuration : Configuration) :
    ofEntries? configuration.outline.entries = some configuration := by
  let entries := configuration.outline.entries
  have server : field? entries "server" server? {} = some configuration.server :=
    server?_fields configuration.server
  have login : field? entries "session" login? {} = some configuration.login :=
    login?_fields configuration.login
  have conference : field? entries "conference" conference? false =
      some configuration.bufferDeclines := rfl
  have logLevel : field? entries "log_level" text? ({} : Configuration).logLevel =
      some configuration.logLevel := rfl
  have display : field? entries "output" display? .text = some configuration.display :=
    Display.ofName?_name configuration.display
  change ofEntries? entries = _
  simp only [ofEntries?, Option.bind_eq_bind, Option.bind_some, server, login, conference,
    logLevel, display]
  rfl

end Messenger.Configuration
