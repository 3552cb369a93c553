import Messenger.Conference.Store
import Messenger.Session.State

/-!
What a user may set: the server, the login and its intervals, the rooms, and how events are shown.
Times are in whole seconds, and no time that is waited for is zero.
-/

namespace Messenger

inductive Display where
  | text
  | json
deriving DecidableEq, Repr, Inhabited

namespace Display

def name : Display → String
  | text => "text"
  | json => "json"

def ofName? (name : String) : Option Display :=
  [text, json].find? fun display => display.name == name

theorem ofName?_name (display : Display) : ofName? display.name = some display := by
  cases display <;> decide

end Display

namespace Configuration

structure Server where
  host : String := "scs.msg.yahoo.com"
  port : UInt16 := 5050
  connectTimeoutSecs : UInt64 := 30
deriving DecidableEq, Repr, Inhabited

structure Login where
  timeoutSecs : UInt64 := 60
  keepAliveIntervalSecs : UInt64 := 60
  pingIntervalSecs : UInt64 := 3600
  initialStatus : UInt32 := 0
  clientVersion : String := "6,0,0,1710"
deriving DecidableEq, Repr, Inhabited

end Configuration

structure Configuration where
  server : Configuration.Server := {}
  login : Configuration.Login := {}
  bufferDeclines : Bool := false
  logLevel : String := "info"
  display : Display := .text
deriving DecidableEq, Repr, Inhabited

namespace Configuration

inductive Setting where
  | connectTimeout
  | loginTimeout
  | keepAliveInterval
  | pingInterval
  | port
deriving DecidableEq, Repr, Inhabited

namespace Setting

def name : Setting → String
  | connectTimeout => "server.connect_timeout_secs"
  | loginTimeout => "session.login_timeout_secs"
  | keepAliveInterval => "session.keepalive_interval_secs"
  | pingInterval => "session.ping_interval_secs"
  | port => "server.port"

def rule : Setting → String
  | port => "must not be 0"
  | _ => "must be at least 1 second"

def all : List Setting :=
  [connectTimeout, loginTimeout, keepAliveInterval, pingInterval, port]

end Setting

def value (configuration : Configuration) : Setting → Nat
  | .connectTimeout => configuration.server.connectTimeoutSecs.toNat
  | .loginTimeout => configuration.login.timeoutSecs.toNat
  | .keepAliveInterval => configuration.login.keepAliveIntervalSecs.toNat
  | .pingInterval => configuration.login.pingIntervalSecs.toNat
  | .port => configuration.server.port.toNat

def fault? (configuration : Configuration) : Option Setting :=
  Setting.all.find? fun setting => configuration.value setting == 0

theorem fault?_eq_none_iff {configuration : Configuration} :
    configuration.fault? = none ↔ ∀ setting, configuration.value setting ≠ 0 := by
  constructor
  · intro h setting
    have hall : setting ∈ Setting.all := by cases setting <;> decide
    simpa using List.find?_eq_none.1 h setting hall
  · intro h
    exact List.find?_eq_none.2 fun setting _ => by simpa using h setting

def address (server : Server) : String :=
  s!"{server.host}:{server.port}"

def bufferPolicy (configuration : Configuration) : Conference.BufferPolicy :=
  { declines := configuration.bufferDeclines }

def sessionConfig (configuration : Configuration) : SessionConfig where
  loginTimeout := 1000 * configuration.login.timeoutSecs.toNat
  keepAliveInterval := 1000 * configuration.login.keepAliveIntervalSecs.toNat
  pingInterval := 1000 * configuration.login.pingIntervalSecs.toNat
  initialStatus := configuration.login.initialStatus
  clientVersion := configuration.login.clientVersion

end Configuration

inductive ConfigurationError where
  | unreadable
  | malformed
  | unwritable
  | invalid (setting : Configuration.Setting)
deriving DecidableEq, Repr, Inhabited

def ConfigurationError.message : ConfigurationError → String
  | unreadable => "the configuration cannot be read"
  | malformed => "the configuration is malformed"
  | unwritable => "the configuration cannot be written"
  | invalid setting => s!"invalid config value for {setting.name}: {setting.rule}"

end Messenger
