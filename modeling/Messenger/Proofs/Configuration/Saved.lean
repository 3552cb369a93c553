import Messenger.Configuration.File
import Messenger.Proofs.Toml.RoundTrip

/-!
A configuration that is saved can be loaded again. Nothing but seconds can be too great for a file,
and the file of a configuration that cannot work is refused with the setting at fault.
-/

namespace Messenger.Configuration

open Messenger.Toml

variable {configuration : Configuration}

/-- The texts that a user chooses freely. -/
structure HasVerbatimTexts (configuration : Configuration) : Prop where
  host : IsVerbatim configuration.server.host
  clientVersion : IsVerbatim configuration.login.clientVersion
  logLevel : IsVerbatim configuration.logLevel

/-- Whole seconds are written as numbers with a sign. -/
def FitsFile (configuration : Configuration) : Prop :=
  ∀ setting, setting ≠ .port → configuration.value setting ≤ 0x7fffffffffffffff

theorem isVerbatim_name (display : Display) : IsVerbatim display.name := by
  cases display <;> decide

theorem isReadable_cast {value : Nat} (h : value ≤ 0x7fffffffffffffff) :
    (Scalar.integer value).IsReadable := by
  simp only [Scalar.IsReadable, leastInteger, greatestInteger]
  omega

theorem isReadable_port (port : UInt16) : (Scalar.integer port.toNat).IsReadable :=
  isReadable_cast (Nat.le_trans (Nat.le_of_lt port.toNat_lt) (by decide))

theorem isReadable_status (status : UInt32) : (Scalar.integer status.toNat).IsReadable :=
  isReadable_cast (Nat.le_trans (Nat.le_of_lt status.toNat_lt) (by decide))

theorem areReadable_server {server : Server} (hhost : IsVerbatim server.host)
    (htimeout : server.connectTimeoutSecs.toNat ≤ 0x7fffffffffffffff) :
    AreReadable server.fields :=
  .cons (by decide) hhost <|
  .cons (by decide) (isReadable_port server.port) <|
  .cons (by decide) (isReadable_cast htimeout) .nil

theorem areReadable_login {login : Login} (hversion : IsVerbatim login.clientVersion)
    (htimeout : login.timeoutSecs.toNat ≤ 0x7fffffffffffffff)
    (hkeepAlive : login.keepAliveIntervalSecs.toNat ≤ 0x7fffffffffffffff)
    (hping : login.pingIntervalSecs.toNat ≤ 0x7fffffffffffffff) : AreReadable login.fields :=
  .cons (by decide) (isReadable_cast htimeout) <|
  .cons (by decide) (isReadable_cast hkeepAlive) <|
  .cons (by decide) (isReadable_cast hping) <|
  .cons (by decide) (isReadable_status login.initialStatus) <|
  .cons (by decide) hversion .nil

theorem isReadable_outline (htexts : HasVerbatimTexts configuration)
    (hfits : FitsFile configuration) : configuration.outline.IsReadable where
  fields :=
    .cons (by decide) htexts.logLevel <|
    .cons (by decide) (isVerbatim_name configuration.display) .nil
  sections := by
    have hserver := areReadable_server htexts.host (hfits .connectTimeout (by decide))
    have hlogin := areReadable_login htexts.clientVersion (hfits .loginTimeout (by decide))
      (hfits .keepAliveInterval (by decide)) (hfits .pingInterval (by decide))
    have hconference : AreReadable [("buffer_declines", .boolean configuration.bufferDeclines)] :=
      .cons (by decide) trivial .nil
    simp only [outline, List.forall_mem_cons, List.not_mem_nil, false_implies, implies_true]
    exact ⟨⟨by decide, hserver⟩, ⟨by decide, hlogin⟩, ⟨by decide, hconference⟩, trivial⟩
  names_nodup := by
    change (["log_level", "output"] ++ ["server", "session", "conference"]).Nodup
    decide
  fieldNames_nodup := by
    simp only [outline, List.forall_mem_cons, List.not_mem_nil, false_implies, implies_true]
    refine ⟨?_, ?_, ?_, trivial⟩
    · change ["host", "port", "connect_timeout_secs"].Nodup
      decide
    · change ["login_timeout_secs", "keepalive_interval_secs", "ping_interval_secs",
        "initial_status", "client_version"].Nodup
      decide
    · change ["buffer_declines"].Nodup
      decide

theorem mem_scalars (configuration : Configuration) (setting : Setting) :
    Scalar.integer (configuration.value setting) ∈
      (configuration.outline.fields ++ configuration.outline.sections.flatMap Prod.snd).map
        Prod.snd := by
  cases setting <;> simp [outline, Server.fields, Login.fields, value]

/-- One value that no file can hold makes the whole configuration unwritable. -/
theorem save_of_lt {setting : Setting} (h : 0x7fffffffffffffff < configuration.value setting) :
    save configuration = .error .unwritable := by
  have hvalue : (Scalar.integer (configuration.value setting)).isWritable = false := by
    have hgreatest : ¬ (configuration.value setting : Int) ≤ greatestInteger := by
      simp only [greatestInteger]
      omega
    simp [Scalar.isWritable, hgreatest]
  have hrender : configuration.outline.render? = none := if_neg fun hall => by
    have hwritable := List.all_eq_true.1 hall _ (mem_scalars configuration setting)
    simp [hvalue] at hwritable
  rw [save, render, hrender]
  rfl

/-- What a file says is refused with the setting that is at fault, or taken as it is. -/
theorem load_save_of_fits (htexts : HasVerbatimTexts configuration)
    (hfits : FitsFile configuration) : ∃ file, save configuration = .ok file ∧
      load file = match configuration.fault? with
        | some setting => .error (.invalid setting)
        | none => .ok configuration := by
  obtain ⟨text, hrender, hparse⟩ := Outline.parse?_render? (isReadable_outline htexts hfits)
  refine ⟨.content (Text.utf8 text), ?_, ?_⟩
  · rw [save, render, hrender]
    rfl
  · have hparsed : (Toml.parse? text).bind ofEntries? = some configuration := by
      rw [hparse, Option.bind_some, ofEntries?_outline]
    cases hfault : configuration.fault? <;> simp [load, parse, hparsed, hfault]

/-- Saving fails for too many seconds and for nothing else. What was saved loads as it was if it can
work, and is refused with the setting at fault if it cannot. -/
theorem load_save (configuration : Configuration) (htexts : HasVerbatimTexts configuration) :
    (save configuration = .error .unwritable ↔
      ∃ setting, setting ≠ .port ∧ 0x7fffffffffffffff < configuration.value setting) ∧
    ((∀ setting, setting ≠ .port → configuration.value setting ≤ 0x7fffffffffffffff) →
      ∃ file, save configuration = .ok file ∧
        load file = match configuration.fault? with
          | some setting => .error (.invalid setting)
          | none => .ok configuration) := by
  refine ⟨⟨fun hsave => ?_, fun ⟨_, _, hlt⟩ => save_of_lt hlt⟩, load_save_of_fits htexts⟩
  refine Classical.byContradiction fun hnone => ?_
  have hfits : FitsFile configuration := fun setting hport =>
    Nat.le_of_not_lt fun hlt => hnone ⟨setting, hport, hlt⟩
  obtain ⟨file, hfile, -⟩ := load_save_of_fits htexts hfits
  rw [hsave] at hfile
  cases hfile

/-- Quotation marks and backslashes do not get lost. -/
theorem load_save_quoted :
    ∃ file, save { logLevel := "\\\"debug\"" } = .ok file ∧
      load file = .ok { logLevel := "\\\"debug\"" } :=
  (load_save { logLevel := "\\\"debug\"" } ⟨by decide, by decide, by decide⟩).2
    fun setting _ => by cases setting <;> decide

end Messenger.Configuration
