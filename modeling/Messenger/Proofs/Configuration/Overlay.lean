import Messenger.Configuration.File
import Messenger.Proofs.Toml.Sheets

/-!
A file changes the fields that it sets and no others. In whatever order it sets them, and whatever
else it holds, what it comes to are the defaults with these fields changed, which are taken if they
can work and refused with the first setting at fault if they cannot.
-/

namespace Messenger.Configuration

open Messenger.Toml

/-- What a file can set. -/
inductive Field where
  | host
  | port
  | connectTimeout
  | loginTimeout
  | keepAliveInterval
  | pingInterval
  | initialStatus
  | clientVersion
  | bufferDeclines
  | logLevel
  | display
deriving DecidableEq, Repr, Inhabited

namespace Field

def Value : Field → Type
  | host | clientVersion | logLevel => String
  | port => UInt16
  | connectTimeout | loginTimeout | keepAliveInterval | pingInterval => UInt64
  | initialStatus => UInt32
  | bufferDeclines => Bool
  | display => Display

/-- The table that a field belongs to, if it belongs to one. -/
def table? : Field → Option String
  | host | port | connectTimeout => some "server"
  | loginTimeout | keepAliveInterval | pingInterval | initialStatus | clientVersion =>
      some "session"
  | bufferDeclines => some "conference"
  | logLevel | display => none

def name : Field → String
  | host => "host"
  | port => "port"
  | connectTimeout => "connect_timeout_secs"
  | loginTimeout => "login_timeout_secs"
  | keepAliveInterval => "keepalive_interval_secs"
  | pingInterval => "ping_interval_secs"
  | initialStatus => "initial_status"
  | clientVersion => "client_version"
  | bufferDeclines => "buffer_declines"
  | logLevel => "log_level"
  | display => "output"

def all : List Field :=
  [host, port, connectTimeout, loginTimeout, keepAliveInterval, pingInterval, initialStatus,
    clientVersion, bufferDeclines, logLevel, display]

theorem mem_all (field : Field) : field ∈ all := by
  cases field <;> decide

def fieldsOf (table? : Option String) : List Field :=
  all.filter fun field => field.table? = table?

theorem mem_fieldsOf (field : Field) : field ∈ fieldsOf field.table? :=
  List.mem_filter.2 ⟨mem_all field, decide_eq_true rfl⟩

theorem names_fieldsOf_nodup (table? : Option String) : ((fieldsOf table?).map name).Nodup :=
  (List.filter_sublist.map name).nodup (by decide)

/-- A value as a file holds it. -/
def scalar : (field : Field) → field.Value → Scalar
  | host, (text : String) => .text text
  | port, (number : UInt16) => .integer number.toNat
  | connectTimeout, (seconds : UInt64) => .integer seconds.toNat
  | loginTimeout, (seconds : UInt64) => .integer seconds.toNat
  | keepAliveInterval, (seconds : UInt64) => .integer seconds.toNat
  | pingInterval, (seconds : UInt64) => .integer seconds.toNat
  | initialStatus, (status : UInt32) => .integer status.toNat
  | clientVersion, (text : String) => .text text
  | bufferDeclines, (flag : Bool) => .boolean flag
  | logLevel, (text : String) => .text text
  | display, (shown : Display) => .text shown.name

def read? : (field : Field) → Node → Option field.Value
  | host | clientVersion | logLevel => text?
  | port => port?
  | connectTimeout | loginTimeout | keepAliveInterval | pingInterval => seconds?
  | initialStatus => status?
  | bufferDeclines => boolean?
  | display => display?

theorem read?_scalar (field : Field) (value : field.Value) :
    field.read? (.scalar (field.scalar value)) = some value := by
  cases field with
  | host | clientVersion | logLevel | bufferDeclines => rfl
  | port => exact port?_toNat value
  | connectTimeout | loginTimeout | keepAliveInterval | pingInterval => exact seconds?_toNat value
  | initialStatus => exact status?_toNat value
  | display => exact Display.ofName?_name value

end Field

def get (configuration : Configuration) : (field : Field) → field.Value
  | .host => configuration.server.host
  | .port => configuration.server.port
  | .connectTimeout => configuration.server.connectTimeoutSecs
  | .loginTimeout => configuration.login.timeoutSecs
  | .keepAliveInterval => configuration.login.keepAliveIntervalSecs
  | .pingInterval => configuration.login.pingIntervalSecs
  | .initialStatus => configuration.login.initialStatus
  | .clientVersion => configuration.login.clientVersion
  | .bufferDeclines => configuration.bufferDeclines
  | .logLevel => configuration.logLevel
  | .display => configuration.display

/-- New values for some of the fields. -/
abbrev Changes := (field : Field) → Option field.Value

/-- The defaults with these fields changed and all others left alone. -/
def overlay (changes : Changes) : Configuration :=
  let chosen (field : Field) : field.Value :=
    (changes field).getD (get ({} : Configuration) field)
  { server :=
      { host := chosen .host
        port := chosen .port
        connectTimeoutSecs := chosen .connectTimeout }
    login :=
      { timeoutSecs := chosen .loginTimeout
        keepAliveIntervalSecs := chosen .keepAliveInterval
        pingIntervalSecs := chosen .pingInterval
        initialStatus := chosen .initialStatus
        clientVersion := chosen .clientVersion }
    bufferDeclines := chosen .bufferDeclines
    logLevel := chosen .logLevel
    display := chosen .display }

theorem get_overlay (changes : Changes) (field : Field) :
    get (overlay changes) field = (changes field).getD (get ({} : Configuration) field) := by
  cases field <;> rfl

def tableNames : List String :=
  ["server", "session", "conference"]

/-- The entries of a table, none if it is missing. -/
def tableOf? (tree : Entries) (name : String) : Option Entries :=
  match tree.lookup name with
  | none => some []
  | some (.table _ entries) => some entries
  | some _ => none

def nodeOf? (tree : Entries) (field : Field) : Option Node :=
  match field.table? with
  | none => tree.lookup field.name
  | some table => (tableOf? tree table).bind (·.lookup field.name)

/-- The tree sets these fields and no others. What it holds under other names is left open. -/
structure Sets (tree : Entries) (changes : Changes) : Prop where
  tables : ∀ name ∈ tableNames, tableOf? tree name ≠ none
  nodes : ∀ field, nodeOf? tree field =
    (changes field).map fun value => .scalar (field.scalar value)

/-- Entries that set the fields of a table and no others of it. -/
def SetsTable (table? : Option String) (entries : Entries) (changes : Changes) : Prop :=
  ∀ field : Field, field.table? = table? → entries.lookup field.name =
    (changes field).map fun value => .scalar (field.scalar value)

section Reading

variable {tree entries : Entries} {changes : Changes}

theorem field?_eq_get {table? : Option String} (h : SetsTable table? entries changes)
    (field : Field) (hfield : field.table? = table?) :
    field? entries field.name field.read? (get ({} : Configuration) field) =
      some (get (overlay changes) field) := by
  rw [field?, h field hfield, get_overlay]
  cases changes field with
  | none => rfl
  | some value => exact field.read?_scalar value

theorem server?_eq_overlay (h : SetsTable (some "server") entries changes) :
    server? (.table .header entries) = some (overlay changes).server := by
  have host : field? entries "host" text? ({} : Server).host =
      some (overlay changes).server.host := field?_eq_get h .host rfl
  have port : field? entries "port" port? ({} : Server).port =
      some (overlay changes).server.port := field?_eq_get h .port rfl
  have timeout : field? entries "connect_timeout_secs" seconds?
      ({} : Server).connectTimeoutSecs = some (overlay changes).server.connectTimeoutSecs :=
    field?_eq_get h .connectTimeout rfl
  simp only [server?, fields?, Option.bind_eq_bind, Option.bind_some, host, port, timeout]
  rfl

theorem login?_eq_overlay (h : SetsTable (some "session") entries changes) :
    login? (.table .header entries) = some (overlay changes).login := by
  have timeout : field? entries "login_timeout_secs" seconds? ({} : Login).timeoutSecs =
      some (overlay changes).login.timeoutSecs := field?_eq_get h .loginTimeout rfl
  have keepAlive : field? entries "keepalive_interval_secs" seconds?
      ({} : Login).keepAliveIntervalSecs = some (overlay changes).login.keepAliveIntervalSecs :=
    field?_eq_get h .keepAliveInterval rfl
  have ping : field? entries "ping_interval_secs" seconds? ({} : Login).pingIntervalSecs =
      some (overlay changes).login.pingIntervalSecs := field?_eq_get h .pingInterval rfl
  have status : field? entries "initial_status" status? ({} : Login).initialStatus =
      some (overlay changes).login.initialStatus := field?_eq_get h .initialStatus rfl
  have version : field? entries "client_version" text? ({} : Login).clientVersion =
      some (overlay changes).login.clientVersion := field?_eq_get h .clientVersion rfl
  simp only [login?, fields?, Option.bind_eq_bind, Option.bind_some, timeout, keepAlive, ping,
    status, version]
  rfl

theorem conference?_eq_overlay (h : SetsTable (some "conference") entries changes) :
    conference? (.table .header entries) = some (overlay changes).bufferDeclines :=
  field?_eq_get h .bufferDeclines rfl

/-- A table that is missing reads as an empty one, and it does not matter how it was opened. -/
theorem field?_of_tableOf? {α : Type} {name : String} (read? : Node → Option α) {default : α}
    (htable : tableOf? tree name = some entries)
    (horigin : ∀ origin, read? (.table origin entries) = read? (.table .header entries))
    (hempty : read? (.table .header []) = some default) :
    field? tree name read? default = read? (.table .header entries) := by
  rw [tableOf?] at htable
  rw [field?]
  split at htable
  · rename_i hnone
    cases htable
    rw [hnone, hempty]
  · rename_i origin inner hsome
    cases htable
    rw [hsome]
    exact horigin origin
  · cases htable

theorem Sets.setsTable (h : Sets tree changes) (name : String) (hname : name ∈ tableNames) :
    ∃ entries, tableOf? tree name = some entries ∧ SetsTable (some name) entries changes := by
  obtain ⟨entries, hentries⟩ := Option.ne_none_iff_exists'.1 (h.tables name hname)
  refine ⟨entries, hentries, fun field hfield => ?_⟩
  have hnode := h.nodes field
  simpa only [nodeOf?, hfield, hentries, Option.bind_some] using hnode

theorem Sets.setsTop (h : Sets tree changes) : SetsTable none tree changes := fun field hfield => by
  have hnode := h.nodes field
  simpa only [nodeOf?, hfield] using hnode

/-- Each of the three places where a default can stand gives the same one. -/
theorem ofEntries?_eq_overlay (h : Sets tree changes) :
    ofEntries? tree = some (overlay changes) := by
  obtain ⟨_, hserverTable, hserver⟩ := h.setsTable "server" (by decide)
  obtain ⟨_, hloginTable, hlogin⟩ := h.setsTable "session" (by decide)
  obtain ⟨_, hconferenceTable, hconference⟩ := h.setsTable "conference" (by decide)
  have server : field? tree "server" server? {} = some (overlay changes).server :=
    (field?_of_tableOf? server? hserverTable (fun _ => rfl) rfl).trans (server?_eq_overlay hserver)
  have login : field? tree "session" login? {} = some (overlay changes).login :=
    (field?_of_tableOf? login? hloginTable (fun _ => rfl) rfl).trans (login?_eq_overlay hlogin)
  have conference : field? tree "conference" conference? false =
      some (overlay changes).bufferDeclines :=
    (field?_of_tableOf? conference? hconferenceTable (fun _ => rfl) rfl).trans
      (conference?_eq_overlay hconference)
  have logLevel : field? tree "log_level" text? ({} : Configuration).logLevel =
      some (overlay changes).logLevel := field?_eq_get h.setsTop .logLevel rfl
  have display : field? tree "output" display? .text = some (overlay changes).display :=
    field?_eq_get h.setsTop .display rfl
  simp only [ofEntries?, Option.bind_eq_bind, Option.bind_some, server, login, conference,
    logLevel, display]
  rfl

end Reading

/-- The file stands for this configuration, which is taken if it can work and refused with the
first setting at fault if it cannot. -/
structure LoadsAs (file : File) (configuration : Configuration) : Prop where
  accepted : (∀ setting, configuration.value setting ≠ 0) → load file = .ok configuration
  refused : ∀ before setting after,
    [.connectTimeout, .loginTimeout, .keepAliveInterval, .pingInterval, .port] =
        before ++ setting :: after →
      (∀ earlier ∈ before, configuration.value earlier ≠ 0) →
      configuration.value setting = 0 → load file = .error (.invalid setting)

theorem fault?_eq_some {configuration : Configuration} {before after : List Setting}
    {setting : Setting} (hall : Setting.all = before ++ setting :: after)
    (hbefore : ∀ earlier ∈ before, configuration.value earlier ≠ 0)
    (hzero : configuration.value setting = 0) : configuration.fault? = some setting := by
  refine List.find?_eq_some_iff_append.2 ⟨by simpa using hzero, before, after, hall, ?_⟩
  intro earlier hmem
  simpa using hbefore earlier hmem

theorem loadsAs_of_ofEntries? {text : String} {tree : Entries} {configuration : Configuration}
    (hparse : Toml.parse? text = some tree) (htree : ofEntries? tree = some configuration) :
    LoadsAs (.content (Text.utf8 text)) configuration where
  accepted hvalues := by
    have hfault := fault?_eq_none_iff.2 hvalues
    simp [load, parse, hparse, htree, hfault]
  refused before setting after hall hbefore hzero := by
    have hfault := fault?_eq_some hall hbefore hzero
    simp [load, parse, hparse, htree, hfault]

theorem value_ne_zero_of_load {file : File} {configuration : Configuration}
    (h : load file = .ok configuration) (setting : Setting) : configuration.value setting ≠ 0 := by
  revert setting
  refine fault?_eq_none_iff.1 ?_
  cases file with
  | missing =>
      cases h
      decide
  | unreadable => cases h
  | content bytes =>
      simp only [load] at h
      split at h
      · cases h
      · rw [parse] at h
        split at h
        · cases h
        · split at h
          · cases h
          · rename_i hfault
            cases h
            exact hfault

/-- Whole seconds are written as numbers with a sign, and everything else fits anyway. -/
def Fits (changes : Changes) : Prop :=
  ∀ field value, changes field = some value → (field.scalar value).isWritable = true

namespace Changes

variable {changes : Changes}

def line? (changes : Changes) (field : Field) : Option (String × WrittenValue) :=
  (changes field).bind fun value =>
    if h : (field.scalar value).isWritable = true then
      some (field.name, .ofScalar (field.scalar value) h)
    else none

theorem line?_eq_none {field : Field} (h : changes field = none) : changes.line? field = none := by
  rw [line?, h, Option.bind_none]

theorem line?_eq_some (hfits : Fits changes) {field : Field} {value : field.Value}
    (h : changes field = some value) :
    ∃ written, changes.line? field = some (field.name, written) ∧
      written.node = .scalar (field.scalar value) := by
  have hwritable := hfits field value h
  exact ⟨.ofScalar _ hwritable, by rw [line?, h, Option.bind_some, dif_pos hwritable],
    WrittenValue.node_ofScalar _ hwritable⟩

def block (changes : Changes) (fields : List Field) : Block :=
  fields.filterMap changes.line?

theorem names_block_sublist (hfits : Fits changes) (fields : List Field) :
    (changes.block fields).names.Sublist (fields.map Field.name) := by
  induction fields with
  | nil => exact .slnil
  | cons field fields induction =>
      rw [block, List.filterMap_cons]
      cases hchange : changes field with
      | none =>
          rw [line?_eq_none hchange]
          exact induction.cons field.name
      | some value =>
          obtain ⟨written, hline, -⟩ := line?_eq_some hfits hchange
          rw [hline]
          exact induction.cons_cons field.name

theorem lookup_block (hfits : Fits changes) {fields : List Field}
    (hnames : (fields.map Field.name).Nodup) {field : Field} (hfield : field ∈ fields) :
    (changes.block fields).entries.lookup field.name =
      (changes field).map fun value => .scalar (field.scalar value) := by
  induction fields with
  | nil => cases hfield
  | cons first fields induction =>
      rw [List.map_cons, List.nodup_cons] at hnames
      have hfresh : first.name ∉ (changes.block fields).entries.names := fun hmem => by
        rw [Block.names_entries] at hmem
        exact hnames.1 ((names_block_sublist hfits fields).subset hmem)
      rw [block, List.filterMap_cons]
      rcases List.mem_cons.1 hfield with rfl | hmem
      · cases hchange : changes field with
        | none =>
            rw [line?_eq_none hchange]
            exact Entries.lookup_of_notMem hfresh
        | some value =>
            obtain ⟨written, hline, hnode⟩ := line?_eq_some hfits hchange
            rw [hline]
            simp [Block.entries, hnode]
      · cases hchange : changes first with
        | none =>
            rw [line?_eq_none hchange]
            exact induction hnames.2 hmem
        | some value =>
            obtain ⟨written, hline, -⟩ := line?_eq_some hfits hchange
            have hne : (field.name == first.name) = false :=
              beq_eq_false_iff_ne.2 fun heq => hnames.1 (heq ▸ List.mem_map_of_mem hmem)
            rw [hline]
            simpa [block, Block.entries, List.lookup_cons, hne] using induction hnames.2 hmem

/-- The tables one behind the other, each with the lines of its fields. -/
def sheet (changes : Changes) (hfits : Fits changes) : Sheet where
  front := changes.block (Field.fieldsOf none)
  sections := tableNames.map fun name => (name, changes.block (Field.fieldsOf (some name)))
  names_nodup := by
    rw [List.map_map]
    exact ((names_block_sublist hfits _).append (List.Sublist.refl tableNames)).nodup (by decide)
  sectionNames_nodup part hpart := by
    obtain ⟨name, -, rfl⟩ := List.mem_map.1 hpart
    exact (names_block_sublist hfits _).nodup (Field.names_fieldsOf_nodup (some name))

theorem tableOf?_sheet (hfits : Fits changes) {name : String} (hname : name ∈ tableNames) :
    tableOf? (changes.sheet hfits).tree name =
      some (changes.block (Field.fieldsOf (some name))).entries := by
  have htables : ∀ name ∈ tableNames, name ∉ (Field.fieldsOf none).map Field.name := by decide
  have hfresh : name ∉ (changes.block (Field.fieldsOf none)).entries.names := fun hmem => by
    rw [Block.names_entries] at hmem
    exact htables name hname ((names_block_sublist hfits _).subset hmem)
  have hlookup : (changes.sheet hfits).tree.lookup name =
      some (.table .header (changes.block (Field.fieldsOf (some name))).entries) := by
    simp only [Sheet.tree, sheet, List.lookup_append, Entries.lookup_of_notMem hfresh,
      Option.none_or]
    simp only [tableNames, List.mem_cons, List.not_mem_nil, or_false] at hname
    rcases hname with rfl | rfl | rfl <;> rfl
  rw [tableOf?, hlookup]

theorem lookup_sheet (hfits : Fits changes) {name : String} (hname : name ∉ tableNames) :
    (changes.sheet hfits).tree.lookup name =
      (changes.block (Field.fieldsOf none)).entries.lookup name := by
  have hnone : (changes.sheet hfits).headed.lookup name = none := Entries.lookup_of_notMem hname
  rw [Sheet.tree, List.lookup_append, hnone, Option.or_none]
  rfl

theorem sets_sheet (hfits : Fits changes) : Sets (changes.sheet hfits).tree changes where
  tables name hname := by simp [tableOf?_sheet hfits hname]
  nodes field := by
    have hblock := lookup_block hfits (Field.names_fieldsOf_nodup field.table?) field.mem_fieldsOf
    rw [nodeOf?]
    cases htable : field.table? with
    | none =>
        have hname : ∀ field ∈ Field.fieldsOf none, field.name ∉ tableNames := by decide
        rw [htable] at hblock
        exact (lookup_sheet hfits (hname field (htable ▸ field.mem_fieldsOf))).trans hblock
    | some table =>
        have htables : ∀ field ∈ Field.all, ∀ table ∈ field.table?, table ∈ tableNames := by decide
        rw [htable] at hblock
        have hname := htables field field.mem_all table htable
        exact (congrArg (·.bind (·.lookup field.name)) (tableOf?_sheet hfits hname)).trans hblock

end Changes

/-- A file that sets some of the fields loads as the defaults with exactly these fields changed, if
they can work together, and names the first setting at fault otherwise. It may be a sheet, whatever
its order and its other names are, or any other document that holds the fields in a tree; there is a
sheet for any changes that fit; and no file at all loads as what cannot work. -/
theorem load_overlay :
    (∀ (sheet : Sheet) (changes : Changes), Sets sheet.tree changes →
      LoadsAs (.content (Text.utf8 sheet.text)) (overlay changes)) ∧
    (∀ (text : String) (tree : Entries) (changes : Changes), Toml.parse? text = some tree →
      Sets tree changes → LoadsAs (.content (Text.utf8 text)) (overlay changes)) ∧
    (∀ changes : Changes, Fits changes → ∃ sheet : Sheet, Sets sheet.tree changes) ∧
    ∀ (file : File) (configuration : Configuration), load file = .ok configuration →
      ∀ setting, configuration.value setting ≠ 0 := by
  refine ⟨fun sheet changes hsets => ?_, fun text tree changes hparse hsets => ?_,
    fun changes hfits => ⟨changes.sheet hfits, changes.sets_sheet hfits⟩,
    fun file configuration => value_ne_zero_of_load⟩
  · exact loadsAs_of_ofEntries? sheet.parse?_text (ofEntries?_eq_overlay hsets)
  · exact loadsAs_of_ofEntries? hparse (ofEntries?_eq_overlay hsets)

/-- Two fields at fault, between names that stand for nothing. -/
def untidySheet : Sheet where
  front := [("time zone", .text "UTC"), ("output", .text "json")]
  sections := [("extra", [("port", .boolean true)]),
    ("server", [("port", .integer 0 (by decide) (by decide)), ("nick\n", .text "\"ann\""),
      ("host", .text "127.0.0.1")]),
    ("session", [("ping_interval_secs", .integer 0 (by decide) (by decide))])]
  names_nodup := by decide
  sectionNames_nodup := by decide

def untidyChanges : Changes
  | .display => some Display.json
  | .host => some "127.0.0.1"
  | .port => some (0 : UInt16)
  | .pingInterval => some (0 : UInt64)
  | _ => none

def usableChanges : Changes
  | .display => some Display.json
  | .bufferDeclines => some true
  | _ => none

/-- The interval is named in front of the port, as the settings are checked. Without the two the
file can be used. -/
theorem load_untidySheet :
    Toml.parse? untidySheet.text = some untidySheet.tree ∧ Sets untidySheet.tree untidyChanges ∧
      load (.content (Text.utf8 untidySheet.text)) = .error (.invalid .pingInterval) ∧
      Fits usableChanges ∧
      ∃ file, load file = .ok { bufferDeclines := true, display := .json } ∧
        value { bufferDeclines := true, display := .json } .pingInterval ≠ 0 := by
  have hparse := untidySheet.parse?_text
  have hsets : Sets untidySheet.tree untidyChanges :=
    { tables := by decide
      nodes := fun field => by cases field <;> rfl }
  have hfits : Fits usableChanges := fun field value h => by
    cases field with
    | display | bufferDeclines => rfl
    | _ => cases h
  obtain ⟨sheet, hsheet⟩ := load_overlay.2.2.1 usableChanges hfits
  have hload := (load_overlay.1 sheet usableChanges hsheet).accepted fun setting => by
    cases setting <;> decide
  refine ⟨hparse, hsets, ?_, hfits, _, hload, load_overlay.2.2.2 _ _ hload .pingInterval⟩
  exact (load_overlay.2.1 _ _ untidyChanges hparse hsets).refused
    [.connectTimeout, .loginTimeout, .keepAliveInterval] .pingInterval [.port] rfl (by decide) rfl

end Messenger.Configuration
