import Keyring.File.Disk
import Keyring.Json.Codec
import Keyring.Selector.Chain

/-!
# Configuration

An optional JSON file overrides the built-in settings field by field, at both of its levels.  Fields
that are not known are refused, so that a misspelt one is noticed.  A file that does not exist means
the built-in settings.

The module also says where the files of the program are: a flag decides first, then an environment
variable, then the directories of the user.
-/

namespace Keyring

/-- The preferred kind of selector. -/
inductive SelectorKind
  | fzf
  | builtin
deriving DecidableEq, Repr

/-- Settings of the selector. -/
structure SelectorConfig where
  kind : SelectorKind
  picker : PickerOptions
deriving DecidableEq, Repr

/-- The settings. -/
structure Config where
  keysFile : Option String
  cacheFile : Option String
  logLevel : String
  command : String
  envPrefix : String
  selector : SelectorConfig
deriving DecidableEq, Repr

namespace SelectorConfig

/-- The built-in settings of the selector. -/
def standard : SelectorConfig :=
  ⟨.fzf, .standard⟩

/-- The names of the kinds. -/
def kinds : List (String × SelectorKind) :=
  [("fzf", .fzf), ("builtin", .builtin)]

/-- The name of a kind. -/
def kindName : SelectorKind → String
  | .fzf => "fzf"
  | .builtin => "builtin"

/-- The settings with another picker. -/
def withPicker (c : SelectorConfig) (f : PickerOptions → PickerOptions) : SelectorConfig :=
  { c with picker := f c.picker }

/-- The fields of the selector's settings. -/
def shape : Json.Shape SelectorConfig where
  title := "struct SelectorConfig"
  blank := standard
  closed := true
  fields :=
    [.of "kind" false (.choice kinds) fun v c => { c with kind := v },
     .of "fzfBinary" false (.text "a string") fun v c => c.withPicker ({ · with program := v }),
     .of "height" false (.text "a string") fun v c => c.withPicker ({ · with height := v }),
     .of "border" false .bool fun v c => c.withPicker ({ · with border := v }),
     .of "reverse" false .bool fun v c => c.withPicker ({ · with reverse := v })]

/-- The settings as a value. -/
def json (c : SelectorConfig) : Json :=
  .object [("kind", .string (kindName c.kind)), ("fzfBinary", .string c.picker.program),
    ("height", .string c.picker.height), ("border", .bool c.picker.border),
    ("reverse", .bool c.picker.reverse)]

/-- The selectors in the order in which they are asked. -/
def chain (c : SelectorConfig) : List Selector :=
  match c.kind with
  | .fzf => [.picker c.picker, .menu]
  | .builtin => [.menu]

end SelectorConfig

/-- Where the key store and the marker are kept. -/
structure StorePaths where
  keys : String
  lastUsed : String
deriving DecidableEq, Repr

/-- What is wrong with a configuration file. -/
inductive ConfigFault
  | unreadable (path : String) (error : OsError)
  | invalid (path text : String) (fault : Json.Fault)
deriving DecidableEq, Repr

/-- The wording of a fault. -/
def ConfigFault.message : ConfigFault → String
  | .unreadable path error => "failed to read config " ++ path ++ ": " ++ error.message
  | .invalid path text fault => "invalid config " ++ path ++ ": " ++ fault.message text

namespace Config

/-- The built-in settings. -/
def standard : Config :=
  ⟨none, none, "warn", "claude", "ANTHROPIC_", .standard⟩

/-- The codec of a path. -/
def pathCodec : Json.Codec (Option String) :=
  .optional (.text "path string")

/-- The fields of the settings. -/
def shape : Json.Shape Config where
  title := "struct AppConfig"
  blank := standard
  closed := true
  fields :=
    [.of "keysFile" false pathCodec fun v c => { c with keysFile := v },
     .of "cacheFile" false pathCodec fun v c => { c with cacheFile := v },
     .of "logLevel" false (.text "a string") fun v c => { c with logLevel := v },
     .of "command" false (.text "a string") fun v c => { c with command := v },
     .of "envPrefix" false (.text "a string") fun v c => { c with envPrefix := v },
     .of "selector" false SelectorConfig.shape.codec fun v c => { c with selector := v }]

/-- The settings as a value. -/
def json (c : Config) : Json :=
  .object [("keysFile", .text? c.keysFile), ("cacheFile", .text? c.cacheFile),
    ("logLevel", .string c.logLevel), ("command", .string c.command),
    ("envPrefix", .string c.envPrefix), ("selector", c.selector.json)]

/-- Reads the text of a configuration file. -/
def ofText (text : String) : Except Json.Fault Config :=
  shape.codec.parse text

/-- Reads settings from a value. -/
def ofJson (value : Json) : Except Json.Mismatch Config :=
  shape.codec.ofJson value

/-- Loads a configuration file. -/
def load (disk : Disk) (path : String) : Except ConfigFault Config :=
  if disk.present path then
    match disk.readText path with
    | .error e => .error (.unreadable path e)
    | .ok text => (ofText text).mapError (.invalid path text)
  else .ok standard

/-- A configured path under the data directory, or another name there. -/
def under (dataDirectory : String) (custom : Option String) (name : String) : String :=
  Path.join dataDirectory (custom.getD name)

/-- Where the key store and the marker are kept. -/
def paths (c : Config) (dataDirectory : String) : StorePaths :=
  ⟨under dataDirectory c.keysFile "keys.json", under dataDirectory c.cacheFile "last_used"⟩

end Config

namespace Location

/-- The value of a variable that is set to something. -/
def setting? (environment : List (String × String)) (name : String) : Option String :=
  (environment.lookup name).filter fun v => !v.isEmpty

/-- The home directory of the user. -/
def home (environment : List (String × String)) : String :=
  (setting? environment "HOME").getD "/root"

/-- A directory of the user for a purpose: the one that a variable names with an absolute path, or
one below the home directory. -/
def userDirectory (environment : List (String × String)) (name below : String) : String :=
  let base :=
    match (setting? environment name).filter Path.isAbsolute with
    | some directory => directory
    | none => Path.join (home environment) below
  Path.join base "keyswitch"

/-- The path of the configuration file. -/
def config (flag setting : Option String) (environment : List (String × String)) : String :=
  match flag, setting.filter fun v => !v.isEmpty with
  | some path, _ => path
  | none, some path => path
  | none, none => Path.join (userDirectory environment "XDG_CONFIG_HOME" ".config") "config.json"

/-- The data directory. -/
def data (flag setting : Option String) (environment : List (String × String)) : String :=
  match flag, setting.filter fun v => !v.isEmpty with
  | some path, _ => path
  | none, some path => path
  | none, none => userDirectory environment "XDG_DATA_HOME" ".local/share"

end Location
end Keyring
