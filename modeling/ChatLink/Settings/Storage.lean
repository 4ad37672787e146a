import ChatLink.Files.Store
import ChatLink.Json.Reader
import ChatLink.Json.Writer
import ChatLink.Settings.Basic

namespace ChatLink

abbrev Environment := List (String × String)

namespace Settings

variable [Machine]

def filename : String := "socket.json"

def homeFolder (environment : Environment) : String :=
  let home := Path.trimSlashes ((environment.lookup "HOME").getD Machine.home).toList
  if home.isEmpty then "/" else .ofList home

/-- The folder of the settings file. Only the variable for the folder itself is looked up in the
given variables; the user's home is that of the process. -/
def folder (process given : Environment) : String :=
  match given.lookup "XCHAT_HOME" with
  | some folder => folder
  | none => Path.join (homeFolder process) ".xchat"

def defaultPath (process given : Environment) : String := Path.join (folder process given) filename

inductive LoadError
  | unreadable (error : FileError)
  | malformed (path : String)
  | notTable (path : String)
  | setting (error : SettingError)
  deriving DecidableEq

def LoadError.message : LoadError → String
  | .unreadable _ => "cannot read the settings"
  | .malformed path => "cannot parse " ++ path ++ ": malformed JSON"
  | .notTable path => path ++ " must contain a JSON object"
  | .setting error => error.message

def fileValues (store : Store) (path : String) : Except LoadError Table :=
  match store.read path with
  | .error .missing => .ok []
  | .error e => .error (.unreadable e)
  | .ok content =>
    match Json.read content with
    | none => .error (.malformed path)
    | some (.table entries) => .ok entries
    | some _ => .error (.notTable path)

def override (environment : Environment) (variableName : String) (setting : Setting)
    (values : Table) : Table :=
  match environment.lookup variableName with
  | some text => Table.insert setting.name (.text text) values
  | none => values

def load (store : Store) (process given : Environment) (path : Option String) :
    Except LoadError Settings := do
  let values ← fileValues store (path.getD (defaultPath process given))
  let values := override given "XCHAT_BACKEND_ADDRESS" .backendAddress values
  let values := override given "XCHAT_BACKEND_PORT" .backendPort values
  (make values).mapError .setting

inductive SaveError
  | unwritable (error : FileError)
  | noText
  deriving DecidableEq

def prepareFolder (store : Store) (path : String) : Except FileError Unit × Store :=
  let parent := Path.parent path
  if parent.isEmpty || store.contains parent then (.ok (), store) else store.makeFolders parent

/-- Writes values as a settings file and gives its path. The text is made before the file is opened,
so that a file that was there is not lost for values that cannot be written. -/
def saveTable (values : Table) (store : Store) (process : Environment) (path : Option String) :
    Except SaveError String × Store :=
  let path := path.getD (defaultPath process process)
  match prepareFolder store path with
  | (.error e, store) => (.error (.unwritable e), store)
  | (.ok _, store) =>
    match Json.write (.table values) with
    | none => (.error .noText, store)
    | some text =>
      match store.write path (Utf8.encode text) with
      | (.ok _, store) => (.ok path, store)
      | (.error e, store) => (.error (.unwritable e), store)

def save (settings : Settings) (store : Store) (process : Environment) (path : Option String) :
    Except SaveError String × Store :=
  saveTable settings.toTable store process path

end Settings

end ChatLink
