import KidsListing.Configuration.FilePath
import KidsListing.Configuration.LogLevel
import KidsListing.Configuration.Origins
import KidsListing.Configuration.Seconds

/-!
# Settings

The settings of the service come from eight environment variables.  A file beside the program
may fill in variables that are not set.  A variable
that is absent or blank then leaves its setting at the default, and blanks around a
value are ignored.
-/

namespace KidsListing

inductive Variable where
  | searchUrl
  | browseUrl
  | searchClientVersion
  | browseClientVersion
  | requestTimeout
  | channelsFile
  | logLevel
  | allowedOrigins
  deriving DecidableEq, Repr

def Variable.name : Variable → String
  | .searchUrl => "KIDS_SEARCH_URL"
  | .browseUrl => "KIDS_BROWSE_URL"
  | .searchClientVersion => "KIDS_SEARCH_CLIENT_VERSION"
  | .browseClientVersion => "KIDS_BROWSE_CLIENT_VERSION"
  | .requestTimeout => "KIDS_REQUEST_TIMEOUT_SECONDS"
  | .channelsFile => "KIDS_CHANNELS_FILE"
  | .logLevel => "LOG_LEVEL"
  | .allowedOrigins => "CORS_ALLOWED_ORIGINS"

/-- The value of each variable that is set. -/
abbrev Environment := Variable → Option String

/-- A file of variables, by the values that it gives when the program starts in some
environment; the texts in it may refer to variables of that environment. -/
abbrev VariableFile := Environment → Environment

/-- A file that gives no value at all, as when there is none. -/
def VariableFile.missing : VariableFile :=
  fun _ _ => none

/-- The environment that the program sees once a file was loaded.  Whatever is set keeps its
value, if only blanks. -/
def Environment.filledFrom (environment : Environment) (file : VariableFile) : Environment :=
  fun name => (environment name).or (file environment name)

/-- The channel file has a place of its own beside the program, which is
`none`, unless a path is given. -/
structure Settings where
  searchUrl : String := "https://www.youtubekids.com/youtubei/v1/search?alt=json"
  browseUrl : String := "https://www.youtubekids.com/youtubei/v1/browse?alt=json"
  searchClientVersion : String := "2.20251120.00.00"
  browseClientVersion : String := "2.20251027.00.00"
  requestTimeout : Seconds := .floating (Binary64.ofDecimal false 15 0)
  channelsFile : Option FilePath := none
  logLevel : String := "INFO"
  allowedOrigins : String := ""
  deriving DecidableEq

namespace Settings

/-- The value of a variable without the blanks around it; blank when absent. -/
def raw (environment : Environment) (name : Variable) : String :=
  Text.trimmed ((environment name).getD "")

def textOr (environment : Environment) (name : Variable) (default : String) : String :=
  let value := raw environment name
  if value = "" then default else value

/-- A length of time is used only when it is greater than zero. -/
def secondsOr (environment : Environment) (name : Variable) (default : Seconds) : Seconds :=
  match Seconds.number? (raw environment name).toList with
  | some value => if value.isPositive then .floating value else default
  | none => default

def pathOf (environment : Environment) (name : Variable) : Option FilePath :=
  let value := raw environment name
  if value = "" then none else some (FilePath.ofText value.toList)

/-- The settings that the variables give as the program sees them. -/
def load (environment : Environment) : Settings :=
  let default : Settings := {}
  { searchUrl := textOr environment .searchUrl default.searchUrl
    browseUrl := textOr environment .browseUrl default.browseUrl
    searchClientVersion := textOr environment .searchClientVersion default.searchClientVersion
    browseClientVersion := textOr environment .browseClientVersion default.browseClientVersion
    requestTimeout := secondsOr environment .requestTimeout default.requestTimeout
    channelsFile := pathOf environment .channelsFile
    logLevel := textOr environment .logLevel default.logLevel
    allowedOrigins := raw environment .allowedOrigins }

/-- The settings of a program that starts in an environment beside a file. -/
def loadBeside (file : VariableFile) (environment : Environment) : Settings :=
  load (environment.filledFrom file)

def origins (settings : Settings) : Origins :=
  Origins.ofText settings.allowedOrigins

def level (settings : Settings) : LogLevel :=
  LogLevel.ofText settings.logLevel

end Settings

end KidsListing
