import Rstream.Webtty.Cli.Enrollment

/-!
# Options, variables and paths

What the command-line tools share: whether an option stands on the command line, the environment,
and the paths of the local state under the home directory.
-/

namespace Rstream.Webtty.Cli

open Library

/-- `argv_has`: the arguments hold an option, alone or with a value. -/
def argvHas (argv : List Bytes) (longName : String) : Bool :=
  argv.any fun arg =>
    arg == bytesFromString longName || (bytesFromString longName ++ [61]).isPrefixOf arg

def splitCommaSeparatedValues (raw : Bytes) : List Bytes :=
  ((raw.splitOn 44).map trimCopy).filter fun value => value ≠ []

/-- `std::filesystem::path::operator/`. -/
def pathJoin (base next : Bytes) : Bytes :=
  if next.head? = some 47 then next
  else if base = [] ∨ base.getLast? = some 47 then base ++ next
  else base ++ 47 :: next

/-- The environment of a tool. -/
structure Surroundings where
  /-- `get_environment_variable`. -/
  getenv : String → Option Bytes
  /-- `std::filesystem::path::lexically_normal`. -/
  lexicallyNormal : Bytes → Bytes
  /-- The contents of a file that can be opened. -/
  readFile : Bytes → Option Bytes

namespace Surroundings

variable (surroundings : Surroundings)

def getenvTrimmed (name : String) : Bytes := (surroundings.getenv name).elim [] trimCopy

def homeDir : Except String Bytes := do
  let value := surroundings.getenvTrimmed "HOME"
  require (value ≠ []) "failed to resolve user home directory"
  .ok value

def expandPath (raw : Bytes) : Except String Bytes :=
  match trimCopy raw with
  | [126] => surroundings.homeDir
  | 126 :: separator :: rest =>
    if separator = 47 ∨ separator = 92 then do
      let home ← surroundings.homeDir
      .ok (pathJoin home rest)
    else .ok (126 :: separator :: rest)
  | value => .ok value

def readTrimmedFile (rawPath : Bytes) (description : String) : Except String Bytes := do
  let path ← surroundings.expandPath rawPath
  match surroundings.readFile path with
  | none => .error ("failed to read " ++ description)
  | some contents => do
      require (trimCopy contents ≠ []) (description ++ " is empty")
      .ok (trimCopy contents)

def readAuthToken (rawFile : Bytes) : Except String (Option Bytes) :=
  if trimCopy rawFile ≠ [] then
    (surroundings.readTrimmedFile (trimCopy rawFile) "WebTTY auth token file").map some
  else if surroundings.getenvTrimmed "RSTREAM_WEBTTY_AUTH_TOKEN" ≠ [] then
    .ok (some (surroundings.getenvTrimmed "RSTREAM_WEBTTY_AUTH_TOKEN"))
  else .ok none

def rstreamHome : Except String Bytes := do
  let root := surroundings.getenvTrimmed "RSTREAM_DATA_DIR"
  if root ≠ [] then do
    require (root.head? = some 47) "RSTREAM_DATA_DIR must be an absolute path"
    .ok (surroundings.lexicallyNormal root)
  else do
    let home ← surroundings.homeDir
    .ok (pathJoin home (bytesFromString ".rstream"))

/-- A file of the local WebTTY state. -/
def statePath (directory : String) (file : Bytes) : Except String Bytes := do
  let home ← surroundings.rstreamHome
  .ok (pathJoin (pathJoin home (bytesFromString directory)) file)

def defaultIdentityPath (name : Bytes) : Except String Bytes := do
  validateLocalName name "identity name"
  surroundings.statePath "webtty/identities" (name ++ bytesFromString ".identity.json")

def defaultServerEnrollmentPath (serverId : Bytes) : Except String Bytes := do
  validateLocalName serverId "--server-id"
  surroundings.statePath "webtty/enrollments" (serverId ++ bytesFromString ".yaml")

def defaultKnownServersPath : Except String Bytes :=
  surroundings.statePath "webtty" (bytesFromString "known_servers.json")

def defaultAuthorizedClientsPath (name : Bytes) : Except String Bytes := do
  let value := if trimCopy name = [] then bytesFromString "default" else trimCopy name
  validateLocalName value "authorized clients store name"
  surroundings.statePath "webtty/authorized_clients" (value ++ bytesFromString ".json")

end Surroundings

end Rstream.Webtty.Cli
