import Rstream.FileServer.Filesystem
import Rstream.Library.Queries

/-!
# The requests of the file server

`handle_request` finds the function for a target by a regular expression and turns the errors
it throws into statuses. The functions decode the target, cut off the first characters, and ask
`boost::filesystem` for the canonical path below the working directory.

A target that is refused for being outside the working directory is answered with the status of
a file that does not exist; here it is an answer of its own (`refused`), so that a statement can
tell the two apart. The pages around the items of a listing are left out.
-/

namespace Rstream.FileServer

open Library

/-- `context`, with the tree that the server runs on. `m_workdir` comes from
`boost::filesystem::system_complete`, which returns an absolute path. -/
structure Context where
  filesystem : Filesystem
  workdir : List UInt8
  absolute : hasRootDirectory workdir = true

/-- The methods that the endpoints distinguish. -/
inductive Verb where
  | get | other
  deriving DecidableEq

/-- The statuses of the errors. -/
inductive Status where
  | badRequest | forbidden | notFound | internalServerError
  deriving DecidableEq

/-- An item of a listing: the entry, where its link leads, and what it is displayed as. -/
structure Item where
  file : Place
  linkname : List UInt8
  displayname : List UInt8

inductive Response where
  /-- A redirection to `www`. -/
  | redirect
  /-- The items of the directory at a path. -/
  | listing (path : Place) (items : List Item)
  /-- The content of the file at a path, and its content type. -/
  | content (path : Place) (body : List UInt8) (contentType : String)
  /-- The path is outside the working directory. -/
  | refused (path : Place)
  /-- An error; the path when there is one. -/
  | error (status : Status) (path : Option Place)

/-- What an endpoint throws. -/
inductive Failure where
  | filesystem (error : Errc)
  | encoding
  deriving DecidableEq

/-! ## Targets -/

def wwwTarget : List UInt8 := [47, 119, 119, 119]

/-- What the targets `/www/` begin with. -/
def wwwStart : List UInt8 := wwwTarget ++ [slash]

/-- The path `/api/file`. -/
def apiFileTarget : List UInt8 := [47, 97, 112, 105, 47, 102, 105, 108, 101]

/-- What the targets `/api/file/` begin with. -/
def apiFileStart : List UInt8 := apiFileTarget ++ [slash]

/-- What the dot of a regular expression matches: no line feed and no carriage return. -/
def isRegexChar (byte : UInt8) : Bool := byte ≠ 10 && byte ≠ 13

/-- A target that begins so and goes on as `.*` does. -/
def matchesFrom (start target : List UInt8) : Bool :=
  start.isPrefixOf target && (target.drop start.length).all isRegexChar

/-- The functions that `endpoints` has for `GET`. -/
inductive Endpoint where
  | apiRedirectWww | apiGetFile | apiWww
  deriving DecidableEq

/-- The function for a target, in the order of the map. -/
def endpoint (target : List UInt8) : Option Endpoint :=
  if target = [] ∨ target = [slash] then some .apiRedirectWww
  else if matchesFrom apiFileStart target then some .apiGetFile
  else if target = wwwTarget ∨ matchesFrom wwwStart target then some .apiWww
  else none

/-- `parse_path`; `start` is its `prefix`, of which only the length is used. -/
def parsePath (ctx : Context) (src start : List UInt8) : Except Failure Place :=
  match unescape src with
  | none => .error .encoding
  | some subdir =>
    (ctx.filesystem.canonical (subdir.drop start.length) ctx.workdir).mapError .filesystem

/-- `boost::filesystem::relative` of a canonical path and the working directory. -/
def relative (ctx : Context) (path : Place) : Except Failure (List UInt8) :=
  ((ctx.filesystem.weaklyCanonical ctx.workdir).map (lexicallyRelative path)).mapError
    .filesystem

/-- `rfind("..", 0) == 0`. -/
def isOutside (relative : List UInt8) : Bool := dotDotPath.isPrefixOf relative

/-! ## Listings -/

/-- `path::operator/`. -/
def append (path more : List UInt8) : List UInt8 :=
  if more = [] then path
  else if more.head? = some slash ∨ path.getLast? = some slash then path ++ more
  else path ++ slash :: more

/-- The item of an entry of a directory, unless it is skipped. -/
def item (ctx : Context) (path : Place) (name : Name) : Except Failure (Option Item) :=
  match ctx.filesystem.walk ctx.filesystem.symloopMax path [.name name] with
  | .error .noSuchFileOrDirectory => .ok none
  | .error error => .error (.filesystem error)
  | .ok canonical =>
    let symlink := match ctx.filesystem.node (path.child name) with
      | some (.link _) => true
      | _ => false
    match ctx.filesystem.node canonical with
    | some (.directory _) => do
        let relative ← relative ctx canonical
        if isOutside relative then return none
        return some ⟨path.child name, append wwwTarget relative, name.val ++ [slash]⟩
    | some (.file _) => do
        let relative ← relative ctx canonical
        if isOutside relative then return none
        return some
          ⟨path.child name, append apiFileTarget relative,
            name.val ++ if symlink then [64] else []⟩
    | _ => .ok none

/-- The items of the entries of a directory. -/
def items (ctx : Context) (path : Place) : List Name → Except Failure (List Item)
  | [] => .ok []
  | name :: names => do
      let first ← item ctx path name
      let rest ← items ctx path names
      return first.toList ++ rest

/-- The names of a directory in the order of `std::sort`. -/
def sortedNames (entries : List (Name × Node)) : List Name :=
  (entries.map Prod.fst).mergeSort fun name other => name.val ≤ other.val

/-- `api_www_response`. -/
def apiWww (ctx : Context) (target : List UInt8) : Except Failure Response := do
  let path ← parsePath ctx target wwwStart
  let relative ← relative ctx path
  if isOutside relative then return .refused path
  match ctx.filesystem.node path with
  | some (.directory entries) => do
      let items ← items ctx path (sortedNames entries)
      return .listing path items
  | _ => return .error .notFound (some path)

/-! ## Files -/

/-- The content types of `get_mime_type`. -/
def mimeTypes : List (String × String) :=
  [(".htm", "text/html"), (".html", "text/html"), (".php", "text/html"), (".css", "text/css"),
    (".txt", "text/plain"), (".js", "application/javascript"), (".json", "application/json"),
    (".xml", "application/xml"), (".swf", "application/x-shockwave-flash"),
    (".flv", "video/x-flv"), (".png", "image/png"), (".jpe", "image/jpeg"),
    (".jpeg", "image/jpeg"), (".jpg", "image/jpeg"), (".gif", "image/gif"),
    (".bmp", "image/bmp"), (".ico", "image/vnd.microsoft.icon"), (".tiff", "image/tiff"),
    (".tif", "image/tiff"), (".svg", "image/svg+xml"), (".svgz", "image/svg+xml")]

/-- A byte in lower case. -/
def toLower (byte : UInt8) : UInt8 := if 65 ≤ byte ∧ byte ≤ 90 then byte + 32 else byte

/-- `get_mime_type`: the type of what follows the last dot, the dot included. -/
def getMimeType (path : List UInt8) : String :=
  let extension :=
    if 46 ∈ path then 46 :: (path.reverse.takeWhile (· ≠ 46)).reverse else []
  match mimeTypes.find? fun entry => entry.1.toUTF8.toList = extension.map toLower with
  | some entry => entry.2
  | none => "application/text"

/-- The status for a file that cannot be opened. -/
def OpenError.status : OpenError → Status
  | .noSuchFileOrDirectory => .notFound
  | .permissionDenied => .forbidden
  | .other => .internalServerError

def apiGetFile (ctx : Context) (target : List UInt8) : Except Failure Response := do
  let path ← parsePath ctx target apiFileStart
  let relative ← relative ctx path
  if isOutside relative then return .refused path
  match ctx.filesystem.node path with
  | some (.file (.ok body)) => return .content path body (getMimeType path.string)
  | some (.file (.error error)) => return .error error.status (some path)
  | _ => return .error .forbidden (some path)

/-! ## Requests -/

/-- The status for an exception. -/
def Failure.status : Failure → Status
  | .filesystem .noSuchFileOrDirectory => .notFound
  | _ => .internalServerError

/-- What is sent for the outcome of an endpoint. -/
def send : Except Failure Response → Response
  | .ok response => response
  | .error failure => .error failure.status none

def handleRequest (ctx : Context) (verb : Verb) (target : List UInt8) : Response :=
  match verb with
  | .other => .error .badRequest none
  | .get =>
    match endpoint target with
    | none => .error .badRequest none
    | some .apiRedirectWww => .redirect
    | some .apiGetFile => send (apiGetFile ctx target)
    | some .apiWww => send (apiWww ctx target)

end Rstream.FileServer
