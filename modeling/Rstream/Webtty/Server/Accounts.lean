import Rstream.Webtty.Client.Types
import Rstream.Webtty.Server.Execution

/-!
# The account of a session

A child runs under the account that `get_user_info` finds for the user that `on_open` has settled
on: the user of the `Open`, the default user of the server, or the server's own. An `Open` may carry
a `Username` whose oneof is unset. Its conversion keeps the value of a fresh identifier, which is
the id 0, so that such an `Open` asks for the account of uid 0 (`selectsAccount_iff`).

The accounts are those of a POSIX build.
-/

namespace Rstream.Webtty.Server

open IoRstrm (ErrorCode)
open Session (effectiveUsername launchOf)

/-! ## The source -/

/-- The account database and the user of the server. A lookup ends with an account and its groups,
or with an error of `lookup_passwd` or `lookup_group_ids`. -/
structure Accounts where
  byName : Bytes → Except Thrown UserInfo
  byId : UInt32 → Except Thrown UserInfo
  getuid : UInt32

namespace Accounts

variable (accounts : Accounts)

/-- The account of an identifier. -/
def find : Identifier → Except Thrown UserInfo
  | .id uid => accounts.byId uid
  | .name name => accounts.byName name

def getUserInfo (username : Option Identifier) : UserInfo × ErrorCode :=
  match accounts.find (username.getD (.id accounts.getuid)) with
  | .error thrown => ({}, thrown.val)
  | .ok userInfo => (userInfo, .none)

end Accounts

/-! ## What the account is to be -/

section Policy

variable (settings : Settings) (accounts : Accounts)

/-- The account of a client that names none. -/
def unnamedAccount : Option UserInfo :=
  match settings.executionMode with
  | .spawn => (accounts.find (.id accounts.getuid)).toOption
  | .login => settings.defaultUsername.bind fun username => (accounts.find username).toOption

/-- A login server that does not let its clients choose a user. -/
def FixedUser : Prop := settings.executionMode = .login ∧ settings.allowClientUser = false

instance : Decidable (FixedUser settings) := inferInstanceAs (Decidable (_ ∧ _))

/-- The account for an `Open`, if there is one. -/
def selectedAccount (config : Config) : Option UserInfo :=
  if FixedUser settings ∧ config.username.isSome then none
  else match config.username.join with
    | some identifier => (accounts.find identifier).toOption
    | none => unnamedAccount settings accounts

/-- The launch of a child under an account, if its executable is found. -/
def launchesUnder (world : World) (config : ProtocolConfig) : Option UserInfo → List Launch
  | none => []
  | some userInfo =>
    let launch := launchOf settings world config userInfo
    match world.exePath launch.exe launch.workdir with
    | .ok (_ :: _) => [launch]
    | _ => []

/-- For an `Open`, a session launches its child under the account that is to be, and no other. -/
def SelectsAccount (config : Config) : Prop :=
  ∀ (world : World) (s : Session), world.getUserInfo = accounts.getUserInfo →
    s.state = .connecting →
      (s.onOpen settings world (convert config)).launches =
        s.launches ++ launchesUnder settings world (convert config)
          (selectedAccount settings accounts config)

end Policy

/-! ## What the account is -/

section Selection

variable (settings : Settings) (accounts : Accounts)

/-- The account that `on_open` finds. -/
def openAccount (config : ProtocolConfig) : Option UserInfo :=
  match effectiveUsername settings config with
  | .error _ => none
  | .ok username => (accounts.find (username.getD (.id accounts.getuid))).toOption

theorem launches_launchChild (world : World) (launch : Launch) (s : Session) :
    (s.launchChild world launch).2.launches =
      s.launches ++ match world.exePath launch.exe launch.workdir with
        | .ok (_ :: _) => [launch]
        | _ => [] := by
  rw [Session.launchChild]
  cases world.exePath launch.exe launch.workdir with
  | error thrown => exact (List.append_nil _).symm
  | ok path =>
    cases path with
    | nil => exact (List.append_nil _).symm
    | cons byte rest => cases world.makeChild launch <;> rfl

/-- A child is launched under the account that `on_open` finds. -/
theorem launches_onOpen {world : World} {config : ProtocolConfig} {s : Session}
    (database : world.getUserInfo = accounts.getUserInfo) (connecting : s.state = .connecting) :
    (s.onOpen settings world config).launches =
      s.launches ++ launchesUnder settings world config (openAccount settings accounts config) := by
  rw [(Session.onOpen_late settings world config connecting).2.1, Session.startChild, openAccount]
  cases effectiveUsername settings config with
  | error errorCode => exact (List.append_nil _).symm
  | ok username =>
    simp only [database, Accounts.getUserInfo]
    cases accounts.find (username.getD (.id accounts.getuid)) with
    | error thrown =>
      simp only [thrown.property, if_true]
      exact (List.append_nil _).symm
    | ok userInfo => exact launches_launchChild world _ _

/-- With a `Username` that names a user, and without one, the account is the one that is to be. -/
theorem openAccount_of_named {config : Config} (named : config.username ≠ some none) :
    openAccount settings accounts (convert config) = selectedAccount settings accounts config := by
  obtain ⟨options, cmdArgs, envVars, workdir, username⟩ := config
  cases mode : settings.executionMode with
  | spawn =>
    cases username with
    | none => simp [openAccount, effectiveUsername, convert, selectedAccount, FixedUser, mode,
        unnamedAccount]
    | some requested =>
      cases requested with
      | none => exact absurd rfl named
      | some identifier =>
        simp [openAccount, effectiveUsername, convert, selectedAccount, FixedUser, mode]
  | login =>
    cases username with
    | none =>
      cases default : settings.defaultUsername <;>
        simp [openAccount, effectiveUsername, convert, selectedAccount, FixedUser, mode,
          unnamedAccount, default]
    | some requested =>
      cases requested with
      | none => exact absurd rfl named
      | some identifier =>
        cases allowed : settings.allowClientUser <;>
          simp [openAccount, effectiveUsername, convert, selectedAccount, FixedUser, mode,
            allowed]

/-- A `Username` without a user asks for the account of uid 0. -/
theorem openAccount_of_unset {config : Config} (unset : config.username = some none) :
    openAccount settings accounts (convert config) =
      if FixedUser settings then none else (accounts.find (.id 0)).toOption := by
  cases mode : settings.executionMode with
  | spawn => simp [openAccount, effectiveUsername, convert, FixedUser, mode, unset]
  | login =>
    cases allowed : settings.allowClientUser <;>
      simp [openAccount, effectiveUsername, convert, FixedUser, mode, unset, allowed]

/-- A world in which every executable is found. -/
def worldOf : World where
  exePath _ _ := .ok [0]
  getUserInfo := accounts.getUserInfo

/-- Launches tell accounts apart. -/
theorem launchesUnder_inj {config : ProtocolConfig} {first second : Option UserInfo}
    (same : launchesUnder settings (worldOf accounts) config first =
      launchesUnder settings (worldOf accounts) config second) : first = second := by
  cases first with
  | none =>
    cases second with
    | none => rfl
    | some userInfo => cases same
  | some userInfo =>
    cases second with
    | none => cases same
    | some other =>
      have launch := (List.cons.inj same).1
      exact congrArg some (congrArg Launch.userInfo launch)

/-- A session selects its account exactly if `on_open` finds the one that is to be. -/
theorem selectsAccount_iff_openAccount (config : Config) :
    SelectsAccount settings accounts config ↔
      openAccount settings accounts (convert config) =
        selectedAccount settings accounts config := by
  constructor
  · intro selects
    have launched := selects (worldOf accounts) { state := .connecting } rfl rfl
    rw [launches_onOpen settings accounts rfl rfl] at launched
    exact launchesUnder_inj settings accounts (List.append_cancel_left launched)
  · intro same world s database connecting
    rw [launches_onOpen settings accounts database connecting, same]

/-- **The account of an `Open`** is the one that is to be exactly if a `Username` without a user
is refused, or uid 0 is what a client that names no user gets anyway. A configuration survives its
conversion. -/
theorem selectsAccount_iff (config : Config) :
    (SelectsAccount settings accounts config ∧
        ∀ src : ProtocolConfig, convert (Client.convert src) = src) ↔
      (config.username = some none →
        FixedUser settings ∨
          (accounts.find (.id 0)).toOption = unnamedAccount settings accounts) := by
  rw [and_iff_left Client.convert_convert, selectsAccount_iff_openAccount]
  by_cases unset : config.username = some none
  · rw [openAccount_of_unset settings accounts unset, selectedAccount, unset]
    by_cases fixed : FixedUser settings
    · simp [fixed]
    · simp [fixed]
  · exact iff_of_true (openAccount_of_named settings accounts unset) fun empty =>
      absurd empty unset

end Selection

/-- Root, and the user of the server. -/
def twoAccounts : Accounts where
  byName _ := .error ⟨⟨2, .other "generic"⟩, rfl⟩
  byId uid := .ok { name := if uid = 0 then bytesFromString "root" else bytesFromString "alice", uid }
  getuid := 1000

/-- A client that sends an empty `Username` gets the account of root. -/
theorem unsetUsername_selects_root :
    openAccount {} twoAccounts (convert { username := some none }) =
        some { name := bytesFromString "root" } ∧
      ¬SelectsAccount {} twoAccounts { username := some none } := by
  have root : openAccount {} twoAccounts (convert { username := some none }) =
      some { name := bytesFromString "root" } := rfl
  refine ⟨root, fun selects => ?_⟩
  rw [selectsAccount_iff_openAccount, root] at selects
  exact absurd selects (by decide)

end Rstream.Webtty.Server
