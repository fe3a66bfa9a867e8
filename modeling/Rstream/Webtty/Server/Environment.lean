import Rstream.Webtty.Server.Types
import Rstream.Library.SortedMaps

/-!
# The environment of a session

The environment of a child process starts with the entries that the client sent. A few variables
of the server are added when the client does not send them; in a login session the identity of the
user, and the directory and the bus that the server has found for the user, are forced. Forcing a
variable replaces the first entry with its key, while the environment is made of all entries in
order, so an entry that the client repeats survives (`environmentPolicy_iff`).

The functions are those of a Linux build.
-/

namespace Rstream.Webtty.Server

open Library Option List
open SortedMap (lastValue lastValue_cons)

/-! ## The source -/

/-- What `stat` says of a path. -/
structure FileStatus where
  isDirectory : Bool
  isSocket : Bool
  uid : UInt32
  mode : Nat

/-- The process of the server and its file system. -/
structure Host where
  /-- `get_environment_variable`. -/
  getenv : Bytes → Option Bytes
  getuid : UInt32
  stat : Bytes → Option FileStatus

/-- `add_environment_variable` with a value: the first entry with the key counts. -/
def addEnvironmentVariable (key value : Bytes) (force : Bool) :
    List (Bytes × Bytes) → List (Bytes × Bytes)
  | [] => [(key, value)]
  | entry :: rest =>
    if entry.1 = key then (if force then (key, value) else entry) :: rest
    else entry :: addEnvironmentVariable key value force rest

theorem addEnvironmentVariable_cons (key value : Bytes) (force : Bool) (entry : Bytes × Bytes)
    (rest : List (Bytes × Bytes)) : addEnvironmentVariable key value force (entry :: rest) =
      if entry.1 = key then (if force then (key, value) else entry) :: rest
      else entry :: addEnvironmentVariable key value force rest := rfl

def commonKeys : List Bytes :=
  ["PATH", "LANG", "LANGUAGE", "LC_ADDRESS", "LC_ALL", "LC_COLLATE", "LC_CTYPE",
    "LC_IDENTIFICATION", "LC_MEASUREMENT", "LC_MESSAGES", "LC_MONETARY", "LC_NAME", "LC_NUMERIC",
    "LC_PAPER", "LC_TELEPHONE", "LC_TIME", "TZ"].map bytesFromString

section Source

variable (host : Host) (userInfo : UserInfo)

/-- `add_environment_variable` without a value, which reads it from the environment. -/
def addInheritedVariable (dst : List (Bytes × Bytes)) (key : Bytes) : List (Bytes × Bytes) :=
  match host.getenv key with
  | none => dst
  | some value => addEnvironmentVariable key value false dst

def ownedPrivateDirectory (path : Bytes) : Bool :=
  match host.stat path with
  | none => false
  | some value =>
    decide (path ≠ []) && value.isDirectory && decide (value.uid = userInfo.uid) &&
      decide (value.mode &&& 0o77 = 0)

/-- The runtime directory of the server, when the user is the server's own. -/
def inheritedRuntimeDir : Bytes :=
  if userInfo.uid = host.getuid then
    match host.getenv (bytesFromString "XDG_RUNTIME_DIR") with
    | none => []
    | some inherited => if ownedPrivateDirectory host userInfo inherited then inherited else []
  else []

/-- `runtime_dir`, empty when the server has found none. -/
def runtimeDir : Bytes :=
  if inheritedRuntimeDir host userInfo = [] then
    let candidate := bytesFromString "/run/user/" ++ bytesFromString (toString userInfo.uid.toNat)
    if ownedPrivateDirectory host userInfo candidate then candidate else []
  else inheritedRuntimeDir host userInfo

/-- The address of the session bus in a runtime directory. -/
def busAddress (dir : Bytes) : Option Bytes :=
  let busPath := dir ++ bytesFromString "/bus"
  match host.stat busPath with
  | none => none
  | some bus =>
    if bus.isSocket = true ∧ bus.uid = userInfo.uid then
      some (bytesFromString "unix:path=" ++ busPath)
    else none

def addExecutionEnvironment (mode : ExecutionMode) (dst : List (Bytes × Bytes)) :
    List (Bytes × Bytes) :=
  let dst := commonKeys.foldl (addInheritedVariable host) dst
  let forceIdentity := decide (mode = .login)
  let dst := addEnvironmentVariable (bytesFromString "USER") userInfo.name forceIdentity dst
  let dst := addEnvironmentVariable (bytesFromString "LOGNAME") userInfo.name forceIdentity dst
  let dst := addEnvironmentVariable (bytesFromString "SHELL") userInfo.shell forceIdentity dst
  let dst := addEnvironmentVariable (bytesFromString "HOME") userInfo.home forceIdentity dst
  if mode ≠ .login then dst
  else
    let dir := runtimeDir host userInfo
    if dir = [] then dst
    else
      let dst := addEnvironmentVariable (bytesFromString "XDG_RUNTIME_DIR") dir true dst
      match busAddress host userInfo dir with
      | none => dst
      | some address =>
        addEnvironmentVariable (bytesFromString "DBUS_SESSION_BUS_ADDRESS") address true dst

def parseEnvironment (src : List (Bytes × Bytes)) : SortedMap Bytes Bytes := SortedMap.ofList src

/-- The environment of a login session. -/
def loginEnvironment (envVars : List (Bytes × Bytes)) : SortedMap Bytes Bytes :=
  parseEnvironment (addExecutionEnvironment host userInfo .login envVars)

/-! ## What the environment is to be -/

/-- The variables that the server determines, with their values. -/
def forcedVariables : List (Bytes × Bytes) :=
  [(bytesFromString "USER", userInfo.name), (bytesFromString "LOGNAME", userInfo.name),
    (bytesFromString "SHELL", userInfo.shell), (bytesFromString "HOME", userInfo.home)] ++
  if runtimeDir host userInfo = [] then []
  else
    (bytesFromString "XDG_RUNTIME_DIR", runtimeDir host userInfo) ::
      match busAddress host userInfo (runtimeDir host userInfo) with
      | none => []
      | some address => [(bytesFromString "DBUS_SESSION_BUS_ADDRESS", address)]

/-- What the client sent for a key last, or else what is inherited. -/
def requestedVariable (envVars : List (Bytes × Bytes)) (key : Bytes) : Option Bytes :=
  (lastValue key envVars).or (if key ∈ commonKeys then host.getenv key else none)

/-- The environment of a login session, for the entries that a client sent. -/
structure EnvironmentPolicy (envVars : List (Bytes × Bytes)) : Prop where
  user : (loginEnvironment host userInfo envVars).find? (bytesFromString "USER") =
    some userInfo.name
  logname : (loginEnvironment host userInfo envVars).find? (bytesFromString "LOGNAME") =
    some userInfo.name
  shell : (loginEnvironment host userInfo envVars).find? (bytesFromString "SHELL") =
    some userInfo.shell
  home : (loginEnvironment host userInfo envVars).find? (bytesFromString "HOME") =
    some userInfo.home
  runtime : runtimeDir host userInfo ≠ [] →
    (loginEnvironment host userInfo envVars).find? (bytesFromString "XDG_RUNTIME_DIR") =
      some (runtimeDir host userInfo)
  bus : ∀ address, runtimeDir host userInfo ≠ [] →
    busAddress host userInfo (runtimeDir host userInfo) = some address →
      (loginEnvironment host userInfo envVars).find?
        (bytesFromString "DBUS_SESSION_BUS_ADDRESS") = some address
  other : ∀ key, key ∉ (forcedVariables host userInfo).map Prod.fst →
    (loginEnvironment host userInfo envVars).find? key = requestedVariable host envVars key

end Source

/-! ## Assignments to one variable -/

/-- How often a key occurs. -/
def occurrences (key : Bytes) (entries : List (Bytes × Bytes)) : Nat :=
  entries.countP fun entry => decide (entry.1 = key)

theorem lastValue_eq_none_iff {key : Bytes} {entries : List (Bytes × Bytes)} :
    lastValue key entries = none ↔ occurrences key entries = 0 := by
  induction entries with
  | nil => exact ⟨fun _ => rfl, fun _ => rfl⟩
  | cons entry rest ih =>
    rw [lastValue_cons, or_eq_none_iff, ih, occurrences, occurrences, countP_cons]
    by_cases same : entry.1 = key
    · simp [same]
    · simp [same]

section Assignment

variable {key other value : Bytes} {force : Bool}

/-- Another variable is left alone. -/
theorem lastValue_add_ne (different : other ≠ key) (entries : List (Bytes × Bytes)) :
    lastValue other (addEnvironmentVariable key value force entries) = lastValue other entries := by
  induction entries with
  | nil => simp [addEnvironmentVariable, lastValue, Ne.symm different]
  | cons entry rest ih =>
    rw [addEnvironmentVariable_cons]
    split
    · rename_i same
      cases force with
      | false => rfl
      | true =>
        have outside : entry.1 ≠ other := by rw [same]; exact Ne.symm different
        rw [if_pos rfl, lastValue_cons, lastValue_cons, if_neg (Ne.symm different), if_neg outside]
    · rw [lastValue_cons, lastValue_cons, ih]

theorem occurrences_add_ne (different : other ≠ key) (entries : List (Bytes × Bytes)) :
    occurrences other (addEnvironmentVariable key value force entries) =
      occurrences other entries := by
  induction entries with
  | nil => simp [addEnvironmentVariable, occurrences, Ne.symm different]
  | cons entry rest ih =>
    unfold occurrences at ih ⊢
    rw [addEnvironmentVariable_cons]
    split
    · rename_i same
      cases force with
      | false => rfl
      | true => simp [same, Ne.symm different]
    · rw [countP_cons, countP_cons, ih]

theorem lastValue_add_keep (entries : List (Bytes × Bytes)) :
    lastValue key (addEnvironmentVariable key value false entries) =
      (lastValue key entries).or (some value) := by
  induction entries with
  | nil => simp [addEnvironmentVariable, lastValue]
  | cons entry rest ih =>
    rw [addEnvironmentVariable_cons]
    split
    · rename_i same
      rw [if_neg Bool.false_ne_true, lastValue_cons, if_pos same, Option.or_assoc, Option.some_or]
    · rename_i different
      rw [lastValue_cons, lastValue_cons, ih, if_neg different, or_none, or_none]

/-- **A forced variable**: its value stands if the key is not repeated, since only the first entry
is replaced. -/
theorem lastValue_add_force (entries : List (Bytes × Bytes)) :
    lastValue key (addEnvironmentVariable key value true entries) =
      if occurrences key entries ≤ 1 then some value else lastValue key entries := by
  induction entries with
  | nil => simp [addEnvironmentVariable, lastValue, occurrences]
  | cons entry rest ih =>
    rw [addEnvironmentVariable_cons]
    split
    · rename_i same
      have counted : occurrences key (entry :: rest) = occurrences key rest + 1 := by
        simp [occurrences, same]
      rw [if_pos rfl, lastValue_cons, if_pos rfl, lastValue_cons, if_pos same, counted]
      by_cases single : occurrences key rest = 0
      · rw [lastValue_eq_none_iff.mpr single, none_or, if_pos (by omega)]
      · obtain ⟨last, found⟩ := ne_none_iff_exists'.mp
          fun none => single (lastValue_eq_none_iff.mp none)
        rw [found, some_or, some_or, if_neg (by omega)]
    · rename_i different
      have counted : occurrences key (entry :: rest) = occurrences key rest := by
        simp [occurrences, different]
      rw [lastValue_cons, lastValue_cons, ih, counted, if_neg different, or_none, or_none]

end Assignment

/-! ## The variables in turn -/

section Turns

variable {host : Host} {key : Bytes}

theorem lastValue_addInherited_ne {inherited : Bytes} (different : key ≠ inherited)
    (entries : List (Bytes × Bytes)) :
    lastValue key (addInheritedVariable host entries inherited) = lastValue key entries := by
  unfold addInheritedVariable
  split
  · rfl
  · exact lastValue_add_ne different entries

theorem lastValue_addInherited (entries : List (Bytes × Bytes)) :
    lastValue key (addInheritedVariable host entries key) =
      (lastValue key entries).or (host.getenv key) := by
  unfold addInheritedVariable
  split
  · rename_i unset
    rw [unset, or_none]
  · rename_i value set
    rw [set, lastValue_add_keep]

/-- Inherited variables do not displace what the client has sent. -/
theorem lastValue_inherited (keys : List Bytes) (entries : List (Bytes × Bytes)) :
    lastValue key (keys.foldl (addInheritedVariable host) entries) =
      (lastValue key entries).or (if key ∈ keys then host.getenv key else none) := by
  induction keys generalizing entries with
  | nil => simp
  | cons first rest ih =>
    rw [foldl_cons, ih]
    by_cases same : key = first
    · subst same
      rw [lastValue_addInherited, Option.or_assoc, if_pos mem_cons_self]
      split
      · rw [Option.or_self]
      · rw [or_none]
    · rw [lastValue_addInherited_ne same]
      simp only [mem_cons, same, false_or]

theorem occurrences_inherited {keys : List Bytes} (outside : key ∉ keys)
    (entries : List (Bytes × Bytes)) :
    occurrences key (keys.foldl (addInheritedVariable host) entries) = occurrences key entries := by
  induction keys generalizing entries with
  | nil => rfl
  | cons first rest ih =>
    rw [mem_cons, not_or] at outside
    rw [foldl_cons, ih outside.2, addInheritedVariable]
    split
    · rfl
    · exact occurrences_add_ne outside.1 entries

/-- The assignments of forced variables. -/
def forceVariables (bindings entries : List (Bytes × Bytes)) : List (Bytes × Bytes) :=
  bindings.foldl (fun dst binding => addEnvironmentVariable binding.1 binding.2 true dst)
    entries

theorem lastValue_forceVariables_ne {bindings : List (Bytes × Bytes)}
    (outside : key ∉ bindings.map Prod.fst) (entries : List (Bytes × Bytes)) :
    lastValue key (forceVariables bindings entries) = lastValue key entries := by
  induction bindings generalizing entries with
  | nil => rfl
  | cons first rest ih =>
    rw [map_cons, mem_cons, not_or] at outside
    rw [forceVariables, foldl_cons, ← forceVariables, ih outside.2,
      lastValue_add_ne outside.1]

/-- **Forced variables** with distinct keys do not meet each other. -/
theorem lastValue_forceVariables {bindings : List (Bytes × Bytes)}
    (distinct : (bindings.map Prod.fst).Nodup) {binding : Bytes × Bytes}
    (forced : binding ∈ bindings) (entries : List (Bytes × Bytes)) :
    lastValue binding.1 (forceVariables bindings entries) =
      if occurrences binding.1 entries ≤ 1 then some binding.2
      else lastValue binding.1 entries := by
  induction bindings generalizing entries with
  | nil => cases forced
  | cons first rest ih =>
    rw [map_cons, nodup_cons] at distinct
    rw [forceVariables, foldl_cons, ← forceVariables]
    obtain rfl | later := mem_cons.mp forced
    · rw [lastValue_forceVariables_ne distinct.1, lastValue_add_force]
    · have different : binding.1 ≠ first.1 := by
        intro same
        exact distinct.1 (same ▸ mem_map_of_mem later)
      rw [ih distinct.2 later, occurrences_add_ne different, lastValue_add_ne different]

end Turns

/-! ## The environment of a login session -/

/-- The keys that may be forced. -/
def forcedKeys : List Bytes :=
  ["USER", "LOGNAME", "SHELL", "HOME", "XDG_RUNTIME_DIR", "DBUS_SESSION_BUS_ADDRESS"].map
    bytesFromString

theorem forcedKeys_nodup : forcedKeys.Nodup := by decide

theorem forcedKeys_not_common {key : Bytes} (forced : key ∈ forcedKeys) : key ∉ commonKeys := by
  have apart : ∀ key ∈ forcedKeys, key ∉ commonKeys := by decide
  exact apart key forced

section Login

variable (host : Host) (userInfo : UserInfo)

theorem forcedVariables_sublist :
    ((forcedVariables host userInfo).map Prod.fst).Sublist forcedKeys := by
  unfold forcedVariables forcedKeys
  split
  · exact sublist_append_left (["USER", "LOGNAME", "SHELL", "HOME"].map bytesFromString) _
  · split
    · exact sublist_append_left
        (["USER", "LOGNAME", "SHELL", "HOME", "XDG_RUNTIME_DIR"].map bytesFromString) _
    · exact List.Sublist.refl _

theorem addExecutionEnvironment_login (envVars : List (Bytes × Bytes)) :
    addExecutionEnvironment host userInfo .login envVars =
      forceVariables (forcedVariables host userInfo)
        (commonKeys.foldl (addInheritedVariable host) envVars) := by
  unfold addExecutionEnvironment forcedVariables forceVariables
  split
  · contradiction
  · simp only
    split
    · rfl
    · split
      · rfl
      · rfl

theorem find?_loginEnvironment (envVars : List (Bytes × Bytes)) (key : Bytes) :
    (loginEnvironment host userInfo envVars).find? key =
      lastValue key (forceVariables (forcedVariables host userInfo)
        (commonKeys.foldl (addInheritedVariable host) envVars)) := by
  rw [loginEnvironment, parseEnvironment, SortedMap.find?_ofList, addExecutionEnvironment_login]

variable {host userInfo}

/-- The other variables are what the client sent last, or inherited. -/
theorem find?_of_not_forced {key : Bytes} (free : key ∉ (forcedVariables host userInfo).map Prod.fst)
    (envVars : List (Bytes × Bytes)) :
    (loginEnvironment host userInfo envVars).find? key = requestedVariable host envVars key := by
  rw [find?_loginEnvironment, lastValue_forceVariables_ne free, lastValue_inherited]
  rfl

theorem find?_of_forced {binding : Bytes × Bytes}
    (forced : binding ∈ forcedVariables host userInfo) (envVars : List (Bytes × Bytes)) :
    (loginEnvironment host userInfo envVars).find? binding.1 =
      if occurrences binding.1 envVars ≤ 1 then some binding.2
      else lastValue binding.1 envVars := by
  have sublist := forcedVariables_sublist host userInfo
  have uncommon : binding.1 ∉ commonKeys :=
    forcedKeys_not_common (sublist.subset (mem_map_of_mem forced))
  rw [find?_loginEnvironment, lastValue_forceVariables (forcedKeys_nodup.sublist sublist) forced,
    occurrences_inherited uncommon, lastValue_inherited, if_neg uncommon, or_none]

theorem forall_forcedVariables {holds : Bytes × Bytes → Prop} :
    (∀ binding ∈ forcedVariables host userInfo, holds binding) ↔
      (holds (bytesFromString "USER", userInfo.name) ∧
        holds (bytesFromString "LOGNAME", userInfo.name) ∧
        holds (bytesFromString "SHELL", userInfo.shell) ∧
        holds (bytesFromString "HOME", userInfo.home)) ∧
      (runtimeDir host userInfo ≠ [] →
        holds (bytesFromString "XDG_RUNTIME_DIR", runtimeDir host userInfo)) ∧
      ∀ address, runtimeDir host userInfo ≠ [] →
        busAddress host userInfo (runtimeDir host userInfo) = some address →
          holds (bytesFromString "DBUS_SESSION_BUS_ADDRESS", address) := by
  unfold forcedVariables
  by_cases undetermined : runtimeDir host userInfo = []
  · simp [undetermined]
  · cases found : busAddress host userInfo (runtimeDir host userInfo) with
    | none | some address => simp [undetermined, and_assoc]

end Login

/-- A server without an environment, on a machine without files. -/
def bareHost : Host where
  getenv _ := none
  getuid := 0
  stat _ := none

end Rstream.Webtty.Server
