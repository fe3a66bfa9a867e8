import Mathlib.Data.List.Sort
import Rstream.IoRstrm.Credentials
import Rstream.Library.Results
import Rstream.Library.Separators

/-!
# The command line of a tunnel

`run` of `rstream-tunnel` reads the properties of a tunnel from the arguments that docopt has parsed.
Each option is read in a branch of its own. The options of the edge authentication are read for a
published tunnel only, and those of TLS for a published TLS tunnel only; elsewhere they are accepted
and dropped, where `--tcp`, `--tcp-port` and the CORS options are refused. And the branch for TLS
passthrough looks at the minimal version and at mTLS, but not at the ciphers.

The options of access control and of TLS are in the properties exactly when they apply (`sent_iff`).
-/

namespace Rstream.Tunnel

open IoRstrm (HttpCors TunnelProperties isSpace)
open Library

/-! ## Arguments -/

inductive Value where
  | empty
  | bool (value : Bool)
  | long (value : Int)
  | string (value : String)
  | stringList (value : List String)
  deriving DecidableEq

/-- The parsed arguments, by the names of the options. -/
abbrev Args := String → Option Value

/-- What is thrown. -/
inductive Failure where
  | runtimeError (what : String)
  | illegalCast
  | outOfRange
  deriving DecidableEq

def Value.asBool : Value → Except Failure Bool
  | .bool value => .ok value
  | _ => .error .illegalCast

def Value.asString : Value → Except Failure String
  | .string value => .ok value
  | _ => .error .illegalCast

def Value.asStringList : Value → Except Failure (List String)
  | .stringList value => .ok value
  | _ => .error .illegalCast

/-- `std::stol` of the digits behind the sign, all of which are to be read. -/
def stolDigits (negative : Bool) (digits : List Char) : Except Failure Int :=
  if digits = [] ∨ ¬digits.all Char.isDigit then .error .illegalCast
  else
    let value : Int := Nat.ofDigitChars 10 digits 0
    let value := if negative then -value else value
    if value < -9223372036854775808 ∨ 9223372036854775807 < value then .error .outOfRange
    else .ok value

/-- `std::stol`, of a text that is to be read to its end. -/
def stol (text : String) : Except Failure Int :=
  match text.toList.dropWhile isSpace with
  | '-' :: digits => stolDigits true digits
  | '+' :: digits => stolDigits false digits
  | digits => stolDigits false digits

def Value.asLong : Value → Except Failure Int
  | .string value => stol value
  | .long value => .ok value
  | _ => .error .illegalCast

/-- `split` at the commas: an item that is empty does not count at the end. -/
def split (text : String) : List String := (getlines ',' text.toList).map String.ofList

section Source

variable (args : Args)

/-- An argument that is there and has a value. -/
def given (option : String) : Option Value := (args option).filter (· ≠ .empty)

def optionIsSet (option : String) : Bool :=
  (given args option).any fun value => value ≠ .bool false

/-- A flag, which is read with `asBool` also where it has no value. -/
def flagOf (option : String) : Except Failure Bool :=
  match args option with
  | none => .ok false
  | some value => value.asBool

def flagProperty (option : String) : Except Failure (Option Bool) := do
  let flag ← flagOf args option
  .ok (if flag then some true else none)

def textProperty (option : String) : Except Failure (Option String) :=
  match given args option with
  | none => .ok none
  | some value => value.asString.map some

/-- A list of items as a property. -/
def listProperty (option : String) : Except Failure (List String) :=
  match given args option with
  | none => .ok []
  | some value => value.asString.map split

/-- A property that is read under a condition, and stays as it is otherwise. -/
def guarded {α : Type} (condition : Bool) (unread : α) (read : Except Failure α) :
    Except Failure α :=
  if condition then read else .ok unread

/-- An argument that is to be there. -/
def argAt (option : String) : Except Failure Value :=
  (args option).elim (.error .outOfRange) .ok

/-- The options that a raw TCP tunnel cannot have. -/
def edgeOptions : List String :=
  ["--host", "--upstream-tls", "--mtls", "--tls-mode", "--tls-alpn", "--tls-min-version",
    "--tls-ciphers", "--http-version", "--token-auth", "--rstream-auth", "--challenge-mode"]

/-- The checks for a raw TCP tunnel. -/
def checkTcp (publish flagHttp flagTls flagTcp : Bool) : Except Failure PUnit.{1} :=
  if flagTcp then do
    require (publish = true) (.runtimeError "--tcp cannot be used with --no-publish")
    require (flagHttp = false ∧ flagTls = false ∧
      ∀ option ∈ edgeOptions, optionIsSet args option = false)
      (.runtimeError
        "--tcp cannot be combined with HTTP, TLS, hostname, or edge authentication options")
  else .ok ⟨⟩

/-- The protocol; a later flag replaces an earlier one. -/
def protocolOf (publish flagHttp flagTls flagTcp : Bool) : Option String :=
  if publish && flagTls then some "tls"
  else if publish && flagHttp then some "http"
  else if flagTcp then some "tcp"
  else none

/-- The published TCP port. -/
def portOf (flagTcp : Bool) : Except Failure (Option Nat) :=
  match given args "--tcp-port" with
  | none => .ok none
  | some value => do
      require (flagTcp = true) (.runtimeError "--tcp-port requires --tcp")
      let port ← value.asLong
      require (1 ≤ port ∧ port ≤ 65535)
        (.runtimeError "--tcp-port must be between 1 and 65535")
      .ok (some port.toNat)

/-- A label of the tunnel; the labels are in the order of their keys. -/
def insertLabel (labels : List (String × String)) (label : String) : List (String × String) :=
  match (cut '=' label.toList).2 with
  | none => labels
  | some value =>
    let key := String.ofList (cut '=' label.toList).1
    (labels.filter (·.1 ≠ key)).orderedInsert (fun first second => first.1 ≤ second.1)
      (key, String.ofList value)

def labelsOf : Except Failure (List (String × String)) :=
  match given args "--label" with
  | none => .ok []
  | some value => value.asStringList.map fun labels => labels.foldl insertLabel []

/-- The checks for TLS passthrough. -/
def checkPassthrough (tlsMode : Option String) (upstreamTls : Option Bool)
    (tlsAlpns : List String) (tlsMinVersion : Option String) (mtlsAuth : Option Bool) :
    Except Failure PUnit.{1} :=
  if tlsMode = some "passthrough" then do
    require (upstreamTls ≠ some true)
      (.runtimeError "TLS passthrough cannot be combined with --upstream-tls")
    require (tlsAlpns = []) (.runtimeError "TLS passthrough cannot be combined with --tls-alpn")
    require (tlsMinVersion = none ∧ mtlsAuth ≠ some true)
      (.runtimeError "TLS passthrough cannot be combined with server-side TLS policy or mTLS")
  else .ok ⟨⟩

/-- The age of a CORS preflight; zero unless it is set. -/
def corsMaxAge : Except Failure Int :=
  if optionIsSet args "--cors-max-age" then do
    let value ← argAt args "--cors-max-age"
    value.asLong
  else .ok 0

/-- A list of texts that is to be there. -/
def stringListAt (option : String) : Except Failure (List String) := do
  let value ← argAt args option
  value.asStringList

/-- The CORS options as they are given. -/
def readCors : Except Failure HttpCors := do
  let allowedOrigins ← stringListAt args "--cors-allow-origin"
  let allowedMethods ← stringListAt args "--cors-allow-method"
  let allowedHeaders ← stringListAt args "--cors-allow-header"
  let exposedHeaders ← stringListAt args "--cors-expose-header"
  let credentials ← argAt args "--cors-allow-credentials"
  let allowCredentials ← credentials.asBool
  let maxAge ← corsMaxAge args
  .ok { allowedOrigins, allowedMethods, allowedHeaders, exposedHeaders, allowCredentials, maxAge }

/-- The CORS options, if there are any. -/
def corsOf (publish flagTls flagTcp : Bool) : Except Failure (Option HttpCors) := do
  let cors ← readCors args
  if cors.allowedOrigins ≠ [] ∨ cors.allowedMethods ≠ [] ∨ cors.allowedHeaders ≠ [] ∨
      cors.exposedHeaders ≠ [] ∨ cors.allowCredentials ∨ optionIsSet args "--cors-max-age" then do
    require (publish = true ∧ flagTls = false ∧ flagTcp = false)
      (.runtimeError "CORS requires a published HTTP tunnel")
    require (cors.allowedOrigins ≠ []) (.runtimeError "CORS requires at least one allowed origin")
    require (0 ≤ cors.maxAge ∧ cors.maxAge ≤ 86400)
      (.runtimeError "CORS max age must be between 0 and 86400 seconds")
    .ok (some cors)
  else .ok none

/-- Whether the tunnel is published, as the flags say it. -/
def publishOf : Except Failure (Option Bool) := do
  let publish ← flagOf args "--publish"
  let noPublish ← flagOf args "--no-publish"
  .ok (if noPublish then some false else if publish then some true else none)

/-- The part of `run` that makes the properties of the tunnel. -/
def tunnelProperties : Except Failure TunnelProperties := do
  let publishFlag ← publishOf args
  let publish := publishFlag.getD true
  let flagHttp ← flagOf args "--http"
  let flagTls ← flagOf args "--tls"
  let flagTcp ← flagOf args "--tcp"
  checkTcp args publish flagHttp flagTls flagTcp
  let protocol := protocolOf publish flagHttp flagTls flagTcp
  let port ← portOf args flagTcp
  let allowCrossRegionRouting ← flagProperty args "--allow-cross-region-routing"
  let isTls := publish && decide (protocol = some "tls")
  let labels ← labelsOf args
  let geoip ← listProperty args "--geoip"
  let trustedIps ← listProperty args "--trusted-ips"
  let hostname ← guarded publish none (textProperty args "--host")
  let upstreamTls ← guarded publish none (flagProperty args "--upstream-tls")
  let mtlsAuth ← guarded publish none (flagProperty args "--mtls")
  let tlsMode ← guarded isTls none (textProperty args "--tls-mode")
  let tlsAlpns ← guarded isTls [] (listProperty args "--tls-alpn")
  let tlsMinVersion ← guarded isTls none (textProperty args "--tls-min-version")
  let tlsCiphers ← guarded isTls [] (listProperty args "--tls-ciphers")
  guarded isTls ⟨⟩ (checkPassthrough tlsMode upstreamTls tlsAlpns tlsMinVersion mtlsAuth)
  let httpVersion ← guarded publish none (textProperty args "--http-version")
  let tokenAuth ← guarded publish none (flagProperty args "--token-auth")
  let rstreamAuth ← guarded publish none (flagProperty args "--rstream-auth")
  let challengeMode ← guarded publish none (flagProperty args "--challenge-mode")
  let httpCors ← corsOf args publish flagTls flagTcp
  .ok {
    publish := if flagTcp then some true else publishFlag
    protocol, port, allowCrossRegionRouting, labels, geoip, trustedIps
    hostname, upstreamTls, mtlsAuth, tlsMode, tlsAlpns, tlsMinVersion, tlsCiphers
    httpVersion, tokenAuth, rstreamAuth, challengeMode, httpCors }

end Source

/-! ## What is expected -/

section Expectations

variable (args : Args) (properties : TunnelProperties)

/-- A flag that is set is sent as true. -/
def FlagSent (option : String) (sent : Option Bool) : Prop :=
  optionIsSet args option = true → sent = some true

/-- A text that is set is sent unchanged. -/
def TextSent (option : String) (sent : Option String) : Prop :=
  optionIsSet args option = true → ∃ text, args option = some (.string text) ∧ sent = some text

/-- A list that is set is sent, and has items. -/
def ListSent (option : String) (sent : List String) : Prop :=
  optionIsSet args option = true →
    ∃ text, args option = some (.string text) ∧ sent = split text ∧ sent ≠ []

/-- **No option of access control or of TLS is dropped**, and with TLS passthrough there is no policy
of the server side. -/
structure Sent : Prop where
  mtls : FlagSent args "--mtls" properties.mtlsAuth
  tokenAuth : FlagSent args "--token-auth" properties.tokenAuth
  rstreamAuth : FlagSent args "--rstream-auth" properties.rstreamAuth
  challengeMode : FlagSent args "--challenge-mode" properties.challengeMode
  tlsMode : TextSent args "--tls-mode" properties.tlsMode
  tlsMinVersion : TextSent args "--tls-min-version" properties.tlsMinVersion
  tlsAlpn : ListSent args "--tls-alpn" properties.tlsAlpns
  tlsCiphers : ListSent args "--tls-ciphers" properties.tlsCiphers
  trustedIps : ListSent args "--trusted-ips" properties.trustedIps
  geoip : ListSent args "--geoip" properties.geoip
  passthrough : properties.tlsMode = some "passthrough" →
    properties.tlsAlpns = [] ∧ properties.tlsMinVersion = none ∧ properties.tlsCiphers = [] ∧
      properties.mtlsAuth ≠ some true ∧ properties.upstreamTls ≠ some true

/-- The tunnel is published. -/
def Published : Prop := args "--no-publish" ≠ some (.bool true)

/-- The tunnel is a published TLS tunnel. -/
def PublishedTls : Prop := Published args ∧ args "--tls" = some (.bool true)

/-- **The options apply to the tunnel.** -/
structure Applicable : Prop where
  /-- Those of the edge authentication are for a published tunnel. -/
  published : ∀ option ∈ ["--mtls", "--token-auth", "--rstream-auth", "--challenge-mode"],
    optionIsSet args option = true → Published args
  /-- Those of TLS are for a published TLS tunnel. -/
  tls : ∀ option ∈ ["--tls-mode", "--tls-min-version", "--tls-alpn", "--tls-ciphers"],
    optionIsSet args option = true → PublishedTls args
  /-- A list is not an empty text. -/
  items : ∀ option ∈ ["--tls-alpn", "--tls-ciphers", "--trusted-ips", "--geoip"],
    args option ≠ some (.string "")
  /-- Ciphers are not for TLS passthrough. -/
  passthrough : args "--tls-mode" = some (.string "passthrough") →
    optionIsSet args "--tls-ciphers" = false

end Expectations

/-! ## Items -/

/-- The items of a text, with commas between them, are the text, but for a comma at its end. -/
theorem intercalate_getlines (text : List Char) :
    [','].intercalate (getlines ',' text) = text ∨
      [','].intercalate (getlines ',' text) ++ [','] = text := by
  have joined : [','].intercalate (text.splitOn ',') = text := List.intercalate_splitOn ','
  rw [getlines]
  split
  · rename_i last
    obtain ⟨init, pieces⟩ := List.getLast?_eq_some_iff.mp last
    rw [pieces] at joined ⊢
    rw [List.dropLast_concat]
    cases init with
    | nil => exact .inl joined
    | cons first init =>
      have ends : [','].intercalate (first :: init ++ [[]]) =
          [','].intercalate (first :: init) ++ [','] := by
        rw [List.cons_append, intercalate_cons, intercalate_cons, List.flatMap_append,
          ← List.append_assoc]
        rfl
      exact .inr (ends.symm.trans joined)
  · exact .inl joined

/-- **A text has items unless it is empty.** -/
theorem split_eq_nil_iff (text : String) : split text = [] ↔ text = "" := by
  rw [split, List.map_eq_nil_iff]
  constructor
  · intro nothing
    have joined := intercalate_getlines text.toList
    rw [nothing] at joined
    rcases joined with empty | comma
    · exact String.toList_injective empty.symm
    · rw [← comma] at nothing
      exact absurd nothing (by decide)
  · rintro rfl
    rfl

/-! ## Options -/

section Options

variable {args : Args} {option : String} {condition : Bool}

theorem optionIsSet_of_none (absent : args option = none) : optionIsSet args option = false := by
  rw [optionIsSet, given, absent]
  rfl

theorem optionIsSet_of_some {value : Value} (found : args option = some value) :
    optionIsSet args option = decide (value ≠ .empty ∧ value ≠ .bool false) := by
  rw [optionIsSet, given, found]
  cases value with
  | bool value => cases value <;> rfl
  | _ => rfl

/-- **A flag is sent when it is set exactly when it applies.** -/
theorem flagSent_iff {sent : Option Bool}
    (read : guarded condition none (flagProperty args option) = .ok sent) :
    FlagSent args option sent ↔ (optionIsSet args option = true → condition = true) := by
  rw [FlagSent]
  cases condition with
  | false =>
    cases read
    simp
  | true =>
    obtain ⟨flag, asked, made⟩ := bind_eq_ok.mp read
    rw [flagOf] at asked
    refine iff_of_true ?_ fun _ => rfl
    intro isSet
    cases found : args option with
    | none =>
      rw [optionIsSet_of_none found] at isSet
      cases isSet
    | some value =>
      rw [found] at asked
      cases value with
      | bool value =>
        rw [optionIsSet_of_some found] at isSet
        cases asked
        cases flag with
        | false => simp at isSet
        | true => exact (Except.ok.inj made).symm
      | _ => cases asked

/-- **A text is sent when it is set exactly when it applies.** -/
theorem textSent_iff {sent : Option String}
    (read : guarded condition none (textProperty args option) = .ok sent) :
    TextSent args option sent ↔ (optionIsSet args option = true → condition = true) := by
  rw [TextSent]
  cases condition with
  | false =>
    cases read
    simp
  | true =>
    refine iff_of_true ?_ fun _ => rfl
    intro isSet
    have asked : textProperty args option = .ok sent := read
    rw [textProperty, given] at asked
    cases found : args option with
    | none =>
      rw [optionIsSet_of_none found] at isSet
      cases isSet
    | some value =>
      rw [found] at asked
      cases value with
      | string text => exact ⟨text, rfl, (Except.ok.inj asked).symm⟩
      | empty =>
        rw [optionIsSet_of_some found] at isSet
        simp at isSet
      | _ => cases asked

/-- What is read of a list: the items of a text, and none when it is not set. -/
theorem listProperty_eq_ok {sent : List String} (read : listProperty args option = .ok sent) :
    (optionIsSet args option = false ∧ sent = []) ∨
      ∃ text, args option = some (.string text) ∧ sent = split text := by
  rw [listProperty, given] at read
  cases found : args option with
  | none =>
    rw [found] at read
    exact .inl ⟨optionIsSet_of_none found, (Except.ok.inj read).symm⟩
  | some value =>
    rw [found] at read
    cases value with
    | string text => exact .inr ⟨text, rfl, (Except.ok.inj read).symm⟩
    | empty =>
      refine .inl ⟨?_, (Except.ok.inj read).symm⟩
      rw [optionIsSet_of_some found]
      rfl
    | _ => cases read

theorem optionIsSet_of_string {text : String} (found : args option = some (.string text)) :
    optionIsSet args option = true := by
  rw [optionIsSet_of_some found]
  rfl

/-- **A list is sent when it is set exactly when it applies and is not an empty text.** -/
theorem listSent_iff {sent : List String}
    (read : guarded condition [] (listProperty args option) = .ok sent) :
    ListSent args option sent ↔
      (optionIsSet args option = true → condition = true) ∧ args option ≠ some (.string "") := by
  rw [ListSent]
  cases condition with
  | false =>
    cases read
    constructor
    · intro dropped
      have unset : optionIsSet args option ≠ true := by
        intro isSet
        obtain ⟨_, -, -, some_⟩ := dropped isSet
        exact some_ rfl
      exact ⟨fun isSet => absurd isSet unset, fun found => unset (optionIsSet_of_string found)⟩
    · rintro ⟨applies, -⟩ isSet
      exact absurd (applies isSet) Bool.false_ne_true
  | true =>
    rcases listProperty_eq_ok read with ⟨unset, rfl⟩ | ⟨text, found, rfl⟩
    · rw [unset]
      refine iff_of_true (fun isSet => nomatch isSet) ⟨fun _ => rfl, fun found => ?_⟩
      rw [optionIsSet_of_string found] at unset
      cases unset
    · rw [optionIsSet_of_string found, found]
      simp [split_eq_nil_iff]

theorem list_of_unset {sent : List String}
    (read : guarded condition [] (listProperty args option) = .ok sent)
    (unset : optionIsSet args option = false) : sent = [] := by
  cases condition with
  | false => exact (Except.ok.inj read).symm
  | true =>
    rcases listProperty_eq_ok read with ⟨-, nothing⟩ | ⟨text, found, -⟩
    · exact nothing
    · rw [optionIsSet_of_string found] at unset
      cases unset

theorem set_of_text {text : String}
    (read : guarded condition none (textProperty args option) = .ok (some text)) :
    condition = true ∧ args option = some (.string text) := by
  cases condition with
  | false => cases read
  | true =>
    have asked : textProperty args option = .ok (some text) := read
    rw [textProperty, given] at asked
    cases found : args option with
    | none =>
      rw [found] at asked
      cases asked
    | some value =>
      rw [found] at asked
      cases value with
      | string sent =>
        cases asked
        exact ⟨rfl, rfl⟩
      | _ => cases asked

theorem flagOf_eq_ok {flag : Bool} (read : flagOf args option = .ok flag) :
    flag = true ↔ args option = some (.bool true) := by
  rw [flagOf] at read
  cases found : args option with
  | none =>
    rw [found] at read
    cases read
    simp
  | some value =>
    rw [found] at read
    cases value with
    | bool value =>
      cases read
      simp
    | _ => cases read

theorem publishOf_eq_ok {publish : Option Bool} (read : publishOf args = .ok publish) :
    publish.getD true = true ↔ Published args := by
  obtain ⟨flag, -, read⟩ := bind_eq_ok.mp read
  obtain ⟨noPublish, asked, made⟩ := bind_eq_ok.mp read
  rw [Published, ne_eq, ← flagOf_eq_ok asked, ← Except.ok.inj made]
  cases noPublish <;> cases flag <;> simp

theorem protocolOf_eq_tls {publish flagHttp flagTls flagTcp : Bool} :
    (publish && decide (protocolOf publish flagHttp flagTls flagTcp = some "tls")) =
      (publish && flagTls) := by
  cases publish <;> cases flagHttp <;> cases flagTls <;> cases flagTcp <;> rfl

theorem checkPassthrough_eq_ok {tlsMode tlsMinVersion : Option String}
    {upstreamTls mtlsAuth : Option Bool} {tlsAlpns : List String} {done : PUnit}
    (passed : checkPassthrough tlsMode upstreamTls tlsAlpns tlsMinVersion mtlsAuth = .ok done)
    (mode : tlsMode = some "passthrough") :
    tlsAlpns = [] ∧ tlsMinVersion = none ∧ mtlsAuth ≠ some true ∧ upstreamTls ≠ some true := by
  rw [checkPassthrough, if_pos mode] at passed
  obtain ⟨_, upstream, passed⟩ := bind_eq_ok.mp passed
  obtain ⟨_, alpns, passed⟩ := bind_eq_ok.mp passed
  have policy := require_eq_ok.mp passed
  exact ⟨require_eq_ok.mp alpns, policy.1, policy.2, require_eq_ok.mp upstream⟩

end Options

/-! ## The properties -/

section Properties

variable {args : Args} {properties : TunnelProperties}

/-- How the options of access control and of TLS were read. -/
structure ReadFrom (args : Args) (properties : TunnelProperties) (publish isTls : Bool) : Prop where
  published : publish = true ↔ Published args
  publishedTls : isTls = true ↔ PublishedTls args
  geoip : guarded true [] (listProperty args "--geoip") = .ok properties.geoip
  trustedIps : guarded true [] (listProperty args "--trusted-ips") = .ok properties.trustedIps
  mtls : guarded publish none (flagProperty args "--mtls") = .ok properties.mtlsAuth
  tlsMode : guarded isTls none (textProperty args "--tls-mode") = .ok properties.tlsMode
  tlsAlpns : guarded isTls [] (listProperty args "--tls-alpn") = .ok properties.tlsAlpns
  tlsMinVersion : guarded isTls none (textProperty args "--tls-min-version") =
    .ok properties.tlsMinVersion
  tlsCiphers : guarded isTls [] (listProperty args "--tls-ciphers") = .ok properties.tlsCiphers
  tokenAuth : guarded publish none (flagProperty args "--token-auth") = .ok properties.tokenAuth
  rstreamAuth : guarded publish none (flagProperty args "--rstream-auth") =
    .ok properties.rstreamAuth
  challengeMode : guarded publish none (flagProperty args "--challenge-mode") =
    .ok properties.challengeMode
  passthrough : guarded isTls ⟨⟩ (checkPassthrough properties.tlsMode properties.upstreamTls
    properties.tlsAlpns properties.tlsMinVersion properties.mtlsAuth) = .ok ⟨⟩

theorem readFrom_of_ok (reached : tunnelProperties args = .ok properties) :
    ∃ publish isTls, ReadFrom args properties publish isTls := by
  rw [tunnelProperties] at reached
  simp only [bind_eq_ok] at reached
  have ⟨publish, published, flagHttp, _, flagTls, tls, flagTcp, _, _, _, _, _, _, _, _, _,
    geoip, readGeoip, trustedIps, readTrustedIps, _, _, upstreamTls, _, mtlsAuth, readMtls,
    tlsMode, readTlsMode, tlsAlpns, readTlsAlpns, tlsMinVersion, readTlsMinVersion,
    tlsCiphers, readTlsCiphers, _, passthrough, _, _, tokenAuth, readTokenAuth,
    rstreamAuth, readRstreamAuth, challengeMode, readChallengeMode, _, _, made⟩ := reached
  cases made
  refine ⟨publish.getD true, _, ⟨publishOf_eq_ok published, ?_, readGeoip, readTrustedIps, readMtls,
    readTlsMode, readTlsAlpns, readTlsMinVersion, readTlsCiphers, readTokenAuth, readRstreamAuth,
    readChallengeMode, passthrough⟩⟩
  rw [protocolOf_eq_tls, Bool.and_eq_true, publishOf_eq_ok published, flagOf_eq_ok tls]
  rfl

theorem ReadFrom.policy {publish isTls : Bool} (read : ReadFrom args properties publish isTls)
    (mode : properties.tlsMode = some "passthrough") :
    properties.tlsAlpns = [] ∧ properties.tlsMinVersion = none ∧
      properties.mtlsAuth ≠ some true ∧ properties.upstreamTls ≠ some true := by
  have tlsMode := read.tlsMode
  rw [mode] at tlsMode
  have passthrough := read.passthrough
  rw [(set_of_text tlsMode).1] at passthrough
  exact checkPassthrough_eq_ok passthrough mode

/-- **The options of access control and of TLS are all sent exactly when they apply to the tunnel.** -/
theorem sent_iff (reached : tunnelProperties args = .ok properties) :
    Sent args properties ↔ Applicable args := by
  obtain ⟨publish, isTls, read⟩ := readFrom_of_ok reached
  have tlsAlpn := listSent_iff read.tlsAlpns
  have tlsCiphers := listSent_iff read.tlsCiphers
  have trustedIps := listSent_iff read.trustedIps
  have geoip := listSent_iff read.geoip
  constructor
  · intro sent
    refine ⟨?_, ?_, ?_, ?_⟩
    · simp only [List.forall_mem_cons, ← read.published]
      exact ⟨(flagSent_iff read.mtls).mp sent.mtls, (flagSent_iff read.tokenAuth).mp sent.tokenAuth,
        (flagSent_iff read.rstreamAuth).mp sent.rstreamAuth,
        (flagSent_iff read.challengeMode).mp sent.challengeMode, fun _ mem => nomatch mem⟩
    · simp only [List.forall_mem_cons, ← read.publishedTls]
      exact ⟨(textSent_iff read.tlsMode).mp sent.tlsMode,
        (textSent_iff read.tlsMinVersion).mp sent.tlsMinVersion, (tlsAlpn.mp sent.tlsAlpn).1,
        (tlsCiphers.mp sent.tlsCiphers).1, fun _ mem => nomatch mem⟩
    · simp only [List.forall_mem_cons]
      exact ⟨(tlsAlpn.mp sent.tlsAlpn).2, (tlsCiphers.mp sent.tlsCiphers).2,
        (trustedIps.mp sent.trustedIps).2, (geoip.mp sent.geoip).2, fun _ mem => nomatch mem⟩
    · intro mode
      -- the mode is sent, and then the ciphers are not
      obtain ⟨text, found, sentMode⟩ := sent.tlsMode (optionIsSet_of_string mode)
      have same : text = "passthrough" := by
        rw [mode, Option.some.injEq, Value.string.injEq] at found
        exact found.symm
      have plain := (sent.passthrough (sentMode.trans (congrArg some same))).2.2.1
      by_contra isSet
      obtain ⟨_, -, -, filled⟩ := sent.tlsCiphers (Bool.not_eq_false _ ▸ isSet)
      exact filled plain
  · intro applicable
    have published := applicable.published
    have tls := applicable.tls
    have items := applicable.items
    simp only [List.forall_mem_cons, ← read.published] at published
    simp only [List.forall_mem_cons, ← read.publishedTls] at tls
    simp only [List.forall_mem_cons] at items
    obtain ⟨mtls, tokenAuth, rstreamAuth, challengeMode, -⟩ := published
    obtain ⟨mode, minVersion, alpn, ciphers, -⟩ := tls
    obtain ⟨alpnItems, cipherItems, ipItems, countryItems, -⟩ := items
    refine ⟨(flagSent_iff read.mtls).mpr mtls, (flagSent_iff read.tokenAuth).mpr tokenAuth,
      (flagSent_iff read.rstreamAuth).mpr rstreamAuth,
      (flagSent_iff read.challengeMode).mpr challengeMode, (textSent_iff read.tlsMode).mpr mode,
      (textSent_iff read.tlsMinVersion).mpr minVersion, tlsAlpn.mpr ⟨alpn, alpnItems⟩,
      tlsCiphers.mpr ⟨ciphers, cipherItems⟩, trustedIps.mpr ⟨fun _ => rfl, ipItems⟩,
      geoip.mpr ⟨fun _ => rfl, countryItems⟩, ?_⟩
    intro sentMode
    obtain ⟨alpns, version, mtlsAuth, upstream⟩ := read.policy sentMode
    have readMode := read.tlsMode
    rw [sentMode] at readMode
    have unset := applicable.passthrough (set_of_text readMode).2
    exact ⟨alpns, version, list_of_unset read.tlsCiphers unset, mtlsAuth, upstream⟩

end Properties

/-! ## Command lines -/

/-- The arguments that docopt always gives. -/
def defaultArgs : List (String × Value) :=
  [("--cors-allow-origin", .stringList []), ("--cors-allow-method", .stringList []),
    ("--cors-allow-header", .stringList []), ("--cors-expose-header", .stringList []),
    ("--cors-allow-credentials", .bool false)]

/-- The arguments with some options. -/
def sampleArgs (options : List (String × Value)) : Args := fun option =>
  ((options ++ defaultArgs).find? fun arg => arg.1 = option).map Prod.snd

/-- A TLS tunnel with a minimal version and countries. -/
def restrictedTls : Args :=
  sampleArgs [("--tls", .bool true), ("--tls-min-version", .string "tls1.3"),
    ("--geoip", .string "FR,DE")]

theorem sent_iff_restrictedTls :
    Sent restrictedTls
        { protocol := some "tls", tlsMinVersion := some "tls1.3", geoip := ["FR", "DE"] } ↔
      Applicable restrictedTls :=
  have reached : tunnelProperties restrictedTls =
      .ok { protocol := some "tls", tlsMinVersion := some "tls1.3", geoip := ["FR", "DE"] } := by
    decide
  sent_iff reached

/-- A tunnel that is not published drops its token authentication, an HTTP tunnel its minimal TLS
version, an empty list of countries is no list, and ciphers are sent with TLS passthrough. -/
theorem unpublished_not_sent :
    (¬∀ (args : Args) (properties : TunnelProperties),
      tunnelProperties args = .ok properties → Sent args properties) ∧
    ∀ options ∈ [[("--http", Value.bool true), ("--tls-min-version", .string "tls1.3")],
        [("--geoip", .string "")],
        [("--tls", .bool true), ("--tls-mode", .string "passthrough"),
          ("--tls-ciphers", .string "TLS_AES_128_GCM_SHA256")]],
      ∃ properties, tunnelProperties (sampleArgs options) = .ok properties ∧
        ¬Sent (sampleArgs options) properties := by
  refine ⟨fun always => ?_, ?_⟩
  · have sent := always
      (sampleArgs [("--no-publish", .bool true), ("--token-auth", .bool true)])
      { publish := some false } (by decide)
    exact absurd (sent.tokenAuth (by decide)) (by decide)
  · simp only [List.forall_mem_cons]
    refine ⟨⟨{ protocol := some "http" }, by decide, fun sent => ?_⟩,
      ⟨{}, by decide, fun sent => ?_⟩,
      ⟨{ protocol := some "tls", tlsMode := some "passthrough"
         tlsCiphers := ["TLS_AES_128_GCM_SHA256"] }, by decide, fun sent => ?_⟩,
      fun _ mem => nomatch mem⟩
    · obtain ⟨_, -, same⟩ := sent.tlsMinVersion (by decide)
      cases same
    · obtain ⟨_, -, -, filled⟩ := sent.geoip (by decide)
      exact filled rfl
    · exact absurd (sent.passthrough rfl).2.2.1 (by decide)

end Rstream.Tunnel
