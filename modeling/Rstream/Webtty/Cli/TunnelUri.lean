import Rstream.Library.Queries
import Rstream.Webtty.Cli.TunnelProperties
import Rstream.Webtty.Server.Types

/-!
# The URI of a tunnel

The server writes the labels of its tunnel into a URI, percent-encoded, and the library reads them
back from it. A label is its key, an equals sign and its value, and reading ends the key at the
first equals sign. The fixed keys have none, while the key of a user label may have one, and then
other labels are registered than those whose hash was signed (`uriRoundTrip_iff`).
-/

namespace Rstream.Webtty.Cli

open List
open IoRstrm (ErrorCode)
open Library
open SortedMap (lastValue)
open Server (ProtocolType ExecutionMode transportString)

/-! ## The source -/

/-- `get_os_details` and `get_runtime_identity`. -/
structure Machine where
  os : Bytes
  arch : Bytes
  id : Bytes
  versionId : Bytes
  codename : Bytes
  prettyName : Bytes
  kernel : Bytes
  hostname : Bytes

structure WebttyUriOptions where
  transport : ProtocolType := .websocket
  managed : Bool := false
  publish : Bool := true
  executionMode : ExecutionMode := .spawn
  serverId : Bytes := []
  serverName : Bytes := []
  hostKeyId : Bytes := []
  encryptionPolicy : Bytes := []
  serverAdmissionLabel : Bytes := []
  labels : Labels := SortedMap.empty

def setLabel (labels : Labels) (label : Bytes × Bytes) : Labels :=
  if label.2 = [] then labels else labels.insert label.1 label.2

/-- The first part of the key of a user label. -/
def userLabelStem : Bytes := bytesFromString "rstream.webtty.label."

section Source

variable (machine : Machine) (options : WebttyUriOptions)

/-- The labels whose keys are fixed, but for the proof. -/
def fixedLabels : List (Bytes × Bytes) :=
  let guarded := !options.hostKeyId.isEmpty
  [("application-protocol", bytesFromString "rstream.webtty"),
    ("rstream.webtty.transport", transportString options.transport),
    ("rstream.webtty.capabilities", bytesFromString "exec"),
    ("rstream.webtty.execution.mode",
      bytesFromString (if options.executionMode = .login then "login" else "spawn")),
    ("rstream.webtty.exec.path", bytesFromString "/"),
    ("rstream.webtty.server_id", options.serverId),
    ("rstream.webtty.server_name", options.serverName),
    ("rstream.webtty.host_key_id", options.hostKeyId),
    ("rstream.webtty.encryption_policy", options.encryptionPolicy),
    ("rstream.webtty.e2e", bytesFromString (if guarded then "required" else "disabled")),
    ("rstream.webtty.client_proof", bytesFromString (if guarded then "required" else "none")),
    ("rstream.webtty.os_family", machine.os),
    ("rstream.webtty.arch", machine.arch),
    ("rstream.webtty.os_id", machine.id),
    ("rstream.webtty.os_version_id", machine.versionId),
    ("rstream.webtty.os_version_codename", machine.codename),
    ("rstream.webtty.os_pretty_name", machine.prettyName),
    ("rstream.webtty.kernel_release", machine.kernel),
    ("rstream.webtty.hostname", machine.hostname)].map fun label =>
      (bytesFromString label.1, label.2)

def userLabels : List (Bytes × Bytes) :=
  options.labels.entries.map fun label => (userLabelStem ++ label.1, label.2)

/-- The labels in the order in which they are set. -/
def labelsInOrder : List (Bytes × Bytes) :=
  fixedLabels machine options ++ userLabels options ++
    [(serverAdmissionLabel, options.serverAdmissionLabel)]

def buildWebttyLabels : Labels := (labelsInOrder machine options).foldl setLabel SortedMap.empty

def escapeDigit (value : UInt8) : UInt8 := if value < 10 then 48 + value else 55 + value

/-- A byte in a URI. -/
def pctEncodeByte (byte : UInt8) : Bytes :=
  if isUnreserved byte then [byte]
  else [37, escapeDigit (byte >>> 4), escapeDigit (byte &&& 15)]

def pctEncode (value : Bytes) : Bytes := value.flatMap pctEncodeByte

/-- Whether the tunnel is published. -/
def WebttyUriOptions.published : Bool :=
  options.publish && (options.managed || options.transport != .plain)

/-- A label in the URI. -/
def labelText (label : Bytes × Bytes) : Bytes := label.1 ++ 61 :: label.2

def buildWebttyUri : Bytes :=
  bytesFromString "rstrm://" ++
  (if options.managed ∧ options.serverId ≠ [] then pctEncode options.serverId else []) ++
  bytesFromString "?rstrm.publish=" ++
  bytesFromString (if options.published then "true" else "false") ++
  bytesFromString "&rstrm.type=bytestream" ++
  (if options.managed then bytesFromString "&rstrm.protocol=webtty"
    else if options.transport = .websocket then bytesFromString "&rstrm.protocol=http"
    else []) ++
  (if options.published then bytesFromString "&rstrm.token_auth=true" else []) ++
  (buildWebttyLabels machine options).entries.flatMap fun label =>
    bytesFromString "&rstrm.labels=" ++ pctEncode (labelText label)

end Source

/-! ## What the URI is to say -/

/-- A URI with a host and a query. -/
def uriText (host : Bytes) (items : List (Bytes × Bytes)) : Bytes :=
  bytesFromString "rstrm://" ++ host ++ 63 :: writeQuery items

/-- What is relied on of the URL library: the parameters of a URI with an escaped host are the
meanings of the escaped items of its query. -/
def ReadsEscapedQueries (urlParams : Bytes → Option (List UrlParam)) : Prop :=
  ∀ (host authority : Bytes) (texts meanings : List (Bytes × Bytes)), Escapes host authority →
    texts ≠ [] → List.Forall₂ EscapesItem texts meanings →
      urlParams (uriText host texts) = some (meanings.map fun item => (item.1, some item.2))

/-- The properties of a tunnel are those that the options ask for, and the hash of its labels is
that of the labels before the proof was added to them. -/
structure RegistersAs (machine : Machine) (options : WebttyUriOptions)
    (properties : UrlTunnelProperties) : Prop where
  labels : properties.labels = buildWebttyLabels machine options
  type : properties.type = some (bytesFromString "bytestream")
  publish : properties.publish = some options.published
  tokenAuth : properties.tokenAuth = if options.published then some true else none
  protocol : properties.protocol =
    if options.managed then some (bytesFromString "webtty")
    else if options.transport = .websocket then some (bytesFromString "http")
    else none
  hash : ∀ sha256 : Bytes → Bytes,
    webttyServerAdmissionLabelsHash sha256
        (buildWebttyLabels machine { options with serverAdmissionLabel := [] }) =
      webttyServerAdmissionLabelsHash sha256 properties.labels

/-- The URI of a tunnel is read, and says what the options ask for. -/
def UriRoundTrip (urlParams : Bytes → Option (List UrlParam)) (machine : Machine)
    (options : WebttyUriOptions) : Prop :=
  ∃ params settings, urlParams (buildWebttyUri machine options) = some params ∧
    parseSettingsAcceptor params = .ok settings ∧
    RegistersAs machine options settings.tunnelProperties

/-! ## The text of the URI -/

/-- **What `pct_encode` writes means its argument.** -/
theorem escapes_pctEncode (value : Bytes) : Escapes (pctEncode value) value := escapes_escape value

/-- The parameters of the URI that are no labels. -/
def tunnelItems (options : WebttyUriOptions) : List (Bytes × Bytes) :=
  [(bytesFromString "rstrm.publish",
      bytesFromString (if options.published then "true" else "false")),
    (bytesFromString "rstrm.type", bytesFromString "bytestream")] ++
  (if options.managed then [(bytesFromString "rstrm.protocol", bytesFromString "webtty")]
    else if options.transport = .websocket then
      [(bytesFromString "rstrm.protocol", bytesFromString "http")]
    else []) ++
  if options.published then [(bytesFromString "rstrm.token_auth", bytesFromString "true")] else []

/-- The host of the URI. -/
def tunnelHost (options : WebttyUriOptions) : Bytes :=
  if options.managed ∧ options.serverId ≠ [] then options.serverId else []

section Text

variable (machine : Machine) (options : WebttyUriOptions)

/-- The parameters of the URI as they are written. -/
def uriItems : List (Bytes × Bytes) :=
  tunnelItems options ++ (buildWebttyLabels machine options).entries.map fun label =>
    (bytesFromString "rstrm.labels", pctEncode (labelText label))

/-- The parameters of the URI as they are meant. -/
def uriMeanings : List (Bytes × Bytes) :=
  tunnelItems options ++ (buildWebttyLabels machine options).entries.map fun label =>
    (bytesFromString "rstrm.labels", labelText label)

theorem writeQuery_cons (first : Bytes × Bytes) (rest : List (Bytes × Bytes)) :
    writeQuery (first :: rest) = writeItem first ++ rest.flatMap fun item => 38 :: writeItem item := by
  rw [writeQuery, map_cons, intercalate_cons, flatMap_map]

theorem buildWebttyUri_eq :
    buildWebttyUri machine options =
      uriText (pctEncode (tunnelHost options)) (uriItems machine options) := by
  have host : (if options.managed ∧ options.serverId ≠ [] then pctEncode options.serverId else []) =
      pctEncode (tunnelHost options) := by
    rw [tunnelHost]
    split <;> rfl
  have label (label : Bytes × Bytes) :
      bytesFromString "&rstrm.labels=" ++ pctEncode (labelText label) =
        38 :: writeItem (bytesFromString "rstrm.labels", pctEncode (labelText label)) := rfl
  have publish (value : Bytes) : bytesFromString "?rstrm.publish=" ++ value =
      63 :: writeItem (bytesFromString "rstrm.publish", value) := rfl
  have type : bytesFromString "&rstrm.type=bytestream" =
      38 :: writeItem (bytesFromString "rstrm.type", bytesFromString "bytestream") := rfl
  have protocol : (if options.managed then bytesFromString "&rstrm.protocol=webtty"
      else if options.transport = .websocket then bytesFromString "&rstrm.protocol=http"
      else []) =
      (if options.managed then [(bytesFromString "rstrm.protocol", bytesFromString "webtty")]
        else if options.transport = .websocket then
          [(bytesFromString "rstrm.protocol", bytesFromString "http")]
        else []).flatMap fun item => 38 :: writeItem item := by
    split
    · rfl
    · split <;> rfl
  have token : (if options.published then bytesFromString "&rstrm.token_auth=true" else []) =
      (if options.published then [(bytesFromString "rstrm.token_auth", bytesFromString "true")]
        else []).flatMap fun item => 38 :: writeItem item := by
    split <;> rfl
  rw [buildWebttyUri, uriText, uriItems, tunnelItems, host, protocol, token]
  simp only [label, type, cons_append, nil_append, append_assoc, writeQuery_cons,
    flatMap_cons, flatMap_append, flatMap_map]
  rw [← append_assoc (bytesFromString "?rstrm.publish="), publish]
  simp only [cons_append]

/-- The parameters that are not labels, and the keys of all. -/
def fixedItems : List (Bytes × Bytes) :=
  [("rstrm.publish", "true"), ("rstrm.publish", "false"), ("rstrm.type", "bytestream"),
    ("rstrm.protocol", "webtty"), ("rstrm.protocol", "http"), ("rstrm.token_auth", "true")].map
      fun item => (bytesFromString item.1, bytesFromString item.2)

def tunnelKeys : List Bytes :=
  ["rstrm.publish", "rstrm.type", "rstrm.protocol", "rstrm.token_auth", "rstrm.labels"].map
    bytesFromString

theorem fixedItems_table :
    (∀ item ∈ fixedItems, item.1 ∈ tunnelKeys.dropLast ∧ item.1.all isUnreserved = true ∧
      item.2.all isUnreserved = true) ∧
    (bytesFromString "rstrm.labels").all isUnreserved = true ∧
    (∀ key ∈ tunnelKeys.dropLast, key ≠ bytesFromString "rstrm.labels") ∧
    ∀ key ∈ tunnelKeys, (bytesFromString "rstrm.http_cors.").isPrefixOf key = false := by
  decide

theorem mem_fixedItems : ∀ item ∈ tunnelItems options, item ∈ fixedItems := by
  unfold tunnelItems
  cases options.published <;> cases options.managed <;> cases options.transport <;>
    simp [fixedItems]

theorem escapes_tunnelItems :
    List.Forall₂ EscapesItem (tunnelItems options) (tunnelItems options) := by
  refine forall₂_same.mpr fun item mem => ?_
  obtain ⟨-, key, value⟩ := fixedItems_table.1 item (mem_fixedItems options item mem)
  exact ⟨escapes_of_unreserved (all_eq_true.mp key),
    escapes_of_unreserved (all_eq_true.mp value)⟩

theorem escapes_uriItems :
    List.Forall₂ EscapesItem (uriItems machine options) (uriMeanings machine options) := by
  refine rel_append (escapes_tunnelItems options) ?_
  rw [forall₂_map_left_iff, forall₂_map_right_iff]
  have key := all_eq_true.mp fixedItems_table.2.1
  exact forall₂_same.mpr fun label _ => ⟨escapes_of_unreserved key, escapes_pctEncode _⟩

/-- The parameters that the library finds in the URI. -/
theorem urlParams_buildWebttyUri {urlParams : Bytes → Option (List UrlParam)}
    (documented : ReadsEscapedQueries urlParams) :
    urlParams (buildWebttyUri machine options) =
      some ((tunnelItems options).map (fun item => (item.1, some item.2)) ++
        labelParams ((buildWebttyLabels machine options).entries.map labelText)) := by
  have items : uriItems machine options ≠ [] := by
    rw [uriItems, tunnelItems]
    exact cons_ne_nil _ _
  rw [buildWebttyUri_eq, documented _ _ _ _ (escapes_pctEncode _) items
    (escapes_uriItems machine options), uriMeanings, map_append, map_map, labelParams,
    map_map]
  rfl

end Text

/-! ## The settings that are read -/

section Settings

variable (options : WebttyUriOptions) (labels : List Bytes)

/-- The parameters of a URI with some labels. -/
def tunnelParams : List UrlParam :=
  (tunnelItems options).map (fun item => (item.1, some item.2)) ++ labelParams labels

/-- The properties of a tunnel with some labels. -/
def tunnelProperties : UrlTunnelProperties where
  type := some (bytesFromString "bytestream")
  publish := some options.published
  protocol :=
    if options.managed then some (bytesFromString "webtty")
    else if options.transport = .websocket then some (bytesFromString "http")
    else none
  labels := labels.foldl insertLabel SortedMap.empty
  geoip := []
  trustedIps := []
  host := none
  hostname := none
  tlsMinVersion := none
  tlsCiphers := []
  mtlsAuth := none
  httpVersion := none
  httpUseTls := none
  upstreamTls := none
  tokenAuth := if options.published then some true else none
  rstreamAuth := none
  challengeMode := none
  datagramGuaranteedDelivery := none
  allowCrossRegionRouting := none
  tlsMode := none
  tlsAlpns := []
  httpCors := none

theorem key_mem_tunnelItems (item : Bytes × Bytes) (mem : item ∈ tunnelItems options) :
    item.1 ∈ tunnelKeys.dropLast :=
  (fixedItems_table.1 item (mem_fixedItems options item mem)).1

theorem key_mem_tunnelParams : ∀ param ∈ tunnelParams options labels, param.1 ∈ tunnelKeys := by
  intro param mem
  obtain fixed | label := mem_append.mp mem
  · obtain ⟨item, within, rfl⟩ := mem_map.mp fixed
    exact dropLast_subset _ (key_mem_tunnelItems options item within)
  · obtain ⟨label, -, rfl⟩ := mem_map.mp label
    simp [tunnelKeys]

theorem findParam_tunnelParams {key : String}
    (other : bytesFromString key ∈ tunnelKeys.dropLast) :
    findParam (tunnelParams options labels) key =
      findParam ((tunnelItems options).map fun item => (item.1, some item.2)) key :=
  findParam_append_labels (fixedItems_table.2.2.1 _ other)

/-- What is read, and is absent from the URI. -/
def absentKeys : List String :=
  ["rstrm.geoip", "rstrm.trusted_ips", "rstrm.host", "rstrm.hostname", "rstrm.tls_min_version",
    "rstrm.tls_ciphers", "rstrm.mtls_auth", "rstrm.http_version", "rstrm.http_use_tls",
    "rstrm.upstream_tls", "rstrm.rstream_auth", "rstrm.challenge_mode",
    "rstrm.datagram_guaranteed_delivery", "rstrm.allow_cross_region_routing", "rstrm.tls_mode",
    "rstrm.tls_alpns", "rstream.no_token", "rstream.token", "rstream.retry"]

theorem absentKeys_table : ∀ key ∈ absentKeys, bytesFromString key ∉ tunnelKeys := by
  decide +kernel

theorem absent_tunnelParams (key : String) (known : key ∈ absentKeys) :
    findParam (tunnelParams options labels) key = none ∧
      paramBool (tunnelParams options labels) key = .ok none ∧
      paramText (tunnelParams options labels) key = .ok none ∧
      paramList (tunnelParams options labels) key = .ok [] := by
  have unset : findParam (tunnelParams options labels) key = none := by
    rw [findParam, Option.map_eq_none_iff, find?_eq_none]
    intro param mem
    rw [beq_iff_eq]
    rintro same
    exact absentKeys_table key known (same ▸ key_mem_tunnelParams options labels param mem)
  rw [paramBool, paramText, paramList, unset]
  exact ⟨rfl, rfl, rfl, rfl⟩

theorem paramText_type :
    paramText (tunnelParams options labels) "rstrm.type" =
      .ok (some (bytesFromString "bytestream")) := by
  rw [paramText, findParam_tunnelParams options labels (by simp [tunnelKeys])]
  rfl

theorem paramBool_publish :
    paramBool (tunnelParams options labels) "rstrm.publish" = .ok (some options.published) := by
  rw [paramBool, findParam_tunnelParams options labels (by simp [tunnelKeys]), tunnelItems]
  cases options.published <;> rfl

theorem paramText_protocol :
    paramText (tunnelParams options labels) "rstrm.protocol" =
      .ok (if options.managed then some (bytesFromString "webtty")
        else if options.transport = .websocket then some (bytesFromString "http")
        else none) := by
  rw [paramText, findParam_tunnelParams options labels (by simp [tunnelKeys]), tunnelItems]
  cases options.published <;> cases options.managed <;> cases options.transport <;> rfl

theorem paramBool_tokenAuth :
    paramBool (tunnelParams options labels) "rstrm.token_auth" =
      .ok (if options.published then some true else none) := by
  rw [paramBool, findParam_tunnelParams options labels (by simp [tunnelKeys]), tunnelItems]
  cases options.published <;> cases options.managed <;> cases options.transport <;> rfl

theorem paramLabels_tunnelParams :
    paramLabels (tunnelParams options labels) "rstrm.labels" =
      .ok (labels.foldl insertLabel SortedMap.empty) := by
  refine paramLabels_append_labels fun param mem => ?_
  obtain ⟨item, within, rfl⟩ := mem_map.mp mem
  exact fixedItems_table.2.2.1 item.1 (key_mem_tunnelItems options item within)

theorem paramCors_tunnelParams (publish : Option Bool) (protocol : Option Bytes) :
    paramCors (tunnelParams options labels) publish protocol = .ok none := by
  have other : ∀ param ∈ tunnelParams options labels,
      (bytesFromString "rstrm.http_cors.").isPrefixOf param.1 = false := by
    intro param mem
    exact fixedItems_table.2.2.2 param.1 (key_mem_tunnelParams options labels param mem)
  rw [paramCors, corsLoop_of_other other]
  rfl

/-- **The settings of a URI** that says what the options ask for. -/
theorem parseSettingsAcceptor_tunnelParams :
    parseSettingsAcceptor (tunnelParams options labels) =
      .ok ⟨⟨false, none, false⟩, true, tunnelProperties options labels⟩ := by
  have absent := absent_tunnelParams options labels
  simp only [absentKeys, forall_mem_cons] at absent
  have tunnel : parseTunnelProperties (tunnelParams options labels) =
      .ok (tunnelProperties options labels) := by
    simp only [parseTunnelProperties, paramText_type, paramBool_publish, paramText_protocol,
      paramLabels_tunnelParams, paramBool_tokenAuth, paramCors_tunnelParams, absent, ok_bind]
    rfl
  have config : parseConfig (tunnelParams options labels) = .ok ⟨false, none, false⟩ := by
    simp only [parseConfig, absent, ok_bind]
    rfl
  simp only [parseSettingsAcceptor, config, tunnel, absent, ok_bind]
  rfl

end Settings

/-! ## The labels that are read -/

/-- A label as it is read from its text. -/
def readLabel (label : Bytes × Bytes) : Bytes × Bytes :=
  ((cut 61 (labelText label)).1, ((cut 61 (labelText label)).2).getD [])

theorem insertLabel_labelText (labels : Labels) (label : Bytes × Bytes) :
    insertLabel labels (labelText label) =
      labels.insert (readLabel label).1 (readLabel label).2 := by
  have within : (61 : UInt8) ∈ labelText label :=
    mem_append_right _ mem_cons_self
  rw [insertLabel, readLabel]
  cases rest : (cut 61 (labelText label)).2 with
  | none =>
    have whole := @paste_cut _ _ 61 (labelText label)
    rw [rest, paste, Option.elim_none, append_nil] at whole
    exact absurd (whole ▸ within) (notMem_cut _)
  | some value => rfl

/-- A key without an equals sign is read again. -/
theorem readLabel_of_notMem {label : Bytes × Bytes} (absent : 61 ∉ label.1) :
    readLabel label = label := by
  have text : labelText label = paste 61 label.1 (some label.2) := rfl
  rw [readLabel, text, cut_paste absent]
  rfl

theorem foldl_insertLabel (labels : List (Bytes × Bytes)) :
    (labels.map labelText).foldl insertLabel SortedMap.empty =
      SortedMap.ofList (labels.map readLabel) := by
  rw [SortedMap.ofList, foldl_map, foldl_map]
  exact congrArg (fun step => labels.foldl step SortedMap.empty)
    (funext fun labels => funext fun label => insertLabel_labelText labels label)

/-- **Labels are read again** exactly if no key has an equals sign. -/
theorem readLabels_eq_iff (labels : Labels) :
    SortedMap.ofList (labels.entries.map readLabel) = labels ↔
      ∀ label ∈ labels.entries, 61 ∉ label.1 := by
  constructor
  · intro same label mem
    rw [← same] at mem
    obtain ⟨first, -, rfl⟩ := mem_map.mp (SortedMap.mem_of_mem_ofList mem)
    exact notMem_cut _
  · intro absent
    have kept : labels.entries.map readLabel = labels.entries := by
      refine (map_congr_left fun label mem => ?_).trans labels.entries.map_id
      exact readLabel_of_notMem (absent label mem)
    rw [kept, SortedMap.ofList_entries]

section Labels

variable (machine : Machine) (options : WebttyUriOptions)

/-- Labels without a value are not set. -/
theorem buildWebttyLabels_eq :
    buildWebttyLabels machine options =
      SortedMap.ofList ((labelsInOrder machine options).filter fun label => label.2 ≠ []) := by
  have step (labels : List (Bytes × Bytes)) (start : Labels) : labels.foldl setLabel start =
      (labels.filter fun label => label.2 ≠ []).foldl
        (fun map entry => map.insert entry.1 entry.2) start := by
    induction labels generalizing start with
    | nil => rfl
    | cons label rest ih =>
      rw [foldl_cons, ih, setLabel, filter_cons]
      by_cases empty : label.2 = []
      · simp [empty]
      · simp [empty]
  exact step _ _

theorem equals_notMem_fixedLabels : ∀ label ∈ fixedLabels machine options, 61 ∉ label.1 := by
  have keys : (fixedLabels machine options).map Prod.fst =
      ["application-protocol", "rstream.webtty.transport", "rstream.webtty.capabilities",
        "rstream.webtty.execution.mode", "rstream.webtty.exec.path", "rstream.webtty.server_id",
        "rstream.webtty.server_name", "rstream.webtty.host_key_id",
        "rstream.webtty.encryption_policy", "rstream.webtty.e2e", "rstream.webtty.client_proof",
        "rstream.webtty.os_family", "rstream.webtty.arch", "rstream.webtty.os_id",
        "rstream.webtty.os_version_id", "rstream.webtty.os_version_codename",
        "rstream.webtty.os_pretty_name", "rstream.webtty.kernel_release",
        "rstream.webtty.hostname"].map bytesFromString := by
    simp only [fixedLabels, map_cons, map_nil]
  have absent : ∀ key ∈ (fixedLabels machine options).map Prod.fst, 61 ∉ key := by
    rw [keys]
    simp only [map_cons, map_nil]
    repeat rw [bytesFromString_ofList]
    decide
  exact fun label mem => absent label.1 (mem_map_of_mem mem)

theorem equals_notMem_keys_iff :
    (∀ label ∈ (buildWebttyLabels machine options).entries, 61 ∉ label.1) ↔
      ∀ label ∈ options.labels.entries, label.2 ≠ [] → 61 ∉ label.1 := by
  rw [buildWebttyLabels_eq]
  constructor
  · intro absent label mem set within
    have ordered : (userLabelStem ++ label.1, label.2) ∈
        (labelsInOrder machine options).filter fun label => label.2 ≠ [] := by
      rw [mem_filter, labelsInOrder, mem_append, mem_append]
      exact ⟨.inl (.inr (mem_map_of_mem mem)), decide_eq_true set⟩
    obtain ⟨value, kept⟩ := SortedMap.exists_mem_ofList ordered
    exact absent _ kept (mem_append_right _ within)
  · intro absent label mem
    obtain ⟨ordered, set⟩ := mem_filter.mp (SortedMap.mem_of_mem_ofList mem)
    rw [labelsInOrder, mem_append, mem_append, mem_singleton] at ordered
    obtain (fixed | user) | rfl := ordered
    · exact equals_notMem_fixedLabels machine options label fixed
    · obtain ⟨first, within, rfl⟩ := mem_map.mp user
      rw [mem_append, not_or]
      exact ⟨by decide, absent first within (of_decide_eq_true set)⟩
    · show 61 ∉ serverAdmissionLabel
      decide

/-- The label of the proof is not hashed. -/
theorem admittedLabels_buildWebttyLabels :
    admittedLabels (buildWebttyLabels machine { options with serverAdmissionLabel := [] }) =
      admittedLabels (buildWebttyLabels machine options) := by
  have fixed : fixedLabels machine { options with serverAdmissionLabel := [] } =
      fixedLabels machine options := rfl
  have user : userLabels { options with serverAdmissionLabel := [] } = userLabels options := rfl
  have others : buildWebttyLabels machine { options with serverAdmissionLabel := [] } =
      (fixedLabels machine options ++ userLabels options).foldl setLabel SortedMap.empty := by
    rw [buildWebttyLabels, labelsInOrder, fixed, user, foldl_append, foldl_cons,
      foldl_nil, setLabel, if_pos rfl]
  have whole : buildWebttyLabels machine options =
      setLabel ((fixedLabels machine options ++ userLabels options).foldl setLabel
        SortedMap.empty) (serverAdmissionLabel, options.serverAdmissionLabel) := by
    rw [buildWebttyLabels, labelsInOrder, foldl_append, foldl_cons, foldl_nil]
  rw [others, whole]
  generalize (fixedLabels machine options ++ userLabels options).foldl setLabel SortedMap.empty =
    labels
  rw [setLabel]
  split
  · rfl
  · apply SortedMap.ext_mem
    intro entry
    rw [admittedLabels, admittedLabels, entries_filterKeys, entries_filterKeys, mem_filter,
      mem_filter, SortedMap.mem_insert]
    constructor
    · rintro ⟨mem, other⟩
      exact ⟨.inr ⟨mem, of_decide_eq_true other⟩, other⟩
    · rintro ⟨rfl | ⟨mem, -⟩, other⟩
      · exact absurd rfl (of_decide_eq_true other)
      · exact ⟨mem, other⟩

end Labels

section RoundTrip

variable {urlParams : Bytes → Option (List UrlParam)} (machine : Machine)
  (options : WebttyUriOptions)

/-- The labels are all that can go wrong. -/
theorem uriRoundTrip_iff_readLabels (documented : ReadsEscapedQueries urlParams) :
    UriRoundTrip urlParams machine options ↔
      SortedMap.ofList ((buildWebttyLabels machine options).entries.map readLabel) =
        buildWebttyLabels machine options := by
  have found := urlParams_buildWebttyUri machine options documented
  have read := parseSettingsAcceptor_tunnelParams options
    ((buildWebttyLabels machine options).entries.map labelText)
  constructor
  · rintro ⟨params, settings, finds, reads, registers⟩
    obtain rfl := Option.some.inj (found.symm.trans finds)
    obtain rfl := Except.ok.inj (read.symm.trans reads)
    rw [← foldl_insertLabel]
    exact registers.labels
  · intro same
    refine ⟨_, _, found, read, ?_⟩
    have labels : (tunnelProperties options
        ((buildWebttyLabels machine options).entries.map labelText)).labels =
        buildWebttyLabels machine options := (foldl_insertLabel _).trans same
    refine ⟨labels, rfl, rfl, rfl, rfl, fun sha256 => ?_⟩
    rw [labels, webttyServerAdmissionLabelsHash, webttyServerAdmissionLabelsHash,
      serverAdmissionLabelsCanonical, serverAdmissionLabelsCanonical,
      admittedLabels_buildWebttyLabels]

/-- **The URI of a tunnel says what the options ask for** exactly if no user label that is set has
an equals sign in its key. -/
theorem uriRoundTrip_iff (documented : ReadsEscapedQueries urlParams) :
    UriRoundTrip urlParams machine options ↔
      ∀ label ∈ options.labels.entries, label.2 ≠ [] → 61 ∉ label.1 := by
  rw [uriRoundTrip_iff_readLabels machine options documented, readLabels_eq_iff,
    equals_notMem_keys_iff]

end RoundTrip

/-! ## Two servers -/

/-- A reading of a URI that keeps to what is relied on. -/
def queryParams (uri : Bytes) : Option (List UrlParam) :=
  match (cut 63 uri).2 with
  | none => some []
  | some query => readQuery query

theorem queryParams_reads : ReadsEscapedQueries queryParams := by
  intro host authority texts meanings escapes some_ items
  have absent : (63 : UInt8) ∉ bytesFromString "rstrm://" ++ host := by
    rw [mem_append, not_or]
    exact ⟨by decide, escapes.notMem (by decide) (by decide)⟩
  have text : uriText host texts =
      paste 63 (bytesFromString "rstrm://" ++ host) (some (writeQuery texts)) := rfl
  rw [queryParams, text, cut_paste absent]
  exact readQuery_write some_ items

/-- A machine that says nothing about itself. -/
def bareMachine : Machine := ⟨[], [], [], [], [], [], [], []⟩

/-- A server with a user label. -/
def labelledOptions (key value : String) : WebttyUriOptions where
  labels := SortedMap.ofList [(bytesFromString key, bytesFromString value)]

/-- An ordinary label is read again. -/
theorem uriRoundTrip_env :
    UriRoundTrip queryParams bareMachine (labelledOptions "env" "production") :=
  (uriRoundTrip_iff bareMachine (labelledOptions "env" "production") queryParams_reads).mpr
    (by decide)

/-- The label `a=b` with the value `c` is read as `a` with the value `b=c`. -/
theorem equalsKey_not_roundTrip :
    ¬UriRoundTrip queryParams bareMachine (labelledOptions "a=b" "c") := by
  rw [uriRoundTrip_iff_readLabels _ _ queryParams_reads, readLabels_eq_iff, equals_notMem_keys_iff]
  decide

end Rstream.Webtty.Cli
