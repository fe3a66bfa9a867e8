import Rstream.IoRstrm.ContextSelection
import Rstream.Library.Results
import Rstream.Webtty.Cli.Json

/-!
# Discovery of a server

The client asks the engine for its tunnels and looks for the one online WebTTY entry that the target
designates, by its id, its name, or one of two labels. What it dials afterwards is the server id of
the entry. The order of the inventory does not matter, but a server id may designate other entries
as well, and then the entry that was selected by its tunnel id is no longer the only one
(`stableSelection_iff`).
-/

namespace Rstream.Webtty.Cli

open Library List
open IoRstrm (OnlyOne filter_eq_singleton_iff)

/-! ## The source -/

structure DiscoveredServer where
  transport : Bytes
  target : Bytes
  execPath : Bytes
  requiresKnownServer : Bool
  deriving DecidableEq

def inventoryString (object : Json) (key : String) (fallback : Bytes) : Except String Bytes :=
  match object.find? (bytesFromString key) with
  | none => .ok fallback
  | some .null => .ok fallback
  | some (.string value) => .ok value
  | some _ => .error ("invalid WebTTY engine inventory field " ++ key)

/-- The labels of an entry. -/
def inventoryLabels (server : Json) : Except String Json :=
  match server.find? (bytesFromString "labels") with
  | none => .ok (.object [])
  | some .null => .ok (.object [])
  | some labels =>
    if labels.isObject then .ok labels else .error "invalid WebTTY engine inventory labels"

/-- What the selection reads of an online WebTTY entry, but for the name of the server. -/
structure InventoryEntry where
  labels : Json
  id : Bytes
  name : Bytes
  serverId : Bytes

/-- Whether an entry is online. -/
def inventoryOnline (server : Json) : Except String Bool :=
  if server.isObject then do
    let status ← inventoryString server "status" []
    .ok (decide (status = bytesFromString "online"))
  else .ok false

/-- Whether an entry is a WebTTY server. -/
def inventoryWebtty (server labels : Json) : Except String Bool := do
  let protocol ← inventoryString server "protocol" []
  if protocol = bytesFromString "webtty" then .ok true
  else do
    let application ← inventoryString labels "application-protocol" []
    .ok (decide (application = bytesFromString "rstream.webtty"))

/-- The reads of the loop for one entry, before the target is looked at. -/
def readInventoryEntry (server : Json) : Except String (Option InventoryEntry) := do
  if ← inventoryOnline server then do
    let labels ← inventoryLabels server
    if ← inventoryWebtty server labels then do
      let id ← inventoryString server "id" []
      let name ← inventoryString server "name" []
      let serverId ← inventoryString labels "rstream.webtty.server_id" []
      .ok (some { labels, id, name, serverId })
    else .ok none
  else .ok none

/-- Whether the target designates an entry. -/
def InventoryEntry.designatedBy (entry : InventoryEntry) (target : Bytes) : Except String Bool :=
  if target = entry.id ∨ target = entry.name ∨ target = entry.serverId then .ok true
  else do
    let serverName ← inventoryString entry.labels "rstream.webtty.server_name" []
    .ok (decide (target = serverName))

/-- The entry, if it is one that the target designates. -/
def matchInventoryEntry (target : Bytes) (server : Json) :
    Except String (Option InventoryEntry) := do
  match ← readInventoryEntry server with
  | none => .ok none
  | some entry => do
      if ← entry.designatedBy target then .ok (some entry) else .ok none

/-- The address that is dialled for an entry. -/
def InventoryEntry.address (entry : InventoryEntry) : Bytes :=
  if entry.serverId = [] then entry.id else entry.serverId

/-- Whether the labels ask for a known server. -/
def labelsRequireKnownServer (labels : Json) : Except String Bool := do
  let e2e ← inventoryString labels "rstream.webtty.e2e" []
  if e2e = bytesFromString "required" then .ok true
  else do
    let clientProof ← inventoryString labels "rstream.webtty.client_proof" []
    if clientProof = bytesFromString "required" then .ok true
    else do
      let hostKeyId ← inventoryString labels "rstream.webtty.host_key_id" []
      .ok (decide (hostKeyId ≠ []))

/-- The transport of an entry: the advertised one, or else a default. -/
def inventoryTransport (requested kind : Bytes) (labels : Json) : Except String Bytes :=
  if (labels.find? (bytesFromString "rstream.webtty.transport")).isSome then
    inventoryString labels "rstream.webtty.transport" []
  else if kind = bytesFromString "datagram" then .ok (bytesFromString "webtransport")
  else if requested = [] then .ok (bytesFromString "websocket")
  else .ok requested

/-- The characters of a transport. -/
def transportName (transport : Bytes) : String :=
  String.ofList (transport.map fun byte => Char.ofNat byte.toNat)

/-- The checks of the transport of an entry, and what is selected of it. -/
def describeServer (requested : Bytes) (server : Json) (entry : InventoryEntry) :
    Except String DiscoveredServer := do
  let kind ← inventoryString server "type" []
  let httpVersion ← inventoryString server "http_version" []
  let transport ← inventoryTransport requested kind entry.labels
  require (transport ∈ ["plain", "websocket", "webtransport"].map bytesFromString)
    "server advertises an invalid WebTTY transport"
  require (kind = [] ∨ (transport = bytesFromString "webtransport" ↔
    kind = bytesFromString "datagram")) "server WebTTY transport conflicts with its tunnel type"
  require (¬(transport = bytesFromString "webtransport" ∧ httpVersion ≠ [] ∧
    httpVersion ≠ bytesFromString "h3")) "server WebTransport requires HTTP/3"
  require (requested = [] ∨ requested = transport)
    ("requested WebTTY transport conflicts with server transport " ++ transportName transport)
  require (transport ≠ bytesFromString "webtransport")
    ("server requires WebTransport, which is not implemented by the C++ WebTTY client; " ++
      "use the Go client")
  let execPath ← inventoryString entry.labels "rstream.webtty.exec.path" (bytesFromString "/")
  let requiresKnownServer ← labelsRequireKnownServer entry.labels
  .ok { transport, target := entry.address, execPath, requiresKnownServer }

/-- The loop of `select_discovered_server`. -/
def selectFrom (target requested : Bytes) :
    List Json → Option DiscoveredServer → Except String (Option DiscoveredServer)
  | [], found => .ok found
  | server :: rest, found => do
      match ← matchInventoryEntry target server with
      | none => selectFrom target requested rest found
      | some entry => do
          require (found = none) "multiple WebTTY servers match; use the tunnel ID"
          let described ← describeServer requested server entry
          selectFrom target requested rest (some described)

def selectDiscoveredServer (inventory : Json) (target requested : Bytes) :
    Except String DiscoveredServer :=
  match inventory with
  | .array elements => do
      match ← selectFrom target requested elements none with
      | none => .error ("online WebTTY server not found in engine inventory; for stream-only " ++
          "tokens use --no-discovery with --transport and local security")
      | some selected => .ok selected
  | _ => .error "invalid WebTTY engine inventory"

/-! ## What the selection is to be -/

/-- An online WebTTY entry that a name designates: its id, its name, or the server id or the server
name of its labels. -/
structure Eligible (name : Bytes) (server : Json) : Prop where
  object : server.isObject = true
  online : inventoryString server "status" [] = .ok (bytesFromString "online")
  webtty : inventoryString server "protocol" [] = .ok (bytesFromString "webtty") ∨
    ∃ labels, inventoryLabels server = .ok labels ∧
      inventoryString labels "application-protocol" [] = .ok (bytesFromString "rstream.webtty")
  designated : inventoryString server "id" [] = .ok name ∨
    inventoryString server "name" [] = .ok name ∨
    ∃ labels, inventoryLabels server = .ok labels ∧
      (inventoryString labels "rstream.webtty.server_id" [] = .ok name ∨
        inventoryString labels "rstream.webtty.server_name" [] = .ok name)

/-- One server is selected, in every order of the inventory, and its address selects it again. -/
structure StableSelection (inventory : Json) (target requested : Bytes) : Prop where
  unique : ∀ selected, selectDiscoveredServer inventory target requested = .ok selected →
    ∃ elements server, inventory = .array elements ∧ OnlyOne (Eligible target) elements server
  permuted : ∀ elements others, inventory = .array elements → elements.Perm others →
    (selectDiscoveredServer (.array others) target requested).toOption =
      (selectDiscoveredServer inventory target requested).toOption
  again : ∀ selected, selectDiscoveredServer inventory target requested = .ok selected →
    selectDiscoveredServer inventory selected.target requested = .ok selected

/-! ## One entry -/

/-- The target does not designate the entry, and all that the loop reads of it is well formed. -/
def passesOver (target : Bytes) (server : Json) : Bool :=
  match matchInventoryEntry target server with
  | .ok none => true
  | _ => false

variable {server : Json} {entry : InventoryEntry}

theorem passesOver_iff {target : Bytes} :
    passesOver target server = true ↔ matchInventoryEntry target server = .ok none := by
  unfold passesOver
  split
  · rename_i found
    exact iff_of_true rfl found
  · rename_i other
    exact iff_of_false Bool.false_ne_true other

theorem matchInventoryEntry_eq_some {target : Bytes} :
    matchInventoryEntry target server = .ok (some entry) ↔
      readInventoryEntry server = .ok (some entry) ∧ entry.designatedBy target = .ok true := by
  rw [matchInventoryEntry, bind_eq_ok]
  constructor
  · rintro ⟨read, reads, matched⟩
    cases read with
    | none => cases matched
    | some first =>
      obtain ⟨designated, designates, matched⟩ := bind_eq_ok.mp matched
      cases designated with
      | false => cases matched
      | true =>
        cases matched
        exact ⟨reads, designates⟩
  · rintro ⟨reads, designates⟩
    exact ⟨some entry, reads, bind_eq_ok.mpr ⟨true, designates, rfl⟩⟩

theorem matchInventoryEntry_eq_none {target : Bytes} :
    matchInventoryEntry target server = .ok none ↔
      readInventoryEntry server = .ok none ∨
        ∃ entry, readInventoryEntry server = .ok (some entry) ∧
          entry.designatedBy target = .ok false := by
  rw [matchInventoryEntry, bind_eq_ok]
  constructor
  · rintro ⟨read, reads, matched⟩
    cases read with
    | none => exact .inl reads
    | some entry =>
      obtain ⟨designated, designates, matched⟩ := bind_eq_ok.mp matched
      cases designated with
      | false => exact .inr ⟨entry, reads, designates⟩
      | true => cases matched
  · rintro (reads | ⟨entry, reads, designates⟩)
    · exact ⟨none, reads, rfl⟩
    · exact ⟨some entry, reads, bind_eq_ok.mpr ⟨false, designates, rfl⟩⟩

theorem not_passesOver {target : Bytes}
    (found : matchInventoryEntry target server = .ok (some entry)) :
    passesOver target server = false := by
  rw [← Bool.not_eq_true, passesOver_iff, found]
  exact fun same => nomatch same

/-- An entry of the inventory as an online WebTTY entry. -/
structure ReadsAs (server : Json) (entry : InventoryEntry) : Prop where
  object : server.isObject = true
  online : inventoryString server "status" [] = .ok (bytesFromString "online")
  webtty : inventoryString server "protocol" [] = .ok (bytesFromString "webtty") ∨
    ∃ labels, inventoryLabels server = .ok labels ∧
      inventoryString labels "application-protocol" [] = .ok (bytesFromString "rstream.webtty")
  labels : inventoryLabels server = .ok entry.labels
  id : inventoryString server "id" [] = .ok entry.id
  name : inventoryString server "name" [] = .ok entry.name
  serverId : inventoryString entry.labels "rstream.webtty.server_id" [] = .ok entry.serverId

theorem inventoryOnline_eq_ok {online : Bool} (found : inventoryOnline server = .ok online) :
    online = true ↔ server.isObject = true ∧
      inventoryString server "status" [] = .ok (bytesFromString "online") := by
  unfold inventoryOnline at found
  split at found
  · rename_i object
    obtain ⟨status, read, decided⟩ := bind_eq_ok.mp found
    cases decided
    rw [and_iff_right object, read, Except.ok.injEq]
    exact decide_eq_true_iff
  · rename_i other
    cases found
    exact iff_of_false Bool.false_ne_true fun both => other both.1

theorem inventoryWebtty_eq_ok {labels : Json} {webtty : Bool}
    (found : inventoryWebtty server labels = .ok webtty) :
    webtty = true ↔ inventoryString server "protocol" [] = .ok (bytesFromString "webtty") ∨
      inventoryString labels "application-protocol" [] =
        .ok (bytesFromString "rstream.webtty") := by
  obtain ⟨protocol, read, found⟩ := bind_eq_ok.mp found
  rw [read, Except.ok.injEq]
  split at found
  · rename_i same
    cases found
    exact iff_of_true rfl (.inl same)
  · rename_i other
    obtain ⟨application, readToo, decided⟩ := bind_eq_ok.mp found
    cases decided
    rw [or_iff_right other, readToo, Except.ok.injEq]
    exact decide_eq_true_iff

theorem readsAs_of_some (found : readInventoryEntry server = .ok (some entry)) :
    ReadsAs server entry := by
  obtain ⟨online, isOnline, found⟩ := bind_eq_ok.mp found
  cases online with
  | false => cases found
  | true =>
    obtain ⟨labels, readLabels, found⟩ := bind_eq_ok.mp found
    obtain ⟨webtty, isWebtty, found⟩ := bind_eq_ok.mp found
    cases webtty with
    | false => cases found
    | true =>
      obtain ⟨id, readId, found⟩ := bind_eq_ok.mp found
      obtain ⟨name, readName, found⟩ := bind_eq_ok.mp found
      obtain ⟨serverId, readServerId, found⟩ := bind_eq_ok.mp found
      cases found
      have open_ := (inventoryOnline_eq_ok isOnline).mp rfl
      exact
        { object := open_.1
          online := open_.2
          webtty := ((inventoryWebtty_eq_ok isWebtty).mp rfl).imp_right fun application =>
            ⟨labels, readLabels, application⟩
          labels := readLabels
          id := readId
          name := readName
          serverId := readServerId }

/-- An entry that is no online WebTTY entry is eligible under no name. -/
theorem not_eligible_of_none (found : readInventoryEntry server = .ok none) (name : Bytes) :
    ¬Eligible name server := by
  intro eligible
  obtain ⟨online, isOnline, found⟩ := bind_eq_ok.mp found
  obtain rfl := (inventoryOnline_eq_ok isOnline).mpr ⟨eligible.object, eligible.online⟩
  obtain ⟨labels, readLabels, found⟩ := bind_eq_ok.mp found
  obtain ⟨webtty, isWebtty, found⟩ := bind_eq_ok.mp found
  have served : webtty = true := by
    rw [inventoryWebtty_eq_ok isWebtty]
    refine eligible.webtty.imp_right ?_
    rintro ⟨others, readToo, application⟩
    rw [readLabels, Except.ok.injEq] at readToo
    rwa [readToo]
  subst served
  obtain ⟨id, -, found⟩ := bind_eq_ok.mp found
  obtain ⟨name, -, found⟩ := bind_eq_ok.mp found
  obtain ⟨serverId, -, found⟩ := bind_eq_ok.mp found
  cases found

/-- Which names designate an entry, when it can be said. -/
theorem designatedBy_eq_ok (reads : ReadsAs server entry) {name : Bytes} {designated : Bool}
    (found : entry.designatedBy name = .ok designated) :
    designated = true ↔ Eligible name server := by
  have labelled : (∃ labels, inventoryLabels server = .ok labels ∧
      (inventoryString labels "rstream.webtty.server_id" [] = .ok name ∨
        inventoryString labels "rstream.webtty.server_name" [] = .ok name)) ↔
      entry.serverId = name ∨
        inventoryString entry.labels "rstream.webtty.server_name" [] = .ok name := by
    simp only [reads.labels, Except.ok.injEq, exists_eq_left', reads.serverId]
  have eligible : Eligible name server ↔ entry.id = name ∨ entry.name = name ∨
      entry.serverId = name ∨
        inventoryString entry.labels "rstream.webtty.server_name" [] = .ok name := by
    rw [← labelled]
    constructor
    · intro eligible
      simpa only [reads.id, reads.name, Except.ok.injEq] using eligible.designated
    · intro named
      refine ⟨reads.object, reads.online, reads.webtty, ?_⟩
      simpa only [reads.id, reads.name, Except.ok.injEq] using named
  rw [eligible]
  unfold InventoryEntry.designatedBy at found
  split at found
  · rename_i named
    cases found
    refine iff_of_true rfl ?_
    obtain same | same | same := named
    · exact .inl same.symm
    · exact .inr (.inl same.symm)
    · exact .inr (.inr (.inl same.symm))
  · rename_i other
    rw [not_or, not_or] at other
    obtain ⟨serverName, read, decided⟩ := bind_eq_ok.mp found
    cases decided
    rw [read, Except.ok.injEq, or_iff_right (Ne.symm other.1), or_iff_right (Ne.symm other.2.1),
      or_iff_right (Ne.symm other.2.2), decide_eq_true_iff, eq_comm]

theorem not_eligible_of_passesOver {target : Bytes} (passed : passesOver target server = true) :
    ¬Eligible target server := by
  rw [passesOver_iff, matchInventoryEntry_eq_none] at passed
  obtain absent | ⟨entry, reads, designates⟩ := passed
  · exact not_eligible_of_none absent target
  · rw [← designatedBy_eq_ok (readsAs_of_some reads) designates]
    exact Bool.false_ne_true

theorem eligible_of_match {target : Bytes}
    (found : matchInventoryEntry target server = .ok (some entry)) : Eligible target server := by
  rw [matchInventoryEntry_eq_some] at found
  obtain ⟨reads, designates⟩ := found
  exact (designatedBy_eq_ok (readsAs_of_some reads) designates).mp rfl

/-- What can be said of one target can be said of another. -/
theorem passesOver_iff_not_eligible {target : Bytes} (passed : passesOver target server = true)
    (name : Bytes) : passesOver name server = true ↔ ¬Eligible name server := by
  refine ⟨not_eligible_of_passesOver, fun other => ?_⟩
  rw [passesOver_iff, matchInventoryEntry_eq_none] at passed ⊢
  obtain absent | ⟨entry, reads, designates⟩ := passed
  · exact .inl absent
  · have readable : ∃ designated, entry.designatedBy name = .ok designated := by
      unfold InventoryEntry.designatedBy at designates ⊢
      split at designates
      · cases designates
      · obtain ⟨serverName, read, -⟩ := bind_eq_ok.mp designates
        split
        · exact ⟨true, rfl⟩
        · exact ⟨_, bind_eq_ok.mpr ⟨serverName, read, rfl⟩⟩
    obtain ⟨designated, designates⟩ := readable
    rw [← designatedBy_eq_ok (readsAs_of_some reads) designates, Bool.not_eq_true] at other
    exact .inr ⟨entry, reads, other ▸ designates⟩

theorem match_address {target : Bytes}
    (found : matchInventoryEntry target server = .ok (some entry)) :
    matchInventoryEntry entry.address server = .ok (some entry) := by
  rw [matchInventoryEntry_eq_some] at found ⊢
  refine ⟨found.1, if_pos ?_⟩
  unfold InventoryEntry.address
  split
  · exact .inl rfl
  · exact .inr (.inr rfl)

/-! ## The selection -/

section Selection

variable {target requested : Bytes}

variable {selected : DiscoveredServer} {elements : List Json}

theorem target_of_describeServer {server : Json} {entry : InventoryEntry}
    (described : describeServer requested server entry = .ok selected) :
    selected.target = entry.address := by
  unfold describeServer at described
  simp only [bind_eq_ok] at described
  obtain ⟨kind, -, httpVersion, -, transport, -, -, -, -, -, -, -, -, -, -, -, execPath, -, required,
    -, same⟩ := described
  cases same
  rfl

/-- After a match nothing else may match. -/
theorem selectFrom_some {found : DiscoveredServer} {result : Option DiscoveredServer} :
    selectFrom target requested elements (some found) = .ok result ↔
      result = some found ∧ ∀ other ∈ elements, passesOver target other = true := by
  induction elements with
  | nil =>
    rw [selectFrom, Except.ok.injEq]
    exact ⟨fun same => ⟨same.symm, fun _ mem => absurd mem not_mem_nil⟩,
      fun both => both.1.symm⟩
  | cons server rest ih =>
    rw [selectFrom, bind_eq_ok, forall_mem_cons, passesOver_iff]
    constructor
    · rintro ⟨matched, finds, rest⟩
      cases matched with
      | none =>
        obtain ⟨same, passed⟩ := ih.mp rest
        exact ⟨same, finds, passed⟩
      | some entry =>
        obtain ⟨_, single, -⟩ := bind_eq_ok.mp rest
        cases require_eq_ok.mp single
    · rintro ⟨same, finds, passed⟩
      exact ⟨none, finds, ih.mpr ⟨same, passed⟩⟩

/-- **The selected entry** is the only one that is not passed over, and it is acceptable. -/
theorem selectFrom_none :
    selectFrom target requested elements none = .ok (some selected) ↔
      ∃ server entry, OnlyOne (fun other => passesOver target other = false) elements server ∧
        matchInventoryEntry target server = .ok (some entry) ∧
        describeServer requested server entry = .ok selected := by
  induction elements with
  | nil =>
    refine iff_of_false (fun found => nomatch found) ?_
    rintro ⟨server, entry, ⟨before, after, empty, -⟩, -⟩
    cases before <;> cases empty
  | cons server rest ih =>
    rw [selectFrom, bind_eq_ok]
    constructor
    · rintro ⟨matched, finds, later⟩
      cases matched with
      | none =>
        obtain ⟨server', entry, ⟨before, after, rfl, kept, passed⟩, rest⟩ := ih.mp later
        refine ⟨server', entry, ⟨server :: before, after, rfl, kept, ?_⟩, rest⟩
        rw [cons_append, forall_mem_cons, Bool.not_eq_false, passesOver_iff]
        exact ⟨finds, passed⟩
      | some entry =>
        obtain ⟨_, -, later⟩ := bind_eq_ok.mp later
        obtain ⟨described, describes, later⟩ := bind_eq_ok.mp later
        rw [selectFrom_some] at later
        obtain ⟨same, passed⟩ := later
        cases same
        refine ⟨server, entry, ⟨[], rest, rfl, ?_, ?_⟩, finds, describes⟩
        · exact not_passesOver finds
        · simpa only [nil_append, Bool.not_eq_false] using passed
    · rintro ⟨server', entry, ⟨before, after, same, kept, passed⟩, finds, describes⟩
      cases before with
      | nil =>
        obtain ⟨rfl, rfl⟩ := cons.inj same
        simp only [nil_append, Bool.not_eq_false] at passed
        refine ⟨some entry, finds, bind_eq_ok.mpr ⟨⟨⟩, require_eq_ok.mpr rfl,
          bind_eq_ok.mpr ⟨selected, describes, ?_⟩⟩⟩
        rw [selectFrom_some]
        exact ⟨rfl, passed⟩
      | cons first before =>
        obtain ⟨rfl, rfl⟩ := cons.inj same
        rw [cons_append, forall_mem_cons, Bool.not_eq_false, passesOver_iff] at passed
        exact ⟨none, passed.1,
          ih.mpr ⟨server', entry, ⟨before, after, rfl, kept, passed.2⟩, finds, describes⟩⟩

theorem selectDiscoveredServer_eq_ok {inventory : Json} :
    selectDiscoveredServer inventory target requested = .ok selected ↔
      ∃ elements server entry, inventory = .array elements ∧
        OnlyOne (fun other => passesOver target other = false) elements server ∧
        matchInventoryEntry target server = .ok (some entry) ∧
        describeServer requested server entry = .ok selected := by
  cases inventory with
  | array elements =>
    constructor
    · intro found
      obtain ⟨result, selects, found⟩ := bind_eq_ok.mp found
      cases result with
      | none => cases found
      | some found =>
        cases found
        rw [selectFrom_none] at selects
        obtain ⟨server, entry, selected⟩ := selects
        exact ⟨elements, server, entry, rfl, selected⟩
    · rintro ⟨elements', server, entry, same, selected⟩
      cases same
      exact bind_eq_ok.mpr ⟨_, Iff.mpr selectFrom_none ⟨server, entry, selected⟩, rfl⟩
  | _ =>
    refine iff_of_false (fun found => nomatch found) ?_
    rintro ⟨elements, server, entry, other, -⟩
    cases other

theorem onlyOne_perm {property : Json → Bool} {others : List Json} {server : Json}
    (perm : elements.Perm others) :
    OnlyOne (fun other => property other = false) elements server →
      OnlyOne (fun other => property other = false) others server := by
  have means (other : Json) : (!property other) = true ↔ property other = false := by
    rw [Bool.not_eq_true']
  rw [← filter_eq_singleton_iff means, ← filter_eq_singleton_iff means]
  intro single
  rw [← perm_singleton, ← single]
  exact (perm.filter _).symm

theorem onlyOne_rest {property : Json → Bool} {before after : List Json} {server only : Json}
    (one : OnlyOne (fun other => property other = false) (before ++ server :: after) only)
    (kept : property server = false) : ∀ other ∈ before ++ after, property other = true := by
  have means (other : Json) : (!property other) = true ↔ property other = false := by
    rw [Bool.not_eq_true']
  rw [← filter_eq_singleton_iff means, filter_append, filter_cons,
    if_pos ((means server).mpr kept), append_eq_singleton_iff] at one
  obtain ⟨noneBefore, single⟩ | ⟨-, single⟩ := one
  · have noneAfter := (cons.inj single).2
    intro other mem
    rw [filter_eq_nil_iff] at noneBefore noneAfter
    rw [← Bool.not_eq_false, ← means]
    exact (mem_append.mp mem).elim (noneBefore other) (noneAfter other)
  · cases single

/-- **The order of the inventory does not matter.** -/
theorem selectDiscoveredServer_perm {others : List Json} (perm : elements.Perm others)
    (selected : DiscoveredServer)
    (found : selectDiscoveredServer (.array elements) target requested = .ok selected) :
    selectDiscoveredServer (.array others) target requested = .ok selected := by
  rw [selectDiscoveredServer_eq_ok] at found ⊢
  obtain ⟨elements', server, entry, same, only, described⟩ := found
  cases same
  exact ⟨others, server, entry, rfl, onlyOne_perm perm only, described⟩

end Selection

/-- **A selected server keeps its address to itself**: no other online WebTTY entry is designated
by the server id of an entry that the target selects, or by its id if it has no server id. -/
def AddressUnshared (inventory : Json) (target requested : Bytes) : Prop :=
  ∀ before server after entry, inventory = .array (before ++ server :: after) →
    (∀ other ∈ before ++ after, passesOver target other = true) →
      matchInventoryEntry target server = .ok (some entry) →
        (∃ described, describeServer requested server entry = .ok described) →
          ∀ other ∈ before ++ after, ¬Eligible entry.address other

/-- **Discovery selects one stable server** exactly if the selected entry shares its address with no
other. -/
theorem stableSelection_iff (inventory : Json) (target requested : Bytes) :
    StableSelection inventory target requested ↔ AddressUnshared inventory target requested := by
  constructor
  · rintro ⟨-, -, again⟩ before server after entry rfl passed finds ⟨described, describes⟩
    have found : selectDiscoveredServer (.array (before ++ server :: after)) target requested =
        .ok described := by
      rw [selectDiscoveredServer_eq_ok]
      exact ⟨_, server, entry, rfl, ⟨before, after, rfl, not_passesOver finds, fun other mem =>
        (Bool.not_eq_false _).mpr (passed other mem)⟩, finds, describes⟩
    have repeated := again described found
    rw [target_of_describeServer describes, selectDiscoveredServer_eq_ok] at repeated
    obtain ⟨elements, only, -, same, one, -⟩ := repeated
    cases same
    intro other mem
    exact not_eligible_of_passesOver
      (onlyOne_rest one (not_passesOver (match_address finds)) other mem)
  · intro unshared
    refine ⟨fun selected found => ?_, fun elements others same perm => ?_,
      fun selected found => ?_⟩
    · rw [selectDiscoveredServer_eq_ok] at found
      obtain ⟨elements, server, entry, same, ⟨before, after, split, -, passed⟩, finds, -⟩ := found
      exact ⟨elements, server, same, before, after, split, eligible_of_match finds,
        fun other mem => not_eligible_of_passesOver ((Bool.not_eq_false _).mp (passed other mem))⟩
    · subst same
      ext selected
      rw [toOption_eq_some, toOption_eq_some]
      exact ⟨selectDiscoveredServer_perm perm.symm selected,
        selectDiscoveredServer_perm perm selected⟩
    · rw [selectDiscoveredServer_eq_ok] at found
      obtain ⟨elements, server, entry, same, ⟨before, after, split, -, passed⟩, finds, describes⟩ :=
        found
      subst same split
      have passes (other : Json) (mem : other ∈ before ++ after) :
          passesOver target other = true := (Bool.not_eq_false _).mp (passed other mem)
      have alone := unshared before server after entry rfl passes finds ⟨selected, describes⟩
      rw [target_of_describeServer describes, selectDiscoveredServer_eq_ok]
      refine ⟨_, server, entry, rfl, ⟨before, after, rfl,
        not_passesOver (match_address finds), fun other mem => ?_⟩, match_address finds, describes⟩
      rw [Bool.not_eq_false, passesOver_iff_not_eligible (passes other mem)]
      exact alone other mem

/-- An online tunnel of a server, with the members in the order of their keys. -/
def tunnelOf (id serverId : String) : Json :=
  .object
    [(bytesFromString "id", .string (bytesFromString id)),
      (bytesFromString "labels", .object
        [(bytesFromString "rstream.webtty.server_id", .string (bytesFromString serverId))]),
      (bytesFromString "protocol", .string (bytesFromString "webtty")),
      (bytesFromString "status", .string (bytesFromString "online"))]

/-- Two tunnels of one server. -/
def twoTunnels : Json := .array [tunnelOf "t1" "s", tunnelOf "t2" "s"]

/-- The first tunnel is selected by its id, and the address that is dialled designates both. -/
theorem twoTunnels_address_shared :
    (∃ selected, selectDiscoveredServer twoTunnels (bytesFromString "t1") [] = .ok selected ∧
        selected.target = bytesFromString "s") ∧
      selectDiscoveredServer twoTunnels (bytesFromString "s") [] =
        .error "multiple WebTTY servers match; use the tunnel ID" ∧
      ¬StableSelection twoTunnels (bytesFromString "t1") [] := by
  have selects : selectDiscoveredServer twoTunnels (bytesFromString "t1") [] =
      .ok ⟨bytesFromString "websocket", bytesFromString "s", bytesFromString "/", false⟩ := by
    rfl
  have fails : selectDiscoveredServer twoTunnels (bytesFromString "s") [] =
      .error "multiple WebTTY servers match; use the tunnel ID" := by
    rfl
  refine ⟨⟨_, selects, rfl⟩, fails, fun stable => ?_⟩
  have again := stable.again _ selects
  rw [fails] at again
  cases again

end Rstream.Webtty.Cli
