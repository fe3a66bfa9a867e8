import Rstream.Io.Payloader

/-!
# The HTTP upgrade of a stream

`upgrade::async_handshake` writes an upgrade request and reads the response,
`upgrade::async_accept` reads the request and writes the response. After that the users
of the stream read from its next layer.

The messages are read by `boost::beast::http::async_read`, which fills a dynamic buffer
with whatever the transport returns and consumes the message from it. That buffer is a
member of the operation, so what it holds beyond the message is gone with the operation:
the users of the stream find the bytes of later reads only. They find all bytes after
the header exactly when a read ends at the end of the header (`upgrade_keeps_iff`).

The parser of Beast is a parameter. What is relied on is that a header followed by any
bytes is parsed as that header, and that nothing shorter is (`Frames`).
-/

namespace Rstream.Io.Upgrade

open IoRstrm List

/-! ## Messages -/

/-- `boost::beast::http::verb`, as far as an upgrade distinguishes it. -/
inductive Verb where
  | get
  | other (name : String)
  deriving DecidableEq, Repr

/-- The header of a request. The fields `Connection` and `Upgrade` are lists of tokens, in
lower case. -/
structure Request where
  version : Nat := 11
  method : Verb := .get
  target : String := ""
  host : String := ""
  userAgent : String := ""
  connection : List String := []
  upgrade : List String := []
  deriving DecidableEq, Repr

def switchingProtocols : Nat := 101

def badGateway : Nat := 502

/-- The header of a response. -/
structure Response where
  version : Nat := 11
  result : Nat := 200
  connection : List String := []
  upgrade : List String := []
  deriving DecidableEq, Repr

def isUpgradeRequest (request : Request) : Bool :=
  !decide (request.version < 11) && decide (request.method = .get) &&
    request.connection.contains "upgrade" && request.upgrade.contains "rstrm"

def isUpgradeResponse (response : Response) : Bool :=
  !decide (response.version < 11) && decide (response.result = switchingProtocols) &&
    response.connection.contains "upgrade" && response.upgrade.contains "rstrm"

def badStatus : ErrorCode := ⟨16, .other "beast.http"⟩

/-! ## Reading a message -/

/-- What the parser makes of the bytes in the buffer. -/
inductive Parsed (α : Type) where
  | needMore
  | failed (errorCode : ErrorCode)
  | done (message : α) (size : Nat)

/-- The outcome of `boost::beast::http::async_read`: the message, what the buffer holds
beyond it, and what the transport still delivers. -/
inductive MessageRead (α : Type) where
  | waiting
  | failed (errorCode : ErrorCode)
  | done (message : α) (buffer : List UInt8) (rest : Inbound)

section

variable {α : Type} (parse : List UInt8 → Parsed α)

/-- `boost::beast::http::async_read`. Each round parses the buffer and, if the message is
incomplete, adds what the next read of the transport returns. -/
def asyncReadMessage (failure : Option ErrorCode) (buffer : List UInt8) :
    List (List UInt8) → MessageRead α
  | [] =>
    match parse buffer with
    | .done message size => .done message (buffer.drop size) ⟨[], failure⟩
    | .failed errorCode => .failed errorCode
    | .needMore =>
      match failure with
      | none => .waiting
      | some errorCode => .failed errorCode
  | chunk :: chunks =>
    match parse buffer with
    | .done message size => .done message (buffer.drop size) ⟨chunk :: chunks, failure⟩
    | .failed errorCode => .failed errorCode
    | .needMore => asyncReadMessage failure (buffer ++ chunk) chunks

/-- The header is complete with its last byte, whatever follows it. -/
structure Frames (header : List UInt8) (message : α) : Prop where
  whole : ∀ rest, parse (header ++ rest) = .done message header.length
  partially : ∀ front, front <+: header → front ≠ header → parse front = .needMore

end

/-! ## The operations -/

/-- The outcome of an operation: its error, and what the next layer still delivers when it
succeeds. -/
inductive Outcome where
  | waiting
  | failed (errorCode : ErrorCode)
  | completed (rest : Inbound)

/-- What an operation finds around it: the decorator, which may throw, the outcome of the
write, and the transport. -/
structure Surroundings (message : Type) where
  decorator : message → Except ErrorCode message := .ok
  written : ErrorCode := .none
  inbound : Inbound

/-- The request that `do_write_request` prepares. -/
def prepareRequest (host target : String) : Request where
  target
  host
  userAgent := "Boost.Beast"
  connection := ["upgrade"]
  upgrade := ["rstrm"]

/-- `async_handshake_operation`. The buffer is a member of the operation. -/
def asyncHandshake (parse : List UInt8 → Parsed Response) (host target : String)
    (around : Surroundings Request) : Outcome :=
  match around.decorator (prepareRequest host target) with
  | .error errorCode => .failed errorCode
  | .ok _ =>
    if around.written.failed then .failed around.written
    else match asyncReadMessage parse around.inbound.failure [] around.inbound.chunks with
      | .waiting => .waiting
      | .failed errorCode => .failed errorCode
      | .done response _ rest =>
        if isUpgradeResponse response then .completed rest else .failed badStatus

/-- The response that `do_write_response` prepares. -/
def prepareResponse (request : Request) : Response :=
  if isUpgradeRequest request then
    { version := request.version, result := switchingProtocols, connection := ["upgrade"]
      upgrade := ["rstrm"] }
  else { version := request.version, result := badGateway }

/-- `async_accept_operation`. -/
def asyncAccept (parse : List UInt8 → Parsed Request) (around : Surroundings Response) : Outcome :=
  match asyncReadMessage parse around.inbound.failure [] around.inbound.chunks with
  | .waiting => .waiting
  | .failed errorCode => .failed errorCode
  | .done request _ rest =>
    match around.decorator (prepareResponse request) with
    | .error errorCode => .failed errorCode
    | .ok response =>
      if around.written.failed then .failed around.written
      else if response.result = switchingProtocols then .completed rest
      else .failed badStatus

/-! ## What is left of the stream -/

section

variable {α : Type} {parse : List UInt8 → Parsed α} {header : List UInt8} {message : α}

/-- A buffer that holds the header is not added to. -/
theorem asyncReadMessage_of_complete (frames : Frames parse header message)
    (failure : Option ErrorCode) (extra : List UInt8) (chunks : List (List UInt8)) :
    asyncReadMessage parse failure (header ++ extra) chunks =
      .done message extra ⟨chunks, failure⟩ := by
  rw [asyncReadMessage.eq_def]
  cases chunks <;> simp only [frames.whole extra, drop_left]

/-- The reads end with the first one that completes the header. -/
theorem asyncReadMessage_of_frames (frames : Frames parse header message)
    (failure : Option ErrorCode) (buffer : List UInt8) {data : List UInt8}
    {chunks : List (List UInt8)} (delivered : buffer ++ chunks.flatten = header ++ data) :
    ∃ count extra, asyncReadMessage parse failure buffer chunks =
        .done message extra ⟨chunks.drop count, failure⟩ ∧
      buffer ++ (chunks.take count).flatten = header ++ extra ∧
      ∀ fewer < count, (buffer ++ (chunks.take fewer).flatten).length < header.length := by
  induction chunks generalizing buffer with
  | nil =>
    rw [flatten_nil, append_nil] at delivered
    rw [delivered]
    refine ⟨0, data, asyncReadMessage_of_complete frames failure data [], ?_, ?_⟩
    · rw [take_zero, flatten_nil, append_nil]
    · intro fewer less
      exact absurd less (Nat.not_lt_zero fewer)
  | cons chunk chunks ih =>
    have before : buffer <+: header ++ data :=
      delivered ▸ prefix_append buffer (chunk :: chunks).flatten
    by_cases complete : header.length ≤ buffer.length
    · obtain ⟨extra, rfl⟩ : header <+: buffer :=
        prefix_of_prefix_length_le (prefix_append header data) before complete
      refine ⟨0, extra, asyncReadMessage_of_complete frames failure extra _, ?_, ?_⟩
      · rw [take_zero, flatten_nil, append_nil]
      · intro fewer less
        exact absurd less (Nat.not_lt_zero fewer)
    · -- The header is not complete, so the next read is added to the buffer.
      have less : buffer.length < header.length := Nat.lt_of_not_le complete
      have front : buffer <+: header :=
        prefix_of_prefix_length_le before (prefix_append header data)
          (Nat.le_of_lt less)
      have parsed : parse buffer = .needMore :=
        frames.partially buffer front fun same => Nat.lt_irrefl _ (same ▸ less)
      rw [flatten_cons, ← append_assoc] at delivered
      obtain ⟨count, extra, read, taken, shorter⟩ := ih (buffer ++ chunk) delivered
      refine ⟨count + 1, extra, ?_, ?_, ?_⟩
      · rw [asyncReadMessage.eq_def]
        simp only [parsed, drop_succ_cons]
        exact read
      · rw [take_succ_cons, flatten_cons, ← append_assoc]
        exact taken
      · intro fewer bound
        cases fewer with
        | zero =>
          rw [take_zero, flatten_nil, append_nil]
          exact less
        | succ fewer =>
          rw [take_succ_cons, flatten_cons, ← append_assoc]
          exact shorter fewer (Nat.lt_of_succ_lt_succ bound)

/-- The transport ends a read at the end of the header. -/
def Splits (header : List UInt8) (chunks : List (List UInt8)) : Prop :=
  ∃ count, (chunks.take count).flatten = header

/-- A message is read, and what the transport then delivers is all that follows its header
exactly when a read ended there. -/
theorem read_keeps_iff (frames : Frames parse header message) (failure : Option ErrorCode)
    {data : List UInt8} {chunks : List (List UInt8)} (delivered : chunks.flatten = header ++ data) :
    ∃ extra rest, asyncReadMessage parse failure [] chunks = .done message extra rest ∧
      (rest.chunks.flatten = data ↔ Splits header chunks) := by
  obtain ⟨count, extra, read, taken, shorter⟩ :=
    asyncReadMessage_of_frames frames failure [] delivered
  rw [nil_append] at taken
  refine ⟨extra, ⟨chunks.drop count, failure⟩, read, ?_, ?_⟩
  · intro kept
    refine ⟨count, ?_⟩
    have whole : (chunks.take count).flatten ++ (chunks.drop count).flatten = header ++ data := by
      rw [← flatten_append, take_append_drop, delivered]
    rw [kept] at whole
    exact append_cancel_right whole
  · rintro ⟨exactly, same⟩
    have enough : count ≤ exactly := by
      by_contra more
      have less := shorter exactly (Nat.lt_of_not_le more)
      rw [nil_append, same] at less
      exact Nat.lt_irrefl _ less
    have inside : (chunks.take count).flatten <+: (chunks.take exactly).flatten := by
      rw [← Nat.min_eq_left enough, ← take_take]
      refine ⟨((chunks.take exactly).drop count).flatten, ?_⟩
      rw [← flatten_append, take_append_drop]
    rw [same, taken] at inside
    have nothing : extra = [] := by
      have lengths := inside.length_le
      rw [length_append] at lengths
      exact length_eq_zero_iff.mp (by omega)
    have whole : (chunks.take count).flatten ++ (chunks.drop count).flatten = header ++ data := by
      rw [← flatten_append, take_append_drop, delivered]
    rw [taken, nothing, append_nil] at whole
    exact append_cancel_left whole

end

/-- **The upgrade keeps the bytes after the header exactly when a read ends with it.** For a
peer that delivers an upgrade response and then any bytes, in any chunks, the handshake
succeeds, and the next layer yields those bytes if and only if some read ends at the end of
the response; and likewise for a request that is accepted. -/
theorem upgrade_keeps_iff (failure : Option ErrorCode) {header data : List UInt8}
    {chunks : List (List UInt8)} (delivered : chunks.flatten = header ++ data) :
    (∀ (parse : List UInt8 → Parsed Response) (response : Response) (host target : String)
        (decorator : Request → Except ErrorCode Request) (decorated : Request),
      Frames parse header response → isUpgradeResponse response = true →
      decorator (prepareRequest host target) = .ok decorated →
      ∃ rest, asyncHandshake parse host target ⟨decorator, .none, ⟨chunks, failure⟩⟩ =
          .completed rest ∧ (rest.chunks.flatten = data ↔ Splits header chunks)) ∧
    ∀ (parse : List UInt8 → Parsed Request) (request : Request)
        (decorator : Response → Except ErrorCode Response) (decorated : Response),
      Frames parse header request → isUpgradeRequest request = true →
      decorator (prepareResponse request) = .ok decorated →
      decorated.result = switchingProtocols →
      ∃ rest, asyncAccept parse ⟨decorator, .none, ⟨chunks, failure⟩⟩ = .completed rest ∧
        (rest.chunks.flatten = data ↔ Splits header chunks) := by
  refine ⟨?_, ?_⟩
  · intro parse response host target decorator decorated frames upgrades decorates
    obtain ⟨extra, rest, read, keeps⟩ := read_keeps_iff frames failure delivered
    refine ⟨rest, ?_, keeps⟩
    rw [asyncHandshake]
    simp only [decorates, ErrorCode.failed_none, Bool.false_eq_true, if_false, read, upgrades,
      if_true]
  · intro parse request decorator decorated frames upgrades decorates switches
    obtain ⟨extra, rest, read, keeps⟩ := read_keeps_iff frames failure delivered
    refine ⟨rest, ?_, keeps⟩
    rw [asyncAccept]
    simp only [read, decorates, ErrorCode.failed_none, Bool.false_eq_true, if_false, switches,
      if_true]

/-- The bytes of a text. -/
def bytesOf (text : String) : List UInt8 := text.toList.map fun c => UInt8.ofNat c.toNat

/-- A literal, as the list of its characters: evaluating `String.toList` is slow. -/
theorem bytesOf_ofList (chars : List Char) :
    bytesOf (String.ofList chars) = chars.map fun c => UInt8.ofNat c.toNat := by
  rw [bytesOf, String.toList_ofList]

theorem bytesOf_append (first second : String) :
    bytesOf (first ++ second) = bytesOf first ++ bytesOf second := by
  rw [bytesOf, String.toList_append, map_append, bytesOf, bytesOf]

def upgradeResponse : List UInt8 :=
  bytesOf "HTTP/1.1 101 Switching Protocols\r\nConnection: upgrade\r\nUpgrade: rstrm\r\n\r\n"

/-- A parser that knows the one response. -/
def parseUpgrade (bytes : List UInt8) : Parsed Response :=
  if upgradeResponse.isPrefixOf bytes then
    .done { result := switchingProtocols, connection := ["upgrade"], upgrade := ["rstrm"] }
      upgradeResponse.length
  else .needMore

theorem parseUpgrade_frames : Frames parseUpgrade upgradeResponse
    { result := switchingProtocols, connection := ["upgrade"], upgrade := ["rstrm"] } where
  whole rest := by
    rw [parseUpgrade, if_pos <| isPrefixOf_iff_prefix.mpr <| prefix_append _ rest]
  partially front inside different := by
    rw [parseUpgrade, if_neg]
    intro found
    have other := isPrefixOf_iff_prefix.mp found
    exact different (inside.eq_of_length (Nat.le_antisymm inside.length_le other.length_le))

/-- A peer that waits before it sends its first byte. -/
theorem handshake_keeps_separate :
    ∃ rest, asyncHandshake parseUpgrade "host" "/"
        { inbound := ⟨[upgradeResponse, [1, 2, 3]], none⟩ } = .completed rest ∧
      rest.chunks.flatten = [1, 2, 3] := by
  have delivered : [upgradeResponse, [1, 2, 3]].flatten = upgradeResponse ++ [1, 2, 3] := rfl
  obtain ⟨rest, completed, keeps⟩ := (upgrade_keeps_iff none delivered).1 parseUpgrade _ "host" "/"
    .ok _ parseUpgrade_frames rfl rfl
  have splits : Splits upgradeResponse [upgradeResponse, [1, 2, 3]] := ⟨1, rfl⟩
  exact ⟨rest, completed, keeps.mpr splits⟩

/-- A peer whose first bytes arrive with its response: they are lost. -/
theorem handshake_loses_coalesced :
    ∃ rest, asyncHandshake parseUpgrade "host" "/"
        { inbound := ⟨[upgradeResponse ++ [1, 2, 3]], none⟩ } = .completed rest ∧
      rest.chunks.flatten ≠ [1, 2, 3] := by
  have first : parseUpgrade [] = .needMore :=
    parseUpgrade_frames.partially [] nil_prefix (by decide)
  refine ⟨⟨[], none⟩, ?_, by decide⟩
  rw [asyncHandshake]
  simp only [ErrorCode.failed_none, Bool.false_eq_true, if_false, asyncReadMessage, first,
    nil_append, parseUpgrade_frames.whole]
  rfl

end Rstream.Io.Upgrade
