import Rstream.FileServer.Api

/-!
# What the file server serves

A target asks for a path. What is sent is decided by the path relative to the working
directory alone: it is refused when that begins with two dots. The relative path of what has a
root name of its own is empty, and the name of an entry may begin with two dots, so a target can
lead out of the working directory, and one that leads to an entry of it can be refused. A link
is the relative path as it is, so a name with a percent sign in it is taken for something else.

The conditions under which none of this happens are `Clean`.
-/

namespace Rstream.FileServer

open Library Option List

variable {ctx : Context} {target : List UInt8}

/-! ## The claims of a server -/

/-- The place that a target resolves to. -/
def resolution (ctx : Context) (target : List UInt8) : Option Place :=
  match endpoint target with
  | some .apiGetFile => (parsePath ctx target apiFileStart).toOption
  | some .apiWww => (parsePath ctx target wwwStart).toOption
  | _ => none

/-- The path whose listing or content a response is. -/
def Response.served : Response → Option Place
  | .listing path _ | .content path _ _ => some path
  | _ => none

/-- A path is the canonical working directory or lies below it. What does not exist of the
working directory is taken as it is written. -/
def Context.Inside (ctx : Context) (path : Place) : Prop :=
  ∃ base, ctx.filesystem.weaklyCanonical ctx.workdir = .ok base ∧ base.Above path

/-- Only what is inside is served, only what is outside is refused, and the links of a listing
resolve to its entries. -/
structure Response.Honest (ctx : Context) (response : Response) : Prop where
  confined : ∀ path, response.served = some path → ctx.Inside path
  justified : ∀ path, response = .refused path → ¬ ctx.Inside path
  linked : ∀ path items, response = .listing path items → ∀ item ∈ items, ∃ entry,
    ctx.filesystem.resolve (item.file.rootName, item.file.names.map .name) = .ok entry ∧
      resolution ctx item.linkname = some entry

/-! ## The conditions -/

/-- A target asks a function for a path, and the working directory is `base`. -/
structure Asks (ctx : Context) (target : List UInt8) (function : Endpoint) (path base : Place) :
    Prop where
  function : endpoint target = some function
  path : resolution ctx target = some path
  base : ctx.filesystem.weaklyCanonical ctx.workdir = .ok base

/-- What a function can send of a path: the content of a file, or the listing of a directory
without a link that leads around in circles. -/
def Servable (fs : Filesystem) (path : Place) : Endpoint → Prop
  | .apiRedirectWww => False
  | .apiGetFile => ∃ body, fs.node path = some (.file (.ok body))
  | .apiWww => ∃ entries, fs.node path = some (.directory entries) ∧ ∀ entry ∈ entries,
      fs.walk fs.symloopMax path [.name entry.1] ≠ .error .tooManySymbolicLinkLevels

/-- The link to a node begins so. -/
def linkStart : Option Node → Option (List UInt8)
  | some (.directory _) => some wwwTarget
  | some (.file _) => some apiFileTarget
  | _ => none

/-- An entry has an item in a listing. -/
def Listed (fs : Filesystem) (base entry : Place) : Prop :=
  (linkStart (fs.node entry)).isSome ∧
    (entry.rootName = base.rootName → base.Above entry ∧ ¬ Dotted base entry)

/-- The relative path of an entry is without the ends of lines, and without percent signs or
such that it is the same entry that it means. -/
structure Linkable (ctx : Context) (base entry : Place) : Prop where
  sameRoot : entry.rootName = base.rootName
  line : (lexicallyRelative entry base).all isRegexChar = true
  meaning :
    (37 ∉ lexicallyRelative entry base ∧ ∃ p, ctx.filesystem.canonical [] ctx.workdir = .ok p) ∨
      (37 ∈ lexicallyRelative entry base ∧
        ∃ meaning, unescape (lexicallyRelative entry base) = some meaning ∧
          ctx.filesystem.canonical meaning ctx.workdir = .ok entry)

/-- What is served has the root name of the working directory, the names below that do not begin
with two dots, and the entries of a listing can be linked to. -/
structure Clean (ctx : Context) (function : Endpoint) (path base : Place) : Prop where
  sameRoot : Servable ctx.filesystem path function → path.rootName = base.rootName
  undotted : base.Above path → ¬ Dotted base path
  linkable : function = .apiWww → Servable ctx.filesystem path function → base.Above path →
    ∀ entries, ctx.filesystem.node path = some (.directory entries) →
      ∀ name ∈ entries.map Prod.fst, ∀ entry,
        ctx.filesystem.walk ctx.filesystem.symloopMax path [.name name] = .ok entry →
          Listed ctx.filesystem base entry → Linkable ctx base entry

/-! ## Listings -/

variable {p entry : Place} {start : List UInt8} {node : Option Node} {fs : Filesystem}

theorem isOutside_iff {base : Place} : isOutside (lexicallyRelative p base) = true ↔
    p.rootName = base.rootName ∧ (¬ base.Above p ∨ Dotted base p) :=
  isPrefixOf_iff_prefix.trans dotDot_isPrefix_iff

variable {path base : Place} {name : Name}

section

variable (based : ctx.filesystem.weaklyCanonical ctx.workdir = .ok base)

include based

theorem relative_eq (p : Place) :
    relative ctx p = .ok (lexicallyRelative p base) := by
  rw [relative, based]
  rfl

/-- The item of an entry that can be reached: there is one for a directory or a file that is
not outside. -/
theorem item_eq
    (walked : ctx.filesystem.walk ctx.filesystem.symloopMax path [.name name] = .ok entry) :
    ∃ displayname, item ctx path name =
      .ok (((linkStart (ctx.filesystem.node entry)).filter fun _ =>
          !isOutside (lexicallyRelative entry base)).map fun start =>
        ⟨path.child name, append start (lexicallyRelative entry base), displayname⟩) := by
  simp only [item, walked, relative_eq based, ok_bind]
  rcases ctx.filesystem.node entry with _ | node
  · exact ⟨[], rfl⟩
  cases node with
  | link | other => exact ⟨[], rfl⟩
  | directory | file =>
    cases isOutside (lexicallyRelative entry base) with
    | true => exact ⟨[], rfl⟩
    | false => exact ⟨_, rfl⟩

theorem item_isOk_iff :
    (∃ made, item ctx path name = .ok made) ↔
      ctx.filesystem.walk ctx.filesystem.symloopMax path [.name name] ≠
        .error .tooManySymbolicLinkLevels := by
  rcases walked : ctx.filesystem.walk ctx.filesystem.symloopMax path [.name name] with error | entry
  · cases error <;> simp [item, walked]
  · obtain ⟨displayname, made⟩ := item_eq based walked
    exact iff_of_true ⟨_, made⟩ (fun same => nomatch same)

end

variable {names : List Name} {list : List Item} {entries : List (Name × Node)}

theorem mem_items (made : items ctx path names = .ok list) {listed : Item} :
    listed ∈ list ↔ ∃ name ∈ names, item ctx path name = .ok (some listed) := by
  induction names generalizing list with
  | nil =>
    obtain rfl := ok_eq_ok.mp made
    simp
  | cons name names ih =>
    obtain ⟨first, firstMade, made⟩ := bind_eq_ok.mp made
    obtain ⟨rest, restMade, made⟩ := bind_eq_ok.mp made
    obtain rfl := pure_eq_ok.mp made
    simp [ih restMade, firstMade]

theorem items_isOk_iff :
    (∃ list, items ctx path names = .ok list) ↔
      ∀ name ∈ names, ∃ made, item ctx path name = .ok made := by
  induction names with
  | nil => simp [items]
  | cons name names ih =>
    rw [forall_mem_cons, ← ih, items]
    constructor
    · rintro ⟨list, made⟩
      obtain ⟨first, firstMade, made⟩ := bind_eq_ok.mp made
      obtain ⟨rest, restMade, -⟩ := bind_eq_ok.mp made
      exact ⟨⟨first, firstMade⟩, rest, restMade⟩
    · rintro ⟨⟨first, firstMade⟩, rest, restMade⟩
      exact ⟨_, by rw [firstMade, ok_bind, restMade, ok_bind]; rfl⟩

/-! ## Responses -/

theorem handleRequest_file (asks : Asks ctx target .apiGetFile path base) :
    handleRequest ctx .get target =
      if isOutside (lexicallyRelative path base) then .refused path
      else match ctx.filesystem.node path with
        | some (.file (.ok body)) => .content path body (getMimeType path.string)
        | some (.file (.error error)) => .error error.status (some path)
        | _ => .error .forbidden (some path) := by
  have parsed : parsePath ctx target apiFileStart = .ok path := by
    simpa [resolution, asks.function, toOption_eq_some] using asks.path
  simp only [handleRequest, asks.function, apiGetFile, parsed, relative_eq asks.base, ok_bind]
  cases isOutside (lexicallyRelative path base) with
  | true => rfl
  | false =>
    rcases ctx.filesystem.node path with _ | ⟨_ | _⟩ | _ | _ | _
    all_goals rfl

theorem handleRequest_www (asks : Asks ctx target .apiWww path base) :
    handleRequest ctx .get target =
      if isOutside (lexicallyRelative path base) then .refused path
      else match ctx.filesystem.node path with
        | some (.directory entries) =>
          send ((items ctx path (sortedNames entries)).map (.listing path))
        | _ => .error .notFound (some path) := by
  have parsed : parsePath ctx target wwwStart = .ok path := by
    simpa [resolution, asks.function, toOption_eq_some] using asks.path
  simp only [handleRequest, asks.function, apiWww, parsed, relative_eq asks.base, ok_bind]
  cases isOutside (lexicallyRelative path base) with
  | true => rfl
  | false =>
    rcases ctx.filesystem.node path with _ | _ | entries | _ | _
    case some.directory => cases items ctx path (sortedNames entries) <;> rfl
    all_goals rfl

theorem items_sortedNames_isOk_iff (based : ctx.filesystem.weaklyCanonical ctx.workdir = .ok base)
    (entries : List (Name × Node)) :
    (∃ list, items ctx path (sortedNames entries) = .ok list) ↔ ∀ entry ∈ entries,
      ctx.filesystem.walk ctx.filesystem.symloopMax path [.name entry.1] ≠
        .error .tooManySymbolicLinkLevels := by
  simp only [items_isOk_iff, item_isOk_iff based, sortedNames, mem_mergeSort,
    List.forall_mem_map]

theorem found_or_error (ctx : Context) (target start : List UInt8)
    (next : Place → List UInt8 → Except Failure Response) :
    (∃ path base, parsePath ctx target start = .ok path ∧
        ctx.filesystem.weaklyCanonical ctx.workdir = .ok base) ∨
      ∃ failure, (do
        let path ← parsePath ctx target start
        let relative ← relative ctx path
        next path relative) = .error failure := by
  rcases parsed : parsePath ctx target start with failure | path
  · exact .inr ⟨failure, rfl⟩
  · rcases based : ctx.filesystem.weaklyCanonical ctx.workdir with error | base
    · exact .inr ⟨.filesystem error, by rw [ok_bind, relative, based]; rfl⟩
    · exact .inl ⟨path, base, rfl, rfl⟩

theorem handleRequest_cases (ctx : Context) (verb : Verb) (target : List UInt8) :
    (verb = .get ∧ ∃ function path base, Asks ctx target function path base) ∨
      handleRequest ctx verb target = .redirect ∨
      ∃ status, handleRequest ctx verb target = .error status none := by
  cases verb with
  | other => exact .inr (.inr ⟨_, rfl⟩)
  | get =>
    rw [handleRequest]
    rcases function : endpoint target with _ | (_ | _ | _)
    · exact .inr (.inr ⟨_, rfl⟩)
    · exact .inr (.inl rfl)
    · rcases found_or_error ctx target apiFileStart _ with ⟨path, base, parsed, based⟩ | ⟨failure, failed⟩
      · have resolved : resolution ctx target = some path := by
          simp only [resolution, function, parsed, Except.toOption]
        exact .inl ⟨rfl, _, path, base, function, resolved, based⟩
      · exact .inr (.inr ⟨failure.status, congrArg send failed⟩)
    · rcases found_or_error ctx target wwwStart _ with ⟨path, base, parsed, based⟩ | ⟨failure, failed⟩
      · have resolved : resolution ctx target = some path := by
          simp only [resolution, function, parsed, Except.toOption]
        exact .inl ⟨rfl, _, path, base, function, resolved, based⟩
      · exact .inr (.inr ⟨failure.status, congrArg send failed⟩)

section

variable {function : Endpoint} (asks : Asks ctx target function path base)

include asks

theorem handleRequest_outside (outside : isOutside (lexicallyRelative path base) = true) :
    handleRequest ctx .get target = .refused path := by
  cases function with
  | apiRedirectWww => simpa [resolution, asks.function] using asks.path
  | apiGetFile => rw [handleRequest_file asks, if_pos outside]
  | apiWww => rw [handleRequest_www asks, if_pos outside]

variable (inside : isOutside (lexicallyRelative path base) = false)

include inside

theorem handleRequest_ne_refused (p : Place) : handleRequest ctx .get target ≠ .refused p := by
  cases function with
  | apiRedirectWww => simpa [resolution, asks.function] using asks.path
  | apiGetFile =>
    rw [handleRequest_file asks, inside]
    rcases ctx.filesystem.node path with _ | ⟨_ | _⟩ | _ | _ | _ <;> nofun
  | apiWww =>
    rw [handleRequest_www asks, inside]
    rcases ctx.filesystem.node path with _ | _ | entries | _ | _
    case some.directory =>
      rcases made : items ctx path (sortedNames entries) with _ | _ <;> simp [made, send, Except.map]
    all_goals nofun

theorem listing_iff (p : Place) (list : List Item) :
    handleRequest ctx .get target = .listing p list ↔
      function = .apiWww ∧ p = path ∧ ∃ entries,
        ctx.filesystem.node path = some (.directory entries) ∧
          items ctx path (sortedNames entries) = .ok list := by
  cases function with
  | apiRedirectWww => simpa [resolution, asks.function] using asks.path
  | apiGetFile =>
    rw [handleRequest_file asks, inside]
    rcases ctx.filesystem.node path with _ | ⟨_ | _⟩ | _ | _ | _ <;> simp
  | apiWww =>
    rw [handleRequest_www asks, inside]
    rcases ctx.filesystem.node path with _ | _ | entries | _ | _
    case some.directory =>
      rcases made : items ctx path (sortedNames entries) with _ | _ <;>
        simp [made, send, Except.map, eq_comm]
    all_goals simp

theorem served_iff (p : Place) : (handleRequest ctx .get target).served = some p ↔
    p = path ∧ Servable ctx.filesystem path function := by
  cases function with
  | apiRedirectWww => simpa [resolution, asks.function] using asks.path
  | apiGetFile =>
    rw [handleRequest_file asks, inside, Servable]
    rcases ctx.filesystem.node path with _ | ⟨_ | _⟩ | _ | _ | _ <;>
      simp [Response.served, eq_comm]
  | apiWww =>
    rw [handleRequest_www asks, inside, Servable]
    rcases ctx.filesystem.node path with _ | _ | entries | _ | _
    case some.directory =>
      simp only [some.injEq, Node.directory.injEq, exists_eq_left', Bool.false_eq_true,
        if_false, ← items_sortedNames_isOk_iff asks.base]
      rcases made : items ctx path (sortedNames entries) with _ | _ <;>
        simp [send, Except.map, Response.served, eq_comm]
    all_goals simp [Response.served]

end

/-! ## Links -/

theorem linkStart_cases (starts : linkStart node = some start) :
    start = wwwTarget ∨ start = apiFileTarget := by
  rcases node with _ | _ | _ | _ | _
  case some.directory => exact .inl (some.inj starts).symm
  case some.file => exact .inr (some.inj starts).symm
  all_goals cases starts

theorem parsePath_append (plain : 37 ∉ start) (text : List UInt8) (entry : Place) :
    parsePath ctx (start ++ text) start = .ok entry ↔ ∃ meaning,
      unescape text = some meaning ∧ ctx.filesystem.canonical meaning ctx.workdir = .ok entry := by
  rw [parsePath, unescape_append plain]
  cases unescape text with
  | none => simp
  | some meaning =>
    simp only [map_some, drop_left, some.injEq, exists_eq_left']
    cases ctx.filesystem.canonical meaning ctx.workdir <;> simp [Except.mapError]

theorem endpoint_www (text : List UInt8) :
    endpoint (wwwStart ++ text) = if text.all isRegexChar then some .apiWww else none := by
  simp [endpoint, matchesFrom, wwwStart, wwwTarget, apiFileStart, apiFileTarget, slash]

theorem endpoint_file (text : List UInt8) :
    endpoint (apiFileStart ++ text) = if text.all isRegexChar then some .apiGetFile else none := by
  simp [endpoint, matchesFrom, wwwStart, wwwTarget, apiFileStart, apiFileTarget, slash]

theorem resolution_link (starts : linkStart node = some start) (text : List UInt8) (entry : Place) :
    resolution ctx (start ++ slash :: text) = some entry ↔ text.all isRegexChar = true ∧
      ∃ meaning, unescape text = some meaning ∧
        ctx.filesystem.canonical meaning ctx.workdir = .ok entry := by
  rcases linkStart_cases starts with rfl | rfl
  · change resolution ctx (wwwStart ++ text) = _ ↔ _
    rw [resolution, endpoint_www, ← parsePath_append (by decide : 37 ∉ wwwStart)]
    cases text.all isRegexChar <;> simp [toOption_eq_some]
  · change resolution ctx (apiFileStart ++ text) = _ ↔ _
    rw [resolution, endpoint_file, ← parsePath_append (by decide : 37 ∉ apiFileStart)]
    cases text.all isRegexChar <;> simp [toOption_eq_some]

/-- A link without a relative path leads to the working directory, or nowhere. -/
theorem resolution_start (starts : linkStart node = some start)
    (resolved : resolution ctx start = some entry) :
    ctx.filesystem.canonical [] ctx.workdir = .ok entry := by
  rcases linkStart_cases starts with rfl | rfl
  · have parsed : (ctx.filesystem.canonical [] ctx.workdir).mapError Failure.filesystem =
        .ok entry := toOption_eq_some.mp resolved
    cases found : ctx.filesystem.canonical [] ctx.workdir <;> simp_all [Except.mapError]
  · cases resolved

/-- The relative path of what lies below goes on from the working directory. -/
theorem relative_below (same : entry.rootName = base.rootName) (above : base.Above entry) :
    lexicallyRelative entry base ≠ [] ∧
      (lexicallyRelative entry base).head? ≠ some slash := by
  obtain ⟨rest, below⟩ := above.2
  rw [lexicallyRelative_below same below.symm]
  cases rest with
  | nil => decide
  | cons name rest =>
    rw [if_neg (cons_ne_nil name rest), map_cons, intercalate_cons]
    obtain ⟨_ | ⟨first, bytes⟩, some_, -, -, noSlash⟩ := name
    · exact absurd rfl some_
    · refine ⟨cons_ne_nil _ _, fun same => noSlash ?_⟩
      exact some.inj same ▸ mem_cons_self

theorem walk_relative (settled : ctx.filesystem.Settled entry)
    (directory : ctx.filesystem.isDirectory base = true) (above : base.Above entry) (links : Nat) :
    ctx.filesystem.walk links base (elements (lexicallyRelative entry base)) = .ok entry := by
  obtain ⟨rest, below⟩ := above.2
  rw [lexicallyRelative_below above.1.symm below.symm]
  have reached : base.rootName = entry.rootName := above.1
  obtain ⟨rootName, names⟩ := base
  obtain ⟨_, _⟩ := entry
  subst reached below
  split
  · next none_ =>
      subst none_
      rw [append_nil, show elements dotPath = [.stay] from rfl, Filesystem.walk_stay,
        if_pos directory, Filesystem.walk_nil]
  · next some_ =>
      rw [elements_intercalate some_]
      have walked := Filesystem.walk_names links settled []
      rwa [append_nil, Filesystem.walk_nil] at walked

theorem linkable_iff (based : ctx.filesystem.weaklyCanonical ctx.workdir = .ok base)
    (settled : ctx.filesystem.Settled entry) (directory : ctx.filesystem.isDirectory base = true)
    (listed : entry.rootName = base.rootName → base.Above entry)
    (starts : linkStart (ctx.filesystem.node entry) = some start) :
    Linkable ctx base entry ↔
      resolution ctx (append start (lexicallyRelative entry base)) = some entry := by
  by_cases same : entry.rootName = base.rootName
  · have above := listed same
    obtain ⟨some_, relative⟩ := relative_below same above
    have joined : append start (lexicallyRelative entry base) =
        start ++ slash :: lexicallyRelative entry base := by
      have ends : start.getLast? ≠ some slash := by
        rcases linkStart_cases starts with rfl | rfl <;> decide
      rw [append, if_neg some_, if_neg (not_or.mpr ⟨relative, ends⟩)]
    rw [joined, resolution_link starts]
    have plainly (plain : 37 ∉ lexicallyRelative entry base) :
        (∃ p, ctx.filesystem.canonical [] ctx.workdir = .ok p) ↔ ∃ meaning,
          unescape (lexicallyRelative entry base) = some meaning ∧
            ctx.filesystem.canonical meaning ctx.workdir = .ok entry := by
      have meant := unescape_append plain []
      rw [append_nil] at meant
      obtain ⟨left, found⟩ := canonical_relative ctx.filesystem ctx.workdir relative
      simp only [meant, unescape, map_some, append_nil, some.injEq,
        exists_eq_left', found, bind_eq_ok]
      refine exists_congr fun p => (and_iff_left_of_imp fun resolved => ?_).symm
      have found := weaklyCanonical_of_canonical resolved
      rw [← Except.ok.inj (based.symm.trans found)]
      exact walk_relative settled directory above left
    constructor
    · rintro ⟨-, line, ⟨plain, resolved⟩ | ⟨-, meant⟩⟩
      · exact ⟨line, (plainly plain).mp resolved⟩
      · exact ⟨line, meant⟩
    · rintro ⟨line, meant⟩
      by_cases percent : 37 ∈ lexicallyRelative entry base
      · exact ⟨same, line, .inr ⟨percent, meant⟩⟩
      · exact ⟨same, line, .inl ⟨percent, (plainly percent).mpr meant⟩⟩
  · refine iff_of_false (fun linkable => same linkable.sameRoot) fun resolved => same ?_
    rw [lexicallyRelative, if_pos same] at resolved
    have found := weaklyCanonical_of_canonical (resolution_start starts resolved)
    rw [Except.ok.inj (based.symm.trans found)]

/-! ## Confinement -/

theorem settled_of_parsePath {src : List UInt8} (parsed : parsePath ctx src start = .ok path) :
    ctx.filesystem.Settled path := by
  rw [parsePath] at parsed
  split at parsed
  · cases parsed
  · next text _ =>
      rcases found : ctx.filesystem.canonical (text.drop start.length) ctx.workdir with _ | p <;>
        rw [found] at parsed
      · cases parsed
      · obtain rfl := ok_eq_ok.mp parsed
        exact Filesystem.settled_walk (.root _) found

theorem settled_of_asks {function : Endpoint} (asks : Asks ctx target function path base) :
    ctx.filesystem.Settled path := by
  have resolved := asks.path
  rw [resolution, asks.function] at resolved
  cases function with
  | apiRedirectWww => cases resolved
  | apiGetFile | apiWww => exact settled_of_parsePath (toOption_eq_some.mp resolved)

theorem isDirectory_above {q : Place} (settled : fs.Settled q) (directory : fs.isDirectory q = true)
    (above : p.Above q) : fs.isDirectory p = true := by
  obtain ⟨same, rest, below⟩ := above
  obtain ⟨rootName, names⟩ := p
  obtain ⟨_, _⟩ := q
  subst same below
  cases rest with
  | nil => rwa [append_nil] at directory
  | cons name rest => exact (settled names name rest rfl).1

/-- The canonical form of the path of an entry. -/
theorem resolve_child (settled : fs.Settled p) (directory : fs.isDirectory p = true) (name : Name) :
    fs.resolve ((p.child name).rootName, (p.child name).names.map .name) =
      fs.walk fs.symloopMax p [.name name] := by
  have root : fs.isDirectory ⟨p.rootName, []⟩ = true :=
    isDirectory_above settled directory ⟨rfl, nil_prefix⟩
  simp only [Filesystem.resolve, Place.child, map_append, map_cons, map_nil,
    Filesystem.walk_stay, root, if_true]
  have whole : fs.Settled ⟨p.rootName, [] ++ p.names⟩ := settled
  exact Filesystem.walk_names _ whole _

/-- The working directory is a directory when a listing is below it. -/
theorem Servable.isDirectory (found : fs.node path = some (.directory entries)) :
    fs.isDirectory path = true := by
  rw [Filesystem.isDirectory, found]

theorem listed_iff : Listed fs base entry ↔
    ∃ start, linkStart (fs.node entry) = some start ∧
      isOutside (lexicallyRelative entry base) = false := by
  rw [Listed, isSome_iff_exists, exists_and_right, ← Bool.not_eq_true, isOutside_iff]
  simp only [not_and, not_or, Decidable.not_not]

theorem linked_iff {function : Endpoint} (asks : Asks ctx target function path base)
    (above : base.Above path) (found : ctx.filesystem.node path = some (.directory entries))
    (made : items ctx path (sortedNames entries) = .ok list) :
    (∀ item ∈ list, ∃ entry,
        ctx.filesystem.resolve (item.file.rootName, item.file.names.map .name) = .ok entry ∧
          resolution ctx item.linkname = some entry) ↔
      ∀ name ∈ entries.map Prod.fst, ∀ entry,
        ctx.filesystem.walk ctx.filesystem.symloopMax path [.name name] = .ok entry →
          Listed ctx.filesystem base entry → Linkable ctx base entry := by
  have settled := settled_of_asks asks
  have directory : ctx.filesystem.isDirectory path = true := by
    rw [Filesystem.isDirectory, found]
  have linkable {name : Name} {entry : Place} {start : List UInt8}
      (walked : ctx.filesystem.walk ctx.filesystem.symloopMax path [.name name] = .ok entry)
      (listed : Listed ctx.filesystem base entry)
      (starts : linkStart (ctx.filesystem.node entry) = some start) :=
    linkable_iff asks.base (Filesystem.settled_walk settled walked)
      (isDirectory_above settled directory above) (fun same => (listed.2 same).1) starts
  have sorted (name : Name) : name ∈ sortedNames entries ↔ name ∈ entries.map Prod.fst :=
    mem_mergeSort
  constructor
  · intro linked name mem entry walked listed
    obtain ⟨start, starts, inside⟩ := listed_iff.mp listed
    obtain ⟨displayname, shown⟩ := item_eq asks.base walked
    rw [starts, filter_some, inside] at shown
    obtain ⟨other, resolved, same⟩ := linked _ ((mem_items made).mpr ⟨name, (sorted name).mpr mem, shown⟩)
    rw [resolve_child settled directory, walked] at resolved
    obtain rfl := ok_eq_ok.mp resolved
    exact (linkable walked listed starts).mpr same
  · intro clean listed mem
    obtain ⟨name, sortedMem, shown⟩ := (mem_items made).mp mem
    rcases walked : ctx.filesystem.walk ctx.filesystem.symloopMax path [.name name] with
      (_ | _) | entry
    case error.noSuchFileOrDirectory | error.tooManySymbolicLinkLevels =>
      rw [item, walked] at shown
      cases shown
    obtain ⟨displayname, shows⟩ := item_eq asks.base walked
    have same := (Except.ok.inj (shown.symm.trans shows)).symm
    obtain ⟨start, filtered, rfl⟩ := map_eq_some_iff.mp same
    obtain ⟨starts, inside⟩ := filter_eq_some_iff.mp filtered
    have listed := listed_iff.mpr ⟨start, starts, by simpa using inside⟩
    refine ⟨entry, (resolve_child settled directory name).trans walked, ?_⟩
    exact (linkable walked listed starts).mp 
      (clean name ((sorted name).mp sortedMem) entry walked listed)

theorem honest_get_iff {function : Endpoint} (asks : Asks ctx target function path base) :
    (handleRequest ctx .get target).Honest ctx ↔ Clean ctx function path base := by
  have within : ctx.Inside path ↔ base.Above path := by
    simp only [Context.Inside, asks.base, Except.ok.injEq, exists_eq_left']
  cases outside : isOutside (lexicallyRelative path base) with
  | true =>
    obtain ⟨same, notBelow⟩ := isOutside_iff.mp outside
    rw [handleRequest_outside asks outside]
    constructor
    · intro honest
      have notAbove := within.not.mp (honest.justified path rfl)
      exact ⟨fun _ => same, fun above => absurd above notAbove,
        fun _ _ above => absurd above notAbove⟩
    · intro clean
      have notAbove : ¬ base.Above path := fun above =>
        notBelow.elim (fun other => other above) (clean.undotted above)
      refine ⟨nofun, ?_, nofun⟩
      rintro _ ⟨⟩
      exact within.not.mpr notAbove
  | false =>
    have below (same : path.rootName = base.rootName) : base.Above path ∧ ¬ Dotted base path := by
      have := isOutside_iff.not.mp (Bool.eq_false_iff.mp outside)
      simpa [same] using this
    constructor
    · intro honest
      refine ⟨fun servable => ?_, fun above => (below above.1.symm).2, ?_⟩
      · have served := (served_iff asks outside path).mpr ⟨rfl, servable⟩
        exact (within.mp (honest.confined path served)).1.symm
      · rintro rfl ⟨entries, found, acyclic⟩ above _ same
        obtain rfl := Node.directory.inj (some.inj (found.symm.trans same))
        obtain ⟨list, made⟩ := (items_sortedNames_isOk_iff asks.base entries).mpr acyclic
        refine (linked_iff asks above found made).mp (honest.linked path list ?_)
        exact (listing_iff asks outside path list).mpr ⟨rfl, rfl, entries, found, made⟩
    · intro clean
      have above (servable : Servable ctx.filesystem path function) : base.Above path :=
        (below (clean.sameRoot servable)).1
      refine ⟨?_, fun p refused => absurd refused (handleRequest_ne_refused asks outside p), ?_⟩
      · intro p served
        obtain ⟨rfl, servable⟩ := (served_iff asks outside p).mp served
        exact within.mpr (above servable)
      · intro p list listing
        obtain ⟨rfl, rfl, entries, found, made⟩ := (listing_iff asks outside p list).mp listing
        have acyclic := (items_sortedNames_isOk_iff asks.base entries).mp ⟨list, made⟩
        have servable : Servable ctx.filesystem p .apiWww := ⟨entries, found, acyclic⟩
        exact (linked_iff asks (above servable) found made).mpr
          (clean.linkable rfl servable (above servable) entries found)

/-- The names `e`, `w`, `..n` and `%41`. -/
def nameE : Name := ⟨[101], by decide⟩
def nameW : Name := ⟨[119], by decide⟩
def nameDots : Name := ⟨[46, 46, 110], by decide⟩
def namePercent : Name := ⟨[37, 52, 49], by decide⟩

/-- The working directory `/w` with a file and a directory of one file, and a file elsewhere. -/
def oddContext : Context where
  filesystem :=
    { root := fun rootName =>
        if rootName = [] then
          .directory [(nameW, .directory [(nameDots, .file (.ok [])),
            (nameE, .directory [(namePercent, .file (.ok []))])])]
        else if rootName = [47, 47, 101] then .directory [(nameE, .file (.ok []))]
        else .other
      symloopMax := 40 }
  workdir := [47, 119]
  absolute := by decide

end Rstream.FileServer
