import Rstream.Library.Separators
import Rstream.Library.Results

/-!
# Directory trees and `boost::filesystem`

The part of `boost::filesystem` that the file server uses, over an arbitrary directory tree
with symbolic links. A path is the string it was made from. Its grammar is the documented one:
two slashes followed by a name are a root name, and a path with a root name but without a root
directory is not absolute. A canonical path is a root name and a list of names, and every root
name has a directory tree of its own: what `//net` denotes is left to the system, which may
take it for the directory `/net`.

A name is never empty, a dot or two dots, and it does not contain a slash; it may be any other
string of bytes.
-/

namespace Rstream.FileServer

open Library List

/-! ## Paths -/

/-- The byte of a slash. -/
def slash : UInt8 := 47

def dotPath : List UInt8 := [46]

def dotDotPath : List UInt8 := [46, 46]

/-- What the name of a directory entry can be. -/
def Proper (bytes : List UInt8) : Prop :=
  bytes ≠ [] ∧ bytes ≠ dotPath ∧ bytes ≠ dotDotPath ∧ slash ∉ bytes

instance (bytes : List UInt8) : Decidable (Proper bytes) :=
  inferInstanceAs (Decidable (_ ∧ _ ∧ _ ∧ _))

/-- The name of a directory entry. -/
abbrev Name := { bytes : List UInt8 // Proper bytes }

/-- An element of a path: the directory itself, the one above it, or an entry. -/
inductive Element where
  | stay | up
  | name (name : Name)
  deriving DecidableEq

/-- The element that a part between two slashes is; an empty one is like a dot. -/
def element (part : List UInt8) : Element :=
  if proper : Proper part then .name ⟨part, proper⟩
  else if part = dotDotPath then .up
  else .stay

/-- The elements of a path without a root. -/
def elements (path : List UInt8) : List Element :=
  if path = [] then [] else (path.splitOn slash).map element

def rootName : List UInt8 → List UInt8
  | 47 :: 47 :: path =>
    if path.head? = some slash then [] else slash :: slash :: path.takeWhile (· ≠ slash)
  | _ => []

/-- `path::has_root_directory`, which is what `path::is_absolute` asks for. -/
def hasRootDirectory (path : List UInt8) : Bool :=
  (path.drop (rootName path).length).head? = some slash

def relativePath (path : List UInt8) : List UInt8 :=
  (path.drop (rootName path).length).dropWhile (· = slash)

/-- `boost::filesystem::absolute`, as a root name and elements. Two slashes alone are a root
name, too, but with a root directory after them they are the beginning of a plain path. -/
def absolute (path base : List UInt8) : List UInt8 × List Element :=
  if rootName path = [] then
    if hasRootDirectory path then (rootName base, elements (relativePath path))
    else (rootName base, elements (relativePath base) ++ elements path)
  else if hasRootDirectory path then (rootName path, elements (relativePath path))
  else
    (if rootName path = [slash, slash] then [] else rootName path,
      elements (relativePath base) ++ elements (relativePath path))

/-! ## Trees -/

/-- What the opening of a regular file can fail with. -/
inductive OpenError where
  | noSuchFileOrDirectory | permissionDenied | other
  deriving DecidableEq

/-- A node of a directory tree. -/
inductive Node where
  | file (opened : Except OpenError (List UInt8))
  | directory (entries : List (Name × Node))
  | link (target : List UInt8)
  | other

/-- The entry of a directory with a name. -/
def Node.entry (name : Name) : Node → Option Node
  | .directory entries => entries.lookup name
  | _ => none

/-- The node below another one, without following links. -/
def Node.find : List Name → Node → Option Node
  | [], node => some node
  | name :: names, node => (node.entry name).bind (Node.find names)

/-- The tree of every root name, and how many links a path may lead through. -/
structure Filesystem where
  root : List UInt8 → Node
  symloopMax : Nat

/-- A path without links, dots and double dots. -/
structure Place where
  rootName : List UInt8
  names : List Name
  deriving DecidableEq

namespace Place

def child (name : Name) (p : Place) : Place := { p with names := p.names ++ [name] }

def parent (p : Place) : Place := { p with names := p.names.dropLast }

/-- The second path is the first one, or lies below it. -/
def Above (p q : Place) : Prop := p.rootName = q.rootName ∧ p.names <+: q.names

instance (p q : Place) : Decidable (Above p q) := inferInstanceAs (Decidable (_ ∧ _))

def string (p : Place) : List UInt8 :=
  p.rootName ++ slash :: [slash].intercalate (p.names.map Subtype.val)

end Place

/-- The errors of `boost::filesystem` that can occur here. -/
inductive Errc where
  | noSuchFileOrDirectory | tooManySymbolicLinkLevels
  deriving DecidableEq

namespace Filesystem

variable (fs : Filesystem)

/-- The node of a path, without following links. -/
def node (p : Place) : Option Node := (fs.root p.rootName).find p.names

/-- `is_directory`, for a path without links. -/
def isDirectory (p : Place) : Bool :=
  match fs.node p with
  | some (.directory _) => true
  | _ => false

/-- The walk along the elements of a path; `follow` goes on where a link leads. -/
def walkWith (follow : Place → List Element → Except Errc Place) :
    Place → List Element → Except Errc Place
  | p, [] => .ok p
  | p, element :: rest =>
    if fs.isDirectory p then
      match element with
      | .stay => walkWith follow p rest
      | .up => walkWith follow p.parent rest
      | .name name =>
        match fs.node (p.child name) with
        | none => .error .noSuchFileOrDirectory
        | some (.link target) =>
          if hasRootDirectory target then
            follow ⟨FileServer.rootName target, []⟩
              (.stay :: elements (relativePath target) ++ rest)
          else follow p (elements target ++ rest)
        | some _ => walkWith follow (p.child name) rest
    else .error .noSuchFileOrDirectory

/-- The walk along the elements of a path, through at most a number of links. -/
def walk : Nat → Place → List Element → Except Errc Place
  | 0 => fs.walkWith fun _ _ => .error .tooManySymbolicLinkLevels
  | links + 1 => fs.walkWith (walk links)

/-- The walk along an absolute path. -/
def resolve (path : List UInt8 × List Element) : Except Errc Place :=
  fs.walk fs.symloopMax ⟨path.1, []⟩ (.stay :: path.2)

def canonical (path base : List UInt8) : Except Errc Place := fs.resolve (absolute path base)

/-- The elements of a path that does not exist, as `lexically_normal` leaves them. -/
def normal (p : Place) : List Element → Place
  | [] => p
  | .stay :: rest => normal p rest
  | .up :: rest => normal p.parent rest
  | .name name :: rest => normal (p.child name) rest

/-- The beginning of a path that exists, as `weakly_canonical` looks for it from the end; the
elements before it are in reverse. -/
def existing (root : List UInt8) : List Element → List Element → Except Errc Place
  | [], tail => .ok (normal ⟨root, []⟩ tail)
  | last :: head, tail =>
    match fs.resolve (root, (last :: head).reverse) with
    | .ok p => .ok (normal p tail)
    | .error .noSuchFileOrDirectory => existing root head (last :: tail)
    | .error error => .error error

/-- `boost::filesystem::weakly_canonical` of an absolute path. -/
def weaklyCanonical (path : List UInt8) : Except Errc Place :=
  fs.existing (FileServer.rootName path) (elements (relativePath path)).reverse []

end Filesystem

/-- What is left of two lists after what they have in common. -/
def dropCommon : List Name → List Name → List Name × List Name
  | first :: left, second :: right =>
    if first = second then dropCommon left right else (first :: left, second :: right)
  | left, right => (left, right)

/-- `path::lexically_relative` of canonical paths. Paths with different root names have
nothing in common, and the result is empty. -/
def lexicallyRelative (p base : Place) : List UInt8 :=
  if p.rootName ≠ base.rootName then []
  else
    match dropCommon p.names base.names with
    | ([], []) => dotPath
    | (down, up) => [slash].intercalate (up.map (fun _ => dotDotPath) ++ down.map Subtype.val)

/-! ## Walks -/

namespace Filesystem

variable {fs : Filesystem} {follow : Place → List Element → Except Errc Place}

/-- What is on the way to a path are directories, and no name on it is the name of a link. -/
def Settled (fs : Filesystem) (p : Place) : Prop :=
  ∀ names name rest, p.names = names ++ name :: rest →
    fs.isDirectory ⟨p.rootName, names⟩ = true ∧
      ∃ node, fs.node ⟨p.rootName, names ++ [name]⟩ = some node ∧ ∀ target, node ≠ .link target

theorem Settled.root (rootName : List UInt8) : fs.Settled ⟨rootName, []⟩ :=
  fun names name rest split => by simp at split

variable {rootName : List UInt8} {names more : List Name} {p : Place}

theorem Settled.before (settled : fs.Settled ⟨rootName, names ++ more⟩) :
    fs.Settled ⟨rootName, names⟩ :=
  fun first name rest split => settled first name (rest ++ more) (by simp_all)

theorem Settled.parent (settled : fs.Settled p) : fs.Settled p.parent := by
  obtain ⟨rootName, names⟩ := p
  rcases eq_nil_or_concat' names with rfl | ⟨names, name, rfl⟩
  · exact settled
  · simpa [Place.parent] using settled.before

theorem Settled.child {name : Name} {node : Node} (settled : fs.Settled p)
    (directory : fs.isDirectory p = true) (found : fs.node (p.child name) = some node)
    (plain : ∀ target, node ≠ .link target) : fs.Settled (p.child name) := by
  intro names last rest split
  rcases eq_nil_or_concat' rest with rfl | ⟨rest, other, rfl⟩
  · obtain ⟨rfl, rfl⟩ : p.names = names ∧ name = last := by simpa [Place.child] using split
    exact ⟨directory, node, found, plain⟩
  · exact settled names last rest (by
      have same : p.names ++ [name] = (names ++ last :: rest) ++ [other] := by
        simpa [Place.child] using split
      exact (append_inj' same rfl).1)

variable {q : Place} {elements : List Element} {links : Nat}

/-- A walk ends at a settled path if it does where links lead. -/
theorem settled_walkWith
    (go : ∀ p elements q, fs.Settled p → follow p elements = .ok q → fs.Settled q)
    (settled : fs.Settled p) (walked : fs.walkWith follow p elements = .ok q) : fs.Settled q := by
  induction elements generalizing p with
  | nil =>
    obtain rfl := ok_eq_ok.mp walked
    exact settled
  | cons element rest ih =>
    rw [walkWith.eq_def] at walked
    simp only at walked
    split at walked
    · next directory =>
        cases element with
        | stay => exact ih settled walked
        | up => exact ih settled.parent walked
        | name name =>
          simp only at walked
          split at walked
          · cases walked
          · split at walked
            · exact go _ _ _ (.root _) walked
            · exact go _ _ _ settled walked
          · next plain found => exact ih (settled.child directory found plain) walked
    · cases walked

theorem settled_walk (settled : fs.Settled p) (walked : fs.walk links p elements = .ok q) :
    fs.Settled q := by
  induction links generalizing p q elements with
  | zero => exact settled_walkWith (fun _ _ _ _ (walked : Except.error _ = _) => nomatch walked) settled walked
  | succ links ih => exact settled_walkWith (fun _ _ _ => ih) settled walked

theorem walkWith_append (same : fs.walk links = fs.walkWith follow) (go : ∀ p first rest, ∃ left,
      follow p (first ++ rest) = follow p first >>= fun q => fs.walk left q rest) (p : Place)
    (first rest : List Element) : ∃ left,
      fs.walkWith follow p (first ++ rest) =
        fs.walkWith follow p first >>= fun q => fs.walk left q rest := by
  induction first generalizing p with
  | nil => exact ⟨links, by simp [walkWith, same]⟩
  | cons element first ih =>
    rw [cons_append, walkWith.eq_def, walkWith.eq_def fs follow p (element :: first)]
    simp only
    split
    · cases element with
      | stay => exact ih p
      | up => exact ih p.parent
      | name name =>
        simp only
        split
        · exact ⟨0, rfl⟩
        · next target found =>
            split
            · simpa using go _ (.stay :: elements (relativePath target) ++ first) rest
            · simpa using go p (elements target ++ first) rest
        · exact ih (p.child name)
    · exact ⟨0, rfl⟩

theorem walk_append (links : Nat) (p : Place) (first rest : List Element) : ∃ left,
    fs.walk links p (first ++ rest) = fs.walk links p first >>= fun q => fs.walk left q rest := by
  induction links generalizing p first rest with
  | zero =>
    have same : fs.walk 0 = fs.walkWith fun _ _ => .error .tooManySymbolicLinkLevels := rfl
    simpa only [same] using walkWith_append same (fun _ _ _ => ⟨0, rfl⟩) p first rest
  | succ links ih =>
    have same : fs.walk (links + 1) = fs.walkWith (fs.walk links) := rfl
    simpa only [same] using walkWith_append same ih p first rest

theorem walk_nil (links : Nat) (p : Place) : fs.walk links p [] = .ok p := by
  cases links <;> rfl

theorem walk_stay (links : Nat) (p : Place) (rest : List Element) :
    fs.walk links p (.stay :: rest) =
      if fs.isDirectory p then fs.walk links p rest else .error .noSuchFileOrDirectory := by
  cases links <;> rfl

theorem walkWith_names (settled : fs.Settled ⟨rootName, names ++ more⟩) (rest : List Element) :
    fs.walkWith follow ⟨rootName, names⟩ (more.map .name ++ rest) =
      fs.walkWith follow ⟨rootName, names ++ more⟩ rest := by
  induction more generalizing names with
  | nil => simp
  | cons name more ih =>
    obtain ⟨directory, node, found, plain⟩ := settled names name more rfl
    simp only [map_cons, cons_append, walkWith, directory, if_true, Place.child, found]
    cases node with
    | link target => exact absurd rfl (plain target)
    | file | directory | other =>
      have next : fs.Settled ⟨rootName, (names ++ [name]) ++ more⟩ := by simpa using settled
      simpa using ih next

theorem walk_names (links : Nat) (settled : fs.Settled ⟨rootName, names ++ more⟩)
    (rest : List Element) :
    fs.walk links ⟨rootName, names⟩ (more.map .name ++ rest) =
      fs.walk links ⟨rootName, names ++ more⟩ rest := by
  cases links with
  | zero => exact walkWith_names settled rest
  | succ links => exact walkWith_names settled rest

end Filesystem

/-! ## Relative paths -/

/-- A path lies below another one, and its first name there begins with two dots. -/
def Dotted (base p : Place) : Prop :=
  ∃ name rest, p.names = base.names ++ name :: rest ∧ dotDotPath <+: name.val

/-- Dropping what two lists of names have in common leaves nothing of the second one when it is
the beginning of the first one. -/
theorem dropCommon_append (names rest : List Name) :
    dropCommon (names ++ rest) names = (rest, []) := by
  induction names with
  | nil => cases rest <;> rfl
  | cons name names ih => simp [dropCommon, ih]

theorem isPrefix_of_dropCommon {left right down : List Name}
    (dropped : dropCommon left right = (down, [])) : right <+: left := by
  induction left generalizing right with
  | nil =>
    obtain ⟨-, rfl⟩ := Prod.mk.inj dropped
    exact nil_prefix
  | cons first left ih =>
    cases right with
    | nil => exact nil_prefix
    | cons second right =>
      rw [dropCommon] at dropped
      split at dropped
      · next same => exact cons_prefix_cons.mpr ⟨same.symm, ih dropped⟩
      · cases dropped

variable {base : Place} {rest : List Name} {path : List UInt8}

theorem lexicallyRelative_below {p : Place} (same : p.rootName = base.rootName)
    (below : p.names = base.names ++ rest) :
    lexicallyRelative p base =
      if rest = [] then dotPath else [slash].intercalate (rest.map Subtype.val) := by
  rw [lexicallyRelative, if_neg (not_not_intro same), below, dropCommon_append]
  cases rest <;> rfl

/-- The names after the first one do not make it begin with two dots. -/
theorem dotDot_isPrefix_cons {name : Name} :
    dotDotPath <+: [slash].intercalate ((name :: rest).map Subtype.val) ↔
      dotDotPath <+: name.val := by
  rw [map_cons, intercalate_cons]
  refine ⟨?_, fun dotted => dotted.trans (prefix_append _ _)⟩
  obtain ⟨_ | ⟨first, _ | ⟨second, bytes⟩⟩, some_, notDot, -, -⟩ := name
  all_goals intro dotted
  · exact absurd rfl some_
  · have dot : 46 = first := (cons_prefix_cons.mp dotted).1
    subst dot
    exact absurd rfl notDot
  · simpa [dotDotPath] using dotted

/-- A relative path begins with two dots when the path is not below, or when its first name
does. -/
theorem dotDot_isPrefix_iff {p : Place} :
    dotDotPath <+: lexicallyRelative p base ↔
      p.rootName = base.rootName ∧ (¬ base.Above p ∨ Dotted base p) := by
  by_cases same : p.rootName = base.rootName
  swap
  · simp [lexicallyRelative, same, dotDotPath]
  simp only [same, true_and]
  by_cases above : base.Above p
  · obtain ⟨rest, below⟩ := above.2
    rw [lexicallyRelative_below same below.symm, or_iff_right (not_not_intro above)]
    simp only [Dotted, ← below, append_cancel_left_eq]
    cases rest with
    | nil => exact iff_of_false (by decide) (by simp)
    | cons name rest =>
      rw [if_neg (cons_ne_nil name rest), dotDot_isPrefix_cons]
      refine ⟨fun dotted => ⟨name, rest, rfl, dotted⟩, ?_⟩
      rintro ⟨_, _, split, dotted⟩
      obtain ⟨rfl, -⟩ := cons.inj split
      exact dotted
  · refine iff_of_true ?_ (.inl above)
    rw [lexicallyRelative, if_neg (not_not_intro same)]
    rcases dropped : dropCommon p.names base.names with ⟨down, _ | ⟨first, up⟩⟩
    · exact absurd ⟨same.symm, isPrefix_of_dropCommon dropped⟩ above
    · simp only [map_cons, cons_append, intercalate_cons]
      exact prefix_append _ _

theorem elements_intercalate {names : List Name} (some_ : names ≠ []) :
    elements ([slash].intercalate (names.map Subtype.val)) = names.map .name := by
  have proper : ∀ name : Name, element name.val = .name name := fun name => dif_pos name.2
  have split : ([slash].intercalate (names.map Subtype.val)).splitOn slash =
      names.map Subtype.val :=
    splitOn_intercalate slash
      (fun piece mem => by
        obtain ⟨name, -, rfl⟩ := mem_map.mp mem
        exact name.2.2.2.2)
      (mt map_eq_nil_iff.mp some_)
  rw [elements, if_neg, split, map_map]
  · exact map_congr_left fun name _ => proper name
  · obtain ⟨name, rest, rfl⟩ := exists_cons_of_ne_nil some_
    rw [map_cons, intercalate_cons]
    exact append_ne_nil_of_left_ne_nil name.2.1 _

theorem absolute_nil (base : List UInt8) :
    absolute [] base = (rootName base, elements (relativePath base)) := by
  simp [absolute, rootName, hasRootDirectory, elements]

/-- Where the canonical form of a path relative to another one leads. -/
theorem canonical_relative (fs : Filesystem) (base : List UInt8) (plain : path.head? ≠ some slash) :
    ∃ left,
      fs.canonical path base = fs.canonical [] base >>= fun p => fs.walk left p (elements path) := by
  have rootless : rootName path = [] := by
    unfold rootName
    split
    · exact absurd rfl plain
    · rfl
  have rooted : hasRootDirectory path = false := by
    simpa [hasRootDirectory, rootless] using plain
  have joined : absolute path base = (rootName base, elements (relativePath base) ++ elements path) := by
    rw [absolute, if_pos rootless, rooted, if_neg Bool.false_ne_true]
  rw [Filesystem.canonical, joined, Filesystem.canonical, absolute_nil]
  exact fs.walk_append _ ⟨rootName base, []⟩ (.stay :: elements (relativePath base)) _

theorem weaklyCanonical_of_canonical {fs : Filesystem} {p : Place}
    (found : fs.canonical [] path = .ok p) : fs.weaklyCanonical path = .ok p := by
  rw [Filesystem.canonical, absolute_nil] at found
  rw [Filesystem.weaklyCanonical]
  rcases parts : (elements (relativePath path)).reverse with _ | ⟨last, head⟩
  · rw [reverse_eq_nil_iff.mp parts] at found
    rw [Filesystem.resolve, Filesystem.walk_stay] at found
    split at found
    · rw [Filesystem.walk_nil] at found
      exact found
    · cases found
  · rw [← reverse_reverse (elements _), parts] at found
    rw [Filesystem.existing, found]
    rfl

end Rstream.FileServer
