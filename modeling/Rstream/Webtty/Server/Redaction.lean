import Mathlib.Data.List.Forall2
import Mathlib.Data.List.Infix
import Rstream.Library.Separators

/-!
# What the log shows of an HTTP target

A target is logged with the values of some query parameters replaced: of those whose key looks like
a secret. The query is what follows the first question mark, up to the next hash. The loop over it
walks from one ampersand to the next by positions.

A text is a list of characters, one for each byte. The parts of a target are those the loop sees:
every text is a target in exactly one way (`HttpTarget.parse_render`, `HttpTarget.render_parse`),
and the loop replaces the values of secret parameters in it and nothing else
(`redactHttpTarget_render`).
-/

namespace Rstream.Webtty.Server

open Library List

/-! ## The source -/

/-- `std::string::find` of a character. -/
def find (char : Char) (text : List Char) (pos : Nat) : Option Nat :=
  ((text.drop pos).findIdx? (· == char)).map (pos + ·)

/-- The character is found where a text is cut. -/
theorem find_paste {char : Char} {before : List Char} (absent : char ∉ before)
    (rest : Option (List Char)) :
    find char (paste char before rest) 0 = rest.map fun _ => before.length := by
  have unfound : before.findIdx? (· == char) = none := by
    rw [findIdx?_eq_none_iff]
    intro other mem
    exact beq_eq_false_iff_ne.mpr fun same => absent (same ▸ mem)
  rw [find, drop_zero, paste, findIdx?_append, unfound]
  cases rest with
  | none => rfl
  | some rest => simp [findIdx?_cons]

theorem find_drop (char : Char) (text : List Char) (pos : Nat) :
    find char text pos = (find char (text.drop pos) 0).map (pos + ·) := by
  rw [find, find, drop_zero, Option.map_map]
  simp [Function.comp_def]

/-- From a position on, the character is found behind a text without it, or is not there. -/
theorem find_cases (char : Char) (text : List Char) (pos : Nat) :
    (find char text pos = none ∧ char ∉ text.drop pos) ∨
      ∃ before after, char ∉ before ∧ text.drop pos = before ++ char :: after ∧
        find char text pos = some (pos + before.length) := by
  have absent : char ∉ (cut char (text.drop pos)).1 := notMem_cut (text.drop pos)
  have whole := @paste_cut _ _ char (text.drop pos)
  rw [find_drop, ← whole, find_paste absent]
  cases (cut char (text.drop pos)).2 with
  | none => exact .inl ⟨rfl, by rwa [paste, Option.elim_none, append_nil]⟩
  | some after => exact .inr ⟨_, after, absent, rfl, rfl⟩

def shouldRedactQueryKey (key : List Char) : Bool :=
  let lowered := key.map Char.toLower
  ["token", "secret", "credential", "api-key", "apikey"].any fun word =>
    decide (word.toList <:+: lowered)

/-- What the loop of `redact_http_target` writes for a part of the query. -/
def redactPart (part : List Char) : List Char :=
  match find '=' part 0 with
  | none => part
  | some eqPos =>
    let key := part.take eqPos
    if shouldRedactQueryKey key then key ++ "=<redacted>".toList else part

theorem find_lt {char : Char} {text : List Char} {pos next : Nat}
    (found : find char text pos = some next) : pos ≤ next ∧ next < text.length := by
  rcases find_cases char text pos with ⟨absent, -⟩ | ⟨before, after, -, rest, same⟩
  · rw [absent] at found
    cases found
  · have length := congrArg length rest
    rw [length_drop, length_append, length_cons] at length
    rw [same] at found
    cases found
    omega

/-- The loop of `redact_http_target`. -/
def redactQuery (query : List Char) (pos : Nat) (first : Bool) (redacted : List Char) : List Char :=
  if pos ≤ query.length then
    match _ : find '&' query pos with
    | none => redacted ++ (bif first then [] else ['&']) ++ redactPart (query.drop pos)
    | some next =>
      redactQuery query (next + 1) false (redacted ++ (bif first then [] else ['&'])
        ++ redactPart ((query.drop pos).take (next - pos)))
  else redacted
termination_by query.length + 1 - pos
decreasing_by
  have bounds := find_lt ‹find '&' query pos = some next›
  omega

def redactHttpTarget (target : List Char) : List Char :=
  match find '?' target 0 with
  | none => target
  | some queryPos =>
    let fragmentPos := find '#' target (queryPos + 1)
    let queryEnd := fragmentPos.getD target.length
    let before := target.take (queryPos + 1)
    let query := (target.drop (queryPos + 1)).take (queryEnd - queryPos - 1)
    let suffix := fragmentPos.elim [] target.drop
    before ++ redactQuery query 0 true [] ++ suffix

/-- The last round of the loop. -/
theorem redactQuery_last {query : List Char} {pos : Nat} (within : pos ≤ query.length)
    (absent : find '&' query pos = none) (first : Bool) (redacted : List Char) :
    redactQuery query pos first redacted =
      redacted ++ (bif first then [] else ['&']) ++ redactPart (query.drop pos) := by
  rw [redactQuery, if_pos within]
  split
  · rfl
  · rename_i next found
    rw [absent] at found
    cases found

/-- A round of the loop before the last. -/
theorem redactQuery_next {query : List Char} {pos next : Nat} (within : pos ≤ query.length)
    (found : find '&' query pos = some next) (first : Bool) (redacted : List Char) :
    redactQuery query pos first redacted =
      redactQuery query (next + 1) false (redacted ++ (bif first then [] else ['&'])
        ++ redactPart ((query.drop pos).take (next - pos))) := by
  rw [redactQuery, if_pos within]
  split
  · rename_i absent
    rw [absent] at found
    cases found
  · rename_i other same
    obtain rfl : other = next := Option.some.inj (same.symm.trans found)
    rfl

/-- What the loop writes: each part of the query, with the ampersands between them. -/
theorem redactQuery_eq (query : List Char) (pos : Nat) (first : Bool) (redacted : List Char)
    (within : pos ≤ query.length) :
    redactQuery query pos first redacted =
      redacted ++ (bif first then [] else ['&']) ++
        ['&'].intercalate (((query.drop pos).splitOn '&').map redactPart) := by
  induction pos, first, redacted using redactQuery.induct query with
  | case1 pos first redacted inside absent =>
    obtain ⟨-, clean⟩ | ⟨before, after, -, -, found⟩ := find_cases '&' query pos
    · rw [redactQuery_last inside absent, splitOn_eq_singleton clean, map_singleton,
        intercalate_singleton]
    · rw [absent] at found
      cases found
  | case2 pos first redacted inside next found ih =>
    obtain ⟨absent, -⟩ | ⟨before, after, clean, rest, same⟩ := find_cases '&' query pos
    · rw [absent] at found
      cases found
    · obtain rfl : next = pos + before.length := Option.some.inj (found.symm.trans same)
      have bounds := find_lt found
      have part : (query.drop pos).take (pos + before.length - pos) = before := by
        rw [Nat.add_sub_cancel_left, rest, take_left]
      have tail : query.drop (pos + before.length + 1) = after := by
        rw [Nat.add_assoc, ← drop_drop, rest, ← drop_drop, drop_left]
        rfl
      have more : (after.splitOn '&').map redactPart ≠ [] := by
        rw [Ne, map_eq_nil_iff]
        exact splitOn_ne_nil '&' after
      rw [redactQuery_next inside found, part]
      rw [part] at ih
      rw [ih (by omega), tail, rest, splitOn_append_cons_self_of_not_mem clean,
        map_cons, intercalate_cons_of_ne_nil more]
      simp only [cond_false, append_assoc]
  | case3 pos first redacted outside => exact absurd within outside

/-- The query is what stands between the question mark and the next hash. -/
theorem redactHttpTarget_paste {path query : List Char} (pathClean : '?' ∉ path)
    (queryClean : '#' ∉ query) (fragment : Option (List Char)) :
    redactHttpTarget (paste '?' path (some (paste '#' query fragment))) =
      paste '?' path (some (paste '#' (redactQuery query 0 true []) fragment)) := by
  have found : find '?' (paste '?' path (some (paste '#' query fragment))) 0 =
      some path.length := find_paste pathClean _
  have start : (paste '?' path (some (paste '#' query fragment))).take (path.length + 1) =
      path ++ ['?'] := by
    rw [paste, Option.elim_some, take_length_add_append]
    rfl
  have behind : (paste '?' path (some (paste '#' query fragment))).drop (path.length + 1) =
      paste '#' query fragment := by
    rw [paste, Option.elim_some, drop_length_add_append]
    rfl
  have hash : find '#' (paste '?' path (some (paste '#' query fragment))) (path.length + 1) =
      fragment.map fun _ => path.length + 1 + query.length := by
    rw [find_drop, behind, find_paste queryClean, Option.map_map]
    rfl
  have size : path.length + 1 + query.length - path.length - 1 = query.length := by omega
  rw [redactHttpTarget, found]
  dsimp only
  rw [start, behind, hash]
  cases fragment with
  | none =>
    have length : (paste '?' path (some (paste '#' query none))).length =
        path.length + 1 + query.length := by
      simp only [paste, Option.elim_some, Option.elim_none, append_nil,
        length_append, length_cons]
      omega
    rw [Option.map_none, Option.getD_none, length, size]
    simp [paste]
  | some fragment =>
    have suffix : (paste '?' path (some (paste '#' query (some fragment)))).drop
        (path.length + 1 + query.length) = '#' :: fragment := by
      rw [← drop_drop, behind, paste, drop_left]
      rfl
    rw [Option.map_some, Option.getD_some, size, Option.elim_some, suffix]
    simp [paste]

/-! ## The parts of a target -/

/-- A query parameter: what stands before the first equals sign of a part of the query, and what
stands behind it when there is one. -/
@[ext]
structure Parameter where
  key : List Char
  value : Option (List Char)
  keyClean : '=' ∉ key ∧ '&' ∉ key ∧ '#' ∉ key
  valueClean : ∀ text, value = some text → '&' ∉ text ∧ '#' ∉ text

namespace Parameter

def render (parameter : Parameter) : List Char := paste '=' parameter.key parameter.value

/-- A part of a query, as a parameter. -/
def parse (part : List Char) (clean : '&' ∉ part ∧ '#' ∉ part) : Parameter where
  key := (cut '=' part).1
  value := (cut '=' part).2
  keyClean := ⟨notMem_cut part, fun mem => clean.1 (mem_of_mem_cut mem),
    fun mem => clean.2 (mem_of_mem_cut mem)⟩
  valueClean := fun _ found => ⟨fun mem => clean.1 (mem_of_mem_rest found mem),
    fun mem => clean.2 (mem_of_mem_rest found mem)⟩

theorem render_clean (parameter : Parameter) :
    '&' ∉ parameter.render ∧ '#' ∉ parameter.render := by
  obtain ⟨key, value, ⟨equals, ampersand, hash⟩, valueClean⟩ := parameter
  cases value with
  | none => simp [render, paste, ampersand, hash]
  | some text =>
    obtain ⟨ampersand', hash'⟩ := valueClean text rfl
    simp [render, paste, ampersand, hash, ampersand', hash']

theorem render_parse (part : List Char) (clean : '&' ∉ part ∧ '#' ∉ part) :
    (parse part clean).render = part :=
  paste_cut part

theorem parse_render (parameter : Parameter) :
    parse parameter.render parameter.render_clean = parameter := by
  have pieces : cut '=' parameter.render = (parameter.key, parameter.value) :=
    cut_paste parameter.keyClean.1 parameter.value
  ext1
  · exact congrArg Prod.fst pieces
  · exact congrArg Prod.snd pieces

/-- The value of the parameter is not to be logged. -/
def Secret (parameter : Parameter) : Prop :=
  parameter.value.isSome = true ∧ shouldRedactQueryKey parameter.key = true

instance (parameter : Parameter) : Decidable parameter.Secret :=
  inferInstanceAs (Decidable (_ ∧ _))

/-- The parameter as it is logged. -/
def redacted (parameter : Parameter) : Parameter :=
  if parameter.Secret then
    { parameter with
      value := some "<redacted>".toList
      valueClean := by
        rintro text ⟨⟩
        decide }
  else parameter

/-- The loop replaces the value of a secret parameter and keeps every other one. -/
theorem redactPart_render (parameter : Parameter) :
    redactPart parameter.render = parameter.redacted.render := by
  obtain ⟨key, value, keyClean, valueClean⟩ := parameter
  have found : find '=' (paste '=' key value) 0 = value.map fun _ => key.length :=
    find_paste keyClean.1 value
  unfold redactPart redacted
  cases value with
  | none =>
    rw [render, found, if_neg fun secret => Bool.false_ne_true secret.1]
    rfl
  | some text =>
    have taken : (paste '=' key (some text)).take key.length = key := take_left
    rw [render, found]
    dsimp only [Option.map_some]
    rw [taken]
    by_cases secret : shouldRedactQueryKey key = true
    · rw [if_pos secret, if_pos ⟨rfl, secret⟩]
      rfl
    · rw [if_neg secret, if_neg fun both => secret both.2]
      rfl

theorem render_injective : Function.Injective render := by
  intro first second same
  have pieces : cut '=' first.render = cut '=' second.render := congrArg (cut '=') same
  unfold render at pieces
  rw [cut_paste first.keyClean.1, cut_paste second.keyClean.1] at pieces
  obtain ⟨key, value⟩ := Prod.mk.inj pieces
  exact Parameter.ext key value

@[simp] theorem redacted_key (parameter : Parameter) :
    parameter.redacted.key = parameter.key := by
  unfold redacted
  split
  · rfl
  · rfl

/-- What is logged does not depend on the value of a secret parameter. -/
theorem redacted_congr {first second : Parameter} (key : second.key = first.key)
    (secret : first.Secret) (secret' : second.Secret) : first.redacted = second.redacted := by
  rw [redacted, redacted, if_pos secret, if_pos secret']
  exact Parameter.ext key.symm rfl

theorem redacted_redacted (parameter : Parameter) :
    parameter.redacted.redacted = parameter.redacted := by
  by_cases secret : parameter.Secret
  · have kept : parameter.redacted.Secret := by
      refine ⟨?_, parameter.redacted_key ▸ secret.2⟩
      rw [redacted, if_pos secret]
      rfl
    exact redacted_congr parameter.redacted_key.symm kept secret
  · have same : parameter.redacted = parameter := if_neg secret
    rw [same, same]

end Parameter

/-- The text of a query. -/
def renderQuery (parameters : List Parameter) : List Char :=
  ['&'].intercalate (parameters.map Parameter.render)

theorem renderQuery_clean (parameters : List Parameter) : '#' ∉ renderQuery parameters := by
  refine notMem_intercalate (by decide) fun piece mem => ?_
  obtain ⟨parameter, -, rfl⟩ := mem_map.mp mem
  exact parameter.render_clean.2

/-- The parameters of a query; one without any text has one parameter. -/
def parseQuery (query : List Char) (clean : '#' ∉ query) : List Parameter :=
  (query.splitOn '&').pmap Parameter.parse fun _ mem =>
    ⟨fun within => (mem_of_mem_splitOn mem within).1 rfl,
      fun within => clean (mem_of_mem_splitOn mem within).2⟩

theorem parseQuery_ne_nil (query : List Char) (clean : '#' ∉ query) :
    parseQuery query clean ≠ [] := by
  rw [parseQuery, pmap_ne_nil_iff]
  exact splitOn_ne_nil '&' query

theorem map_render_parseQuery (query : List Char) (clean : '#' ∉ query) :
    (parseQuery query clean).map Parameter.render = query.splitOn '&' := by
  rw [parseQuery, map_pmap, pmap_eq_self]
  intro part mem
  exact Parameter.render_parse part _

theorem renderQuery_parseQuery (query : List Char) (clean : '#' ∉ query) :
    renderQuery (parseQuery query clean) = query := by
  rw [renderQuery, map_render_parseQuery]
  exact intercalate_splitOn '&'

theorem splitOn_renderQuery {parameters : List Parameter} (some : parameters ≠ []) :
    (renderQuery parameters).splitOn '&' = parameters.map Parameter.render := by
  refine splitOn_intercalate '&' ?_ (map_eq_nil_iff.not.mpr some)
  intro piece mem
  obtain ⟨parameter, -, rfl⟩ := mem_map.mp mem
  exact parameter.render_clean.1

theorem redactQuery_renderQuery {parameters : List Parameter} (some : parameters ≠ []) :
    redactQuery (renderQuery parameters) 0 true [] =
      renderQuery (parameters.map Parameter.redacted) := by
  have parts : (parameters.map Parameter.render).map redactPart =
      (parameters.map Parameter.redacted).map Parameter.render := by
    rw [map_map, map_map]
    exact map_congr_left fun parameter _ => parameter.redactPart_render
  rw [redactQuery_eq _ 0 true [] (Nat.zero_le _), drop_zero, splitOn_renderQuery some, parts]
  rfl

/-- An HTTP target: the path up to the first question mark, the parameters of the query, and the
fragment from the next hash on. A target without a question mark is its path. -/
@[ext]
structure HttpTarget where
  path : List Char
  parameters : List Parameter
  fragment : Option (List Char)
  pathClean : '?' ∉ path
  bare : parameters = [] → fragment = none

namespace HttpTarget

/-- What follows the question mark, if there is one. -/
def renderRest (parameters : List Parameter) (fragment : Option (List Char)) :
    Option (List Char) :=
  if parameters = [] then none else some (paste '#' (renderQuery parameters) fragment)

def render (target : HttpTarget) : List Char :=
  paste '?' target.path (renderRest target.parameters target.fragment)

/-- The parameters of what follows the question mark. -/
def parseRest (rest : Option (List Char)) : List Parameter :=
  rest.elim [] fun rest => parseQuery (cut '#' rest).1 (notMem_cut rest)

/-- The parts of a text. -/
def parse (text : List Char) : HttpTarget where
  path := (cut '?' text).1
  parameters := parseRest (cut '?' text).2
  fragment := (cut '?' text).2.bind fun rest => (cut '#' rest).2
  pathClean := notMem_cut text
  bare := by
    cases (cut '?' text).2 with
    | none => exact fun _ => rfl
    | some rest => exact fun none => absurd none (parseQuery_ne_nil _ (notMem_cut rest))

theorem renderRest_parseRest (rest : Option (List Char)) :
    renderRest (parseRest rest) (rest.bind fun rest => (cut '#' rest).2) = rest := by
  cases rest with
  | none => rfl
  | some rest =>
    rw [parseRest, renderRest, Option.elim_some, Option.bind_some,
      if_neg (parseQuery_ne_nil _ (notMem_cut rest)), renderQuery_parseQuery, paste_cut]

/-- Every text is the target it is parsed to. -/
theorem render_parse (text : List Char) : (parse text).render = text := by
  have whole : renderRest (parse text).parameters (parse text).fragment = (cut '?' text).2 :=
    renderRest_parseRest (cut '?' text).2
  rw [render, whole]
  exact paste_cut text

theorem render_injective : Function.Injective render := by
  intro first second same
  have pieces : cut '?' first.render = cut '?' second.render := congrArg (cut '?') same
  unfold render at pieces
  rw [cut_paste first.pathClean, cut_paste second.pathClean] at pieces
  obtain ⟨path, rests⟩ := Prod.mk.inj pieces
  unfold renderRest at rests
  by_cases none : first.parameters = []
  · rw [if_pos none] at rests
    have none' : second.parameters = [] := by
      by_contra some
      rw [if_neg some] at rests
      cases rests
    exact HttpTarget.ext path (none.trans none'.symm)
      ((first.bare none).trans (second.bare none').symm)
  · rw [if_neg none] at rests
    have some : second.parameters ≠ [] := by
      intro none'
      rw [if_pos none'] at rests
      cases rests
    rw [if_neg some] at rests
    have queries := congrArg (cut '#') (Option.some.inj rests)
    rw [cut_paste (renderQuery_clean _), cut_paste (renderQuery_clean _)] at queries
    obtain ⟨query, fragment⟩ := Prod.mk.inj queries
    have texts := congrArg (splitOn '&') query
    rw [splitOn_renderQuery none, splitOn_renderQuery some] at texts
    exact HttpTarget.ext path (map_injective_iff.mpr Parameter.render_injective texts) fragment

/-- A target is parsed to itself. -/
theorem parse_render (target : HttpTarget) : parse target.render = target :=
  render_injective (render_parse target.render)

/-- The target as it is logged. -/
def redacted (target : HttpTarget) : HttpTarget :=
  { target with
    parameters := target.parameters.map Parameter.redacted
    bare := fun none => target.bare (List.map_eq_nil_iff.mp none) }

@[simp] theorem redacted_parameters (target : HttpTarget) :
    target.redacted.parameters = target.parameters.map Parameter.redacted := rfl

theorem redacted_redacted (target : HttpTarget) : target.redacted.redacted = target.redacted := by
  refine HttpTarget.ext rfl ?_ rfl
  rw [redacted_parameters, redacted_parameters, map_map]
  exact map_congr_left fun parameter _ => parameter.redacted_redacted

/-- **What the source does.** It logs the target with its secret parameters redacted. -/
theorem redactHttpTarget_render (target : HttpTarget) :
    redactHttpTarget target.render = target.redacted.render := by
  obtain ⟨path, parameters, fragment, pathClean, bare⟩ := target
  by_cases none : parameters = []
  · subst none
    have found : find '?' (paste '?' path none) 0 = none := find_paste pathClean none
    rw [redactHttpTarget, render, renderRest, if_pos rfl, found]
    rfl
  · have rest : renderRest parameters fragment =
        some (paste '#' (renderQuery parameters) fragment) := if_neg none
    have logged : renderRest (parameters.map Parameter.redacted) fragment =
        some (paste '#' (renderQuery (parameters.map Parameter.redacted)) fragment) :=
      if_neg (map_eq_nil_iff.not.mpr none)
    rw [render, rest, redactHttpTarget_paste pathClean (renderQuery_clean parameters),
      redactQuery_renderQuery none, render, redacted, logged]

/-- In terms of the parts of a text. -/
theorem parse_redactHttpTarget (text : List Char) :
    parse (redactHttpTarget text) = (parse text).redacted := by
  have same : redactHttpTarget text = (parse text).redacted.render := by
    rw [← redactHttpTarget_render, render_parse]
  rw [same, parse_render]

end HttpTarget

/-! ## What the log does not tell -/

/-- The same parameter, or two values of one secret parameter. -/
def Parameter.AgreesUpToSecret (first second : Parameter) : Prop :=
  first = second ∨ first.key = second.key ∧ first.Secret ∧ second.Secret

theorem Parameter.AgreesUpToSecret.redacted {first second : Parameter}
    (agrees : first.AgreesUpToSecret second) : first.redacted = second.redacted := by
  rcases agrees with rfl | ⟨key, secret, secret'⟩
  · rfl
  · exact redacted_congr key.symm secret secret'

/-- Targets that differ only in the values of secret parameters. -/
structure HttpTarget.AgreesUpToSecrets (first second : HttpTarget) : Prop where
  path : first.path = second.path
  fragment : first.fragment = second.fragment
  parameters : List.Forall₂ Parameter.AgreesUpToSecret first.parameters second.parameters

theorem map_redacted_congr {first second : List Parameter}
    (agree : List.Forall₂ Parameter.AgreesUpToSecret first second) :
    first.map Parameter.redacted = second.map Parameter.redacted := by
  induction agree with
  | nil => rfl
  | cons agrees _ ih => rw [map_cons, map_cons, agrees.redacted, ih]

theorem HttpTarget.AgreesUpToSecrets.redacted {first second : HttpTarget}
    (agrees : first.AgreesUpToSecrets second) : first.redacted = second.redacted :=
  HttpTarget.ext agrees.path (map_redacted_congr agrees.parameters) agrees.fragment

/-- What a parameter keeps in the log: its key, and everything when its value is not secret. -/
def Parameter.KeptAs (old new : Parameter) : Prop :=
  new.key = old.key ∧ (¬old.Secret → new = old)

theorem Parameter.keptAs_redacted (parameter : Parameter) :
    parameter.KeptAs parameter.redacted :=
  ⟨parameter.redacted_key, fun plain => if_neg plain⟩

/-- Targets that differ only in the values of secret parameters are logged alike; what is logged
of a target has its path, its fragment and its parameters in their order, each of them unchanged
but for the value of a secret one; and it is logged as it is. -/
theorem redactHttpTarget_confines :
    (∀ first second : List Char,
      (HttpTarget.parse first).AgreesUpToSecrets (HttpTarget.parse second) →
        redactHttpTarget first = redactHttpTarget second) ∧
    (∀ text : List Char,
      (HttpTarget.parse (redactHttpTarget text)).path = (HttpTarget.parse text).path ∧
      (HttpTarget.parse (redactHttpTarget text)).fragment = (HttpTarget.parse text).fragment ∧
      List.Forall₂ Parameter.KeptAs (HttpTarget.parse text).parameters
        (HttpTarget.parse (redactHttpTarget text)).parameters) ∧
    ∀ text : List Char, redactHttpTarget (redactHttpTarget text) = redactHttpTarget text := by
  refine ⟨fun first second agrees => ?_, fun text => ?_, fun text => ?_⟩
  · rw [← HttpTarget.render_parse (redactHttpTarget first), HttpTarget.parse_redactHttpTarget,
      agrees.redacted, ← HttpTarget.parse_redactHttpTarget, HttpTarget.render_parse]
  · rw [HttpTarget.parse_redactHttpTarget]
    refine ⟨rfl, rfl, ?_⟩
    rw [HttpTarget.redacted_parameters, forall₂_map_right_iff, forall₂_same]
    exact fun parameter _ => parameter.keptAs_redacted
  · rw [← HttpTarget.render_parse (redactHttpTarget (redactHttpTarget text)),
      HttpTarget.parse_redactHttpTarget, HttpTarget.parse_redactHttpTarget,
      HttpTarget.redacted_redacted, ← HttpTarget.parse_redactHttpTarget, HttpTarget.render_parse]

/-- `/p?Token=…&x#f`. -/
def tokenTarget (token : List Char) (clean : '&' ∉ token ∧ '#' ∉ token) : HttpTarget where
  path := "/p".toList
  parameters :=
    [{ key := "Token".toList, value := some token, keyClean := by decide
       valueClean := by
        rintro text ⟨⟩
        exact clean },
     { key := "x".toList, value := none, keyClean := by decide, valueClean := nofun }]
  fragment := some "f".toList
  pathClean := by decide
  bare := nofun

theorem tokenTarget_redacted :
    redactHttpTarget (tokenTarget "a".toList (by decide)).render =
      redactHttpTarget (tokenTarget "b".toList (by decide)).render := by
  refine redactHttpTarget_confines.1 _ _ ?_
  rw [HttpTarget.parse_render, HttpTarget.parse_render]
  have secret : shouldRedactQueryKey "Token".toList = true := by decide
  exact ⟨rfl, rfl, .cons (.inr ⟨rfl, ⟨rfl, secret⟩, rfl, secret⟩) (.cons (.inl rfl) .nil)⟩

/-- The fragment of a target as a URI has it: what follows the first hash. -/
def uriFragment (text : List Char) : Option (List Char) := (cut '#' text).2

/-- A question mark in the fragment of a URI begins a query for the log. -/
theorem redactHttpTarget_uriFragment :
    uriFragment (redactHttpTarget "/p#f?token=a".toList) ≠ uriFragment "/p#f?token=a".toList := by
  have parts : "/p#f?token=a".toList =
      paste '?' "/p#f".toList (some (paste '#' "token=a".toList none)) := rfl
  have secret : shouldRedactQueryKey "token".toList = true := by decide
  have part : redactPart "token=a".toList = "token=<redacted>".toList := by
    have found : find '=' "token=a".toList 0 = some 5 := by decide
    have key : "token=a".toList.take 5 = "token".toList := by decide
    rw [redactPart, found]
    dsimp only
    rw [key, if_pos secret]
    decide
  have query : redactQuery "token=a".toList 0 true [] = "token=<redacted>".toList := by
    rw [redactQuery_last (Nat.zero_le _) (by decide), drop_zero, part]
    rfl
  rw [parts, redactHttpTarget_paste (by decide) (by decide), query]
  decide

end Rstream.Webtty.Server
