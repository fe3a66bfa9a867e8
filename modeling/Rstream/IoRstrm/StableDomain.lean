import Mathlib.Data.List.DropRight
import Mathlib.Data.List.OfFn
import Rstream.Io.Upgrade
import Rstream.Library.Queries

/-!
# Stable domains

A tunnel that is published without a name gets one below the name of its server: the first label of
the host, with a random slug before it, and behind `t` the rest of the host. The host is split at its
dots, the rest is joined again, and what was joined is split once more for its labels to be checked.

Joining writes no dot while it has written nothing, so empty labels behind the first one are lost
before they could be checked. A host with two dots behind its first label is given the domain of
another host, and for every other host the rest is that of the host (`generateStableDomain_spec`).
-/

namespace Rstream.IoRstrm

open List
open Io.Upgrade (bytesOf)
open Library

/-! ## The source -/

def joinStableDomainLabels (labels : List (List UInt8)) (offset : Nat) : List UInt8 :=
  (labels.drop offset).foldl
    (fun result label => (if result = [] then result else result ++ [46]) ++ label) []

def splitStableDomainLabels (host : List UInt8) : List (List UInt8) := getlines 46 host

def isStableDomainLabel (label : List UInt8) : Bool :=
  if label = [] ∨ label.length > 63 ∨ label.head? = some 45 ∨ label.getLast? = some 45 then false
  else label.all fun byte => (97 ≤ byte && byte ≤ 122) || (48 ≤ byte && byte ≤ 57) || byte == 45

/-- A hexadecimal digit in lower case. -/
def slugDigit (value : UInt8) : UInt8 := if value < 10 then 48 + value else 87 + value

/-- `random_stable_domain_slug`, for the numbers that are drawn. -/
def randomStableDomainSlug (drawn : Fin 4 → UInt8) : List UInt8 :=
  114 :: (List.ofFn drawn).flatMap fun byte : UInt8 =>
    [slugDigit (byte >>> 4), slugDigit (byte &&& 15)]

def toLower (byte : UInt8) : UInt8 := if 65 ≤ byte ∧ byte ≤ 90 then byte + 32 else byte

/-- The host in lower case and without the dots at its end. -/
def bareHost (host : List UInt8) : List UInt8 := (host.map toLower).rdropWhile (· == 46)

/-- `generate_stable_domain`. `isAddress` tells whether `boost::asio::ip::make_address` succeeds. -/
def generateStableDomain (isAddress : List UInt8 → Bool) (drawn : Fin 4 → UInt8)
    (serverHost : List UInt8) : Option (List UInt8) :=
  let host := bareHost serverHost
  if isAddress host then none
  else if host = [] ∨ 58 ∈ host then none
  else
    let labels := splitStableDomainLabels host
    match labels with
    | projectEndpoint :: _ :: _ =>
      let clusterDomain := joinStableDomainLabels labels 1
      if ¬isStableDomainLabel projectEndpoint then none
      else if ¬(splitStableDomainLabels clusterDomain).all isStableDomainLabel then none
      else if projectEndpoint.length ≥ 63 then none
      else
        let maxSlugLen := 63 - projectEndpoint.length - 1
        if maxSlugLen < 9 then none
        else some ((randomStableDomainSlug drawn).take maxSlugLen ++ 45 :: projectEndpoint ++
          bytesOf ".t." ++ clusterDomain)
    | _ => none

/-! ## What a stable domain is -/

/-- A label of a domain. -/
structure ValidLabel (label : List UInt8) : Prop where
  nonEmpty : label ≠ []
  short : label.length ≤ 63
  letters : ∀ byte ∈ label, (97 ≤ byte ∧ byte ≤ 122) ∨ (48 ≤ byte ∧ byte ≤ 57) ∨ byte = 45
  starts : label.head? ≠ some 45
  ends : label.getLast? ≠ some 45

/-- The domain is made of the slug, the first label of the host and the rest of the host. -/
def StableDomain (drawn : Fin 4 → UInt8) (serverHost domain : List UInt8) : Prop :=
  ∃ project rest, bareHost serverHost = project ++ 46 :: rest ∧ project ≠ [] ∧ 46 ∉ project ∧
    domain = randomStableDomainSlug drawn ++ 45 :: project ++ bytesOf ".t." ++ rest ∧
    ∀ label ∈ domain.splitOn 46, ValidLabel label

/-- The host has two dots behind its first label. -/
def DoubleDot (host : List UInt8) : Prop :=
  ∃ project rest, host = project ++ 46 :: 46 :: rest ∧ 46 ∉ project

/-- A number of a dotted quad. -/
def octetText (octet : Fin 256) : List UInt8 := bytesOf (toString octet.val)

/-- The text of an IPv4 address. -/
def Ipv4Literal (text : List UInt8) : Prop :=
  ∃ octets : Fin 4 → Fin 256, text = [46].intercalate ((List.ofFn octets).map octetText)

/-- The text of an IP address; an IPv6 address has a colon, with brackets or without. -/
def IpLiteral (text : List UInt8) : Prop := Ipv4Literal text ∨ 58 ∈ text

/-! ## Labels -/

theorem isStableDomainLabel_iff (label : List UInt8) :
    isStableDomainLabel label = true ↔ ValidLabel label := by
  rw [isStableDomainLabel]
  split
  · rename_i refused
    refine iff_of_false Bool.false_ne_true fun valid => ?_
    rcases refused with empty | long | hyphen | hyphen
    · exact valid.nonEmpty empty
    · exact absurd valid.short (Nat.not_le.mpr long)
    · exact valid.starts hyphen
    · exact valid.ends hyphen
  · rename_i accepted
    simp only [not_or, Nat.not_lt] at accepted
    obtain ⟨nonEmpty, short, starts, ends⟩ := accepted
    simp only [all_eq_true, Bool.or_eq_true, Bool.and_eq_true, decide_eq_true_eq,
      beq_iff_eq, or_assoc]
    exact ⟨fun letters => ⟨nonEmpty, short, letters, starts, ends⟩, fun valid => valid.letters⟩

theorem ValidLabel.notMem_dot {label : List UInt8} (valid : ValidLabel label) : 46 ∉ label := by
  intro mem
  rcases valid.letters 46 mem with ⟨letter, -⟩ | ⟨digit, -⟩ | hyphen
  · exact absurd letter (by decide)
  · exact absurd digit (by decide)
  · exact absurd hyphen (by decide)

@[simp] theorem length_randomStableDomainSlug (drawn : Fin 4 → UInt8) :
    (randomStableDomainSlug drawn).length = 9 := by
  simp [randomStableDomainSlug, ofFn_succ]

theorem slugDigit_letter (value : UInt8) (small : value < 16) :
    (97 ≤ slugDigit value ∧ slugDigit value ≤ 122) ∨
      (48 ≤ slugDigit value ∧ slugDigit value ≤ 57) := by
  have table : ∀ value : Fin 16,
      (97 ≤ slugDigit (UInt8.ofNat value) ∧ slugDigit (UInt8.ofNat value) ≤ 122) ∨
        (48 ≤ slugDigit (UInt8.ofNat value) ∧ slugDigit (UInt8.ofNat value) ≤ 57) := by
    decide
  have found := table ⟨value.toNat, UInt8.lt_iff_toNat_lt.mp small⟩
  rwa [UInt8.ofNat_toNat] at found

theorem slug_letters (drawn : Fin 4 → UInt8) : ∀ byte ∈ randomStableDomainSlug drawn,
    (97 ≤ byte ∧ byte ≤ 122) ∨ (48 ≤ byte ∧ byte ≤ 57) := by
  intro byte mem
  obtain rfl | mem := mem_cons.mp mem
  · decide
  · obtain ⟨value, -, mem⟩ := mem_flatMap.mp mem
    obtain ⟨high, low, -⟩ := Library.nibbles value
    simp only [mem_cons, not_mem_nil, or_false] at mem
    rcases mem with rfl | rfl
    · exact slugDigit_letter _ high
    · exact slugDigit_letter _ low

theorem validLabel_slug {drawn : Fin 4 → UInt8} {project : List UInt8} (valid : ValidLabel project)
    (short : project.length ≤ 53) : ValidLabel (randomStableDomainSlug drawn ++ 45 :: project) where
  nonEmpty := append_ne_nil_of_right_ne_nil _ (cons_ne_nil _ _)
  short := by
    rw [length_append, length_randomStableDomainSlug, length_cons]
    omega
  letters byte mem := by
    rcases mem_append.mp mem with inSlug | later
    · exact (slug_letters drawn byte inSlug).elim .inl fun digit => .inr (.inl digit)
    · rcases mem_cons.mp later with hyphen | inProject
      · exact .inr (.inr hyphen)
      · exact valid.letters byte inProject
  starts := by
    rw [randomStableDomainSlug, cons_append, head?_cons]
    decide
  ends := by
    have ends := valid.ends
    rw [getLast?_eq_some_getLast valid.nonEmpty] at ends
    rwa [getLast?_append, getLast?_cons,
      getLast?_eq_some_getLast valid.nonEmpty, Option.some_or]

/-! ## Splitting and joining -/

theorem foldl_join {result : List UInt8} (some_ : result ≠ []) (labels : List (List UInt8)) :
    labels.foldl (fun result label => (if result = [] then result else result ++ [46]) ++ label)
      result = result ++ labels.flatMap (46 :: ·) := by
  induction labels generalizing result with
  | nil => exact (append_nil result).symm
  | cons label labels ih =>
    rw [foldl_cons, if_neg some_, ih (by simp), flatMap_cons]
    simp only [append_assoc, cons_append, nil_append]

theorem joinStableDomainLabels_cons (project : List UInt8) (labels : List (List UInt8)) :
    joinStableDomainLabels (project :: labels) 1 =
      [46].intercalate (labels.dropWhile (·.isEmpty)) := by
  rw [joinStableDomainLabels, drop_one, tail_cons]
  induction labels with
  | nil => rfl
  | cons label labels ih =>
    rw [foldl_cons, if_pos rfl, nil_append, dropWhile_cons]
    split
    · rename_i empty
      rw [isEmpty_iff.mp empty]
      exact ih
    · rename_i some_
      rw [foldl_join (fun empty => some_ (isEmpty_iff.mpr empty)), intercalate_cons]

/-- The host without the dots at its end does not end with a dot. -/
theorem getLast?_bareHost (host : List UInt8) : (bareHost host).getLast? ≠ some 46 := by
  intro last
  have some_ : bareHost host ≠ [] := fun empty => by simp [empty] at last
  have other := rdropWhile_last_not (· == 46) (host.map toLower) some_
  rw [getLast?_eq_some_getLast some_, Option.some.injEq] at last
  exact other (beq_iff_eq.mpr last)

theorem splitStableDomainLabels_bareHost {host : List UInt8} (some_ : bareHost host ≠ []) :
    splitStableDomainLabels (bareHost host) = (bareHost host).splitOn 46 :=
  getlines_of_last (getLast?_splitOn some_ (getLast?_bareHost host))

/-- A text that begins with a dot has an empty label, which reading lines does not leave out. -/
theorem nil_mem_getlines (text : List UInt8) : [] ∈ getlines (46 : UInt8) (46 :: text) := by
  have pieces : (46 :: text).splitOn (46 : UInt8) = [] :: text.splitOn 46 := by
    rw [splitOn_cons_eq_if_modifyHead, if_pos (beq_self_eq_true _)]
  obtain ⟨first, rest, split_⟩ := exists_cons_of_ne_nil (splitOn_ne_nil 46 text)
  rw [getlines, pieces, split_]
  split
  · rw [dropLast_cons_of_ne_nil (cons_ne_nil first rest)]
    exact mem_cons_self
  · exact mem_cons_self

section Accepted

variable {isAddress : List UInt8 → Bool} {drawn : Fin 4 → UInt8} {host domain : List UInt8}

theorem exists_of_generateStableDomain
    (returned : generateStableDomain isAddress drawn host = some domain) :
    ∃ project second more, (bareHost host).splitOn 46 = project :: second :: more ∧
      ValidLabel project ∧ project.length ≤ 53 ∧
      (∀ label ∈ getlines 46 ([46].intercalate ((second :: more).dropWhile (·.isEmpty))),
        ValidLabel label) ∧
      domain = randomStableDomainSlug drawn ++ 45 :: project ++ bytesOf ".t." ++
        [46].intercalate ((second :: more).dropWhile (·.isEmpty)) := by
  unfold generateStableDomain at returned
  dsimp only at returned
  split at returned
  · cases returned
  · split at returned
    · cases returned
    · rename_i _ plain
      rw [splitStableDomainLabels_bareHost (not_or.mp plain).1] at returned
      split at returned
      · rename_i project second more pieces
        rw [pieces, joinStableDomainLabels_cons] at returned
        split at returned
        · cases returned
        · rename_i projectLabel
          split at returned
          · cases returned
          · rename_i clusterLabels
            split at returned
            · cases returned
            · split at returned
              · cases returned
              · rename_i short enough
                rw [not_not, isStableDomainLabel_iff] at projectLabel
                rw [not_not, all_eq_true] at clusterLabels
                have whole : (randomStableDomainSlug drawn).take (63 - project.length - 1) =
                    randomStableDomainSlug drawn := by
                  rw [take_eq_self_iff, length_randomStableDomainSlug]
                  omega
                rw [whole, Option.some.injEq] at returned
                exact ⟨project, second, more, pieces, projectLabel, by omega,
                  fun label mem => (isStableDomainLabel_iff label).mp (clusterLabels label mem),
                  returned.symm⟩
      · cases returned

variable {project : List UInt8} {more : List (List UInt8)}

/-- The first label of the host and the rest of it. -/
theorem eq_of_split {second : List UInt8} {host : List UInt8}
    (pieces : host.splitOn 46 = project :: second :: more) :
    host = project ++ 46 :: [46].intercalate (second :: more) ∧ 46 ∉ project := by
  have joined : [46].intercalate (host.splitOn 46) = host := intercalate_splitOn 46
  have apart : 46 ∉ project := fun mem =>
    (mem_of_mem_splitOn (pieces ▸ mem_cons_self) mem).1 rfl
  rw [pieces, intercalate_cons, flatMap_cons, cons_append, ← intercalate_cons] at joined
  exact ⟨joined.symm, apart⟩

/-- A host is cut in one way. -/
theorem cut_unique {project' rest rest' : List UInt8} (apart : 46 ∉ project)
    (apart' : 46 ∉ project') (same : project ++ 46 :: rest = project' ++ 46 :: rest') :
    project = project' ∧ rest = rest' := by
  have cuts := congrArg (cut 46) same
  have first := cut_paste apart (some rest)
  have second := cut_paste apart' (some rest')
  rw [paste, Option.elim_some] at first second
  rw [first, second, Prod.mk.injEq, Option.some.injEq] at cuts
  exact cuts

theorem doubleDot_of_empty {host : List UInt8} (ends : host.getLast? ≠ some 46)
    (pieces : host.splitOn 46 = project :: [] :: more) : DoubleDot host := by
  obtain ⟨text, apart⟩ := eq_of_split pieces
  cases more with
  | nil =>
    rw [text, intercalate_singleton] at ends
    simp at ends
  | cons next more =>
    rw [intercalate_cons, flatMap_cons, nil_append, cons_append] at text
    exact ⟨project, _, text, apart⟩

theorem validLabels_of_generateStableDomain {second : List UInt8}
    (pieces : (bareHost host).splitOn 46 = project :: second :: more) (named : ValidLabel project)
    (short : project.length ≤ 53)
    (checked : ∀ label ∈ getlines 46 ([46].intercalate (second :: more)), ValidLabel label)
    (value : domain = randomStableDomainSlug drawn ++ 45 :: project ++ bytesOf ".t." ++
      [46].intercalate (second :: more)) : ∀ label ∈ domain.splitOn 46, ValidLabel label := by
  have apart : ∀ label ∈ second :: more, 46 ∉ label := by
    intro label mem dot
    exact (mem_of_mem_splitOn (pieces ▸ mem_cons_of_mem project mem) dot).1 rfl
  have labels : ([46].intercalate (second :: more)).splitOn 46 = second :: more :=
    splitOn_intercalate 46 apart (cons_ne_nil second more)
  have nonEmpty : bareHost host ≠ [] := by
    intro empty
    rw [empty, splitOn_nil] at pieces
    cases pieces
  have last := getLast?_splitOn nonEmpty (getLast?_bareHost host)
  rw [pieces, getLast?_cons_cons] at last
  rw [getlines_of_last (labels.symm ▸ last), labels] at checked
  have slugLabel : 46 ∉ randomStableDomainSlug drawn ++ 45 :: project :=
    (validLabel_slug named short).notMem_dot
  have text : domain = (randomStableDomainSlug drawn ++ 45 :: project) ++
      46 :: ([116] ++ 46 :: [46].intercalate (second :: more)) := by
    rw [value, append_assoc _ (bytesOf ".t.")]
    rfl
  rw [text, splitOn_append_cons_self, splitOn_append_cons_self, labels,
    splitOn_eq_singleton slugLabel]
  intro label mem
  rcases mem_cons.mp mem with rfl | mem
  · exact validLabel_slug named short
  · rcases mem_cons.mp mem with rfl | mem
    · exact (isStableDomainLabel_iff _).mp (by decide)
    · exact checked label mem

/-- **A domain keeps the rest of the host exactly when no dot follows the first one.** -/
theorem stableDomain_iff (returned : generateStableDomain isAddress drawn host = some domain) :
    StableDomain drawn host domain ↔ ¬DoubleDot (bareHost host) := by
  obtain ⟨project, second, more, pieces, named, short, checked, value⟩ :=
    exists_of_generateStableDomain returned
  obtain ⟨text, apart⟩ := eq_of_split pieces
  constructor
  · rintro ⟨project', rest, text', -, apart', value', -⟩ ⟨front, tail, doubled, apartFront⟩
    obtain ⟨rfl, rfl⟩ := cut_unique apartFront apart' (doubled.symm.trans text')
    obtain ⟨rfl, -⟩ := cut_unique apartFront apart (doubled.symm.trans text)
    rw [value'] at value
    rw [← append_cancel_left value] at checked
    exact (checked [] (nil_mem_getlines tail)).nonEmpty rfl
  · intro single
    have some_ : second ≠ [] := by
      rintro rfl
      exact single (doubleDot_of_empty (getLast?_bareHost host) pieces)
    have kept : (second :: more).dropWhile (·.isEmpty) = second :: more := by
      rw [List.dropWhile_cons_of_neg (by rwa [List.isEmpty_iff])]
    rw [kept] at checked value
    exact ⟨project, _, text, named.nonEmpty, apart, value,
      validLabels_of_generateStableDomain pieces named short checked value⟩

end Accepted

/-! ## Hosts without a stable domain -/

section Refused

variable {isAddress : List UInt8 → Bool} {drawn : Fin 4 → UInt8} {host : List UInt8}

theorem generateStableDomain_of_address (address : isAddress (bareHost host) = true) :
    generateStableDomain isAddress drawn host = none := if_pos address

theorem generateStableDomain_of_colon (colon : 58 ∈ bareHost host) :
    generateStableDomain isAddress drawn host = none := by
  unfold generateStableDomain
  dsimp only
  rw [if_pos (Or.inr colon), ite_self]

theorem generateStableDomain_of_short (short : ((bareHost host).splitOn 46).length < 2) :
    generateStableDomain isAddress drawn host = none := by
  cases returned : generateStableDomain isAddress drawn host with
  | none => rfl
  | some domain =>
    obtain ⟨_, _, _, pieces, -⟩ := exists_of_generateStableDomain returned
    rw [pieces, length_cons, length_cons] at short
    omega

/-- Only dots are left out of a host. -/
theorem mem_bareHost {byte : UInt8} (mem : byte ∈ host.map toLower) (other : byte ≠ 46) :
    byte ∈ bareHost host := by
  rw [bareHost, rdropWhile, mem_reverse]
  rw [← mem_reverse, ← takeWhile_append_dropWhile (p := (· == 46))
    (l := (host.map toLower).reverse), mem_append] at mem
  refine mem.resolve_left fun dots => ?_
  have dot := mem_takeWhile_imp dots
  exact other (beq_iff_eq.mp dot)

theorem octetText_digits (octet : Fin 256) :
    octetText octet ≠ [] ∧ ∀ byte ∈ octetText octet, 48 ≤ byte ∧ byte ≤ 57 := by
  have text : octetText octet = (Nat.toDigits 10 octet.val).map fun c => UInt8.ofNat c.toNat := by
    rw [octetText, bytesOf, Nat.toString_eq_repr, Nat.toList_repr]
  rw [text]
  refine ⟨fun empty => Nat.toDigits_ne_nil (map_eq_nil_iff.mp empty), fun byte mem => ?_⟩
  obtain ⟨digit, written, rfl⟩ := mem_map.mp mem
  have decimal := Nat.isDigit_of_mem_toDigits (by decide) (by decide) written
  rw [Char.isDigit, Bool.and_eq_true, decide_eq_true_eq, decide_eq_true_eq] at decimal
  have least : 48 ≤ digit.toNat := decimal.1
  have greatest : digit.toNat ≤ 57 := decimal.2
  rw [UInt8.le_iff_toNat_le, UInt8.le_iff_toNat_le,
    UInt8.toNat_ofNat_of_lt' (greatest.trans_lt (by decide))]
  exact ⟨least, greatest⟩

theorem ipv4Literal_text (octets : Fin 4 → Fin 256) :
    [46].intercalate ((ofFn octets).map octetText) =
      (octetText (octets 0) ++ 46 :: octetText (octets 1) ++ 46 :: octetText (octets 2) ++ [46]) ++
        octetText (octets 3) := by
  simp [ofFn_succ]

/-- A dotted quad is what is left of it. -/
theorem bareHost_of_ipv4Literal (literal : Ipv4Literal host) : bareHost host = host := by
  obtain ⟨octets, rfl⟩ := literal
  have small : ∀ octet : Fin 256, ∀ byte ∈ octetText octet, byte ≤ 57 := fun octet byte mem =>
    ((octetText_digits octet).2 byte mem).2
  rw [ipv4Literal_text]
  have bytes : ∀ byte ∈ (octetText (octets 0) ++ 46 :: octetText (octets 1) ++
      46 :: octetText (octets 2) ++ [46]) ++ octetText (octets 3), toLower byte = byte := by
    have lower : ∀ byte : UInt8, byte ≤ 57 → toLower byte = byte := fun byte digit =>
      if_neg fun capital => absurd (UInt8.le_trans capital.1 digit) (by decide)
    have dot : toLower 46 = 46 := rfl
    simp only [forall_mem_append, forall_mem_cons, not_mem_nil, dot]
    simp only [IsEmpty.forall_iff, implies_true, and_true, true_and]
    exact ⟨⟨⟨fun byte mem => lower byte (small _ byte mem), fun byte mem =>
      lower byte (small _ byte mem)⟩, fun byte mem => lower byte (small _ byte mem)⟩,
      fun byte mem => lower byte (small _ byte mem)⟩
  rw [bareHost, map_congr_left bytes, map_id', rdropWhile_eq_self_iff]
  intro some_
  obtain ⟨last, digits⟩ := octetText_digits (octets 3)
  rw [getLast_append_of_right_ne_nil _ _ last, beq_iff_eq]
  intro dot
  exact absurd (dot ▸ (digits _ (getLast_mem last)).1) (by decide)

/-- A text with a colon keeps it. -/
theorem colon_mem_bareHost (colon : 58 ∈ host) : 58 ∈ bareHost host :=
  mem_bareHost (mem_map.mpr ⟨58, colon, rfl⟩) (by decide)

end Refused

/-- **A domain that is generated keeps the rest of the host exactly when the host has not two dots
behind its first label; the text of an address and a host with one label have none.** What is relied
on of `make_address` is that it accepts dotted quads. -/
theorem generateStableDomain_spec (isAddress : List UInt8 → Bool) (drawn : Fin 4 → UInt8)
    (documented : ∀ text, Ipv4Literal text → isAddress text = true) :
    (∀ host domain, generateStableDomain isAddress drawn host = some domain →
      (StableDomain drawn host domain ↔ ¬DoubleDot (bareHost host))) ∧
    ∀ host, IpLiteral host ∨ ((bareHost host).splitOn 46).length < 2 →
      generateStableDomain isAddress drawn host = none := by
  refine ⟨fun host domain returned => stableDomain_iff returned, fun host refused => ?_⟩
  rcases refused with (dotted | colon) | short
  · refine generateStableDomain_of_address ?_
    rw [bareHost_of_ipv4Literal dotted]
    exact documented host dotted
  · exact generateStableDomain_of_colon (colon_mem_bareHost colon)
  · exact generateStableDomain_of_short short

theorem doubleDot_iff (host : List UInt8) :
    DoubleDot host ↔ (cut 46 host).2.bind head? = some 46 := by
  constructor
  · rintro ⟨project, rest, rfl, apart⟩
    have cuts := cut_paste apart (some (46 :: rest))
    rw [paste, Option.elim_some] at cuts
    rw [cuts]
    rfl
  · intro second
    obtain ⟨rest, cuts, head⟩ := Option.bind_eq_some_iff.mp second
    obtain ⟨tail, rfl⟩ := head?_eq_some_iff.mp head
    have text : paste 46 (cut 46 host).1 (cut 46 host).2 = host := paste_cut host
    rw [cuts] at text
    exact ⟨_, tail, text.symm, notMem_cut host⟩

instance (host : List UInt8) : Decidable (DoubleDot host) :=
  decidable_of_iff' _ (doubleDot_iff host)

/-- A `make_address` that accepts dotted quads only. -/
def isDottedQuad (text : List UInt8) : Bool :=
  (text.splitOn 46).length == 4 &&
    (text.splitOn 46).all fun piece => ((List.finRange 256).map octetText).contains piece

theorem isDottedQuad_of_ipv4Literal (text : List UInt8) (literal : Ipv4Literal text) :
    isDottedQuad text = true := by
  obtain ⟨octets, rfl⟩ := literal
  have apart : ∀ piece ∈ (ofFn octets).map octetText, (46 : UInt8) ∉ piece := by
    intro piece mem dot
    obtain ⟨octet, -, rfl⟩ := mem_map.mp mem
    exact absurd ((octetText_digits octet).2 46 dot).1 (by decide)
  rw [isDottedQuad, splitOn_intercalate 46 apart (by simp [ofFn_succ])]
  simp

theorem generateStableDomain_ordinary :
    StableDomain (fun _ => 171) (bytesOf "Project.edge.example.")
      (bytesOf "rabababab-project.t.edge.example") :=
  ((generateStableDomain_spec isDottedQuad (fun _ => 171) isDottedQuad_of_ipv4Literal).1
    (bytesOf "Project.edge.example.") _ (by decide)).mpr (by decide)

/-- The host `project..edge` is given the domain of the host `project.edge`. -/
theorem doubleDot_not_stableDomain :
    ¬∀ (isAddress : List UInt8 → Bool) (drawn : Fin 4 → UInt8),
      (∀ text, Ipv4Literal text → isAddress text = true) → ∀ host domain,
        generateStableDomain isAddress drawn host = some domain →
          StableDomain drawn host domain := by
  intro always
  have returned : generateStableDomain isDottedQuad (fun _ => 171) (bytesOf "project..edge") =
      some (bytesOf "rabababab-project.t.edge") := by decide
  have stable := always isDottedQuad _ isDottedQuad_of_ipv4Literal _ _ returned
  exact (stableDomain_iff returned).mp stable (by decide)

end Rstream.IoRstrm
