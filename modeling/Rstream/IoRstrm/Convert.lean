import Mathlib.Data.String.Basic
import Rstream.IoRstrm.Types
import Rstream.Library.SortedMaps

/-!
# Tunnel properties as messages

`convert` writes the properties of a tunnel into a `protobuf::TunnelProperties`, one field after the
other, and the other `convert` reads them. A field that may be absent is wrapped in a message of its
own, so that an empty text and a flag that is false are not absent. The labels are entries of a hash
map, which hands them out in an order of its own, and a date is written in seconds.

What is written to a fresh message is read again, but for the part of a date below a second
(`convertFrom_convertTo`).
-/

namespace Rstream.IoRstrm

open Library

/-! ## Messages -/

/-- `google::protobuf::StringValue`, `BoolValue` and `UInt32Value`. -/
structure Wrapped (α : Type) where
  value : α
  deriving DecidableEq, Repr

structure Timestamp where
  seconds : Int := 0
  nanos : Int := 0
  deriving DecidableEq, Repr

/-- `protobuf::HttpCors`. -/
structure HttpCorsMessage where
  allowedOrigins : List String := []
  allowedMethods : List String := []
  allowedHeaders : List String := []
  exposedHeaders : List String := []
  allowCredentials : Bool := false
  maxAge : Int := 0
  deriving DecidableEq, Repr

/-- `protobuf::TunnelProperties`. -/
structure TunnelPropertiesMessage where
  id : Option (Wrapped String) := none
  creationDate : Option Timestamp := none
  name : Option (Wrapped String) := none
  type : Option (Wrapped String) := none
  publish : Option (Wrapped Bool) := none
  protocol : Option (Wrapped String) := none
  labels : List (String × String) := []
  geoip : List String := []
  trustedIps : List String := []
  host : Option (Wrapped String) := none
  tlsMode : Option (Wrapped String) := none
  tlsAlpns : List String := []
  tlsMinVersion : Option (Wrapped String) := none
  tlsCiphers : List String := []
  mtlsAuth : Option (Wrapped Bool) := none
  mtlsCacertPem : Option (Wrapped String) := none
  httpVersion : Option (Wrapped String) := none
  httpUseTls : Option (Wrapped Bool) := none
  tokenAuth : Option (Wrapped Bool) := none
  rstreamAuth : Option (Wrapped Bool) := none
  challengeMode : Option (Wrapped Bool) := none
  hostname : Option (Wrapped String) := none
  port : Option (Wrapped Nat) := none
  upstreamTls : Option (Wrapped Bool) := none
  datagramGuaranteedDelivery : Option (Wrapped Bool) := none
  allowCrossRegionRouting : Option (Wrapped Bool) := none
  httpCors : Option HttpCorsMessage := none
  deriving DecidableEq, Repr

/-! ## Fields -/

section Fields

variable {α : Type}

/-- An optional field is copied into the message if it is there. -/
def copyTo (dst : Option (Wrapped α)) (src : Option α) : Option (Wrapped α) :=
  (src.map Wrapped.mk).or dst

/-- An optional field is copied from the message if it is there. -/
def copyFrom (dst : Option α) (src : Option (Wrapped α)) : Option α :=
  (src.map Wrapped.value).or dst

@[simp] theorem copyFrom_copyTo (src : Option α) : copyFrom none (copyTo none src) = src := by
  cases src <;> rfl

/-- The ticks of `std::chrono::system_clock` in a second. -/
def ticksPerSecond : Int := 1000000000

/-- `duration_cast<seconds>` of the time since the epoch. -/
def toTimestamp (date : Int) : Timestamp := { seconds := date.tdiv ticksPerSecond }

/-- The `time_point` of the seconds since the epoch. -/
def ofTimestamp (timestamp : Timestamp) : Int := timestamp.seconds * ticksPerSecond

/-- Labels are assigned one after the other. -/
def assignLabels (dst src : List (String × String)) : List (String × String) :=
  src.foldl (fun labels label => insertEntry label.1 label.2 labels) dst

end Fields

/-! ## The source -/

/-- `convert(protobuf::TunnelProperties&, const tunnel_properties&)`. -/
def convertTo (dst : TunnelPropertiesMessage) (src : TunnelProperties) :
    TunnelPropertiesMessage where
  httpCors := src.httpCors.map fun policy =>
    { allowedOrigins := policy.allowedOrigins
      allowedMethods := policy.allowedMethods
      allowedHeaders := policy.allowedHeaders
      exposedHeaders := policy.exposedHeaders
      allowCredentials := policy.allowCredentials
      maxAge := policy.maxAge }
  id := copyTo dst.id src.id
  creationDate := (src.creationDate.map toTimestamp).or dst.creationDate
  name := copyTo dst.name src.name
  type := copyTo dst.type src.type
  publish := copyTo dst.publish src.publish
  protocol := copyTo dst.protocol src.protocol
  labels := assignLabels dst.labels src.labels
  geoip := dst.geoip ++ src.geoip
  trustedIps := dst.trustedIps ++ src.trustedIps
  host := copyTo dst.host src.host
  hostname := copyTo dst.hostname src.hostname
  port := copyTo dst.port src.port
  tlsMode := copyTo dst.tlsMode src.tlsMode
  tlsAlpns := dst.tlsAlpns ++ src.tlsAlpns
  tlsMinVersion := copyTo dst.tlsMinVersion src.tlsMinVersion
  tlsCiphers := dst.tlsCiphers ++ src.tlsCiphers
  mtlsAuth := copyTo dst.mtlsAuth src.mtlsAuth
  mtlsCacertPem := dst.mtlsCacertPem
  httpVersion := copyTo dst.httpVersion src.httpVersion
  httpUseTls := copyTo dst.httpUseTls src.httpUseTls
  upstreamTls := copyTo dst.upstreamTls src.upstreamTls
  tokenAuth := copyTo dst.tokenAuth src.tokenAuth
  rstreamAuth := copyTo dst.rstreamAuth src.rstreamAuth
  challengeMode := copyTo dst.challengeMode src.challengeMode
  datagramGuaranteedDelivery := copyTo dst.datagramGuaranteedDelivery src.datagramGuaranteedDelivery
  allowCrossRegionRouting := copyTo dst.allowCrossRegionRouting src.allowCrossRegionRouting

/-- `convert(tunnel_properties&, const protobuf::TunnelProperties&)`. `inOrder` is the order in which
the map of the message is read. -/
def convertFrom (inOrder : List (String × String) → List (String × String))
    (dst : TunnelProperties) (src : TunnelPropertiesMessage) : TunnelProperties where
  httpCors := src.httpCors.map fun cors =>
    { allowedOrigins := cors.allowedOrigins
      allowedMethods := cors.allowedMethods
      allowedHeaders := cors.allowedHeaders
      exposedHeaders := cors.exposedHeaders
      allowCredentials := cors.allowCredentials
      maxAge := cors.maxAge }
  id := copyFrom dst.id src.id
  creationDate := (src.creationDate.map ofTimestamp).or dst.creationDate
  name := copyFrom dst.name src.name
  type := copyFrom dst.type src.type
  publish := copyFrom dst.publish src.publish
  protocol := copyFrom dst.protocol src.protocol
  labels := assignLabels dst.labels (inOrder src.labels)
  geoip := src.geoip
  trustedIps := src.trustedIps
  host := copyFrom dst.host src.host
  hostname := copyFrom dst.hostname src.hostname
  port := copyFrom dst.port src.port
  tlsMode := copyFrom dst.tlsMode src.tlsMode
  tlsAlpns := src.tlsAlpns
  tlsMinVersion := copyFrom dst.tlsMinVersion src.tlsMinVersion
  tlsCiphers := src.tlsCiphers
  mtlsAuth := copyFrom dst.mtlsAuth src.mtlsAuth
  httpVersion := copyFrom dst.httpVersion src.httpVersion
  httpUseTls := copyFrom dst.httpUseTls src.httpUseTls
  upstreamTls := copyFrom dst.upstreamTls src.upstreamTls
  tokenAuth := copyFrom dst.tokenAuth src.tokenAuth
  rstreamAuth := copyFrom dst.rstreamAuth src.rstreamAuth
  challengeMode := copyFrom dst.challengeMode src.challengeMode
  datagramGuaranteedDelivery :=
    copyFrom dst.datagramGuaranteedDelivery src.datagramGuaranteedDelivery
  allowCrossRegionRouting := copyFrom dst.allowCrossRegionRouting src.allowCrossRegionRouting

/-! ## What is read again -/

/-- The labels are the entries of a `std::map`. -/
def LabelsSorted (labels : List (String × String)) : Prop :=
  labels.Pairwise fun first second => first.1 < second.1

/-- The seconds of a date. -/
def wholeSeconds (date : Int) : Int := date.tdiv ticksPerSecond * ticksPerSecond

theorem wholeSeconds_of_dvd {date : Int} (whole : ticksPerSecond ∣ date) :
    wholeSeconds date = date := Int.tdiv_mul_cancel whole

theorem assignLabels_nil (labels : List (String × String)) :
    assignLabels [] labels = (SortedMap.ofList labels).entries := by
  rw [assignLabels, SortedMap.ofList]
  show labels.foldl _ (SortedMap.empty : SortedMap String String).entries = _
  generalize (SortedMap.empty : SortedMap String String) = start
  induction labels generalizing start with
  | nil => rfl
  | cons label labels ih => exact ih (start.insert label.1 label.2)

/-- Labels in any order are the entries of the one map. -/
theorem assignLabels_of_perm {labels others : List (String × String)} (sorted : LabelsSorted labels)
    (perm : others.Perm labels) : assignLabels [] others = labels := by
  have distinct := SortedMap.nodup_keys ⟨labels, sorted⟩
  rw [assignLabels_nil, SortedMap.ofList_perm ((perm.map Prod.fst).nodup_iff.mpr distinct) perm]
  exact congrArg SortedMap.entries (SortedMap.ofList_entries ⟨labels, sorted⟩)

theorem convertFrom_convertTo {inOrder : List (String × String) → List (String × String)}
    (reordered : ∀ labels, (inOrder labels).Perm labels) {properties : TunnelProperties}
    (sorted : LabelsSorted properties.labels) :
    convertFrom inOrder {} (convertTo {} properties) =
      { properties with creationDate := properties.creationDate.map wholeSeconds } := by
  have written : assignLabels [] properties.labels = properties.labels :=
    assignLabels_of_perm sorted (List.Perm.refl _)
  have read : assignLabels [] (inOrder properties.labels) = properties.labels :=
    assignLabels_of_perm sorted (reordered _)
  have policy : ∀ cors : Option HttpCors, (convertFrom inOrder {}
      (convertTo {} { httpCors := cors })).httpCors = cors := by
    intro cors
    cases cors <;> rfl
  have cors := policy properties.httpCors
  have date : (properties.creationDate.map toTimestamp).map ofTimestamp =
      properties.creationDate.map wholeSeconds := by
    cases properties.creationDate <;> rfl
  simp only [convertFrom, convertTo] at cors ⊢
  simp only [written, read, cors, date, copyFrom_copyTo, List.nil_append, Option.or_none]

/-- **Properties whose date is a whole number of seconds are read as they were written.** -/
theorem convert_roundTrip (inOrder : List (String × String) → List (String × String))
    (reordered : ∀ labels, (inOrder labels).Perm labels) (properties : TunnelProperties)
    (sorted : LabelsSorted properties.labels)
    (whole : ∀ date, properties.creationDate = some date → ticksPerSecond ∣ date) :
    convertFrom inOrder {} (convertTo {} properties) = properties := by
  rw [convertFrom_convertTo reordered sorted]
  have kept : properties.creationDate.map wholeSeconds = properties.creationDate := by
    cases found : properties.creationDate with
    | none => rfl
    | some date => rw [Option.map_some, wholeSeconds_of_dvd (whole date found)]
  rw [kept]

/-- Two labels, which the map hands out in the other order, and options that are empty. -/
theorem convert_roundTrip_labelled :
    let properties : TunnelProperties :=
      { name := some "", publish := some false, labels := [("app", "a"), ("stage", "")]
        creationDate := some (-5000000000), httpCors := some {} }
    convertFrom List.reverse {} (convertTo {} properties) = properties :=
  convert_roundTrip List.reverse List.reverse_perm _
    (List.pairwise_pair.mpr (by decide)) (by
      rintro date found
      cases found
      decide)

end Rstream.IoRstrm
