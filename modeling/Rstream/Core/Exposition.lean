import Rstream.Core.Metrics
import Rstream.Library.Lines

/-!
# The text exposition of metrics

The serializer writes a line for the help and one for the type of a metric, and a line for each
value of its samples. The values of labels are escaped, so a line that is read back gives the
labels of the sample. The help is written as it is: a newline in it begins a line of its own
(`serializer_lines_iff`).

A text is a list of characters. The numbers are those of the stream in the classic locale.
-/

namespace Rstream.Core.Metrics

open Library List

/-! ## Metrics -/

/-- What the stream writes for a finite `double`. -/
structure Numeral where
  text : List Char
  plain : ∀ char ∈ text, char.isDigit ∨ char ∈ ['+', '-', '.', 'e']

inductive Double where
  | nan
  | infinity (negative : Bool)
  | finite (numeral : Numeral)

structure Bucket where
  cumulativeCount : Nat
  upperBound : Double

structure Histogram where
  sampleCount : Nat
  sampleSum : Double
  buckets : List Bucket

structure SampleQuantile where
  quantile : Double
  value : Double

structure Summary where
  sampleCount : Nat
  sampleSum : Double
  quantiles : List SampleQuantile

/-- The variant `m_value`. -/
inductive SampleValue where
  | blank
  | double (value : Double)
  | summary (summary : Summary)
  | histogram (histogram : Histogram)

structure Sample where
  value : SampleValue
  labels : Labels

inductive MetricType where
  | none | counter | gauge | histogram | summary | info
  deriving DecidableEq, Repr

structure Metric where
  name : String
  help : String
  type : MetricType
  samples : List Sample

/-! ## The serializer -/

/-- `serialize_value` of a `double`. -/
def serializeDouble : Double → List Char
  | .nan => "Nan".toList
  | .infinity negative => if negative then "-Inf".toList else "+Inf".toList
  | .finite numeral => numeral.text

/-- `serialize_value` of a `std::uint64_t`. -/
def serializeCount (count : Nat) : List Char := Nat.toDigits 10 count

/-- What `serialize_value` of a string writes for a character. -/
def escapeChar (char : Char) : List Char :=
  if char = '\n' then ['\\', 'n']
  else if char = '\\' then ['\\', char]
  else if char = '"' then ['\\', char]
  else [char]

/-- `serialize_value` of a string. -/
def serializeString (value : List Char) : List Char := value.flatMap escapeChar

/-- A label behind `i` others. -/
def serializeLabel (i : Nat) (key : String) (value : List Char) : List Char :=
  (if i = 0 then [] else [',']) ++ key.toList ++ ['=', '"'] ++ value ++ ['"']

/-- Labels behind `i` others, with values that are serialized. -/
def serializeLabels (i : Nat) : List (String × List Char) → List Char
  | [] => []
  | (key, value) :: rest => serializeLabel i key value ++ serializeLabels (i + 1) rest

def serializeLineFront (name : String) (sample : Sample) (suffix : String := "")
    (extraLabel : Option (String × List Char) := none) : List Char :=
  let labels := (labelPairs sample.labels).map fun label => (label.1, serializeString label.2.toList)
  let extra := match extraLabel with
    | none => []
    | some (key, value) => serializeLabel labels.length key value
  name.toList ++ suffix.toList ++ ['{'] ++ serializeLabels 0 labels ++ extra ++ ['}', ' ']

def serializeLineBack : List Char := ['\n']

/-- The loop over the samples; `boost::get` throws when a value is of another type. -/
def serializeSamples (serialize : Sample → Option (List Char)) : List Sample → Option (List Char)
  | [] => some []
  | sample :: samples => do
      let text ← serialize sample
      let rest ← serializeSamples serialize samples
      some (text ++ rest)

/-- The line of the type. -/
def serializeType (metric : Metric) (kind : String) : List Char :=
  "# TYPE ".toList ++ metric.name.toList ++ [' '] ++ kind.toList ++ ['\n']

/-- The only line of a sample of a counter or a gauge. -/
def serializeDoubleSample (metric : Metric) (sample : Sample) : Option (List Char) :=
  match sample.value with
  | .double value =>
    some (serializeLineFront metric.name sample ++ serializeDouble value ++ serializeLineBack)
  | _ => none

def serializeMetricCounter (metric : Metric) : Option (List Char) := do
  let lines ← serializeSamples (serializeDoubleSample metric) metric.samples
  some (serializeType metric "counter" ++ lines)

def serializeMetricGauge (metric : Metric) : Option (List Char) := do
  let lines ← serializeSamples (serializeDoubleSample metric) metric.samples
  some (serializeType metric "gauge" ++ lines)

/-- The lines of the buckets. -/
def serializeBuckets (metric : Metric) (sample : Sample) : List Bucket → List Char
  | [] => []
  | bucket :: buckets =>
    serializeLineFront metric.name sample "_bucket"
        (some ("le", serializeDouble bucket.upperBound)) ++
      serializeCount bucket.cumulativeCount ++ serializeLineBack ++
        serializeBuckets metric sample buckets

/-- `last != infinity` behind the loop over the buckets. -/
def openEnded (buckets : List Bucket) : Bool :=
  match buckets.getLast? with
  | some ⟨_, .infinity false⟩ => false
  | _ => true

/-- The lines of a sample of a histogram. -/
def serializeHistogramSample (metric : Metric) (sample : Sample) : Option (List Char) :=
  match sample.value with
  | .histogram histogram =>
    some (serializeBuckets metric sample histogram.buckets ++
      (if openEnded histogram.buckets then
        serializeLineFront metric.name sample "_bucket"
            (some ("le", serializeString "+Inf".toList)) ++
          serializeCount histogram.sampleCount ++ serializeLineBack
      else []) ++
      (serializeLineFront metric.name sample "_sum" ++ serializeDouble histogram.sampleSum ++
        serializeLineBack) ++
      (serializeLineFront metric.name sample "_count" ++ serializeCount histogram.sampleCount ++
        serializeLineBack))
  | _ => none

def serializeMetricHistogram (metric : Metric) : Option (List Char) := do
  let lines ← serializeSamples (serializeHistogramSample metric) metric.samples
  some (serializeType metric "histogram" ++ lines)

/-- The lines of the quantiles. -/
def serializeQuantiles (metric : Metric) (sample : Sample) : List SampleQuantile → List Char
  | [] => []
  | quantile :: quantiles =>
    serializeLineFront metric.name sample ""
        (some ("quantile", serializeDouble quantile.quantile)) ++
      serializeDouble quantile.value ++ serializeLineBack ++
        serializeQuantiles metric sample quantiles

/-- The lines of a sample of a summary. -/
def serializeSummarySample (metric : Metric) (sample : Sample) : Option (List Char) :=
  match sample.value with
  | .summary summary =>
    some (serializeQuantiles metric sample summary.quantiles ++
      (serializeLineFront metric.name sample "_sum" ++ serializeDouble summary.sampleSum ++
        serializeLineBack) ++
      (serializeLineFront metric.name sample "_count" ++ serializeCount summary.sampleCount ++
        serializeLineBack))
  | _ => none

def serializeMetricSummary (metric : Metric) : Option (List Char) := do
  let lines ← serializeSamples (serializeSummarySample metric) metric.samples
  some (serializeType metric "summary" ++ lines)

/-- What the stream writes for 1.0. -/
def one : Double := .finite ⟨['1'], by simp⟩

def serializeMetricInfo (metric : Metric) : Option (List Char) := do
  let lines ← serializeSamples (fun sample => some (serializeLineFront metric.name sample ++
    serializeDouble one ++ serializeLineBack)) metric.samples
  some (serializeType metric "gauge" ++ lines)

/-- The line of the help. -/
def serializeHelp (metric : Metric) : List Char :=
  if metric.help.toList = [] then []
  else "# HELP ".toList ++ metric.name.toList ++ [' '] ++ metric.help.toList ++ ['\n']

/-- The switch over the type. -/
def serializeTyped (metric : Metric) : Option (List Char) :=
  match metric.type with
  | .counter => serializeMetricCounter metric
  | .gauge => serializeMetricGauge metric
  | .histogram => serializeMetricHistogram metric
  | .summary => serializeMetricSummary metric
  | .info => serializeMetricInfo metric
  | .none => some []

/-- `serialize_value` of a metric. -/
def serializeMetric (metric : Metric) : Option (List Char) := do
  let lines ← serializeTyped metric
  some (serializeHelp metric ++ lines)

/-- `serializer`; nothing is returned when a value is of another type than its metric. -/
def serializer : List Metric → Option (List Char)
  | [] => some []
  | metric :: metrics => do
      let text ← serializeMetric metric
      let rest ← serializer metrics
      some (text ++ rest)

/-! ## Reading a line -/

/-- A value up to its closing quote, without its escapes, and what follows the quote. The
character before may have been a backslash. -/
def readQuoted : Bool → List Char → Option (List Char × List Char)
  | _, [] => none
  | true, char :: rest =>
    (readQuoted false rest).map fun read =>
      ((if char = 'n' then '\n' else char) :: read.1, read.2)
  | false, char :: rest =>
    if char = '"' then some ([], rest)
    else if char = '\\' then readQuoted true rest
    else (readQuoted false rest).map fun read => (char :: read.1, read.2)

/-- A label, and what follows it. -/
def readLabel (text : List Char) : Option ((List Char × List Char) × List Char) :=
  match text.dropWhile (· != '=') with
  | '=' :: '"' :: rest =>
    (readQuoted false rest).map fun read => ((text.takeWhile (· != '='), read.1), read.2)
  | _ => none

/-- One label or more up to the closing brace, and what follows it. There are no more labels
than `fuel`. -/
def readLabels : Nat → List Char → Option (List (List Char × List Char) × List Char)
  | 0, _ => none
  | fuel + 1, text =>
    match readLabel text with
    | some (label, '}' :: rest) => some ([label], rest)
    | some (label, ',' :: rest) =>
      (readLabels fuel rest).map fun read => (label :: read.1, read.2)
    | _ => none

/-- The labels up to the closing brace, which there may be none of, and what follows it. -/
def readAllLabels (text : List Char) : Option (List (List Char × List Char) × List Char) :=
  if text.head? = some '}' then some ([], text.tail) else readLabels text.length text

/-- The line of a value: the name, the labels and the value. -/
def readSample (text : List Char) :
    Option (List Char × List (List Char × List Char) × List Char) :=
  match readAllLabels (text.dropWhile (· != '{')).tail with
  | some (labels, ' ' :: value) => some (text.takeWhile (· != '{'), labels, value)
  | _ => none

/-! ## The lines of a metric -/

/-- A line of the exposition. -/
inductive Line where
  | help (name : String)
  | type (name kind : String)
  | sample (name : List Char) (labels : List (List Char × List Char)) (value : List Char)

/-- A text is a line: a line of help begins with the name, a line of a value gives its labels
back. -/
def Line.Matches : Line → List Char → Prop
  | .help name, text => "# HELP ".toList ++ name.toList ++ [' '] <+: text
  | .type name kind, text => text = "# TYPE ".toList ++ name.toList ++ [' '] ++ kind.toList
  | .sample name labels value, text => readSample text = some (name, labels, value)

/-- The labels of a sample. -/
def Sample.pairs (sample : Sample) : List (List Char × List Char) :=
  (labelPairs sample.labels).map fun label => (label.1.toList, label.2.toList)

/-- What the line of the type says. -/
def MetricType.kind : MetricType → Option String
  | .none => .none
  | .counter => some "counter"
  | .gauge => some "gauge"
  | .histogram => some "histogram"
  | .summary => some "summary"
  | .info => some "gauge"

/-- The lines of a sample, one for each value. -/
def Metric.sampleLines (metric : Metric) (sample : Sample) : List Line :=
  let line (suffix : String) (extra : List (List Char × List Char)) (value : List Char) : Line :=
    .sample (metric.name.toList ++ suffix.toList) (sample.pairs ++ extra) value
  match metric.type, sample.value with
  | .counter, .double value => [line "" [] (serializeDouble value)]
  | .gauge, .double value => [line "" [] (serializeDouble value)]
  | .info, _ => [line "" [] ['1']]
  | .histogram, .histogram histogram =>
    histogram.buckets.map (fun bucket => line "_bucket"
      [("le".toList, serializeDouble bucket.upperBound)]
        (serializeCount bucket.cumulativeCount)) ++
    (if openEnded histogram.buckets then
      [line "_bucket" [("le".toList, "+Inf".toList)] (serializeCount histogram.sampleCount)]
    else []) ++
    [line "_sum" [] (serializeDouble histogram.sampleSum),
      line "_count" [] (serializeCount histogram.sampleCount)]
  | .summary, .summary summary =>
    summary.quantiles.map (fun quantile => line ""
      [("quantile".toList, serializeDouble quantile.quantile)]
        (serializeDouble quantile.value)) ++
    [line "_sum" [] (serializeDouble summary.sampleSum),
      line "_count" [] (serializeCount summary.sampleCount)]
  | _, _ => []

/-- **The lines of a metric**: its help if there is one, its type, and its values. -/
def Metric.lines (metric : Metric) : List Line :=
  (if metric.help.toList = [] then [] else [.help metric.name]) ++
    match metric.type.kind with
    | .none => []
    | some kind => .type metric.name kind :: metric.samples.flatMap metric.sampleLines

/-- The names of the metric and of its labels pass their checks. -/
structure Metric.Named (metric : Metric) : Prop where
  name : isMetricName metric.name = true
  labels : ∀ sample ∈ metric.samples, Valid sample.labels

/-! ## Characters -/

variable {char : Char} {text : List Char}

theorem isLabelChar_ne (labelChar : isLabelChar char = true) :
    char ≠ '=' ∧ char ≠ '{' ∧ char ≠ '}' ∧ char ≠ '\n' := by
  refine ⟨?_, ?_, ?_, ?_⟩
  all_goals
    rintro rfl
    exact absurd labelChar (by decide)

theorem ne_of_mem_labelName {name : String} (valid : isLabelName name = true)
    (mem : char ∈ name.toList) : char ≠ '=' ∧ char ≠ '{' ∧ char ≠ '}' ∧ char ≠ '\n' := by
  unfold isLabelName at valid
  split at valid
  · cases valid
  · rename_i first rest chars
    rw [Bool.and_eq_true, Bool.and_eq_true, all_eq_true] at valid
    rw [chars] at mem
    rcases mem_cons.mp mem with rfl | later
    · exact isLabelChar_ne valid.1.1
    · exact isLabelChar_ne (valid.2 char later)

theorem ne_of_mem_metricName {name : String} (valid : isMetricName name = true)
    (mem : char ∈ name.toList) : char ≠ '{' ∧ char ≠ '\n' := by
  have either (char : Char) (metricChar : (isLabelChar char || char == ':') = true) :
      char ≠ '{' ∧ char ≠ '\n' := by
    rcases Bool.or_eq_true_iff.mp metricChar with label | colon
    · exact ⟨(isLabelChar_ne label).2.1, (isLabelChar_ne label).2.2.2⟩
    · rw [beq_iff_eq.mp colon]
      decide
  unfold isMetricName at valid
  split at valid
  · cases valid
  · rename_i first rest chars
    rw [Bool.and_eq_true, Bool.and_eq_true, all_eq_true] at valid
    rw [chars] at mem
    rcases mem_cons.mp mem with rfl | later
    · exact either _ valid.1.1
    · exact either char (valid.2 char later)

/-- A character that is neither a quote nor a backslash nor a newline. -/
def Ordinary (char : Char) : Prop := char ≠ '"' ∧ char ≠ '\\' ∧ char ≠ '\n'

instance (char : Char) : Decidable (Ordinary char) := inferInstanceAs (Decidable (_ ∧ _))

theorem ordinary_of_isDigit (digit : char.isDigit = true) : Ordinary char := by
  refine ⟨?_, ?_, ?_⟩
  all_goals
    rintro rfl
    exact absurd digit (by decide)

theorem ordinary_serializeDouble (value : Double) : ∀ char ∈ serializeDouble value, Ordinary char := by
  cases value with
  | nan => simp [serializeDouble, Ordinary]
  | infinity negative => cases negative <;> simp [serializeDouble, Ordinary]
  | finite numeral =>
    intro char mem
    rcases numeral.plain char mem with digit | sign
    · exact ordinary_of_isDigit digit
    · simp only [mem_cons, not_mem_nil, or_false] at sign
      rcases sign with rfl | rfl | rfl | rfl <;> decide

theorem ordinary_serializeCount (count : Nat) : ∀ char ∈ serializeCount count, Ordinary char :=
  fun _ mem => ordinary_of_isDigit (Nat.isDigit_of_mem_toDigits (by decide) (by decide) mem)

/-! ## Reading back -/

/-- A text that stands for a value within quotes. -/
structure Quotes (text value : List Char) : Prop where
  newline : '\n' ∉ text
  read : ∀ rest, readQuoted false (text ++ '"' :: rest) = some (value, rest)

theorem quotes_nil : Quotes [] [] :=
  ⟨not_mem_nil, fun rest => by rw [nil_append, readQuoted, if_pos rfl]⟩

/-- One character more, which may be escaped. -/
theorem Quotes.cons {value : List Char} (quotes : Quotes text value) (char : Char) :
    Quotes (escapeChar char ++ text) (char :: value) := by
  have read := quotes.read
  constructor
  · rw [mem_append, not_or]
    refine ⟨?_, quotes.newline⟩
    unfold escapeChar
    split
    · decide
    · rename_i newline
      split
      · simp [Ne.symm newline]
      · split
        · simp [Ne.symm newline]
        · simp [Ne.symm newline]
  · intro rest
    unfold escapeChar
    split
    · rename_i newline
      simp [readQuoted, read, newline]
    · split
      · rename_i backslash
        simp [readQuoted, read, backslash]
      · split
        · rename_i quote
          simp [readQuoted, read, quote]
        · rename_i backslash quote
          simp [readQuoted, read, backslash, quote]

/-- **Escaped values are read back.** -/
theorem quotes_serializeString (value : List Char) : Quotes (serializeString value) value := by
  induction value with
  | nil => exact quotes_nil
  | cons char value ih =>
    rw [serializeString, flatMap_cons]
    exact ih.cons char

theorem quotes_ordinary (ordinary : ∀ char ∈ text, Ordinary char) : Quotes text text := by
  induction text with
  | nil => exact quotes_nil
  | cons char text ih =>
    obtain ⟨quote, backslash, newline⟩ := ordinary char mem_cons_self
    have kept := (ih fun other mem => ordinary other (mem_cons_of_mem _ mem)).cons char
    rwa [escapeChar, if_neg newline, if_neg backslash, if_neg quote] at kept

/-- What comes before and after the first character that does not meet a condition. -/
theorem span_append {p : Char → Bool} (all : ∀ char ∈ text, p char = true) {stop : Char}
    (stops : p stop = false) (rest : List Char) :
    (text ++ stop :: rest).takeWhile p = text ∧ (text ++ stop :: rest).dropWhile p = stop :: rest := by
  rw [takeWhile_append_of_pos all, dropWhile_append_of_pos all,
    takeWhile_cons_of_neg (by simp [stops]), append_nil,
    dropWhile_cons_of_neg (by simp [stops])]
  exact ⟨rfl, rfl⟩

/-- A label that is to be written: its key, its value as it is written, and its value. -/
structure Entry where
  key : String
  text : List Char
  value : List Char
  valid : isLabelName key = true
  quotes : Quotes text value

namespace Entry

/-- What is given to `serializeLabels`. -/
def written (entry : Entry) : String × List Char := (entry.key, entry.text)

/-- What a reader gets. -/
def pair (entry : Entry) : List Char × List Char := (entry.key.toList, entry.value)

end Entry

theorem serializeLabel_zero (key : String) (value : List Char) :
    serializeLabel 0 key value = key.toList ++ ['=', '"'] ++ value ++ ['"'] := rfl

theorem readLabel_entry (entry : Entry) (rest : List Char) :
    readLabel (serializeLabel 0 entry.key entry.text ++ rest) = some (entry.pair, rest) := by
  have key : ∀ char ∈ entry.key.toList, (char != '=') = true := by
    intro char mem
    simpa using (ne_of_mem_labelName entry.valid mem).1
  have text : serializeLabel 0 entry.key entry.text ++ rest =
      entry.key.toList ++ '=' :: ('"' :: (entry.text ++ '"' :: rest)) := by
    simp [serializeLabel_zero]
  obtain ⟨front, back⟩ := span_append key (by decide : ('=' != '=') = false)
    ('"' :: (entry.text ++ '"' :: rest))
  rw [text, readLabel, back, front]
  simp only [entry.quotes.read, Option.map_some]
  rfl

theorem serializeLabel_succ (i : Nat) (key : String) (value : List Char) :
    serializeLabel (i + 1) key value = ',' :: serializeLabel 0 key value := rfl

theorem serializeLabels_cons (i : Nat) (label : String × List Char)
    (labels : List (String × List Char)) : serializeLabels i (label :: labels) =
      serializeLabel i label.1 label.2 ++ serializeLabels (i + 1) labels := rfl

/-- **The labels are read back**, up to the closing brace. -/
theorem readLabels_entries (first : Entry) (entries : List Entry) {fuel : Nat}
    (enough : entries.length < fuel) (i : Nat) (rest : List Char) :
    readLabels fuel (serializeLabel 0 first.key first.text ++
      (serializeLabels (i + 1) (entries.map Entry.written) ++ '}' :: rest)) =
      some ((first :: entries).map Entry.pair, rest) := by
  induction entries generalizing first fuel i with
  | nil =>
    obtain ⟨fuel, rfl⟩ := Nat.exists_eq_add_of_lt enough
    rw [readLabels, readLabel_entry]
    rfl
  | cons second entries ih =>
    obtain ⟨fuel, rfl⟩ := Nat.exists_eq_succ_of_ne_zero (Nat.ne_of_gt (Nat.zero_lt_of_lt enough))
    rw [readLabels, readLabel_entry, map_cons, serializeLabels_cons, Entry.written,
      serializeLabel_succ]
    simp only [cons_append, append_assoc]
    rw [ih second (by simpa using enough) (i + 1)]
    rfl

theorem serializeLabels_append (i : Nat) (labels : List (String × List Char)) (key : String)
    (value : List Char) : serializeLabels i (labels ++ [(key, value)]) =
      serializeLabels i labels ++ serializeLabel (i + labels.length) key value := by
  induction labels generalizing i with
  | nil => exact append_nil _
  | cons label labels ih =>
    rw [cons_append, serializeLabels_cons, ih, serializeLabels_cons, append_assoc,
      length_cons, Nat.add_right_comm, Nat.add_assoc]

theorem length_le_serializeLabels (i : Nat) (labels : List (String × List Char)) :
    labels.length ≤ (serializeLabels i labels).length := by
  induction labels generalizing i with
  | nil => exact Nat.zero_le _
  | cons label labels ih =>
    have closed : 1 ≤ (serializeLabel i label.1 label.2).length := by
      rw [serializeLabel, length_append]
      exact Nat.le_add_left _ _
    rw [serializeLabels_cons, length_append, length_cons, Nat.add_comm]
    exact Nat.add_le_add closed (ih (i + 1))

theorem newline_not_mem_serializeLabels (i : Nat) (entries : List Entry) :
    '\n' ∉ serializeLabels i (entries.map Entry.written) := by
  induction entries generalizing i with
  | nil => exact not_mem_nil
  | cons entry entries ih =>
    have key : '\n' ∉ entry.key.toList := fun mem =>
      (ne_of_mem_labelName entry.valid mem).2.2.2 rfl
    have text := entry.quotes.newline
    rw [map_cons, Entry.written, serializeLabels_cons]
    cases i <;> simp [serializeLabel_succ, serializeLabel_zero, key, text, ih]

theorem readAllLabels_entries (entries : List Entry) (rest : List Char) :
    readAllLabels (serializeLabels 0 (entries.map Entry.written) ++ '}' :: rest) =
      some (entries.map Entry.pair, rest) := by
  cases entries with
  | nil => rfl
  | cons first entries =>
    have body : serializeLabels 0 ((first :: entries).map Entry.written) ++ '}' :: rest =
        serializeLabel 0 first.key first.text ++
          (serializeLabels (0 + 1) (entries.map Entry.written) ++ '}' :: rest) := by
      rw [map_cons, Entry.written, serializeLabels_cons, append_assoc]
    have long := length_le_serializeLabels 0 ((first :: entries).map Entry.written)
    rw [length_map, length_cons] at long
    have key : (serializeLabel 0 first.key first.text ++
        (serializeLabels (0 + 1) (entries.map Entry.written) ++ '}' :: rest)).head? ≠
          some '}' := by
      rw [serializeLabel_zero]
      cases chars : first.key.toList with
      | nil => simp
      | cons char chars' =>
        have valid := ne_of_mem_labelName first.valid (by simp [chars] : char ∈ _)
        simpa using valid.2.2.1
    rw [readAllLabels, body, if_neg key]
    refine readLabels_entries first entries ?_ 0 rest
    rw [← body, length_append]
    omega

/-- **The line of a value is read back.** -/
theorem readSample_line {name : List Char} (named : ∀ char ∈ name, char ≠ '{')
    (entries : List Entry) (value : List Char) :
    readSample (name ++ '{' :: (serializeLabels 0 (entries.map Entry.written) ++
      '}' :: ' ' :: value)) = some (name, entries.map Entry.pair, value) := by
  have plain : ∀ char ∈ name, (char != '{') = true := by
    intro char mem
    simpa using named char mem
  obtain ⟨front, back⟩ := span_append plain (by decide : ('{' != '{') = false)
    (serializeLabels 0 (entries.map Entry.written) ++ '}' :: ' ' :: value)
  rw [readSample, back, front, tail_cons, readAllLabels_entries]
  rfl

/-! ## The lines that are written -/

/-- A text that matches a line, and is one. -/
structure Written (line : Line) (text : List Char) : Prop where
  newline : '\n' ∉ text
  line : line.Matches text

/-- A text consists of lines. -/
def Writes (expected : List Line) (text : List Char) : Prop :=
  ∃ texts, text = unlines '\n' texts ∧ List.Forall₂ Written expected texts

theorem writes_nil : Writes [] [] := ⟨[], rfl, .nil⟩

theorem Writes.append {expected expected' : List Line} {text' : List Char}
    (first : Writes expected text) (second : Writes expected' text') :
    Writes (expected ++ expected') (text ++ text') := by
  obtain ⟨texts, rfl, written⟩ := first
  obtain ⟨texts', rfl, written'⟩ := second
  exact ⟨texts ++ texts', (unlines_append texts texts').symm, rel_append written written'⟩

theorem writes_single {line : Line} (written : Written line text) :
    Writes [line] (text ++ ['\n']) :=
  ⟨[text], by simp [unlines], .cons written .nil⟩

theorem exists_entries {sample : Sample} (valid : Valid sample.labels) :
    ∃ entries : List Entry, entries.map Entry.pair = sample.pairs ∧
      entries.map Entry.written = (labelPairs sample.labels).map
        fun label => (label.1, serializeString label.2.toList) := by
  have keys : ∀ label ∈ labelPairs sample.labels, isLabelName label.1 = true := by
    intro label mem
    obtain ⟨name, present, rfl⟩ := mem_map.mp mem
    exact valid name (Finmap.mem_keys.mp ((Finset.mem_sort _).mp present))
  rw [Sample.pairs]
  generalize labelPairs sample.labels = labels at keys
  induction labels with
  | nil => exact ⟨[], rfl, rfl⟩
  | cons label labels ih =>
    obtain ⟨entries, pairs, written⟩ := ih fun other mem => keys other (mem_cons_of_mem _ mem)
    refine ⟨⟨label.1, serializeString label.2.toList, label.2.toList,
      keys label mem_cons_self, quotes_serializeString _⟩ :: entries, ?_, ?_⟩
    · rw [map_cons, pairs]
      rfl
    · rw [map_cons, written]
      rfl

/-- An extra label as an entry, or none. -/
def extraEntries : Option Entry → List Entry
  | none => []
  | some entry => [entry]

/-- **The line of a value.** -/
theorem writes_line {metric : Metric} (named : isMetricName metric.name = true) {sample : Sample}
    (valid : Valid sample.labels) {suffix : String}
    (plain : ∀ char ∈ suffix.toList, char ≠ '{' ∧ char ≠ '\n') (extra : Option Entry)
    {value : List Char} (ordinary : ∀ char ∈ value, Ordinary char) :
    Writes [.sample (metric.name.toList ++ suffix.toList)
        (sample.pairs ++ (extraEntries extra).map Entry.pair) value]
      (serializeLineFront metric.name sample suffix (extra.map Entry.written) ++ value ++
        serializeLineBack) := by
  obtain ⟨entries, pairs, written⟩ := exists_entries valid
  have front : serializeLineFront metric.name sample suffix (extra.map Entry.written) ++ value =
      (metric.name.toList ++ suffix.toList) ++ '{' :: (serializeLabels 0
        ((entries ++ extraEntries extra).map Entry.written) ++ '}' :: ' ' :: value) := by
    unfold serializeLineFront
    rw [← written]
    cases extra with
    | none => simp [extraEntries]
    | some entry => simp [extraEntries, Entry.written, serializeLabels_append]
  have name : ∀ char ∈ metric.name.toList ++ suffix.toList, char ≠ '{' ∧ char ≠ '\n' := by
    intro char mem
    rcases mem_append.mp mem with inName | inSuffix
    · exact ne_of_mem_metricName named inName
    · exact plain char inSuffix
  rw [front, serializeLineBack]
  refine writes_single ⟨?_, ?_⟩
  · have labels := newline_not_mem_serializeLabels 0 (entries ++ extraEntries extra)
    have inName : '\n' ∉ metric.name.toList ++ suffix.toList := fun mem => (name _ mem).2 rfl
    have inValue : '\n' ∉ value := fun mem => (ordinary _ mem).2.2 rfl
    simp only [mem_append, mem_cons, not_or] at inName ⊢
    exact ⟨inName, by decide, labels, by decide, by decide, inValue⟩
  · show readSample _ = some _
    rw [readSample_line (fun char mem => (name char mem).1), map_append, pairs]

/-- A number as the value of an extra label. -/
def numberEntry (key : String) (valid : isLabelName key = true) (value : Double) : Entry :=
  ⟨key, serializeDouble value, serializeDouble value, valid,
    quotes_ordinary (ordinary_serializeDouble value)⟩

/-- The bound of the implicit bucket. -/
def infinityEntry : Entry :=
  ⟨"le", serializeString "+Inf".toList, "+Inf".toList, by decide, quotes_serializeString _⟩

section

variable {metric : Metric} {sample : Sample}

theorem writes_samples {serialize : Sample → Option (List Char)} {expected : Sample → List Line}
    {samples : List Sample} {text : List Char}
    (each : ∀ sample ∈ samples, ∀ text, serialize sample = some text →
      Writes (expected sample) text)
    (serialized : serializeSamples serialize samples = some text) :
    Writes (samples.flatMap expected) text := by
  induction samples generalizing text with
  | nil =>
    cases serialized
    exact writes_nil
  | cons sample samples ih =>
    obtain ⟨first, serialized', serialized⟩ := Option.bind_eq_some_iff.mp serialized
    obtain ⟨rest, serialized'', same⟩ := Option.bind_eq_some_iff.mp serialized
    cases same
    rw [flatMap_cons]
    exact (each sample mem_cons_self _ serialized').append
      (ih (fun other mem => each other (mem_cons_of_mem _ mem)) serialized'')

theorem writes_plain (named : isMetricName metric.name = true) (valid : Valid sample.labels)
    {suffix : String} (plain : ∀ char ∈ suffix.toList, char ≠ '{' ∧ char ≠ '\n')
    {value : List Char} (ordinary : ∀ char ∈ value, Ordinary char) :
    Writes [.sample (metric.name.toList ++ suffix.toList) (sample.pairs ++ []) value]
      (serializeLineFront metric.name sample suffix ++ value ++ serializeLineBack) :=
  writes_line named valid plain none ordinary

section

variable (named : isMetricName metric.name = true)

include named

section

variable (valid : Valid sample.labels)

include valid

theorem writes_totals
    (sum : Double) (count : Nat) :
    Writes [.sample (metric.name.toList ++ "_sum".toList) (sample.pairs ++ [])
          (serializeDouble sum),
        .sample (metric.name.toList ++ "_count".toList) (sample.pairs ++ [])
          (serializeCount count)]
      ((serializeLineFront metric.name sample "_sum" ++ serializeDouble sum ++
          serializeLineBack) ++
        (serializeLineFront metric.name sample "_count" ++ serializeCount count ++
          serializeLineBack)) :=
  (writes_plain named valid (by simp) (ordinary_serializeDouble sum)).append
    (writes_plain named valid (by simp) (ordinary_serializeCount count))

theorem writes_double
    (kind : metric.type = .counter ∨ metric.type = .gauge) {text : List Char}
    (serialized : serializeDoubleSample metric sample = some text) :
    Writes (metric.sampleLines sample) text := by
  unfold serializeDoubleSample at serialized
  split at serialized
  · rename_i value found
    cases serialized
    have line := @writes_plain _ _ named valid "" (by simp) _ (ordinary_serializeDouble value)
    rcases kind with counter | gauge
    · rwa [Metric.sampleLines, counter, found]
    · rwa [Metric.sampleLines, gauge, found]
  · cases serialized

theorem writes_buckets
    (buckets : List Bucket) :
    Writes (buckets.map fun bucket => .sample (metric.name.toList ++ "_bucket".toList)
        (sample.pairs ++ [("le".toList, serializeDouble bucket.upperBound)])
          (serializeCount bucket.cumulativeCount))
      (serializeBuckets metric sample buckets) := by
  induction buckets with
  | nil => exact writes_nil
  | cons bucket buckets ih =>
    exact (writes_line named valid (by simp)
      (some (numberEntry "le" (by decide) bucket.upperBound))
      (ordinary_serializeCount _)).append ih

theorem writes_quantiles
    (quantiles : List SampleQuantile) :
    Writes (quantiles.map fun quantile => .sample (metric.name.toList ++ "".toList)
        (sample.pairs ++ [("quantile".toList, serializeDouble quantile.quantile)])
          (serializeDouble quantile.value))
      (serializeQuantiles metric sample quantiles) := by
  induction quantiles with
  | nil => exact writes_nil
  | cons quantile quantiles ih =>
    exact (writes_line named valid (by simp)
      (some (numberEntry "quantile" (by decide) quantile.quantile))
      (ordinary_serializeDouble _)).append ih

theorem writes_histogram
    (kind : metric.type = .histogram) {text : List Char}
    (serialized : serializeHistogramSample metric sample = some text) :
    Writes (metric.sampleLines sample) text := by
  unfold serializeHistogramSample at serialized
  split at serialized
  · rename_i histogram found
    cases serialized
    rw [Metric.sampleLines, kind, found, append_assoc _ (serializeLineFront _ _ _ _ ++ _ ++ _)]
    refine ((writes_buckets named valid histogram.buckets).append ?_).append
      (writes_totals named valid histogram.sampleSum histogram.sampleCount)
    split
    · exact writes_line named valid (by simp) (some infinityEntry) (ordinary_serializeCount _)
    · exact writes_nil
  · cases serialized

theorem writes_summary
    (kind : metric.type = .summary) {text : List Char}
    (serialized : serializeSummarySample metric sample = some text) :
    Writes (metric.sampleLines sample) text := by
  unfold serializeSummarySample at serialized
  split at serialized
  · rename_i summary found
    cases serialized
    rw [Metric.sampleLines, kind, found, append_assoc]
    exact (writes_quantiles named valid summary.quantiles).append
      (writes_totals named valid summary.sampleSum summary.sampleCount)
  · cases serialized

end

theorem writes_type {kind : String}
    (plain : '\n' ∉ kind.toList) : Writes [.type metric.name kind] (serializeType metric kind) := by
  have name : '\n' ∉ metric.name.toList := fun mem => (ne_of_mem_metricName named mem).2 rfl
  refine writes_single ⟨?_, rfl⟩
  simp only [mem_append, not_or]
  exact ⟨⟨⟨by decide, name⟩, by decide⟩, plain⟩

end

/-- **The lines behind the help** are written as they should be. -/
theorem writes_body (named : metric.Named) {text : List Char}
    (serialized : serializeTyped metric = some text) :
    Writes (match metric.type.kind with
      | .none => []
      | some kind => .type metric.name kind :: metric.samples.flatMap metric.sampleLines) text := by
  -- the line of the type, and the lines of the samples
  have together {kind : String} (plain : '\n' ∉ kind.toList)
      {serialize : Sample → Option (List Char)} {text : List Char}
      (each : ∀ sample ∈ metric.samples, ∀ text, serialize sample = some text →
        Writes (metric.sampleLines sample) text)
      (all : (serializeSamples serialize metric.samples).bind
        (fun lines => some (serializeType metric kind ++ lines)) = some text) :
      Writes (.type metric.name kind :: metric.samples.flatMap metric.sampleLines) text := by
    obtain ⟨lines, samples, same⟩ := Option.bind_eq_some_iff.mp all
    cases same
    exact (writes_type named.name plain).append (writes_samples each samples)
  have valid := named.labels
  unfold serializeTyped at serialized
  cases kind : metric.type with
  | none =>
    rw [kind] at serialized
    cases serialized
    exact writes_nil
  | counter =>
    rw [kind] at serialized
    exact together (by decide) (fun sample mem text written =>
      writes_double named.name (valid sample mem) (.inl kind) written) serialized
  | gauge =>
    rw [kind] at serialized
    exact together (by decide) (fun sample mem text written =>
      writes_double named.name (valid sample mem) (.inr kind) written) serialized
  | histogram =>
    rw [kind] at serialized
    exact together (by decide) (fun sample mem text written =>
      writes_histogram named.name (valid sample mem) kind written) serialized
  | summary =>
    rw [kind] at serialized
    exact together (by decide) (fun sample mem text written =>
      writes_summary named.name (valid sample mem) kind written) serialized
  | info =>
    rw [kind] at serialized
    refine together (by decide) (fun sample mem text written => ?_) serialized
    cases written
    have line := @writes_plain _ _ named.name (valid sample mem) "" (by simp) _
      (ordinary_serializeDouble one)
    have expected : metric.sampleLines sample =
        [.sample (metric.name.toList ++ "".toList) (sample.pairs ++ []) (serializeDouble one)] := by
      rw [Metric.sampleLines, kind]
      rfl
    rwa [expected]

end

theorem Writes.sum_count {expected : List Line} {texts : List (List Char)}
    (written : List.Forall₂ Written expected texts) :
    List.Forall₂ Line.Matches expected texts ∧ (texts.map fun text => text.count '\n').sum = 0 := by
  induction written with
  | nil => exact ⟨.nil, rfl⟩
  | cons first _ ih =>
    refine ⟨.cons first.line ih.1, ?_⟩
    rw [map_cons, sum_cons, ih.2, count_eq_zero.mpr first.newline]

theorem serializeMetric_texts {metric : Metric} (named : metric.Named)
    (serialized : serializeMetric metric = some text) :
    ∃ texts, text = unlines '\n' texts ∧ List.Forall₂ Line.Matches metric.lines texts ∧
      (texts.map fun text => text.count '\n').sum = metric.help.toList.count '\n' := by
  obtain ⟨body, typed, same⟩ := Option.bind_eq_some_iff.mp serialized
  cases same
  obtain ⟨texts, rfl, written⟩ := writes_body named typed
  obtain ⟨matched, none⟩ := Writes.sum_count written
  have name : '\n' ∉ metric.name.toList := fun mem => (ne_of_mem_metricName named.name mem).2 rfl
  rw [Metric.lines, serializeHelp]
  by_cases empty : metric.help.toList = []
  · rw [if_pos empty, if_pos empty, empty]
    exact ⟨texts, rfl, matched, none⟩
  · rw [if_neg empty, if_neg empty]
    refine ⟨("# HELP ".toList ++ metric.name.toList ++ [' '] ++ metric.help.toList) :: texts, ?_,
      .cons ⟨_, rfl⟩ matched, ?_⟩
    · rw [unlines, unlines, flatMap_cons]
    · have front : ("# HELP ".toList ++ metric.name.toList ++ [' ']).count '\n' = 0 := by
        rw [count_eq_zero]
        simp only [mem_append, not_or]
        exact ⟨⟨by decide, name⟩, by decide⟩
      rw [map_cons, sum_cons, none, count_append, front, Nat.zero_add, Nat.add_zero]

theorem serializer_texts {metrics : List Metric} (named : ∀ metric ∈ metrics, metric.Named)
    (serialized : serializer metrics = some text) :
    ∃ texts, text = unlines '\n' texts ∧
      List.Forall₂ Line.Matches (metrics.flatMap Metric.lines) texts ∧
      (texts.map fun text => text.count '\n').sum =
        (metrics.map fun metric => metric.help.toList.count '\n').sum := by
  induction metrics generalizing text with
  | nil =>
    cases serialized
    exact ⟨[], rfl, .nil, rfl⟩
  | cons metric metrics ih =>
    obtain ⟨first, serialized', serialized⟩ := Option.bind_eq_some_iff.mp serialized
    obtain ⟨rest, serialized'', same⟩ := Option.bind_eq_some_iff.mp serialized
    cases same
    obtain ⟨texts, rfl, matched, sum⟩ :=
      serializeMetric_texts (named metric mem_cons_self) serialized'
    obtain ⟨texts', rfl, matched', sum'⟩ :=
      ih (fun other mem => named other (mem_cons_of_mem _ mem)) serialized''
    refine ⟨texts ++ texts', (unlines_append texts texts').symm, ?_, ?_⟩
    · rw [flatMap_cons]
      exact rel_append matched matched'
    · rw [map_append, sum_append, sum, sum', map_cons, sum_cons]

/-- **The exposition has the lines it should have**, and each line of a value gives its labels
back, exactly when no help has a newline. -/
theorem serializer_lines_iff {metrics : List Metric} (named : ∀ metric ∈ metrics, metric.Named)
    {text : List Char} (serialized : serializer metrics = some text) :
    List.Forall₂ Line.Matches (metrics.flatMap Metric.lines) (lines '\n' text) ↔
      ∀ metric ∈ metrics, '\n' ∉ metric.help.toList := by
  obtain ⟨texts, rfl, matched, sum⟩ := serializer_texts named serialized
  have helps : (∀ metric ∈ metrics, '\n' ∉ metric.help.toList) ↔
      (texts.map fun text => text.count '\n').sum = 0 := by
    rw [sum, List.sum_eq_zero_iff_forall_eq_nat]
    simp [count_eq_zero]
  rw [helps]
  constructor
  · intro matched'
    have count := @length_lines_unlines _ _ '\n' texts
    rw [← matched'.length_eq, matched.length_eq] at count
    omega
  · intro none
    have whole : ∀ text ∈ texts, '\n' ∉ text := by
      rw [List.sum_eq_zero_iff_forall_eq_nat] at none
      simpa [count_eq_zero] using none
    rwa [lines_unlines whole]

/-- A counter with a quote and a newline in its label. -/
theorem quotedLabel_lines : ∃ text, serializer [⟨"m", "help", .counter,
      [⟨.double one, Finmap.singleton "l" "\"\n"⟩]⟩] = some text ∧
    List.Forall₂ Line.Matches (([⟨"m", "help", .counter,
      [⟨.double one, Finmap.singleton "l" "\"\n"⟩]⟩] : List Metric).flatMap Metric.lines)
        (lines '\n' text) := by
  refine ⟨_, rfl, (serializer_lines_iff ?_ rfl).mpr ?_⟩
  · intro metric mem
    rw [mem_singleton.mp mem]
    refine ⟨by decide, fun sample mem name present => ?_⟩
    rw [mem_singleton.mp mem] at present
    rw [(Finmap.mem_singleton _ _ _).mp present]
    decide
  · decide

/-- **A newline in the help** begins a line that no metric has. -/
theorem helpNewline_lines : ∃ text,
    serializer [⟨"m", "a\n# TYPE m gauge", .counter, []⟩] = some text ∧
    lines '\n' text = ["# HELP m a".toList, "# TYPE m gauge".toList, "# TYPE m counter".toList] ∧
    ¬ List.Forall₂ Line.Matches (([⟨"m", "a\n# TYPE m gauge", .counter, []⟩] :
      List Metric).flatMap Metric.lines) (lines '\n' text) :=
  ⟨_, rfl, by decide, fun matched => absurd matched.length_eq (by decide)⟩

end Rstream.Core.Metrics
