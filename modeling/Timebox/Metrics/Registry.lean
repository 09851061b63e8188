import Timebox.Double.Layout
import Timebox.Text.Quote

/-! # A registry of metrics

A registry holds collectors: counters, gauges and histograms, each a family of series told
apart by the values of its variable labels. A collector is described by a `Desc`: its full
name, its help text, the constant labels every series carries and the names of its variable
labels.

Registering checks the description and compares it with what the registry already holds:

* an invalid description (a bad metric or label name, a label named twice) is refused;
* a description whose name is already registered with other help or other label names is
  refused;
* a description equal in name and dimensions to a registered one is not added again: the
  registered collector is given back instead. Whether that collector has the kind the caller
  asked for is then the caller's question (`Registry.typeCheck`).

A series is created when its label values are first used; a histogram checks its buckets and
its label names only then. Gathering gives the collectors that have series, sorted by name,
each with its series sorted by their label values.
-/

namespace Timebox

namespace Metrics

/-- What a collector measures. -/
inductive Kind where
  | counter
  | gauge
  | histogram
deriving DecidableEq, Repr

/-- The name of the kind in a gathered family. -/
def Kind.name : Kind → String
  | .counter => "COUNTER"
  | .gauge => "GAUGE"
  | .histogram => "HISTOGRAM"

/-- A collector's description. -/
structure Desc where
  name : String
  help : String
  /-- The constant labels, sorted by name. -/
  constLabels : List (String × String)
  /-- The names of the variable labels, in the order their values are given. -/
  labels : List String
deriving DecidableEq, Repr

/-- Whether a character may start a metric name (`colon`) or a label name. -/
def nameStart (colon : Bool) (c : Char) : Bool :=
  ('a' ≤ c ∧ c ≤ 'z') ∨ ('A' ≤ c ∧ c ≤ 'Z') ∨ c = '_' ∨ (colon ∧ c = ':')

/-- Whether a character may follow in a metric name (`colon`) or a label name. -/
def nameRest (colon : Bool) (c : Char) : Bool := nameStart colon c ∨ ('0' ≤ c ∧ c ≤ '9')

/-- A metric name: a letter, `_` or `:`, then also digits. -/
def validMetricName (s : String) : Bool :=
  match s.toList with
  | [] => false
  | c :: cs => nameStart true c ∧ cs.all (nameRest true)

/-- A label name: a letter or `_`, then also digits, and not starting with `__`, which is
reserved. -/
def validLabelName (s : String) : Bool :=
  let shaped := match s.toList with
    | [] => false
    | c :: cs => nameStart false c && cs.all (nameRest false)
  shaped && !"__".isPrefixOf s

/-- The full name of a metric: the non-empty parts joined by `_`, none for an empty name. -/
def fullName (space subsystem name : String) : String :=
  if name.isEmpty then ""
  else "_".intercalate ([space, subsystem, name].filter (!·.isEmpty))

namespace Desc

/-- Why the description is invalid, if it is. -/
def problem (d : Desc) : Option String :=
  if !validMetricName d.name then
    some (Text.quote d.name ++ " is not a valid metric name")
  else match (d.constLabels.map (·.1) ++ d.labels).find? (!validLabelName ·) with
    | some l => some (Text.quote l ++ " is not a valid label name for metric " ++ Text.quote d.name)
    | none =>
      let names := d.constLabels.map (·.1) ++ d.labels
      if names.eraseDups.length ≠ names.length then
        some ("duplicate label names in constant and variable labels for metric " ++
          Text.quote d.name)
      else none

/-- The text of the description; the constant labels are shown only for a valid one. -/
def text (d : Desc) : String :=
  let consts := if d.problem.isSome then [] else
    d.constLabels.map fun (n, v) => n ++ "=" ++ Text.quote v
  "Desc\x7bfqName: " ++ Text.quote d.name ++ ", help: " ++ Text.quote d.help ++
    ", constLabels: \x7b" ++ ",".intercalate consts ++ "\x7d, variableLabels: \x7b" ++
    ",".intercalate d.labels ++ "\x7d\x7d"

/-- The dimensions a registered name must keep: its help and its label names, the variable
ones marked apart from the constant ones, in sorted order. -/
def dims (d : Desc) : String × List String :=
  (d.help, (d.constLabels.map (·.1) ++ d.labels.map ("$" ++ ·)).mergeSort (· ≤ ·))

end Desc

/-- One series: its variable label values and its state. -/
structure Series where
  values : List String
  /-- The value of a counter or gauge. -/
  value : Double
  /-- The observations of a histogram: their number, their sum and, per bucket, how many
  fell in it and no lower bucket. -/
  count : Nat
  sum : Double
  buckets : List Nat
deriving Repr

/-- A registered collector. `family` tells a collector with variable labels, as a caller
registering a kind asks for, from a single counter registered as such. -/
structure Collector where
  kind : Kind
  family : Bool
  desc : Desc
  /-- The upper bounds of a histogram's buckets, as given. -/
  bounds : List Double
  series : List Series
deriving Repr

/-- The default upper bounds of histogram buckets. -/
def defaultBounds : List Double :=
  [(5, 1000), (1, 100), (25, 1000), (5, 100), (1, 10), (25, 100), (5, 10), (1, 1), (25, 10),
    (5, 1), (10, 1)].map fun (n, d) => Double.ofRat false n d

namespace Collector

/-- The name of the collector's type. -/
def typeName (c : Collector) : String :=
  match c.kind, c.family with
  | .counter, true => "*prometheus.CounterVec"
  | .counter, false => "*prometheus.counter"
  | .gauge, true => "*prometheus.GaugeVec"
  | .gauge, false => "*prometheus.gauge"
  | .histogram, true => "*prometheus.HistogramVec"
  | .histogram, false => "*prometheus.histogram"

/-- A bound as `%f` writes it. -/
def boundText (x : Double) : String := Double.layout 'f' (some 6) false x

/-- The upper bounds a histogram's series use: ordered, without a last `+Inf`, or the pair
that breaks the order. -/
def checkBounds : List Double → Except String (List Double)
  | [] => .ok []
  | [b] => if b.isInf ∧ !b.signBit then .ok [] else .ok [b]
  | a :: b :: rest =>
    if Double.le b a then
      .error ("histogram buckets must be in increasing order: " ++ boundText a ++ " >= " ++
        boundText b)
    else (checkBounds (b :: rest)).map (a :: ·)

/-- The label values as a literal of a list of strings. -/
def valuesText (given : Bool) (vs : List String) : String :=
  if vs.isEmpty then (if given then "[]string\x7b\x7d" else "[]string(nil)")
  else "[]string\x7b" ++ ", ".intercalate (vs.map Text.quote) ++ "\x7d"

/-- A new series for label values, or the panic of a histogram that cannot have one. -/
def newSeries (c : Collector) (values : List String) : Except String Series :=
  if c.kind = .histogram then
    if (c.desc.labels ++ c.desc.constLabels.map (·.1)).contains "le" then
      .error "\"le\" is not allowed as label name in histograms"
    else
      let bounds := if c.bounds.isEmpty then defaultBounds else c.bounds
      (checkBounds bounds).map fun bs => ⟨values, Double.zero, 0, Double.zero, bs.map fun _ => 0⟩
  else .ok ⟨values, Double.zero, 0, Double.zero, []⟩

/-- The upper bounds of a histogram's series. -/
def seriesBounds (c : Collector) : List Double :=
  match checkBounds (if c.bounds.isEmpty then defaultBounds else c.bounds) with
  | .ok bs => bs
  | .error _ => []

/-- The error of label values of the wrong number. -/
def cardinalityError (c : Collector) (given : Bool) (values : List String) : Option String :=
  if values.length ≠ c.desc.labels.length then
    some ("inconsistent label cardinality: expected " ++ toString c.desc.labels.length ++
      " label values but got " ++ toString values.length ++ " in " ++ valuesText given values)
  else none

/-- The collector with the series of the label values replaced, or added at the end. -/
def putSeries (c : Collector) (s : Series) : Collector :=
  if c.series.any (·.values == s.values) then
    { c with series := c.series.map fun t => if t.values == s.values then s else t }
  else { c with series := c.series ++ [s] }

end Collector

namespace Series

/-- Adds to a counter, which cannot go down. -/
def addCounter (x : Double) (s : Series) : Except String Series :=
  if Double.lt x Double.zero then .error "counter cannot decrease in value"
  else .ok { s with value := s.value.add x }

/-- Adds to a gauge. -/
def addGauge (x : Double) (s : Series) : Except String Series := .ok { s with value := s.value.add x }

/-- Sets a gauge. -/
def set (x : Double) (s : Series) : Except String Series := .ok { s with value := x }

/-- The bucket counts after an observation in the first bucket whose bound is not below it;
none is for a value above every bound or not a number. -/
def bump (x : Double) : List Double → List Nat → List Nat
  | b :: bs, n :: ns => if Double.le x b then (n + 1) :: ns else n :: bump x bs ns
  | _, ns => ns

/-- Observes a value in a histogram with the given bounds. -/
def observe (bounds : List Double) (x : Double) (s : Series) : Except String Series :=
  .ok { s with count := s.count + 1, sum := s.sum.add x, buckets := bump x bounds s.buckets }

end Series

/-- The options every collector of a registry shares. -/
structure Options where
  space : String
  subsystem : String
  constLabels : List (String × String)
deriving Inhabited

/-- A registry: its options and its collectors, in the order they were registered. -/
structure Registry where
  options : Options
  collectors : List Collector
deriving Inhabited

namespace Registry

/-- An empty registry. -/
def empty (options : Options) : Registry := ⟨options, []⟩

/-- Registers a collector: the place of the collector the registry holds for it afterwards
and whether it was there before, or why it is refused. -/
def register (r : Registry) (c : Collector) : Except String (Nat × Bool) :=
  match c.desc.problem with
  | some p => .error ("descriptor " ++ c.desc.text ++ " is invalid: " ++ p)
  | none =>
    match r.collectors.findIdx? (·.desc.name == c.desc.name) with
    | some i =>
      if (r.collectors[i]?.map (·.desc.dims)) == some c.desc.dims then .ok (i, true)
      else .error ("a previously registered descriptor with the same fully-qualified name as " ++
        c.desc.text ++ " has different label names or a different help string")
    | none => .ok (r.collectors.length, false)

/-- The registry after `register` accepted a new collector. -/
def add (r : Registry) (c : Collector) : Registry := { r with collectors := r.collectors ++ [c] }

/-- The collector a caller registers under a name: the full name, the registry's constant
labels, sorted. -/
def collectorFor (r : Registry) (kind : Kind) (family : Bool) (name help : String)
    (labels : List String) (bounds : List Double) : Collector :=
  ⟨kind, family, ⟨fullName r.options.space r.options.subsystem name, help,
    r.options.constLabels.mergeSort (fun a b => a.1 ≤ b.1), labels⟩, bounds, []⟩

/-- A change of a registry that may panic with a message; a panic keeps the changes made
before it. -/
abbrev Op (α : Type) := EStateM String Registry α

/-- Registers a collector and gives the place of the one the registry holds for it. -/
def obtain (c : Collector) : Op Nat := fun r =>
  match r.register c with
  | .error e => .error e r
  | .ok (i, true) => .ok i r
  | .ok (i, false) => .ok i (r.add c)

/-- Whether the collector at a place has the type a caller expects, a family of the kind. -/
def typeCheck (r : Registry) (i : Nat) (kind : Kind) : Except String Unit :=
  match r.collectors[i]? with
  | some c =>
    if c.kind = kind ∧ c.family then .ok ()
    else .error ("interface conversion: prometheus.Collector is " ++ c.typeName ++ ", not " ++
      ({ c with kind := kind, family := true } : Collector).typeName)
  | none => .ok ()

/-- Checks that the collector at a place has the type a caller expects. -/
def check (i : Nat) (kind : Kind) : Op Unit := fun r =>
  match r.typeCheck i kind with
  | .ok () => .ok () r
  | .error e => .error e r

/-- Registers a family of a kind under a name, as a caller asking for that kind does. -/
def family (kind : Kind) (name help : String) (labels : List String) (bounds : List Double) :
    Op Nat := do
  let r ← get
  let i ← obtain (r.collectorFor kind true name help labels bounds)
  check i kind
  pure i

/-- Changes the series of the label values of the collector at a place, creating the series
first when it is new; the new series stays even when the change then panics. -/
def update (i : Nat) (given : Bool) (values : List String)
    (f : Collector → Series → Except String Series) : Op Unit := fun r =>
  match r.collectors[i]? with
  | none => .ok () r
  | some c =>
    match c.cardinalityError given values with
    | some e => .error e r
    | none =>
      let put (c : Collector) (s : Series) : Registry :=
        { r with collectors := r.collectors.set i (c.putSeries s) }
      let start : Except String (Collector × Series) :=
        match c.series.find? (·.values == values) with
        | some s => .ok (c, s)
        | none => (c.newSeries values).map fun s => (c.putSeries s, s)
      match start with
      | .error e => .error e r
      | .ok (c1, s) =>
        let r1 := { r with collectors := r.collectors.set i c1 }
        match f c1 s with
        | .error e => .error e r1
        | .ok s1 => .ok () (put c1 s1)

/-- Lexicographic order of label value lists. -/
def valuesLt : List String → List String → Bool
  | [], _ :: _ => true
  | a :: as, b :: bs => a < b ∨ (a = b ∧ valuesLt as bs)
  | _, _ => false

/-- A gathered series: its labels, sorted by name, and the series. -/
structure Sample where
  labels : List (String × String)
  series : Series

/-- A gathered family. -/
structure Family where
  name : String
  help : String
  kind : Kind
  bounds : List Double
  samples : List Sample

/-- The families that have series, sorted by name, each with its series sorted by label
values. -/
def gather (r : Registry) : List Family :=
  let families := r.collectors.filterMap fun c =>
    if c.series.isEmpty then none
    else
      let samples := c.series.map fun s =>
        let labels := (c.desc.constLabels ++ c.desc.labels.zip s.values).mergeSort
          (fun a b => a.1 ≤ b.1)
        (⟨labels, s⟩ : Sample)
      let sorted := samples.mergeSort fun a b =>
        !valuesLt (b.labels.map (·.2)) (a.labels.map (·.2))
      some ⟨c.desc.name, c.desc.help, c.kind, c.seriesBounds, sorted⟩
  families.mergeSort fun a b => a.name ≤ b.name

end Registry

end Metrics

end Timebox
