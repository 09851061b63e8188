import Mathlib
import Timebox.Metrics.Executor

/-! # What updates of a registry change

An executor's metrics change a registry only through `Registry.update`: it makes the series
of the label values when it is new, then changes it. So

* an update never changes which collectors are registered, their kinds, descriptions or
  bounds (`keepsShapes_update`): what a caller checked when it registered them stays true
  after any other caller's updates;
* an update of a collector that takes the values given, and a change that cannot fail for
  its kind, succeeds (`update_ok`);
* adding to a counter or a gauge adds to the value of the one series named and leaves every
  other series as it was (`bump_spec`).

From these the operations of an executor's collectors succeed on a registry where the
collectors are registered as `Collectors.make` registers them (`Collectors.Fits`), and
`Collectors.make` registers them so in a new registry, which it does exactly when the
namespace and subsystem make valid metric names (`Collectors.make_ok_spec`,
`Collectors.make_ok_iff`).
-/

namespace Timebox.Metrics

namespace Collector

/-- A collector without its series: what registering fixed. -/
def shape (c : Collector) : Collector := { c with series := [] }

@[simp] theorem shape_putSeries (c : Collector) (s : Series) : (c.putSeries s).shape = c.shape := by
  unfold putSeries
  split <;> rfl

@[simp] theorem kind_putSeries (c : Collector) (s : Series) : (c.putSeries s).kind = c.kind := by
  unfold putSeries
  split <;> rfl

/-- Making a series reads only what registering fixed. -/
theorem newSeries_eq_of_shape {c c' : Collector} (h : c'.shape = c.shape) (vs : List String) :
    c'.newSeries vs = c.newSeries vs := by
  have hk : c'.kind = c.kind := (congrArg Collector.kind h : c'.shape.kind = c.shape.kind)
  have hd : c'.desc = c.desc := (congrArg Collector.desc h : c'.shape.desc = c.shape.desc)
  have hb : c'.bounds = c.bounds := (congrArg Collector.bounds h : c'.shape.bounds = c.shape.bounds)
  simp only [newSeries, hk, hd, hb]

/-- The series a collector holds for label values, after putting one. -/
theorem find_putSeries (c : Collector) (s : Series) (vs : List String) :
    (c.putSeries s).series.find? (·.values == vs) =
      if s.values = vs then some s else c.series.find? (·.values == vs) := by
  unfold putSeries
  split
  · rename_i hany
    rw [List.find?_map]
    split
    · -- the first series with these values is replaced by the new one
      rename_i hs
      subst hs
      obtain ⟨t, ht, htv⟩ := List.any_eq_true.mp hany
      have hp : ((·.values == s.values) ∘ fun t : Series => if t.values == s.values then s else t) =
          (·.values == s.values) := by
        funext t
        by_cases h : t.values = s.values <;> simp [h]
      rw [hp]
      cases hf : c.series.find? (·.values == s.values) with
      | none => exact absurd (List.find?_eq_none.mp hf t ht) (by simpa using htv)
      | some u =>
        have hu : u.values = s.values := by simpa using List.find?_some hf
        simp [hu]
    · -- the series with these values are left as they were
      rename_i hs
      have hp : ((·.values == vs) ∘ fun t : Series => if t.values == s.values then s else t) =
          (·.values == vs) := by
        funext t
        by_cases h : t.values = s.values <;> simp [h]
      rw [hp]
      cases hf : c.series.find? (·.values == vs) with
      | none => rfl
      | some u =>
        have hu : u.values = vs := by simpa using List.find?_some hf
        simp [hu, Ne.symm hs]
  · rename_i hany
    rw [List.find?_append]
    split
    · rename_i hs
      subst hs
      have hn : c.series.find? (·.values == s.values) = none :=
        List.find?_eq_none.mpr fun t ht h => hany (List.any_eq_true.mpr ⟨t, ht, h⟩)
      simp [hn]
    · rename_i hs
      cases c.series.find? (·.values == vs) <;> simp [hs]

theorem find_putSeries_ne (c : Collector) {s : Series} {vs : List String} (h : s.values ≠ vs) :
    (c.putSeries s).series.find? (·.values == vs) = c.series.find? (·.values == vs) := by
  rw [find_putSeries, if_neg h]

/-- A collector of kind `k` that takes `n` label values and can make a series for any. -/
def Takes (c : Collector) (k : Kind) (n : Nat) : Prop :=
  c.kind = k ∧ c.desc.labels.length = n ∧ ∀ vs, ∃ s, c.newSeries vs = .ok s

theorem Takes.of_shape {c c' : Collector} {k : Kind} {n : Nat} (h : c'.shape = c.shape)
    (ht : c.Takes k n) : c'.Takes k n := by
  obtain ⟨hk, hl, hn⟩ := ht
  refine ⟨?_, ?_, fun vs => ?_⟩
  · rw [← hk]; exact (congrArg Collector.kind h : c'.shape.kind = c.shape.kind)
  · rw [← hl]; exact congrArg List.length (congrArg Desc.labels
      (congrArg Collector.desc h : c'.shape.desc = c.shape.desc))
  · rw [newSeries_eq_of_shape h]; exact hn vs

/-- A new series has the values asked for and a zero value. -/
theorem newSeries_ok {c : Collector} {vs : List String} {s : Series} (h : c.newSeries vs = .ok s) :
    s.values = vs ∧ s.value = Double.zero := by
  unfold newSeries at h
  split at h
  · split at h
    · cases h
    · cases hb : checkBounds (if c.bounds.isEmpty then defaultBounds else c.bounds) <;>
        simp only [hb, Except.map] at h <;> cases h
      exact ⟨rfl, rfl⟩
  · cases h
    exact ⟨rfl, rfl⟩

/-- The default buckets are in increasing order and end below infinity, so a histogram
keeps them all. -/
theorem checkBounds_defaultBounds : checkBounds defaultBounds = .ok defaultBounds := by
  decide +kernel

/-- A histogram with the default buckets and no label named `le` makes a series for any label
values. -/
theorem newSeries_histogram {c : Collector} (hk : c.kind = .histogram) (hb : c.bounds = defaultBounds)
    (hle : (c.desc.labels ++ c.desc.constLabels.map (·.1)).contains "le" = false) (vs : List String) :
    ∃ s, c.newSeries vs = .ok s := by
  unfold newSeries
  rw [if_pos hk, if_neg (by rw [hle]; decide), hb, if_neg (by decide)]
  dsimp only
  rw [checkBounds_defaultBounds]
  exact ⟨_, rfl⟩

end Collector

/-- A metric's own name ends its full name. -/
theorem suffix_fullName (space subsystem : String) {name : String} (h : name ≠ "") :
    name.toList <:+ (fullName space subsystem name).toList := by
  have hn : name.isEmpty = false := by simpa using h
  -- a part joined after others ends the joined text
  have hstep : ∀ {l l' : List Char} (a : List Char), l <:+ l' → l <:+ a ++ '_' :: l' :=
    fun a hl => hl.trans ((List.suffix_cons _ _).trans (List.suffix_append a _))
  unfold fullName
  rw [if_neg (by simp [hn])]
  by_cases hs : space.isEmpty <;> by_cases hu : subsystem.isEmpty <;>
    simp [hs, hu, hn, List.filter, hstep]

/-- Names of which neither ends the other stay apart under any namespace and subsystem. -/
theorem fullName_ne (space subsystem : String) {a b : String} (ha : a ≠ "") (hb : b ≠ "")
    (hab : ¬ a.toList <:+ b.toList) (hba : ¬ b.toList <:+ a.toList) :
    fullName space subsystem a ≠ fullName space subsystem b := by
  intro heq
  have hsa := suffix_fullName space subsystem ha
  rw [heq] at hsa
  rcases List.suffix_or_suffix_of_suffix hsa (suffix_fullName space subsystem hb) with h | h
  · exact hab h
  · exact hba h

/-- A valid description has a valid name. -/
theorem validMetricName_of_problem {d : Desc} (hp : d.problem = none) :
    validMetricName d.name = true := by
  unfold Desc.problem at hp
  cases hv : validMetricName d.name <;> simp_all

/-- A description with valid labels and no constant ones is valid exactly when its name is. -/
theorem problem_eq_none_iff {d : Desc} (hc : d.constLabels = [])
    (hl : d.labels.find? (!validLabelName ·) = none)
    (hd : d.labels.eraseDups.length = d.labels.length) :
    d.problem = none ↔ validMetricName d.name = true := by
  unfold Desc.problem
  cases hv : validMetricName d.name <;> simp [hc, hl, hd]

namespace Registry

/-- The collectors of a registry without their series. -/
def shapes (r : Registry) : List Collector := r.collectors.map Collector.shape

/-- The registry an operation leaves, whether it panics or not. -/
def after {α : Type} (op : Op α) (r : Registry) : Registry :=
  match op.run r with
  | .ok _ r' => r'
  | .error _ r' => r'

/-- An operation that changes the series of collectors and nothing else: no collector is
added, removed or changed in kind, description or bounds. -/
def KeepsShapes {α : Type} (op : Op α) : Prop := ∀ r, (after op r).shapes = r.shapes

theorem shapes_set {r : Registry} {i : Nat} {c x : Collector} (hc : r.collectors[i]? = some c)
    (hx : x.shape = c.shape) :
    ({ r with collectors := r.collectors.set i x } : Registry).shapes = r.shapes := by
  apply List.ext_getElem?
  intro j
  simp only [shapes, List.getElem?_map, List.getElem?_set]
  split
  · rename_i hj
    subst hj
    obtain ⟨hi, hget⟩ := List.getElem?_eq_some_iff.mp hc
    simp [hx, hi, hget]
  · rfl

/-- A change of a series that keeps its label values, as every change an executor makes
does. -/
def KeepsValues (f : Collector → Series → Except String Series) : Prop :=
  ∀ c s s', f c s = .ok s' → s'.values = s.values

/-- An update leaves the registry as it was, or replaces the collector at its place by one
of the same shape whose other series are as they were. -/
theorem after_update (r : Registry) (i : Nat) (given : Bool) (vs : List String)
    {f : Collector → Series → Except String Series} (hf : KeepsValues f) :
    after (update i given vs f) r = r ∨ ∃ c x, r.collectors[i]? = some c ∧ x.shape = c.shape ∧
      (∀ ws, ws ≠ vs → x.series.find? (·.values == ws) = c.series.find? (·.values == ws)) ∧
      after (update i given vs f) r = { r with collectors := r.collectors.set i x } := by
  unfold after
  simp only [EStateM.run, update]
  cases hc : r.collectors[i]? with
  | none => exact .inl rfl
  | some c =>
    cases hcard : c.cardinalityError given vs with
    | some e => exact .inl (by simp only [hcard])
    | none =>
      cases hfind : c.series.find? (·.values == vs) with
      | some s =>
        -- the series exists: only its change is put
        have hs : s.values = vs := by simpa using List.find?_some hfind
        cases hf1 : f c s with
        | error e => exact .inr ⟨c, c, rfl, rfl, fun _ _ => rfl, by simp only [hcard, hfind, hf1]⟩
        | ok s1 =>
          have hs1 : s1.values = vs := (hf c s s1 hf1).trans hs
          exact .inr ⟨c, c.putSeries s1, rfl, by simp,
            fun ws hws => Collector.find_putSeries_ne c (hs1 ▸ Ne.symm hws), by simp only [hcard, hfind, hf1]⟩
      | none =>
        -- the series is new: it is put first, then its change
        cases hn : c.newSeries vs with
        | error e => exact .inl (by simp only [hcard, hfind, hn, Except.map])
        | ok s =>
          have hs : s.values = vs := (Collector.newSeries_ok hn).1
          cases hf1 : f (c.putSeries s) s with
          | error e =>
            exact .inr ⟨c, c.putSeries s, rfl, by simp,
              fun ws hws => Collector.find_putSeries_ne c (hs ▸ Ne.symm hws),
              by simp only [hcard, hfind, hn, hf1, Except.map]⟩
          | ok s1 =>
            have hs1 : s1.values = vs := (hf _ s s1 hf1).trans hs
            refine .inr ⟨c, (c.putSeries s).putSeries s1, rfl, by simp, fun ws hws => ?_,
              by simp only [hcard, hfind, hn, hf1, Except.map]⟩
            rw [Collector.find_putSeries_ne _ (hs1 ▸ Ne.symm hws), Collector.find_putSeries_ne c (hs ▸ Ne.symm hws)]

theorem keepsShapes_update (i : Nat) (given : Bool) (vs : List String)
    {f : Collector → Series → Except String Series} (hf : KeepsValues f) :
    KeepsShapes (update i given vs f) := by
  intro r
  rcases after_update r i given vs hf with h | ⟨c, x, hc, hx, -, h⟩ <;> rw [h]
  exact shapes_set hc hx

theorem keepsShapes_pure {α : Type} (a : α) : KeepsShapes (pure a : Op α) := fun _ => rfl

theorem KeepsShapes.bind {α β : Type} {x : Op α} {f : α → Op β} (hx : KeepsShapes x)
    (hf : ∀ a, KeepsShapes (f a)) : KeepsShapes (x >>= f) := by
  intro r
  have h := hx r
  unfold after at h ⊢
  rw [EStateM.run_bind]
  cases hr : x.run r with
  | ok a r1 =>
    rw [hr] at h
    exact (hf a r1).trans h
  | error e r1 =>
    rw [hr] at h
    exact h

/-- The registry holds at a place a collector of kind `k` that takes `n` label values and can
make a series for any. -/
def Takes (r : Registry) (i : Nat) (k : Kind) (n : Nat) : Prop :=
  ∃ c, r.collectors[i]? = some c ∧ c.Takes k n

theorem Takes.of_shapes {r r' : Registry} {i : Nat} {k : Kind} {n : Nat}
    (h : r'.shapes = r.shapes) (ht : r.Takes i k n) : r'.Takes i k n := by
  obtain ⟨c, hc, hck⟩ := ht
  have hs : r'.shapes[i]? = some c.shape := by rw [h]; simp [shapes, hc]
  simp only [shapes, List.getElem?_map, Option.map_eq_some_iff] at hs
  obtain ⟨c', hc', hcs⟩ := hs
  exact ⟨c', hc', hck.of_shape hcs⟩

/-- An update of a collector that takes the values given succeeds when the change cannot
fail for the collector's kind. -/
theorem update_ok {r : Registry} {i : Nat} {k : Kind} {given : Bool} {vs : List String}
    {f : Collector → Series → Except String Series} (ht : r.Takes i k vs.length)
    (hf : ∀ c s, c.kind = k → ∃ s', f c s = .ok s') :
    ∃ r', (update i given vs f).run r = .ok () r' := by
  obtain ⟨c, hc, hk, hl, hn⟩ := ht
  have hcard : c.cardinalityError given vs = none := by simp [Collector.cardinalityError, hl]
  simp only [EStateM.run, update, hc, hcard]
  cases hfind : c.series.find? (·.values == vs) with
  | some s =>
    obtain ⟨s1, hs1⟩ := hf c s hk
    exact ⟨{ r with collectors := r.collectors.set i (c.putSeries s1) }, by simp only [hs1]⟩
  | none =>
    obtain ⟨s, hs⟩ := hn vs
    obtain ⟨s1, hs1⟩ := hf (c.putSeries s) s (by simpa using hk)
    exact ⟨{ r with collectors := r.collectors.set i ((c.putSeries s).putSeries s1) },
      by simp only [hs, hs1, Except.map]⟩

/-- Places holding collectors of different kinds are different places. -/
theorem Takes.ne {r : Registry} {i j : Nat} {k k' : Kind} {n n' : Nat} (hi : r.Takes i k n)
    (hj : r.Takes j k' n') (hk : k ≠ k') : i ≠ j := by
  rintro rfl
  obtain ⟨c, hc, hck, -⟩ := hi
  obtain ⟨c', hc', hck', -⟩ := hj
  rw [hc] at hc'
  cases hc'
  exact hk (hck.symm.trans hck')

/-- Places holding collectors that take different numbers of label values are different
places. -/
theorem Takes.ne_of_length {r : Registry} {i j : Nat} {k k' : Kind} {n n' : Nat}
    (hi : r.Takes i k n) (hj : r.Takes j k' n') (hn : n ≠ n') : i ≠ j := by
  rintro rfl
  obtain ⟨c, hc, -, hcl, -⟩ := hi
  obtain ⟨c', hc', -, hcl', -⟩ := hj
  rw [hc] at hc'
  cases hc'
  exact hn (hcl.symm.trans hcl')

/-- The series of the label values at a place, once it is made. -/
def seriesOf (r : Registry) (i : Nat) (vs : List String) : Option Series :=
  r.collectors[i]?.bind fun c => c.series.find? (·.values == vs)

/-- The value of the series of the label values at a place, zero before it is made. -/
def valueOf (r : Registry) (i : Nat) (vs : List String) : Double :=
  ((r.seriesOf i vs).map (·.value)).getD Double.zero

theorem seriesOf_set {r : Registry} {i : Nat} {c x : Collector} (hc : r.collectors[i]? = some c)
    (vs : List String) :
    ({ r with collectors := r.collectors.set i x } : Registry).seriesOf i vs =
      x.series.find? (·.values == vs) := by
  obtain ⟨hi, -⟩ := List.getElem?_eq_some_iff.mp hc
  simp [seriesOf, hi]

/-- An update changes no series but the one of its place and values. -/
theorem seriesOf_after_update (r : Registry) {i j : Nat} {given : Bool} {vs ws : List String}
    {f : Collector → Series → Except String Series} (hf : KeepsValues f) (h : j ≠ i ∨ ws ≠ vs) :
    (after (update i given vs f) r).seriesOf j ws = r.seriesOf j ws := by
  rcases after_update r i given vs hf with he | ⟨c, x, hc, -, hfind, he⟩ <;> rw [he]
  by_cases hji : j = i
  · subst hji
    rw [seriesOf_set hc, hfind ws (h.resolve_left (not_not.mpr rfl))]
    simp [seriesOf, hc]
  · simp [seriesOf, List.getElem?_set_ne (Ne.symm hji)]

theorem valueOf_after_update (r : Registry) {i j : Nat} {given : Bool} {vs ws : List String}
    {f : Collector → Series → Except String Series} (hf : KeepsValues f) (h : j ≠ i ∨ ws ≠ vs) :
    (after (update i given vs f) r).valueOf j ws = r.valueOf j ws := by
  simp only [valueOf, seriesOf_after_update r hf h]

/-- A successful update of a collector puts the change of the series of its values: of the
series it had, or of a new one. -/
theorem seriesOf_update_ok {r r' : Registry} {i : Nat} {c : Collector} {given : Bool}
    {vs : List String} {f : Collector → Series → Except String Series} (hf : KeepsValues f)
    (hc : r.collectors[i]? = some c) (hu : (update i given vs f).run r = .ok () r') :
    ∃ c1 s s', c1.kind = c.kind ∧ f c1 s = .ok s' ∧ r'.seriesOf i vs = some s' ∧
      (r.seriesOf i vs = some s ∨ r.seriesOf i vs = none ∧ c.newSeries vs = .ok s) := by
  simp only [EStateM.run, update, hc] at hu
  have hold : r.seriesOf i vs = c.series.find? (·.values == vs) := by simp [seriesOf, hc]
  cases hcard : c.cardinalityError given vs with
  | some e => simp only [hcard] at hu; cases hu
  | none =>
    cases hfind : c.series.find? (·.values == vs) with
    | some s =>
      have hs : s.values = vs := by simpa using List.find?_some hfind
      cases hf1 : f c s with
      | error e => simp only [hcard, hfind, hf1] at hu; cases hu
      | ok s1 =>
        simp only [hcard, hfind, hf1, EStateM.Result.ok.injEq, true_and] at hu
        subst hu
        refine ⟨c, s, s1, rfl, hf1, ?_, .inl (hold.trans hfind)⟩
        rw [seriesOf_set hc, Collector.find_putSeries, if_pos ((hf c s s1 hf1).trans hs)]
    | none =>
      cases hn : c.newSeries vs with
      | error e => simp only [hcard, hfind, hn, Except.map] at hu; cases hu
      | ok s =>
        have hs : s.values = vs := (Collector.newSeries_ok hn).1
        cases hf1 : f (c.putSeries s) s with
        | error e => simp only [hcard, hfind, hn, hf1, Except.map] at hu; cases hu
        | ok s1 =>
          simp only [hcard, hfind, hn, hf1, Except.map, EStateM.Result.ok.injEq, true_and] at hu
          subst hu
          refine ⟨c.putSeries s, s, s1, by simp, hf1, ?_, .inr ⟨hold.trans hfind, rfl⟩⟩
          rw [seriesOf_set hc, Collector.find_putSeries, if_pos ((hf _ s s1 hf1).trans hs)]

/-- A registry none of whose collectors has a series reads zero everywhere. -/
theorem valueOf_of_series_nil {r : Registry} (h : ∀ c ∈ r.collectors, c.series = [])
    (i : Nat) (vs : List String) : r.valueOf i vs = Double.zero := by
  unfold valueOf seriesOf
  cases hc : r.collectors[i]? with
  | none => rfl
  | some c => simp [h c (List.mem_of_getElem? hc)]

theorem after_of_ok {α : Type} {op : Op α} {r r' : Registry} {a : α} (h : op.run r = .ok a r') :
    after op r = r' := by
  unfold after
  rw [h]

/-- A change that went through went through its first step, then the rest. -/
theorem run_bind_ok {α β : Type} {x : Op α} {f : α → Op β} {r r'' : Registry} {b : β}
    (h : (x >>= f).run r = .ok b r'') : ∃ a r', x.run r = .ok a r' ∧ (f a).run r' = .ok b r'' := by
  rw [EStateM.run_bind] at h
  cases hx : x.run r with
  | ok a r' => rw [hx] at h; exact ⟨a, r', rfl, h⟩
  | error e r' => rw [hx] at h; cases h

theorem run_bind_of_ok {α β : Type} {x : Op α} {f : α → Op β} {r r' : Registry} {a : α}
    (h : x.run r = .ok a r') : (x >>= f).run r = (f a).run r' := by
  rw [EStateM.run_bind, h]

theorem run_bind_of_error {α β : Type} {x : Op α} {f : α → Op β} {r r' : Registry} {e : String}
    (h : x.run r = .error e r') : (x >>= f).run r = .error e r' := by
  rw [EStateM.run_bind, h]

/-- A family whose description is invalid is refused, whatever the registry holds. -/
theorem family_run_of_problem {r : Registry} {kind : Kind} {name help : String}
    {labels : List String} {bounds : List Double} {p : String}
    (hp : (r.collectorFor kind true name help labels bounds).desc.problem = some p) :
    ∃ e, (family kind name help labels bounds).run r = .error e r := by
  have hobt : (obtain (r.collectorFor kind true name help labels bounds)).run r =
      .error ("descriptor " ++ (r.collectorFor kind true name help labels bounds).desc.text ++
        " is invalid: " ++ p) r := by
    simp only [obtain, EStateM.run, register, hp]
  unfold family
  rw [run_bind_of_ok (EStateM.run_get _), run_bind_of_error hobt]
  exact ⟨_, rfl⟩

/-- A family with a valid description, under a name that no collector of the registry has, is
added last. -/
theorem family_run_of_fresh {r : Registry} {kind : Kind} {name help : String}
    {labels : List String} {bounds : List Double}
    (hfresh : ∀ c ∈ r.collectors,
      c.desc.name ≠ (r.collectorFor kind true name help labels bounds).desc.name)
    (hp : (r.collectorFor kind true name help labels bounds).desc.problem = none) :
    (family kind name help labels bounds).run r =
      .ok r.collectors.length (r.add (r.collectorFor kind true name help labels bounds)) := by
  have hfind : r.collectors.findIdx?
      (·.desc.name == (r.collectorFor kind true name help labels bounds).desc.name) = none := by
    simpa [List.findIdx?_eq_none_iff] using hfresh
  have hobt : (obtain (r.collectorFor kind true name help labels bounds)).run r =
      .ok r.collectors.length (r.add (r.collectorFor kind true name help labels bounds)) := by
    simp only [obtain, EStateM.run, register, hp, hfind]
  -- the family added last has the kind asked for
  have hchk : (check r.collectors.length kind).run
      (r.add (r.collectorFor kind true name help labels bounds)) =
      .ok () (r.add (r.collectorFor kind true name help labels bounds)) := by
    simp [check, EStateM.run, typeCheck, add, collectorFor]
  unfold family
  rw [run_bind_of_ok (EStateM.run_get _), run_bind_of_ok hobt, run_bind_of_ok hchk]
  rfl

/-- A family registered under a fresh name was valid, and was added last. -/
theorem family_ok_of_fresh {r r' : Registry} {kind : Kind} {name help : String}
    {labels : List String} {bounds : List Double} {i : Nat}
    (hfresh : ∀ c ∈ r.collectors,
      c.desc.name ≠ (r.collectorFor kind true name help labels bounds).desc.name)
    (h : (family kind name help labels bounds).run r = .ok i r') :
    (r.collectorFor kind true name help labels bounds).desc.problem = none ∧
      i = r.collectors.length ∧ r' = r.add (r.collectorFor kind true name help labels bounds) := by
  cases hp : (r.collectorFor kind true name help labels bounds).desc.problem with
  | some p =>
    obtain ⟨e, he⟩ := family_run_of_problem hp
    rw [he] at h
    cases h
  | none =>
    rw [family_run_of_fresh hfresh hp] at h
    cases h
    exact ⟨rfl, rfl, rfl⟩

/-- Registrations that go through after a family registered under a fresh name: the family was
valid, and the rest ran on the registry with it added last. -/
theorem family_bind_ok {β : Type} {k : Nat → Op β} {r r' : Registry} {kind : Kind}
    {name help : String} {labels : List String} {bounds : List Double} {b : β}
    (hfresh : ∀ c ∈ r.collectors,
      c.desc.name ≠ (r.collectorFor kind true name help labels bounds).desc.name)
    (h : (family kind name help labels bounds >>= k).run r = .ok b r') :
    (r.collectorFor kind true name help labels bounds).desc.problem = none ∧
      (k r.collectors.length).run (r.add (r.collectorFor kind true name help labels bounds)) =
        .ok b r' := by
  obtain ⟨i, r1, h1, h2⟩ := run_bind_ok h
  obtain ⟨hp, rfl, rfl⟩ := family_ok_of_fresh hfresh h1
  exact ⟨hp, h2⟩

end Registry

namespace Collectors

open Registry

/-- What adding to a counter or a gauge makes of a series. -/
theorem bump_change {c : Collector} {s s' : Series} {x : Double}
    (h : (if c.kind = .counter then s.addCounter x else s.addGauge x) = .ok s') :
    s' = { s with value := s.value.add x } := by
  split at h
  · unfold Series.addCounter at h
    split at h
    · cases h
    · cases h; rfl
  · cases h; rfl

theorem keepsValues_bump (x : Double) :
    KeepsValues fun c s => if c.kind = .counter then s.addCounter x else s.addGauge x := by
  intro c s s' h
  rw [bump_change h]

theorem keepsShapes_bump (i : Nat) (vs : List String) (x : Double) : KeepsShapes (bump i vs x) :=
  keepsShapes_update i true vs (keepsValues_bump x)

/-- Adding to a counter or a gauge changes no other series. -/
theorem valueOf_after_bump (r : Registry) {i j : Nat} {vs ws : List String} (x : Double)
    (h : j ≠ i ∨ ws ≠ vs) : (after (bump i vs x) r).valueOf j ws = r.valueOf j ws :=
  valueOf_after_update r (keepsValues_bump x) h

/-- Adding to a counter or a gauge succeeds on a collector that takes the values, unless it
takes away from a counter. -/
theorem bump_ok {r : Registry} {i : Nat} {k : Kind} {vs : List String} {x : Double}
    (ht : r.Takes i k vs.length) (hx : k = .counter → Double.lt x Double.zero = false) :
    ∃ r', (bump i vs x).run r = .ok () r' := by
  refine update_ok ht fun c s hk => ?_
  by_cases hc : c.kind = .counter
  · rw [if_pos hc]
    have hlt := hx (hk ▸ hc)
    exact ⟨_, by simp only [Series.addCounter, hlt]; rfl⟩
  · rw [if_neg hc]
    exact ⟨_, rfl⟩

/-- Adding to a counter or a gauge adds to the value of the series of its values. -/
theorem valueOf_bump {r r' : Registry} {i : Nat} {c : Collector} {vs : List String} {x : Double}
    (hc : r.collectors[i]? = some c) (hu : (bump i vs x).run r = .ok () r') :
    r'.valueOf i vs = (r.valueOf i vs).add x := by
  obtain ⟨c1, s, s', -, hf, hnew, hold⟩ := seriesOf_update_ok (keepsValues_bump x) hc hu
  have hv : r.valueOf i vs = s.value := by
    rcases hold with h | ⟨h, hn⟩
    · simp [valueOf, h]
    · simp [valueOf, h, (Collector.newSeries_ok hn).2]
  rw [hv]
  simp [valueOf, hnew, bump_change hf]

theorem keepsValues_observe (x : Double) : KeepsValues fun col s => s.observe col.seriesBounds x := by
  intro col s s' h
  simp only [Series.observe, Except.ok.injEq] at h
  rw [← h]

theorem keepsShapes_observeOutcome (c : Collectors) (job outcome : String) (wait : Duration) :
    KeepsShapes (c.observeOutcome job outcome wait) :=
  (keepsShapes_bump _ _ _).bind fun _ => keepsShapes_update _ _ _ (keepsValues_observe _)

theorem keepsShapes_finishAbandoned (c : Collectors) (job : String) :
    KeepsShapes (c.finishAbandoned job) :=
  (keepsShapes_bump _ _ _).bind fun _ => keepsShapes_bump _ _ _

/-- The collectors hold at their places what `make` registers there, if anything: counters
of the executions by job and outcome, of the refused calls and of the late ends by job, a
histogram of the waits by outcome and a gauge of the abandoned works; each can make any of
its series. -/
structure Fits (c : Collectors) (r : Registry) : Prop where
  executions : r.Takes c.executions .counter 2
  invalidDeadline : r.Takes c.invalidDeadline .counter 0
  waitSeconds : r.Takes c.waitSeconds .histogram 1
  abandonedRunning : r.Takes c.abandonedRunning .gauge 0
  abandonedFinished : r.Takes c.abandonedFinished .counter 1

namespace Fits

variable {c : Collectors} {r : Registry} (hf : c.Fits r)
include hf

theorem of_shapes {r' : Registry} (h : r'.shapes = r.shapes) : c.Fits r' :=
  ⟨hf.executions.of_shapes h, hf.invalidDeadline.of_shapes h, hf.waitSeconds.of_shapes h,
    hf.abandonedRunning.of_shapes h, hf.abandonedFinished.of_shapes h⟩

theorem of_ok {α : Type} {op : Op α} (hop : KeepsShapes op) {r' : Registry} {a : α}
    (h : op.run r = .ok a r') : c.Fits r' :=
  hf.of_shapes (after_of_ok h ▸ hop r)

theorem rejectDeadline_ok : ∃ r', c.rejectDeadline.run r = .ok () r' :=
  bump_ok hf.invalidDeadline fun _ => by decide +kernel

/-- Refusing a call adds one to the counter of refused calls and changes no other series. -/
theorem rejectDeadline_spec : ∃ r', c.rejectDeadline.run r = .ok () r' ∧
    r'.valueOf c.invalidDeadline [] = (r.valueOf c.invalidDeadline []).add (Double.ofInt 1) ∧
    ∀ i vs, (i ≠ c.invalidDeadline ∨ vs ≠ []) → r'.seriesOf i vs = r.seriesOf i vs := by
  obtain ⟨r', h⟩ := hf.rejectDeadline_ok
  obtain ⟨col, hc, -⟩ := hf.invalidDeadline
  refine ⟨r', h, valueOf_bump hc h, fun i vs hne => ?_⟩
  rw [← after_of_ok h]
  exact seriesOf_after_update r (keepsValues_bump _) hne

theorem abandon_ok : ∃ r', c.abandon.run r = .ok () r' :=
  bump_ok hf.abandonedRunning fun h => by cases h

theorem revertAbandon_ok : ∃ r', c.revertAbandon.run r = .ok () r' :=
  bump_ok hf.abandonedRunning fun h => by cases h

theorem observeOutcome_ok (job outcome : String) (wait : Duration) :
    ∃ r', (c.observeOutcome job outcome wait).run r = .ok () r' := by
  have ht : r.Takes c.executions .counter [job, outcome].length := hf.executions
  obtain ⟨r1, h1⟩ : ∃ r1, (bump c.executions [job, outcome] (Double.ofInt 1)).run r = .ok () r1 :=
    bump_ok ht fun _ => by decide +kernel
  have ht1 : r1.Takes c.waitSeconds .histogram [outcome].length :=
    (hf.of_ok (keepsShapes_bump _ _ _) h1).waitSeconds
  obtain ⟨r2, h2⟩ : ∃ r2, (Registry.update c.waitSeconds true [outcome] fun col s =>
      s.observe col.seriesBounds wait.seconds).run r1 = .ok () r2 :=
    update_ok ht1 fun col s _ => ⟨_, rfl⟩
  exact ⟨r2, by simp only [observeOutcome, EStateM.run_bind, h1]; exact h2⟩

theorem finishAbandoned_ok (job : String) : ∃ r', (c.finishAbandoned job).run r = .ok () r' := by
  obtain ⟨r1, h1⟩ : ∃ r1, (bump c.abandonedRunning [] (Double.ofInt (-1))).run r = .ok () r1 :=
    bump_ok hf.abandonedRunning fun h => by cases h
  have ht1 : r1.Takes c.abandonedFinished .counter [job].length :=
    (hf.of_ok (keepsShapes_bump _ _ _) h1).abandonedFinished
  obtain ⟨r2, h2⟩ : ∃ r2, (bump c.abandonedFinished [job] (Double.ofInt 1)).run r1 = .ok () r2 :=
    bump_ok ht1 fun _ => by decide +kernel
  exact ⟨r2, by simp only [finishAbandoned, EStateM.run_bind, h1]; exact h2⟩

/-! The gauge of abandoned works moves by one with a mark, an unmark and a late end, and by
nothing with the other records of an executor, which are kept in other collectors. -/

theorem abandon_value {r' : Registry} (h : c.abandon.run r = .ok () r') :
    r'.valueOf c.abandonedRunning [] = (r.valueOf c.abandonedRunning []).add (Double.ofInt 1) := by
  obtain ⟨col, hc, -⟩ := hf.abandonedRunning
  exact valueOf_bump hc h

theorem revertAbandon_value {r' : Registry} (h : c.revertAbandon.run r = .ok () r') :
    r'.valueOf c.abandonedRunning [] =
      (r.valueOf c.abandonedRunning []).add (Double.ofInt (-1)) := by
  obtain ⟨col, hc, -⟩ := hf.abandonedRunning
  exact valueOf_bump hc h

theorem finishAbandoned_value {job : String} {r' : Registry}
    (h : (c.finishAbandoned job).run r = .ok () r') :
    r'.valueOf c.abandonedRunning [] =
      (r.valueOf c.abandonedRunning []).add (Double.ofInt (-1)) := by
  simp only [finishAbandoned, EStateM.run_bind] at h
  cases h1 : (bump c.abandonedRunning [] (Double.ofInt (-1))).run r with
  | error e r1 => rw [h1] at h; cases h
  | ok u r1 =>
    rw [h1] at h
    have hne : c.abandonedRunning ≠ c.abandonedFinished :=
      hf.abandonedRunning.ne hf.abandonedFinished (by decide)
    obtain ⟨col, hc, -⟩ := hf.abandonedRunning
    rw [← after_of_ok h, valueOf_after_bump r1 _ (.inl hne), valueOf_bump hc h1]

theorem observeOutcome_value {job outcome : String} {wait : Duration} {r' : Registry}
    (h : (c.observeOutcome job outcome wait).run r = .ok () r') :
    r'.valueOf c.abandonedRunning [] = r.valueOf c.abandonedRunning [] := by
  simp only [observeOutcome, EStateM.run_bind] at h
  cases h1 : (bump c.executions [job, outcome] (Double.ofInt 1)).run r with
  | error e r1 => rw [h1] at h; cases h
  | ok u r1 =>
    rw [h1] at h
    have hne1 : c.abandonedRunning ≠ c.executions :=
      hf.abandonedRunning.ne hf.executions (by decide)
    have hf1 : c.Fits r1 := hf.of_ok (keepsShapes_bump _ _ _) h1
    have hne2 : c.abandonedRunning ≠ c.waitSeconds :=
      hf1.abandonedRunning.ne hf1.waitSeconds (by decide)
    rw [← after_of_ok h, valueOf_after_update r1 (keepsValues_observe _) (.inl hne2),
      ← after_of_ok h1, valueOf_after_bump r _ (.inl hne1)]

/-! The counter of executions moves with an observed outcome only: by one in the series of
the job and the outcome observed. -/

theorem observeOutcome_executions {job outcome : String} {wait : Duration} {r' : Registry}
    (h : (c.observeOutcome job outcome wait).run r = .ok () r') (vs : List String) :
    r'.valueOf c.executions vs =
      if vs = [job, outcome] then (r.valueOf c.executions vs).add (Double.ofInt 1)
      else r.valueOf c.executions vs := by
  simp only [observeOutcome, EStateM.run_bind] at h
  cases h1 : (bump c.executions [job, outcome] (Double.ofInt 1)).run r with
  | error e r1 => rw [h1] at h; cases h
  | ok u r1 =>
    rw [h1] at h
    have hf1 : c.Fits r1 := hf.of_ok (keepsShapes_bump _ _ _) h1
    have hne : c.executions ≠ c.waitSeconds := hf1.executions.ne hf1.waitSeconds (by decide)
    rw [← after_of_ok h, valueOf_after_update r1 (keepsValues_observe _) (.inl hne)]
    obtain ⟨col, hc, -⟩ := hf.executions
    split
    · subst vs
      exact valueOf_bump hc h1
    · rw [← after_of_ok h1]
      exact valueOf_after_bump r _ (.inr ‹_›)

/-! The gauge and the late ends are kept apart from the counter of executions, by their
kinds or by their labels, also when they are another executor's collectors that fit the
same registry. -/

theorem abandon_executions {c' : Collectors} (hf' : c'.Fits r) {r' : Registry}
    (h : c'.abandon.run r = .ok () r') (vs : List String) :
    r'.valueOf c.executions vs = r.valueOf c.executions vs := by
  have hne : c.executions ≠ c'.abandonedRunning :=
    hf.executions.ne hf'.abandonedRunning (by decide)
  rw [← after_of_ok h]
  exact valueOf_after_bump r _ (.inl hne)

theorem revertAbandon_executions {c' : Collectors} (hf' : c'.Fits r) {r' : Registry}
    (h : c'.revertAbandon.run r = .ok () r') (vs : List String) :
    r'.valueOf c.executions vs = r.valueOf c.executions vs := by
  have hne : c.executions ≠ c'.abandonedRunning :=
    hf.executions.ne hf'.abandonedRunning (by decide)
  rw [← after_of_ok h]
  exact valueOf_after_bump r _ (.inl hne)

theorem finishAbandoned_executions {c' : Collectors} (hf' : c'.Fits r) {job : String}
    {r' : Registry} (h : (c'.finishAbandoned job).run r = .ok () r') (vs : List String) :
    r'.valueOf c.executions vs = r.valueOf c.executions vs := by
  simp only [finishAbandoned, EStateM.run_bind] at h
  cases h1 : (bump c'.abandonedRunning [] (Double.ofInt (-1))).run r with
  | error e r1 => rw [h1] at h; cases h
  | ok u r1 =>
    rw [h1] at h
    have hne1 : c.executions ≠ c'.abandonedRunning :=
      hf.executions.ne hf'.abandonedRunning (by decide)
    -- both count, but by job and outcome against by job alone
    have hne2 : c.executions ≠ c'.abandonedFinished :=
      hf.executions.ne_of_length hf'.abandonedFinished (by decide)
    rw [← after_of_ok h, valueOf_after_bump r1 _ (.inl hne2), ← after_of_ok h1,
      valueOf_after_bump r _ (.inl hne1)]

end Fits

/-- The names under which an executor's collectors are registered, in order. -/
def names : List String :=
  ["executions_total", "invalid_deadline_total", "wait_seconds", "abandoned_running",
    "abandoned_finished_total"]

/-- Under any namespace and subsystem the full names of an executor's collectors stay apart:
none of the names ends another. -/
theorem fullName_pairwise (space subsystem : String) :
    (names.map (fullName space subsystem)).Pairwise (· ≠ ·) := by
  have hs : names.Pairwise fun a b =>
      a ≠ "" ∧ b ≠ "" ∧ ¬ a.toList <:+ b.toList ∧ ¬ b.toList <:+ a.toList := by decide
  exact List.pairwise_map.2 (hs.imp fun h => fullName_ne space subsystem h.1 h.2.1 h.2.2.1 h.2.2.2)

/-- **Registering an executor's collectors in a new registry.** When it goes through, every
name was valid, the collectors fit the registry, and every series reads zero. -/
theorem make_ok_spec {space subsystem : String} {c : Collectors} {r : Registry}
    (h : make.run (Registry.empty ⟨space, subsystem, []⟩) = .ok c r) :
    (∀ n ∈ names, validMetricName (fullName space subsystem n) = true) ∧ c.Fits r ∧
      ∀ i vs, r.valueOf i vs = Double.zero := by
  have hd := fullName_pairwise space subsystem
  simp only [names, List.map_cons, List.map_nil, List.pairwise_cons, List.mem_cons,
    List.not_mem_nil, or_false, forall_eq_or_imp, forall_eq, List.Pairwise.nil] at hd
  -- five families in turn, each under a name none of the earlier ones has
  obtain ⟨hp1, h⟩ := family_bind_ok (by simp [Registry.empty]) h
  obtain ⟨hp2, h⟩ := family_bind_ok (by simp [Registry.empty, Registry.add, collectorFor, hd]) h
  obtain ⟨hp3, h⟩ := family_bind_ok (by simp [Registry.empty, Registry.add, collectorFor, hd]) h
  obtain ⟨hp4, h⟩ := family_bind_ok (by simp [Registry.empty, Registry.add, collectorFor, hd]) h
  obtain ⟨hp5, h⟩ := family_bind_ok (by simp [Registry.empty, Registry.add, collectorFor, hd]) h
  cases h
  refine ⟨?_, ?_, fun i vs => ?_⟩
  · -- each description was valid, so each name was
    have hv1 := validMetricName_of_problem hp1
    have hv2 := validMetricName_of_problem hp2
    have hv3 := validMetricName_of_problem hp3
    have hv4 := validMetricName_of_problem hp4
    have hv5 := validMetricName_of_problem hp5
    simp only [names, List.mem_cons, List.not_mem_nil, or_false, forall_eq_or_imp, forall_eq]
    exact ⟨hv1, hv2, hv3, hv4, hv5⟩
  · -- the counters and the gauge make any series; the histogram keeps the default buckets
    exact ⟨⟨_, rfl, rfl, rfl, fun _ => ⟨_, rfl⟩⟩, ⟨_, rfl, rfl, rfl, fun _ => ⟨_, rfl⟩⟩,
      ⟨_, rfl, rfl, rfl, Collector.newSeries_histogram rfl rfl
        (by simp [collectorFor, Registry.add, Registry.empty])⟩,
      ⟨_, rfl, rfl, rfl, fun _ => ⟨_, rfl⟩⟩, ⟨_, rfl, rfl, rfl, fun _ => ⟨_, rfl⟩⟩⟩
  · -- a new collector has no series
    exact valueOf_of_series_nil (by simp [Registry.add, Registry.empty, collectorFor]) i vs

/-- Registering an executor's collectors in a new registry goes through when all their full
names are valid. -/
theorem make_run_of_valid {space subsystem : String}
    (hv : ∀ n ∈ names, validMetricName (fullName space subsystem n) = true) :
    ∃ c r, make.run (Registry.empty ⟨space, subsystem, []⟩) = .ok c r := by
  have hd := fullName_pairwise space subsystem
  simp only [names, List.map_cons, List.map_nil, List.pairwise_cons, List.mem_cons,
    List.not_mem_nil, or_false, forall_eq_or_imp, forall_eq, List.Pairwise.nil] at hd
  -- each description has valid labels, so it is valid exactly when its name is
  have hp : ∀ (r : Registry) (kind : Kind) (name help : String) (labels : List String)
      (bounds : List Double), r.options.constLabels = [] →
      labels.find? (!validLabelName ·) = none → labels.eraseDups.length = labels.length →
      validMetricName (fullName r.options.space r.options.subsystem name) = true →
      (r.collectorFor kind true name help labels bounds).desc.problem = none :=
    fun r _ _ _ _ _ hc hl hn hname => (problem_eq_none_iff (by simp [collectorFor, hc]) hl hn).2 hname
  unfold make
  rw [run_bind_of_ok (family_run_of_fresh ?f1 ?p1), run_bind_of_ok (family_run_of_fresh ?f2 ?p2),
    run_bind_of_ok (family_run_of_fresh ?f3 ?p3), run_bind_of_ok (family_run_of_fresh ?f4 ?p4),
    run_bind_of_ok (family_run_of_fresh ?f5 ?p5)]
  · exact ⟨_, _, rfl⟩
  case f1 => simp [Registry.empty]
  case f2 | f3 | f4 | f5 => simp [Registry.empty, Registry.add, collectorFor, hd]
  case p1 | p2 | p3 | p4 | p5 =>
    exact hp _ _ _ _ _ _ rfl (by decide +kernel) (by decide +kernel) (hv _ (by simp [names]))

/-- Registering an executor's collectors in a new registry panics exactly when the namespace
and subsystem make one of their full names invalid. -/
theorem make_ok_iff (space subsystem : String) :
    (∃ c r, make.run (Registry.empty ⟨space, subsystem, []⟩) = .ok c r) ↔
      ∀ n ∈ names, validMetricName (fullName space subsystem n) = true :=
  ⟨fun ⟨_, _, h⟩ => (make_ok_spec h).1, make_run_of_valid⟩

end Collectors

end Timebox.Metrics
