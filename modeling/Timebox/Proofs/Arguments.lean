import Mathlib
import Timebox.Call.Menu

/-! # Checking arguments against a function's parameters

`Func.args f skip args` checks arguments against the parameters of `f` from `skip` on. This
module says exactly what it does for every function the language can type (a variadic
function's last parameter is a slice, `WellTyped`), every skip from zero to the number of
parameters and every argument list.

The argument at position `i` after the skip goes to parameter `skip + i`, or, from the
variadic parameter on, to the element type of the variadic slice (`paramFor`). An argument
fits its parameter when it is the nil of a type that has one or has a type assignable to it
(`Takes`), and a list fits when its length does (`ArityFits`) and each argument does
(`ArgsFit`).

* `args_panic_iff`: the check fails with a bounds panic exactly when the skip passes every
  parameter of a variadic function and arguments remain: it then looks for the variadic
  parameter before the first parameter.
* Otherwise the check succeeds exactly when the arguments fit (`args_ok_iff`) and gives them
  converted, each nil as its parameter's zero value (`args_ok_spec`); a wrong count is
  reported before any argument (`args_arity_error`) and else the first argument that does
  not fit is named by its position among all parameters (`args_element_error`). With no
  skip, the values are what a reflective call of the function accepts (`callFits_of_args`).
* `args_exact` puts these together.
-/

namespace Timebox

namespace Ty

/-! ### Assignability -/

@[simp] theorem underlying_named (n : String) (e : Bool) (u : Option Ty) :
    (Ty.named n e u).underlying = u := rfl

@[simp] theorem isNamed_named (n : String) (e : Bool) (u : Option Ty) :
    (Ty.named n e u).isNamed = true := rfl

theorem underlying_of_isNamed_false {u : Ty} (hu : u.isNamed = false) : u.underlying = some u := by
  cases u <;> simp_all [isNamed, underlying]

/-- A defined type and its underlying type literal are assignable to each other. -/
theorem assignableTo_named_literal {n : String} {e : Bool} {u : Ty} (hu : u.isNamed = false) :
    (Ty.named n e (some u)).assignableTo u = true ∧ u.assignableTo (.named n e (some u)) = true := by
  have h := underlying_of_isNamed_false hu
  simp [assignableTo, sameUnderlying, h, hu]

example : (Ty.named "main.IDs" false (some (.slice (.int .int)))).assignableTo
    (.slice (.int .int)) = true := by decide

/-- Between two types that both have names, the underlying types do not matter: a type is
assignable only to itself, or to an interface it implements. -/
theorem assignableTo_of_isNamed {v t : Ty} (hv : v.isNamed = true) (ht : t.isNamed = true) :
    v.assignableTo t = (v == t || (t.isInterface && v.implements t)) := by
  simp [assignableTo, hv, ht]

example : (Ty.named "main.Count" false (some (.int .int))).assignableTo (.int .int) = false := by
  decide

end Ty

namespace Func

/-! ### What the check is measured against -/

/-- A function type as the language builds it: a variadic function's last parameter is the
slice of its extra arguments. -/
def WellTyped (f : Func) : Prop :=
  f.variadic = true → ∃ t, f.ins.getLast? = some (.slice t)

/-- The type taken by the argument at position `k` among all parameters: its own parameter,
or from the variadic parameter on, the element type of the variadic slice. -/
def paramFor (f : Func) (k : Nat) : Option Ty :=
  if f.variadic = true ∧ f.ins.length ≤ k + 1 then
    match f.ins.getLast? with
    | some (.slice t) => some t
    | _ => none
  else f.ins[k]?

/-- A parameter of type `t` takes the argument: the nil, where `t` has a nil, or a value of a
type assignable to `t`. -/
def Takes (t : Ty) (a : Value) : Prop :=
  match a.ty? with
  | none => t.nilable = true
  | some vt => vt.assignableTo t = true

/-- `n` arguments after skipping `skip` parameters are as many as the parameters left, or for
a variadic function at least all of them but the variadic one. -/
def ArityFits (f : Func) (skip n : Nat) : Prop :=
  if f.variadic = true then f.ins.length ≤ skip + n + 1 else skip + n = f.ins.length

/-- The arguments fit the parameters from `skip` on: their number fits, and each is taken by
its parameter. -/
def ArgsFit (f : Func) (skip : Nat) (args : List Value) : Prop :=
  ArityFits f skip args.length ∧
    ∀ i (h : i < args.length), ∃ t, f.paramFor (skip + i) = some t ∧ Takes t args[i]

/-- The skip passes every parameter of a variadic function, the variadic one too. -/
def AllSkipped (f : Func) (skip : Nat) : Prop := f.variadic = true ∧ skip = f.ins.length

/-- What a reflective call passes for a parameter of type `t` without a panic: a value of a
type assignable to `t`, or the zero of an interface, which carries no type of its own. -/
def Passes (t : Ty) (v : Value) : Prop :=
  match v.ty? with
  | none => t.isInterface = true
  | some vt => vt.assignableTo t = true

/-- The values a reflective call of the function accepts: their number fits all its
parameters, and each passes for its parameter. -/
def CallFits (f : Func) (vs : List Value) : Prop :=
  ArityFits f 0 vs.length ∧ ∀ i (h : i < vs.length), ∃ t, f.paramFor i = some t ∧ Passes t vs[i]

/-- The value an argument becomes for a parameter of type `t`: the zero value of `t` for the
nil, the argument itself otherwise. -/
def converted (t : Ty) (a : Value) : Value :=
  match a.ty? with
  | none => Value.zero t
  | some _ => a

/-! ### One argument -/

theorem convert_ok_iff (a : Value) (t : Ty) : (∃ v, convert a t = .ok v) ↔ Takes t a := by
  unfold convert Takes
  split <;> split <;> simp_all

theorem convert_ok {a : Value} {t : Ty} {v : Value} (h : convert a t = .ok v) :
    v = converted t a := by
  unfold convert at h
  unfold converted
  split at h <;> split at h <;> simp_all

/-- A refused argument's error is the arguments sentinel and no other. -/
theorem convert_error_isSentinel {a : Value} {t : Ty} {e : Fault} (h : convert a t = .error e)
    (s : Sentinel) : e.isSentinel s = (s == .args) := by
  unfold convert at h
  split at h <;> split at h <;> simp only [reduceCtorEq, Except.error.injEq] at h <;>
    simp [← h, Fault.isSentinel]

/-- A converted argument passes for its parameter: a nil became the typed zero of a pointer,
map, slice, function or channel, or the zero of an interface. -/
theorem passes_converted {a : Value} {t : Ty} (h : Takes t a) : Passes t (converted t a) := by
  unfold Takes at h
  unfold converted
  split
  · rename_i hty
    rw [hty] at h
    cases t <;> simp_all [Ty.nilable, Value.zero, Passes, Value.ty?, Ty.isInterface,
      Ty.assignableTo]
  · rename_i vt hty
    simpa [Passes, hty] using h

/-! ### Where each argument goes -/

section Params

variable {f : Func}

theorem paramAt_drop (hf : f.WellTyped) {skip : Nat} (hskip : skip ≤ f.ins.length)
    (hcut : ¬ AllSkipped f skip) (i : Nat) :
    paramAt f.variadic (f.ins.drop skip) i = f.paramFor (skip + i) := by
  unfold paramAt paramFor
  by_cases hv : f.variadic = true
  · -- the last parameter is the variadic slice, and the skip leaves it in place
    obtain ⟨t, ht⟩ := hf hv
    have hlt : skip < f.ins.length := lt_of_le_of_ne hskip (fun h => hcut ⟨hv, h⟩)
    have hlast : (f.ins.drop skip).getLast? = some (.slice t) := by
      rw [List.getLast?_drop, if_neg (by omega), ht]
    simp only [hv, true_and, List.length_drop, hlast, ht, List.getElem?_drop]
    by_cases hk : f.ins.length ≤ skip + i + 1
    · rw [if_pos (by omega), if_pos hk]
    · rw [if_neg (by omega), if_neg hk]
  · simp [hv, List.getElem?_drop]

/-- With every parameter of a variadic function skipped, no parameter is left for an
argument. -/
theorem paramAt_nil (v : Bool) (i : Nat) : paramAt v [] i = none := by
  unfold paramAt
  split <;> simp

/-- Every argument position of a variadic function has a parameter. -/
theorem paramFor_isSome (hf : f.WellTyped) (hv : f.variadic = true) (k : Nat) :
    (f.paramFor k).isSome := by
  obtain ⟨t, ht⟩ := hf hv
  unfold paramFor
  split
  · simp [ht]
  · rename_i h
    have hlt : k < f.ins.length := by
      by_contra hk
      exact h ⟨hv, by omega⟩
    simp [hlt]

/-- For a fitting number of arguments every position has a parameter. -/
theorem paramFor_isSome_of_arity (hf : f.WellTyped) {skip n : Nat} (ha : ArityFits f skip n)
    {i : Nat} (hi : i < n) : (f.paramFor (skip + i)).isSome := by
  by_cases hv : f.variadic = true
  · exact paramFor_isSome hf hv _
  · rw [ArityFits, if_neg hv] at ha
    rw [paramFor, if_neg (fun h => hv h.1)]
    simp only [isSome_getElem?]
    omega

end Params

/-! ### The arguments one by one -/

section Convert

theorem add_one_add (i j : Nat) : i + 1 + j = i + (j + 1) := by omega

variable (f : Func) (skip : Nat) (ps : List Ty)

theorem convertAll_cons_none {i : Nat} (a : Value) (rest : List Value)
    (hp : paramAt f.variadic ps i = none) :
    ∃ p, convertAll f skip ps i (a :: rest) = .error (.panic p) := by
  simp [convertAll, hp]

theorem convertAll_cons_error {i : Nat} {a : Value} {rest : List Value} {t : Ty} {e : Fault}
    (hp : paramAt f.variadic ps i = some t) (hc : convert a t = .error e) :
    convertAll f skip ps i (a :: rest) =
      .error (.error (.wrap (f.name ++ " argument #" ++ toString (i + skip)) e)) := by
  simp [convertAll, hp, hc]

theorem convertAll_cons_ok {i : Nat} {a : Value} {rest : List Value} {t : Ty} {v : Value}
    (hp : paramAt f.variadic ps i = some t) (hc : convert a t = .ok v) :
    convertAll f skip ps i (a :: rest) = (convertAll f skip ps (i + 1) rest).map (v :: ·) := by
  simp only [convertAll, hp, hc]
  cases convertAll f skip ps (i + 1) rest <;> rfl

theorem forall_lt_cons (P : Nat → Value → Prop) (a : Value) (rest : List Value) :
    (∀ j (h : j < (a :: rest).length), P j (a :: rest)[j]) ↔
      P 0 a ∧ ∀ j (h : j < rest.length), P (j + 1) rest[j] := by
  constructor
  · intro h
    exact ⟨h 0 (by simp), fun j hj => h (j + 1) (by simpa using hj)⟩
  · rintro ⟨h0, h⟩ j hj
    cases j with
    | zero => exact h0
    | succ j => exact h j (by simpa using hj)

/-- The first argument converts when its parameter takes it, and then the list does when the
rest does. -/
theorem convertAll_cons_ok_iff (i : Nat) (a : Value) (rest : List Value) :
    (∃ vs, convertAll f skip ps i (a :: rest) = .ok vs) ↔
      (∃ t, paramAt f.variadic ps i = some t ∧ Takes t a) ∧
        ∃ vs, convertAll f skip ps (i + 1) rest = .ok vs := by
  rcases hp : paramAt f.variadic ps i with _ | t
  · obtain ⟨p, h⟩ := convertAll_cons_none f skip ps a rest hp
    simp [h]
  · rcases hc : convert a t with e | v
    · have : ¬ Takes t a := by rw [← convert_ok_iff, hc]; simp
      simp [convertAll_cons_error f skip ps hp hc, this]
    · have hv : Takes t a := (convert_ok_iff a t).mp ⟨v, hc⟩
      rw [convertAll_cons_ok f skip ps hp hc]
      cases convertAll f skip ps (i + 1) rest <;> simp [Except.map, hv]

theorem convertAll_ok_iff (i : Nat) (args : List Value) :
    (∃ vs, convertAll f skip ps i args = .ok vs) ↔
      ∀ j (h : j < args.length), ∃ t, paramAt f.variadic ps (i + j) = some t ∧ Takes t args[j] := by
  induction args generalizing i with
  | nil => simp [convertAll]
  | cons a rest ih =>
    rw [convertAll_cons_ok_iff, ih,
      forall_lt_cons (fun j a => ∃ t, paramAt f.variadic ps (i + j) = some t ∧ Takes t a)]
    simp only [Nat.add_zero, add_one_add]

/-- Converted arguments are the arguments, each nil turned into its parameter's zero. -/
theorem convertAll_ok (i : Nat) (args : List Value) {vs : List Value}
    (h : convertAll f skip ps i args = .ok vs) :
    vs.length = args.length ∧ ∀ j (h1 : j < args.length) (h2 : j < vs.length),
      ∃ t, paramAt f.variadic ps (i + j) = some t ∧ vs[j] = converted t args[j] := by
  induction args generalizing i vs with
  | nil =>
    simp only [convertAll, Except.ok.injEq] at h
    subst h
    simp
  | cons a rest ih =>
    rcases hp : paramAt f.variadic ps i with _ | t
    · obtain ⟨p, hq⟩ := convertAll_cons_none f skip ps a rest hp
      simp [hq] at h
    · rcases hc : convert a t with e | v
      · simp [convertAll_cons_error f skip ps hp hc] at h
      · rw [convertAll_cons_ok f skip ps hp hc] at h
        rcases hr : convertAll f skip ps (i + 1) rest with e | ws
        · simp [hr, Except.map] at h
        · simp only [hr, Except.map, Except.ok.injEq] at h
          subst h
          obtain ⟨hlen, hall⟩ := ih (i + 1) hr
          refine ⟨by simp [hlen], fun j h1 h2 => ?_⟩
          cases j with
          | zero => exact ⟨t, by simpa using hp, by simpa using convert_ok hc⟩
          | succ j =>
            obtain ⟨t', ht', hv'⟩ := hall j (by simpa using h1) (by simpa using h2)
            exact ⟨t', by rwa [add_one_add] at ht', by simpa using hv'⟩

/-- A panic comes only from an argument with no parameter. -/
theorem convertAll_panic (i : Nat) (args : List Value) {p : Value}
    (h : convertAll f skip ps i args = .error (.panic p)) :
    ∃ j < args.length, paramAt f.variadic ps (i + j) = none := by
  induction args generalizing i with
  | nil => simp [convertAll] at h
  | cons a rest ih =>
    rcases hp : paramAt f.variadic ps i with _ | t
    · exact ⟨0, by simp, by simpa using hp⟩
    · rcases hc : convert a t with e | v
      · simp [convertAll_cons_error f skip ps hp hc] at h
      · rw [convertAll_cons_ok f skip ps hp hc] at h
        rcases hr : convertAll f skip ps (i + 1) rest with e | ws
        · simp only [hr, Except.map, Except.error.injEq] at h
          subst h
          obtain ⟨j, hj, hn⟩ := ih (i + 1) hr
          exact ⟨j + 1, by simpa using hj, by rwa [add_one_add] at hn⟩
        · simp [hr, Except.map] at h

/-- Every error of the arguments is the arguments sentinel, wrapped, and no other. -/
theorem convertAll_error_isSentinel (i : Nat) (args : List Value) {e : Fault}
    (h : convertAll f skip ps i args = .error (.error e)) (s : Sentinel) :
    e.isSentinel s = (s == .args) := by
  induction args generalizing i with
  | nil => simp [convertAll] at h
  | cons a rest ih =>
    rcases hp : paramAt f.variadic ps i with _ | t
    · simp [convertAll, hp] at h
    · rcases hc : convert a t with e' | v
      · rw [convertAll_cons_error f skip ps hp hc] at h
        simp only [Except.error.injEq, Failure.error.injEq] at h
        subst h
        simpa [Fault.isSentinel] using convert_error_isSentinel hc s
      · rw [convertAll_cons_ok f skip ps hp hc] at h
        rcases hr : convertAll f skip ps (i + 1) rest with e' | ws
        · simp only [hr, Except.map, Except.error.injEq] at h
          exact ih (i + 1) (by rw [hr, h])
        · simp [hr, Except.map] at h

/-- The first argument that its parameter does not take is named by its position among all
parameters, and the error wraps why it is not taken. -/
theorem convertAll_element_error (i : Nat) (args : List Value) {j : Nat} (hj : j < args.length)
    (hbefore : ∀ k < j, ∃ t, paramAt f.variadic ps (i + k) = some t ∧ Takes t (args.getD k .nil))
    {t : Ty} (ht : paramAt f.variadic ps (i + j) = some t) (hbad : ¬ Takes t args[j]) :
    ∃ e, convert args[j] t = .error e ∧
      convertAll f skip ps i args =
        .error (.error (.wrap (f.name ++ " argument #" ++ toString (i + j + skip)) e)) := by
  induction args generalizing i j with
  | nil => simp at hj
  | cons a rest ih =>
    cases j with
    | zero =>
      simp only [Nat.add_zero] at ht
      rcases hc : convert a t with e | v
      · exact ⟨e, by simpa using hc, by rw [convertAll_cons_error f skip ps ht hc, Nat.add_zero]⟩
      · exact absurd ((convert_ok_iff a t).mp ⟨v, hc⟩) (by simpa using hbad)
    | succ j =>
      obtain ⟨t0, ht0, hv0⟩ := hbefore 0 (by omega)
      simp only [Nat.add_zero, List.getD_cons_zero] at ht0 hv0
      obtain ⟨v, hv⟩ := (convert_ok_iff a t0).mpr hv0
      obtain ⟨e, he, hrest⟩ := ih (i + 1) (show j < rest.length by simpa using hj)
        (fun k hk => by
          simpa [add_one_add] using hbefore (k + 1) (by omega))
        (by rwa [add_one_add]) (by simpa using hbad)
      refine ⟨e, by simpa using he, ?_⟩
      rw [convertAll_cons_ok f skip ps ht0 hv, hrest, add_one_add]
      rfl

end Convert

/-! ### The whole check -/

section Check

variable {f : Func} {skip : Nat} {args : List Value}

/-- Within the parameters, the check is the count, then the arguments one by one. -/
theorem args_of_le (hskip : skip ≤ f.ins.length) :
    f.args skip args =
      if f.variadic = true ∧ args.length + 1 < f.ins.length - skip then
        .error (.error (.wrap (f.name ++ " needs at least " ++ toString (f.ins.length - skip - 1) ++
          " argument(s), got " ++ toString args.length) (.sentinel .args)))
      else if ¬ f.variadic = true ∧ args.length ≠ f.ins.length - skip then
        .error (.error (.wrap (f.name ++ " needs " ++ toString (f.ins.length - skip) ++
          " argument(s), got " ++ toString args.length) (.sentinel .args)))
      else convertAll f skip (f.ins.drop skip) 0 args := by
  have h0 : ¬ (skip : Int) < 0 := by omega
  have h1 : ¬ (skip : Int) > f.ins.length := by omega
  simp only [Func.args, h0, h1, if_false, Int.toNat_natCast, List.length_drop]

theorem arityFits_iff (hskip : skip ≤ f.ins.length) (n : Nat) :
    ArityFits f skip n ↔
      ¬ (f.variadic = true ∧ n + 1 < f.ins.length - skip) ∧
        ¬ (¬ f.variadic = true ∧ n ≠ f.ins.length - skip) := by
  unfold ArityFits
  split <;> simp_all <;> omega

/-- Every error of the check, of the count or of an argument, is the arguments sentinel and no
other. -/
theorem args_error_sentinels (hskip : skip ≤ f.ins.length) {e : Fault}
    (h : f.args skip args = .error (.error e)) : e.sentinels = [.args] := by
  have hs : ∀ s, e.isSentinel s = (s == .args) := by
    rw [args_of_le hskip] at h
    split at h
    · simp only [Except.error.injEq, Failure.error.injEq] at h
      simp [← h, Fault.isSentinel]
    · split at h
      · simp only [Except.error.injEq, Failure.error.injEq] at h
        simp [← h, Fault.isSentinel]
      · exact convertAll_error_isSentinel f skip _ 0 args h
  simp [Fault.sentinels, Sentinel.all, hs]

/-- Away from the panic, a position that holds an argument has its parameter where the
check looks for it. -/
theorem paramAt_drop_of_lt (hf : f.WellTyped) (hskip : skip ≤ f.ins.length)
    (hcut : ¬ (AllSkipped f skip ∧ args ≠ [])) {j : Nat} (hj : j < args.length) :
    paramAt f.variadic (f.ins.drop skip) j = f.paramFor (skip + j) :=
  paramAt_drop hf hskip (fun h => hcut ⟨h, List.ne_nil_of_length_pos (by omega)⟩) j

/-- The check panics exactly when the skip passes every parameter of a variadic function and
an argument is left. -/
theorem args_panic_iff (hf : f.WellTyped) (hskip : skip ≤ f.ins.length) :
    (∃ p, f.args skip args = .error (.panic p)) ↔ AllSkipped f skip ∧ args ≠ [] := by
  rw [args_of_le hskip]
  by_cases hcut : AllSkipped f skip
  · -- nothing is left to count, and no parameter is left for an argument
    obtain ⟨hv, rfl⟩ := hcut
    simp only [hv, true_and, Nat.sub_self, Nat.not_lt_zero, if_false, not_true_eq_false,
      false_and, List.drop_length]
    cases args with
    | nil => simp [convertAll]
    | cons a rest =>
      have := convertAll_cons_none f f.ins.length [] a rest (paramAt_nil _ 0)
      simpa [AllSkipped, hv] using this
  · simp only [hcut, false_and, iff_false, not_exists]
    intro p
    split
    · simp
    · split
      · simp
      · -- the count fits, so every argument has a parameter and none panics
        rename_i ha hb
        intro h
        obtain ⟨j, hj, hn⟩ := convertAll_panic f skip _ 0 args h
        have hfit : ArityFits f skip args.length := (arityFits_iff hskip _).mpr ⟨ha, hb⟩
        have hsome := paramFor_isSome_of_arity hf hfit hj
        rw [Nat.zero_add, paramAt_drop hf hskip hcut] at hn
        simp [hn] at hsome

/-- Away from the panic, the check succeeds exactly when the arguments fit. -/
theorem args_ok_iff (hf : f.WellTyped) (hskip : skip ≤ f.ins.length)
    (hcut : ¬ (AllSkipped f skip ∧ args ≠ [])) :
    (∃ vs, f.args skip args = .ok vs) ↔ ArgsFit f skip args := by
  rw [args_of_le hskip, ArgsFit, arityFits_iff hskip]
  split
  · rename_i ha; simp [ha]
  · split
    · rename_i ha hb; simp [hb]
    · rename_i ha hb
      rw [convertAll_ok_iff]
      simp only [ha, hb, not_false_eq_true, true_and, Nat.zero_add]
      exact forall_congr' fun j => forall_congr' fun hj => by
        rw [paramAt_drop_of_lt hf hskip hcut hj]

/-- A successful check gives the arguments, each nil as its parameter's zero value. -/
theorem args_ok_spec (hf : f.WellTyped) (hskip : skip ≤ f.ins.length)
    (hcut : ¬ (AllSkipped f skip ∧ args ≠ [])) {vs : List Value}
    (h : f.args skip args = .ok vs) :
    vs.length = args.length ∧ ∀ i (h1 : i < args.length) (h2 : i < vs.length),
      ∃ t, f.paramFor (skip + i) = some t ∧ vs[i] = converted t args[i] := by
  rw [args_of_le hskip] at h
  split at h
  · simp at h
  · split at h
    · simp at h
    · obtain ⟨hlen, hall⟩ := convertAll_ok f skip _ 0 args h
      refine ⟨hlen, fun i h1 h2 => ?_⟩
      obtain ⟨t, ht, hv⟩ := hall i h1 h2
      exact ⟨t, by rwa [Nat.zero_add, paramAt_drop_of_lt hf hskip hcut h1] at ht, hv⟩

/-- A wrong number of arguments is reported before any argument is looked at, wrapping the
arguments sentinel directly. -/
theorem args_arity_error (hskip : skip ≤ f.ins.length) (ha : ¬ ArityFits f skip args.length) :
    ∃ msg, f.args skip args = .error (.error (.wrap msg (.sentinel .args))) := by
  rw [arityFits_iff hskip, not_and_or, not_not, not_not] at ha
  rw [args_of_le hskip]
  rcases ha with ha | ha
  · exact ⟨_, by rw [if_pos ha]⟩
  · by_cases hv : f.variadic = true ∧ args.length + 1 < f.ins.length - skip
    · exact ⟨_, by rw [if_pos hv]⟩
    · exact ⟨_, by rw [if_neg hv, if_pos ha]⟩

/-- When the number fits, the first argument its parameter does not take is named by its
position among all parameters. -/
theorem args_element_error (hf : f.WellTyped) (hskip : skip ≤ f.ins.length)
    (hcut : ¬ (AllSkipped f skip ∧ args ≠ [])) (ha : ArityFits f skip args.length) {i : Nat}
    (hi : i < args.length)
    (hbefore : ∀ k < i, ∃ t, f.paramFor (skip + k) = some t ∧ Takes t (args.getD k .nil))
    {t : Ty} (ht : f.paramFor (skip + i) = some t) (hbad : ¬ Takes t args[i]) :
    ∃ e, convert args[i] t = .error e ∧
      f.args skip args =
        .error (.error (.wrap (f.name ++ " argument #" ++ toString (skip + i)) e)) := by
  rw [arityFits_iff hskip] at ha
  rw [args_of_le hskip, if_neg ha.1, if_neg ha.2]
  obtain ⟨e, he, h⟩ := convertAll_element_error f skip _ 0 args hi
    (fun k hk => by
      rw [Nat.zero_add, paramAt_drop_of_lt hf hskip hcut (by omega)]
      exact hbefore k hk)
    (by rwa [Nat.zero_add, paramAt_drop_of_lt hf hskip hcut hi]) hbad
  exact ⟨e, he, by rw [h, Nat.zero_add, Nat.add_comm]⟩

/-- Values the check gives with no skip are accepted by a reflective call of the function. -/
theorem callFits_of_args (hf : f.WellTyped) {vs : List Value} (h : f.args 0 args = .ok vs) :
    CallFits f vs := by
  have hskip : 0 ≤ f.ins.length := Nat.zero_le _
  -- a variadic function has a parameter, so no skip of zero passes them all
  have hcut : ¬ (AllSkipped f 0 ∧ args ≠ []) := by
    rintro ⟨⟨hv, h0⟩, -⟩
    obtain ⟨t, ht⟩ := hf hv
    simp [List.eq_nil_of_length_eq_zero h0.symm] at ht
  have hfit : ArgsFit f 0 args := (args_ok_iff hf hskip hcut).mp ⟨vs, h⟩
  obtain ⟨hlen, hall⟩ := args_ok_spec hf hskip hcut h
  refine ⟨by rw [hlen]; exact hfit.1, fun i hi => ?_⟩
  obtain ⟨t, ht, hv⟩ := hall i (by omega) hi
  obtain ⟨t', ht', htakes⟩ := hfit.2 i (by omega)
  rw [ht] at ht'
  cases ht'
  refine ⟨t, by simpa using ht, ?_⟩
  rw [hv]
  exact passes_converted htakes

end Check

/-- **The argument check, exactly.** For every function the language can type, every skip
from zero to its number of parameters and every argument list:

* the check panics exactly when the skip passes every parameter of a variadic function and
  an argument is left;
* otherwise it succeeds exactly when the arguments fit, giving them with each nil as its
  parameter's zero value, and every error it gives is the arguments sentinel alone; a wrong count is reported before any argument, wrapping the
  arguments sentinel directly; and else the first argument its parameter does not take is
  named by its position among all parameters, wrapping why it is not taken;
* the values it gives with no skip are accepted by a reflective call of the function. -/
theorem args_exact (f : Func) (hf : f.WellTyped) (skip : Nat) (hskip : skip ≤ f.ins.length)
    (args : List Value) :
    ((∃ p, f.args skip args = .error (.panic p)) ↔ AllSkipped f skip ∧ args ≠ []) ∧
    (¬ (AllSkipped f skip ∧ args ≠ []) →
      ((∃ vs, f.args skip args = .ok vs) ↔ ArgsFit f skip args) ∧
      (∀ e, f.args skip args = .error (.error e) → e.sentinels = [.args]) ∧
      (∀ vs, f.args skip args = .ok vs → vs.length = args.length ∧
        ∀ i (h1 : i < args.length) (h2 : i < vs.length),
          ∃ t, f.paramFor (skip + i) = some t ∧ vs[i] = converted t args[i]) ∧
      (¬ ArityFits f skip args.length →
        ∃ msg, f.args skip args = .error (.error (.wrap msg (.sentinel .args)))) ∧
      (ArityFits f skip args.length → ∀ i (hi : i < args.length),
        (∀ k < i, ∃ t, f.paramFor (skip + k) = some t ∧ Takes t (args.getD k .nil)) →
        ∀ t, f.paramFor (skip + i) = some t → ¬ Takes t args[i] →
        ∃ e, convert args[i] t = .error e ∧
          f.args skip args =
            .error (.error (.wrap (f.name ++ " argument #" ++ toString (skip + i)) e))) ∧
      (skip = 0 → ∀ vs, f.args skip args = .ok vs → CallFits f vs)) := by
  refine ⟨args_panic_iff hf hskip, fun hcut => ⟨args_ok_iff hf hskip hcut,
    fun _ h => args_error_sentinels hskip h, fun vs h => args_ok_spec hf hskip hcut h, args_arity_error hskip,
    fun ha i hi hb t ht hbad => args_element_error hf hskip hcut ha hi hb ht hbad, ?_⟩⟩
  rintro rfl vs h
  exact callFits_of_args hf h

/-- The check of `main.sumAll`, an `int` then any number of `int`s, at two arguments. -/
theorem args_exact_sumAll :
    ∃ f, Menu.lookup "main.sumAll" = some (.func f) ∧ f.WellTyped ∧ 0 ≤ f.ins.length ∧
      ((∃ p, f.args 0 [Value.ofInt 1, Value.ofInt 2] = .error (.panic p)) ↔
        AllSkipped f 0 ∧ [Value.ofInt 1, Value.ofInt 2] ≠ []) := by
  refine ⟨_, rfl, ?_⟩
  exact ⟨fun _ => ⟨_, rfl⟩, Nat.zero_le _,
    (args_exact _ (fun _ => ⟨_, rfl⟩) 0 (Nat.zero_le _) _).1⟩

/-- **Skipping the variadic parameter panics.** `main.sumAll` takes an `int` and then any
number of `int`s. With both parameters skipped one `int` fits, its place being past the
variadic parameter, yet the check panics looking for that parameter at index `-1`. -/
theorem sumAll_skip_all_panics :
    ∃ f, Menu.lookup "main.sumAll" = some (.func f) ∧ f.WellTyped ∧
      ArgsFit f 2 [Value.ofInt 5] ∧
      f.args 2 [Value.ofInt 5] = .error (.panic (.error
        (.runtime "runtime.boundsError" "runtime error: index out of range [-1]"))) := by
  refine ⟨_, rfl, fun _ => ⟨_, rfl⟩, ⟨by simp [ArityFits], fun i hi => ?_⟩, rfl⟩
  obtain rfl : i = 0 := by simpa using hi
  simp [paramFor, Takes, Value.ofInt, Value.ty?, Ty.assignableTo]

end Func

end Timebox
