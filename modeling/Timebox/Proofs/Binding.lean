import Mathlib
import Timebox.Proofs.Arguments
import Timebox.Run.Bind

/-! # Binding a function and its arguments to a job

`bind ty callee args site` makes a job whose outcomes have type `ty` from a function and its
arguments. It refuses, in this order:

* a value that is no function (a nil, a nil function, a value of another type), with the
  `not a function` sentinel alone (`bind_not_func`);
* a function whose results give no outcome of type `ty`, with the `bad function signature`
  sentinel alone (`bind_bad_signature`). The results that give one (`Gives`) are none, one
  error, one value, or a value and an error, where an error is exactly the error interface
  and the value's type is assignable to `ty`; so a sole error result is the failure and never
  the value, even for `ty = error`;
* arguments that the parameters do not take, with the argument check's own error, the
  arguments sentinel alone (`bind_args_error`). A function whose first parameter is a context
  gets the context of the run there, and its arguments are checked from the second parameter
  on.

Otherwise (`bind_ok`) the job is named after the function and keeps the arguments, and its
work calls the function with the run's context and the converted arguments and takes from
the results the outcome's value (the zero value of `ty` when there is none) and its error
(the error result when it holds one).

The main statement is `bind_classifies`.
-/

namespace Timebox

namespace Binding

/-- The error a result holds; a nil result holds none. -/
def errorOf : Value → Option Fault
  | .error e => some e
  | _ => none

/-- The result types of a function that give an outcome of type `ty`, with how the results of
a call give the outcome's value and error. No result gives the zero value and no error; a
sole error result gives the zero value and that error; a sole value result, of a type other
than the error interface, gives that value; a value and an error give both. A value's type
is assignable to `ty`. -/
inductive Gives (ty : Ty) : List Ty → (List Value → Value × Option Fault) → Prop
  | nothing : Gives ty [] fun _ => (Value.zero ty, none)
  | error : Gives ty [.error] fun outs => (Value.zero ty, errorOf (outs.getD 0 .nil))
  | value {u : Ty} : u ≠ .error → u.assignableTo ty = true →
      Gives ty [u] fun outs => (outs.getD 0 (Value.zero ty), none)
  | valueError {u : Ty} : u.assignableTo ty = true →
      Gives ty [u, .error] fun outs => (outs.getD 0 (Value.zero ty), errorOf (outs.getD 1 .nil))

/-! ### Where the results are -/

/-- The places of the value and the error among the results, by the results' shape. -/
theorem resultPlaces_eq_some {outs : List Ty} {vi ei : Option Nat} :
    resultPlaces outs = some (vi, ei) ↔
      (outs = [] ∧ vi = none ∧ ei = none) ∨ (outs = [.error] ∧ vi = none ∧ ei = some 0) ∨
      (∃ u, u ≠ .error ∧ outs = [u] ∧ vi = some 0 ∧ ei = none) ∨
      (∃ u, outs = [u, .error] ∧ vi = some 0 ∧ ei = some 1) := by
  unfold resultPlaces
  split <;> grind

/-- What a binding takes from a call's results: the result at the value's place, or the zero
value of its type when there is none, and the error that the result at the error's place
holds. -/
theorem pick_eq (b : Binding) (outs : List Value) :
    b.pick outs =
      ((b.valueIndex.bind (outs[·]?)).getD (Value.zero b.ty),
        errorOf ((b.errorIndex.bind (outs[·]?)).getD .nil)) := by
  unfold pick
  simp only [Prod.mk.injEq]
  constructor
  · rcases b.valueIndex.bind (outs[·]?) with _ | v <;> rfl
  · rcases b.errorIndex.bind (outs[·]?) with _ | v
    · rfl
    · cases v <;> rfl

/-- A binding made for results of a shape that gives outcomes takes them as `Gives` says. -/
theorem gives_pick {f : Func} {ty : Ty} {vi ei : Option Nat}
    (hp : resultPlaces f.outs = some (vi, ei))
    (hv : ∀ t, vi.bind (f.outs[·]?) = some t → t.assignableTo ty = true) :
    Gives ty f.outs (pick ⟨f, ty, f.acceptsContext, vi, ei⟩) := by
  rcases resultPlaces_eq_some.mp hp with ⟨ho, rfl, rfl⟩ | ⟨ho, rfl, rfl⟩ | ⟨u, hu, ho, rfl, rfl⟩ |
    ⟨u, ho, rfl, rfl⟩ <;> rw [ho]
  · convert Gives.nothing using 1
    funext outs
    simp [pick_eq, errorOf]
  · convert Gives.error using 1
    funext outs
    simp [pick_eq]
  · convert Gives.value hu (hv u (by simp [ho])) using 1
    funext outs
    simp [pick_eq, errorOf]
  · convert Gives.valueError (hv u (by simp [ho])) using 1
    funext outs
    simp [pick_eq]

/-- The results give an outcome one way only. -/
theorem Gives.unique {ty : Ty} {outs : List Ty} {p q : List Value → Value × Option Fault}
    (hp : Gives ty outs p) (hq : Gives ty outs q) : p = q := by
  cases hp <;> cases hq <;> simp_all

/-! ### Making the binding -/

section Make

variable {ty : Ty} {f : Func}

theorem make_func :
    make ty (.func f) =
      match resultPlaces f.outs with
      | none =>
        .error (.wrap (f.name ++ " returns " ++ toString f.outs.length ++ " value(s) of '" ++
          f.type.name ++ "'") (.sentinel .badSignature))
      | some (vi, ei) =>
        match vi.bind (f.outs[·]?) with
        | some t =>
          if t.assignableTo ty then .ok ⟨f, ty, f.acceptsContext, vi, ei⟩
          else .error (.wrap (f.name ++ " returns '" ++ t.name ++ "', not assignable to '" ++
            ty.name ++ "'") (.sentinel .badSignature))
        | none => .ok ⟨f, ty, f.acceptsContext, vi, ei⟩ := rfl

/-- A binding of a function is the function with its context flag and places, its results
giving outcomes as `Gives` says. -/
theorem make_func_ok {b : Binding} (h : make ty (.func f) = .ok b) :
    b.func = f ∧ b.ty = ty ∧ b.withContext = f.acceptsContext ∧ Gives ty f.outs b.pick := by
  rw [make_func] at h
  split at h
  · simp at h
  · rename_i vi ei hp
    split at h
    · rename_i t ht
      split at h
      · rename_i hta
        simp only [Except.ok.injEq] at h
        subst h
        refine ⟨rfl, rfl, rfl, gives_pick hp fun t' ht' => ?_⟩
        rw [ht] at ht'
        cases ht'
        exact hta
      · simp at h
    · rename_i ht
      simp only [Except.ok.injEq] at h
      subst h
      exact ⟨rfl, rfl, rfl, gives_pick hp fun t' ht' => by simp [ht] at ht'⟩

/-- Results that give outcomes of a type are the places of a binding. -/
theorem make_func_of_gives {parts : List Value → Value × Option Fault}
    (hg : Gives ty f.outs parts) : ∃ b, make ty (.func f) = .ok b := by
  rw [make_func]
  generalize f.outs = outs at hg ⊢
  cases hg with
  | nothing => exact ⟨_, rfl⟩
  | error => exact ⟨_, rfl⟩
  | @value u hu ha =>
    have hp : resultPlaces [u] = some (some 0, none) := resultPlaces_eq_some.mpr (by simp [hu])
    simp only [hp, Option.bind_some, List.getElem?_cons_zero, ha, if_true]
    exact ⟨_, rfl⟩
  | valueError ha =>
    simp only [resultPlaces, Option.bind_some, List.getElem?_cons_zero, ha, if_true]
    exact ⟨_, rfl⟩

/-- A function is refused only with the bad-signature sentinel. -/
theorem make_func_error {e : Fault} (h : make ty (.func f) = .error e) :
    e.sentinels = [.badSignature] := by
  rw [make_func] at h
  split at h
  · simp only [Except.error.injEq] at h
    simp [← h, Fault.sentinels, Sentinel.all, Fault.isSentinel]
  · split at h
    · split at h
      · simp at h
      · simp only [Except.error.injEq] at h
        simp [← h, Fault.sentinels, Sentinel.all, Fault.isSentinel]
    · simp at h

end Make

end Binding

/-! ### The job -/

namespace Func

/-- A function takes the run's context exactly when its first parameter is a context. -/
theorem acceptsContext_iff (f : Func) :
    f.acceptsContext = true ↔ ∃ rest, f.ins = .context :: rest := by
  unfold acceptsContext
  split
  · rename_i rest h
    exact ⟨fun _ => ⟨rest, h⟩, fun _ => rfl⟩
  · rename_i h
    simp only [Bool.false_eq_true, false_iff, not_exists]
    exact h

/-- The parameters a binding skips: the context's, when the function takes one. -/
def contextSkip (f : Func) : Nat := if f.acceptsContext then 1 else 0

theorem contextSkip_cast (f : Func) :
    ((f.contextSkip : Nat) : Int) = if f.acceptsContext then 1 else 0 := by
  unfold contextSkip
  split <;> rfl

/-- The context's parameter is skipped exactly when the first parameter is a context. -/
theorem contextSkip_eq_one_iff (f : Func) : f.contextSkip = 1 ↔ f.ins.head? = some .context := by
  unfold contextSkip
  split
  · rename_i h
    obtain ⟨rest, hr⟩ := (acceptsContext_iff f).mp h
    simp [hr]
  · rename_i h
    rw [acceptsContext_iff, not_exists] at h
    cases hi : f.ins with
    | nil => simp
    | cons a rest => simpa [hi] using h rest

/-- The context's parameter is one of the function's. -/
theorem contextSkip_le (f : Func) : f.contextSkip ≤ f.ins.length := by
  unfold contextSkip
  split
  · rename_i h
    obtain ⟨rest, hr⟩ := (acceptsContext_iff f).mp h
    simp [hr]
  · exact Nat.zero_le _

/-- Skipping the context never skips the variadic parameter: a typed variadic function has a
slice last, which is no context. -/
theorem not_allSkipped_contextSkip {f : Func} (hf : f.WellTyped) :
    ¬ AllSkipped f f.contextSkip := by
  rintro ⟨hv, hn⟩
  obtain ⟨t, ht⟩ := hf hv
  unfold contextSkip at hn
  split at hn
  · -- a lone context parameter would be the variadic slice
    rename_i h
    obtain ⟨rest, hr⟩ := (acceptsContext_iff f).mp h
    rw [hr] at hn ht
    have : rest = [] := List.eq_nil_of_length_eq_zero (by simpa using hn.symm)
    simp [this] at ht
  · simp [List.eq_nil_of_length_eq_zero hn.symm] at ht

end Func

section Bind

variable {ty : Ty} {args : List Value} {site : Frame}

/-- A value that is no function is refused with the not-a-function sentinel alone. -/
theorem bind_not_func {callee : Callee} (h : ∀ f, callee ≠ .func f) :
    ∃ e, bind ty callee args site = .error (.error e) ∧ e.sentinels = [.notFunc] := by
  cases callee with
  | func f => exact absurd rfl (h f)
  | nil | value _ | nilFunc _ =>
    exact ⟨_, rfl, by simp [Fault.sentinels, Sentinel.all, Fault.isSentinel]⟩

/-- A function whose results give no outcome of the type is refused with the bad-signature
sentinel alone. -/
theorem bind_bad_signature {f : Func} (h : ¬ ∃ parts, Binding.Gives ty f.outs parts) :
    ∃ e, bind ty (.func f) args site = .error (.error e) ∧ e.sentinels = [.badSignature] := by
  rcases hm : Binding.make ty (.func f) with e | b
  · exact ⟨e, by simp [bind, hm], Binding.make_func_error hm⟩
  · exact absurd ⟨_, (Binding.make_func_ok hm).2.2.2⟩ h

/-- The job made from a binding and checked arguments. -/
theorem bind_of_make {f : Func} {b : Binding} (hm : Binding.make ty (.func f) = .ok b) :
    bind ty (.func f) args site =
      (f.args f.contextSkip args).map fun vs => Job.make f.name (some (b.work vs)) args site := by
  obtain ⟨hf, -, hc, -⟩ := Binding.make_func_ok hm
  simp only [bind, hm, Binding.bind, hc, hf, Func.contextSkip_cast]
  cases f.args (if f.acceptsContext = true then 1 else 0) args <;> rfl

/-- Arguments the parameters do not take are refused with the argument check's error, the
arguments sentinel alone; for a typed function the check never panics here. -/
theorem bind_args_error {f : Func} (hf : f.WellTyped) {parts : List Value → Value × Option Fault}
    (hg : Binding.Gives ty f.outs parts) {fl : Failure} (h : f.args f.contextSkip args = .error fl) :
    ∃ e, fl = .error e ∧ e.sentinels = [.args] ∧ bind ty (.func f) args site = .error fl := by
  obtain ⟨b, hm⟩ := Binding.make_func_of_gives hg
  have hskip := Func.contextSkip_le f
  cases fl with
  | panic p =>
    have := (Func.args_panic_iff hf hskip).mp ⟨p, h⟩
    exact absurd this.1 (Func.not_allSkipped_contextSkip hf)
  | error e =>
    refine ⟨e, rfl, Func.args_error_sentinels hskip h, ?_⟩
    rw [bind_of_make hm, h]
    rfl

/-- Arguments the parameters take give the job named after the function with the arguments,
whose work calls the function with the run's context and the converted arguments. -/
theorem bind_ok {f : Func} {parts : List Value → Value × Option Fault}
    (hg : Binding.Gives ty f.outs parts) {vs : List Value} (h : f.args f.contextSkip args = .ok vs) :
    ∃ w, bind ty (.func f) args site = .ok ⟨f.name, args, some w⟩ ∧ w.name = f.name ∧
      w.site = site ∧ ∀ c, w.run c = (f.body c vs).map parts := by
  obtain ⟨b, hm⟩ := Binding.make_func_of_gives hg
  obtain ⟨hbf, hbt, -, hpick⟩ := Binding.make_func_ok hm
  -- the results give the outcome one way only
  have hparts : b.pick = parts := hpick.unique hg
  refine ⟨{ b.work vs with site }, ?_, by simp [Binding.work, hbf], rfl, fun c => ?_⟩
  · rw [bind_of_make hm, h]
    simp [Job.make, Binding.work, hbf, Except.map]
  · simp [Binding.work, hbf, hparts]

end Bind

/-- **Binding classifies functions and binds calls.** For every result type `ty`, value given
as a function and argument list:

* a value that is no function is refused with the not-a-function sentinel alone;
* a function whose results give no outcome of type `ty` (`Binding.Gives`: none, one error,
  one value of a type other than the error interface, or a value and an error, a value's type
  assignable to `ty`) is refused with the bad-signature sentinel alone;
* otherwise the context is passed to a function exactly when its first parameter is a
  context, and the arguments are checked from the parameter after it on: for a typed function
  a failed check is the binding's error, the arguments sentinel alone;
* and a passed check gives the job named after the function with the arguments, whose work
  calls the function with the run's context and the converted arguments and takes the
  outcome from the results as `Binding.Gives` says: a sole error result is the failure. -/
theorem bind_classifies (ty : Ty) (callee : Callee) (args : List Value) (site : Frame) :
    ((∀ f, callee ≠ .func f) →
      ∃ e, bind ty callee args site = .error (.error e) ∧ e.sentinels = [.notFunc]) ∧
    ∀ f, callee = .func f →
      ((¬ ∃ parts, Binding.Gives ty f.outs parts) →
        ∃ e, bind ty callee args site = .error (.error e) ∧ e.sentinels = [.badSignature]) ∧
      ∀ parts, Binding.Gives ty f.outs parts →
        (f.contextSkip = 1 ↔ f.ins.head? = some .context) ∧
        (f.WellTyped → ∀ fl, f.args f.contextSkip args = .error fl →
          ∃ e, fl = .error e ∧ e.sentinels = [.args] ∧ bind ty callee args site = .error fl) ∧
        ∀ vs, f.args f.contextSkip args = .ok vs →
          ∃ w, bind ty callee args site = .ok ⟨f.name, args, some w⟩ ∧ w.site = site ∧
            ∀ c, w.run c = (f.body c vs).map parts := by
  refine ⟨bind_not_func, ?_⟩
  rintro f rfl
  refine ⟨bind_bad_signature, fun parts hg => ⟨?_, fun hf _ h => bind_args_error hf hg h,
    fun vs h => ?_⟩⟩
  · exact Func.contextSkip_eq_one_iff f
  · obtain ⟨w, hb, -, hs, hr⟩ := bind_ok hg h
    exact ⟨w, hb, hs, hr⟩

end Timebox
