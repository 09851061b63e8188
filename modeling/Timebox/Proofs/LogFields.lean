import Timebox.Log.Entry

/-! # Reading log arguments into fields

`parseFields` reads the arguments of a log call with a place that moves on by one or by two
and an array of the fields read so far. Its reference is `fieldsOf`, a recursion on the list
that says what each kind of argument gives:

* a ready field gives itself;
* a key gives itself with the argument after it, whatever that argument is, and both are
  consumed;
* a key with nothing after it gives nothing, and ends the list;
* anything else gives nothing.

Main statements: the loop computes the reference (`parseFields_eq_fieldsOf`, from the loop
invariant `toList_parseFieldsFrom`); hence no argument gives more than one field
(`length_parseFields_le`), the keys of the fields are keys of the arguments in their order
(`keys_parseFields_sublist`), and alternating keys and values give exactly their pairs
(`parseFields_keyValues`). `parseFields_matches_fieldsOf` puts the four together.
-/

namespace Timebox.Log

/-- The fields an argument list stands for, read from the front. -/
def fieldsOf : List Arg → List (String × Datum)
  | [] => []
  | .field k v :: rest => (k, .value v) :: fieldsOf rest
  | .value (.str k) :: x :: rest => (k, .ofArg x) :: fieldsOf rest
  | [.value (.str _)] => []
  | .value _ :: rest => fieldsOf rest

/-- The key an argument offers: a ready field's key, or a text. -/
def Arg.key? : Arg → Option String
  | .field k _ => some k
  | .value (.str k) => some k
  | .value _ => none

/-- Arguments given as alternating keys and values. -/
def keyValues (ps : List (String × Value)) : List Arg :=
  ps.flatMap fun p => [.value (.str p.1), .value p.2]

theorem drop_toList_eq_cons {args : Array Arg} {i : Nat} (h : i < args.size) :
    args.toList.drop i = args[i] :: args.toList.drop (i + 1) := by
  rw [List.drop_eq_getElem_cons (by simpa using h), Array.getElem_toList]

/-- The loop invariant: from place `i`, the loop adds to `acc` the fields of the arguments
from `i` on. -/
theorem toList_parseFieldsFrom (args : Array Arg) (i : Nat) (acc : Array (String × Datum)) :
    (parseFieldsFrom args i acc).toList = acc.toList ++ fieldsOf (args.toList.drop i) := by
  fun_induction parseFieldsFrom args i acc with
  | case1 i acc h k v hi ih =>
    rw [ih, drop_toList_eq_cons h, hi]
    simp [fieldsOf]
  | case2 i acc h k hi h1 ih =>
    rw [ih, drop_toList_eq_cons h, drop_toList_eq_cons h1, hi]
    simp [fieldsOf]
  | case3 i acc h k hi h1 =>
    -- the key is the last argument
    have hend : args.toList.drop (i + 1) = [] := by simp; omega
    rw [drop_toList_eq_cons h, hi, hend, fieldsOf.eq_4, List.append_nil]
  | case4 i acc h v hv hi ih =>
    rw [ih, drop_toList_eq_cons h, hi, fieldsOf.eq_5 _ _ (fun k _ _ _ => hv k) (fun k _ => hv k)]
  | case5 i acc h =>
    have hend : args.toList.drop i = [] := by simp; omega
    rw [hend, fieldsOf.eq_1, List.append_nil]

theorem parseFields_eq_fieldsOf (args : List Arg) : parseFields args = fieldsOf args := by
  simp [parseFields, toList_parseFieldsFrom]

theorem length_fieldsOf_le (args : List Arg) : (fieldsOf args).length ≤ args.length := by
  fun_induction fieldsOf args <;> simp <;> omega

theorem length_parseFields_le (args : List Arg) : (parseFields args).length ≤ args.length := by
  rw [parseFields_eq_fieldsOf]
  exact length_fieldsOf_le args

theorem keys_fieldsOf_sublist (args : List Arg) :
    ((fieldsOf args).map Prod.fst).Sublist (args.filterMap Arg.key?) := by
  fun_induction fieldsOf args with
  | case1 => exact List.Sublist.slnil
  | case2 k v rest ih => simpa [Arg.key?] using ih
  | case3 k x rest ih =>
    -- the value after a key is consumed, even when it offers a key itself
    have hx : (rest.filterMap Arg.key?).Sublist ((x :: rest).filterMap Arg.key?) := by
      cases hk : x.key? <;> simp [hk]
    simpa [Arg.key?] using ih.trans hx
  | case4 k => simp
  | case5 v rest hv1 hv2 ih =>
    -- a skipped argument is no text: a text is a key, with a value after it or last
    have hk : (Arg.value v).key? = none := by
      cases v with
      | str k =>
        cases rest with
        | nil => exact (hv2 k rfl rfl).elim
        | cons x r => exact (hv1 k x r rfl rfl).elim
      | _ => rfl
    simpa [hk] using ih

theorem keys_parseFields_sublist (args : List Arg) :
    ((parseFields args).map Prod.fst).Sublist (args.filterMap Arg.key?) := by
  rw [parseFields_eq_fieldsOf]
  exact keys_fieldsOf_sublist args

theorem fieldsOf_keyValues (ps : List (String × Value)) :
    fieldsOf (keyValues ps) = ps.map fun p => (p.1, .value (anyValue p.2)) := by
  induction ps with
  | nil => rfl
  | cons p ps ih =>
    simp only [keyValues, List.flatMap_cons, List.cons_append, List.nil_append] at ih ⊢
    rw [fieldsOf, ih]
    rfl

/-- Alternating keys and values give exactly their pairs, each value stored as the logging
library stores any value. -/
theorem parseFields_keyValues (ps : List (String × Value)) :
    parseFields (keyValues ps) = ps.map fun p => (p.1, .value (anyValue p.2)) := by
  rw [parseFields_eq_fieldsOf, fieldsOf_keyValues]

/-- A ready field among key/value pairs stays, the number after it is skipped, and the key
at the end is dropped. -/
example : (parseFields [.value (.str "a"), .value (.int .int 1), .field "b" (.str "2"),
    .value (.int .int 3), .value (.str "c")]).map Prod.fst = ["a", "b"] := by
  rw [parseFields_eq_fieldsOf]
  rfl

theorem parseFields_matches_fieldsOf :
    (∀ args : List Arg, parseFields args = fieldsOf args ∧
      (parseFields args).length ≤ args.length ∧
      ((parseFields args).map Prod.fst).Sublist (args.filterMap Arg.key?)) ∧
    ∀ ps : List (String × Value),
      parseFields (keyValues ps) = ps.map fun p => (p.1, .value (anyValue p.2)) :=
  ⟨fun args => ⟨parseFields_eq_fieldsOf args, length_parseFields_le args,
    keys_parseFields_sublist args⟩, parseFields_keyValues⟩

end Timebox.Log
