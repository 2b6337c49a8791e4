import FieldRules.Library
import FieldRules.Proofs.Limits
import FieldRules.Proofs.TextKeys

/-!
# Libraries with added functions

A library is asked in two ways: whether it knows a kind, when a schema is compiled, and for the check
of that kind, when a value is checked. For a library made of the built-in checks and of functions added
under names the two agree at every key, and what is found can be used.

Built-in checks never find fault with a schema. Such a failure can therefore only come from a function
that was called, which matters to all who want to tell the failures of a schema from those of its use.

## Main definitions

* `Value.Adds` — the items that add a function
* `Check.IsUsable`, `Library.IsUsable` — checks that are built in or functions, and libraries of them
* `Library.AddsFunctions` — the built-in checks with functions added under names

## Main statements

* `Library.IsUsable.check?_eq` — the check under a key is that of what is listed
* `Library.IsUsable.contains_eq_isSome_check?` — what is known has a check
* `Library.IsUsable.isUsable_of_check?` — every check that is found is usable
* `Library.check?_standard` — the checks of the library without additions
* `Check.exists_call_of_run_eq_schema_error` — where failures of schemas come from
-/

namespace FieldRules

/-! ## Checks that can be used -/

/-- An item adds a function to a library: it is the function, or it gives the function a name of its
own. -/
inductive Value.Adds : Value → FunctionId → Prop
  | function {f : FunctionId} : Adds (.function f) f
  | named {name : Value} {f : FunctionId} : Adds (.named name (.function f)) f

namespace Check

/-- A check that is built in or a function. -/
def IsUsable : Check → Prop
  | .builtin _ => True
  | .supplied (.function _) => True
  | .supplied _ => False

/-- A usable check that finds fault with a schema does so through a function that is called. -/
theorem exists_call_of_run_eq_schema_error {s : Surroundings} {check : Check}
    (husable : check.IsUsable) {value options : Value} {items : Mapping} {fault : SchemaFault}
    (h : (check.run s value options (.mapping items)).result = .error (.schema fault)) :
    ∃ call ∈ (check.run s value options (.mapping items)).calls,
      s.answer call.function call.arguments = .error (.schema fault) := by
  cases check with
  | builtin kind =>
      exfalso
      cases hj : kind.judge s value options (.mapping items) with
      | ok verdict => simp [run, hj, Except.map] at h
      | error failure =>
          obtain rfl : failure = .schema fault := by simpa [run, hj, Except.map] using h
          cases (Kind.judge_eq_error_iff kind).mp hj
  | supplied item =>
      cases item with
      | function f => exact ⟨_, List.mem_singleton_self _, h⟩
      | _ => simp [IsUsable] at husable

end Check

/-! ## Libraries -/

namespace Library

/-- A library of the built-in checks and of functions that are added under names. -/
def AddsFunctions (lib : Library) : Prop :=
  ∃ extra : Mapping, (∀ item ∈ extra, ∃ name f, item = (.text name, .function f)) ∧
    extend (.mapping extra) = .ok lib

theorem extend_mapping (extra : Mapping) : extend (.mapping extra) = .ok (standard.add extra) := by
  cases extra <;> rfl

/-- Every listing of a library is under a name and has a usable check. -/
def IsUsable (lib : Library) : Prop :=
  ∀ entry ∈ lib.listings, (∃ name, entry.1 = .text name) ∧ entry.2.check.IsUsable

theorem isUsable_standard : standard.IsUsable := by
  simp [IsUsable, standard, Check.IsUsable]

theorem check_listingOf {key item : Value} {f : FunctionId} (h : item.Adds f) :
    (listingOf key item).check = .supplied (.function f) := by
  cases h <;> rfl

/-- Items are added one after the other, and each keeps the library usable. -/
theorem IsUsable.add {lib : Library} (h : lib.IsUsable) {extra : Mapping}
    (hextra : ∀ item ∈ extra, ∃ name f, item.1 = .text name ∧ item.2.Adds f) :
    (lib.add extra).IsUsable := by
  induction extra generalizing lib with
  | nil => exact h
  | cons item rest ih =>
      obtain ⟨⟨name, f, hname, hitem⟩, hrest⟩ := List.forall_mem_cons.mp hextra
      have hcheck : (listingOf item.1 item.2).check.IsUsable := by
        rw [check_listingOf hitem]
        trivial
      have hput : Library.IsUsable ⟨Mapping.put lib.listings item.1 (listingOf item.1 item.2)⟩ :=
        Mapping.forall_mem_put (P := fun key => ∃ name, key = .text name)
          (Q := fun listing : Listing => listing.check.IsUsable) h ⟨name, hname⟩ hcheck
      exact ih hput hrest

theorem AddsFunctions.isUsable {lib : Library} (h : lib.AddsFunctions) : lib.IsUsable := by
  obtain ⟨extra, hextra, hlib⟩ := h
  rw [extend_mapping] at hlib
  obtain rfl : standard.add extra = lib := by simpa using hlib
  refine isUsable_standard.add fun item hitem => ?_
  obtain ⟨name, f, rfl⟩ := hextra item hitem
  exact ⟨name, f, rfl, .function⟩

variable {lib : Library}

/-- What a usable library lists is a check, and one that can be used. -/
theorem IsUsable.check?_of_listing? (h : lib.IsUsable) {key : Value} {listing : Listing}
    (hlisting : lib.listing? key = some listing) :
    lib.check? key = some listing.check ∧ listing.check.IsUsable := by
  obtain ⟨k, hmem⟩ := Mapping.mem_of_get?_eq_some hlisting
  have husable := (h _ hmem).2
  refine ⟨?_, husable⟩
  obtain ⟨name, kind | item⟩ := listing
  · simp [check?, hlisting]
  · cases item with
    | null => simp [Check.IsUsable] at husable
    | _ => simp [check?, hlisting]

/-- The check of a usable library is that of what is listed. -/
theorem IsUsable.check?_eq (h : lib.IsUsable) (key : Value) :
    lib.check? key = (lib.listing? key).map Listing.check := by
  cases hlisting : lib.listing? key with
  | none => simp [check?, hlisting]
  | some listing => exact (h.check?_of_listing? hlisting).1

/-- What is found in a usable library can be used. -/
theorem IsUsable.isUsable_of_check? (h : lib.IsUsable) {key : Value} {check : Check}
    (hcheck : lib.check? key = some check) : check.IsUsable := by
  rw [h.check?_eq] at hcheck
  obtain ⟨listing, hlisting, rfl⟩ := Option.map_eq_some_iff.mp hcheck
  exact (h.check?_of_listing? hlisting).2

/-- A usable library knows exactly what it has a check for. -/
theorem IsUsable.contains_eq_isSome_check? (h : lib.IsUsable) (key : Value) :
    lib.contains key = (lib.check? key).isSome := by
  rw [contains_eq_isSome_listing?, h.check?_eq, Option.isSome_map]

/-- A usable library knows names only. -/
theorem IsUsable.exists_text_of_contains (h : lib.IsUsable) {key : Value}
    (hkey : lib.contains key = true) : ∃ name, key = .text name := by
  obtain ⟨entry, hentry, hsame⟩ := List.any_eq_true.mp hkey
  obtain ⟨name, hname⟩ := (h entry hentry).1
  rw [hname] at hsame
  exact ⟨name, Value.same_text_right_iff.mp hsame⟩

/-- The library without additions has the built-in checks under their names. -/
theorem check?_standard (name : String) :
    standard.check? (.text name) = (Kind.ofName? name).map .builtin := by
  have hfind : ∀ kinds : List Kind,
      Mapping.get? (kinds.map fun kind => (Value.text kind.name, Listing.mk (.text kind.name)
        (.builtin kind))) (.text name) =
      (kinds.find? (·.name = name)).map fun kind => ⟨.text kind.name, .builtin kind⟩ := by
    intro kinds
    induction kinds with
    | nil => rfl
    | cons kind rest ih =>
        rw [List.map_cons, Mapping.get?_cons, ih, List.find?_cons]
        by_cases hname : kind.name = name
        · simp [hname]
        · have hsame : (Value.text name).same (.text kind.name) = false := by
            rw [Bool.eq_false_iff]
            intro hsame
            exact hname (Value.text.inj (Value.same_text_left_iff.mp hsame))
          simp [hname, hsame]
  have hlisting : standard.listing? (.text name) =
      (Kind.ofName? name).map fun kind => ⟨.text kind.name, .builtin kind⟩ := hfind Kind.all
  cases h : Kind.ofName? name <;> simp [check?, hlisting, h]

end Library

end FieldRules
