import FieldRules.Proofs.Nesting
import FieldRules.Proofs.UnusableOptions

/-!
# Comparing fields is an equivalence

The check against another field goes by several ways: numbers by their exact values, where results that
are no numbers count as one, lists and tuples member by member, mappings by their keys, and everything
else by what containers take for one value. Keys are found as containers find them, so that one, one
point zero and true are one key, although as values they are compared more strictly. All the same the
comparison is reflexive, symmetric and transitive, for values whose sets and mappings hold nothing
twice.

It follows that a field always matches itself, a missing one included, as long as the stack suffices.
A value that lies deeper than this is not compared to the end, and there is no answer.

## Main definitions

* `Value.IsAlike` — how values are compared that the comparison does not go into
* `Value.wrapped` — a value that is nested as deep as one likes

## Main statements

* `Value.IsWellFormed.deepEqual_refl`, `Value.IsWellFormed.deepEqual_symm`,
  `Value.IsWellFormed.deepEqual_trans` — the comparison is an equivalence
* `Library.passes_sameAs` — a rule that compares fields
* `Library.matching_is_equivalence` — fields that match, and themselves
* `Library.not_always_matches_itself` — a field that does not
-/

namespace FieldRules

theorem Number.equal_or_isNan_iff {p q : Number} :
    p.equal q = true ∨ p.isNan = true ∧ q.isNan = true ↔ p.rank? = q.rank? := by
  cases hp : p.rank? <;> cases hq : q.rank? <;> simp [equal, isNan, hp, hq]

namespace Value

variable {a b c : Value} {xs ys : List Value}

/-! ## Values that are not gone into -/

/-- Two values are numbers of one exact value, or none at all both of them; or they are of one kind
other than numbers, and containers take them for one. -/
def IsAlike (a b : Value) : Prop :=
  (∃ p q, a.number? = some p ∧ b.number? = some q ∧ p.rank? = q.rank?) ∨
    (a.number? = none ∧ b.number? = none ∧ a.kindName = b.kindName ∧ a.same b = true)

theorem strictEqual_of_no_number (ha : a.number? = none) (hb : b.number? = none) :
    a.strictEqual b = true ↔ a.kindName = b.kindName ∧ a.same b = true := by
  have hnan : a.isNan = false := by
    cases a <;> first | rfl | cases ha
  cases a with
  | bool c =>
      cases b with
      | int | float => cases hb
      | bool d =>
          simp [strictEqual, isBool, kindName, same, sameAtom, numeric?, Number.same_truth_iff]
      | _ => simp [strictEqual, isBool, kindName]
  | _ =>
      cases b with
      | bool d => simp [strictEqual, kindName]
      | _ => simp [strictEqual, ha, hb, equal, hnan]

theorem deepEqualAtom_iff : a.deepEqualAtom b = true ↔ a.IsAlike b := by
  cases ha : a.number? with
  | some p =>
      cases hb : b.number? with
      | some q => simp [deepEqualAtom, IsAlike, ha, hb, Number.equal_or_isNan_iff]
      | none =>
          -- A number and a value of another kind are never equal.
          have hstrict : a.strictEqual b = false := by
            cases a <;> cases ha <;> cases b <;> cases hb <;> rfl
          simp [deepEqualAtom, IsAlike, ha, hb, hstrict]
  | none =>
      cases hb : b.number? with
      | some q =>
          have hstrict : a.strictEqual b = false := by
            cases b <;> cases hb <;> cases a <;> cases ha <;> rfl
          simp [deepEqualAtom, IsAlike, ha, hb, hstrict]
      | none => simp [deepEqualAtom, IsAlike, ha, hb, strictEqual_of_no_number ha hb]

theorem IsAlike.refl (ha : a.IsWellFormed) : a.IsAlike a := by
  cases hnumber : a.number? with
  | some p => exact .inl ⟨p, p, hnumber, hnumber, rfl⟩
  | none => exact .inr ⟨hnumber, hnumber, rfl, ha.same_refl⟩

theorem IsAlike.symm (ha : a.IsWellFormed) (hb : b.IsWellFormed) (h : a.IsAlike b) :
    b.IsAlike a := by
  rcases h with ⟨p, q, hp, hq, hrank⟩ | ⟨hp, hq, hkind, hsame⟩
  · exact .inl ⟨q, p, hq, hp, hrank.symm⟩
  · exact .inr ⟨hq, hp, hkind.symm, ha.same_symm hb hsame⟩

theorem IsAlike.trans (ha : a.IsWellFormed) (hab : a.IsAlike b) (hbc : b.IsAlike c) :
    a.IsAlike c := by
  rcases hab with ⟨p, q, hp, hq, hrank⟩ | ⟨hp, hq, hkind, hsame⟩
  · rcases hbc with ⟨q', r, hq', hr, hrank'⟩ | ⟨hq', -⟩
    · obtain rfl := Option.some.inj (hq.symm.trans hq')
      exact .inl ⟨p, r, hp, hr, hrank.trans hrank'⟩
    · rw [hq] at hq'
      cases hq'
  · rcases hbc with ⟨q', r, hq', -⟩ | ⟨-, hr, hkind', hsame'⟩
    · rw [hq] at hq'
      cases hq'
    · exact .inr ⟨hp, hr, hkind.trans hkind', ha.same_trans hsame hsame'⟩

/-- What is like a value that is not gone into is not gone into either. -/
theorem IsAlike.isWhole (h : a.IsAlike b) (ha : a.IsWhole) : b.IsWhole := by
  cases b with
  | list | tuple | mapping =>
      rcases h with ⟨_, _, -, hq, -⟩ | ⟨-, -, hkind, -⟩
      · cases hq
      · cases a <;> first | exact ha.elim | simp [kindName] at hkind
  | _ => trivial

theorem IsWhole.deepEqual_iff (ha : a.IsWhole) : a.deepEqual b = true ↔ a.IsAlike b := by
  rw [deepEqual_eq_deepEqualAtom ha, deepEqualAtom_iff]

namespace IsWhole

theorem deepEqual_refl (h : a.IsWhole) (ha : a.IsWellFormed) : a.deepEqual a = true :=
  h.deepEqual_iff.mpr (.refl ha)

theorem deepEqual_symm (h : a.IsWhole) (ha : a.IsWellFormed) (hb : b.IsWellFormed)
    (hab : a.deepEqual b = true) : b.deepEqual a = true := by
  have halike := h.deepEqual_iff.mp hab
  exact (halike.isWhole h).deepEqual_iff.mpr (halike.symm ha hb)

theorem deepEqual_trans (h : a.IsWhole) (ha : a.IsWellFormed) (hab : a.deepEqual b = true)
    (hbc : b.deepEqual c = true) : a.deepEqual c = true := by
  have halike := h.deepEqual_iff.mp hab
  have halike' := (halike.isWhole h).deepEqual_iff.mp hbc
  exact h.deepEqual_iff.mpr (halike.trans ha halike')

end IsWhole

/-! ## Values that are gone into -/

namespace IsSequence

theorem members (h : a.IsSequence xs) (ha : a.IsWellFormed) : ∀ x ∈ xs, x.IsWellFormed := by
  rcases h with rfl | rfl
  · exact ha.members_of_list
  · exact ha.members_of_tuple

theorem deepEqual_refl (h : a.IsSequence xs) (ih : ∀ x ∈ xs, x.deepEqual x = true) :
    a.deepEqual a = true :=
  (deepEqual_iff_of_isSequence h).mpr ⟨xs, h, List.forall₂_same.mpr ih⟩

theorem deepEqual_symm (h : a.IsSequence xs) (hb : b.IsWellFormed)
    (ih : ∀ x ∈ xs, ∀ y : Value, y.IsWellFormed → x.deepEqual y = true → y.deepEqual x = true)
    (hab : a.deepEqual b = true) : b.deepEqual a = true := by
  obtain ⟨ys, hys, hxy⟩ := (deepEqual_iff_of_isSequence h).mp hab
  refine (deepEqual_iff_of_isSequence hys).mpr ⟨xs, h, forall₂_symm_of_mem hxy ?_⟩
  exact fun x hx y hy => ih x hx y (hys.members hb y hy)

theorem deepEqual_trans (h : a.IsSequence xs) (hb : b.IsWellFormed) (hc : c.IsWellFormed)
    (ih : ∀ x ∈ xs, ∀ y z : Value, y.IsWellFormed → z.IsWellFormed → x.deepEqual y = true →
      y.deepEqual z = true → x.deepEqual z = true)
    (hab : a.deepEqual b = true) (hbc : b.deepEqual c = true) : a.deepEqual c = true := by
  obtain ⟨ys, hys, hxy⟩ := (deepEqual_iff_of_isSequence h).mp hab
  obtain ⟨zs, hzs, hyz⟩ := (deepEqual_iff_of_isSequence hys).mp hbc
  refine (deepEqual_iff_of_isSequence h).mpr ⟨zs, hzs, forall₂_trans_of_mem hxy hyz ?_⟩
  exact fun x hx y hy z hz => ih x hx y z (hys.members hb y hy) (hzs.members hc z hz)

end IsSequence

/-- The keys of two entries are the same, and their values compare as equal. -/
def deepEqualEntry (e f : Value × Value) : Prop :=
  e.1.same f.1 = true ∧ e.2.deepEqual f.2 = true

namespace IsWellFormed

/-- Mappings compare as equal if they have as many entries, and each entry of the first has one of the
second with the same key and an equal value. -/
theorem deepEqual_mapping_iff_isWithin {xs : Mapping} (ha : (Value.mapping xs).IsWellFormed)
    (hb : b.IsWellFormed) :
    (Value.mapping xs).deepEqual b = true ↔ ∃ ys, b = .mapping ys ∧ IsWithin deepEqualEntry xs ys := by
  obtain ⟨hakeys, -, -⟩ := ha.entries_of_mapping
  rw [deepEqual_mapping_iff]
  constructor
  · rintro ⟨ys, rfl, hlength, hvalues⟩
    refine ⟨ys, rfl, hlength, fun e he => ?_⟩
    obtain ⟨w, hw, hvalue⟩ := hvalues e he
    obtain ⟨k, hk, hkey⟩ := Mapping.exists_same_of_get?_eq_some hw
    exact ⟨(k, w), hk, hkey, hvalue⟩
  · rintro ⟨ys, rfl, hlength, hwithin⟩
    obtain ⟨hbkeys, -, hbdistinct⟩ := hb.entries_of_mapping
    refine ⟨ys, rfl, hlength, fun e he => ?_⟩
    obtain ⟨⟨k, w⟩, hk, hkey, hvalue⟩ := hwithin e he
    exact ⟨w, Mapping.get?_eq_some_of_mem hbkeys hbdistinct (hakeys e he) hk hkey, hvalue⟩

/-- Every value compares as equal to itself. -/
theorem deepEqual_refl (ha : a.IsWellFormed) : a.deepEqual a = true := by
  induction ha with
  | atom hmeaning => exact (isWhole_of_meaning hmeaning).deepEqual_refl (.atom hmeaning)
  | set hset hxs hdistinct =>
      exact (isWhole_of_isSet hset).deepEqual_refl (.set hset hxs hdistinct)
  | named hname hcheck => exact IsWhole.deepEqual_refl trivial (.named hname hcheck)
  | list _ ih => exact IsSequence.deepEqual_refl (.inl rfl) ih
  | tuple _ ih => exact IsSequence.deepEqual_refl (.inr rfl) ih
  | mapping hkeys hvalues hdistinct _ ihvalues =>
      have hown : (Value.mapping _).IsWellFormed := .mapping hkeys hvalues hdistinct
      refine (deepEqual_mapping_iff_isWithin hown hown).mpr ⟨_, rfl, .refl fun e he => ?_⟩
      exact ⟨(hkeys e he).same_refl, ihvalues e he⟩

/-- The comparison does not depend on which value comes first. -/
theorem deepEqual_symm (ha : a.IsWellFormed) (hb : b.IsWellFormed) (hab : a.deepEqual b = true) :
    b.deepEqual a = true := by
  induction ha generalizing b with
  | atom hmeaning => exact (isWhole_of_meaning hmeaning).deepEqual_symm (.atom hmeaning) hb hab
  | set hset hxs hdistinct =>
      exact (isWhole_of_isSet hset).deepEqual_symm (.set hset hxs hdistinct) hb hab
  | named hname hcheck => exact IsWhole.deepEqual_symm trivial (.named hname hcheck) hb hab
  | list _ ih => exact IsSequence.deepEqual_symm (.inl rfl) hb (fun x hx _ => ih x hx) hab
  | tuple _ ih => exact IsSequence.deepEqual_symm (.inr rfl) hb (fun x hx _ => ih x hx) hab
  | mapping hkeys hvalues hdistinct _ ihvalues =>
      have hown : (Value.mapping _).IsWellFormed := .mapping hkeys hvalues hdistinct
      obtain ⟨ys, rfl, hxy⟩ := (deepEqual_mapping_iff_isWithin hown hb).mp hab
      obtain ⟨hbkeys, hbvalues, -⟩ := hb.entries_of_mapping
      -- All keys are found in the second mapping, no two as one, so that it has no further ones.
      have hsymm := fun e he f hf => (hkeys e he).same_symm (hbkeys f hf)
      have hapart := pairwise_apart (R := deepEqualEntry) (fun _ _ h => h.1) hkeys hdistinct hsymm
      refine (deepEqual_mapping_iff_isWithin hb hown).mpr
        ⟨_, rfl, hxy.symm hapart fun e he f hf hef => ?_⟩
      exact ⟨hsymm e he f hf hef.1, ihvalues e he (hbvalues f hf) hef.2⟩

theorem deepEqual_trans (ha : a.IsWellFormed) (hb : b.IsWellFormed) (hc : c.IsWellFormed)
    (hab : a.deepEqual b = true) (hbc : b.deepEqual c = true) : a.deepEqual c = true := by
  induction ha generalizing b c with
  | atom hmeaning => exact (isWhole_of_meaning hmeaning).deepEqual_trans (.atom hmeaning) hab hbc
  | set hset hxs hdistinct =>
      exact (isWhole_of_isSet hset).deepEqual_trans (.set hset hxs hdistinct) hab hbc
  | named hname hcheck => exact IsWhole.deepEqual_trans trivial (.named hname hcheck) hab hbc
  | list _ ih =>
      exact IsSequence.deepEqual_trans (.inl rfl) hb hc (fun x hx _ _ => ih x hx) hab hbc
  | tuple _ ih =>
      exact IsSequence.deepEqual_trans (.inr rfl) hb hc (fun x hx _ _ => ih x hx) hab hbc
  | mapping hkeys hvalues hdistinct _ ihvalues =>
      have hown : (Value.mapping _).IsWellFormed := .mapping hkeys hvalues hdistinct
      obtain ⟨ys, rfl, hxy⟩ := (deepEqual_mapping_iff_isWithin hown hb).mp hab
      obtain ⟨zs, rfl, hyz⟩ := (deepEqual_mapping_iff_isWithin hb hc).mp hbc
      obtain ⟨-, hbvalues, -⟩ := hb.entries_of_mapping
      obtain ⟨-, hcvalues, -⟩ := hc.entries_of_mapping
      refine (deepEqual_mapping_iff_isWithin hown hc).mpr
        ⟨zs, rfl, hxy.trans hyz fun e he f hf g hg hef hfg => ?_⟩
      exact ⟨(hkeys e he).same_trans hef.1 hfg.1,
        ihvalues e he (hbvalues f hf) (hcvalues g hg) hef.2 hfg.2⟩

/-- The comparison is an equivalence between well-formed values. -/
theorem deepEqual_equivalence :
    Equivalence fun a b : { v : Value // v.IsWellFormed } => a.val.deepEqual b.val = true where
  refl a := a.property.deepEqual_refl
  symm {a b} hab := a.property.deepEqual_symm b.property hab
  trans {a b c} hab hbc := a.property.deepEqual_trans b.property c.property hab hbc

end IsWellFormed

/-! ## Values nested in lists -/

/-- The null value within the given number of lists. -/
def wrapped : Nat → Value
  | 0 => .null
  | n + 1 => .list [wrapped n]

theorem isWellFormed_wrapped (n : Nat) : (wrapped n).IsWellFormed := by
  induction n with
  | zero => exact .atom rfl
  | succ n ih => exact .list (List.forall_mem_singleton.mpr ih)

@[simp] theorem nesting_wrapped (n : Nat) : (wrapped n).nesting = n := by
  induction n with
  | zero => simp [wrapped, nesting]
  | succ n ih => simp [wrapped, nesting, nestingAll, ih]

variable {stack : Stack} {p q : Bool}

/-- The stack ends where a value is compared with itself that lies deeper than the stack ever reaches. -/
theorem endsIn_wrapped {n : Nat} (h : stack.lastLevel < n) :
    stack.EndsIn 0 (wrapped n) (wrapped n) :=
  Stack.endsIn_of_lastLevel_lt (isWellFormed_wrapped n).deepEqual_refl (by simpa using h)

/-! ## Answers -/

/-- Two values are compared alike in both orders, whenever both comparisons have an answer. -/
theorem IsWellFormed.compareDeep_comm (ha : a.IsWellFormed) (hb : b.IsWellFormed)
    (hab : a.compareDeep stack 0 b = .ok p) (hba : b.compareDeep stack 0 a = .ok q) : p = q := by
  obtain ⟨-, rfl⟩ := compareDeep_eq_ok_iff.mp hab
  obtain ⟨-, rfl⟩ := compareDeep_eq_ok_iff.mp hba
  rw [Bool.eq_iff_iff]
  exact ⟨ha.deepEqual_symm hb, hb.deepEqual_symm ha⟩

theorem IsWellFormed.compareDeep_trans (ha : a.IsWellFormed) (hb : b.IsWellFormed)
    (hc : c.IsWellFormed) (hab : a.compareDeep stack 0 b = .ok true)
    (hbc : b.compareDeep stack 0 c = .ok true) (hac : a.compareDeep stack 0 c = .ok p) : p = true := by
  obtain ⟨-, hab⟩ := compareDeep_eq_ok_iff.mp hab
  obtain ⟨-, hbc⟩ := compareDeep_eq_ok_iff.mp hbc
  obtain ⟨-, rfl⟩ := compareDeep_eq_ok_iff.mp hac
  exact ha.deepEqual_trans hb hc hab hbc

end Value

/-! ## The rule -/

namespace Library

variable {s : Surroundings} {lib : Library} {items : Mapping} {value : Value} {x : String}

/-- A rule that names a field compares with its value. -/
theorem passes_sameAs (hcheck : lib.check? (.text Kind.sameAs.name) = some (.builtin .sameAs)) :
    lib.passes s (.mapping items) value (.options Kind.sameAs.name (.text x)) =
      ⟨[], value.compareDeep s.stack 0 (Mapping.getOrNull items (.text x))⟩ := by
  rw [passes_of_builtin (by rintro ⟨_, _, ⟨⟩⟩) hcheck]
  simp only [Rule.given, Kind.judge, Kind.judgeSameAs, Kind.namedField_text, Except.bind]
  cases value.compareDeep s.stack 0 (Mapping.getOrNull items (.text x)) <;>
    simp [Except.map, Verdict.toValue, Rule.accepts, Value.isBool]

/-- A field that is compared with itself passes, and has a clean report, unless the stack ends first. -/
theorem passes_and_validate_sameAs_self
    (hcheck : lib.check? (.text Kind.sameAs.name) = some (.builtin .sameAs))
    {answer : Except Failure Bool}
    (hanswer : (Mapping.getOrNull items (.text x)).compareDeep s.stack 0
      (Mapping.getOrNull items (.text x)) = answer) :
    lib.passes s (.mapping items) (Mapping.getOrNull items (.text x))
        (.options Kind.sameAs.name (.text x)) = ⟨[], answer⟩ ∧
      lib.validate s (.mapping items) (.raw (.mapping [(.text x,
          .mapping [(.text Kind.sameAs.name, .text x)])])) =
        ⟨[], answer.map fun passed => ⟨if passed then [] else [⟨x, Kind.sameAs.name⟩], true⟩⟩ := by
  have hpasses : lib.passes s (.mapping items) (Mapping.getOrNull items (.text x))
      (.options Kind.sameAs.name (.text x)) = ⟨[], answer⟩ := by
    rw [passes_sameAs hcheck, hanswer]
  exact ⟨hpasses, validate_single (by simp) (contains_of_check?_eq_some hcheck) hpasses⟩

/-- The comparison of fields is an equivalence, and it is what the check answers wherever the stack does
not end in it, which is so if one of the values does not lie too deep. Answers do not depend on the order
of the values, and they can be put together. A field that is compared with itself passes, and has a clean
report, whatever its value, as does one that is missing. Only where the stack ends the check fails, and the
validation with it, and it does so if the value lies deeper than the stack ever reaches. -/
theorem matching_is_equivalence
    (hcheck : lib.check? (.text Kind.sameAs.name) = some (.builtin .sameAs)) :
    (Equivalence fun a b : { v : Value // v.IsWellFormed } => a.val.deepEqual b.val = true) ∧
    (∀ (stack : Stack) (a b : Value),
      (stack.EndsIn 0 a b → stack.deepLevels < a.depth ∧ stack.deepLevels < b.depth ∧
        a.compareDeep stack 0 b = .error .tooDeep) ∧
      (¬ stack.EndsIn 0 a b → a.compareDeep stack 0 b = .ok (a.deepEqual b))) ∧
    (∀ (stack : Stack) (a b : Value), a.IsWellFormed → b.IsWellFormed →
      (∀ p q, a.compareDeep stack 0 b = .ok p → b.compareDeep stack 0 a = .ok q → p = q) ∧
      ∀ (c : Value) p, c.IsWellFormed → a.compareDeep stack 0 b = .ok true →
        b.compareDeep stack 0 c = .ok true → a.compareDeep stack 0 c = .ok p → p = true) ∧
    ∀ s items x, (Mapping.getOrNull items (.text x)).IsWellFormed →
      let value := Mapping.getOrNull items (.text x)
      let passed := lib.passes s (.mapping items) value (.options Kind.sameAs.name (.text x))
      let report := lib.validate s (.mapping items) (.raw (.mapping [(.text x,
        .mapping [(.text Kind.sameAs.name, .text x)])]))
      (¬ s.stack.EndsIn 0 value value → passed = ⟨[], .ok true⟩ ∧ report = ⟨[], .ok ⟨[], true⟩⟩) ∧
      (s.stack.EndsIn 0 value value →
        passed = ⟨[], .error .tooDeep⟩ ∧ report = ⟨[], .error .tooDeep⟩) ∧
      (s.stack.lastLevel < value.nesting → s.stack.EndsIn 0 value value) ∧
      (.text x ∉ Mapping.keys items → ¬ s.stack.EndsIn 0 value value) := by
  refine ⟨Value.IsWellFormed.deepEqual_equivalence, fun stack a b => ⟨fun hends => ?_, fun hends => ?_⟩,
    fun stack a b ha hb => ⟨fun p q => ha.compareDeep_comm hb, fun c p hc =>
      ha.compareDeep_trans hb hc⟩, fun s items x hvalue => ?_⟩
  · obtain ⟨hleft, hright⟩ := hends.lt_depth
    exact ⟨hleft, hright, Value.compareDeep_eq_error_iff.mpr ⟨rfl, hends⟩⟩
  · exact Value.compareDeep_eq_ok_iff.mpr ⟨hends, rfl⟩
  intro value passed report
  have hself : ∀ answer, value.compareDeep s.stack 0 value = answer → passed = ⟨[], answer⟩ ∧
      report = ⟨[], answer.map fun passed =>
        ⟨if passed then [] else [⟨x, Kind.sameAs.name⟩], true⟩⟩ :=
    fun answer => passes_and_validate_sameAs_self hcheck
  refine ⟨fun hends => ?_, fun hends => ?_, fun hdeep => ?_, fun hmissing => ?_⟩
  · exact hself _ (Value.compareDeep_eq_ok_iff.mpr ⟨hends, hvalue.deepEqual_refl⟩)
  · exact hself _ (Value.compareDeep_eq_error_iff.mpr ⟨rfl, hends⟩)
  · exact Stack.endsIn_of_lastLevel_lt hvalue.deepEqual_refl (by simpa using hdeep)
  · have hnull : value = .null := by
      simp only [value, Mapping.getOrNull, Mapping.get?_text_eq_none_iff.mpr hmissing,
        Option.getD_none]
    rw [hnull]
    exact Stack.not_endsIn_of_depth_eq_zero (.inl rfl)

/-- Marks under a key, one of them no number, and the set of those who gave them. -/
def marks (key : Value) (id : Nat) : Value :=
  .mapping [(key, .list [.float (.nan id), .set [.text "ann"]])]

theorem isWellFormed_marks {key : Value} (h : key.IsWellFormed) (id : Nat) :
    (marks key id).IsWellFormed := by
  refine .mapping (by simpa using h) ?_ (List.pairwise_singleton _ _)
  simp only [List.forall_mem_singleton]
  refine .list ?_
  simp only [List.forall_mem_cons, List.not_mem_nil, false_implies, implies_true, and_true]
  refine ⟨.atom rfl, .set (.inl rfl) ?_ (List.pairwise_singleton _ _)⟩
  simpa using .atom rfl

/-- Marks under one match those under one point zero, these match those under true, and so the last match
the first. Marks that are compared with themselves pass. -/
theorem marks_match :
    (marks (.bool true) 3).compareDeep Surroundings.silent.stack 0 (marks (.int 1) 1) = .ok true ∧
    standard.validate .silent (.mapping [(.text "a", marks (.int 1) 1)])
        (.raw (.mapping [(.text "a", .mapping [(.text "matches", .text "a")])])) =
      ⟨[], .ok ⟨[], true⟩⟩ := by
  obtain ⟨hequivalence, hanswers, -, hself⟩ := matching_is_equivalence (check?_standard "matches")
  have hone : (marks (.int 1) 1).IsWellFormed := isWellFormed_marks (.atom rfl) 1
  have hpointZero : (marks (.float (.finite 1)) 2).IsWellFormed := isWellFormed_marks (.atom rfl) 2
  have htrue : (marks (.bool true) 3).IsWellFormed := isWellFormed_marks (.atom rfl) 3
  have hshallow : ∀ key id, (marks key id).depth ≤ Surroundings.silent.stack.deepLevels →
      ∀ b, ¬ Surroundings.silent.stack.EndsIn 0 (marks key id) b := by
    intro key id hdepth b hends
    exact absurd ((hanswers _ _ b).1 hends).1 (Nat.not_lt.mpr hdepth)
  constructor
  · have hfirst : (marks (.int 1) 1).deepEqual (marks (.float (.finite 1)) 2) = true := by decide
    have hsecond : (marks (.float (.finite 1)) 2).deepEqual (marks (.bool true) 3) = true := by decide
    have hmatch : (marks (.bool true) 3).deepEqual (marks (.int 1) 1) = true :=
      hequivalence.symm (@hequivalence.trans ⟨_, hone⟩ ⟨_, hpointZero⟩ ⟨_, htrue⟩ hfirst hsecond)
    rw [(hanswers _ _ _).2 (hshallow _ _ (by decide) _), hmatch]
  · have hfound : Mapping.getOrNull [(.text "a", marks (.int 1) 1)] (.text "a") =
        marks (.int 1) 1 := rfl
    obtain ⟨hclean, -⟩ := hself .silent [(.text "a", marks (.int 1) 1)] "a" hone
    exact (hclean (hfound ▸ hshallow _ _ (by decide) _)).2

/-- Not every field passes if it is compared with itself: the validation of 450 lists in one another fails
on a stack of 900 calls. -/
theorem not_always_matches_itself :
    ¬ ∀ s items x, (Mapping.getOrNull items (.text x)).IsWellFormed →
      standard.validate s (.mapping items) (.raw (.mapping [(.text x,
          .mapping [(.text Kind.sameAs.name, .text x)])])) = ⟨[], .ok ⟨[], true⟩⟩ := by
  intro h
  have hwf := Value.isWellFormed_wrapped 450
  have hends : Surroundings.silent.stack.EndsIn 0 (.wrapped 450) (.wrapped 450) :=
    Value.endsIn_wrapped (by decide)
  have hfails : (Value.wrapped 450).compareDeep Surroundings.silent.stack 0 (.wrapped 450) =
      .error .tooDeep :=
    Value.compareDeep_eq_error_iff.mpr ⟨rfl, hends⟩
  have hitem : Mapping.getOrNull [(.text "a", Value.wrapped 450)] (.text "a") = .wrapped 450 := rfl
  rw [← hitem] at hfails hwf
  have hreport := h .silent [(.text "a", .wrapped 450)] "a" hwf
  rw [(passes_and_validate_sameAs_self (check?_standard "matches") hfails).2] at hreport
  cases hreport

end Library

end FieldRules
