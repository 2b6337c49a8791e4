import FieldRules.Check.Comparison
import FieldRules.Proofs.Sameness

/-!
# What the deep comparison says

The deep comparison says whether two values are equal, with lists taken for tuples and two results that are
no number taken for equal, and with truth values kept apart from numbers everywhere. Where the stack
suffices this is all there is to it, and it is stated here without the stack.

At each pair of values that it comes to, the comparison asks first what can be told at once: whether two
lists are of one length, or two mappings have the same keys. Then it goes through the pairs of parts that
face one another, in order.

## Main definitions

* `Value.deepEqual` — what the deep comparison says
* `Value.facing` — the pairs of parts that it goes through
* `Value.agreesAtOnce` — what it asks before it goes through them

## Main statements

* `Value.deepEqual_iff_of_isSequence`, `Value.deepEqual_mapping_iff` — containers
* `Value.deepEqual_iff_facing` — one step of the comparison
-/

namespace FieldRules.Value

mutual

/-- The deep comparison, with a stack that suffices. -/
def deepEqual : Value → Value → Bool
  | .list xs, other =>
    match other with
    | .list ys | .tuple ys => deepEqualAll xs ys
    | _ => false
  | .tuple xs, other =>
    match other with
    | .list ys | .tuple ys => deepEqualAll xs ys
    | _ => false
  | .mapping xs, other =>
    match other with
    | .mapping ys => xs.length = ys.length && deepEqualEntries xs ys
    | _ => false
  | a, b => deepEqualAtom a b

/-- The deep comparison member by member. -/
def deepEqualAll : List Value → List Value → Bool
  | [], [] => true
  | x :: xs, y :: ys => deepEqual x y && deepEqualAll xs ys
  | [], _ :: _ => false
  | _ :: _, [] => false

/-- Whether the second mapping has each key of the first, with a value that compares equal. -/
def deepEqualEntries : List (Value × Value) → List (Value × Value) → Bool
  | [], _ => true
  | (k, v) :: rest, ys =>
    (match Mapping.get? ys k with
      | some w => deepEqual v w
      | none => false) && deepEqualEntries rest ys

end

variable {a b : Value} {xs ys : List Value}

/-! ## Containers -/

/-- The value is a list or a tuple with the given members. -/
def IsSequence (v : Value) (members : List Value) : Prop :=
  v = .list members ∨ v = .tuple members

theorem IsSequence.unique (hxs : a.IsSequence xs) (hys : a.IsSequence ys) : xs = ys := by
  rcases hxs with rfl | rfl <;> rcases hys with h | h <;> cases h <;> rfl

theorem deepEqualAll_iff :
    deepEqualAll xs ys = true ↔ List.Forall₂ (fun x y => x.deepEqual y = true) xs ys := by
  induction xs generalizing ys with
  | nil => cases ys <;> simp [deepEqualAll]
  | cons x rest ih => cases ys <;> simp [deepEqualAll, ih]

theorem deepEqualEntries_iff {xs ys : Mapping} :
    deepEqualEntries xs ys = true ↔
      ∀ e ∈ xs, ∃ w, Mapping.get? ys e.1 = some w ∧ e.2.deepEqual w = true := by
  induction xs with
  | nil => simp [deepEqualEntries]
  | cons e rest ih =>
      obtain ⟨k, v⟩ := e
      cases hw : Mapping.get? ys k <;> simp [deepEqualEntries, ih, hw]

theorem deepEqual_iff_of_isSequence (ha : a.IsSequence xs) :
    a.deepEqual b = true ↔
      ∃ ys, b.IsSequence ys ∧ List.Forall₂ (fun x y => x.deepEqual y = true) xs ys := by
  rcases ha with rfl | rfl <;> cases b <;> simp [IsSequence, deepEqual, deepEqualAll_iff]

theorem deepEqual_mapping_iff {xs : Mapping} :
    (Value.mapping xs).deepEqual b = true ↔ ∃ ys, b = .mapping ys ∧ xs.length = ys.length ∧
      ∀ e ∈ xs, ∃ w, Mapping.get? ys e.1 = some w ∧ e.2.deepEqual w = true := by
  cases b <;> simp [deepEqual, deepEqualEntries_iff]

/-- The value is none that the deep comparison goes into. -/
def IsWhole : Value → Prop
  | .list _ | .tuple _ | .mapping _ => False
  | _ => True

theorem deepEqual_eq_deepEqualAtom (ha : a.IsWhole) : a.deepEqual b = a.deepEqualAtom b := by
  cases a <;> first | rfl | exact ha.elim

theorem isWhole_of_meaning {m : Meaning} (ha : a.meaning? = some m) : a.IsWhole := by
  cases a <;> trivial

theorem isWhole_of_isSet (ha : a.IsSet xs) : a.IsWhole := by
  rcases ha with rfl | rfl <;> trivial

/-! ## One step -/

/-- What the comparison of two values asks before it goes into them. -/
def agreesAtOnce : Value → Value → Bool
  | .list xs, other | .tuple xs, other =>
    match other with
    | .list ys | .tuple ys => xs.length = ys.length
    | _ => false
  | .mapping xs, other =>
    match other with
    | .mapping ys => Mapping.haveSameKeys xs ys
    | _ => false
  | a, b => a.deepEqualAtom b

/-- The parts of the values under the same keys, in the order of the first mapping. -/
def facingEntries (xs ys : Mapping) : List (Value × Value) :=
  xs.filterMap fun e => (Mapping.get? ys e.1).map fun w => (e.2, w)

/-- The pairs of parts that the comparison goes through, in order. -/
def facing : Value → Value → List (Value × Value)
  | .list xs, other | .tuple xs, other =>
    match other with
    | .list ys | .tuple ys => if xs.length = ys.length then xs.zip ys else []
    | _ => []
  | .mapping xs, other =>
    match other with
    | .mapping ys => if Mapping.haveSameKeys xs ys then facingEntries xs ys else []
    | _ => []
  | _, _ => []

theorem facing_eq_nil (h : a.agreesAtOnce b = false) : a.facing b = [] := by
  cases a <;> cases b <;> simp_all [agreesAtOnce, facing]

/-- Of two mappings with the same keys each key of the first is found in the second. -/
theorem exists_get?_of_haveSameKeys {xs ys : Mapping} (h : Mapping.haveSameKeys xs ys = true)
    {e : Value × Value} (he : e ∈ xs) : ∃ w, Mapping.get? ys e.1 = some w := by
  simp only [Mapping.haveSameKeys, Bool.and_eq_true, List.all_eq_true,
    Mapping.hasKey_eq_isSome_get?] at h
  exact Option.isSome_iff_exists.mp (h.2 e he)

theorem mem_facingEntries {xs ys : Mapping} {x y : Value} :
    (x, y) ∈ facingEntries xs ys ↔ ∃ k, (k, x) ∈ xs ∧ Mapping.get? ys k = some y := by
  simp only [facingEntries, List.mem_filterMap, Option.map_eq_some_iff, Prod.mk.injEq, Prod.exists]
  constructor
  · rintro ⟨k, v, hmem, w, hw, rfl, rfl⟩
    exact ⟨k, hmem, hw⟩
  · rintro ⟨k, hmem, hw⟩
    exact ⟨k, x, hmem, y, hw, rfl, rfl⟩

theorem deepEqualEntries_iff_facingEntries {xs ys : Mapping} :
    xs.length = ys.length ∧ deepEqualEntries xs ys = true ↔
      Mapping.haveSameKeys xs ys = true ∧ ∀ p ∈ facingEntries xs ys, p.1.deepEqual p.2 = true := by
  rw [deepEqualEntries_iff]
  constructor
  · rintro ⟨hlength, hentries⟩
    refine ⟨?_, ?_⟩
    · simp only [Mapping.haveSameKeys, Bool.and_eq_true, decide_eq_true_eq, List.all_eq_true,
        Mapping.hasKey_eq_isSome_get?]
      refine ⟨hlength, fun e he => ?_⟩
      obtain ⟨w, hw, -⟩ := hentries e he
      rw [hw, Option.isSome_some]
    · rintro ⟨x, y⟩ hxy
      obtain ⟨k, hmem, hy⟩ := mem_facingEntries.mp hxy
      obtain ⟨w, hw, hequal⟩ := hentries _ hmem
      obtain rfl := Option.some.inj (hy.symm.trans hw)
      exact hequal
  · rintro ⟨hkeys, hfacing⟩
    refine ⟨?_, fun e he => ?_⟩
    · simp only [Mapping.haveSameKeys, Bool.and_eq_true, decide_eq_true_eq] at hkeys
      exact hkeys.1
    · obtain ⟨w, hw⟩ := exists_get?_of_haveSameKeys hkeys he
      exact ⟨w, hw, hfacing _ (mem_facingEntries.mpr ⟨e.1, he, hw⟩)⟩

/-- Values compare as equal if they agree at once and all parts that face one another do. -/
theorem deepEqual_iff_facing :
    a.deepEqual b = true ↔
      a.agreesAtOnce b = true ∧ ∀ p ∈ a.facing b, p.1.deepEqual p.2 = true := by
  have hmembers : ∀ xs ys : List Value, deepEqualAll xs ys = true ↔
      xs.length = ys.length ∧
        ∀ p ∈ if xs.length = ys.length then xs.zip ys else [], p.1.deepEqual p.2 = true := by
    intro xs ys
    rw [deepEqualAll_iff, List.forall₂_iff_zip]
    by_cases hlength : xs.length = ys.length <;> simp [hlength]
  cases a with
  | list xs | tuple xs =>
      cases b with
      | list ys | tuple ys => simpa [deepEqual, agreesAtOnce, facing] using hmembers xs ys
      | _ => simp [deepEqual, agreesAtOnce]
  | mapping xs =>
      cases b with
      | mapping ys =>
          have hentries := @deepEqualEntries_iff_facingEntries xs ys
          by_cases hkeys : Mapping.haveSameKeys xs ys = true <;>
            simp_all [deepEqual, agreesAtOnce, facing]
      | _ => simp [deepEqual, agreesAtOnce]
  | _ => simp [deepEqual, agreesAtOnce, facing]

end FieldRules.Value
