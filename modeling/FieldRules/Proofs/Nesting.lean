import FieldRules.Proofs.DeepEquality

/-!
# How deep values are compared

The deep comparison calls itself for the parts of the values that it compares, and the stack may end at
any pair that it comes to. To which pairs it comes depends on both values: it goes through the parts that
face one another in order, and it stops at the first that differ. It fails exactly if the stack ends at one
of these pairs, and otherwise says what it is to say. The strict comparison fails exactly if the stack ends
in the equality that it leaves two values to.

So there is always an answer if one of the two values does not lie too deep for the stack, whatever it is
compared with. Values that are equal are gone through to their last level. If this lies deeper than the
stack ever reaches, there is none.

## Main definitions

* `Value.nesting` — how many levels the deep comparison can go into a value
* `Value.levelsOf` — the levels of a container, by those of its members
* `HasAfter` — a member of a list with a property, after others with another one
* `Value.ComesTo` — the pairs that the deep comparison of two values comes to
* `Stack.EndsIn` — the stack ends at one of them
* `Stack.EndsInStrict` — the stack ends in the strict comparison

## Main statements

* `Value.compareDeep_cases`, `Value.compareStrict_cases` — the comparisons fail exactly if the stack ends
  in them
* `Stack.EndsIn.lt_depth`, `Stack.EndsInStrict.lt_depth` — where the stack suffices
* `Stack.endsIn_of_lastLevel_lt` — where it does not
-/

namespace FieldRules

namespace Value

mutual

/-- How many levels of lists, tuples and mappings lie in one another. What is in a set is not gone
into, and the keys of a mapping are not either. -/
def nesting : Value → Nat
  | .list xs | .tuple xs => nestingAll xs
  | .mapping entries => nestingEntries entries
  | _ => 0

/-- The levels of a container with the given members. -/
def nestingAll : List Value → Nat
  | [] => 0
  | x :: xs => max (nesting x + 1) (nestingAll xs)

/-- The levels of a mapping with the given entries. -/
def nestingEntries : List (Value × Value) → Nat
  | [] => 0
  | (_, v) :: rest => max (nesting v + 1) (nestingEntries rest)

end

/-- One level more than the most that a member of a list has, or none if there is no member. -/
def levelsOf {α : Type} (levels : α → Nat) (xs : List α) : Nat :=
  xs.foldr (fun x most => max (levels x + 1) most) 0

variable {a b u v : Value} {p : Value × Value}

/-! ## Parts -/

section levelsOf

variable {α : Type} {levels : α → Nat} {x : α} {xs : List α} {n : Nat}

theorem lt_levelsOf_of_mem (h : x ∈ xs) : levels x < levelsOf levels xs := by
  induction xs with
  | nil => cases h
  | cons y rest ih =>
      simp only [levelsOf, List.foldr_cons] at ih ⊢
      rcases List.mem_cons.mp h with rfl | h
      · omega
      · have hrest := ih h
        omega

theorem exists_mem_of_lt_levelsOf (h : n < levelsOf levels xs) : ∃ x ∈ xs, n ≤ levels x := by
  induction xs with
  | nil => exact absurd h (Nat.not_lt_zero n)
  | cons x rest ih =>
      by_cases hx : n ≤ levels x
      · exact ⟨x, List.mem_cons_self, hx⟩
      · have hrest : n < levelsOf levels rest := by
          simp only [levelsOf, List.foldr_cons] at h ⊢
          omega
        obtain ⟨y, hy, hn⟩ := ih hrest
        exact ⟨y, List.mem_cons_of_mem x hy, hn⟩

end levelsOf

theorem depthAll_eq (xs : List Value) : depthAll xs = levelsOf depth xs := by
  induction xs with
  | nil => rfl
  | cons x rest ih => rw [depthAll, ih, levelsOf, levelsOf, List.foldr_cons]

theorem depthEntries_eq (entries : Mapping) :
    depthEntries entries = levelsOf (fun e => max e.1.depth e.2.depth) entries := by
  induction entries with
  | nil => rfl
  | cons e rest ih => rw [depthEntries, ih, levelsOf, levelsOf, List.foldr_cons]

theorem nestingAll_eq (xs : List Value) : nestingAll xs = levelsOf nesting xs := by
  induction xs with
  | nil => rfl
  | cons x rest ih => rw [nestingAll, ih, levelsOf, levelsOf, List.foldr_cons]

theorem nestingEntries_eq (entries : Mapping) :
    nestingEntries entries = levelsOf (fun e => e.2.nesting) entries := by
  induction entries with
  | nil => rfl
  | cons e rest ih => rw [nestingEntries, ih, levelsOf, levelsOf, List.foldr_cons]

theorem depth_lt_depthAll {x : Value} {xs : List Value} (h : x ∈ xs) : x.depth < depthAll xs :=
  depthAll_eq xs ▸ lt_levelsOf_of_mem h

theorem depth_lt_depthEntries {k x : Value} {entries : Mapping} (h : (k, x) ∈ entries) :
    x.depth < depthEntries entries := by
  have hentry := @lt_levelsOf_of_mem _ (fun e : Value × Value => max e.1.depth e.2.depth) _ _ h
  rw [depthEntries_eq]
  exact Nat.lt_of_le_of_lt (Nat.le_max_right ..) hentry

theorem nesting_lt_nestingAll {x : Value} {xs : List Value} (h : x ∈ xs) :
    x.nesting < nestingAll xs :=
  nestingAll_eq xs ▸ lt_levelsOf_of_mem h

theorem nesting_lt_nestingEntries {k x : Value} {entries : Mapping} (h : (k, x) ∈ entries) :
    x.nesting < nestingEntries entries := by
  rw [nestingEntries_eq]
  exact @lt_levelsOf_of_mem _ (fun e : Value × Value => e.2.nesting) _ _ h

/-- Parts that face one another are members of two lists, or stand under one key. -/
theorem mem_facing_cases (h : p ∈ a.facing b) :
    (∃ xs ys, a.IsSequence xs ∧ b.IsSequence ys ∧ p ∈ xs.zip ys) ∨
      ∃ xs ys k, a = .mapping xs ∧ b = .mapping ys ∧ (k, p.1) ∈ xs ∧
        Mapping.get? ys k = some p.2 := by
  cases a with
  | list xs | tuple xs =>
      cases b with
      | list ys | tuple ys =>
          have hzip : p ∈ xs.zip ys := by
            simp only [facing] at h
            split at h
            · exact h
            · cases h
          exact .inl ⟨xs, ys, by simp [IsSequence], by simp [IsSequence], hzip⟩
      | _ => cases h
  | mapping xs =>
      cases b with
      | mapping ys =>
          have hentries : p ∈ facingEntries xs ys := by
            simp only [facing] at h
            split at h
            · exact h
            · cases h
          obtain ⟨k, hmem, hget⟩ := mem_facingEntries.mp hentries
          exact .inr ⟨xs, ys, k, rfl, rfl, hmem, hget⟩
      | _ => cases h
  | _ => cases h

theorem depth_lt_of_mem_facing (h : p ∈ a.facing b) :
    p.1.depth < a.depth ∧ p.2.depth < b.depth := by
  rcases mem_facing_cases h with ⟨xs, ys, ha, hb, hzip⟩ | ⟨xs, ys, k, rfl, rfl, hmem, hget⟩
  · have hleft := depth_lt_depthAll (List.of_mem_zip hzip).1
    have hright := depth_lt_depthAll (List.of_mem_zip hzip).2
    constructor
    · rcases ha with rfl | rfl <;> simpa [depth] using hleft
    · rcases hb with rfl | rfl <;> simpa [depth] using hright
  · obtain ⟨k', hfound⟩ := Mapping.mem_of_get?_eq_some hget
    exact ⟨by simpa [depth] using depth_lt_depthEntries hmem,
      by simpa [depth] using depth_lt_depthEntries hfound⟩

theorem nesting_lt_of_mem_facing (h : p ∈ a.facing b) : p.1.nesting < a.nesting := by
  rcases mem_facing_cases h with ⟨xs, ys, ha, -, hzip⟩ | ⟨xs, ys, k, rfl, -, hmem, -⟩
  · have hleft := nesting_lt_nestingAll (List.of_mem_zip hzip).1
    rcases ha with rfl | rfl <;> simpa [nesting] using hleft
  · simpa [nesting] using nesting_lt_nestingEntries hmem

/-- If two values are equal, some pair of facing parts is nested as deep as the first value allows. -/
theorem exists_mem_facing_of_lt_nesting {n : Nat} (hab : a.deepEqual b = true) (h : n < a.nesting) :
    ∃ p ∈ a.facing b, n ≤ p.1.nesting := by
  obtain ⟨hagrees, -⟩ := deepEqual_iff_facing.mp hab
  cases a with
  | list xs | tuple xs =>
      obtain ⟨x, hx, hn⟩ := exists_mem_of_lt_levelsOf (by simpa [nesting, nestingAll_eq] using h)
      cases b with
      | list ys | tuple ys =>
          have hlength : xs.length = ys.length := by simpa [agreesAtOnce] using hagrees
          rw [← List.map_fst_zip (Nat.le_of_eq hlength)] at hx
          obtain ⟨p, hp, rfl⟩ := List.mem_map.mp hx
          exact ⟨p, by simpa [facing, hlength] using hp, hn⟩
      | _ => cases hagrees
  | mapping xs =>
      obtain ⟨e, he, hn⟩ := exists_mem_of_lt_levelsOf (by simpa [nesting, nestingEntries_eq] using h)
      cases b with
      | mapping ys =>
          have hkeys : Mapping.haveSameKeys xs ys = true := hagrees
          obtain ⟨w, hw⟩ := exists_get?_of_haveSameKeys hkeys he
          have hmem : (e.2, w) ∈ facingEntries xs ys := mem_facingEntries.mpr ⟨e.1, he, hw⟩
          exact ⟨(e.2, w), by simpa [facing, hkeys] using hmem, hn⟩
      | _ => cases hagrees
  | _ => simp [nesting] at h

/-! ## The way of a comparison -/

/-- The comparison of two values comes to these two themselves, and, so many levels further down, to
whatever the comparison of two facing parts comes to, if all parts before these are equal. -/
inductive ComesTo : Value → Value → Nat → Value → Value → Prop
  | here (a b : Value) : ComesTo a b 0 a b
  | part {a b x y u v : Value} {before after : List (Value × Value)} {n : Nat}
    (parts : a.facing b = before ++ (x, y) :: after)
    (equal : ∀ p ∈ before, p.1.deepEqual p.2 = true) (inside : ComesTo x y n u v) :
    ComesTo a b (n + 1) u v

/-- At each level something is left of both values. -/
theorem ComesTo.depth_le {n : Nat} (h : ComesTo a b n u v) :
    n + u.depth ≤ a.depth ∧ n + v.depth ≤ b.depth := by
  induction h with
  | here => omega
  | @part a b x y _ _ _ _ _ hparts _ _ ih =>
      have hmem : (x, y) ∈ a.facing b := by simp [hparts]
      have hless : x.depth < a.depth ∧ y.depth < b.depth := depth_lt_of_mem_facing hmem
      omega

/-- The comparison of values that are equal goes down to the last level of the first one. -/
theorem exists_comesTo {n : Nat} (hab : a.deepEqual b = true) (h : n ≤ a.nesting) :
    ∃ u v, ComesTo a b n u v := by
  induction n generalizing a b with
  | zero => exact ⟨a, b, .here a b⟩
  | succ n ih =>
      obtain ⟨-, hequal⟩ := deepEqual_iff_facing.mp hab
      obtain ⟨p, hp, hn⟩ := exists_mem_facing_of_lt_nesting hab (Nat.lt_of_succ_le h)
      obtain ⟨before, after, hparts⟩ := List.append_of_mem hp
      obtain ⟨u, v, hinside⟩ := ih (hequal p hp) hn
      refine ⟨u, v, .part hparts (fun q hq => hequal q ?_) hinside⟩
      rw [hparts]
      exact List.mem_append_left _ hq

end Value

/-- Some member of a list has the second property, and all members before it have the first one. -/
def HasAfter {α : Type} (P Q : α → Prop) (xs : List α) : Prop :=
  ∃ before x after, xs = before ++ x :: after ∧ (∀ y ∈ before, P y) ∧ Q x

section HasAfter

variable {α : Type} {P Q : α → Prop}

@[simp] theorem not_hasAfter_nil : ¬ HasAfter P Q [] := by
  rintro ⟨before, x, after, hsplit, -⟩
  simp at hsplit

@[simp] theorem hasAfter_cons {x : α} {rest : List α} :
    HasAfter P Q (x :: rest) ↔ Q x ∨ P x ∧ HasAfter P Q rest := by
  constructor
  · rintro ⟨before, y, after, hsplit, hbefore, hy⟩
    rcases List.cons_eq_append_iff.mp hsplit with ⟨rfl, htail⟩ | ⟨before, rfl, rfl⟩
    · obtain ⟨rfl, -⟩ := List.cons.inj htail
      exact .inl hy
    · obtain ⟨hx, hbefore⟩ := List.forall_mem_cons.mp hbefore
      exact .inr ⟨hx, before, y, after, rfl, hbefore, hy⟩
  · rintro (hx | ⟨hx, before, y, after, rfl, hbefore, hy⟩)
    · exact ⟨[], x, rest, rfl, by simp, hx⟩
    · exact ⟨x :: before, y, after, rfl, List.forall_mem_cons.mpr ⟨hx, hbefore⟩, hy⟩

end HasAfter

namespace Stack

variable (stack : Stack) {level : Nat} {a b : Value}

/-- The stack ends at a pair of values that the deep comparison of two values comes to, so many levels
down. -/
def EndsIn (level : Nat) (a b : Value) : Prop :=
  ∃ n u v, Value.ComesTo a b n u v ∧ stack.endsInDeep (level + n) u v = true

/-- The stack ends in the deep comparison of one of several pairs, and all pairs before it are equal. -/
def EndsAmong (level : Nat) (pairs : List (Value × Value)) : Prop :=
  HasAfter (fun p => p.1.deepEqual p.2 = true) (fun p => stack.EndsIn level p.1 p.2) pairs

/-- The stack ends in the strict comparison of two values, which leaves them to their equality. -/
def EndsInStrict (a b : Value) : Prop :=
  a.isLeftToEquality b = true ∧ stack.endsInEquality a b = true

variable {stack}

/-- The stack ends in a comparison at the values themselves or in the comparison of their parts. -/
theorem endsIn_iff : stack.EndsIn level a b ↔
    stack.endsInDeep level a b = true ∨ stack.EndsAmong (level + 1) (a.facing b) := by
  constructor
  · rintro ⟨n, u, v, hcomes, hends⟩
    cases hcomes with
    | here => exact .inl hends
    | @part _ _ x y _ _ before after n hparts hequal hinside =>
        refine .inr ⟨before, (x, y), after, hparts, hequal, n, u, v, hinside, ?_⟩
        rwa [Nat.add_assoc, Nat.add_comm 1 n]
  · rintro (hends | ⟨before, p, after, hparts, hequal, n, u, v, hinside, hends⟩)
    · exact ⟨0, a, b, .here a b, hends⟩
    · refine ⟨n + 1, u, v, .part hparts hequal hinside, ?_⟩
      rwa [Nat.add_comm n 1, ← Nat.add_assoc]

/-- If the stack ends in a comparison, both values lie deeper than it always suffices for. -/
theorem EndsIn.deepLevels_lt (h : stack.EndsIn level a b) :
    stack.deepLevels < level + min a.depth b.depth := by
  obtain ⟨n, u, v, hcomes, hends⟩ := h
  have hlevels := stack.deepLevels_lt hends
  have hdepth := hcomes.depth_le
  omega

theorem EndsIn.lt_depth (h : stack.EndsIn 0 a b) :
    stack.deepLevels < a.depth ∧ stack.deepLevels < b.depth := by
  have hlevels := h.deepLevels_lt
  omega

/-- If the stack ends in a strict comparison, both values lie deeper than it always suffices for. -/
theorem EndsInStrict.lt_depth (h : stack.EndsInStrict a b) :
    stack.equalityLevels < a.depth ∧ stack.equalityLevels < b.depth :=
  Nat.lt_min.mp (stack.equalityLevels_lt h.2)

/-- The stack suffices to compare a value with one that holds nothing. -/
theorem not_endsIn_of_depth_eq_zero (h : a.depth = 0 ∨ b.depth = 0) : ¬ stack.EndsIn 0 a b := by
  intro hends
  have hlevels := hends.lt_depth
  omega

theorem not_endsInStrict_of_depth_eq_zero (h : a.depth = 0 ∨ b.depth = 0) :
    ¬ stack.EndsInStrict a b := by
  intro hends
  have hlevels := hends.lt_depth
  omega

/-- The stack ends in the comparison of equal values that lie deeper than it ever reaches. -/
theorem endsIn_of_lastLevel_lt (hab : a.deepEqual b = true)
    (h : stack.lastLevel < level + a.nesting) : stack.EndsIn level a b := by
  obtain ⟨u, v, hcomes⟩ := Value.exists_comesTo hab (Nat.le_refl a.nesting)
  exact ⟨a.nesting, u, v, hcomes, stack.ends_of_lastLevel_lt u v h⟩

end Stack

namespace Value

variable {stack : Stack} {level : Nat} {a b : Value}

/-! ## What becomes of a comparison -/

/-- The strict comparison fails exactly if the stack ends in it, and otherwise says what it is to say. -/
theorem compareStrict_cases (stack : Stack) (a b : Value) :
    stack.EndsInStrict a b ∧ a.compareStrict stack b = .error .tooDeep ∨
      ¬ stack.EndsInStrict a b ∧ a.compareStrict stack b = .ok (a.strictEqual b) := by
  by_cases hends : stack.EndsInStrict a b
  · have htooDeep : (a.isLeftToEquality b && stack.endsInEquality a b) = true :=
      Bool.and_eq_true_iff.mpr hends
    exact .inl ⟨hends, if_pos htooDeep⟩
  · have hwithin : ¬ (a.isLeftToEquality b && stack.endsInEquality a b) = true :=
      fun h => hends (Bool.and_eq_true_iff.mp h)
    exact .inr ⟨hends, if_neg hwithin⟩

theorem compareStrict_eq_error_iff {failure : Failure} :
    a.compareStrict stack b = .error failure ↔ failure = .tooDeep ∧ stack.EndsInStrict a b := by
  rcases compareStrict_cases stack a b with ⟨hends, h⟩ | ⟨hends, h⟩ <;> simp [h, hends, eq_comm]

/-- The deep comparison of pairs, up to the first that differ. -/
def compareEach (stack : Stack) (level : Nat) : List (Value × Value) → Except Failure Bool
  | [] => .ok true
  | p :: rest =>
    match compareDeep stack level p.1 p.2 with
    | .ok true => compareEach stack level rest
    | other => other

theorem compareAll_eq (xs ys : List Value) :
    compareAll stack level xs ys = compareEach stack level (xs.zip ys) := by
  induction xs generalizing ys with
  | nil => cases ys <;> rfl
  | cons x rest ih =>
      cases ys with
      | nil => rfl
      | cons y ys =>
          rw [compareAll, List.zip_cons_cons, compareEach]
          rcases compareDeep stack level x y with _ | (_ | _)
          · rfl
          · rfl
          · exact ih ys

theorem compareEntries_eq {xs ys : Mapping}
    (h : ∀ e ∈ xs, ∃ w, Mapping.get? ys e.1 = some w) :
    compareEntries stack level xs ys = compareEach stack level (facingEntries xs ys) := by
  induction xs with
  | nil => rfl
  | cons e rest ih =>
      obtain ⟨⟨w, hw⟩, hrest⟩ := List.forall_mem_cons.mp h
      have hcons : facingEntries (e :: rest) ys = (e.2, w) :: facingEntries rest ys := by
        simp [facingEntries, hw]
      rw [hcons, compareEach, compareEntries, hw]
      rcases hanswer : compareDeep stack level e.2 w with _ | (_ | _)
      · simp [hanswer]
      · simp [hanswer]
      · simpa [hanswer] using ih hrest

/-- One step of the comparison: the stack may end, the values may differ at once, and otherwise the
parts that face one another are gone through. -/
theorem compareDeep_eq : compareDeep stack level a b =
    if stack.endsInDeep level a b then .error .tooDeep
    else if a.agreesAtOnce b then compareEach stack (level + 1) (a.facing b) else .ok false := by
  cases a with
  | list xs | tuple xs =>
      cases b with
      | list ys | tuple ys =>
          by_cases hlength : xs.length = ys.length <;>
            simp [compareDeep, agreesAtOnce, facing, hlength, compareAll_eq]
      | _ => simp [compareDeep, agreesAtOnce]
  | mapping xs =>
      cases b with
      | mapping ys =>
          by_cases hkeys : Mapping.haveSameKeys xs ys = true
          · simp [compareDeep, agreesAtOnce, facing, hkeys,
              compareEntries_eq fun e he => exists_get?_of_haveSameKeys hkeys he]
          · simp [compareDeep, agreesAtOnce, hkeys]
      | _ => simp [compareDeep, agreesAtOnce]
  | _ =>
      simp only [compareDeep, agreesAtOnce, facing, compareEach]
      cases deepEqualAtom _ b <;> rfl

/-- If comparisons of pairs fail exactly where the stack ends, so does going through the pairs. -/
theorem compareEach_cases {pairs : List (Value × Value)}
    (h : ∀ p ∈ pairs, stack.EndsIn level p.1 p.2 ∧ compareDeep stack level p.1 p.2 = .error .tooDeep ∨
      ¬ stack.EndsIn level p.1 p.2 ∧ compareDeep stack level p.1 p.2 = .ok (p.1.deepEqual p.2)) :
    stack.EndsAmong level pairs ∧ compareEach stack level pairs = .error .tooDeep ∨
      ¬ stack.EndsAmong level pairs ∧
        compareEach stack level pairs = .ok (pairs.all fun p => p.1.deepEqual p.2) := by
  induction pairs with
  | nil => exact .inr ⟨not_hasAfter_nil, rfl⟩
  | cons p rest ih =>
      obtain ⟨hp, hrest⟩ := List.forall_mem_cons.mp h
      rw [Stack.EndsAmong, hasAfter_cons, compareEach, List.all_cons]
      rcases hp with ⟨hends, hfails⟩ | ⟨hends, hanswer⟩
      · exact .inl ⟨.inl hends, by rw [hfails]⟩
      · rw [hanswer]
        cases hequal : p.1.deepEqual p.2 with
        | false => exact .inr ⟨by simp [hends], rfl⟩
        | true => simpa [hends, Stack.EndsAmong] using ih hrest

/-- The deep comparison fails exactly if the stack ends in it, and otherwise says what it is to say. -/
theorem compareDeep_cases (stack : Stack) (level : Nat) (a b : Value) :
    stack.EndsIn level a b ∧ compareDeep stack level a b = .error .tooDeep ∨
      ¬ stack.EndsIn level a b ∧ compareDeep stack level a b = .ok (a.deepEqual b) := by
  -- The parts of a value are nested less deep than the value.
  induction hn : a.nesting using Nat.strongRecOn generalizing a b level with
  | ind n ih =>
      subst hn
      have hparts := @compareEach_cases stack (level + 1) (a.facing b) fun p hp =>
        ih _ (nesting_lt_of_mem_facing hp) (level + 1) p.1 p.2 rfl
      rw [Stack.endsIn_iff, compareDeep_eq]
      by_cases hends : stack.endsInDeep level a b = true
      · exact .inl ⟨.inl hends, if_pos hends⟩
      · rw [if_neg hends]
        cases hagrees : a.agreesAtOnce b with
        | false =>
            have hdiffer : a.deepEqual b = false := by
              rw [Bool.eq_false_iff, ne_eq, deepEqual_iff_facing, hagrees]
              simp
            simp [hends, Stack.EndsAmong, facing_eq_nil hagrees, hdiffer]
        | true =>
            have hequal : a.deepEqual b = (a.facing b).all fun p => p.1.deepEqual p.2 := by
              rw [Bool.eq_iff_iff, deepEqual_iff_facing, hagrees]
              simp
            simpa [hends, hequal] using hparts

theorem compareDeep_eq_error_iff {failure : Failure} :
    compareDeep stack level a b = .error failure ↔ failure = .tooDeep ∧ stack.EndsIn level a b := by
  rcases compareDeep_cases stack level a b with ⟨hends, h⟩ | ⟨hends, h⟩ <;>
    simp [h, hends, eq_comm]

/-- Whatever the comparison answers is what it is to say. -/
theorem compareDeep_eq_ok_iff {c : Bool} :
    compareDeep stack level a b = .ok c ↔ ¬ stack.EndsIn level a b ∧ a.deepEqual b = c := by
  rcases compareDeep_cases stack level a b with ⟨hends, h⟩ | ⟨hends, h⟩ <;> simp [h, hends]

end Value

end FieldRules
