import FieldRules.Proofs.TextKeys
import Mathlib.Data.List.Forall2

/-!
# Values that containers take for one

A container takes two values for one member, and a mapping for one key, if they are the same in the
sense of `Value.same`. This is wider than identity. The same number may be a whole number, a double or
a truth value, the same instant may be told by different clocks, and sets and mappings have no order.

Values without parts are the same if they have the same meaning. From there on sameness is an
equivalence, for values whose sets and mappings hold nothing twice. That is needed for symmetry: a set
is looked through from one side only, and the number of members has to do for the other side.

## Main definitions

* `Value.Meaning`, `Value.meaning?` — what a value without parts stands for
* `Value.IsWellFormed` — values that hold no member and no key twice, at any depth

## Main statements

* `Value.IsWellFormed.same_refl`, `Value.IsWellFormed.same_symm`, `Value.IsWellFormed.same_trans`
* `Mapping.get?_eq_some_of_mem` — what is listed under a key is found under the same key
* `Mapping.isWellFormed_ofEntries`, `Members.isWellFormed_of_isSet` — mappings and sets are made so
-/

namespace FieldRules

/-! ## Lists without an order -/

section Within

variable {α : Type} {R : α → α → Prop} {xs ys zs : List α}

/-- The lists are of one length, and each member of the first is related to one of the second. -/
def IsWithin (R : α → α → Prop) (xs ys : List α) : Prop :=
  xs.length = ys.length ∧ ∀ x ∈ xs, ∃ y ∈ ys, R x y

theorem IsWithin.refl (h : ∀ x ∈ xs, R x x) : IsWithin R xs xs :=
  ⟨rfl, fun x hx => ⟨x, hx, h x hx⟩⟩

theorem IsWithin.trans (hxy : IsWithin R xs ys) (hyz : IsWithin R ys zs)
    (h : ∀ x ∈ xs, ∀ y ∈ ys, ∀ z ∈ zs, R x y → R y z → R x z) : IsWithin R xs zs := by
  refine ⟨hxy.1.trans hyz.1, fun x hx => ?_⟩
  obtain ⟨y, hy, hRxy⟩ := hxy.2 x hx
  obtain ⟨z, hz, hRyz⟩ := hyz.2 y hy
  exact ⟨z, hz, h x hx y hy z hz hRxy hRyz⟩

/-- If no two members of the first list are related to one of the second, none of the second is left
over. -/
theorem IsWithin.exists_left (h : IsWithin R xs ys)
    (hdistinct : xs.Pairwise fun x x' => ∀ y ∈ ys, R x y → ¬ R x' y) :
    ∀ y ∈ ys, ∃ x ∈ xs, R x y := by
  induction xs generalizing ys with
  | nil =>
      obtain rfl : ys = [] := List.length_eq_zero_iff.mp h.1.symm
      simp
  | cons x rest ih =>
      obtain ⟨hx, hrest⟩ := List.pairwise_cons.mp hdistinct
      obtain ⟨y, hy, hxy⟩ := h.2 x List.mem_cons_self
      obtain ⟨before, after, rfl⟩ := List.append_of_mem hy
      have hsub : ∀ y' ∈ before ++ after, y' ∈ before ++ y :: after := by
        intro y' hy'
        simp only [List.mem_append, List.mem_cons] at hy' ⊢
        tauto
      -- The others are related to the others, since none of them is related to `y`.
      have hothers : IsWithin R rest (before ++ after) := by
        have hlength : rest.length + 1 = before.length + (after.length + 1) := by simpa using h.1
        refine ⟨by simpa using (by omega : rest.length = before.length + after.length), ?_⟩
        intro x' hx'
        obtain ⟨y', hy', hxy'⟩ := h.2 x' (List.mem_cons_of_mem x hx')
        have hne : y' ≠ y := by
          rintro rfl
          exact hx x' hx' y' hy hxy hxy'
        exact ⟨y', by simpa [hne] using hy', hxy'⟩
      intro y' hy'
      by_cases hne : y' = y
      · exact ⟨x, List.mem_cons_self, hne ▸ hxy⟩
      · obtain ⟨x', hx', hxy'⟩ := ih hothers
          (hrest.imp fun hapart y' hy' => hapart y' (hsub y' hy')) y' (by simpa [hne] using hy')
        exact ⟨x', List.mem_cons_of_mem x hx', hxy'⟩

theorem IsWithin.symm (h : IsWithin R xs ys)
    (hdistinct : xs.Pairwise fun x x' => ∀ y ∈ ys, R x y → ¬ R x' y)
    (hsymm : ∀ x ∈ xs, ∀ y ∈ ys, R x y → R y x) : IsWithin R ys xs := by
  refine ⟨h.1.symm, fun y hy => ?_⟩
  obtain ⟨x, hx, hxy⟩ := h.exists_left hdistinct y hy
  exact ⟨x, hx, hsymm x hx y hy hxy⟩

theorem forall₂_trans_of_mem (hxy : List.Forall₂ R xs ys) (hyz : List.Forall₂ R ys zs)
    (h : ∀ x ∈ xs, ∀ y ∈ ys, ∀ z ∈ zs, R x y → R y z → R x z) : List.Forall₂ R xs zs := by
  induction hxy generalizing zs with
  | nil => exact hyz
  | cons hxy _ ih =>
      obtain ⟨z, rest, hhead, hrest, rfl⟩ := List.forall₂_cons_left_iff.mp hyz
      refine .cons (h _ List.mem_cons_self _ List.mem_cons_self _ List.mem_cons_self hxy hhead)
        (ih hrest fun x hx y hy z hz => ?_)
      exact h x (List.mem_cons_of_mem _ hx) y (List.mem_cons_of_mem _ hy) z
        (List.mem_cons_of_mem _ hz)

theorem forall₂_symm_of_mem (hxy : List.Forall₂ R xs ys) (h : ∀ x ∈ xs, ∀ y ∈ ys, R x y → R y x) :
    List.Forall₂ R ys xs := by
  induction hxy with
  | nil => exact .nil
  | cons hxy _ ih =>
      refine .cons (h _ List.mem_cons_self _ List.mem_cons_self hxy) (ih ?_)
      exact fun x hx y hy => h x (List.mem_cons_of_mem _ hx) y (List.mem_cons_of_mem _ hy)

end Within

/-! ## Values without parts -/

/-- The exact number, or the identity of a result that is none. -/
def Number.meaning : Number → Extended ⊕ Nat
  | .whole n => .inl (.real n)
  | .double (.nan i) => .inr i
  | .double (.infinity true) => .inl .bottom
  | .double (.infinity false) => .inl .top
  | .double .negativeZero => .inl (.real 0)
  | .double (.finite q) => .inl (.real q)

theorem Number.same_iff {p q : Number} : p.same q = true ↔ p.meaning = q.meaning := by
  rcases p with n | ⟨i | ⟨_ | _⟩ | _ | a⟩ <;> rcases q with m | ⟨j | ⟨_ | _⟩ | _ | b⟩ <;>
    simp [same, equal, rank?, Double.rank?, meaning]

theorem Number.same_truth_iff {c d : Bool} :
    (whole (if c then 1 else 0)).same (.whole (if d then 1 else 0)) = true ↔ d = c := by
  cases c <;> cases d <;> simp [same_iff, meaning]

@[simp] theorem Number.isNan_whole (n : Int) : (whole n).isNan = false := rfl

/-- Whether a clock is related to others, and the time it shows, universal time if it is. -/
def Moment.meaning (m : Moment) : Bool × Int :=
  (m.offset.isSome, m.elapsed - m.offset.getD 0)

theorem Moment.same_iff {m n : Moment} : m.same n = true ↔ m.meaning = n.meaning := by
  cases hm : m.offset <;> cases hn : n.offset <;> simp [same, meaning, hm, hn]

namespace Value

/-- What a value without parts stands for. -/
inductive Meaning where
  | null
  | number (exact : Extended ⊕ Nat)
  | text (s : String)
  | bytes (bs : List UInt8)
  | day (d : Day)
  | moment (time : Bool × Int)
  | function (f : FunctionId)

/-- The meaning of a value without parts. A truth value is a number. -/
def meaning? : Value → Option Meaning
  | .null => some .null
  | .text s => some (.text s)
  | .bytes bs => some (.bytes bs)
  | .date d => some (.day d)
  | .moment m => some (.moment m.meaning)
  | .function f => some (.function f)
  | v => v.numeric?.map fun n => .number n.meaning

/-- Values without parts are the same if they have the same meaning. -/
theorem sameAtom_iff {a b : Value} :
    sameAtom a b = true ↔ a.meaning?.isSome = true ∧ a.meaning? = b.meaning? := by
  cases a <;> cases b <;>
    simp [sameAtom, meaning?, numeric?, number?, Number.same_iff, Moment.same_iff]

theorem same_iff_of_meaning {a b : Value} {m : Meaning} (ha : a.meaning? = some m) :
    a.same b = true ↔ b.meaning? = some m := by
  have hatom : a.same b = sameAtom a b := by
    cases a <;> first | rfl | cases ha
  rw [hatom, sameAtom_iff, ha]
  simp [eq_comm]

/-! ## Containers -/

/-- The value is a set with the given members, of either sort. -/
def IsSet (v : Value) (members : List Value) : Prop :=
  v = .set members ∨ v = .fixedSet members

/-- Entries are the same if their keys and their values are. -/
def sameEntry (e f : Value × Value) : Prop :=
  e.1.same f.1 = true ∧ e.2.same f.2 = true

theorem sameAll_iff {xs ys : List Value} :
    sameAll xs ys = true ↔ List.Forall₂ (fun x y => x.same y = true) xs ys := by
  induction xs generalizing ys with
  | nil => cases ys <;> simp [sameAll]
  | cons x rest ih => cases ys <;> simp [sameAll, ih]

theorem allWithin_iff {xs ys : List Value} :
    allWithin xs ys = true ↔ ∀ x ∈ xs, ∃ y ∈ ys, x.same y = true := by
  induction xs with
  | nil => simp [allWithin]
  | cons x rest ih => simp [allWithin, ih]

theorem entriesWithin_iff {xs ys : Mapping} :
    entriesWithin xs ys = true ↔ ∀ e ∈ xs, ∃ f ∈ ys, sameEntry e f := by
  induction xs with
  | nil => simp [entriesWithin]
  | cons e rest ih =>
      simp only [entriesWithin, Bool.and_eq_true, List.any_eq_true, ih, List.forall_mem_cons,
        sameEntry]

theorem same_list_iff {xs : List Value} {b : Value} :
    (Value.list xs).same b = true ↔
      ∃ ys, b = .list ys ∧ List.Forall₂ (fun x y => x.same y = true) xs ys := by
  cases b <;> simp [same, sameAll_iff]

theorem same_tuple_iff {xs : List Value} {b : Value} :
    (Value.tuple xs).same b = true ↔
      ∃ ys, b = .tuple ys ∧ List.Forall₂ (fun x y => x.same y = true) xs ys := by
  cases b <;> simp [same, sameAll_iff]

theorem same_iff_of_isSet {a b : Value} {xs : List Value} (ha : a.IsSet xs) :
    a.same b = true ↔ ∃ ys, b.IsSet ys ∧ IsWithin (fun x y => x.same y = true) xs ys := by
  rcases ha with rfl | rfl <;> cases b <;> simp [IsSet, same, allWithin_iff, IsWithin]

theorem same_mapping_iff {xs : Mapping} {b : Value} :
    (Value.mapping xs).same b = true ↔ ∃ ys, b = .mapping ys ∧ IsWithin sameEntry xs ys := by
  cases b <;> simp [same, entriesWithin_iff, IsWithin]

theorem same_named_iff {name check b : Value} :
    (Value.named name check).same b = true ↔
      ∃ name' check', b = .named name' check' ∧ name.same name' = true ∧
        check.same check' = true := by
  cases b <;> simp [same, and_assoc]

/-- No two of the values are the same. -/
def AreDistinct (vs : List Value) : Prop :=
  vs.Pairwise fun v w => v.same w = false

/-- The sets and mappings of a value, at any depth, hold no member and no key twice. -/
inductive IsWellFormed : Value → Prop
  | atom {v : Value} {m : Meaning} (meaning : v.meaning? = some m) : IsWellFormed v
  | list {xs : List Value} (members : ∀ x ∈ xs, IsWellFormed x) : IsWellFormed (.list xs)
  | tuple {xs : List Value} (members : ∀ x ∈ xs, IsWellFormed x) : IsWellFormed (.tuple xs)
  | set {v : Value} {xs : List Value} (isSet : v.IsSet xs) (members : ∀ x ∈ xs, IsWellFormed x)
    (distinct : AreDistinct xs) : IsWellFormed v
  | mapping {entries : Mapping} (keys : ∀ e ∈ entries, IsWellFormed e.1)
    (values : ∀ e ∈ entries, IsWellFormed e.2) (distinct : AreDistinct (Mapping.keys entries)) :
    IsWellFormed (.mapping entries)
  | named {name check : Value} (name_wf : IsWellFormed name) (check_wf : IsWellFormed check) :
    IsWellFormed (.named name check)

namespace IsWellFormed

variable {a b c : Value}

theorem members_of_list {xs : List Value} (h : (Value.list xs).IsWellFormed) :
    ∀ x ∈ xs, x.IsWellFormed := by
  cases h with
  | atom h => cases h
  | list hxs => exact hxs
  | set h => rcases h with h | h <;> cases h

theorem members_of_tuple {xs : List Value} (h : (Value.tuple xs).IsWellFormed) :
    ∀ x ∈ xs, x.IsWellFormed := by
  cases h with
  | atom h => cases h
  | tuple hxs => exact hxs
  | set h => rcases h with h | h <;> cases h

theorem members_of_isSet {xs : List Value} (h : a.IsWellFormed) (hset : a.IsSet xs) :
    ∀ x ∈ xs, x.IsWellFormed := by
  cases h with
  | atom h => rcases hset with rfl | rfl <;> cases h
  | set h hxs =>
      rcases hset with rfl | rfl <;> rcases h with h | h <;> cases h <;> exact hxs
  | _ => rcases hset with h | h <;> cases h

theorem entries_of_mapping {entries : Mapping} (h : (Value.mapping entries).IsWellFormed) :
    (∀ e ∈ entries, e.1.IsWellFormed) ∧ (∀ e ∈ entries, e.2.IsWellFormed) ∧
      AreDistinct (Mapping.keys entries) := by
  cases h with
  | atom h => cases h
  | set h => rcases h with h | h <;> cases h
  | mapping hkeys hvalues hdistinct => exact ⟨hkeys, hvalues, hdistinct⟩

theorem parts_of_named {name check : Value} (h : (Value.named name check).IsWellFormed) :
    name.IsWellFormed ∧ check.IsWellFormed := by
  cases h with
  | atom h => cases h
  | set h => rcases h with h | h <;> cases h
  | named hname hcheck => exact ⟨hname, hcheck⟩

/-- Every well-formed value is the same as itself. -/
theorem same_refl (ha : a.IsWellFormed) : a.same a = true := by
  induction ha with
  | atom ha => exact (same_iff_of_meaning ha).mpr ha
  | list _ ih => exact same_list_iff.mpr ⟨_, rfl, List.forall₂_same.mpr ih⟩
  | tuple _ ih => exact same_tuple_iff.mpr ⟨_, rfl, List.forall₂_same.mpr ih⟩
  | set hset _ _ ih => exact (same_iff_of_isSet hset).mpr ⟨_, hset, .refl ih⟩
  | mapping _ _ _ ihkeys ihvalues =>
      exact same_mapping_iff.mpr ⟨_, rfl, .refl fun e he => ⟨ihkeys e he, ihvalues e he⟩⟩
  | named _ _ ihname ihcheck => exact same_named_iff.mpr ⟨_, _, rfl, ihname, ihcheck⟩

theorem same_trans (ha : a.IsWellFormed) (hab : a.same b = true) (hbc : b.same c = true) :
    a.same c = true := by
  induction ha generalizing b c with
  | atom ha =>
      rw [same_iff_of_meaning ha] at hab ⊢
      exact (same_iff_of_meaning hab).mp hbc
  | list _ ih =>
      obtain ⟨ys, rfl, hxy⟩ := same_list_iff.mp hab
      obtain ⟨zs, rfl, hyz⟩ := same_list_iff.mp hbc
      exact same_list_iff.mpr ⟨zs, rfl, forall₂_trans_of_mem hxy hyz fun x hx _ _ _ _ => ih x hx⟩
  | tuple _ ih =>
      obtain ⟨ys, rfl, hxy⟩ := same_tuple_iff.mp hab
      obtain ⟨zs, rfl, hyz⟩ := same_tuple_iff.mp hbc
      exact same_tuple_iff.mpr ⟨zs, rfl, forall₂_trans_of_mem hxy hyz fun x hx _ _ _ _ => ih x hx⟩
  | set hset _ _ ih =>
      obtain ⟨ys, hys, hxy⟩ := (same_iff_of_isSet hset).mp hab
      obtain ⟨zs, hzs, hyz⟩ := (same_iff_of_isSet hys).mp hbc
      exact (same_iff_of_isSet hset).mpr ⟨zs, hzs, hxy.trans hyz fun x hx _ _ _ _ => ih x hx⟩
  | mapping _ _ _ ihkeys ihvalues =>
      obtain ⟨ys, rfl, hxy⟩ := same_mapping_iff.mp hab
      obtain ⟨zs, rfl, hyz⟩ := same_mapping_iff.mp hbc
      refine same_mapping_iff.mpr ⟨zs, rfl, hxy.trans hyz fun e he f _ g _ hef hfg => ?_⟩
      exact ⟨ihkeys e he hef.1 hfg.1, ihvalues e he hef.2 hfg.2⟩
  | named _ _ ihname ihcheck =>
      obtain ⟨_, _, rfl, hname, hcheck⟩ := same_named_iff.mp hab
      obtain ⟨_, _, rfl, hname', hcheck'⟩ := same_named_iff.mp hbc
      exact same_named_iff.mpr ⟨_, _, rfl, ihname hname hname', ihcheck hcheck hcheck'⟩

/-- No two distinct members are the same as one value, where sameness can be turned round. -/
theorem pairwise_apart {α : Type} {f : α → Value} {R : α → α → Prop} {xs ys : List α}
    (hR : ∀ x y, R x y → (f x).same (f y) = true) (hxs : ∀ x ∈ xs, (f x).IsWellFormed)
    (hdistinct : AreDistinct (xs.map f))
    (hsymm : ∀ x ∈ xs, ∀ y ∈ ys, (f x).same (f y) = true → (f y).same (f x) = true) :
    xs.Pairwise fun x x' => ∀ y ∈ ys, R x y → ¬ R x' y := by
  refine (List.pairwise_map.mp hdistinct).imp_of_mem fun hx hx' hapart y hy hxy hx'y => ?_
  have hback := hsymm _ hx' y hy (hR _ _ hx'y)
  rw [(hxs _ hx).same_trans (hR _ _ hxy) hback] at hapart
  cases hapart

theorem same_symm (ha : a.IsWellFormed) (hb : b.IsWellFormed) (hab : a.same b = true) :
    b.same a = true := by
  induction ha generalizing b with
  | atom ha =>
      have hmeaning := (same_iff_of_meaning ha).mp hab
      exact (same_iff_of_meaning hmeaning).mpr ha
  | list _ ih =>
      obtain ⟨ys, rfl, hxy⟩ := same_list_iff.mp hab
      have hys := hb.members_of_list
      refine same_list_iff.mpr ⟨_, rfl, forall₂_symm_of_mem hxy fun x hx y hy => ?_⟩
      exact ih x hx (hys y hy)
  | tuple _ ih =>
      obtain ⟨ys, rfl, hxy⟩ := same_tuple_iff.mp hab
      have hys := hb.members_of_tuple
      refine same_tuple_iff.mpr ⟨_, rfl, forall₂_symm_of_mem hxy fun x hx y hy => ?_⟩
      exact ih x hx (hys y hy)
  | set hset hxs hdistinct ih =>
      -- All members are found among `ys`, no two as the same one, and so nothing is left over there.
      obtain ⟨ys, hbset, hxy⟩ := (same_iff_of_isSet hset).mp hab
      have hsymm := fun x hx y hy => ih x hx (hb.members_of_isSet hbset y hy)
      have hapart := pairwise_apart (f := id) (fun _ _ h => h) hxs (by simpa using hdistinct) hsymm
      exact (same_iff_of_isSet hbset).mpr ⟨_, hset, hxy.symm hapart hsymm⟩
  | mapping hkeys _ hdistinct ihkeys ihvalues =>
      obtain ⟨ys, rfl, hxy⟩ := same_mapping_iff.mp hab
      obtain ⟨hbkeys, hbvalues, -⟩ := hb.entries_of_mapping
      have hsymm := fun e he f hf => ihkeys e he (hbkeys f hf)
      have hapart := pairwise_apart (R := sameEntry) (fun _ _ h => h.1) hkeys hdistinct hsymm
      refine same_mapping_iff.mpr ⟨_, rfl, hxy.symm hapart fun e he f hf hef => ?_⟩
      exact ⟨hsymm e he f hf hef.1, ihvalues e he (hbvalues f hf) hef.2⟩
  | named _ _ ihname ihcheck =>
      obtain ⟨_, _, rfl, hname, hcheck⟩ := same_named_iff.mp hab
      obtain ⟨hbname, hbcheck⟩ := hb.parts_of_named
      exact same_named_iff.mpr ⟨_, _, rfl, ihname hbname hname, ihcheck hbcheck hcheck⟩

end IsWellFormed

end Value

/-! ## Mappings and sets as they are made -/

open Value

/-- A distinct list stays so when a value is added to it as to a set. -/
theorem Value.AreDistinct.add {vs : List Value} (h : AreDistinct vs)
    (hvs : ∀ v ∈ vs, v.IsWellFormed) {w : Value} (hw : w.IsWellFormed) :
    AreDistinct (Members.add vs w) := by
  unfold Members.add
  split
  · exact h
  · rename_i hnew
    refine List.pairwise_append.mpr ⟨h, List.pairwise_singleton _ _, ?_⟩
    intro v hv _ hmem
    obtain rfl := List.mem_singleton.mp hmem
    rw [Bool.eq_false_iff]
    intro hsame
    exact hnew (List.any_eq_true.mpr ⟨v, hv, (hvs v hv).same_symm hw hsame⟩)

namespace Mapping

variable {α : Type} {m : List (Value × α)}

/-- What is listed under a key is found under every key that is the same. -/
theorem get?_eq_some_of_mem (hkeys : ∀ e ∈ m, e.1.IsWellFormed) (hdistinct : AreDistinct (keys m))
    {key k : Value} {a : α} (hkey : key.IsWellFormed) (hmem : (k, a) ∈ m)
    (hsame : key.same k = true) : get? m key = some a := by
  induction m with
  | nil => exact absurd hmem List.not_mem_nil
  | cons entry rest ih =>
      obtain ⟨l, b⟩ := entry
      obtain ⟨hl, hrest⟩ := List.forall_mem_cons.mp hkeys
      obtain ⟨hapart, hothers⟩ := List.pairwise_cons.mp hdistinct
      rw [get?_cons]
      rcases List.mem_cons.mp hmem with heq | hmem
      · obtain ⟨rfl, rfl⟩ := Prod.mk.inj heq
        rw [if_pos hsame]
      · have hdiffers : ¬ key.same l = true := by
          intro hkl
          have hlk := hl.same_trans (hkey.same_symm hl hkl) hsame
          rw [hapart k (List.mem_map_of_mem hmem)] at hlk
          cases hlk
        rw [if_neg hdiffers]
        exact ih hrest hothers hmem

/-- The mapping of well-formed keys and values is well formed, whatever they were listed with. -/
theorem isWellFormed_ofEntries {entries : Mapping}
    (h : ∀ e ∈ entries, e.1.IsWellFormed ∧ e.2.IsWellFormed) :
    (Value.mapping (ofEntries entries)).IsWellFormed := by
  suffices hfold : ∀ m : Mapping, (∀ e ∈ m, e.1.IsWellFormed ∧ e.2.IsWellFormed) →
      AreDistinct (keys m) →
      (Value.mapping (entries.foldl (fun m e => put m e.1 e.2) m)).IsWellFormed from
    hfold [] (by simp) .nil
  induction entries with
  | nil =>
      intro m hm hdistinct
      exact .mapping (fun e he => (hm e he).1) (fun e he => (hm e he).2) hdistinct
  | cons entry rest ih =>
      obtain ⟨⟨hkey, hvalue⟩, hrest⟩ := List.forall_mem_cons.mp h
      intro m hm hdistinct
      refine ih hrest _ (forall_mem_put hm hkey hvalue) ?_
      rw [keys_put]
      refine hdistinct.add (fun k hk => ?_) hkey
      obtain ⟨e, he, rfl⟩ := List.mem_map.mp hk
      exact (hm e he).1

end Mapping

/-- The set of well-formed values is well formed. -/
theorem Members.isWellFormed_of_isSet {vs : List Value} (h : ∀ v ∈ vs, v.IsWellFormed) {a : Value}
    (ha : a.IsSet (Members.ofList vs)) : a.IsWellFormed := by
  have hmembers : ∀ v ∈ Members.ofList vs, v.IsWellFormed := fun v hv => h v (mem_of_mem_ofList hv)
  refine .set ha hmembers ?_
  suffices hfold : ∀ members, (∀ v ∈ members, v.IsWellFormed) → AreDistinct members →
      AreDistinct (vs.foldl add members) from hfold [] (by simp) .nil
  clear ha hmembers
  induction vs with
  | nil => exact fun _ _ hdistinct => hdistinct
  | cons v rest ih =>
      obtain ⟨hv, hrest⟩ := List.forall_mem_cons.mp h
      intro members hmembers hdistinct
      refine ih hrest _ (fun w hw => ?_) (hdistinct.add hmembers hv)
      rcases mem_or_eq_of_mem_add hw with hw | rfl
      · exact hmembers w hw
      · exact hv

end FieldRules
