import FieldRules.Text.CharClass

/-!
# Shapes of texts

A shape describes a set of texts, built from classes of characters by sequence, choice and
repetition. `Describes` says which texts a shape describes; `fits` decides it by taking one
character off the text at a time, so that no choice of where one part ends and the next begins is
ever tried and undone. What may follow the characters taken is kept as a choice between different
shapes, of which there are only so many however long the text is.

## Main definitions

* `Shape` — the shapes, with `Shape.literal`, `Shape.oneOrMore`, `Shape.maybe`, `Shape.upTo` and
  `Shape.between` for the usual combinations
* `Shape.Describes` — the texts a shape describes
* `Shape.fits` — the decision, with `Shape.fits_iff`
-/

namespace FieldRules.Text

/-- A description of texts. -/
inductive Shape where
  /-- No text at all. -/
  | never
  /-- The empty text alone. -/
  | empty
  /-- Any text. -/
  | anything
  /-- One character of a class. -/
  | one (cls : CharClass)
  /-- A text of the first shape, then one of the second. -/
  | seq (first second : Shape)
  /-- A text of either shape. -/
  | or (left right : Shape)
  /-- Any number of texts of a shape, one after the other. -/
  | many (body : Shape)
  deriving DecidableEq

namespace Shape

/-- The texts that a shape describes. -/
inductive Describes : Shape → List Char → Prop
  | empty : Describes .empty []
  | anything {s : List Char} : Describes .anything s
  | one {cls : CharClass} {c : Char} (h : cls.has c = true) : Describes (.one cls) [c]
  | seq {p q : Shape} {s t : List Char} (hp : Describes p s) (hq : Describes q t) :
      Describes (.seq p q) (s ++ t)
  | left {p q : Shape} {s : List Char} (hp : Describes p s) : Describes (.or p q) s
  | right {p q : Shape} {s : List Char} (hq : Describes q s) : Describes (.or p q) s
  | done {p : Shape} : Describes (.many p) []
  | more {p : Shape} {s t : List Char} (hp : Describes p s) (hs : Describes (.many p) t) :
      Describes (.many p) (s ++ t)

/-! ## Combinations -/

/-- Exactly the given text. -/
def literal : List Char → Shape
  | [] => .empty
  | c :: rest => .seq (.one (.just c)) (literal rest)

/-- At least one text of the shape. -/
def oneOrMore (p : Shape) : Shape :=
  .seq p (.many p)

/-- A text of the shape or nothing. -/
def maybe (p : Shape) : Shape :=
  .or p .empty

/-- Exactly `n` texts of the shape. -/
def times (p : Shape) : Nat → Shape
  | 0 => .empty
  | n + 1 => .seq p (times p n)

/-- At most `n` texts of the shape. -/
def upTo (p : Shape) : Nat → Shape
  | 0 => .empty
  | n + 1 => maybe (.seq p (upTo p n))

/-- At least `low` texts of the shape, and at most `extra` more. -/
def between (p : Shape) (low extra : Nat) : Shape :=
  .seq (times p low) (upTo p extra)

/-- All the shapes one after the other. -/
def all : List Shape → Shape
  | [] => .empty
  | p :: rest => .seq p (all rest)

/-! ## The decision -/

/-- Whether the shape describes the empty text. -/
def allowsEmpty : Shape → Bool
  | .never => false
  | .empty => true
  | .anything => true
  | .one _ => false
  | .seq p q => p.allowsEmpty && q.allowsEmpty
  | .or p q => p.allowsEmpty || q.allowsEmpty
  | .many _ => true

/-- Whether a shape is one of the alternatives of a choice. -/
def isAmong (p : Shape) : Shape → Bool
  | .or left right => p = left || isAmong p right
  | q => p = q

/-- A choice, simplified where one side describes nothing or everything or is there already. -/
def orElse : Shape → Shape → Shape
  | .never, q => q
  | .anything, _ => .anything
  | .or left right, q => orElse left (orElse right q)
  | p, .never => p
  | _, .anything => .anything
  | p, q => if isAmong p q then q else .or p q

/-- A sequence, simplified where one part describes nothing or only the empty text. A choice followed
by a shape is a choice between sequences. -/
def followedBy : Shape → Shape → Shape
  | .never, _ => .never
  | .empty, q => q
  | .or left right, q => orElse (followedBy left q) (followedBy right q)
  | p, .empty => p
  | p, q => .seq p q

/-- The texts that may follow the character `c` in a text of the shape. -/
def after (c : Char) : Shape → Shape
  | .never => .never
  | .empty => .never
  | .anything => .anything
  | .one cls => if cls.has c then .empty else .never
  | .seq p q =>
    if p.allowsEmpty then orElse (followedBy (p.after c) q) (q.after c)
    else followedBy (p.after c) q
  | .or p q => orElse (p.after c) (q.after c)
  | .many p => followedBy (p.after c) (.many p)

/-- Whether the shape describes the text. -/
def fits (p : Shape) : List Char → Bool
  | [] => p.allowsEmpty
  | c :: rest => (p.after c).fits rest

/-! ## The decision is right -/

@[simp] theorem describes_empty_iff {s : List Char} : Describes .empty s ↔ s = [] :=
  ⟨fun h => by cases h; rfl, fun h => h ▸ .empty⟩

@[simp] theorem describes_anything {s : List Char} : Describes .anything s :=
  .anything

@[simp] theorem not_describes_never {s : List Char} : ¬ Describes .never s :=
  fun h => nomatch h

@[simp] theorem describes_one_iff {cls : CharClass} {s : List Char} :
    Describes (.one cls) s ↔ ∃ c, s = [c] ∧ cls.has c = true :=
  ⟨fun h => by cases h with | one h => exact ⟨_, rfl, h⟩, fun ⟨_, hs, h⟩ => hs ▸ .one h⟩

theorem describes_seq_iff {p q : Shape} {s : List Char} :
    Describes (.seq p q) s ↔ ∃ t u, s = t ++ u ∧ Describes p t ∧ Describes q u :=
  ⟨fun h => by cases h with | seq hp hq => exact ⟨_, _, rfl, hp, hq⟩,
   fun ⟨_, _, hs, hp, hq⟩ => hs ▸ .seq hp hq⟩

@[simp] theorem describes_seq_never {q : Shape} {s : List Char} : ¬ Describes (.seq .never q) s :=
  fun h => by cases h with | seq hp _ => exact not_describes_never hp

@[simp] theorem describes_empty_seq_iff {q : Shape} {s : List Char} :
    Describes (.seq .empty q) s ↔ Describes q s := by
  rw [describes_seq_iff]
  exact ⟨fun ⟨_, _, hs, ht, hu⟩ => by cases ht; simpa [hs] using hu,
    fun h => ⟨[], s, rfl, .empty, h⟩⟩

@[simp] theorem describes_seq_empty_iff {p : Shape} {s : List Char} :
    Describes (.seq p .empty) s ↔ Describes p s := by
  rw [describes_seq_iff]
  exact ⟨fun ⟨_, _, hs, ht, hu⟩ => by cases hu; simpa [hs] using ht,
    fun h => ⟨s, [], (List.append_nil s).symm, h, .empty⟩⟩

theorem describes_or_iff {p q : Shape} {s : List Char} :
    Describes (.or p q) s ↔ Describes p s ∨ Describes q s :=
  ⟨fun h => by
    cases h with
    | left h => exact .inl h
    | right h => exact .inr h,
   fun h => h.elim .left .right⟩

theorem allowsEmpty_iff (p : Shape) : p.allowsEmpty = true ↔ Describes p [] := by
  induction p with
  | never => simp [allowsEmpty]
  | empty => simp [allowsEmpty]
  | anything => simp [allowsEmpty]
  | one _ => simp [allowsEmpty]
  | seq p q ihp ihq =>
    rw [allowsEmpty, Bool.and_eq_true, ihp, ihq, describes_seq_iff]
    constructor
    · exact fun ⟨hp, hq⟩ => ⟨[], [], rfl, hp, hq⟩
    · rintro ⟨t, u, h, hp, hq⟩
      obtain ⟨rfl, rfl⟩ := List.append_eq_nil_iff.1 h.symm
      exact ⟨hp, hq⟩
  | or p q ihp ihq => simp [allowsEmpty, describes_or_iff, ihp, ihq]
  | many p _ => simp [allowsEmpty, Describes.done]

/-- A text of one alternative is a text of the choice. -/
theorem describes_of_isAmong {p q : Shape} {s : List Char} (h : isAmong p q = true)
    (hp : Describes p s) : Describes q s := by
  induction q with
  | or left right _ ih =>
    rw [isAmong, Bool.or_eq_true, decide_eq_true_eq] at h
    exact h.elim (fun h => .left (h ▸ hp)) fun h => .right (ih h)
  | _ => exact of_decide_eq_true h ▸ hp

theorem describes_orElse_iff (p q : Shape) (s : List Char) :
    Describes (orElse p q) s ↔ Describes p s ∨ Describes q s := by
  fun_induction orElse p q with
  | case1 q => simp
  | case2 q => simp
  | case3 left right q ihr ihl => rw [ihl, ihr, describes_or_iff, or_assoc]
  | case4 p => simp
  | case5 p => simp
  | case6 p q _ _ _ _ _ h => exact ⟨.inr, fun hs => hs.elim (describes_of_isAmong h) id⟩
  | case7 p q => exact describes_or_iff

theorem describes_or_seq_iff {p q r : Shape} {s : List Char} :
    Describes (.seq (.or p q) r) s ↔ Describes (.seq p r) s ∨ Describes (.seq q r) s := by
  simp only [describes_seq_iff, describes_or_iff]
  constructor
  · rintro ⟨t, u, hs, hp | hq, hr⟩
    · exact .inl ⟨t, u, hs, hp, hr⟩
    · exact .inr ⟨t, u, hs, hq, hr⟩
  · rintro (⟨t, u, hs, hp, hr⟩ | ⟨t, u, hs, hq, hr⟩)
    · exact ⟨t, u, hs, .inl hp, hr⟩
    · exact ⟨t, u, hs, .inr hq, hr⟩

theorem describes_followedBy_iff (p q : Shape) (s : List Char) :
    Describes (followedBy p q) s ↔ Describes (.seq p q) s := by
  fun_induction followedBy p q with
  | case3 left right q ihl ihr => rw [describes_orElse_iff, ihl, ihr, describes_or_seq_iff]
  | _ => simp

/-- A nonempty text of a repetition starts with a nonempty text of its body. -/
theorem describes_many_cons_iff {p : Shape} {c : Char} {s : List Char} :
    Describes (.many p) (c :: s) ↔
      ∃ t u, s = t ++ u ∧ Describes p (c :: t) ∧ Describes (.many p) u := by
  constructor
  · intro h
    generalize hq : Shape.many p = q at h
    generalize hw : c :: s = w at h
    induction h with
    | done => simp at hw
    | @more p' t u hp hs _ ih =>
      cases hq
      cases t with
      | nil => exact ih rfl (by simpa using hw)
      | cons d t =>
        simp only [List.cons_append, List.cons.injEq] at hw
        obtain ⟨rfl, rfl⟩ := hw
        exact ⟨t, u, rfl, hp, hs⟩
    | _ => cases hq
  · rintro ⟨t, u, rfl, hp, hs⟩
    exact Describes.more hp hs

/-- What may follow a character is what the shape describes after it. -/
theorem describes_after_iff (p : Shape) (c : Char) (s : List Char) :
    Describes (p.after c) s ↔ Describes p (c :: s) := by
  induction p generalizing s with
  | never => simp [after]
  | empty => simp [after]
  | anything => simp [after]
  | one cls =>
    by_cases h : cls.has c = true <;> simp only [after, h, if_true, if_false, describes_empty_iff,
      not_describes_never, describes_one_iff, List.cons.injEq, Bool.false_eq_true]
    · exact ⟨fun hs => ⟨c, ⟨rfl, hs⟩, h⟩, fun ⟨_, ⟨_, hs⟩, _⟩ => hs⟩
    · exact ⟨False.elim, fun ⟨d, ⟨hd, _⟩, hc⟩ => h (hd ▸ hc)⟩
  | seq p q ihp ihq =>
    have split : Describes (.seq (p.after c) q) s ↔
        ∃ t u, c :: s = (c :: t) ++ u ∧ Describes p (c :: t) ∧ Describes q u := by
      simp [describes_seq_iff, ihp]
    have cases_first : Describes (.seq p q) (c :: s) ↔
        Describes (.seq (p.after c) q) s ∨ (Describes p [] ∧ Describes q (c :: s)) := by
      rw [split, describes_seq_iff]
      constructor
      · rintro ⟨t, u, h, hp, hq⟩
        cases t with
        | nil => exact .inr ⟨hp, by simpa [h] using hq⟩
        | cons d t =>
          simp only [List.cons_append, List.cons.injEq] at h
          obtain ⟨rfl, rfl⟩ := h
          exact .inl ⟨t, u, rfl, hp, hq⟩
      · rintro (⟨t, u, h, hp, hq⟩ | ⟨hp, hq⟩)
        · exact ⟨c :: t, u, h, hp, hq⟩
        · exact ⟨[], c :: s, rfl, hp, hq⟩
    rw [cases_first]
    by_cases h : p.allowsEmpty = true
    · simp only [after, h, if_true, describes_orElse_iff, describes_followedBy_iff, ihq,
        (allowsEmpty_iff p).1 h, true_and]
    · have hp : ¬ Describes p [] := fun hp => h ((allowsEmpty_iff p).2 hp)
      simp [after, h, describes_followedBy_iff, hp]
  | or p q ihp ihq => simp [after, describes_orElse_iff, describes_or_iff, ihp, ihq]
  | many p ih => simp [after, describes_followedBy_iff, describes_seq_iff,
      describes_many_cons_iff, ih]

/-- The decision agrees with the description. -/
theorem fits_iff (p : Shape) (s : List Char) : p.fits s = true ↔ Describes p s := by
  induction s generalizing p with
  | nil => simp [fits, allowsEmpty_iff]
  | cons c rest ih => simp [fits, ih, describes_after_iff]

end Shape

end FieldRules.Text
