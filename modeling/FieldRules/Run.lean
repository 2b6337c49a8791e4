import FieldRules.Failure
import FieldRules.Stack

/-!
# Computations that call functions

Callers may supply functions: as checks of whole fields, as rules, in a library, as messages.
What a function answers is not known here. A `Surroundings` gives the answers, together with the
current day and what is left of the stack; everything that calls functions says which it called, with
which values and in which order, whether it succeeds or not.

## Main definitions

* `Surroundings` — the answers of functions, the current day, and the stack
* `Run` — a result or a failure, with the calls made on the way
* `Run.call` — the call of a function
-/

namespace FieldRules

/-- What a computation depends on besides its arguments: the answers of functions to the values they
are given, the current day, and what is left of the stack. -/
structure Surroundings where
  answer : FunctionId → List Value → Except Failure Value
  today : Day
  stack : Stack

/-- One call of a function. -/
structure Call where
  function : FunctionId
  arguments : List Value

/-- The outcome of a computation: the calls it made, in order, and its result or failure. -/
structure Run (α : Type) where
  calls : List Call
  result : Except Failure α

namespace Run

variable {α β : Type}

/-- A result that takes no calls. -/
def ofResult (result : Except Failure α) : Run α :=
  ⟨[], result⟩

/-- The second computation after the first; a failure of the first is the failure of both. -/
def andThen (first : Run α) (next : α → Run β) : Run β :=
  match first.result with
  | .ok a => ⟨first.calls ++ (next a).calls, (next a).result⟩
  | .error failure => ⟨first.calls, .error failure⟩

instance : Monad Run where
  pure a := ofResult (.ok a)
  bind := andThen

/-- A failure without calls. -/
def fail (failure : Failure) : Run α :=
  ofResult (.error failure)

/-- Calls a function. The call is noted whether the function answers or fails. -/
def call (s : Surroundings) (function : FunctionId) (arguments : List Value) : Run Value :=
  ⟨[⟨function, arguments⟩], s.answer function arguments⟩

@[simp] theorem pure_eq (a : α) : (pure a : Run α) = ⟨[], .ok a⟩ := rfl

theorem bind_eq (first : Run α) (next : α → Run β) : first >>= next = andThen first next := rfl

@[simp] theorem bind_ok (calls : List Call) (a : α) (next : α → Run β) :
    (⟨calls, .ok a⟩ : Run α) >>= next = ⟨calls ++ (next a).calls, (next a).result⟩ := rfl

@[simp] theorem bind_error (calls : List Call) (failure : Failure) (next : α → Run β) :
    (⟨calls, .error failure⟩ : Run α) >>= next = ⟨calls, .error failure⟩ := rfl

@[simp] theorem calls_ofResult (result : Except Failure α) : (ofResult result).calls = [] := rfl

@[simp] theorem result_ofResult (result : Except Failure α) :
    (ofResult result).result = result := rfl

instance : LawfulMonad Run :=
  LawfulMonad.mk' Run
    (fun ⟨calls, result⟩ => by cases result <;> simp [Functor.map, andThen, ofResult])
    (fun _ _ => by simp)
    (fun ⟨calls, result⟩ f g => by
      cases result with
      | error _ => rfl
      | ok a =>
        rw [bind_ok, bind_ok]
        rcases h : f a with ⟨calls', result'⟩
        cases result' <;> simp)

end Run

end FieldRules
