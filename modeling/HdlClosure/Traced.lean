import HdlClosure.Failure
import HdlClosure.Log.Event

/-! A result together with what happens on the way to it. A failure undoes none of that: what was
told, printed or written before it stays so. -/
namespace HdlClosure

/-- A result, the events that are told, the text that is printed, and the files as the last writing
leaves them, if there is one. -/
structure Traced (α : Type) where
  events : List Event := []
  printed : String := ""
  written : Option FileTree := none
  result : Except Failure α

namespace Traced

instance : Monad Traced where
  pure value := { result := .ok value }
  bind step next :=
    match step.result with
    | .ok value =>
      { events := step.events ++ (next value).events
        printed := step.printed ++ (next value).printed
        written := (next value).written <|> step.written
        result := (next value).result }
    | .error failure =>
      { events := step.events, printed := step.printed, written := step.written
        result := .error failure }

def tell (event : Event) : Traced Unit := { events := [event], result := .ok () }

def tellAll (events : List Event) : Traced Unit := { events := events, result := .ok () }

/-- Prints a text on the standard output. -/
def print (text : String) : Traced Unit := { printed := text, result := .ok () }

/-- Leaves the files as given. -/
def write (tree : FileTree) : Traced Unit := { written := some tree, result := .ok () }

def fail {α : Type} (failure : Failure) : Traced α := { result := .error failure }

def ofExcept {α : Type} (result : Except Failure α) : Traced α := { result := result }

section Bind

variable {α β : Type} {step : Traced α} {next : α → Traced β} {value : α} {failure : Failure}

theorem bind_of_ok (done : step.result = .ok value) :
    step >>= next =
      { events := step.events ++ (next value).events
        printed := step.printed ++ (next value).printed
        written := (next value).written <|> step.written
        result := (next value).result } := by
  obtain ⟨events, printed, written, result⟩ := step
  cases done
  rfl

theorem bind_of_error (failed : step.result = .error failure) :
    step >>= next =
      { events := step.events, printed := step.printed, written := step.written
        result := .error failure } := by
  obtain ⟨events, printed, written, result⟩ := step
  cases failed
  rfl

@[simp] theorem result_bind (step : Traced α) (next : α → Traced β) :
    (step >>= next).result = step.result.bind fun value => (next value).result := by
  obtain ⟨events, printed, written, result⟩ := step
  cases result <;> rfl

/-- Two steps succeed together when the first does and then the second. -/
theorem result_bind_eq_ok_iff {final : β} :
    (step >>= next).result = .ok final ↔
      ∃ middle, step.result = .ok middle ∧ (next middle).result = .ok final := by
  rw [result_bind]
  cases step.result with
  | error failure => simp [Except.bind]
  | ok middle => simp [Except.bind]

end Bind

section Result

variable {α : Type}

@[simp] theorem result_pure (value : α) : (pure value : Traced α).result = .ok value := rfl

@[simp] theorem result_tell (event : Event) : (tell event).result = .ok () := rfl

@[simp] theorem result_tellAll (events : List Event) : (tellAll events).result = .ok () := rfl

@[simp] theorem result_fail (failure : Failure) :
    (fail failure : Traced α).result = .error failure := rfl

end Result

/-- A step that neither prints nor writes, whether it fails or not. -/
structure Silent {α : Type} (step : Traced α) : Prop where
  printed : step.printed = ""
  written : step.written = none

namespace Silent

variable {α β : Type}

protected theorem pure (value : α) : (pure value : Traced α).Silent := ⟨rfl, rfl⟩

protected theorem tell (event : Event) : (tell event).Silent := ⟨rfl, rfl⟩

protected theorem tellAll (events : List Event) : (tellAll events).Silent := ⟨rfl, rfl⟩

protected theorem fail (failure : Failure) : (fail failure : Traced α).Silent := ⟨rfl, rfl⟩

protected theorem ofExcept (result : Except Failure α) : (ofExcept result).Silent := ⟨rfl, rfl⟩

protected theorem bind {step : Traced α} {next : α → Traced β} (first : step.Silent)
    (second : ∀ value, (next value).Silent) : (step >>= next).Silent := by
  cases result : step.result with
  | error failure =>
    rw [bind_of_error result]
    exact ⟨first.printed, first.written⟩
  | ok value =>
    obtain ⟨printed, written⟩ := second value
    rw [bind_of_ok result, first.printed, first.written, printed, written]
    exact ⟨rfl, rfl⟩

end Silent

end Traced

end HdlClosure
