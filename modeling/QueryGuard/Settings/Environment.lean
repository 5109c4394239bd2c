/-!
# QueryGuard.Settings.Environment

Environment variables.
-/

namespace QueryGuard

/-- The environment: the value of each variable that is set. -/
structure Environment where
  get? : String → Option String

namespace Environment

/-- The environment without variables. -/
def empty : Environment := ⟨fun _ => none⟩

/-- Sets a variable. -/
def set (env : Environment) (name value : String) : Environment :=
  ⟨fun n => if n = name then some value else env.get? n⟩

/-- Removes a variable. -/
def unset (env : Environment) (name : String) : Environment :=
  ⟨fun n => if n = name then none else env.get? n⟩

/-- The environment of a list of variables, of which a later one wins over an earlier one of the
same name. -/
def ofList (settings : List (String × String)) : Environment :=
  settings.foldl (fun env v => env.set v.1 v.2) empty

/-- Environments with the same values are the same. -/
@[ext] theorem ext {env env' : Environment} (h : ∀ name, env.get? name = env'.get? name) :
    env = env' := by
  cases env
  cases env'
  congr
  exact funext h

theorem get?_set (env : Environment) (name value n : String) :
    (env.set name value).get? n = if n = name then some value else env.get? n := rfl

end Environment

end QueryGuard
