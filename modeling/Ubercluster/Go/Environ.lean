import Mathlib.Data.List.AList

/-! The environment of a Go process on Unix as the `syscall` package keeps it: a map from keys
to values that `os.Environ` lists as `key=value` strings. Go splits each entry at its first `=`
and `Setenv` refuses a key holding one, so no key of the map ever contains `=`. -/
namespace Ubercluster.Go

/-- Go's `map[string]string`. -/
abbrev StringMap := AList fun _ : String => String

/-- The process environment. The order in which `os.Environ` lists the variables is not
modelled: nothing in the source depends on it. -/
structure Env where
  vars : StringMap
  key_noSep : ∀ k ∈ vars, '=' ∉ k.toList

namespace Env

theorem ext {e e' : Env} (h : e.vars = e'.vars) : e = e' := by
  cases e; cases e'; cases h; rfl

instance : DecidableEq Env := fun e e' =>
  decidable_of_iff (e.vars = e'.vars) ⟨ext, fun h => h ▸ rfl⟩

/-- The environment with no variables. -/
instance : EmptyCollection Env := ⟨⟨∅, fun _ h => absurd h (AList.not_mem_empty _)⟩⟩

/-- `os.Environ`: one `key=value` string per variable. -/
def environ (e : Env) : List String :=
  e.vars.entries.map fun v => v.1 ++ "=" ++ v.2

/-- `os.LookupEnv`: the empty key is never found. -/
def lookupEnv (e : Env) (key : String) : Option String :=
  if key = "" then none else e.vars.lookup key

/-- `os.Getenv`: the value, or `""` for a key that is not set. -/
def getenv (e : Env) (key : String) : String :=
  (e.lookupEnv key).getD ""

/-- The arguments `syscall.Setenv` accepts: a nonempty key without `=` or NUL, and a value
without NUL. Anything else is `EINVAL`. -/
def SetenvValid (key value : String) : Prop :=
  key ≠ "" ∧ '=' ∉ key.toList ∧ '\x00' ∉ key.toList ∧ '\x00' ∉ value.toList

instance (key value : String) : Decidable (SetenvValid key value) := by
  unfold SetenvValid; infer_instance

/-- `os.Setenv`. On `EINVAL` the environment stays as it was; every caller in the source
ignores the error, so only the environment is kept. -/
def setenv (e : Env) (key value : String) : Env :=
  if h : SetenvValid key value then
    ⟨e.vars.insert key value, fun k hk => by
      rcases (AList.mem_insert _).1 hk with rfl | hk
      · exact h.2.1
      · exact e.key_noSep k hk⟩
  else e

/-- `os.Unsetenv`. -/
def unsetenv (e : Env) (key : String) : Env :=
  ⟨e.vars.erase key, fun k hk => e.key_noSep k (AList.mem_erase.1 hk).2⟩

/-- A call that changes the environment: `os.Setenv(key, value)` or `os.Unsetenv(key)`. -/
inductive Call where
  | setenv (key value : String)
  | unsetenv (key : String)
  deriving DecidableEq

/-- The environment after the calls `calls`, in order. -/
def runCalls (e : Env) (calls : List Call) : Env :=
  calls.foldl (fun e c => match c with
    | .setenv key value => e.setenv key value
    | .unsetenv key => e.unsetenv key) e

theorem lookupEnv_setenv_self {e : Env} {key value : String} (h : SetenvValid key value) :
    (e.setenv key value).lookupEnv key = some value := by
  simp [setenv, lookupEnv, h, h.1, AList.lookup_insert]

theorem lookupEnv_setenv_ne (e : Env) {key key' : String} (value : String) (h : key' ≠ key) :
    (e.setenv key value).lookupEnv key' = e.lookupEnv key' := by
  unfold setenv
  split
  · simp [lookupEnv, AList.lookup_insert_ne h]
  · rfl

/-- `Setenv` of a key holding `=` changes nothing. -/
theorem setenv_of_sep (e : Env) {key : String} (value : String) (h : '=' ∈ key.toList) :
    e.setenv key value = e :=
  dif_neg fun hValid => hValid.2.1 h

/-- `Unsetenv` of a key holding `=` changes nothing: no variable has such a key. -/
theorem unsetenv_of_sep (e : Env) {key : String} (h : '=' ∈ key.toList) :
    e.unsetenv key = e := by
  have hKey : key ∉ e.vars := fun hMem => e.key_noSep key hMem h
  exact ext (AList.ext (List.kerase_of_not_mem_keys hKey))

/-- Every entry `os.Environ` lists holds `=`. -/
theorem sep_mem_of_mem_environ {e : Env} {s : String} (h : s ∈ e.environ) : '=' ∈ s.toList := by
  obtain ⟨v, -, rfl⟩ := List.mem_map.1 h
  simp [String.toList]

end Env

end Ubercluster.Go
