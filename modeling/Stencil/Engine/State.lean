import Stencil.Environment

set_option autoImplicit false

namespace Stencil

/-- A call that the engine made, or something that it was asked or told. -/
inductive Event where
  /-- It asked the loader with the given place in the list for a name. -/
  | load (loader : Nat) (name : String)
  /-- It checked whether a text is current. -/
  | check (freshness : Freshness) (fresh : Bool)
  /-- It called the compiler, for the template of the given number if for one. -/
  | compile (template : Option Nat) (name text : String)
  /-- The compiler answered such a call. -/
  | answer (template : Option Nat) (result : Except Error Module)
  /-- The compiler or a procedure requested a template. -/
  | request (name : String)
  /-- All templates were forgotten. -/
  | clear
  /-- It applied a filter. -/
  | filter (name : String) (value : Value) (args : List Value)

def Event.isCheck : Event → Bool
  | .check _ _ => true
  | _ => false

/-- The changing part of an engine. The record holds the latest call first. -/
structure State where
  cache : Dict Template
  compiled : List (Nat × Compiled)
  templates : Nat
  procedures : Nat
  record : List Event

namespace State

def initial : State := ⟨∅, [], 0, 0, []⟩

instance : Inhabited State := ⟨initial⟩

/-- The compiled form of the template of a number, if it was found. -/
def compiledForm? (state : State) (template : Nat) : Option Compiled :=
  (state.compiled.find? fun entry => entry.1 == template).map (·.2)

/-- The calls that were made, in order. -/
def events (state : State) : List Event := state.record.reverse

def checked (state : State) : Nat := state.record.countP Event.isCheck

def note (state : State) (event : Event) : State := { state with record := event :: state.record }

def newTemplate (state : State) (name : String) (source : Source) : Template × State :=
  (⟨state.templates, name, source⟩, { state with templates := state.templates + 1 })

def newProcedure (state : State) (body : Body) : Procedure × State :=
  (⟨state.procedures, body⟩, { state with procedures := state.procedures + 1 })

def keep (state : State) (template : Template) : State :=
  { state with cache := state.cache.insert template.name template }

/-- Keeps the compiled form of a template, unless one is kept already. -/
def keepCompiled (state : State) (template : Nat) (form : Compiled) : State :=
  match state.compiledForm? template with
  | some _ => state
  | none => { state with compiled := (template, form) :: state.compiled }

/-- Forgets all templates. Those that were given out keep their compiled forms. -/
def forgetTemplates (state : State) : State := { state.note .clear with cache := ∅ }

/-- The compiled form that is kept for a template is the first one, and the forms of other
templates stay. -/
theorem compiledForm?_keepCompiled (state : State) (template other : Nat) (form : Compiled) :
    (state.keepCompiled template form).compiledForm? other =
      if other = template then some ((state.compiledForm? template).getD form)
      else state.compiledForm? other := by
  unfold keepCompiled
  split
  · rename_i kept found
    split
    · rename_i same
      rw [same, found, Option.getD_some]
    · rfl
  · rename_i found
    by_cases same : other = template
    · rw [if_pos same, same, found]
      simp [compiledForm?]
    · have differs : (template == other) = false := by
        simpa using Ne.symm same
      rw [if_neg same]
      simp [compiledForm?, List.find?, differs]

/-- After a template was kept it is found under its name, and other names are as they were. -/
theorem cache_keep (state : State) (template : Template) (name : String) :
    (state.keep template).cache.get? name =
      if name = template.name then some template else state.cache.get? name :=
  Dict.get?_insert state.cache template.name name template

end State

def Setting.overview (setting : Setting) (state : State) : Overview where
  loaders := setting.environment.loaders.length
  hasCompiler := setting.environment.compiler.isSome
  filters := setting.environment.filters.keys
  templates := state.cache.keys
  policy := setting.environment.policy

end Stencil
