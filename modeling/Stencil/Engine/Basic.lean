import Stencil.Engine.Calls
import Stencil.Presenter

set_option autoImplicit false

namespace Stencil

structure Engine where
  environment : Environment
  sources : Sources
  state : State

namespace Engine

variable {α : Type}

def new (environment : Environment) (sources : Sources) : Engine :=
  ⟨environment, sources, .initial⟩

/-- What rendering does not change. -/
def setting (engine : Engine) : Setting := ⟨engine.environment, engine.sources⟩

def overview (engine : Engine) : Overview := engine.setting.overview engine.state

/-- How deep calls nest unless a caller wants it otherwise. -/
def depthLimit : Nat := 100000

/-- Performs a run, whose calls nest no deeper than `limit`. -/
def perform (engine : Engine) (limit : Nat) (run : Setting → Calls → Run α) :
    Option (Except Error α × Engine) :=
  (run engine.setting (engine.setting.calls limit) engine.state).map fun outcome =>
    (outcome.1, { engine with state := outcome.2 })

/-! ### Setting up -/

def addLoader (engine : Engine) (loader : Loader) : Engine :=
  { engine with
    environment := { engine.environment with loaders := engine.environment.loaders ++ [loader] }
    sources := loader.hold engine.sources }

def clearLoaders (engine : Engine) : Engine :=
  { engine with
    environment := { engine.environment with loaders := [] }
    sources := engine.environment.loaders.foldl (fun sources loader => loader.release sources)
      engine.sources }

def setLoaders (engine : Engine) (loaders : List Loader) : Engine :=
  loaders.foldl addLoader engine.clearLoaders

def setCompiler (engine : Engine) (compiler : Compiler) : Engine :=
  { engine with environment := { engine.environment with compiler := some compiler } }

/-- Sets what is assumed of templates that cannot be checked. -/
def setPolicy (engine : Engine) (policy : Policy) : Engine :=
  { engine with environment := { engine.environment with policy := policy } }

def addFilter (engine : Engine) (name : String) (filter : Filter) : Engine :=
  { engine with
    environment :=
      { engine.environment with filters := engine.environment.filters.insert name filter } }

def removeFilter (engine : Engine) (name : String) : Engine :=
  { engine with
    environment := { engine.environment with filters := engine.environment.filters.erase name } }

def clearTemplates (engine : Engine) : Engine :=
  { engine with state := engine.state.forgetTemplates }

def changeSources (engine : Engine) (change : Sources → Sources) : Engine :=
  { engine with sources := change engine.sources }

/-! ### Working -/

/-- The template of a name, compiled when `eager` is set. -/
def fetch (engine : Engine) (limit : Nat) (name : String) (eager : Bool) :
    Option (Except Error Template × Engine) :=
  engine.perform limit fun setting calls => setting.fetch calls name eager

/-- A template of a text that no loader found. It is not kept. -/
def ofText (engine : Engine) (name text : String) : Template × Engine :=
  let (template, state) := engine.state.newTemplate name (.ofText text)
  (template, { engine with state := state })

def compile (engine : Engine) (limit : Nat) (template : Template) :
    Option (Except Error Unit × Engine) :=
  engine.perform limit fun setting calls => setting.compileTemplate calls template

def render (engine : Engine) (limit : Nat) (template : Template) (data : Data) :
    Option (Except Error String × Engine) :=
  engine.perform limit fun setting calls => setting.render calls template data

def isCurrent (engine : Engine) (template : Template) : Option (Except Error Bool × Engine) :=
  engine.perform 0 fun setting _ => setting.isCurrent template

def isCompiled (engine : Engine) (template : Template) : Bool :=
  (engine.state.compiledForm? template.id).isSome

def applyFilter (engine : Engine) (name : String) (value : Value) (args : List Value) :
    Option (Except Error Value × Engine) :=
  engine.perform 0 fun setting _ => setting.applyFilter name value args

/-- Calls the compiler with a text of no template, if there is a compiler. -/
def callCompiler (engine : Engine) (limit : Nat) (name text : String) :
    Option (Except Error (Option Module) × Engine) :=
  engine.perform limit fun setting calls =>
    match setting.environment.compiler with
    | none => return none
    | some compiler => do
      let m ← Setting.callCompiler calls compiler none name text
      return some m

def invoke (engine : Engine) (limit : Nat) (procedure : Procedure) (context : Context) :
    Option (Except Error String × Engine) :=
  engine.perform limit fun setting calls => procedure.run setting calls (.outside context)

def runCode (engine : Engine) (limit : Nat) (code : Code) (context : Context) :
    Option (Except Error String × Engine) :=
  engine.perform limit fun setting calls => Code.run setting calls (.outside context) code

def renderBlock (engine : Engine) (limit : Nat) (block : Block) (context : Context) :
    Option (Except Error String × Engine) :=
  engine.perform limit fun _ calls => block.render calls context

def renderView (engine : Engine) (limit : Nat) (presenter : Presenter) (name : String)
    (data : Value) : Option (Except Error String × Engine) :=
  engine.perform limit fun setting calls => presenter.render setting calls name data

end Engine

end Stencil
