import Stencil.Engine.Calls

set_option autoImplicit false

namespace Stencil

/-- What renders the views of an application: the defaults of its variables. -/
structure Presenter where
  defaults : Dict Value

namespace Presenter

/-- The name under which data brings the variables of the request. -/
def localsKey : String := "_locals"

def new : Presenter := ⟨∅⟩

/-- Sets a default; data that does not convert is null. -/
def setDefault (presenter : Presenter) (name : String) (data : Data) : Presenter :=
  ⟨presenter.defaults.insert name data.orNull⟩

def locals (fields : Dict Value) : Except Error (Dict Value) :=
  match fields.get? localsKey with
  | none => .ok ∅
  | some .null => .ok ∅
  | some (.object locals) => .ok locals
  | some value => .error (.localsNotMap localsKey value.kindName)

def merge (presenter : Presenter) : Value → Except Error (Dict Value)
  | .null => .ok presenter.defaults
  | .object fields => do
    let locals ← locals fields
    return (presenter.defaults.overlay locals).overlay (fields.erase localsKey)
  | value => value.toVariables

def render (presenter : Presenter) (setting : Setting) (calls : Calls) (name : String)
    (data : Value) : Run String := do
  let bindings ← Run.ofExcept (presenter.merge data)
  let template ← setting.fetch calls name false
  setting.render calls template (.ok (.object bindings))

def inspect (presenter : Presenter) : Inspection :=
  .record "RenderHook" [("defaults", inspectVariables presenter.defaults)]

end Presenter

end Stencil
