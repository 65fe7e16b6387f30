import Stencil.Compiler
import Stencil.Markup.Document

set_option autoImplicit false

namespace Stencil.Markup

/-- The exports to be of the blocks of a document. -/
def Document.bodies (doc : Document) : List (String × Recipe.Draft) :=
  doc.blocks.map fun block => (Module.bodyName block.1, .fresh (.code block.2))

/-- What follows the blocks of a document in its module: the exports of the template it extends, or
its own root. -/
def Document.finish (doc : Document) (bodies : List (String × Procedure)) : Recipe :=
  match doc.parent with
  | none =>
    .make (.code doc.root) fun root => .done (.ok ⟨bodies ++ [(Module.rootName, root)]⟩)
  | some parent =>
    .fetch parent false fun
      | .error error => .done (.error error)
      | .ok template =>
        .again parent template.source.text fun
          | .error error => .done (.error error)
          | .ok inherited => .done (.ok ⟨bodies ++ inherited.exports⟩)

def recipe (text : String) : Recipe :=
  match Document.parse text with
  | .error mistake => .done (.error mistake.toError)
  | .ok doc => .exports doc.finish doc.bodies

/-- The compiler of markup texts, which does not look at their names. -/
def compiler : Compiler := ⟨fun _ text => recipe text⟩

end Stencil.Markup
