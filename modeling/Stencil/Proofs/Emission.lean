import Stencil.Proofs.Interpreted

set_option autoImplicit false

namespace Stencil

/-- Exports of the same name, made of the same instructions. -/
def Module.SameExport (entry twin : String × Procedure) : Prop :=
  entry.1 = twin.1 ∧ entry.2.Alike twin.2

def Module.Alike (m other : Module) : Prop :=
  List.Forall₂ Module.SameExport m.exports other.exports

structure Compiled.Alike (form other : Compiled) : Prop where
  root : form.root.Alike other.root
  blocks : form.blocks.Alike other.blocks

/-- Recipes that make the same instructions and end alike, whatever procedures they get for them.
They request no template. -/
inductive Recipe.Alike : Recipe → Recipe → Prop
  | done {result finish : Except Error Module} (same : Run.SameResult Module.Alike result finish) :
      Alike (.done result) (.done finish)
  | make {code : Code} {next after : Procedure → Recipe}
      (rest : ∀ procedure body, procedure.body = .code code → body.body = .code code →
        Alike (next procedure) (after body)) :
      Alike (.make (.code code) next) (.make (.code code) after)
  | again {name text : String} {next after : Except Error Module → Recipe}
      (rest : ∀ result finish, Run.SameResult Module.Alike result finish →
        Alike (next result) (after finish)) :
      Alike (.again name text next) (.again name text after)

/-- What the compiler emits is a function of the name and the text, and made of instructions. -/
def Compiler.IsFunction (compiler : Compiler) : Prop :=
  ∀ name text, (compiler.recipe name text).Alike (compiler.recipe name text)

/-- Calls under which a compiler emits alike. -/
def Calls.CompileAlike (compiler : Compiler) (calls other : Calls) : Prop :=
  ∀ name text,
    Run.Agree Module.Alike (calls.compile compiler name text) (other.compile compiler name text)

theorem Run.agree_newProcedure (body : Body) :
    Run.Agree (fun procedure other => procedure.body = body ∧ other.body = body)
      (.change (·.newProcedure body)) (.change (·.newProcedure body)) := by
  intro state before
  exact Or.inr ⟨_, _, _, _, [], rfl, rfl, ⟨rfl, rfl⟩, ⟨_, rfl⟩, ⟨_, rfl⟩⟩

theorem Recipe.Alike.run_agree {setting reset : Setting} {calls other : Calls}
    {compiler : Compiler} (compile : calls.CompileAlike compiler other) {recipe twin : Recipe}
    (alike : recipe.Alike twin) :
    Run.Agree Module.Alike (recipe.run setting calls compiler) (twin.run reset other compiler) := by
  induction alike with
  | done same => exact Run.agree_ofExcept same
  | @make code _ _ _ ih =>
      apply (Run.agree_newProcedure (.code code)).bind
      intro procedure body made
      exact ih procedure body made.1 made.2
  | again _ ih => exact (compile _ _).attempt.bind ih

/-- A compiler that is a function emits alike on every level and in every setting. -/
theorem Compiler.IsFunction.compile_agree {compiler : Compiler} (function : compiler.IsFunction)
    (setting reset : Setting) (level : Nat) :
    (setting.calls level).CompileAlike compiler (reset.calls level) := by
  induction level with
  | zero =>
      intro _ _
      exact Run.agree_tooDeep
  | succ level ih =>
      intro name text
      exact (function name text).run_agree ih

theorem Module.readRoot_alike {root other : Option Procedure}
    (roots : Option.Rel Procedure.Alike root other) {name : String} {procedure body : Procedure}
    (same : procedure.Alike body) :
    Run.SameResult (Option.Rel Procedure.Alike) (readRoot root (name, procedure))
      (readRoot other (name, body)) := by
  unfold readRoot
  cases Role.ofName name with
  | root =>
      cases roots with
      | none => exact .some same
      | some _ => rfl
  | body block =>
      by_cases unnamed : block = ""
      · simp only [unnamed, ↓reduceIte]
        rfl
      · simp only [unnamed, ↓reduceIte]
        exact roots
  | ignored => exact roots

theorem Module.foldlM_readRoot_alike {exports twins : List (String × Procedure)}
    (alike : List.Forall₂ SameExport exports twins) {root other : Option Procedure}
    (roots : Option.Rel Procedure.Alike root other) :
    Run.SameResult (Option.Rel Procedure.Alike) (exports.foldlM readRoot root)
      (twins.foldlM readRoot other) := by
  induction alike generalizing root other with
  | nil => exact roots
  | @cons entry twin rest others same _ ih =>
      obtain ⟨name, procedure⟩ := entry
      obtain ⟨_, body⟩ := twin
      obtain ⟨rfl, same⟩ := same
      rw [List.foldlM_cons, List.foldlM_cons]
      exact (readRoot_alike roots same).bind fun _ _ roots => ih roots

theorem Module.bodies_alike {m other : Module} (alike : m.Alike other) :
    List.Forall₂ SameExport m.bodies other.bodies := by
  unfold Alike at alike
  unfold bodies
  generalize m.exports = exports at alike ⊢
  generalize other.exports = twins at alike ⊢
  induction alike with
  | nil => exact .nil
  | @cons entry twin rest others same _ ih =>
      obtain ⟨name, procedure⟩ := entry
      obtain ⟨_, body⟩ := twin
      obtain ⟨rfl, same⟩ := same
      cases role : Role.ofName name with
      | body block =>
          simp only [List.filterMap_cons, role]
          exact .cons ⟨rfl, same⟩ ih
      | root | ignored =>
          simp only [List.filterMap_cons, role]
          exact ih

theorem Blocks.ofBodies_alike {bodies twins : List (String × Procedure)}
    (alike : List.Forall₂ Module.SameExport bodies twins) :
    (ofBodies bodies).Alike (ofBodies twins) := by
  intro name
  unfold stack
  rw [stack_ofBodies, stack_ofBodies]
  induction alike with
  | nil => exact .nil
  | @cons entry twin rest others same _ ih =>
      obtain ⟨block, procedure⟩ := entry
      obtain ⟨_, body⟩ := twin
      obtain ⟨rfl, same⟩ := same
      by_cases wanted : block = name
      · simp only [List.filter_cons, wanted, decide_true, ↓reduceIte, List.map_cons]
        exact .cons same ih
      · simp only [List.filter_cons, wanted, decide_false, Bool.false_eq_true, ↓reduceIte]
        exact ih

/-- Modules that are alike fail alike to be sorted, or have forms that are alike. -/
theorem Module.compiled_alike {m other : Module} (alike : m.Alike other) :
    Run.SameResult Compiled.Alike m.compiled other.compiled := by
  apply (foldlM_readRoot_alike alike .none).bind
  intro root twin roots
  cases roots with
  | none => rfl
  | some same => exact ⟨same, Blocks.ofBodies_alike (bodies_alike alike)⟩

end Stencil
