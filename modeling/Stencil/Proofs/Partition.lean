import Mathlib.Data.List.Induction
import Stencil.Proofs.Super

set_option autoImplicit false

namespace Stencil

/-! ### Names of exports -/

theorem Module.bodyName_toList (block : String) :
    (bodyName block).toList = 'b' :: '_' :: block.toList := by
  simp [bodyName]

theorem Role.ofName_eq_root_iff {name : String} :
    Role.ofName name = .root ↔ name = Module.rootName := by
  constructor
  · intro root
    unfold Role.ofName at root
    split at root
    · assumption
    · split at root <;> cases root
  · rintro rfl
    exact Module.role_rootName

theorem Role.ofName_eq_body_iff {name block : String} :
    Role.ofName name = .body block ↔ name = Module.bodyName block := by
  constructor
  · intro body
    unfold Role.ofName at body
    split at body
    · cases body
    · split at body
      · rename_i chars
        cases body
        apply String.toList_inj.1
        rw [Module.bodyName_toList, String.toList_ofList, chars]
      · cases body
  · rintro rfl
    exact Module.role_bodyName block

theorem Module.bodyName_inj {block other : String} :
    bodyName block = bodyName other ↔ block = other := by
  constructor
  · intro same
    have role := Module.role_bodyName block
    rw [same, Module.role_bodyName] at role
    exact (Role.body.inj role).symm
  · rintro rfl
    rfl

theorem Module.rootName_ne_bodyName (block : String) : rootName ≠ bodyName block := by
  intro same
  have role := Module.role_bodyName block
  rw [← same, Module.role_rootName] at role
  cases role

namespace Module

/-- The procedures that are exported under a name, in order. -/
def exportedAs (name : String) (exports : List (String × Procedure)) : List Procedure :=
  (exports.filter (·.1 = name)).map (·.2)

def under (m : Module) (name : String) : List Procedure := exportedAs name m.exports

/-- An export with the name is refused, behind the exports before it, with the error. -/
inductive Refuses (before : List (String × Procedure)) : String → Error → Prop
  /-- It is a second root. -/
  | secondRoot (earlier : exportedAs rootName before ≠ []) : Refuses before rootName .secondRoot
  /-- It is a body for a block without a name. -/
  | unnamedBlock : Refuses before (bodyName "") .unnamedBlock

def Accepted (exports : List (String × Procedure)) : Prop :=
  ∀ before entry after error, exports = before ++ entry :: after → ¬ Refuses before entry.1 error

/-- The first export that is refused is refused with the error. -/
def RefusedWith (exports : List (String × Procedure)) (error : Error) : Prop :=
  ∃ before entry after, exports = before ++ entry :: after ∧ Accepted before ∧
    Refuses before entry.1 error

/-- The form has what the module exports, and nothing else. -/
structure Partition (m : Module) (form : Compiled) : Prop where
  /-- The root is what is exported as one. -/
  root : m.under rootName = [form.root]
  /-- A block has the bodies that are exported under its name, in order. -/
  bodies : ∀ block, block ≠ "" → form.blocks.stack block = m.under (bodyName block)
  /-- There are no blocks but those with a name and a body. -/
  keys : ∀ block, block ∈ form.blocks.keys ↔ block ≠ "" ∧ m.under (bodyName block) ≠ []

/-! ### One export after the other -/

theorem exportedAs_concat (name : String) (before : List (String × Procedure))
    (entry : String × Procedure) :
    exportedAs name (before ++ [entry]) =
      exportedAs name before ++ if entry.1 = name then [entry.2] else [] := by
  unfold exportedAs
  rw [List.filter_append, List.map_append]
  split
  · rename_i same
    rw [List.filter_cons_of_pos (by simpa using same)]
    rfl
  · rename_i differs
    rw [List.filter_cons_of_neg (by simpa using differs)]
    rfl

theorem Refuses.unique {before : List (String × Procedure)} {name : String} {error other : Error}
    (refuses : Refuses before name error) (alsoRefuses : Refuses before name other) :
    error = other := by
  generalize same : name = spelled at alsoRefuses
  cases refuses with
  | secondRoot =>
      cases alsoRefuses with
      | secondRoot => rfl
      | unnamedBlock => exact absurd same (rootName_ne_bodyName "")
  | unnamedBlock =>
      cases alsoRefuses with
      | secondRoot => exact absurd same.symm (rootName_ne_bodyName "")
      | unnamedBlock => rfl

theorem Refuses.kind {before : List (String × Procedure)} {name : String} {error : Error}
    (refuses : Refuses before name error) : error.kind = .compileError := by
  cases refuses <;> rfl

theorem not_refuses_iff {before : List (String × Procedure)} {name : String} :
    (∀ error, ¬ Refuses before name error) ↔
      (name = rootName → exportedAs rootName before = []) ∧ name ≠ bodyName "" := by
  constructor
  · intro fine
    constructor
    · rintro rfl
      by_contra earlier
      exact fine _ (.secondRoot earlier)
    · rintro rfl
      exact fine _ .unnamedBlock
  · rintro ⟨first, named⟩ error refuses
    cases refuses with
    | secondRoot earlier => exact earlier (first rfl)
    | unnamedBlock => exact named rfl

/-- Reading the name of an export fails when it is refused, and otherwise goes on with the first
root so far. -/
theorem readRoot_cases (before : List (String × Procedure)) (entry : String × Procedure) :
    (∃ error, Refuses before entry.1 error ∧
      readRoot (exportedAs rootName before).head? entry = .error error) ∨
    ((∀ error, ¬ Refuses before entry.1 error) ∧
      readRoot (exportedAs rootName before).head? entry =
        .ok (exportedAs rootName (before ++ [entry])).head?) := by
  rw [exportedAs_concat, not_refuses_iff]
  unfold readRoot
  cases role : Role.ofName entry.1 with
  | root =>
      have root := Role.ofName_eq_root_iff.1 role
      rw [root, if_pos rfl]
      cases earlier : exportedAs rootName before with
      | nil => exact Or.inr ⟨⟨fun _ => rfl, rootName_ne_bodyName ""⟩, rfl⟩
      | cons first rest =>
          exact Or.inl ⟨.secondRoot, .secondRoot (by rw [earlier]; exact List.cons_ne_nil _ _), rfl⟩
  | body block =>
      have body := Role.ofName_eq_body_iff.1 role
      have differs := (rootName_ne_bodyName block).symm
      rw [body, if_neg differs, List.append_nil]
      by_cases unnamed : block = ""
      · subst unnamed
        exact Or.inl ⟨.unnamedBlock, .unnamedBlock, rfl⟩
      · exact Or.inr ⟨⟨fun root => absurd root differs, mt bodyName_inj.1 unnamed⟩, if_neg unnamed⟩
  | ignored =>
      have root : entry.1 ≠ rootName := by
        intro same
        rw [Role.ofName_eq_root_iff.2 same] at role
        cases role
      have body : entry.1 ≠ bodyName "" := by
        intro same
        rw [Role.ofName_eq_body_iff.2 same] at role
        cases role
      rw [if_neg root, List.append_nil]
      exact Or.inr ⟨⟨fun same => absurd same root, body⟩, rfl⟩

/-! ### All exports -/

theorem accepted_nil : Accepted [] := by
  intro before entry after error impossible
  cases before <;> cases impossible

theorem accepted_concat_iff {before : List (String × Procedure)} {entry : String × Procedure} :
    Accepted (before ++ [entry]) ↔
      Accepted before ∧ ∀ error, ¬ Refuses before entry.1 error := by
  constructor
  · intro accepted
    constructor
    · rintro early other late error rfl
      exact accepted early other (late ++ [entry]) error (by simp)
    · intro error
      exact accepted before entry [] error rfl
  · rintro ⟨accepted, fine⟩ early other late error same
    rcases List.eq_nil_or_concat late with rfl | ⟨late, last, rfl⟩
    · obtain ⟨rfl, last⟩ := List.append_inj' same rfl
      cases last
      exact fine error
    · rw [List.concat_eq_append, ← List.cons_append, ← List.append_assoc] at same
      obtain ⟨rfl, -⟩ := List.append_inj' same rfl
      exact accepted early other late error rfl

/-- Exports are accepted when there is one root at most and each block has a name. -/
theorem accepted_iff {exports : List (String × Procedure)} :
    Accepted exports ↔
      (exportedAs rootName exports).length ≤ 1 ∧ exportedAs (bodyName "") exports = [] := by
  induction exports using List.reverseRecOn with
  | nil => exact iff_of_true accepted_nil ⟨Nat.zero_le 1, rfl⟩
  | append_singleton before entry ih =>
      rw [accepted_concat_iff, ih, not_refuses_iff, exportedAs_concat, exportedAs_concat,
        List.length_append, List.append_eq_nil_iff]
      by_cases root : entry.1 = rootName
      · have differs : entry.1 ≠ bodyName "" := root ▸ rootName_ne_bodyName ""
        rw [if_pos root, if_neg differs, List.length_singleton]
        constructor
        · rintro ⟨⟨-, named⟩, first, -⟩
          exact ⟨by simp [first root], named, rfl⟩
        · rintro ⟨single, named, -⟩
          have first : exportedAs rootName before = [] := List.eq_nil_of_length_eq_zero (by omega)
          exact ⟨⟨by omega, named⟩, fun _ => first, differs⟩
      · by_cases unnamed : entry.1 = bodyName ""
        · simp [unnamed]
        · simp [root, unnamed]

/-- Either all exports are accepted, and the first root is found, or one is refused, and nothing
behind the first of these is looked at. -/
theorem foldlM_readRoot_cases (exports : List (String × Procedure)) :
    (Accepted exports ∧ exports.foldlM readRoot none = .ok (exportedAs rootName exports).head?) ∨
      ∃ error, RefusedWith exports error ∧ exports.foldlM readRoot none = .error error := by
  induction exports using List.reverseRecOn with
  | nil => exact Or.inl ⟨accepted_nil, rfl⟩
  | append_singleton before entry ih =>
      have step : (before ++ [entry]).foldlM readRoot none =
          before.foldlM readRoot none >>= fun root => readRoot root entry := by
        simp only [List.foldlM_append, List.foldlM_cons, List.foldlM_nil, bind_pure]
      rw [step]
      rcases ih with ⟨accepted, read⟩ | ⟨error, ⟨early, other, late, rfl, fine, refuses⟩, failed⟩
      · rw [read]
        rcases readRoot_cases before entry with ⟨error, refuses, failed⟩ | ⟨fine, read⟩
        · exact Or.inr ⟨error, ⟨before, entry, [], rfl, accepted, refuses⟩, failed⟩
        · exact Or.inl ⟨accepted_concat_iff.2 ⟨accepted, fine⟩, read⟩
      · rw [failed]
        exact Or.inr ⟨error, ⟨early, other, late ++ [entry], by simp, fine, refuses⟩, rfl⟩

theorem Accepted.not_refusedWith {exports : List (String × Procedure)} (accepted : Accepted exports)
    (error : Error) : ¬ RefusedWith exports error := by
  rintro ⟨before, entry, after, same, -, refuses⟩
  exact accepted before entry after error same refuses

theorem foldlM_readRoot_of_refusedWith {exports : List (String × Procedure)} {error : Error}
    (refused : RefusedWith exports error) : exports.foldlM readRoot none = .error error := by
  obtain ⟨before, entry, after, rfl, accepted, refuses⟩ := refused
  rw [List.foldlM_append]
  rcases foldlM_readRoot_cases before with ⟨-, read⟩ | ⟨other, refused, -⟩
  · rw [read]
    change (readRoot _ entry >>= _) = _
    rcases readRoot_cases before entry with ⟨other, alsoRefuses, failed⟩ | ⟨fine, -⟩
    · rw [failed, alsoRefuses.unique refuses]
      rfl
    · exact absurd refuses (fine error)
  · exact absurd refused (accepted.not_refusedWith other)

/-- Sorting a module fails as reading its names does. -/
theorem compiled_of_error {m : Module} {error : Error}
    (failed : m.exports.foldlM readRoot none = .error error) : m.compiled = .error error := by
  unfold compiled
  rw [failed]
  rfl

theorem compiled_of_ok {m : Module}
    (read : m.exports.foldlM readRoot none = .ok (m.under rootName).head?) :
    m.compiled =
      match (m.under rootName).head? with
      | some root => .ok ⟨root, .ofBodies m.bodies⟩
      | none => .error .missingRoot := by
  unfold compiled
  rw [read]
  change (match (m.under rootName).head? with | _ => _) = _
  cases (m.under rootName).head? <;> rfl

theorem compiled_cases (m : Module) :
    (∃ root, Accepted m.exports ∧ m.under rootName = [root] ∧
      m.compiled = .ok ⟨root, .ofBodies m.bodies⟩) ∨
    (Accepted m.exports ∧ m.under rootName = [] ∧ m.compiled = .error .missingRoot) ∨
    ∃ error, RefusedWith m.exports error ∧ m.compiled = .error error := by
  rcases foldlM_readRoot_cases m.exports with ⟨accepted, read⟩ | ⟨error, refused, failed⟩
  · have sorted := compiled_of_ok read
    have single : (m.under rootName).length ≤ 1 := (accepted_iff.1 accepted).1
    cases roots : m.under rootName with
    | nil =>
        rw [roots] at sorted
        exact Or.inr (Or.inl ⟨accepted, rfl, sorted⟩)
    | cons root rest =>
        rw [roots] at sorted single
        obtain rfl : rest = [] := List.eq_nil_of_length_eq_zero (by simpa using single)
        exact Or.inl ⟨root, accepted, rfl, sorted⟩
  · exact Or.inr (Or.inr ⟨error, refused, compiled_of_error failed⟩)

/-! ### The form -/

/-- The bodies of a block are what is exported under its name. -/
theorem bodies_of_block (m : Module) (block : String) :
    (m.bodies.filter (·.1 = block)).map (·.2) = m.under (bodyName block) := by
  unfold bodies under exportedAs
  induction m.exports with
  | nil => rfl
  | cons entry rest ih =>
      by_cases body : entry.1 = bodyName block
      · rw [List.filterMap_cons, Role.ofName_eq_body_iff.2 body]
        simp [body, ih]
      · rw [List.filter_cons_of_neg (by simpa using body), ← ih, List.filterMap_cons]
        cases role : Role.ofName entry.1 with
        | root | ignored => rfl
        | body other =>
            have differs : other ≠ block := by
              rintro rfl
              exact body (Role.ofName_eq_body_iff.1 role)
            exact congrArg (List.map _) (List.filter_cons_of_neg (by simpa using differs))

end Module

theorem Blocks.get?_ofBodies_ne_nil (bodies : List (String × Procedure)) (block : String) :
    (ofBodies bodies).get? block ≠ some [] := by
  induction bodies with
  | nil =>
      intro impossible
      cases impossible
  | cons body rest ih =>
      change ((ofBodies rest).insert body.1 _).get? block ≠ some []
      rw [Dict.get?_insert]
      split
      · intro impossible
        cases impossible
      · exact ih

/-- Whether a name is among the names of a dictionary decides whether it stands for something. -/
theorem Blocks.get?_eq (blocks : Blocks) (name : String) :
    blocks.get? name = if name ∈ blocks.keys then some (blocks.stack name) else none := by
  simp only [Dict.mem_keys_iff, Dict.contains, Blocks.stack]
  cases blocks.get? name <;> rfl

theorem Blocks.mem_keys_ofBodies {bodies : List (String × Procedure)} {block : String} :
    block ∈ (ofBodies bodies).keys ↔ (ofBodies bodies).stack block ≠ [] := by
  have bare := get?_ofBodies_ne_nil bodies block
  rw [Dict.mem_keys_iff, Dict.contains, Blocks.stack]
  cases found : (ofBodies bodies).get? block with
  | none => simp
  | some stack =>
      rw [found] at bare
      simpa using bare

namespace Module

theorem Partition.of_accepted {m : Module} (accepted : Accepted m.exports) {root : Procedure}
    (single : m.under rootName = [root]) : m.Partition ⟨root, .ofBodies m.bodies⟩ := by
  have stack (block : String) : (Blocks.ofBodies m.bodies).stack block = m.under (bodyName block) :=
    (Blocks.stack_ofBodies m.bodies block).trans (m.bodies_of_block block)
  refine ⟨single, fun block _ => stack block, fun block => ?_⟩
  rw [Blocks.mem_keys_ofBodies, stack]
  constructor
  · intro bodies
    refine ⟨?_, bodies⟩
    rintro rfl
    exact bodies (accepted_iff.1 accepted).2
  · exact And.right

/-- What a module exports settles its form. -/
theorem Partition.unique {m : Module} {form other : Compiled} (partition : m.Partition form)
    (alsoPartition : m.Partition other) : form = other := by
  obtain ⟨root, blocks⟩ := form
  obtain ⟨start, others⟩ := other
  have roots : [root] = [start] := partition.root.symm.trans alsoPartition.root
  obtain rfl := List.singleton_inj.1 roots
  refine congrArg (Compiled.mk root) (Dict.ext fun block => ?_)
  have keys : block ∈ blocks.keys ↔ block ∈ others.keys :=
    (partition.keys block).trans (alsoPartition.keys block).symm
  rw [Blocks.get?_eq, Blocks.get?_eq]
  by_cases key : block ∈ blocks.keys
  · have named := ((partition.keys block).1 key).1
    rw [if_pos key, if_pos (keys.1 key)]
    exact congrArg some ((partition.bodies block named).trans (alsoPartition.bodies block named).symm)
  · rw [if_neg key, if_neg (mt keys.2 key)]

/-- Modules that export the same under each name that counts, in whatever order the names come. -/
structure SameExports (m other : Module) : Prop where
  root : m.under rootName = other.under rootName
  bodies : ∀ block, m.under (bodyName block) = other.under (bodyName block)

theorem SameExports.partition {m other : Module} (same : m.SameExports other) {form : Compiled}
    (partition : m.Partition form) : other.Partition form where
  root := same.root ▸ partition.root
  bodies := fun block named => (partition.bodies block named).trans (same.bodies block)
  keys := fun block => same.bodies block ▸ partition.keys block

/-! ### Sorting -/

theorem partition_of_compiled {m : Module} {form : Compiled} (sorted : m.compiled = .ok form) :
    m.Partition form := by
  rcases m.compiled_cases with ⟨root, accepted, single, same⟩ | ⟨-, -, same⟩ | ⟨error, -, same⟩
  · rw [sorted] at same
    cases same
    exact .of_accepted accepted single
  all_goals
    rw [sorted] at same
    cases same

theorem exists_compiled_iff {m : Module} :
    (∃ form, m.compiled = .ok form) ↔
      (∃ root, m.under rootName = [root]) ∧ m.under (bodyName "") = [] := by
  constructor
  · rintro ⟨form, sorted⟩
    rcases m.compiled_cases with ⟨root, accepted, single, -⟩ | ⟨-, -, same⟩ | ⟨error, -, same⟩
    · exact ⟨⟨root, single⟩, (accepted_iff.1 accepted).2⟩
    all_goals
      rw [sorted] at same
      cases same
  · rintro ⟨⟨root, single⟩, named⟩
    have roots : (exportedAs rootName m.exports).length = 1 := congrArg List.length single
    have accepted : Accepted m.exports := accepted_iff.2 ⟨by omega, named⟩
    rcases m.compiled_cases with ⟨root, -, -, sorted⟩ | ⟨-, none, -⟩ | ⟨error, refused, -⟩
    · exact ⟨_, sorted⟩
    · rw [single] at none
      cases none
    · exact absurd refused (accepted.not_refusedWith error)

theorem compiled_eq_error_iff {m : Module} {error : Error} :
    m.compiled = .error error ↔
      RefusedWith m.exports error ∨
      (∀ other, ¬ RefusedWith m.exports other) ∧ m.under rootName = [] ∧ error = .missingRoot := by
  constructor
  · intro failed
    rcases m.compiled_cases with ⟨root, -, -, same⟩ | ⟨accepted, none, same⟩ | ⟨other, refused, same⟩
    all_goals
      rw [failed] at same
      cases same
    · exact Or.inr ⟨accepted.not_refusedWith, none, rfl⟩
    · exact Or.inl refused
  · rintro (refused | ⟨fine, none, rfl⟩)
    · exact compiled_of_error (foldlM_readRoot_of_refusedWith refused)
    · rcases m.compiled_cases with ⟨root, -, single, -⟩ | ⟨-, -, failed⟩ | ⟨other, refused, -⟩
      · rw [none] at single
        cases single
      · exact failed
      · exact absurd refused (fine other)

theorem kind_of_compiled_error {m : Module} {error : Error} (failed : m.compiled = .error error) :
    error.kind = .compileError := by
  rcases compiled_eq_error_iff.1 failed with ⟨_, _, _, -, -, refuses⟩ | ⟨-, -, rfl⟩
  · exact refuses.kind
  · rfl

/-- Modules that export the same under each name that counts have the same form, or none. -/
theorem SameExports.toOption_compiled {m other : Module} (same : m.SameExports other) :
    m.compiled.toOption = other.compiled.toOption := by
  have both : (∃ form, m.compiled = .ok form) ↔ ∃ form, other.compiled = .ok form := by
    rw [exists_compiled_iff, exists_compiled_iff, same.root, same.bodies]
  cases sorted : m.compiled with
  | error error =>
      cases alsoSorted : other.compiled with
      | error reason => rfl
      | ok form =>
          obtain ⟨_, impossible⟩ := both.2 ⟨form, alsoSorted⟩
          rw [sorted] at impossible
          cases impossible
  | ok form =>
      obtain ⟨twin, alsoSorted⟩ := both.1 ⟨form, sorted⟩
      have partition := same.partition (partition_of_compiled sorted)
      rw [alsoSorted, partition.unique (partition_of_compiled alsoSorted)]

end Module

/-- A module is sorted exactly when it has one root and no body for a block without a name. Its form
then has that root, and for each block the bodies exported under its name, in order; it does not
depend on how exports under different names are mixed, nor on those that are ignored. Otherwise the
first export that is refused, as a second root or as a body without a name, decides the error, and
only when none is refused a root is missing. -/
theorem module_sorts_by_name (m : Module) :
    ((∃ form, m.compiled = .ok form) ↔
      (∃ root, m.under Module.rootName = [root]) ∧ m.under (Module.bodyName "") = []) ∧
    (∀ form, m.compiled = .ok form → m.Partition form) ∧
    (∀ other, m.SameExports other → m.compiled.toOption = other.compiled.toOption) ∧
    ∀ error, (m.compiled = .error error ↔
        Module.RefusedWith m.exports error ∨
        (∀ other, ¬ Module.RefusedWith m.exports other) ∧ m.under Module.rootName = [] ∧
          error = .missingRoot) ∧
      (m.compiled = .error error → error.kind = .compileError) :=
  ⟨Module.exists_compiled_iff, fun _ => Module.partition_of_compiled,
    fun _ same => same.toOption_compiled,
    fun _ => ⟨Module.compiled_eq_error_iff, Module.kind_of_compiled_error⟩⟩

/-- The bodies of two blocks, one of which has a name that looks like an export's, are mixed with a
root and with exports that are ignored. In a module with two faults the first one decides. -/
theorem module_sorts_by_name_mixed :
    let body (id : Nat) : Procedure := ⟨id, .code []⟩
    let m : Module := ⟨[("b_b_x", body 1), ("roots", body 2), ("b_x", body 3), ("root", body 0),
      ("b_b_x", body 4), ("b", body 5)]⟩
    let faulty : Module := ⟨[("b_x", body 1), ("root", body 0), ("b_", body 2), ("root", body 3)]⟩
    (∃ form, m.compiled = .ok form ∧ form.root = body 0 ∧
      form.blocks.stack "b_x" = [body 1, body 4] ∧ form.blocks.stack "x" = [body 3] ∧
      "b" ∉ form.blocks.keys) ∧
    faulty.compiled = .error .unnamedBlock := by
  intro body m faulty
  obtain ⟨succeeds, partition, -, -⟩ := module_sorts_by_name m
  obtain ⟨form, sorted⟩ := succeeds.2 ⟨⟨body 0, rfl⟩, rfl⟩
  have found := partition form sorted
  have root : [body 0] = [form.root] := found.root
  refine ⟨⟨form, sorted, (List.singleton_inj.1 root).symm, found.bodies "b_x" (by decide),
    found.bodies "x" (by decide), fun key => ((found.keys "b").1 key).2 rfl⟩, ?_⟩
  obtain ⟨-, -, -, errors⟩ := module_sorts_by_name faulty
  have accepted : Module.Accepted [("b_x", body 1), ("root", body 0)] :=
    Module.accepted_iff.2 ⟨Nat.le_refl 1, rfl⟩
  exact (errors _).1.2 (Or.inl ⟨_, _, _, rfl, accepted, .unnamedBlock⟩)

end Stencil
