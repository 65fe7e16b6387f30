import Mathlib.Algebra.Group.Nat.Defs
import Stencil.Proofs.Lookup

set_option autoImplicit false

namespace Stencil

/-- All revisions in the store are among those that it has given out. -/
def Store.Bounded (store : Store) : Prop :=
  ∀ name text revision, store.entries.get? name = some (text, revision) →
    revision.toNat ≤ store.revision.toNat

/-- A name that was seen with a text under a revision: the store has given the revision out, and
does not have the name under it with another text. -/
structure Store.Backs (store : Store) (name text : String) (revision : UInt64) : Prop where
  given : revision.toNat ≤ store.revision.toNat
  same : ∀ other, store.entries.get? name = some (other, revision) → other = text

theorem Store.revision_add (store : Store) (name text : String)
    (room : store.revision.toNat + 1 < 2 ^ 64) :
    (store.add name text).revision.toNat = store.revision.toNat + 1 := by
  change (store.revision + 1).toNat = _
  rw [UInt64.toNat_add, UInt64.toNat_one, Nat.mod_eq_of_lt room]

theorem Store.bounded_new : Store.new.Bounded := by
  intro name text revision impossible
  cases impossible

theorem Store.Bounded.add {store : Store} (bounded : store.Bounded) (name text : String)
    (room : store.revision.toNat + 1 < 2 ^ 64) : (store.add name text).Bounded := by
  intro other content revision found
  rw [store.revision_add name text room]
  change (store.entries.insert name (text, store.revision + 1)).get? other = _ at found
  rw [Dict.get?_insert] at found
  split at found
  · cases found
    exact Nat.le_of_eq (store.revision_add name text room)
  · exact Nat.le_succ_of_le (bounded other content revision found)

theorem Store.Bounded.remove {store : Store} (bounded : store.Bounded) (name : String) :
    (store.remove name).Bounded := by
  intro other content revision found
  change (store.entries.erase name).get? other = _ at found
  rw [Dict.get?_erase] at found
  split at found
  · cases found
  · exact bounded other content revision found

theorem Store.Bounded.backs {store : Store} (bounded : store.Bounded) {name text : String}
    {revision : UInt64} (found : store.entries.get? name = some (text, revision)) :
    store.Backs name text revision where
  given := bounded name text revision found
  same := by
    intro other alsoFound
    rw [found] at alsoFound
    cases alsoFound
    rfl

/-- A new revision is larger than every revision that was given out, so what is added under it
backs nothing that was seen before. -/
theorem Store.Backs.add {store : Store} {name text : String} {revision : UInt64}
    (backs : store.Backs name text revision) (other content : String)
    (room : store.revision.toNat + 1 < 2 ^ 64) :
    (store.add other content).Backs name text revision where
  given := by
    rw [store.revision_add other content room]
    exact Nat.le_succ_of_le backs.given
  same := by
    intro newer found
    change (store.entries.insert other (content, store.revision + 1)).get? name = _ at found
    rw [Dict.get?_insert] at found
    split at found
    · have impossible := backs.given
      cases found
      have grown : (store.revision + 1).toNat = store.revision.toNat + 1 :=
        store.revision_add other content room
      omega
    · exact backs.same newer found

theorem Store.Backs.remove {store : Store} {name text : String} {revision : UInt64}
    (backs : store.Backs name text revision) (other : String) :
    (store.remove other).Backs name text revision where
  given := backs.given
  same := by
    intro newer found
    change (store.entries.erase other).get? name = _ at found
    rw [Dict.get?_erase] at found
    split at found
    · cases found
    · exact backs.same newer found

/-- A source that is current is what the store has for the name. -/
theorem Store.Backs.current {store : Store} {name text : String} {revision : UInt64}
    (backs : store.Backs name text revision) (current : store.isCurrent name revision = true) :
    store.entries.get? name = some (text, revision) := by
  obtain ⟨-, entered⟩ := Bool.and_eq_true_iff.1 current
  obtain ⟨⟨content, newer⟩, found, same⟩ := (Option.any_eq_true _ _).1 entered
  obtain rfl : newer = revision := eq_of_beq same
  rw [found, backs.same content found]

theorem Sources.getElem?_modifyStore (sources : Sources) (id other : Nat)
    (change : Store → Store) :
    (sources.modifyStore id change).stores[other]? =
      (sources.stores[other]?).map fun store => if id = other then change store else store := by
  change (sources.stores.modify id change)[other]? = _
  rw [List.getElem?_modify]
  split <;> rfl

/-- One of the listed stores has the text under the name. -/
def Sources.Hold (sources : Sources) (listed : List Nat) (name text : String) : Prop :=
  ∃ id ∈ listed, ∃ store, sources.stores[id]? = some store ∧
    (store.entries.get? name).map (·.1) = some text

/-- What the listed stores have for a name is what the first of them has that knows it. -/
theorem Loader.find_memory (sources : Sources) (name : String) (listed : List Nat) :
    (∃ id ∈ listed, ∃ store text revision, sources.stores[id]? = some store ∧
      store.entries.get? name = some (text, revision) ∧
      Loader.find sources name (listed.map .memory) =
        .ok ⟨text, none, some (.revision id name revision)⟩) ∨
    ((∀ text, ¬ sources.Hold listed name text) ∧
      Loader.find sources name (listed.map .memory) = .error (.templateNotFound name)) := by
  induction listed with
  | nil =>
      refine Or.inr ⟨?_, rfl⟩
      rintro text ⟨id, impossible, _⟩
      cases impossible
  | cons id rest ih =>
      rw [List.map_cons, Loader.find]
      cases found : (sources.stores[id]?).bind fun store => store.source? id name with
      | some source =>
          obtain ⟨store, listed, answered⟩ := Option.bind_eq_some_iff.1 found
          obtain ⟨⟨text, revision⟩, entered, rfl⟩ := Option.map_eq_some_iff.1 answered
          refine Or.inl ⟨id, List.mem_cons_self, store, text, revision, listed, entered, ?_⟩
          simp only [Loader.get, found]
      | none =>
          simp only [Loader.get, found]
          rcases ih with ⟨other, member, others⟩ | ⟨missing, failed⟩
          · exact Or.inl ⟨other, List.mem_cons_of_mem id member, others⟩
          · refine Or.inr ⟨?_, failed⟩
            rintro text ⟨other, member, store, listed, held⟩
            rcases List.mem_cons.1 member with rfl | member
            · rw [listed, Option.bind_some, Store.source?, Option.map_eq_none_iff] at found
              rw [found] at held
              cases held
            · exact missing text ⟨other, member, store, listed, held⟩

end Stencil
