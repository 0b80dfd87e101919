import Mathlib.Algebra.BigOperators.Group.List.Basic
import Mathlib.Algebra.Group.End
import Mathlib.Logic.Equiv.Basic
import SpriteStage.Overlap
import SpriteStage.Proofs.Programs.Relocation

namespace SpriteStage

/-!
# Exchanges of programs

Two actors that exchange their programs hand over every block at every depth,
and nothing of a block changes but the actor it names.  An exchange is
therefore a transposition of the programs, whether or not the two actors have
one and whether or not they are two: exchanges one after the other compose as
transpositions do, and one that is made twice undoes itself.
-/

namespace Programs

/-- The programs after some pairs of actors exchanged theirs, one pair after
the other. -/
def exchangeAll (store : Programs) (pairs : List ActorPair) : Programs :=
  pairs.foldl (fun current pair => current.exchange pair.first pair.second) store

/-- The actor whose program each actor has after some pairs exchanged theirs,
one pair after the other. -/
def shuffle (pairs : List ActorPair) : Equiv.Perm ActorId :=
  (pairs.map fun pair => Equiv.swap pair.first pair.second).prod

/-- What an exchange does: each of two actors has the program of the other,
with itself as the owner, and all else is as it was. -/
structure Exchanges (one two : ActorId) (before after : Programs) : Prop where
  sound : after.Sound
  first : after.forest one = Forest.ownedBy one (before.forest two)
  second : after.forest two = Forest.ownedBy two (before.forest one)
  others : forall other, other ≠ one -> other ≠ two ->
    after.forest other = before.forest other
  blockCount : after.blockCount = before.blockCount

variable {store : Programs}

theorem exchangeAll_append (store : Programs) (early late : List ActorPair) :
    store.exchangeAll (early ++ late) = (store.exchangeAll early).exchangeAll late :=
  List.foldl_append

/-! ## Transpositions -/

theorem shuffle_singleton (pair : ActorPair) :
    shuffle [pair] = Equiv.swap pair.first pair.second := List.prod_singleton

theorem shuffle_append (first second : List ActorPair) (actor : ActorId) :
    shuffle (first ++ second) actor = shuffle first (shuffle second actor) := by
  rw [shuffle, List.map_append, List.prod_append]
  rfl

theorem shuffle_twice (pair : ActorPair) (actor : ActorId) :
    shuffle [pair, pair] actor = actor := by
  rw [← List.singleton_append, shuffle_append, shuffle_singleton, Equiv.swap_apply_self]

theorem partner_eq_swap (one two actor : ActorId) :
    partner one two actor = Equiv.swap one two actor := by
  rw [Equiv.swap_apply_def, partner]
  grind

namespace Sound

/-- In a sound store an exchange transposes the programs of two actors. -/
theorem forest_exchange_eq_ownedBy (sound : store.Sound) (pair : ActorPair) (actor : ActorId) :
    (store.exchange pair.first pair.second).forest actor =
      Forest.ownedBy actor (store.forest (shuffle [pair] actor)) := by
  rw [sound.forest_exchange_eq_relabel, (sound.placed _).relabel_eq_ownedBy, partner_eq_swap,
    shuffle_singleton]

theorem exchangeAll (sound : store.Sound) (pairs : List ActorPair) :
    (store.exchangeAll pairs).Sound := by
  induction pairs generalizing store with
  | nil => exact sound
  | cons pair rest step => exact step (sound.exchange pair.first pair.second)

/-- Exchanges one after the other permute the programs as their transpositions
do, one after the other. -/
theorem forest_exchangeAll (sound : store.Sound) (pairs : List ActorPair) (actor : ActorId) :
    (store.exchangeAll pairs).forest actor =
      Forest.ownedBy actor (store.forest (shuffle pairs actor)) := by
  induction pairs generalizing store with
  | nil => exact (sound.placed actor).ownedBy_eq_self.symm
  | cons pair rest step =>
    have soundAfter := sound.exchange pair.first pair.second
    rw [← List.singleton_append, exchangeAll_append, shuffle_append]
    calc ((store.exchange pair.first pair.second).exchangeAll rest).forest actor
        = Forest.ownedBy actor
            ((store.exchange pair.first pair.second).forest (shuffle rest actor)) :=
          step soundAfter
      _ = Forest.ownedBy actor (store.forest (shuffle [pair] (shuffle rest actor))) := by
          rw [sound.forest_exchange_eq_ownedBy, Forest.ownedBy_ownedBy]

/-- Exchanges hand every program to one actor, so no block is lost or added. -/
theorem blockCount_exchangeAll (sound : store.Sound) (pairs : List ActorPair) :
    (store.exchangeAll pairs).blockCount = store.blockCount := by
  apply blockCount_congr
  apply sound.perm_ids (sound.exchangeAll pairs).unique
  intro id
  rw [mem_ids_iff]
  simp only [sound.forest_exchangeAll, Forest.ids_ownedBy]
  have onto : (Exists fun actor => id ∈ Forest.ids (store.forest actor)) <->
      Exists fun actor => id ∈ Forest.ids (store.forest (shuffle pairs actor)) :=
    (shuffle pairs).surjective.exists
  exact onto.symm

/-- Every block keeps its kind, whoever it is handed to. -/
theorem kind_exchangeAll (sound : store.Sound) (pairs : List ActorPair) (id : BlockId) :
    ((store.exchangeAll pairs).find? id).map Block.kind = (store.find? id).map Block.kind := by
  have soundAfter := sound.exchangeAll pairs
  cases found : store.find? id with
  | none =>
    have nowhere : store.locate id = none := Option.map_eq_none_iff.1 found
    have nowhereAfter : (store.exchangeAll pairs).locate id = none := by
      rw [locate_eq_none_iff]
      intro actor
      rw [sound.forest_exchangeAll, Forest.ids_ownedBy]
      exact locate_eq_none_iff.1 nowhere _
    rw [find?, nowhereAfter]
    rfl
  | some node =>
    rcases find?_eq_some_iff.1 found with ⟨owner, located⟩
    let receiver := (shuffle pairs).symm owner
    have program : (store.exchangeAll pairs).forest receiver =
        Forest.ownedBy receiver (store.forest owner) := by
      rw [sound.forest_exchangeAll, Equiv.apply_symm_apply]
    have there : Forest.find? id ((store.exchangeAll pairs).forest receiver) =
        some (node.ownedBy receiver) := by
      rw [program, Forest.find?_ownedBy, find?_of_locate located]
      rfl
    rw [find?, soundAfter.locate_eq_some there, Option.map_some, Option.map_some, Option.map_some,
      Block.ownedBy_eq]

theorem exchanges (sound : store.Sound) (one two : ActorId) :
    Exchanges one two store (store.exchange one two) := by
  have swapped := sound.forest_exchange_eq_ownedBy ⟨one, two⟩
  rw [shuffle_singleton] at swapped
  refine ⟨sound.exchange one two, ?_, ?_, ?_, sound.blockCount_exchangeAll [⟨one, two⟩]⟩
  · rw [swapped, Equiv.swap_apply_left]
  · rw [swapped, Equiv.swap_apply_right]
  · intro other notOne notTwo
    rw [swapped, Equiv.swap_apply_of_ne_of_ne notOne notTwo,
      (sound.placed other).ownedBy_eq_self]

/-- An exchange of programs is a transposition: it does not matter which of the
two actors is named first, making it twice undoes it, and of any exchanges one
after the other the programs are permuted as by their composition.

The store is sound, so that each block names its actor, and the owners are
rewritten by the exchange.  Nothing else of a tree is: kinds, parents and the
order of siblings are as they were. -/
theorem exchange_transposes (sound : store.Sound) (one two : ActorId) :
    Exchanges one two store (store.exchange one two) ∧
      (forall actor, (store.exchange one two).forest actor =
        (store.exchange two one).forest actor) ∧
      (forall actor, ((store.exchange one two).exchange one two).forest actor =
        store.forest actor) ∧
      forall (pairs : List ActorPair) (actor : ActorId),
        (store.exchangeAll pairs).forest actor =
          Forest.ownedBy actor (store.forest (shuffle pairs actor)) := by
  refine ⟨sound.exchanges one two, ?_, ?_, sound.forest_exchangeAll⟩
  · intro actor
    have forwards := sound.forest_exchange_eq_ownedBy ⟨one, two⟩ actor
    have backwards := sound.forest_exchange_eq_ownedBy ⟨two, one⟩ actor
    rw [shuffle_singleton] at forwards backwards
    rw [forwards, backwards, Equiv.swap_comm]
  · intro actor
    have twice := sound.forest_exchangeAll [⟨one, two⟩, ⟨one, two⟩] actor
    rw [shuffle_twice, (sound.placed actor).ownedBy_eq_self] at twice
    exact twice

end Sound

section Sample

/-- The two programs go around among three actors, one of whom had none. -/
theorem sampleShelves_exchanges :
    let one : ActorId := ⟨Uuid.ofNat 1⟩
    let two : ActorId := ⟨Uuid.ofNat 2⟩
    let three : ActorId := ⟨Uuid.ofNat 3⟩
    let store := sampleShelves.exchangeAll [⟨one, two⟩, ⟨two, three⟩]
    sampleShelves.Sound ∧ Exchanges one two sampleShelves (sampleShelves.exchange one two) ∧
      store.forest one = Forest.ownedBy one (sampleShelves.forest two) ∧
      store.forest two = [] ∧
      store.forest three = Forest.ownedBy three (sampleShelves.forest one) := by
  intro one two three store
  have transposes := sampleShelves_sound.exchange_transposes one two
  have around := transposes.2.2.2 [⟨one, two⟩, ⟨two, three⟩]
  have first : shuffle [⟨one, two⟩, ⟨two, three⟩] one = two := by decide
  have second : shuffle [⟨one, two⟩, ⟨two, three⟩] two = three := by decide
  have third : shuffle [⟨one, two⟩, ⟨two, three⟩] three = one := by decide
  refine ⟨sampleShelves_sound, transposes.1, (around one).trans ?_, (around two).trans ?_,
    (around three).trans ?_⟩
  · rw [first]
  · rw [second]
    rfl
  · rw [third]

end Sample

/-- Of three actors who all begin to overlap, the first gets its own program
back, and the others exchange theirs. -/
example :
    let one : ActorId := ⟨Uuid.ofNat 1⟩
    let two : ActorId := ⟨Uuid.ofNat 2⟩
    let three : ActorId := ⟨Uuid.ofNat 3⟩
    [one, two, three].map (shuffle [⟨one, two⟩, ⟨two, three⟩, ⟨one, three⟩]) =
      [one, three, two] := by decide

end Programs

end SpriteStage
