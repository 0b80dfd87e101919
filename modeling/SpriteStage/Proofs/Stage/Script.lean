import SpriteStage.Timeline

namespace SpriteStage

/-!
# The order of events

A playbill is a sequence of resets and whole runs, one after the other.  A run
begins, has scenes, which are collisions and what is said, and ends.

A script is what a stage has announced so far, with the origin of each event.
It is the beginning of a playbill: all of it, or all but the end of the run
that is open.  Every scene of it comes from a driver of the run that is open at
that time, and later runs have larger generations.
-/

/-- Whether an event is a scene of a run: a collision, or something said. -/
def Event.isScene : Event -> Bool
  | .collision _ => true
  | .said _ _ _ => true
  | _ => false

/-- A sequence of resets and whole runs. -/
inductive Playbill : List Event -> Prop
  | empty : Playbill []
  | reset {rest : List Event} (later : Playbill rest) : Playbill (.reset :: rest)
  | run (actors : Nat) {scenes rest : List Event}
      (shown : forall event, event ∈ scenes -> event.isScene = true) (later : Playbill rest) :
      Playbill (.began actors :: (scenes ++ .ended :: rest))

theorem Playbill.append {first second : List Event} (one : Playbill first)
    (next : Playbill second) : Playbill (first ++ second) := by
  induction one with
  | empty => exact next
  | reset _ step => exact .reset step
  | run actors shown _ step =>
    rw [List.cons_append, List.append_assoc]
    exact .run actors shown step

/-- Where an item stands in a list that something was just added to: it is what
was added, or it stood in the list before. -/
theorem concat_cases {Item : Type} {items early late : List Item} {last item : Item}
    (same : items ++ [last] = early ++ item :: late) :
    (late = [] ∧ items = early ∧ last = item) ∨
      Exists fun front => late = front ++ [last] ∧ items = early ++ item :: front := by
  rcases List.eq_nil_or_concat late with rfl | ⟨front, other, rfl⟩
  · have ends := List.append_inj' same rfl
    exact Or.inl ⟨rfl, ends.1, List.head_eq_of_cons_eq ends.2⟩
  · rw [List.concat_eq_append, ← List.cons_append, ← List.append_assoc] at same
    have ends := List.append_inj' same rfl
    have isLast : last = other := List.head_eq_of_cons_eq ends.2
    exact Or.inr ⟨front, by rw [List.concat_eq_append, isLast], ends.1⟩

/-- Whether the last run that began among some events has not ended. -/
def RunOpen (events : List Event) : Prop :=
  Exists fun early => Exists fun actors => Exists fun late =>
    events = early ++ .began actors :: late ∧
      forall event, event ∈ late -> event ≠ .ended ∧ forall count, event ≠ .began count

theorem not_runOpen_nil : ¬ RunOpen [] := by
  rintro ⟨early, actors, late, same, _⟩
  exact List.append_ne_nil_of_right_ne_nil early (List.cons_ne_nil _ late) same.symm

/-- A run stays open until it ends. -/
theorem runOpen_concat_iff {events : List Event} {event : Event} :
    RunOpen (events ++ [event]) <->
      (Exists fun actors => event = .began actors) ∨ (RunOpen events ∧ event ≠ .ended) := by
  constructor
  · rintro ⟨early, actors, late, same, unended⟩
    rcases concat_cases same with ⟨_, _, began⟩ | ⟨front, rfl, before⟩
    · exact Or.inl ⟨actors, began⟩
    · have notEnded := (unended event (List.mem_append_right _ List.mem_cons_self)).1
      refine Or.inr ⟨⟨early, actors, front, before, ?_⟩, notEnded⟩
      exact fun other member => unended other (List.mem_append_left _ member)
  · rintro (⟨actors, rfl⟩ | ⟨⟨early, actors, late, rfl, unended⟩, notEnded⟩)
    · exact ⟨events, actors, [], rfl, fun _ member => absurd member List.not_mem_nil⟩
    · by_cases again : Exists fun count => event = .began count
      · rcases again with ⟨count, rfl⟩
        exact ⟨_, count, [], rfl, fun _ member => absurd member List.not_mem_nil⟩
      · refine ⟨early, actors, late ++ [event], by simp, ?_⟩
        intro other member
        rcases List.mem_append.1 member with earlier | isLast
        · exact unended other earlier
        · rw [List.mem_singleton.1 isLast]
          exact ⟨notEnded, fun count same => again ⟨count, same⟩⟩

/-! ## Scripts -/

/-- An event with its origin. -/
inductive Notice where
  /-- The run of a generation began. -/
  | opened (generation actors : Nat)
  | ended
  | reset
  /-- A driver caused an event. -/
  | scene (driver : Driver) (event : Event)
  deriving DecidableEq

namespace Notice

def event : Notice -> Event
  | .opened _ actors => .began actors
  | .ended => .ended
  | .reset => .reset
  | .scene _ event => event

def generation? : Notice -> Option Nat
  | .opened generation _ => some generation
  | _ => none

end Notice

def generationsOf (log : List Notice) : List Nat := log.filterMap Notice.generation?

/-- What a stage may have announced, and the generation of the run that is
open then. -/
inductive Script : List Notice -> Option Nat -> Prop
  | empty : Script [] none
  | reset {log : List Notice} (script : Script log none) : Script (log ++ [.reset]) none
  | opened {log : List Notice} {generation : Nat} (script : Script log none) (actors : Nat)
      (new : forall earlier, earlier ∈ generationsOf log -> earlier < generation) :
      Script (log ++ [.opened generation actors]) (some generation)
  | scene {log : List Notice} {driver : Driver} {event : Event}
      (script : Script log (some driver.generation)) (shown : event.isScene = true) :
      Script (log ++ [.scene driver event]) (some driver.generation)
  | ended {log : List Notice} {generation : Nat} (script : Script log (some generation)) :
      Script (log ++ [.ended]) none

namespace Script

variable {log : List Notice} {current : Option Nat} {generation : Nat} {driver : Driver}

theorem scenes {events : List Event} (shown : forall event, event ∈ events -> event.isScene = true) :
    forall {log : List Notice}, Script log (some driver.generation) ->
      Script (log ++ events.map (Notice.scene driver)) (some driver.generation) := by
  induction events with
  | nil =>
    intro log script
    exact (List.append_nil log).symm ▸ script
  | cons event rest step =>
    intro log script
    have first := script.scene (shown event List.mem_cons_self)
    have later := step (fun other member => shown other (List.mem_cons_of_mem _ member)) first
    rw [List.append_assoc] at later
    exact later

/-- What a script amounts to.  Between two runs it is a playbill.  While a run
is open, it is a playbill, the beginning of the run, and scenes. -/
def Staged (log : List Notice) : Option Nat -> Prop
  | none => Playbill (log.map Notice.event)
  | some generation =>
    Exists fun early => Exists fun actors => Exists fun late =>
      log = early ++ .opened generation actors :: late ∧ Playbill (early.map Notice.event) ∧
        forall notice, notice ∈ late -> notice.event.isScene = true

theorem staged (script : Script log current) : Staged log current := by
  induction script with
  | empty => exact Playbill.empty
  | reset _ before =>
    rw [Staged, List.map_append]
    exact Playbill.append before (.reset .empty)
  | opened _ actors _ before =>
    exact ⟨_, actors, [], rfl, before, fun _ member => absurd member List.not_mem_nil⟩
  | scene _ shown step =>
    rcases step with ⟨early, actors, late, rfl, before, scenes⟩
    refine ⟨early, actors, late ++ [_], List.append_assoc early _ _, before, ?_⟩
    exact List.forall_mem_append.2 ⟨scenes, List.forall_mem_singleton.2 shown⟩
  | ended _ step =>
    rcases step with ⟨early, actors, late, rfl, before, scenes⟩
    have run : Playbill (.began actors :: (late.map Notice.event ++ [.ended])) := by
      refine .run actors ?_ .empty
      intro event member
      rcases List.mem_map.1 member with ⟨notice, inLate, rfl⟩
      exact scenes notice inLate
    have whole := before.append run
    rw [Staged, List.map_append, List.map_append, List.append_assoc]
    exact whole

/-- What has been announced is the beginning of a playbill. -/
theorem exists_playbill (script : Script log current) :
    Exists fun rest => Playbill (log.map Notice.event ++ rest) := by
  cases current with
  | none => exact ⟨[], (List.append_nil (log.map Notice.event)).symm ▸ script.staged⟩
  | some generation =>
    have closed : Playbill ((log ++ [Notice.ended]).map Notice.event) :=
      script.ended.staged
    rw [List.map_append] at closed
    exact ⟨[.ended], closed⟩

/-- A run is open for the listeners just if one is. -/
theorem runOpen_iff (script : Script log current) :
    RunOpen (log.map Notice.event) <-> current.isSome = true := by
  induction script with
  | empty => exact iff_of_false not_runOpen_nil Bool.false_ne_true
  | reset _ step =>
    rw [List.map_append]
    refine runOpen_concat_iff.trans (iff_of_false ?_ Bool.false_ne_true)
    rintro (⟨actors, impossible⟩ | ⟨earlier, _⟩)
    · cases impossible
    · exact Bool.false_ne_true (step.1 earlier)
  | opened _ actors _ _ =>
    rw [List.map_append]
    exact runOpen_concat_iff.trans (iff_of_true (Or.inl ⟨actors, rfl⟩) rfl)
  | @scene log driver event _ shown step =>
    have notEnded : event ≠ .ended := by
      rintro rfl
      cases shown
    rw [List.map_append]
    exact runOpen_concat_iff.trans (iff_of_true (Or.inr ⟨step.2 rfl, notEnded⟩) rfl)
  | ended _ _ =>
    rw [List.map_append]
    refine runOpen_concat_iff.trans (iff_of_false ?_ Bool.false_ne_true)
    rintro (⟨actors, impossible⟩ | ⟨_, unended⟩)
    · cases impossible
    · exact unended rfl

/-! ## Generations -/

theorem generationsOf_append (first second : List Notice) :
    generationsOf (first ++ second) = generationsOf first ++ generationsOf second :=
  List.filterMap_append

theorem increasing (script : Script log current) : (generationsOf log).Pairwise (· < ·) := by
  induction script with
  | empty => exact .nil
  | opened _ _ new step =>
    rw [generationsOf_append]
    refine List.pairwise_append.2 ⟨step, List.pairwise_singleton _ _, ?_⟩
    intro earlier member other isLast
    rw [List.mem_singleton.1 isLast]
    exact new earlier member
  | _ =>
    rename_i step
    rw [generationsOf_append]
    exact (List.append_nil (generationsOf _)).symm ▸ step

theorem mem_generationsOf (script : Script log (some generation)) :
    generation ∈ generationsOf log := by
  rcases script.staged with ⟨early, actors, late, rfl, _⟩
  rw [generationsOf_append]
  exact List.mem_append_right _ List.mem_cons_self

/-- A run that has ended is not the one that is open. -/
theorem ne_of_ended (script : Script log current) :
    forall {early late : List Notice} {actors : Nat},
      log = early ++ .opened generation actors :: late -> .ended ∈ late ->
        current ≠ some generation := by
  induction script with
  | empty =>
    intro early late actors same _
    exact absurd same.symm (List.append_ne_nil_of_right_ne_nil early (List.cons_ne_nil _ late))
  | reset _ _ =>
    intro early late actors _ _ isOpen
    cases isOpen
  | ended _ _ =>
    intro early late actors _ _ isOpen
    cases isOpen
  | opened _ _ new _ =>
    intro early late actors same ends isOpen
    rcases concat_cases same with ⟨rfl, _, _⟩ | ⟨front, rfl, rfl⟩
    · exact absurd ends List.not_mem_nil
    · have listed : generation ∈ generationsOf (early ++ .opened generation actors :: front) := by
        rw [generationsOf_append]
        exact List.mem_append_right _ List.mem_cons_self
      have less := new generation listed
      rw [Option.some.inj isOpen] at less
      exact Nat.lt_irrefl generation less
  | scene _ _ step =>
    intro early late actors same ends
    rcases concat_cases same with ⟨rfl, _, _⟩ | ⟨front, rfl, rfl⟩
    · exact absurd ends List.not_mem_nil
    · rcases List.mem_append.1 ends with earlier | isLast
      · exact step rfl earlier
      · cases List.mem_singleton.1 isLast

/-- Every scene comes from a driver of the run that began last and is open. -/
theorem attributed (script : Script log current) :
    forall {early late : List Notice} {driver : Driver} {event : Event},
      log = early ++ .scene driver event :: late ->
        Exists fun front => Exists fun actors => Exists fun between =>
          early = front ++ .opened driver.generation actors :: between ∧
            forall notice, notice ∈ between -> notice.event.isScene = true := by
  induction script with
  | empty =>
    intro early late driver event same
    exact absurd same.symm (List.append_ne_nil_of_right_ne_nil early (List.cons_ne_nil _ late))
  | @scene log other said before _ step =>
    intro early late driver event same
    rcases concat_cases same with ⟨_, rfl, isLast⟩ | ⟨front, _, earlier⟩
    · cases isLast
      rcases before.staged with ⟨front, actors, between, split, _, scenes⟩
      exact ⟨front, actors, between, split, scenes⟩
    · exact step earlier
  | _ =>
    rename_i step
    intro early late driver event same
    rcases concat_cases same with ⟨_, _, isLast⟩ | ⟨front, _, earlier⟩
    · cases isLast
    · exact step earlier

end Script

end SpriteStage
