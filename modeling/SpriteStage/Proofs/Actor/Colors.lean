import Mathlib.Data.List.Infix
import SpriteStage.Proofs.Actor.Lookup
import SpriteStage.Proofs.Number.Half

namespace SpriteStage

/-!
# The colours of a cast

An actor that joins gets a palette colour that nobody has, as long as there is
one.  There is one as long as fewer actors are there than the palette has
colours, whichever colours they brought along.  So colours that are distinct
stay distinct, also when actors leave and their colours are dealt out again.
-/

/-! ## Choosing a colour -/

/-- An item is chosen from every list that has one. -/
theorem Random.Draws.exists_choose {Item : Type} {items : List Item} (nonempty : items ≠ [])
    (draws : Draws) :
    Exists fun item => (draws.choose items).1 = some item ∧ item ∈ items := by
  have positive : 0 < items.length := List.length_pos_of_ne_nil nonempty
  have inside : (draws.index items.length).1 < items.length :=
    indexWithin_lt items.length positive maxTries draws
  refine ⟨items[(draws.index items.length).1], ?_, List.getElem_mem inside⟩
  rw [choose, if_neg (by simpa using nonempty)]
  exact List.getElem?_eq_getElem inside

/-- The palette has a colour for each of as many actors as it has colours. -/
theorem exists_unused {used : List String} (few : used.length < palette.length) :
    Exists fun color => color ∈ palette ∧ color ∉ used := by
  by_contra none
  have taken : forall color, color ∈ palette -> color ∈ used := by
    intro color inPalette
    by_contra unused
    exact none ⟨color, inPalette, unused⟩
  have distinct : palette.Nodup := by decide
  have enough : palette.length ≤ used.length := (List.subperm_of_subset distinct taken).length_le
  omega

theorem freeColors_subset {used : List String} {color : String} (free : color ∈ freeColors used) :
    color ∈ palette := by
  unfold freeColors at free
  dsimp only at free
  split at free
  · exact free
  · exact (List.mem_filter.1 free).1

theorem freeColors_ne_nil (used : List String) : freeColors used ≠ [] := by
  unfold freeColors
  dsimp only
  split
  · exact List.cons_ne_nil _ _
  · rename_i some
    simpa using some

/-- While a palette colour is unused, all colours that can be chosen are. -/
theorem notMem_of_mem_freeColors {used : List String} {color : String}
    (unused : Exists fun color => color ∈ palette ∧ color ∉ used)
    (free : color ∈ freeColors used) : color ∉ used := by
  rcases unused with ⟨other, inPalette, absent⟩
  have candidate : other ∈ palette.filter fun color => !used.contains color :=
    List.mem_filter.2 ⟨inPalette, by simpa using absent⟩
  unfold freeColors at free
  dsimp only at free
  rw [if_neg (by simpa using List.ne_nil_of_mem candidate)] at free
  simpa using (List.mem_filter.1 free).2

/-! ## Joining -/

namespace Cast

variable {cast next : Cast} {id fresh : ActorId}

def colors (cast : Cast) : List String := cast.actors.map Actor.color

/-- Who is there, in order, and in which colour. -/
def looks (cast : Cast) : List (ActorId × String) :=
  cast.actors.map fun actor => (actor.id, actor.color)

theorem map_snd_looks (cast : Cast) : cast.looks.map Prod.snd = cast.colors := by
  rw [looks, List.map_map]
  rfl

/-- Finding a place for a new actor needs a square with finite sides. -/
theorem exists_drawPlace {spread : Float} (finite : spread.isFinite = true)
    (draws : Random.Draws) : Exists fun drawn => drawPlace spread draws = .ok drawn := by
  unfold drawPlace
  dsimp only
  split
  · rw [if_pos (Number.isFinite_half finite)]
    exact ⟨_, rfl⟩
  · exact ⟨_, rfl⟩

theorem exists_spawn (finite : cast.spread.isFinite = true) (fresh : ActorId) :
    Exists fun next => cast.spawn fresh = .ok next := by
  rcases exists_drawPlace finite cast.draws with ⟨drawn, placed⟩
  rw [spawn, placed]
  exact ⟨_, rfl⟩

/-- An actor that joins comes last, in one of the free colours. -/
theorem spawn_colored (spawned : cast.spawn fresh = .ok next) :
    next.spread = cast.spread ∧ Exists fun created : Actor =>
      next.actors = cast.actors ++ [created] ∧ created.id = fresh ∧
        created.color ∈ freeColors cast.colors := by
  unfold spawn at spawned
  split at spawned
  · cases spawned
  · rename_i afterPlace _
    rcases afterPlace.exists_choose (freeColors_ne_nil cast.colors) with ⟨color, chosen, free⟩
    have chosenFree : (afterPlace.choose (freeColors (cast.actors.map Actor.color))).1 =
      some color := chosen
    dsimp only at spawned
    rw [chosenFree] at spawned
    cases spawned
    exact ⟨rfl, _, rfl, rfl, free⟩

end Cast

/-! ## Edits of a cast -/

/-- Everything that changes who is in a cast or what an actor looks like. -/
inductive CastEdit where
  | spawn (fresh : ActorId)
  | remove (id : ActorId)
  | rename (id : ActorId) (name : String)
  | place (id : ActorId) (x y : Float) (heading : Option Float)
  | reset

def CastEdit.apply (cast : Cast) : CastEdit -> Cast
  | .spawn fresh => (cast.spawn fresh).toOption.getD cast
  | .remove id => ((cast.remove id).toOption.map Prod.snd).getD cast
  | .rename id name => (cast.rename id name).toOption.getD cast
  | .place id x y heading => (cast.place id x y heading).toOption.getD cast
  | .reset => cast.reset

namespace Cast

def after (cast : Cast) (edits : List CastEdit) : Cast := edits.foldl CastEdit.apply cast

variable {start before next cast : Cast} {edit : CastEdit}

theorem after_append (edits : List CastEdit) (edit : CastEdit) :
    cast.after (edits ++ [edit]) = edit.apply (cast.after edits) := List.foldl_concat ..

/-- What an edit does to the looks of a cast. -/
inductive Relooked (edit : CastEdit) (before next : Cast) : Prop
  | kept (spread : next.spread = before.spread) (fewer : next.looks.Sublist before.looks)
      (inhabited : before.looks ≠ [] -> next.looks ≠ [])
  | joined (fresh : ActorId) (color : String) (isSpawn : edit = .spawn fresh)
      (spread : next.spread = before.spread)
      (looks : next.looks = before.looks ++ [(fresh, color)])
      (free : color ∈ freeColors before.colors)

theorem Relooked.of_looks (spread : next.spread = before.spread)
    (same : next.looks = before.looks) : Relooked edit before next :=
  .kept spread (same ▸ List.Sublist.refl _) fun inhabited => same ▸ inhabited

theorem relooked_change {id : ActorId} {change : Actor -> Actor}
    (keeps : forall actor, ((change actor).id, (change actor).color) = (actor.id, actor.color)) :
    Relooked edit cast ((cast.change id change).toOption.getD cast) := by
  unfold Cast.change
  split
  · exact .of_looks rfl (map_modifyFirst (fun actor => (actor.id, actor.color)) keeps cast.actors)
  · exact .of_looks rfl rfl

/-- Somebody stays when one of several actors leaves. -/
theorem eraseP_ne_nil {actor : Actor} {leaves : Actor -> Bool} {actors : List Actor}
    (found : actors.find? leaves = some actor) (several : actors.length ≠ 1) :
    actors.eraseP leaves ≠ [] := by
  have member := List.mem_of_find?_eq_some found
  have length := List.length_eraseP_of_mem member (List.find?_some found)
  have positive := List.length_pos_of_mem member
  exact List.ne_nil_of_length_pos (by omega)

theorem relooked_apply (edit : CastEdit) (cast : Cast) : Relooked edit cast (edit.apply cast) := by
  cases edit with
  | spawn fresh =>
    rw [CastEdit.apply]
    cases spawned : cast.spawn fresh with
    | error refusal => exact .of_looks rfl rfl
    | ok next =>
      rcases spawn_colored spawned with ⟨spread, created, actors, isFresh, free⟩
      refine .joined fresh created.color rfl spread ?_ free
      rw [looks, Except.toOption, Option.getD_some, actors, List.map_append, ← isFresh]
      rfl
  | remove id =>
    rw [CastEdit.apply]
    cases removed : cast.remove id with
    | error refusal => exact .of_looks rfl rfl
    | ok pair =>
      rcases pair with ⟨gone, left⟩
      rcases remove_eq_ok_iff.1 removed with ⟨found, several, rfl⟩
      refine .kept rfl (List.eraseP_sublist.map _) fun _ emptied => ?_
      exact eraseP_ne_nil found several (List.map_eq_nil_iff.1 emptied)
  | rename id name => exact relooked_change fun _ => rfl
  | place id x y heading => exact relooked_change fun _ => rfl
  | reset =>
    refine .of_looks rfl ?_
    rw [looks, CastEdit.apply, reset, List.map_map]
    rfl

theorem length_looks (cast : Cast) : cast.looks.length = cast.size := List.length_map ..

/-- A cast grows by one actor an edit at most. -/
theorem size_after_le (edits : List CastEdit) :
    (cast.after edits).size ≤ cast.size + edits.length := by
  induction edits using List.reverseRecOn with
  | nil => exact Nat.le_refl _
  | append_singleton edits edit step =>
    rw [after_append, List.length_append, List.length_singleton, ← length_looks]
    cases relooked_apply edit (cast.after edits) with
    | kept _ fewer _ =>
      have shorter := fewer.length_le
      rw [length_looks (cast.after edits)] at shorter
      omega
    | joined fresh color _ _ looks _ =>
      rw [looks, List.length_append, length_looks, List.length_singleton]
      omega

/-! ## Distinct colours -/

/-- A cast that came from a start and whose colours are distinct: whoever was
there at the start kept the colour of then, everyone else has a palette colour. -/
structure Colored (start reached : Cast) : Prop where
  inhabited : reached.looks ≠ []
  distinct : reached.colors.Nodup
  original : forall look, look ∈ reached.looks -> look.1 ∈ start.ids -> look ∈ start.looks
  added : forall look, look ∈ reached.looks -> look.1 ∉ start.ids -> look.2 ∈ palette
  spread : reached.spread = start.spread

theorem Colored.refl (inhabited : start.actors ≠ []) (distinct : start.colors.Nodup) :
    Colored start start where
  inhabited emptied := inhabited (List.map_eq_nil_iff.1 emptied)
  distinct := distinct
  original _ member _ := member
  added look member absent := by
    rcases List.mem_map.1 member with ⟨actor, inActors, rfl⟩
    exact absurd (List.mem_map_of_mem inActors) absent
  spread := rfl

/-- One edit keeps the colours distinct, if the actors are not more than the
colours of the palette after it. -/
theorem Colored.apply (colored : Colored start cast)
    (fresh : forall id, edit = .spawn id -> id ∉ start.ids)
    (few : (edit.apply cast).size ≤ palette.length) : Colored start (edit.apply cast) := by
  cases relooked_apply edit cast with
  | kept spread fewer inhabited =>
    refine ⟨inhabited colored.inhabited, ?_,
      fun look member => colored.original look (fewer.subset member),
      fun look member => colored.added look (fewer.subset member), spread.trans colored.spread⟩
    have colors := fewer.map Prod.snd
    rw [map_snd_looks, map_snd_looks] at colors
    exact colored.distinct.sublist colors
  | joined id color isSpawn spread looks free =>
    have room : cast.colors.length < palette.length := by
      rw [← length_looks, looks, List.length_append, List.length_singleton, length_looks] at few
      rw [colors, List.length_map]
      exact few
    have unused := notMem_of_mem_freeColors (exists_unused room) free
    refine ⟨?_, ?_, ?_, ?_, spread.trans colored.spread⟩
    · rw [looks]
      exact List.append_ne_nil_of_right_ne_nil _ (List.cons_ne_nil _ _)
    · rw [← map_snd_looks, looks, List.map_append, map_snd_looks]
      exact List.nodup_append.2 ⟨colored.distinct, List.nodup_singleton color, by
        intro one member other single same
        rw [same, List.mem_singleton.1 single] at member
        exact unused member⟩
    · intro look member old
      rw [looks, List.mem_append, List.mem_singleton] at member
      rcases member with before | rfl
      · exact colored.original look before old
      · exact absurd old (fresh id isSpawn)
    · intro look member new
      rw [looks, List.mem_append, List.mem_singleton] at member
      rcases member with before | rfl
      · exact colored.added look before new
      · exact freeColors_subset free

theorem colored_after (inhabited : start.actors ≠ []) (distinct : start.colors.Nodup)
    (edits : List CastEdit) (fresh : forall id, .spawn id ∈ edits -> id ∉ start.ids)
    (few : forall earlier, earlier <+: edits -> (start.after earlier).size ≤ palette.length) :
    Colored start (start.after edits) := by
  induction edits using List.reverseRecOn with
  | nil => exact .refl inhabited distinct
  | append_singleton edits edit step =>
    have colored := step (fun id member => fresh id (List.mem_append_left _ member))
      fun earlier isPrefix => few earlier (isPrefix.trans (List.prefix_append _ _))
    have last := few (edits ++ [edit]) (List.prefix_refl _)
    rw [after_append] at last ⊢
    exact colored.apply (fun id same => fresh id (by simp [same])) last

/-! ## The colours of those who join -/

/-- In every cast, whoever joins gets a colour of the palette that nobody has
while there is one.  From a start with distinct colours and a finite square,
as long as there are ten actors at most, everyone can join, all colours stay
distinct, all actors who joined have palette colours, and somebody is there.

Ten is the number of colours of the palette.  Beyond it colours repeat, and nothing
is claimed about which.  Actors of the start may have colours of their own. -/
theorem joining_keeps_colors_distinct :
    (forall (cast next : Cast) (fresh : ActorId), cast.spawn fresh = .ok next ->
      Exists fun created : Actor => next.actors = cast.actors ++ [created] ∧ created.id = fresh ∧
        created.color ∈ palette ∧
        ((Exists fun color => color ∈ palette ∧ color ∉ cast.colors) ->
          created.color ∉ cast.colors)) ∧
    forall (start : Cast) (edits : List CastEdit), start.actors ≠ [] -> start.colors.Nodup ->
      start.spread.isFinite = true -> (forall id, .spawn id ∈ edits -> id ∉ start.ids) ->
      (forall earlier, earlier <+: edits -> (start.after earlier).size ≤ 10) ->
      Colored start (start.after edits) ∧
        forall fresh, Exists fun next => (start.after edits).spawn fresh = .ok next := by
  refine ⟨?_, ?_⟩
  · intro cast next fresh spawned
    rcases spawn_colored spawned with ⟨_, created, actors, isFresh, free⟩
    exact ⟨created, actors, isFresh, freeColors_subset free, fun unused =>
      notMem_of_mem_freeColors unused free⟩
  · intro start edits inhabited distinct finite fresh few
    have colored := colored_after inhabited distinct edits fresh few
    exact ⟨colored, exists_spawn (by rw [colored.spread, finite])⟩

section Sample

/-- A cast of two actors, one of them in a colour that the palette does not have. -/
def samplePair : Cast :=
  .ofActors
    [.create ⟨Uuid.ofNat 1⟩ "Ink" (Pose.facing 0.0 0.0 90.0) "#000000",
      .create ⟨Uuid.ofNat 2⟩ "Sky" (Pose.facing 100.0 0.0 270.0) "#2196F3"] 7 100.0

def sampleTurnover : List CastEdit :=
  [.spawn ⟨Uuid.ofNat 3⟩, .place ⟨Uuid.ofNat 3⟩ 5.0 5.0 none, .spawn ⟨Uuid.ofNat 4⟩,
    .remove ⟨Uuid.ofNat 2⟩, .rename ⟨Uuid.ofNat 1⟩ "Night", .spawn ⟨Uuid.ofNat 5⟩, .reset]

theorem samplePair_stays_distinct :
    samplePair.actors ≠ [] ∧ samplePair.colors.Nodup ∧ samplePair.spread.isFinite = true ∧
      Colored samplePair (samplePair.after sampleTurnover) := by
  have inhabited : samplePair.actors ≠ [] := List.cons_ne_nil _ _
  have distinct : samplePair.colors.Nodup := by decide
  have finite : samplePair.spread.isFinite = true := by decide
  have fresh : forall id, .spawn id ∈ sampleTurnover -> id ∉ samplePair.ids := by
    intro id joins
    simp only [sampleTurnover, List.mem_cons, CastEdit.spawn.injEq, reduceCtorEq, false_or,
      List.not_mem_nil, or_false] at joins
    rcases joins with rfl | rfl | rfl <;> decide
  have few : forall earlier, earlier <+: sampleTurnover ->
      (samplePair.after earlier).size ≤ 10 := by
    intro earlier isPrefix
    have bound : (samplePair.after earlier).size ≤ 2 + earlier.length := size_after_le earlier
    have length : earlier.length ≤ 7 := isPrefix.length_le
    omega
  exact ⟨inhabited, distinct, finite,
    (joining_keeps_colors_distinct.2 samplePair sampleTurnover inhabited distinct finite fresh
      few).1⟩

end Sample

end Cast

end SpriteStage
