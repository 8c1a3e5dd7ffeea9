/-
Module: Narrative.World.Build
Purpose: A world in play from its definition: all expressions are read, and entities are numbered
  from the outside to the inside.
Main exports: BuildError, BuildError.message, BuildError.records, Model.World.build
-/
import Narrative.World.Change
import Narrative.World.Label

namespace Narrative

/-- Why a world cannot be built: a fault in an expression or a key, with the label of the node if
it is one of a node, or a start that is no location. -/
inductive BuildError where
  | compile (label? : Option String) (error : CompileError)
  | start (key : String)
deriving Repr, DecidableEq

namespace BuildError

/-- The error in words. -/
def message : BuildError → String
  | .compile _ error => error.message
  | .start key => (EvaluationError.unknownReference key .startLocation).message

/-- What is recorded about the error: a fault of a node, with its label. -/
def records : BuildError → List LogRecord
  | .compile (some label) error =>
    [⟨.error, .builder, "Cannot compile " ++ label ++ ": " ++ error.message⟩]
  | .compile none _ | .start _ => []

end BuildError

namespace Model

/-- What building a part of a world gives. -/
abbrev Building (α : Type) := Except BuildError α

/-! ### Nodes -/

/-- A passage of an entity with its expressions read, the requirement first. -/
def Passage.build (passage : Passage) (correlation : Correlation) (owner : Nat) (label : String) :
    Building Narrative.Passage := do
  let attributed {α : Type} (outcome : Except CompileError α) : Building α :=
    outcome.mapError (.compile (some label))
  let requirement? ← attributed (passage.requires?.mapM Requirement.parse)
  let impacts ← attributed (Impact.parseList passage.impact?)
  return {
    description? := passage.description?, requirement?, impacts, correlation,
    count := passage.evaluations, limit := passage.limit, owner }

mutual

/-- The node of a descriptor. -/
def Descriptor.build (owner : Nat) (label : String) : Descriptor → Building Node
  | ⟨passage, correlation, descriptors⟩ => do
    let passage ← passage.build correlation owner label
    return ⟨passage, ← Descriptor.buildAll owner label 0 descriptors⟩

/-- The nodes of the descriptors of something, from a position on. -/
def Descriptor.buildAll (owner : Nat) (label : String) :
    (position : Nat) → List Descriptor → Building (List Node)
  | _, [] => .ok []
  | position, descriptor :: rest => do
    let node ← Descriptor.build owner (Label.descriptor label position) descriptor
    return node :: (← Descriptor.buildAll owner label (position + 1) rest)

end

/-- The node of a passage with descriptors. -/
def Passage.buildNode (passage : Passage) (descriptors : List Descriptor) (owner : Nat)
    (label : String) : Building Node :=
  Descriptor.build owner label ⟨passage, .none, descriptors⟩

/-- An interaction of an entity. -/
def Interaction.build (owner : Nat) (label : String) (interaction : Interaction) :
    Building Narrative.Interaction := do
  let label := Label.interaction label interaction.name
  return ⟨interaction.name, ← interaction.passage.buildNode interaction.descriptors owner label⟩

/-- A combination of an entity. -/
def Combination.build (owner : Nat) (label : String) (combination : Combination) :
    Building Narrative.Combination := do
  let label := Label.combination label combination.item
  return ⟨combination.item, ← combination.passage.buildNode combination.descriptors owner label⟩

/-! ### Entities -/

/-- The tags that an author wrote. -/
def buildTags (written : Option TagText) : Building TagSet :=
  (TagSet.parse written).mapError (.compile none)

/-- A key that names one entity only; an empty key names none. -/
def checkKey (taken : List String) (key? : Option String) : Building Unit :=
  match key? with
  | some key => if key ≠ "" ∧ key ∈ taken then .error (.compile none (.duplicateKey key)) else .ok ()
  | none => .ok ()

/-- The key or, without one, the name. -/
def labelOf (key? : Option String) (name : String) : String :=
  (key?.filter (· ≠ "")).getD name

/-- The numbers of entities that stand before blocks of entities. -/
def firstNumbers (number : Nat) : List (List Entity) → List Nat
  | [] => []
  | block :: blocks => number :: firstNumbers (number + block.length) blocks

/-- The keys of entities. -/
def keysOf (entities : List Entity) : List String := entities.filterMap (·.lookupKey?)

mutual

/-- A location with all that is in it, as the list of its entities: the location itself, which gets
the given number, and then the blocks of the locations inside it. -/
def Location.build (parent? : Option Nat) (taken : List String) (number : Nat) :
    Location → Building (List Entity)
  | ⟨name, key?, tags?, passage, disableExit, descriptors, locations, interactions,
      combinations⟩ => do
    let label := Label.location (labelOf key? name)
    let tags ← buildTags tags?
    checkKey taken key?
    let node ← passage.buildNode descriptors number label
    let interactions ← interactions.mapM (Interaction.build number label)
    let combinations ← combinations.mapM (Combination.build number label)
    let blocks ← Location.buildAll (some number) (taken ++ key?.toList) (number + 1) locations
    let inside := firstNumbers (number + 1) blocks
    let place? := some { parent?, inside, interactions, disableExit }
    return { name, key?, tags, node, combinations, place? } :: blocks.flatten

/-- Locations one after the other, each with all that is in it. -/
def Location.buildAll (parent? : Option Nat) :
    (taken : List String) → (number : Nat) → List Location → Building (List (List Entity))
  | _, _, [] => .ok []
  | taken, number, location :: rest => do
    let block ← Location.build parent? taken number location
    return block ::
      (← Location.buildAll parent? (taken ++ keysOf block) (number + block.length) rest)

end

/-- An item. -/
def Item.build (taken : List String) (number : Nat) (item : Item) : Building Entity := do
  let label := Label.item (labelOf item.key? item.name)
  let tags ← buildTags item.tags?
  checkKey taken item.key?
  let node ← item.passage.buildNode item.descriptors number label
  let combinations ← item.combinations.mapM (Combination.build number label)
  return { name := item.name, key? := item.key?, tags, node, combinations, place? := none }

/-- Items one after the other. -/
def Item.buildAll : (taken : List String) → (number : Nat) → List Item → Building (List Entity)
  | _, _, [] => .ok []
  | taken, number, item :: rest => do
    let entity ← Item.build taken number item
    return entity :: (← Item.buildAll (taken ++ keysOf [entity]) (number + 1) rest)

/-! ### Worlds -/

/-- All entities of a world: the locations, and then the items. -/
def World.entities (world : World) : Building (List Entity) := do
  let locations := (← Location.buildAll none [] 0 world.locations).flatten
  return locations ++ (← Item.buildAll (keysOf locations) locations.length world.items)

/-- A world in play, with its listeners. The focus begins at the start, and the listeners are told
that it came there. -/
def World.build (world : World) (bus : Bus Handler) : Building Narrative.World := do
  let player ← buildTags world.player.tags?
  let inventory ← buildTags world.player.inventory?
  let built : Narrative.World := { entities := ← world.entities, player, inventory, focus := 0, bus }
  match built.resolveLocation? world.start with
  | none => .error (.start world.start)
  | some start =>
    let built := Narrative.World.emit (.focusChanged none start) { built with focus := start }
    return built.emit (.focusGained start)

end Model

end Narrative
