/-
Module: Narrative.Proofs.Engine.Screens
Purpose: What a command shows when it gets a reply. A reply that is neither a refusal nor the help text
  ends with a menu, which lists just the entries that the keys are looked up in from then on; and what
  was done to the world before is one of a few things.
Main exports: Menu, Engine.menu, Engine.menuText, Engine.answer, Engine.run_choose, World.Opens,
  Play.Shown, Play.shown_handle
-/
import Narrative.Proofs.Engine.Choices

namespace Narrative

/-! ### Menus and their texts -/

/-- A menu, with what stands under its keys: the options at a location, or items. -/
inductive Menu where
  | options (entries : List (Char × Choice))
  | items (entries : List (Char × Nat))

/-- What kinds of options there are, in the order in which they are shown. -/
inductive OptionKind where
  | interaction
  | inside
  | way
deriving DecidableEq

/-- The kind of an option. The way back has a key of its own. -/
def optionKind (entry : Char × Choice) : OptionKind :=
  match entry.2 with
  | .interaction .. => .interaction
  | .location _ => if entry.1 = 'x' then .way else .inside

/-- Options by kind. -/
def optionGroups (entries : List (Char × Choice)) : List (List (Char × Choice)) :=
  [OptionKind.interaction, .inside, .way].map fun kind => entries.filter (optionKind · = kind)

namespace Engine

/-- The menu that the keys of the player are looked up in. -/
def menu (engine : Engine) : Menu :=
  match engine.mode with
  | .explore _ => .options engine.options
  | .inventory _ | .combine _ => .items engine.items

/-- The line of an option: its key in brackets, of which the first is doubled, and its name. The way back
has its words in front of the name, and its key in upper case. -/
def optionLine (engine : Engine) (entry : Char × Choice) : String :=
  if entry.1 = 'x' then "[[X] " ++ (engine.exitName ++ " " ++ engine.nameOf entry.2)
  else "[[" ++ entry.1.toString ++ "] " ++ engine.nameOf entry.2

/-- The line of an item. -/
def itemLine (engine : Engine) (entry : Char × Nat) : String :=
  "[[" ++ entry.1.toString ++ "] " ++ engine.world.nameOf entry.2

/-- How a menu is shown: each entry has a line with its key and its name. Between the groups of options
that there are is an empty line; the items have a heading, and the way back below them. -/
def menuText (engine : Engine) : Menu → String
  | .options entries =>
    "[i]" ++ "\n".intercalate ([""].intercalate
      (((optionGroups entries).map (·.map engine.optionLine)).filter (! ·.isEmpty)))
  | .items entries =>
    "\n".intercalate (["[i]INVENTORY", ""] ++
      (if entries.isEmpty then ["You carry nothing."] else entries.map engine.itemLine) ++
      ["[[X] " ++ (engine.exitName ++ " " ++ engine.world.nameOf engine.world.focus)])

end Engine

/-! ### The texts of menus -/

theorem ne_exitKey_of_mem {key : Char} (member : key ∈ numberKeys ∨ key ∈ letterKeys) :
    key ≠ exitKey := by
  rintro rfl
  exact absurd member (by decide)

/-- Options of one kind are one of the groups. -/
theorem filter_optionKind {entries : List (Char × Choice)} {kind : OptionKind}
    (alike : ∀ entry ∈ entries, optionKind entry = kind) (other : OptionKind) :
    entries.filter (optionKind · = other) = if kind = other then entries else [] := by
  split
  next same =>
    rw [List.filter_eq_self]
    exact fun entry member => decide_eq_true ((alike entry member).trans same)
  next differs =>
    rw [List.filter_eq_nil_iff]
    intro entry member isOther
    exact differs ((alike entry member).symm.trans (of_decide_eq_true isOther))

/-- What the world offers falls into the groups that it is put together from. -/
theorem optionGroups_offered (world : World) :
    optionGroups world.offered =
      [numberKeys.zip ((world.openInteractions world.focus).map (.interaction world.focus ·)),
        letterKeys.zip ((world.openInside world.focus).map .location),
        (world.wayBack world.focus).map fun parent => (exitKey, .location parent)] := by
  have interactions : ∀ entry ∈ numberKeys.zip
      ((world.openInteractions world.focus).map (Choice.interaction world.focus ·)),
      optionKind entry = .interaction := by
    rintro ⟨key, choice⟩ member
    obtain ⟨position, _, rfl⟩ := List.mem_map.1 (List.of_mem_zip member).2
    rfl
  have inside : ∀ entry ∈ letterKeys.zip ((world.openInside world.focus).map Choice.location),
      optionKind entry = .inside := by
    rintro ⟨key, choice⟩ member
    obtain ⟨isLetter, placed⟩ := List.of_mem_zip member
    obtain ⟨number, _, rfl⟩ := List.mem_map.1 placed
    exact if_neg (ne_exitKey_of_mem (.inr isLetter))
  have ways : ∀ entry ∈ (world.wayBack world.focus).map fun parent =>
      (exitKey, Choice.location parent), optionKind entry = .way := by
    intro entry member
    obtain ⟨parent, _, rfl⟩ := List.mem_map.1 member
    rfl
  simp [optionGroups, World.offered_eq, List.filter_append, filter_optionKind interactions,
    filter_optionKind inside, filter_optionKind ways]

namespace Play

variable {engine after : Engine}

theorem map_optionLine {entries : List (Char × Choice)}
    (keys : ∀ entry ∈ entries, entry.1 ≠ exitKey) :
    entries.map engine.optionLine =
      entries.map fun (key, choice) => menuLine key.toString (engine.nameOf choice) :=
  List.map_congr_left fun entry member => if_neg (keys entry member)

/-- If the interactions and the locations inside can be found, the options are shown. -/
theorem exists_gives_describeOptions {positions numbers : List Nat}
    (interactions : engine.world.availableInteractions engine.world.focus = .ok positions)
    (inside : engine.world.availableInside engine.world.focus = .ok numbers) :
    ∃ text after, Gives describeOptions engine text after := by
  simp only [describeOptions, addOptions, optionLines, bind_assoc, pure_bind, gives_focus_bind,
    gives_modify_bind, gives_ask_bind, gives_get_bind, gives_pure]
  exact ⟨_, _, positions, interactions, numbers, inside, rfl, rfl⟩

/-- The options are shown as they are looked up. -/
theorem shows_describeOptions {text : String} (gives : Gives describeOptions engine text after) :
    after = { engine with options := engine.world.offered } ∧
      text = after.menuText (.options after.options) := by
  obtain rfl := gives_describeOptions gives
  refine ⟨rfl, ?_⟩
  simp only [describeOptions, addOptions, optionLines, bind_assoc, pure_bind, gives_focus_bind,
    gives_modify_bind, gives_ask_bind, gives_get_bind, gives_pure] at gives
  obtain ⟨positions, interactions, numbers, inside, shown, _⟩ := gives
  rw [World.availableInteractions_eq interactions, World.availableInside_eq inside] at shown
  have numbered : ∀ entry ∈ numberKeys.zip ((engine.world.openInteractions engine.world.focus).map
      (Choice.interaction engine.world.focus ·)), entry.1 ≠ exitKey := fun entry member =>
    ne_exitKey_of_mem (.inl (List.of_mem_zip member).1)
  have lettered : ∀ entry ∈ letterKeys.zip ((engine.world.openInside engine.world.focus).map
      Choice.location), entry.1 ≠ exitKey := fun entry member =>
    ne_exitKey_of_mem (.inr (List.of_mem_zip member).1)
  rw [← shown, Engine.menuText, optionGroups_offered, List.map_cons, List.map_cons, List.map_cons,
    map_optionLine numbered, map_optionLine lettered, List.map_map]
  rfl

theorem shows_describeInventory {text : String}
    (gives : Gives describeInventory engine text after) :
    after = { engine with items := engine.world.carried } ∧
      text = after.menuText (.items after.items) := by
  obtain rfl := gives_describeInventory gives
  refine ⟨rfl, ?_⟩
  simp only [describeInventory, gives_modify_bind, gives_ask_bind, gives_get_bind, gives_pure]
    at gives
  obtain ⟨items, held, shown, _⟩ := gives
  rw [← shown, World.availableItems_eq held]
  rfl

end Play

/-! ### Keys -/

/-- What is done with an item that is picked. -/
def Mode.deed : Mode → Nat → Deed
  | .combine selected, item => if item = selected then .examine selected else .combine selected item
  | .explore selected?, item | .inventory selected?, item =>
    if selected? = some item then .begin item else .examine item

namespace Engine

/-- What the engine does for a key: it looks the key up in the menu, and nowhere else. -/
def answer (engine : Engine) (key : Char) : Play Reply :=
  match engine.menu with
  | .options entries =>
    match entries.lookup key with
    | some choice => Play.choose choice
    | none => return .notAnOption key
  | .items entries =>
    match entries.lookup key with
    | some item => (engine.mode.deed item).action
    | none => return .notAnItem key

/-- A line that chooses a key is answered from the menu. -/
theorem run_choose {engine : Engine} {line : String} {key : Char}
    (parsed : Command.parse line = .ok (.choose key)) :
    (Play.handleLine line).run.run engine = (engine.answer key).run.run engine.received := by
  have items : engine.received.items = engine.items := rfl
  rw [run_handleLine parsed]
  unfold answer menu
  cases mode : engine.mode with
  | explore selected? =>
      dsimp only [Play.handleExplore]
      rw [Play.run_get_bind]
      rfl
  | inventory selected? =>
      dsimp only [Play.handleInventory, Mode.deed]
      rw [Play.run_get_bind, items]
      cases engine.items.lookup key with
      | none => rfl
      | some item =>
          dsimp only
          split <;> rfl
  | combine selected =>
      dsimp only [Play.handleCombine, Mode.deed]
      rw [Play.run_get_bind, items]
      cases engine.items.lookup key with
      | none => rfl
      | some item =>
          dsimp only
          split <;> rfl

/-- What is done with an item that a line picks. -/
theorem deed?_of_found {engine : Engine} {line : String} {key : Char} {item : Nat}
    (parsed : Command.parse line = .ok (.choose key)) (among : engine.menu = .items engine.items)
    (found : engine.items.lookup key = some item) :
    engine.deed? line = some (engine.mode.deed item) := by
  unfold menu at among
  unfold deed?
  cases mode : engine.mode with
  | explore => simp [mode] at among
  | inventory | combine => simp [parsed, found, Mode.deed]

end Engine

/-! ### What a command shows -/

/-- What a command does to the world before it shows a location or a menu, and the text that it puts in
front: nothing, or it enters a location, or it tells a node, whose text may be empty. -/
inductive World.Opens (world : World) : String → World → Prop
  | plain : Opens world "" world
  | enters (location : Nat) : Opens world "" (world.setFocus location)
  | tells {path : NodePath} {response : String} {after : World}
      (told : world.evaluate path true = (after, .ok response)) :
      Opens world ("[n]" ++ response ++ "\n\n") after
  | silent {path : NodePath} {after : World} (told : world.evaluate path true = (after, .ok "")) :
      Opens world "" after

namespace Play

/-- What a command shows that gets a reply, and the engine after it. It is refused, or asks for help;
or it ends with a menu, and then the focus has stayed where it was, or an item is looked at; or it
describes the location where the focus is, and what it leads to, and ends with the options there. -/
inductive Shown (engine : Engine) (command : Command) : Reply → Engine → Prop
  | refused {reply : Reply} (invalid : reply.status = .invalid) : Shown engine command reply engine
  | helped (asked : command = .help) : Shown engine command (.ok helpText) engine
  | stays {reply : Reply} {after : Engine} {said : String} (opening : String)
      (opens : engine.world.Opens said after.world) (still : after.world.focusMoved = false)
      (valid : reply.status ≠ .invalid)
      (message : reply.message = opening ++ after.menuText after.menu) :
      Shown engine command reply after
  | examines {key : Char} {item : Nat} {text : String} {after : Engine}
      (chosen : command = .choose key) (among : engine.menu = .items engine.items)
      (found : engine.items.lookup key = some item)
      (deed : engine.mode.deed item = .examine item) (mode : after.mode = .inventory (some item))
      (told : engine.world.evaluate ⟨item, .body, []⟩ true = (after.world, .ok text)) :
      Shown engine command (.told text (after.menuText (.items after.items))) after
  | tours {begun between : Engine} {opening : String} {selected? : Option Nat} {counts : Bool}
      {lines : List String} (opens : engine.world.Opens opening begun.world)
      (mode : begun.mode = .explore selected?)
      (described : Gives (describeFrom counts begun.world.focus
        ((List.range begun.world.entities.length).erase begun.world.focus)) begun lines between)
      {after : Engine} (ends : after = { between with options := between.world.offered }) :
      Shown engine command
        (.ok (opening ++ joinLines (lines ++ [after.menuText (.options after.options)]))) after

variable {engine begun after : Engine} {command : Command} {reply : Reply}

theorem gives_evaluate_bind {α : Type} {path : NodePath} {counts : Bool} {next : String → Play α}
    {value : α} :
    Gives (evaluate path counts >>= next) engine value after ↔
      ∃ response world, engine.world.evaluate path counts = (world, .ok response) ∧
        Gives (next response) { engine with world } value after := by
  rw [evaluate, gives_change_bind]
  constructor
  · rintro ⟨response, told, gives⟩
    exact ⟨response, _, Prod.ext rfl told, gives⟩
  · rintro ⟨response, world, told, gives⟩
    rw [told]
    exact ⟨response, rfl, gives⟩

/-- The last of some lines stands at the end. -/
theorem joinLines_append (lines : List String) (line : String) :
    ∃ opening, joinLines (lines ++ [line]) = opening ++ line := by
  unfold joinLines
  by_cases none : lines = []
  · exact ⟨"", by rw [none, List.nil_append, String.intercalate_singleton, String.empty_append]⟩
  · rw [String.intercalate_append_of_ne_nil none (List.cons_ne_nil line []),
      String.intercalate_singleton]
    exact ⟨_, rfl⟩

/-- Whatever the mode, a description ends with the options. -/
theorem shows_describeLocation {counts : Bool} {text : String}
    (gives : Gives (describeLocation counts) engine text after) :
    (∃ world, after = { engine with world, options := world.offered }) ∧
      ∃ opening, text = opening ++ after.menuText (.options after.options) := by
  refine ⟨gives_describeLocation gives, ?_⟩
  rw [describeLocation, gives_get_bind, gives_bind] at gives
  obtain ⟨lines, between, _, rest⟩ := gives
  obtain ⟨options, shows, rfl⟩ := gives_returning.1 rest
  obtain ⟨_, rfl⟩ := shows_describeOptions shows
  exact joinLines_append lines _

/-- Whatever was said before, a location is described and its options are shown. -/
theorem shown_describeLocation {opening text : String} {selected? : Option Nat} {counts : Bool}
    (gives : Gives (describeLocation counts) begun text after)
    (mode : begun.mode = .explore selected?) (opens : engine.world.Opens opening begun.world) :
    Shown engine command (.ok (opening ++ text)) after := by
  rw [describeLocation, gives_get_bind, gives_bind] at gives
  obtain ⟨lines, between, described, rest⟩ := gives
  obtain ⟨options, shows, rfl⟩ := gives_returning.1 rest
  obtain ⟨ends, rfl⟩ := shows_describeOptions shows
  exact .tours opens mode described ends

/-- A location is described with nothing said before. -/
theorem shown_location {selected? : Option Nat} {counts : Bool}
    (gives : Gives (do return Reply.ok (← describeLocation counts)) begun reply after)
    (mode : begun.mode = .explore selected?) (opens : engine.world.Opens "" begun.world) :
    Shown engine command reply after := by
  obtain ⟨text, shows, rfl⟩ := gives_returning.1 gives
  rw [← String.empty_append (s := text)]
  exact shown_describeLocation shows mode opens

/-- The options are shown again, since the focus has not moved. -/
theorem shown_options {opening said text : String} {selected? : Option Nat}
    (gives : Gives describeOptions begun text after) (mode : begun.mode = .explore selected?)
    (opens : engine.world.Opens said begun.world) (still : begun.world.focusMoved = false)
    (valid : reply.status ≠ .invalid) (message : reply.message = opening ++ text) :
    Shown engine command reply after := by
  obtain ⟨rfl, rfl⟩ := shows_describeOptions gives
  refine .stays opening opens still valid ?_
  rw [message]
  simp only [Engine.menu, mode]

/-- The items are shown, and the focus has not moved. -/
theorem shown_items {opening said text : String} (gives : Gives describeInventory begun text after)
    (among : begun.menu = .items begun.items) (opens : engine.world.Opens said begun.world)
    (still : begun.world.focusMoved = false) (valid : reply.status ≠ .invalid)
    (message : reply.message = opening ++ text) : Shown engine command reply after := by
  obtain ⟨rfl, rfl⟩ := shows_describeInventory gives
  refine .stays opening opens still valid ?_
  rw [message]
  unfold Engine.menu at among ⊢
  cases mode : begun.mode with
  | explore => simp [mode] at among
  | inventory | combine => rfl

theorem shown_choose {choice : Choice} {selected? : Option Nat}
    (mode : engine.mode = .explore selected?) (gives : Gives (choose choice) engine reply after) :
    Shown engine command reply after := by
  cases choice with
  | location number =>
      rw [choose, setFocus, gives_change_bind] at gives
      obtain ⟨_, _, gives⟩ := gives
      exact shown_location gives mode (.enters number)
  | interaction location position =>
      rw [choose, gives_evaluate_bind] at gives
      obtain ⟨response, world, told, gives⟩ := gives
      rw [gives_focusMoved_bind] at gives
      split at gives
      next moved =>
        obtain ⟨text, shows, rfl⟩ := gives_returning.1 gives
        exact shown_describeLocation shows mode (.tells told)
      next still =>
        have still : world.focusMoved = false := Bool.not_eq_true _ ▸ still
        split at gives
        next empty =>
          have told : engine.world.evaluate _ true = (world, .ok "") :=
            told.trans (by rw [String.isEmpty_iff.1 empty])
          obtain ⟨text, shows, rfl⟩ := gives_returning.1 gives
          exact shown_options shows mode (.silent told) still (by simp [Reply.noEffect])
            String.empty_append.symm
        next =>
          obtain ⟨text, shows, rfl⟩ := gives_returning.1 gives
          exact shown_options shows mode (.tells told) still (by simp [Reply.told, Reply.ok]) rfl

/-- What stands under a key is chosen, or the key is refused. -/
theorem shown_chooseOption {selected? : Option Nat} (mode : engine.mode = .explore selected?)
    {key : Char} {refusal : Reply} (refuses : refusal.status = .invalid)
    (gives : Gives (do
      match (← get).options.lookup key with
      | some choice => choose choice
      | none => return refusal) engine reply after) : Shown engine command reply after := by
  rw [gives_get_bind] at gives
  split at gives
  · exact shown_choose mode gives
  · obtain ⟨rfl, rfl⟩ := gives_pure.1 gives
    exact .refused refuses

/-! ### The modes -/

/-- The items are listed, with nothing said before. -/
theorem shown_list (gives : Gives (do return Reply.ok (← describeInventory)) begun reply after)
    (same : begun.world = engine.world) (still : engine.world.focusMoved = false)
    (among : begun.menu = .items begun.items) : Shown engine command reply after := by
  obtain ⟨text, shows, rfl⟩ := gives_returning.1 gives
  have opens : engine.world.Opens "" begun.world := by
    rw [same]
    exact .plain
  exact shown_items shows among opens (same ▸ still) (by simp [Reply.ok]) String.empty_append.symm

theorem shown_askPartner {item : Nat} (gives : Gives (askPartner item) begun reply after)
    (same : begun.world = engine.world) (still : engine.world.focusMoved = false)
    (among : begun.menu = .items begun.items) : Shown engine command reply after := by
  rw [askPartner, gives_get_bind] at gives
  obtain ⟨text, shows, rfl⟩ := gives_returning.1 gives
  have opens : engine.world.Opens "" begun.world := by
    rw [same]
    exact .plain
  exact shown_items shows among opens (same ▸ still) (by simp [Reply.ok]) rfl

theorem shown_examine {key : Char} {item : Nat} (chosen : command = .choose key)
    (among : engine.menu = .items engine.items) (found : engine.items.lookup key = some item)
    (deed : engine.mode.deed item = .examine item)
    (gives : Gives (Deed.examine item).action engine reply after) :
    Shown engine command reply after := by
  rw [Deed.action, gives_setMode_bind, examine, gives_evaluate_bind] at gives
  obtain ⟨response, world, told, gives⟩ := gives
  obtain ⟨text, shows, rfl⟩ := gives_returning.1 gives
  obtain ⟨rfl, rfl⟩ := shows_describeInventory shows
  exact .examines chosen among found deed rfl told

theorem shown_combineWith {selected other : Nat}
    (gives : Gives (combineWith selected other) engine reply after)
    (still : engine.world.focusMoved = false) : Shown engine command reply after := by
  rw [combineWith, gives_setMode_bind, gives_ask_bind] at gives
  obtain ⟨path?, _, gives⟩ := gives
  split at gives
  next =>
    obtain ⟨text, shows, rfl⟩ := gives_returning.1 gives
    exact shown_items shows rfl .plain still (by simp [Reply.noEffect]) rfl
  next path =>
    rw [gives_evaluate_bind] at gives
    obtain ⟨response, world, told, gives⟩ := gives
    rw [gives_focusMoved_bind] at gives
    split at gives
    next moved =>
      rw [gives_setMode_bind] at gives
      obtain ⟨text, shows, rfl⟩ := gives_returning.1 gives
      exact shown_describeLocation shows rfl (.tells told)
    next unmoved =>
      have still : world.focusMoved = false := Bool.not_eq_true _ ▸ unmoved
      obtain ⟨text, shows, rfl⟩ := gives_returning.1 gives
      exact shown_items shows rfl (.tells told) still (by simp [Reply.told, Reply.ok]) rfl

theorem shown_handleExplore {selected? : Option Nat} (mode : engine.mode = .explore selected?)
    (still : engine.world.focusMoved = false)
    (gives : Gives (handleExplore command) engine reply after) : Shown engine command reply after := by
  cases command with
  | help =>
      obtain ⟨rfl, rfl⟩ := gives_pure.1 gives
      exact .helped rfl
  | look => exact shown_location gives mode .plain
  | inventory =>
      rw [handleExplore, gives_setMode_bind] at gives
      exact shown_list gives rfl still rfl
  | back => exact shown_chooseOption mode rfl gives
  | choose key => exact shown_chooseOption mode rfl gives

theorem shown_handleInventory {selected? : Option Nat} (mode : engine.mode = .inventory selected?)
    (still : engine.world.focusMoved = false)
    (gives : Gives (handleInventory selected? command) engine reply after) :
    Shown engine command reply after := by
  have among : engine.menu = .items engine.items := by rw [Engine.menu, mode]
  cases command with
  | help =>
      obtain ⟨rfl, rfl⟩ := gives_pure.1 gives
      exact .helped rfl
  | back =>
      rw [handleInventory, gives_setMode_bind] at gives
      exact shown_location gives rfl .plain
  | look | inventory => exact shown_list gives rfl still among
  | choose key =>
      rw [handleInventory, gives_get_bind] at gives
      split at gives
      next =>
        obtain ⟨rfl, rfl⟩ := gives_pure.1 gives
        exact .refused rfl
      next item found =>
        split at gives
        next =>
          rw [gives_setMode_bind] at gives
          exact shown_askPartner gives rfl still rfl
        next other =>
          exact shown_examine rfl among found (by simp [mode, Mode.deed, other]) gives

theorem shown_handleCombine {selected : Nat} (mode : engine.mode = .combine selected)
    (still : engine.world.focusMoved = false)
    (gives : Gives (handleCombine selected command) engine reply after) :
    Shown engine command reply after := by
  have among : engine.menu = .items engine.items := by rw [Engine.menu, mode]
  cases command with
  | help =>
      obtain ⟨rfl, rfl⟩ := gives_pure.1 gives
      exact .helped rfl
  | look | inventory => exact shown_askPartner gives rfl still among
  | back =>
      rw [handleCombine, gives_focus_bind] at gives
      exact shown_combineWith gives still
  | choose key =>
      rw [handleCombine, gives_get_bind] at gives
      split at gives
      next =>
        obtain ⟨rfl, rfl⟩ := gives_pure.1 gives
        exact .refused rfl
      next item found =>
        split at gives
        next same =>
          subst same
          exact shown_examine rfl among found (by simp [mode, Mode.deed]) gives
        next => exact shown_combineWith gives still

/-- Every command that gets a reply shows what it has done. -/
theorem shown_handle (gives : Gives (handle command) engine reply after) :
    Shown engine.received command reply after := by
  rw [handle, gives_modify_bind, gives_get_bind] at gives
  split at gives
  next selected? mode => exact shown_handleExplore mode rfl gives
  next selected? mode => exact shown_handleInventory mode rfl gives
  next selected mode => exact shown_handleCombine mode rfl gives

/-- What is shown ends with the menu that the keys are looked up in from then on, unless it is a refusal
or the help text, and then nothing has changed. -/
theorem Shown.message_cases (shown : Shown engine command reply after) :
    ((reply.status = .invalid ∨ command = .help) ∧ after = engine) ∨
      (reply.status ≠ .invalid ∧
        ∃ opening, reply.message = opening ++ after.menuText after.menu) := by
  cases shown with
  | refused invalid => exact .inl ⟨.inl invalid, rfl⟩
  | helped asked => exact .inl ⟨.inr asked, rfl⟩
  | stays opening _ _ valid message => exact .inr ⟨valid, opening, message⟩
  | @examines _ _ text _ _ _ _ _ mode _ =>
      refine .inr ⟨by simp [Reply.told, Reply.ok], "[n]" ++ text ++ "\n\n", ?_⟩
      simp only [Engine.menu, mode]
      rfl
  | @tours begun between opening _ _ lines _ mode described _ ends =>
      obtain ⟨world, rfl⟩ := gives_describeFrom described
      obtain ⟨before, message⟩ := joinLines_append lines (after.menuText (.options after.options))
      have menu : after.menu = .options after.options := by simp [ends, Engine.menu, mode]
      refine .inr ⟨by simp [Reply.ok], opening ++ before, ?_⟩
      rw [menu, String.append_assoc, ← message]
      rfl

/-- Help changes nothing but that the engine has received a command. -/
theorem gives_handle_help (gives : Gives (handle .help) engine reply after) :
    after = engine.received := by
  rw [handle, gives_modify_bind, gives_get_bind] at gives
  split at gives <;> exact (gives_pure.1 gives).2.symm

end Play

end Narrative
